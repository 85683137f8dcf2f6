import RbgPlanner.Base.PyFloat

/-!
# Numbers as text

Go prints numbers and booleans with `strconv.Itoa`, `%.1f` and
`strconv.FormatBool`; Python reads them back with `int`, `float` and a
comparison in lower case. Each printer is a left inverse of its reader, the
one for floats up to rounding to one decimal.
-/

namespace RbgPlanner.Base.NumberText

open Rounding

/-! ## Printing -/

/-- `strconv.Itoa`. -/
def itoa (n : ℤ) : String := toString n

/-- `fmt.Sprintf("%.1f", q)`. -/
def fixedOne (q : ℚ) : String :=
  let tenths := (roundHalfEven (q * 10)).natAbs
  (if q < 0 then "-" else "") ++ toString (tenths / 10) ++ "." ++ toString (tenths % 10)

/-- `strconv.FormatBool`. -/
def formatBool (b : Bool) : String := if b then "true" else "false"

/-! ## Reading -/

/-- The longest prefix of ASCII digits and what follows it. A single
underscore between two digits is skipped. -/
def readDigits : Bool → List Char → List Char × List Char
  | _, [] => ([], [])
  | afterDigit, c :: cs =>
      if c.isDigit then
        let tail := readDigits true cs
        (c :: tail.1, tail.2)
      else if afterDigit && c == '_' && cs.head?.any Char.isDigit then readDigits false cs
      else ([], c :: cs)

/-- An optional sign; true for a minus. -/
def readSign : List Char → Bool × List Char
  | '-' :: cs => (true, cs)
  | '+' :: cs => (false, cs)
  | cs => (false, cs)

def applySign (negative : Bool) (n : ℤ) : ℤ := if negative then -n else n

def digitsValue (ds : List Char) : ℤ := Nat.ofDigitChars 10 ds 0

/-- `str.strip`. -/
def strip (cs : List Char) : List Char :=
  ((cs.dropWhile Char.isWhitespace).reverse.dropWhile Char.isWhitespace).reverse

/-- A signed run of digits up to the end. -/
def readSignedDigits (cs : List Char) : Option ℤ :=
  match readDigits false (readSign cs).2 with
  | (d :: ds, []) => some (applySign (readSign cs).1 (digitsValue (d :: ds)))
  | _ => none

/-- The built-in `int` on a string. -/
def pyInt (s : String) : Except PyExc ℤ :=
  match readSignedDigits (strip s.toList) with
  | some n => .ok n
  | none => .error .valueError

/-- `strconv.Atoi`: ASCII digits with an optional sign, within 64 bits. -/
def atoi (s : String) : Option ℤ :=
  let signed := readSign s.toList
  let n := applySign signed.1 (digitsValue signed.2)
  if signed.2 ≠ [] ∧ signed.2.all Char.isDigit ∧ -2 ^ 63 ≤ n ∧ n < 2 ^ 63 then some n else none

/-- An optional exponent up to the end. -/
def readExponent : List Char → Option ℤ
  | [] => some 0
  | 'e' :: cs => readSignedDigits cs
  | 'E' :: cs => readSignedDigits cs
  | _ => none

/-- The fractional digits after a point, if there is one. -/
def readFraction : List Char → List Char × List Char
  | '.' :: cs => readDigits false cs
  | cs => ([], cs)

/-- An unsigned decimal number with optional fraction and exponent. -/
def readDecimal (cs : List Char) : Option ℚ :=
  let whole := readDigits false cs
  let fraction := readFraction whole.2
  if whole.1 = [] ∧ fraction.1 = [] then none
  else (readExponent fraction.2).map fun e =>
    digitsValue (whole.1 ++ fraction.1) / 10 ^ fraction.1.length * 10 ^ e

/-- The built-in `float` on a string. -/
def pyFloat (s : String) : Except PyExc PyFloat :=
  let signed := readSign (strip s.toList)
  let word := String.ofList (signed.2.map Char.toLower)
  if word = "inf" ∨ word = "infinity" then .ok (if signed.1 then .negInf else .posInf)
  else if word = "nan" then .ok .nan
  else match readDecimal signed.2 with
    | some q => .ok (.fin (if signed.1 then -q else q))
    | none => .error .valueError

/-- `s.lower() == "true"`. -/
def isTrueWord (s : String) : Bool :=
  String.ofList (s.toList.map Char.toLower) == "true"

/-! ## Reading back what was printed -/

theorem readDigits_append (rest : List Char) {ds : List Char} (hds : ∀ c ∈ ds, c.isDigit)
    (hrest : ∀ c ∈ rest.head?, c.isDigit = false ∧ c ≠ '_') (b : Bool) :
    readDigits b (ds ++ rest) = (ds, rest) := by
  induction ds generalizing b with
  | nil =>
      cases rest with
      | nil => rfl
      | cons c cs =>
          obtain ⟨hdigit, hunder⟩ := hrest c (by simp)
          simp [readDigits, hdigit, hunder]
  | cons d ds ih =>
      have hd : d.isDigit := hds d (by simp)
      have htail := ih (fun c hc => hds c (by simp [hc])) true
      simp [readDigits, hd, htail]

theorem readDigits_all {ds : List Char} (hds : ∀ c ∈ ds, c.isDigit) (b : Bool) :
    readDigits b ds = (ds, []) := by
  simpa using readDigits_append [] hds (by simp) b

theorem isDigit_ne {c d : Char} (hc : c.isDigit) (hd : d.isDigit = false) : c ≠ d := by
  rintro rfl
  rw [hd] at hc
  exact absurd hc (by decide)

theorem isWhitespace_of_isDigit {c : Char} (h : c.isDigit) : c.isWhitespace = false := by
  have hne : ∀ d : Char, d.isDigit = false → c ≠ d := fun d hd => isDigit_ne h hd
  simp [Char.isWhitespace, hne ' ' (by decide), hne '\t' (by decide), hne '\r' (by decide),
    hne '\n' (by decide)]

theorem strip_eq_self {cs : List Char} (h : ∀ c ∈ cs, c.isWhitespace = false) :
    strip cs = cs := by
  have keep : ∀ l : List Char, (∀ c ∈ l, c.isWhitespace = false) →
      l.dropWhile Char.isWhitespace = l := by
    intro l hl
    cases l with
    | nil => rfl
    | cons c l => simp [hl c (by simp)]
  rw [strip, keep cs h, keep cs.reverse (by simpa using h), List.reverse_reverse]

theorem readSign_of_digit {c : Char} {cs : List Char} (h : c.isDigit) :
    readSign (c :: cs) = (false, c :: cs) := by
  have hm := isDigit_ne h (d := '-') (by decide)
  have hp := isDigit_ne h (d := '+') (by decide)
  unfold readSign
  split <;> simp_all

section Digits

variable (n : ℕ)

theorem isDigit_toDigits : ∀ c ∈ Nat.toDigits 10 n, c.isDigit := fun _ hc =>
  Nat.isDigit_of_mem_toDigits (by decide) (by decide) hc

@[simp] theorem digitsValue_toDigits : digitsValue (Nat.toDigits 10 n) = n := by
  simp [digitsValue]

/-- The digits of a number are a first digit followed by digits. -/
theorem toDigits_eq_cons : ∃ d ds, Nat.toDigits 10 n = d :: ds ∧ d.isDigit := by
  cases h : Nat.toDigits 10 n with
  | nil => exact absurd h Nat.toDigits_ne_nil
  | cons d ds => exact ⟨d, ds, rfl, isDigit_toDigits n d (by simp [h])⟩

theorem readSign_toDigits (rest : List Char) :
    readSign (Nat.toDigits 10 n ++ rest) = (false, Nat.toDigits 10 n ++ rest) := by
  obtain ⟨d, ds, he, hd⟩ := toDigits_eq_cons n
  rw [he]
  exact readSign_of_digit hd

end Digits

theorem toList_itoa (n : ℤ) :
    (itoa n).toList = (if n < 0 then ['-'] else []) ++ Nat.toDigits 10 n.natAbs := by
  rw [itoa, Int.toString_eq_repr, Int.repr_eq_if]
  by_cases h : n < 0
  · have hnat : (-n).toNat = n.natAbs := by omega
    rw [if_neg (not_le.mpr h), if_pos h, hnat]
    simp
  · have hnat : n.toNat = n.natAbs := by omega
    rw [if_pos (not_lt.mp h), if_neg h, hnat]
    simp

/-- `int` reads back what `strconv.Itoa` prints. -/
@[simp] theorem pyInt_itoa (n : ℤ) : pyInt (itoa n) = .ok n := by
  obtain ⟨d, ds, he, hd⟩ := toDigits_eq_cons n.natAbs
  have hdigits := isDigit_toDigits n.natAbs
  have hstrip : strip (itoa n).toList = (itoa n).toList := by
    apply strip_eq_self
    intro c hc
    rw [toList_itoa] at hc
    rcases List.mem_append.mp hc with hc | hc
    · split_ifs at hc
      · rw [List.mem_singleton.mp hc]
        decide
      · exact absurd hc (by simp)
    · exact isWhitespace_of_isDigit (hdigits c hc)
  have hread := readDigits_all hdigits false
  have hvalue := digitsValue_toDigits n.natAbs
  rw [he] at hread hvalue
  rw [pyInt, hstrip, toList_itoa, he]
  by_cases hn : n < 0
  · simp [readSignedDigits, readSign, hn, hread, hvalue, applySign, abs_of_neg hn]
  · simp [readSignedDigits, readSign_of_digit hd, hn, hread, hvalue, applySign,
      abs_of_nonneg (not_lt.mp hn)]

theorem toList_fixedOne (q : ℚ) :
    (fixedOne q).toList = (if q < 0 then ['-'] else []) ++
      (Nat.toDigits 10 ((roundHalfEven (q * 10)).natAbs / 10) ++
        '.' :: Nat.toDigits 10 ((roundHalfEven (q * 10)).natAbs % 10)) := by
  unfold fixedOne
  split_ifs <;> simp

/-- A whole part, a point and one digit read as the number of tenths over ten. -/
theorem readDecimal_tenths (m : ℕ) :
    readDecimal (Nat.toDigits 10 (m / 10) ++ '.' :: Nat.toDigits 10 (m % 10)) =
      some ((m : ℚ) / 10) := by
  have hwhole := readDigits_append ('.' :: Nat.toDigits 10 (m % 10))
    (isDigit_toDigits (m / 10)) (by simp) false
  have hfraction := readDigits_all (isDigit_toDigits (m % 10)) false
  have hlast : Nat.toDigits 10 (m % 10) = [(m % 10).digitChar] :=
    Nat.toDigits_of_lt_base (Nat.mod_lt m (by decide))
  have hvalue : digitsValue (Nat.toDigits 10 (m / 10) ++ Nat.toDigits 10 (m % 10)) = m := by
    rw [digitsValue, hlast, Nat.ofDigitChars_append, Nat.ofDigitChars_ten_toDigits,
      Nat.ofDigitChars_cons_digitChar_of_lt_ten (Nat.mod_lt m (by decide)),
      Nat.ofDigitChars_nil]
    omega
  have hne : Nat.toDigits 10 (m / 10) ≠ [] := Nat.toDigits_ne_nil
  simp only [readDecimal, hwhole, readFraction, hfraction, hvalue, hne, false_and, if_false,
    readExponent, Option.map_some]
  simp [hlast]

/-- `%.1f` prints a sign, digits and a point. -/
theorem mem_fixedOne {q : ℚ} {c : Char} (h : c ∈ (fixedOne q).toList) :
    c = '-' ∨ c = '.' ∨ c.isDigit := by
  rw [toList_fixedOne] at h
  rcases List.mem_append.mp h with hsign | hnumber
  · split_ifs at hsign <;> simp_all
  · rcases List.mem_append.mp hnumber with hwhole | hrest
    · exact .inr (.inr (isDigit_toDigits _ c hwhole))
    · rcases List.mem_cons.mp hrest with hpoint | hdigit
      · exact .inr (.inl hpoint)
      · exact .inr (.inr (isDigit_toDigits _ c hdigit))

theorem strip_fixedOne (q : ℚ) : strip (fixedOne q).toList = (fixedOne q).toList := by
  apply strip_eq_self
  intro c hc
  rcases mem_fixedOne hc with rfl | rfl | hdigit
  · decide
  · decide
  · exact isWhitespace_of_isDigit hdigit

theorem readSign_fixedOne (q : ℚ) :
    readSign (fixedOne q).toList = (decide (q < 0),
      Nat.toDigits 10 ((roundHalfEven (q * 10)).natAbs / 10) ++
        '.' :: Nat.toDigits 10 ((roundHalfEven (q * 10)).natAbs % 10)) := by
  rw [toList_fixedOne]
  by_cases hq : q < 0
  · simp [hq, readSign]
  · simpa [hq] using readSign_toDigits _ ('.' :: _)

/-- Sign and tenths make up the rounded number. -/
theorem signed_tenths_eq (q : ℚ) :
    (if q < 0 then -(((roundHalfEven (q * 10)).natAbs : ℚ) / 10)
      else ((roundHalfEven (q * 10)).natAbs : ℚ) / 10) = roundTo 1 q := by
  have hcast : ((roundHalfEven (q * 10)).natAbs : ℚ) = |(roundHalfEven (q * 10) : ℚ)| := by
    push_cast [Nat.cast_natAbs]
    rfl
  rw [hcast, roundTo, pow_one]
  by_cases hq : q < 0
  · have hle : roundHalfEven (q * 10) ≤ 0 := roundHalfEven_le_of_le (by push_cast; linarith)
    have hle : (roundHalfEven (q * 10) : ℚ) ≤ 0 := by exact_mod_cast hle
    rw [if_pos hq, abs_of_nonpos hle]
    ring
  · have hle : 0 ≤ roundHalfEven (q * 10) := le_roundHalfEven_of_le (by push_cast; linarith)
    have hle : 0 ≤ (roundHalfEven (q * 10) : ℚ) := by exact_mod_cast hle
    rw [if_neg hq, abs_of_nonneg hle]

/-- `float` reads back what `%.1f` prints: the number rounded to one decimal. -/
@[simp] theorem pyFloat_fixedOne (q : ℚ) : pyFloat (fixedOne q) = .ok (.fin (roundTo 1 q)) := by
  have hsize := signed_tenths_eq q
  have hvalue := readDecimal_tenths (roundHalfEven (q * 10)).natAbs
  have hsign := readSign_fixedOne q
  generalize (roundHalfEven (q * 10)).natAbs = m at hsize hvalue hsign
  -- a text with a point is none of the words for infinities and NaN
  have hword : ∀ w : String, '.' ∉ w.toList →
      String.ofList ((Nat.toDigits 10 (m / 10) ++ '.' :: Nat.toDigits 10 (m % 10)).map
        Char.toLower) ≠ w := by
    rintro w hw rfl
    apply hw
    rw [String.toList_ofList]
    exact List.mem_map.mpr ⟨'.', by simp, by decide⟩
  simp only [pyFloat, strip_fixedOne, hsign]
  rw [if_neg (not_or.mpr ⟨hword _ (by decide), hword _ (by decide)⟩),
    if_neg (hword _ (by decide)), hvalue]
  simp [hsize]

@[simp] theorem isTrueWord_formatBool (b : Bool) : isTrueWord (formatBool b) = b := by
  cases b <;> decide

end RbgPlanner.Base.NumberText

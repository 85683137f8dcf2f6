import Mathlib.Data.List.Basic

/-!
# PromQL label selectors

A selector is a list of label matchers between braces. It is read one character
after the other, and the state of the reader is the matchers that are closed
and the place in the one being read. A literal between double or single quotes
has backslash escapes and ends at the first quote outside an escape, and a line
break is an error inside it. Between backquotes every character stands for
itself. An escape can stand for a byte, so a value is a list of bytes.

## Main statements

- `matchers_run`: a matcher that is closed stays in every later state.
- `parse_quoted_iff`: a text put between double quotes as it is reads as one
  matcher with that text exactly when no character of it is special.
-/

namespace RbgPlanner.Base.PromSelector

/-- The operator of a label matcher. -/
inductive MatchOp
  | equal
  | notEqual
  | regex
  | notRegex
  deriving DecidableEq, Repr

/-- A label matcher, with the bytes of its value. -/
structure Matcher where
  label : List Char
  op : MatchOp
  value : List UInt8
  deriving DecidableEq, Repr

/-! ## Escapes -/

/-- An escape that gives a code in digits: a byte, or a character in four or eight digits. -/
inductive NumericEscape
  | octal
  | hex
  | short
  | long
  deriving DecidableEq, Repr

namespace NumericEscape

def base : NumericEscape → ℕ
  | octal => 8
  | _ => 16

/-- The characters the escape is written with, the backslash included. -/
def width : NumericEscape → ℕ
  | octal => 4
  | hex => 4
  | short => 6
  | long => 10

/-- The bytes a code stands for, unless it is out of range. -/
def bytes (e : NumericEscape) (code : ℕ) : Option (List UInt8) :=
  match e with
  | octal | hex => if code < 256 then some [UInt8.ofNat code] else none
  | short | long =>
      if code.isValidChar then some (String.utf8EncodeChar (Char.ofNat code)) else none

end NumericEscape

def digitOf (base : ℕ) (c : Char) : Option ℕ :=
  let digit :=
    if '0' ≤ c ∧ c ≤ '9' then c.toNat - '0'.toNat
    else if 'a' ≤ c ∧ c ≤ 'f' then c.toNat - 'a'.toNat + 10
    else if 'A' ≤ c ∧ c ≤ 'F' then c.toNat - 'A'.toNat + 10
    else base
  if digit < base then some digit else none

/-- The escapes that are a letter or a backslash. -/
def simpleEscape : Char → Option UInt8
  | 'a' => some 7
  | 'b' => some 8
  | 't' => some 9
  | 'n' => some 10
  | 'v' => some 11
  | 'f' => some 12
  | 'r' => some 13
  | '\\' => some 92
  | _ => none

/-- Where the reader is in a literal. After the next digit of a code there are `left` more. -/
inductive Piece
  | plain
  | backslash
  | number (e : NumericEscape) (left code : ℕ)
  deriving DecidableEq, Repr

/-- The next digit of a code; the last one gives its bytes. -/
def takeDigit (e : NumericEscape) (left code : ℕ) (c : Char) : Option (Piece × List UInt8) :=
  match digitOf e.base c, left with
  | none, _ => none
  | some digit, 0 => (e.bytes (code * e.base + digit)).map fun bytes => (.plain, bytes)
  | some digit, left + 1 => some (.number e left (code * e.base + digit), [])

/-- The character after a backslash. -/
def escapeStep (quote c : Char) : Option (Piece × List UInt8) :=
  if c = quote then some (.plain, String.utf8EncodeChar quote)
  else match simpleEscape c with
    | some byte => some (.plain, [byte])
    | none =>
        if c = 'x' then some (.number .hex 1 0, [])
        else if c = 'u' then some (.number .short 3 0, [])
        else if c = 'U' then some (.number .long 7 0, [])
        else takeDigit .octal 2 0 c

def backquote : Char := Char.ofNat 96

/-- A character of a literal that does not end it, with the bytes it completes. -/
def literalStep (quote : Char) (piece : Piece) (c : Char) : Option (Piece × List UInt8) :=
  match piece with
  | .plain =>
      if quote = backquote then some (.plain, String.utf8EncodeChar c)
      else if c = '\\' then some (.backslash, [])
      else if c = '\n' then none
      else some (.plain, String.utf8EncodeChar c)
  | .backslash => escapeStep quote c
  | .number e left code => takeDigit e left code c

/-! ## The reader -/

/-- The place in a selector. A comment ends where it was opened. -/
inductive Phase
  | opening
  | labelOrEnd
  | inLabel (label : List Char)
  | afterLabel (label : List Char)
  | afterEqual (label : List Char)
  | afterBang (label : List Char)
  | beforeLiteral (label : List Char) (op : MatchOp)
  | inLiteral (label : List Char) (op : MatchOp) (quote : Char) (piece : Piece)
      (value : List UInt8)
  | separatorOrEnd
  | comment (back : Phase)
  | closed
  deriving DecidableEq, Repr

structure State where
  matchers : List Matcher
  phase : Phase
  deriving DecidableEq, Repr

def isLabelStart (c : Char) : Bool := c.isAlpha || c == '_'

def isLabelChar (c : Char) : Bool := isLabelStart c || c.isDigit

/-- A blank or a comment between two tokens. -/
def skipStep (phase : Phase) (c : Char) : Option Phase :=
  if c = ' ' ∨ c = '\t' ∨ c = '\n' ∨ c = '\r' then some phase
  else if c = '#' then some (.comment phase)
  else none

def operatorStep (label : List Char) (c : Char) : Option Phase :=
  if c = '=' then some (.afterEqual label)
  else if c = '!' then some (.afterBang label)
  else skipStep (.afterLabel label) c

def quoteStep (label : List Char) (op : MatchOp) (c : Char) : Option Phase :=
  if c = '"' ∨ c = Char.ofNat 39 ∨ c = backquote then some (.inLiteral label op c .plain [])
  else skipStep (.beforeLiteral label op) c

/-- The phase after a character that closes no matcher. -/
def phaseStep (phase : Phase) (c : Char) : Option Phase :=
  match phase with
  | .opening => if c = '{' then some .labelOrEnd else none
  | .labelOrEnd =>
      if isLabelStart c then some (.inLabel [c])
      else if c = '}' then some .closed
      else skipStep .labelOrEnd c
  | .inLabel label =>
      if isLabelChar c then some (.inLabel (label ++ [c])) else operatorStep label c
  | .afterLabel label => operatorStep label c
  | .afterEqual label =>
      if c = '~' then some (.beforeLiteral label .regex) else quoteStep label .equal c
  | .afterBang label =>
      if c = '=' then some (.beforeLiteral label .notEqual)
      else if c = '~' then some (.beforeLiteral label .notRegex)
      else none
  | .beforeLiteral label op => quoteStep label op c
  | .inLiteral label op quote piece value =>
      (literalStep quote piece c).map fun next =>
        .inLiteral label op quote next.1 (value ++ next.2)
  | .separatorOrEnd =>
      if c = ',' then some .labelOrEnd
      else if c = '}' then some .closed
      else skipStep .separatorOrEnd c
  | .comment back => if c = '\n' ∨ c = '\r' then some back else some (.comment back)
  | .closed => none

/-- The matcher a character closes. -/
def closedMatcher (phase : Phase) (c : Char) : Option Matcher :=
  match phase with
  | .inLiteral label op quote .plain value => if c = quote then some ⟨label, op, value⟩ else none
  | _ => none

def step (s : State) (c : Char) : Option State :=
  match closedMatcher s.phase c with
  | some m => some ⟨s.matchers ++ [m], .separatorOrEnd⟩
  | none => (phaseStep s.phase c).map fun phase => ⟨s.matchers, phase⟩

def run (s : State) (text : List Char) : Option State := text.foldlM step s

/-- The matchers of a text that is one selector. -/
def parse (text : String) : Option (List Matcher) :=
  match run ⟨[], .opening⟩ text.toList with
  | some ⟨matchers, .closed⟩ => some matchers
  | _ => none

/-- The bytes of a text. -/
def utf8 (text : List Char) : List UInt8 := text.flatMap String.utf8EncodeChar

@[simp] theorem utf8_nil : utf8 [] = [] := rfl
@[simp] theorem utf8_cons (c : Char) (text : List Char) :
    utf8 (c :: text) = String.utf8EncodeChar c ++ utf8 text := rfl

/-! ## Runs -/

@[simp] theorem run_nil (s : State) : run s [] = some s := rfl

@[simp] theorem run_cons (s : State) (c : Char) (text : List Char) :
    run s (c :: text) = (step s c).bind fun t => run t text := rfl

theorem run_append (s : State) (front back : List Char) :
    run s (front ++ back) = (run s front).bind fun t => run t back :=
  List.foldlM_append

theorem matchers_step {s t : State} {c : Char} (h : step s c = some t) :
    s.matchers <+: t.matchers := by
  cases hm : closedMatcher s.phase c with
  | some m =>
      simp only [step, hm, Option.some.injEq] at h
      subst t
      exact List.prefix_append _ _
  | none =>
      simp only [step, hm, Option.map_eq_some_iff] at h
      obtain ⟨phase, -, rfl⟩ := h
      exact List.prefix_rfl

/-- A matcher that is closed stays. -/
theorem matchers_run {s t : State} {text : List Char} (h : run s text = some t) :
    s.matchers <+: t.matchers := by
  induction text generalizing s with
  | nil =>
      rw [run_nil, Option.some.injEq] at h
      exact h ▸ List.prefix_rfl
  | cons c text ih =>
      rw [run_cons, Option.bind_eq_some_iff] at h
      obtain ⟨mid, hstep, hrun⟩ := h
      exact (matchers_step hstep).trans (ih hrun)

/-- No run takes a closed matcher back. -/
theorem run_closed_ne (matchers : List Matcher) (m : Matcher) (phase phase' : Phase)
    (text : List Char) : run ⟨matchers ++ [m], phase⟩ text ≠ some ⟨matchers, phase'⟩ := by
  intro h
  have hle : (matchers ++ [m]).length ≤ matchers.length := (matchers_run h).length_le
  rw [List.length_append, List.length_singleton] at hle
  exact Nat.not_succ_le_self _ hle

/-! ## Text between double quotes -/

section DoubleQuotes

variable {matchers : List Matcher} {label : List Char} {op : MatchOp}

/-- A character that stands for itself between double quotes. -/
def isPlain (c : Char) : Bool := c != '"' && c != '\\' && c != '\n'

theorem run_label {text : List Char} (h : ∀ c ∈ text, isLabelChar c = true) :
    run ⟨matchers, .inLabel label⟩ text = some ⟨matchers, .inLabel (label ++ text)⟩ := by
  induction text generalizing label with
  | nil => simp
  | cons c text ih =>
      have hc : isLabelChar c = true := h c List.mem_cons_self
      rw [run_cons]
      simp only [step, closedMatcher, phaseStep, hc, if_true, Option.map_some, Option.bind_some]
      rw [ih fun d hd => h d (List.mem_cons_of_mem _ hd), List.append_assoc,
        List.singleton_append]

theorem run_plain {value : List UInt8} {text : List Char} (h : ∀ c ∈ text, isPlain c = true) :
    run ⟨matchers, .inLiteral label op '"' .plain value⟩ text =
      some ⟨matchers, .inLiteral label op '"' .plain (value ++ utf8 text)⟩ := by
  induction text generalizing value with
  | nil => simp
  | cons c text ih =>
      have hc : c ≠ '"' ∧ c ≠ '\\' ∧ c ≠ '\n' := by
        simpa [isPlain, and_assoc] using h c List.mem_cons_self
      have hstep : step ⟨matchers, .inLiteral label op '"' .plain value⟩ c =
          some ⟨matchers, .inLiteral label op '"' .plain
            (value ++ String.utf8EncodeChar c)⟩ := by
        simp [step, closedMatcher, phaseStep, literalStep, hc, show '"' ≠ backquote by decide]
      rw [run_cons, hstep, Option.bind_some, ih fun d hd => h d (List.mem_cons_of_mem _ hd)]
      rw [utf8_cons, List.append_assoc]

/-- The bytes an unfinished escape can still account for. One of its characters is always lost. -/
def Piece.held : Piece → ℕ
  | .plain => 0
  | .backslash => 0
  | .number e left _ => e.width - left - 2

@[simp] theorem Piece.held_plain : Piece.plain.held = 0 := rfl
@[simp] theorem Piece.held_backslash : Piece.backslash.held = 0 := rfl
@[simp] theorem Piece.held_number (e : NumericEscape) (left code : ℕ) :
    (Piece.number e left code).held = e.width - left - 2 := rfl

theorem length_bytes_le {e : NumericEscape} {code : ℕ} {bytes : List UInt8}
    (h : e.bytes code = some bytes) : bytes.length < e.width := by
  cases e <;> simp only [NumericEscape.bytes, Option.ite_none_right_eq_some,
    Option.some.injEq] at h <;> obtain ⟨-, rfl⟩ := h
  case octal | hex => simp [NumericEscape.width]
  case short | long =>
    rw [String.length_utf8EncodeChar]
    exact Nat.lt_of_le_of_lt (Char.utf8Size_le_four _) (by simp [NumericEscape.width])

theorem takeDigit_size {e : NumericEscape} {left code : ℕ} {c : Char} {next : Piece × List UInt8}
    (h : takeDigit e left code c = some next) :
    next.2.length + next.1.held ≤ e.width - left - 2 + 1 := by
  simp only [takeDigit] at h
  split at h
  · cases h
  · -- The last digit: the escape loses its backslash at least.
    obtain ⟨bytes, hbytes, rfl⟩ := Option.map_eq_some_iff.mp h
    have hlen : bytes.length < e.width := length_bytes_le hbytes
    simp only [Piece.held_plain]
    omega
  · rw [Option.some.injEq] at h
    subst h
    rw [Piece.held_number, List.length_nil]
    omega

theorem escapeStep_size {c : Char} {next : Piece × List UInt8}
    (h : escapeStep '"' c = some next) : next.2.length + next.1.held ≤ 1 := by
  simp only [escapeStep] at h
  split at h
  · rw [Option.some.injEq] at h
    subst h
    exact Nat.le_of_eq rfl
  · split at h
    · rw [Option.some.injEq] at h
      subst h
      exact Nat.le_of_eq rfl
    · split_ifs at h with hx hu hU
      case neg => exact takeDigit_size h
      all_goals
        rw [Option.some.injEq] at h
        subst h
        exact Nat.le_of_eq rfl

theorem literalStep_plain {c : Char} {next : Piece × List UInt8}
    (h : literalStep '"' .plain c = some next) :
    (c = '\\' ∧ next = (.backslash, [])) ∨
      (c ≠ '\\' ∧ c ≠ '\n' ∧ next = (.plain, String.utf8EncodeChar c)) := by
  simp only [literalStep, show '"' ≠ backquote by decide, if_false] at h
  split_ifs at h with hslash hline
  · exact .inl ⟨hslash, (Option.some.inj h).symm⟩
  · exact .inr ⟨hslash, hline, (Option.some.inj h).symm⟩

/-- A literal has at most as many bytes as it is written with. -/
theorem literalStep_size {piece : Piece} {c : Char} {next : Piece × List UInt8}
    (h : literalStep '"' piece c = some next) :
    next.2.length + next.1.held ≤ piece.held + c.utf8Size := by
  have hc : 0 < c.utf8Size := Char.utf8Size_pos c
  cases piece with
  | plain =>
      rcases literalStep_plain h with ⟨-, rfl⟩ | ⟨-, -, rfl⟩ <;> simp
  | backslash =>
      have hle : next.2.length + next.1.held ≤ 1 := escapeStep_size h
      rw [Piece.held_backslash]
      omega
  | number e left code =>
      have hle := takeDigit_size h
      rw [Piece.held_number]
      omega

/-- In a literal a character ends the literal or leads to another place in it. -/
theorem literal_step_cases {piece : Piece} {value : List UInt8} {c : Char} {s : State}
    (h : step ⟨matchers, .inLiteral label op '"' piece value⟩ c = some s) :
    (piece = .plain ∧ c = '"' ∧ s = ⟨matchers ++ [⟨label, op, value⟩], .separatorOrEnd⟩) ∨
      (¬ (piece = .plain ∧ c = '"') ∧ ∃ next, literalStep '"' piece c = some next ∧
        s = ⟨matchers, .inLiteral label op '"' next.1 (value ++ next.2)⟩) := by
  by_cases hend : piece = .plain ∧ c = '"'
  · obtain ⟨rfl, rfl⟩ := hend
    simp only [step, closedMatcher, if_true, Option.some.injEq] at h
    exact .inl ⟨rfl, rfl, h.symm⟩
  · have hopen : closedMatcher (.inLiteral label op '"' piece value) c = none := by
      cases piece with
      | plain => simpa [closedMatcher] using hend
      | backslash => rfl
      | number e left code => rfl
    simp only [step, hopen, phaseStep, Option.map_map, Option.map_eq_some_iff] at h
    obtain ⟨next, hnext, rfl⟩ := h
    exact .inr ⟨hend, next, hnext, rfl⟩

/-- A run that is in a literal at both ends, with no matcher closed on the way, stays in it.
It gains no more bytes than it reads. -/
theorem literal_run_size {piece piece' : Piece} {value value' : List UInt8} {text : List Char}
    {label' : List Char} {op' : MatchOp} {quote : Char}
    (h : run ⟨matchers, .inLiteral label op '"' piece value⟩ text =
      some ⟨matchers, .inLiteral label' op' quote piece' value'⟩) :
    value'.length + piece'.held ≤ value.length + piece.held + (utf8 text).length := by
  induction text generalizing piece value with
  | nil =>
      simp only [run_nil, Option.some.injEq, State.mk.injEq, Phase.inLiteral.injEq] at h
      obtain ⟨-, -, -, -, rfl, rfl⟩ := h
      exact Nat.le_add_right _ _
  | cons c text ih =>
      rw [run_cons, Option.bind_eq_some_iff] at h
      obtain ⟨mid, hstep, hrun⟩ := h
      rcases literal_step_cases hstep with ⟨-, -, rfl⟩ | ⟨-, next, hnext, rfl⟩
      · exact absurd hrun (run_closed_ne _ _ _ _ _)
      · have hle := literalStep_size hnext
        have hrest := ih hrun
        simp only [utf8_cons, List.length_append, String.length_utf8EncodeChar] at hrest ⊢
        omega

/-- Where the bytes gained are as many as the bytes read, every character stands for itself. -/
theorem plain_of_run {value value' : List UInt8} {text : List Char} {label' : List Char}
    {op' : MatchOp} {quote : Char}
    (h : run ⟨matchers, .inLiteral label op '"' .plain value⟩ text =
      some ⟨matchers, .inLiteral label' op' quote .plain value'⟩)
    (hsize : value'.length = value.length + (utf8 text).length) :
    ∀ c ∈ text, isPlain c = true := by
  induction text generalizing value with
  | nil => simp
  | cons c text ih =>
      rw [run_cons, Option.bind_eq_some_iff] at h
      obtain ⟨mid, hstep, hrun⟩ := h
      rcases literal_step_cases hstep with ⟨-, -, rfl⟩ | ⟨hquote, next, hnext, rfl⟩
      · exact absurd hrun (run_closed_ne _ _ _ _ _)
      · have hle := literal_run_size hrun
        simp only [utf8_cons, List.length_append, String.length_utf8EncodeChar] at hsize hle
        rcases literalStep_plain hnext with ⟨-, rfl⟩ | ⟨hslash, hline, rfl⟩
        · -- After a backslash a byte is missing to the end.
          have hc : 0 < c.utf8Size := Char.utf8Size_pos c
          simp only [List.length_nil, Piece.held_plain, Piece.held_backslash] at hle
          omega
        · have hplain : isPlain c = true := by
            have hne : c ≠ '"' := fun hc => hquote ⟨rfl, hc⟩
            simp [isPlain, hne, hslash, hline]
          refine List.forall_mem_cons.mpr ⟨hplain, ih hrun ?_⟩
          rw [List.length_append, String.length_utf8EncodeChar]
          omega

theorem closedMatcher_eq_some {phase : Phase} {c : Char} {m : Matcher}
    (h : closedMatcher phase c = some m) :
    phase = .inLiteral m.label m.op c .plain m.value := by
  cases phase with
  | inLiteral label op quote piece value =>
      cases piece with
      | plain =>
          simp only [closedMatcher, Option.ite_none_right_eq_some, Option.some.injEq] at h
          obtain ⟨rfl, rfl⟩ := h
          rfl
      | backslash => cases h
      | number e left code => cases h
  | _ => cases h

theorem phaseStep_brace {phase : Phase} (h : phaseStep phase '}' = some .closed) :
    phase = .labelOrEnd ∨ phase = .separatorOrEnd := by
  have hlabel : isLabelChar '}' = false := by decide
  cases phase <;> simp [phaseStep, operatorStep, quoteStep, skipStep, backquote, hlabel] at h ⊢

theorem phaseStep_quote {phase : Phase} :
    phaseStep phase '"' ≠ some .labelOrEnd ∧ phaseStep phase '"' ≠ some .separatorOrEnd := by
  have hstart : isLabelStart '"' = false := by decide
  have hlabel : isLabelChar '"' = false := by decide
  cases phase <;>
    simp [phaseStep, operatorStep, quoteStep, skipStep, backquote, hstart, hlabel]

/-- Before a quote and a brace that close a text is the end of a matcher's literal. -/
theorem run_closing {s : State} {ms : List Matcher}
    (h : run s ['"', '}'] = some ⟨ms, .closed⟩) :
    ∃ m, s.phase = .inLiteral m.label m.op '"' .plain m.value ∧ ms = s.matchers ++ [m] := by
  simp only [run_cons, run_nil, Option.bind_eq_some_iff, Option.some.injEq] at h
  obtain ⟨mid, hquote, _, hbrace, rfl⟩ := h
  have hmid : (mid.phase = .labelOrEnd ∨ mid.phase = .separatorOrEnd) ∧ mid.matchers = ms := by
    cases hm : closedMatcher mid.phase '}' with
    | some m => simp [step, hm] at hbrace
    | none =>
        simp only [step, hm, Option.map_eq_some_iff, State.mk.injEq] at hbrace
        obtain ⟨phase, hphase, hms, rfl⟩ := hbrace
        exact ⟨phaseStep_brace hphase, hms⟩
  obtain ⟨hphase, rfl⟩ := hmid
  cases hm : closedMatcher s.phase '"' with
  | some m =>
      simp only [step, hm, Option.some.injEq] at hquote
      subst hquote
      exact ⟨m, closedMatcher_eq_some hm, rfl⟩
  | none =>
      simp only [step, hm, Option.map_eq_some_iff] at hquote
      obtain ⟨phase, hstep, rfl⟩ := hquote
      rcases hphase with rfl | rfl
      · exact absurd hstep phaseStep_quote.1
      · exact absurd hstep phaseStep_quote.2

/-- A text between double quotes as it is. -/
def quoted (label value : String) : String :=
  "\x7b" ++ label ++ "=\"" ++ value ++ "\"\x7d"

/-- `[a-zA-Z_][a-zA-Z0-9_]*` -/
def isLabel (label : String) : Bool :=
  match label.toList with
  | [] => false
  | c :: cs => isLabelStart c && cs.all isLabelChar

theorem run_quoted {name value : String} (h : isLabel name = true) :
    run ⟨[], .opening⟩ (quoted name value).toList =
      (run ⟨[], .inLiteral name.toList .equal '"' .plain []⟩ value.toList).bind fun s =>
        run s ['"', '}'] := by
  have htext : (quoted name value).toList =
      '{' :: (name.toList ++ '=' :: '"' :: (value.toList ++ ['"', '}'])) := by
    simp [quoted]
  rw [htext]
  cases hname : name.toList with
  | nil => simp [isLabel, hname] at h
  | cons c cs =>
      simp only [isLabel, hname, Bool.and_eq_true, List.all_eq_true] at h
      have hopen : run ⟨[], .opening⟩ ['{', c] = some ⟨[], .inLabel [c]⟩ := by
        simp [step, closedMatcher, phaseStep, h.1]
      have hquote : run ⟨[], .inLabel (c :: cs)⟩ ['=', '"'] =
          some ⟨[], .inLiteral (c :: cs) .equal '"' .plain []⟩ := by
        have hlabel : isLabelChar '=' = false := by decide
        simp [step, closedMatcher, phaseStep, operatorStep, quoteStep, hlabel]
      calc run ⟨[], .opening⟩ ('{' :: (c :: cs ++ '=' :: '"' :: (value.toList ++ ['"', '}'])))
          = run ⟨[], .opening⟩ (['{', c] ++ (cs ++ (['=', '"'] ++
              (value.toList ++ ['"', '}'])))) := rfl
        _ = _ := by
            rw [run_append, hopen, Option.bind_some, run_append, run_label h.2,
              Option.bind_some, List.singleton_append, run_append, hquote, Option.bind_some,
              run_append]

/-- A text between double quotes as it is reads as the value of its matcher exactly when it has
no quote, no backslash and no line break. -/
theorem parse_quoted_iff {name value : String} (h : isLabel name = true) :
    parse (quoted name value) = some [⟨name.toList, .equal, utf8 value.toList⟩] ↔
      ∀ c ∈ value.toList, isPlain c = true := by
  rw [parse, run_quoted h]
  constructor
  · intro hparse
    split at hparse
    case h_2 => cases hparse
    case h_1 ms hrun =>
      obtain rfl : ms = _ := Option.some.inj hparse
      obtain ⟨s, htext, hclose⟩ := Option.bind_eq_some_iff.mp hrun
      obtain ⟨m, hphase, hms⟩ := run_closing hclose
      -- One matcher in all: the literal of the value is the one that closes the text.
      have hs : s.matchers = [] ∧ m.value = utf8 value.toList := by
        cases hsm : s.matchers with
        | nil =>
            rw [hsm, List.nil_append, List.cons.injEq] at hms
            exact ⟨rfl, hms.1 ▸ rfl⟩
        | cons m' rest => simp [hsm] at hms
      obtain ⟨matchers, phase⟩ := s
      obtain ⟨rfl, hvalue⟩ := hs
      simp only at hphase
      subst hphase
      exact plain_of_run htext (by rw [hvalue, List.length_nil, Nat.zero_add])
  · intro hplain
    rw [run_plain hplain, Option.bind_some]
    simp [step, closedMatcher, phaseStep]

end DoubleQuotes

end RbgPlanner.Base.PromSelector

import Mathlib.Data.List.TakeWhile
import RbgPlanner.Base.Interaction

/-!
# Command-line arguments

`argparse.ArgumentParser` on options that take one argument or none, without
positional arguments: how a vector is split into options and their values, and
what is left over. `parse_args` accepts a vector when nothing is.
-/

namespace RbgPlanner.Base.Argparse

/-- What an option does with the namespace. -/
inductive Action (N : Type)
  | store (set : String → N → Option N)
  | flag (set : N → N)
  | help

/-- An option string with its action. -/
structure Opt (N : Type) where
  name : String
  action : Action N

/-- How `parse_args` ends without a namespace. `help` has exit status 0, the
errors have 2. -/
inductive ParseExit
  | help
  | ambiguous (arg : String) (names : List String)
  | expectedArgument (name : String)
  | ignoredArgument (name value : String)
  | invalidValue (name value : String)
  | unrecognized (args : List String)
  deriving DecidableEq, Repr

/-- What one string of the vector is taken for. A value can be attached to its
option, with an equals sign or without. -/
inductive Reading (N : Type)
  | argument
  | separator
  | unknown
  | option (o : Opt N) (attached : Option (Bool × List Char))

variable {N : Type} (options : List (Opt N))

/-! ## Reading one string -/

/-- `-` and digits, with at most one point. -/
def isNegativeNumber : List Char → Bool
  | '-' :: cs =>
      let fraction := (cs.dropWhile Char.isDigit).drop 1
      (cs ≠ [] && cs.all Char.isDigit) ||
        ((cs.dropWhile Char.isDigit).head? == some '.' && fraction ≠ [] &&
          fraction.all Char.isDigit)
  | _ => false

/-- `str.partition` at the first equals sign. -/
def splitEquals (s : List Char) : List Char × Option (Bool × List Char) :=
  (s.takeWhile (· ≠ '='), match s.dropWhile (· ≠ '=') with
    | [] => none
    | _ :: value => some (true, value))

def find (name : List Char) : Option (Opt N) := options.find? fun o => o.name.toList == name

/-- `_get_option_tuples`: the options a string can abbreviate. -/
def candidates (s : List Char) : List (Opt N × Option (Bool × List Char)) :=
  match s with
  | '-' :: '-' :: _ =>
      (options.filter fun o => (splitEquals s).1.isPrefixOf o.name.toList).map
        fun o => (o, (splitEquals s).2)
  | _ => options.filterMap fun o =>
      if o.name.toList = s.take 2 then some (o, some (false, s.drop 2))
      else if s.isPrefixOf o.name.toList then some (o, none)
      else none

/-- What a string that starts with a dash and names no option can be. -/
def parseAbbreviation (s : String) : Except ParseExit (Reading N) :=
  match candidates options s.toList with
  | [(o, attached)] => .ok (.option o attached)
  | [] =>
      if isNegativeNumber s.toList && !options.any fun o => isNegativeNumber o.name.toList then
        .ok .argument
      else if s.toList.contains ' ' then .ok .argument
      else .ok .unknown
  | several => .error (.ambiguous s (several.map fun c => c.1.name))

/-- `_parse_optional`. -/
def parseOptional (s : String) : Except ParseExit (Reading N) :=
  match s.toList with
  | '-' :: cs =>
      match find options s.toList with
      | some o => .ok (.option o none)
      | none =>
          if cs = [] then .ok .argument
          else match (splitEquals s.toList).2, find options (splitEquals s.toList).1 with
            | some attached, some o => .ok (.option o (some attached))
            | _, _ => parseAbbreviation options s
  | _ => .ok .argument

/-- The readings of a vector. After `--` everything is an argument. -/
def classify : List String → Except ParseExit (List (String × Reading N))
  | [] => .ok []
  | s :: args =>
      if s = "--" then .ok ((s, .separator) :: args.map fun arg => (arg, .argument))
      else do
        let reading ← parseOptional options s
        let readings ← classify args
        return (s, reading) :: readings

/-! ## Consuming the vector -/

/-- The end of an option string: its last option wants a value from the vector or
has it attached, or no value is needed and something may be left over. -/
inductive Last (N : Type)
  | wants (name : String) (set : String → N → Option N)
  | attached (name : String) (set : String → N → Option N) (value : String)
  | nothing (leftOver : List String)

/-- A double dash starts the name. -/
def isLong : List Char → Bool
  | '-' :: '-' :: _ => true
  | _ => false

/-- An option with nothing attached. -/
def single (o : Opt N) : List (Action N) × Last N :=
  match o.action with
  | .store set => ([], .wants o.name set)
  | action => ([action], .nothing [])

/-- An option with something attached: its value, or for a short option that
takes none, more short options. -/
def bundle (o : Opt N) (equals : Bool) : List Char → Except ParseExit (List (Action N) × Last N)
  | [] =>
      match o.action with
      | .store set => .ok ([], .attached o.name set "")
      | _ => .error (.ignoredArgument o.name "")
  | c :: cs =>
      match o.action with
      | .store set => .ok ([], .attached o.name set (String.ofList (c :: cs)))
      | action =>
          if isLong o.name.toList || equals || c == '-' then
            .error (.ignoredArgument o.name (String.ofList (c :: cs)))
          else match find options ['-', c], cs with
            | none, _ => .ok ([action], .nothing [String.ofList ('-' :: c :: cs)])
            | some next, [] => .ok (action :: (single next).1, (single next).2)
            | some next, '=' :: value => do
                let (actions, last) ← bundle next true value
                return (action :: actions, last)
            | some next, d :: rest => do
                let (actions, last) ← bundle next false (d :: rest)
                return (action :: actions, last)

def unbundle (o : Opt N) : Option (Bool × List Char) → Except ParseExit (List (Action N) × Last N)
  | none => .ok (single o)
  | some (equals, attached) => bundle options o equals attached

/-- Run the options of a string that take no value. -/
def runActions (ns : N) : List (Action N) → Except ParseExit N
  | [] => .ok ns
  | .flag set :: actions => runActions (set ns) actions
  | .help :: _ => .error .help
  | .store _ :: actions => runActions ns actions

def storeValue (name : String) (set : String → N → Option N) (value : String) (ns : N) :
    Except ParseExit N :=
  match set value ns with
  | some ns => .ok ns
  | none => .error (.invalidValue name value)

/-- `_parse_known_args` on the readings: the namespace and what is left over. -/
def consume : List (String × Reading N) → N → Except ParseExit (N × List String)
  | [], ns => .ok (ns, [])
  | (_, .option o attached) :: items, ns =>
      match unbundle options o attached, items with
      | .error e, _ => .error e
      | .ok (actions, .wants name set), (value, .argument) :: items => do
          let ns ← storeValue name set value (← runActions ns actions)
          consume items ns
      | .ok (_, .wants name _), _ => .error (.expectedArgument name)
      | .ok (actions, .attached name set value), items => do
          let ns ← storeValue name set value (← runActions ns actions)
          consume items ns
      | .ok (actions, .nothing leftOver), items => do
          let (ns, extras) ← consume items (← runActions ns actions)
          return (ns, leftOver ++ extras)
  | (s, _) :: items, ns => do
      let (ns, extras) ← consume items ns
      return (ns, s :: extras)

/-- `parse_known_args`. -/
def parseKnownArgs (ns : N) (args : List String) : Except ParseExit (N × List String) := do
  consume options (← classify options args) ns

/-- `parse_args`. -/
def parseArgs (ns : N) (args : List String) : Except ParseExit N := do
  let (ns, extras) ← parseKnownArgs options ns args
  if extras = [] then return ns else .error (.unrecognized extras)

/-! ## One string at a time -/

variable {options} {ns ns' : N} {s value : String} {args extras : List String}

/-- An option that takes a value takes the next string. -/
theorem parseKnownArgs_value {o : Opt N} {set : String → N → Option N} (hs : s ≠ "--")
    (hreading : parseOptional options s = .ok (.option o none)) (ho : o.action = .store set)
    (h : parseKnownArgs options ns (s :: value :: args) = .ok (ns', extras)) :
    ∃ ns₁, set value ns = some ns₁ ∧ parseKnownArgs options ns₁ args = .ok (ns', extras) := by
  have hlast : single o = ([], .wants o.name set) := by
    rw [single, ho]
  obtain ⟨items, hitems, hconsume⟩ := bind_eq_ok.mp h
  rw [classify, if_neg hs, hreading] at hitems
  obtain ⟨_, hfirst, hitems⟩ := bind_eq_ok.mp hitems
  cases hfirst
  obtain ⟨readings, hreadings, hreturn⟩ := bind_eq_ok.mp hitems
  cases hreturn
  unfold consume at hconsume
  by_cases hvalue : value = "--"
  · -- `--` is no value
    rw [classify, if_pos hvalue] at hreadings
    cases hreadings
    simp [unbundle, hlast] at hconsume
  · rw [classify, if_neg hvalue] at hreadings
    obtain ⟨reading, -, hreadings⟩ := bind_eq_ok.mp hreadings
    obtain ⟨rest, hargs, hreturn⟩ := bind_eq_ok.mp hreadings
    cases hreturn
    cases reading with
    | argument =>
        simp only [unbundle, hlast, runActions] at hconsume
        obtain ⟨_, hns, hconsume⟩ := bind_eq_ok.mp hconsume
        cases hns
        obtain ⟨ns₁, hstore, hconsume⟩ := bind_eq_ok.mp hconsume
        refine ⟨ns₁, ?_, bind_eq_ok.mpr ⟨rest, hargs, hconsume⟩⟩
        unfold storeValue at hstore
        cases hset : set value ns with
        | none => simp [hset] at hstore
        | some ns₂ => simpa [hset] using hstore
    | separator | unknown | option _ _ => simp [unbundle, hlast] at hconsume

/-- A string that is an argument by itself or an unknown option is left over. -/
theorem parseKnownArgs_extra (hs : s ≠ "--")
    (hreading : parseOptional options s = .ok .argument ∨
      parseOptional options s = .ok .unknown)
    (h : parseKnownArgs options ns (s :: args) = .ok (ns', extras)) :
    ∃ rest, extras = s :: rest ∧ parseKnownArgs options ns args = .ok (ns', rest) := by
  obtain ⟨items, hitems, hconsume⟩ := bind_eq_ok.mp h
  rw [classify, if_neg hs] at hitems
  obtain ⟨reading, hfirst, hrest⟩ := bind_eq_ok.mp hitems
  obtain ⟨readings, hreadings, hreturn⟩ := bind_eq_ok.mp hrest
  cases hreturn
  have hskip : consume options ((s, reading) :: readings) ns = (do
      let (ns, extras) ← consume options readings ns
      return (ns, s :: extras)) := by
    rcases hreading with hreading | hreading <;>
    · cases hreading.symm.trans hfirst
      rfl
  rw [hskip] at hconsume
  obtain ⟨⟨ns₁, rest⟩, htail, hreturn⟩ := bind_eq_ok.mp hconsume
  cases hreturn
  exact ⟨rest, rfl, bind_eq_ok.mpr ⟨readings, hreadings, htail⟩⟩

/-- A vector of which something is left over is not accepted. -/
theorem parseArgs_eq_ok (h : parseArgs options ns args = .ok ns') :
    parseKnownArgs options ns args = .ok (ns', []) := by
  obtain ⟨⟨ns₁, extras⟩, hknown, haccept⟩ := bind_eq_ok.mp h
  dsimp only at haccept
  by_cases hextras : extras = []
  · rw [if_pos hextras] at haccept
    cases haccept
    rw [hknown, hextras]
  · rw [if_neg hextras] at haccept
    cases haccept

/-- An option is found under its name when no other has it. -/
theorem find_of_mem (hnodup : (options.map Opt.name).Nodup) {o : Opt N} (ho : o ∈ options) :
    find options o.name.toList = some o := by
  induction options with
  | nil => cases ho
  | cons first options ih =>
      obtain ⟨hfirst, hrest⟩ := List.nodup_cons.mp hnodup
      rcases List.mem_cons.mp ho with rfl | ho
      · simp [find]
      · have hne : first.name.toList ≠ o.name.toList := by
          intro h
          rw [String.toList_inj] at h
          exact hfirst (h ▸ List.mem_map_of_mem ho)
        have hskip : find (first :: options) o.name.toList = find options o.name.toList := by
          simp [find, hne]
        rw [hskip]
        exact ih hrest ho

/-- A string that is read on its own does not change how the others are. -/
theorem parseKnownArgs_cons {reading : Reading N} (hs : s ≠ "--")
    (hreading : parseOptional options s = .ok reading)
    (hconsume : ∀ items, consume options ((s, reading) :: items) ns = consume options items ns') :
    parseKnownArgs options ns (s :: args) = parseKnownArgs options ns' args := by
  unfold parseKnownArgs
  rw [classify, if_neg hs, hreading]
  cases classify options args with
  | error e => rfl
  | ok readings => exact hconsume readings

/-- An option with its value behind an equals sign. -/
def setting (name value : String) : String := name ++ "=" ++ value

section Setting

variable {name : String} {o : Opt N} {set : String → N → Option N}

theorem splitEquals_setting (hequals : '=' ∉ name.toList) :
    splitEquals (setting name value).toList = (name.toList, some (true, value.toList)) := by
  have hkeep : ∀ c ∈ name.toList, decide (c ≠ '=') = true := fun c hc =>
    decide_eq_true fun h => hequals (h ▸ hc)
  have htext : (setting name value).toList = name.toList ++ '=' :: value.toList := by
    simp [setting]
  rw [splitEquals, htext, List.takeWhile_append_of_pos hkeep, List.dropWhile_append_of_pos hkeep]
  simp

/-- The option is the one before the equals sign, when no option string has one. -/
theorem parseOptional_setting (hequals : ∀ o ∈ options, '=' ∉ o.name.toList)
    (hfind : find options name.toList = some o) (hdash : name.toList.head? = some '-') :
    parseOptional options (setting name value) =
      .ok (.option o (some (true, value.toList))) := by
  have hname : '=' ∉ name.toList := by
    have hmem := List.mem_of_find?_eq_some hfind
    have heq := List.find?_some hfind
    rw [← eq_of_beq heq]
    exact hequals o hmem
  have hnone : find options (setting name value).toList = none := by
    refine List.find?_eq_none.mpr fun p hp heq => hequals p hp ?_
    rw [eq_of_beq heq]
    simp [setting]
  obtain ⟨cs, hcs⟩ : ∃ cs, (setting name value).toList = '-' :: cs := by
    cases hlist : name.toList with
    | nil =>
        rw [hlist] at hdash
        cases hdash
    | cons c rest =>
        rw [hlist] at hdash
        obtain rfl := Option.some.inj hdash
        exact ⟨rest ++ '=' :: value.toList, by simp [setting, hlist]⟩
  have hrest : cs ≠ [] := by
    rintro rfl
    have hmem : '=' ∈ (setting name value).toList := by
      simp [setting]
    rw [hcs] at hmem
    exact absurd hmem (by decide)
  unfold parseOptional
  rw [hnone, splitEquals_setting hname, hfind, hcs]
  simp [hrest]

/-- A value behind an equals sign is stored, whatever it looks like. -/
theorem parseKnownArgs_setting (hequals : ∀ o ∈ options, '=' ∉ o.name.toList)
    (hfind : find options name.toList = some o) (hdash : name.toList.head? = some '-')
    (ho : o.action = .store set) (hset : set value ns = some ns') :
    parseKnownArgs options ns (setting name value :: args) = parseKnownArgs options ns' args := by
  have hs : setting name value ≠ "--" := by
    intro h
    have hmem : '=' ∈ (setting name value).toList := by
      simp [setting]
    rw [h] at hmem
    exact absurd hmem (by decide)
  refine parseKnownArgs_cons hs (parseOptional_setting hequals hfind hdash) fun items => ?_
  have hbundle : unbundle options o (some (true, value.toList)) =
      .ok ([], .attached o.name set value) := by
    unfold unbundle
    cases hvalue : value.toList with
    | nil =>
        rw [String.toList_eq_nil_iff.mp hvalue]
        simp [bundle, ho]
    | cons c cs =>
        have htext : String.ofList (c :: cs) = value := by rw [← hvalue, String.ofList_toList]
        simp [bundle, ho, htext]
  conv => lhs; unfold consume
  rw [hbundle]
  simp only [runActions, storeValue, bind, Except.bind, hset]

/-- An option that takes no value. -/
theorem parseKnownArgs_flag {set : N → N} (hs : s ≠ "--")
    (hfind : find options s.toList = some o) (hdash : s.toList.head? = some '-')
    (ho : o.action = .flag set) :
    parseKnownArgs options ns (s :: args) = parseKnownArgs options (set ns) args := by
  have hreading : parseOptional options s = .ok (.option o none) := by
    unfold parseOptional
    cases hlist : s.toList with
    | nil =>
        rw [hlist] at hdash
        cases hdash
    | cons c cs =>
        rw [hlist] at hdash
        obtain rfl := Option.some.inj hdash
        rw [hlist] at hfind
        simp only [hfind]
  refine parseKnownArgs_cons hs hreading fun items => ?_
  have hunbundle : unbundle options o none = .ok ([.flag set], .nothing []) := by
    unfold unbundle single
    rw [ho]
  conv => lhs; unfold consume
  rw [hunbundle]
  dsimp only [runActions, bind, Except.bind]
  cases consume options items (set ns) <;> rfl

end Setting

/-! ## Rendered arguments -/

variable {front back : List String} {ns'' : N}

variable (options) in
/-- In front of any vector, `front` makes `ns'` of the namespace `ns`. -/
def Parses (front : List String) (ns ns' : N) : Prop :=
  ∀ args, parseKnownArgs options ns (front ++ args) = parseKnownArgs options ns' args

theorem Parses.nil (ns : N) : Parses options [] ns ns := fun _ => rfl

theorem Parses.append (hfront : Parses options front ns ns')
    (hback : Parses options back ns' ns'') : Parses options (front ++ back) ns ns'' := by
  intro args
  rw [List.append_assoc, hfront, hback]

/-- By itself it is accepted. -/
theorem Parses.accepted (h : Parses options front ns ns') :
    parseArgs options ns front = .ok ns' := by
  have hknown : parseKnownArgs options ns front = .ok (ns', []) := by
    rw [← List.append_nil front, h []]
    rfl
  rw [parseArgs, hknown]
  rfl

/-! ## What the options keep -/

/-- What the action of an option does not lose. -/
def Action.Keeps (I : N → Prop) : Action N → Prop
  | .store set => ∀ value ns ns', set value ns = some ns' → I ns → I ns'
  | .flag set => ∀ ns, I ns → I (set ns)
  | .help => True

/-- The option of a reading is a declared one. -/
theorem mem_of_parseOptional {o : Opt N} {attached : Option (Bool × List Char)}
    (h : parseOptional options s = .ok (.option o attached)) : o ∈ options := by
  have habbreviation : parseAbbreviation options s = .ok (.option o attached) → o ∈ options := by
    intro h
    unfold parseAbbreviation at h
    split at h
    · rename_i o' attached' hone
      cases h
      have hmem : (o, attached) ∈ candidates options s.toList := by simp [hone]
      unfold candidates at hmem
      split at hmem
      · obtain ⟨p, hp, heq⟩ := List.mem_map.mp hmem
        cases heq
        exact (List.mem_filter.mp hp).1
      · obtain ⟨p, hp, heq⟩ := List.mem_filterMap.mp hmem
        split_ifs at heq <;> cases heq <;> exact hp
    · split_ifs at h <;> cases h
    · cases h
  unfold parseOptional at h
  split at h
  · split at h
    · cases h
      exact List.mem_of_find?_eq_some ‹_›
    · split_ifs at h with hcs
      · cases h
      · split at h
        · cases h
          exact List.mem_of_find?_eq_some ‹_›
        · exact habbreviation h
  · cases h

section Keeps

variable {I : N → Prop} {o : Opt N} {actions : List (Action N)}

/-- What the last option of a string does with its value. -/
def Last.Keeps (I : N → Prop) : Last N → Prop
  | .wants _ set => (Action.store set).Keeps I
  | .attached _ set _ => (Action.store set).Keeps I
  | .nothing _ => True

/-- Neither the actions of an option string nor its last option lose `I`. -/
def Keep (I : N → Prop) (string : List (Action N) × Last N) : Prop :=
  (∀ action ∈ string.1, action.Keeps I) ∧ string.2.Keeps I

theorem single_keeps (ho : o.action.Keeps I) : Keep I (single o) := by
  unfold single
  split
  · rename_i set haction
    rw [haction] at ho
    exact ⟨nofun, ho⟩
  · exact ⟨by simpa using ho, trivial⟩

theorem bundle_keeps (hoptions : ∀ o ∈ options, o.action.Keeps I) {equals : Bool}
    {attached : List Char} {string : List (Action N) × Last N} (ho : o.action.Keeps I)
    (h : bundle options o equals attached = .ok string) : Keep I string := by
  have hfound : ∀ c next, find options ['-', c] = some next → next.action.Keeps I :=
    fun c next hnext => hoptions next (List.mem_of_find?_eq_some hnext)
  fun_induction bundle options o equals attached generalizing string with
  | case1 o equals set haction =>
      cases h
      rw [haction] at ho
      exact ⟨nofun, ho⟩
  | case2 => cases h
  | case3 o equals c cs set haction =>
      cases h
      rw [haction] at ho
      exact ⟨nofun, ho⟩
  | case4 => cases h
  | case5 =>
      cases h
      exact ⟨by simpa using ho, trivial⟩
  | case6 o equals c _ next hnext =>
      cases h
      obtain ⟨hactions, hlast⟩ := single_keeps (hfound c next hnext)
      exact ⟨List.forall_mem_cons.mpr ⟨ho, hactions⟩, hlast⟩
  | case7 o equals c _ next value hnext _ ih =>
      obtain ⟨rest, hrest, hreturn⟩ := bind_eq_ok.mp h
      cases hreturn
      obtain ⟨hactions, hlast⟩ := ih (hfound c next hnext) hrest
      exact ⟨List.forall_mem_cons.mpr ⟨ho, hactions⟩, hlast⟩
  | case8 o equals c _ next d _ _ hnext _ ih =>
      obtain ⟨rest, hrest, hreturn⟩ := bind_eq_ok.mp h
      cases hreturn
      obtain ⟨hactions, hlast⟩ := ih (hfound c next hnext) hrest
      exact ⟨List.forall_mem_cons.mpr ⟨ho, hactions⟩, hlast⟩

theorem unbundle_keeps (hoptions : ∀ o ∈ options, o.action.Keeps I)
    {attached : Option (Bool × List Char)} {string : List (Action N) × Last N}
    (ho : o.action.Keeps I) (h : unbundle options o attached = .ok string) : Keep I string := by
  cases attached with
  | none =>
      obtain rfl := Except.ok.inj h
      exact single_keeps ho
  | some attached => exact bundle_keeps hoptions ho h

theorem runActions_keeps (hactions : ∀ action ∈ actions, action.Keeps I) (hns : I ns)
    (h : runActions ns actions = .ok ns') : I ns' := by
  fun_induction runActions ns actions with
  | case1 =>
      cases h
      exact hns
  | case2 ns set actions ih =>
      obtain ⟨hset, hactions⟩ := List.forall_mem_cons.mp hactions
      exact ih hactions (hset ns hns) h
  | case3 => cases h
  | case4 ns set actions ih => exact ih (List.forall_mem_cons.mp hactions).2 hns h

theorem storeValue_keeps {name value : String} {set : String → N → Option N}
    (hset : (Action.store set).Keeps I) (hns : I ns) (h : storeValue name set value ns = .ok ns') :
    I ns' := by
  unfold storeValue at h
  split at h
  · cases h
    exact hset _ _ _ ‹_› hns
  · cases h

/-- The readings of a vector name declared options. -/
theorem mem_of_classify {items : List (String × Reading N)}
    (h : classify options args = .ok items) :
    ∀ item ∈ items, ∀ o attached, item.2 = .option o attached → o ∈ options := by
  induction args generalizing items with
  | nil =>
      cases h
      exact nofun
  | cons s args ih =>
      rw [classify] at h
      split_ifs at h with hs
      · cases h
        simp
      · obtain ⟨reading, hreading, h⟩ := bind_eq_ok.mp h
        obtain ⟨readings, hreadings, hreturn⟩ := bind_eq_ok.mp h
        cases hreturn
        refine List.forall_mem_cons.mpr ⟨?_, ih hreadings⟩
        rintro o attached rfl
        exact mem_of_parseOptional hreading

theorem consume_keeps (hoptions : ∀ o ∈ options, o.action.Keeps I)
    {items : List (String × Reading N)}
    (hitems : ∀ item ∈ items, ∀ o attached, item.2 = .option o attached → o ∈ options)
    (hns : I ns) (h : consume options items ns = .ok (ns', extras)) : I ns' := by
  fun_induction consume options items ns generalizing ns' extras with
  | case1 =>
      cases h
      exact hns
  | case2 => cases h
  | case3 _ o attached ns actions name set value items hread ih =>
      obtain ⟨ho, hitems⟩ := List.forall_mem_cons.mp hitems
      obtain ⟨hactions, hset⟩ := unbundle_keeps hoptions (hoptions o (ho o attached rfl)) hread
      obtain ⟨ns₁, hrun, h⟩ := bind_eq_ok.mp h
      obtain ⟨ns₂, hstore, h⟩ := bind_eq_ok.mp h
      exact ih ns₂ (List.forall_mem_cons.mp hitems).2
        (storeValue_keeps hset (runActions_keeps hactions hns hrun) hstore) h
  | case4 => cases h
  | case5 _ o attached ns actions name set value items hread ih =>
      obtain ⟨ho, hitems⟩ := List.forall_mem_cons.mp hitems
      obtain ⟨hactions, hset⟩ := unbundle_keeps hoptions (hoptions o (ho o attached rfl)) hread
      obtain ⟨ns₁, hrun, h⟩ := bind_eq_ok.mp h
      obtain ⟨ns₂, hstore, h⟩ := bind_eq_ok.mp h
      exact ih ns₂ hitems (storeValue_keeps hset (runActions_keeps hactions hns hrun) hstore) h
  | case6 _ o attached ns actions leftOver items hread ih =>
      obtain ⟨ho, hitems⟩ := List.forall_mem_cons.mp hitems
      obtain ⟨hactions, -⟩ := unbundle_keeps hoptions (hoptions o (ho o attached rfl)) hread
      obtain ⟨ns₁, hrun, h⟩ := bind_eq_ok.mp h
      obtain ⟨⟨ns₂, rest⟩, hrest, hreturn⟩ := bind_eq_ok.mp h
      cases hreturn
      exact ih ns₁ hitems (runActions_keeps hactions hns hrun) hrest
  | case7 s reading items ns _ ih =>
      obtain ⟨⟨ns₂, rest⟩, hrest, hreturn⟩ := bind_eq_ok.mp h
      cases hreturn
      exact ih (List.forall_mem_cons.mp hitems).2 hns hrest

/-- What no option loses holds of the namespace that an accepted vector is parsed into. -/
theorem parseArgs_keeps (hoptions : ∀ o ∈ options, o.action.Keeps I) (hns : I ns)
    (h : parseArgs options ns args = .ok ns') : I ns' := by
  obtain ⟨items, hitems, hconsume⟩ := bind_eq_ok.mp (parseArgs_eq_ok h)
  exact consume_keeps hoptions (mem_of_classify hitems) hns hconsume

end Keeps

/-! ## Arguments -/

/-- A string that does not start with a dash is an argument. -/
theorem parseOptional_plain (h : s.toList.head? ≠ some '-') :
    parseOptional options s = .ok .argument := by
  unfold parseOptional
  cases hs : s.toList with
  | nil => rfl
  | cons c cs =>
      rw [hs] at h
      have hc : c ≠ '-' := by simpa using h
      split
      · rename_i heq
        exact absurd (List.cons.inj heq).1 hc
      · rfl

/-- A negative number is an argument when no option looks like one. -/
theorem parseOptional_negative {d : Char} {cs : List Char} (hs : s.toList = '-' :: d :: cs)
    (hd : d.isDigit) (hequals : '=' ∉ s.toList) (hnumber : isNegativeNumber s.toList = true)
    (hshort : ∀ o ∈ options, (o.name.toList.drop 1).head?.any Char.isDigit = false)
    (hnone : (options.any fun o => isNegativeNumber o.name.toList) = false) :
    parseOptional options s = .ok .argument := by
  -- no option string goes on with a digit
  have hname : ∀ o ∈ options, ∀ rest, o.name.toList ≠ '-' :: d :: rest := by
    intro o ho rest heq
    have hdigit := hshort o ho
    simp [heq, hd] at hdigit
  have hdash : d ≠ '-' := by
    rintro rfl
    revert hd
    decide
  have hfind : find options s.toList = none := by
    refine List.find?_eq_none.mpr fun o ho => ?_
    rw [hs]
    simpa using hname o ho cs
  have hvalue : (splitEquals s.toList).2 = none := by
    have hdrop : s.toList.dropWhile (· ≠ '=') = [] :=
      List.dropWhile_eq_nil_iff.mpr fun c hc => by
        have : c ≠ '=' := fun h => hequals (h ▸ hc)
        simpa using this
    rw [splitEquals, hdrop]
  have hcandidates : candidates options s.toList = [] := by
    rw [hs]
    unfold candidates
    split
    · rename_i heq
      exact absurd (List.cons.inj (List.cons.inj heq).2).1 hdash
    · refine List.filterMap_eq_nil_iff.mpr fun o ho => ?_
      have htake : o.name.toList ≠ ('-' :: d :: cs).take 2 := hname o ho []
      have hno : ('-' :: d :: cs).isPrefixOf o.name.toList = false := by
        rw [Bool.eq_false_iff]
        intro h
        obtain ⟨rest, hrest⟩ := List.isPrefixOf_iff_prefix.mp h
        exact hname o ho (cs ++ rest) hrest.symm
      rw [if_neg htake, hno, if_neg Bool.false_ne_true]
  have hread : parseAbbreviation options s = .ok .argument := by
    rw [parseAbbreviation, hcandidates]
    simp [hnumber, hnone]
  unfold parseOptional
  rw [hfind, hvalue, hread, hs]
  simp

end RbgPlanner.Base.Argparse

import RbgPlanner.Base.ValueSchema

/-!
# The status schema

The status part of the CustomResourceDefinition. Which strings are of the format
`date-time` is a parameter.
-/

namespace RbgPlanner.Api

open Base

/-! ## Patterns -/

/-- Characters in a row, the first and the last of them being `ends`. -/
def delimited (ends inner : Char → Bool) (cs : List Char) : Bool :=
  cs.head?.any ends && cs.getLast?.any ends && cs.all inner

/-- A label of a domain name. -/
def isLabel : List Char → Bool :=
  delimited (fun c => c.isLower || c.isDigit) fun c => c.isLower || c.isDigit || c == '-'

/-- The name in the pattern of `type`. -/
def isCamel : List Char → Bool :=
  delimited Char.isAlphanum fun c => c.isAlphanum || c == '-' || c == '_' || c == '.'

/-- The pattern of `type`: a name, that a domain may stand before. -/
def isConditionType (s : String) : Bool :=
  match s.toList.splitOn '/' with
  | [name] => isCamel name
  | [domain, name] => (domain.splitOn '.').all isLabel && isCamel name
  | _ => false

/-- The pattern of `reason`. -/
def isReason (s : String) : Bool :=
  match s.toList with
  | [] => false
  | c :: cs => c.isAlpha && (cs.getLast?.all fun c => c.isAlphanum || c == '_') &&
      cs.all fun c => c.isAlphanum || c == '_' || c == ',' || c == ':'

/-! ## The schema -/

def phases : List String := ["Pending", "Initializing", "Ready", "Failed"]

/-- The longest message of a condition. -/
def maxMessage : ℕ := 32768

section Schema

variable (dateTime : String → Bool)

def condition : ValueSchema :=
  .object
    [("lastTransitionTime", .string dateTime),
     ("message", .string fun s => decide (s.length ≤ maxMessage)),
     ("observedGeneration", .integer fun n => decide (0 ≤ n ∧ n ≤ 9223372036854775807)),
     ("reason", .string fun s => decide (1 ≤ s.length ∧ s.length ≤ 1024) && isReason s),
     ("status", .string fun s => ["True", "False", "Unknown"].contains s),
     ("type", .string fun s => decide (s.length ≤ 316) && isConditionType s)]
    ["lastTransitionTime", "message", "reason", "status", "type"]

/-- The fields of a status next to its conditions. -/
def statusFields : List (String × ValueSchema) :=
  [("decodeReplicas", .integer Schema.inInt32),
   ("lastTransitionTime", .string dateTime),
   ("phase", .string fun s => phases.contains s),
   ("plannerDeployment", .string fun _ => true),
   ("prefillReplicas", .integer Schema.inInt32),
   ("profilingConfigMap", .string fun _ => true)]

def autoScalerStatus : ValueSchema :=
  .object (("conditions", .array (condition dateTime)) :: statusFields dateTime) []

end Schema

end RbgPlanner.Api

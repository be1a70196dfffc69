import SyncSchema.Json.Misuse
import SyncSchema.Report

namespace SyncSchema.Report

inductive PartError where
  | repeated (family : Family) (name : String)
  | unknown (family : Family) (name : String)
  | tooMany (family : Family) (most given : Nat)
  | misuse (misuse : Misuse)
deriving DecidableEq

def PartError.message : PartError → String
  | repeated family name => s!"{family.name}.__init__() got multiple values for argument '{name}'"
  | unknown family name => s!"{family.name}.__init__() got an unexpected keyword argument '{name}'"
  | tooMany family most given =>
    s!"{family.name}.__init__() takes from 2 to {most} positional arguments but {given} were given"
  | misuse m => m.message

def firstParts : List String :=
  ["self", "message"]

def positions : Family → List String
  | .general => ["context", "suggestions", "error_code"]
  | .implicitJoin => ["relation_name"]
  | family => family.details

def nameError? (family : Family) (taken : List String) (name : String) : Option PartError :=
  if taken.contains name then some (.repeated family name)
  else if family = .general && !(positions family).contains name then some (.unknown family name)
  else none

/-- Every part with its value. Names are looked at before the number of values. -/
def bindParts (family : Family) (positional : List Json) (named : List (String × Json)) :
    Except PartError (List (String × Json)) :=
  let taken := firstParts ++ (positions family).take positional.length
  match named.findSome? fun part => nameError? family taken part.1 with
  | some error => .error error
  | none =>
    if (positions family).length < positional.length then
      .error (.tooMany family (positions family).length.succ.succ positional.length.succ.succ)
    else .ok ((positions family).zip positional ++ named)

/--
The entries of a context. A detail can only be noted in an object; without one, a context that does not
count as given has no entries.
-/
def contextEntries (family : Family) (parts : List (String × Json)) : Except Misuse (List (String × Json)) :=
  let context := (parts.lookup "context").getD (.obj [])
  let noted := family.details.any fun key => ((parts.lookup key).getD .null).isGiven
  match context.assignmentMisuse? with
  | some misuse =>
    if noted then .error misuse
    else if context.isGiven then context.entries?
    else .ok []
  | none => context.entries?

def ofParts (family : Family) (message : String) (positional : List Json) (named : List (String × Json)) :
    Except PartError Report := do
  let parts ← bindParts family positional named
  let context ← (contextEntries family parts).mapError .misuse
  let suggestions := (parts.lookup "suggestions").getD .null
  let _ ← suggestions.itemsIfGiven?.mapError .misuse
  let report := make family message parts context suggestions
  if family = .general then return { report with code := (parts.lookup "error_code").getD .null }
  return report

end SyncSchema.Report

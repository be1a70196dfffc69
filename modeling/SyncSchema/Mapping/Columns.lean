import SyncSchema.Json.Entries
import SyncSchema.Naming.Policy
import SyncSchema.Run
import SyncSchema.Schema.Basic

namespace SyncSchema

abbrev TypeTable := List (String × String)

namespace TypeTable

def standard : TypeTable := [
  ("String", "string()"),
  ("Boolean", "boolean()"),
  ("Int", "number()"),
  ("Float", "number()"),
  ("DateTime", "number()"),
  ("Json", "json()"),
  ("BigInt", "number()"),
  ("Decimal", "number()")]

def fallback : String := "string()"

def find? (types : TypeTable) (type : Json) : Except Misuse (Option String) := do
  match ← type.key? with
  | .str name => return types.lookup name
  | _ => return none

end TypeTable

namespace Field

def columnType (f : Field) (types : TypeTable) : Run String := do
  if f.isEnum then return s!"enumeration<{f.type.display}>()"
  match ← Run.check (types.find? f.type) with
  | some type => return type
  | none =>
    Run.log .debug
      s!"Unknown type '{f.type.display}' on field '{f.name.display}', using {TypeTable.fallback}"
    return TypeTable.fallback

def column (f : Field) (types : TypeTable) (storedAs : Option Json) : Run Column :=
  return { type := ← f.columnType types, isOptional := !f.isRequired.holds, storedAs }

def column? (f : Field) (types : TypeTable) (storedAs : Option Json) : Run Column :=
  if f.isList.holds then Run.fail (.invalid (.listColumn f.name)) else f.column types storedAs

end Field

namespace Model

/-- Column fields and their keys, in field order. `seen` holds those before, last one first. -/
def columnKeysFrom (naming : Naming) (model : Json) (seen : List (Json × Json)) :
    List Field → Except Failure (List (Json × Json))
  | [] => .ok seen.reverse
  | f :: rest =>
    if f.isColumn then
      match naming.resolveColumn f with
      | .error misuse => .error (.misuse misuse)
      | .ok (key, _) =>
        if !key.canBeKey then .error (.misuse (.notAKey key.kind))
        else
          match seen.find? (·.2 == key) with
          | some (first, _) => .error (.problem (.columnClash model first f.name key))
          | none => columnKeysFrom naming model ((f.name, key) :: seen) rest
    else columnKeysFrom naming model seen rest

def columnKeys (m : Model) (naming : Naming) : Except Failure (Entries Json) :=
  return .ofList (← columnKeysFrom naming m.name [] m.fields)

def columnsOf (naming : Naming) (types : TypeTable) (model : Json) : List Field → Run (Entries Column)
  | [] => return []
  | f :: rest =>
    if f.isRelation then columnsOf naming types model rest
    else if f.isList.holds then do
      Run.log .debug s!"Skipping list field {model.display}.{f.name.display}"
      columnsOf naming types model rest
    else do
      let (key, storedAs) ← Run.check (naming.resolveColumn f)
      let column ← f.column types storedAs
      let key ← Run.check key.key?
      return (key, column) :: (← columnsOf naming types model rest)

def columns (m : Model) (naming : Naming) (types : TypeTable) : Run (Entries Column) :=
  return .ofList (← columnsOf naming types m.name m.fields)

end Model

end SyncSchema

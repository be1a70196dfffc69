import SyncSchema.Datamodel.Basic
import SyncSchema.Json.Misuse
import SyncSchema.Naming.Camel

namespace SyncSchema

structure Naming where
  remapTables : Bool
  remapColumns : Bool
deriving DecidableEq

namespace Naming

def remap (asked : Bool) (name : Json) : Except Misuse Json :=
  if asked then return .str (camel (← name.text?)) else return name

def tableName (naming : Naming) (name : Json) : Except Misuse Json :=
  remap naming.remapTables name

def columnName (naming : Naming) (name : Json) : Except Misuse Json :=
  remap naming.remapColumns name

def renamed (old new : Json) : Json × Option Json :=
  if new == old then (old, none) else (new, some old)

/--
The key of a field's column and the database column it stands for when that has another name. A mapped
name wins: the key is then the field's own name, never put into camel case.
-/
def resolveColumn (naming : Naming) (f : Field) : Except Misuse (Json × Option Json) := do
  if f.mappedName.isGiven then
    return (f.name, if f.mappedName == f.name then none else some f.mappedName)
  return renamed f.name (← naming.columnName f.name)

def resolveTableName (naming : Naming) (source : Json) : Except Misuse (Json × Option Json) :=
  return renamed source (← naming.tableName source)

def resolveTable (naming : Naming) (m : Model) : Except Misuse (Json × Option Json) :=
  naming.resolveTableName m.sourceName

def constant (model : String) : String :=
  camel model ++ "Table"

def constant? (model : Json) : Except Misuse String :=
  return constant (← model.text?)

end Naming

end SyncSchema

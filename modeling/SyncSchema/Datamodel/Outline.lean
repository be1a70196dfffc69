import SyncSchema.Datamodel.Basic
import SyncSchema.Digest
import SyncSchema.Json.Printer
import SyncSchema.Run

namespace SyncSchema

def Field.outline (f : Field) : Json :=
  .obj [
    ("name", f.name),
    ("type", f.type),
    ("isRequired", f.isRequired.value),
    ("isList", f.isList.value),
    ("relationName", f.relationName),
    ("relationFromFields", .arr f.fromFields),
    ("relationToFields", .arr f.toFields),
    ("default", f.defaultValue),
    ("unique", f.isUnique.value)]

def Model.outline (m : Model) : Json :=
  .obj [
    ("name", m.name),
    ("dbName", m.mappedName),
    ("fields", .arr (m.fields.map Field.outline)),
    ("primaryKey", match m.primaryKey with | some names => .arr names | none => .null),
    ("uniqueFields", .arr (m.uniqueFields.map .arr)),
    ("uniqueIndexes", .arr m.uniqueIndexes)]

def EnumValue.outline (v : EnumValue) : Json :=
  .obj [("name", v.name), ("dbName", v.mappedName)]

def Enum.outline (e : Enum) : Json :=
  .obj [("name", e.name), ("values", .arr (e.values.map EnumValue.outline))]

namespace Datamodel

def outline (d : Datamodel) : Json :=
  .obj [("models", .arr (d.models.map Model.outline)), ("enums", .arr (d.enums.map Enum.outline))]

def payload (d : Datamodel) : String :=
  d.outline.render

def hash (d : Datamodel) : String :=
  Digest.hex (Digest.sha256 d.payload.toUTF8.toList)

def hashed (d : Datamodel) : Run String := do
  let _ ← Run.encode d.payload
  return d.hash

end Datamodel

end SyncSchema

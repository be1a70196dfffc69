import SyncSchema.Json.Equality

namespace SyncSchema

/-- A yes or no. A document gives one of the two; an edit may give any value, which means yes if it is given. -/
structure Flag where
  value : Json
deriving DecidableEq

namespace Flag

def ofBool (b : Bool) : Flag :=
  ⟨.bool b⟩

def holds (f : Flag) : Bool :=
  f.value.isGiven

@[simp] theorem holds_ofBool (b : Bool) : (ofBool b).holds = b := rfl

end Flag

structure Field where
  name : Json
  type : Json
  kind : Json
  mappedName : Json
  isRequired : Flag
  isList : Flag
  isId : Flag
  isUnique : Flag
  relationName : Json
  fromFields : List Json
  toFields : List Json
  defaultValue : Json
deriving DecidableEq

structure Model where
  name : Json
  mappedName : Json
  fields : List Field
  primaryKey : Option (List Json)
  uniqueFields : List (List Json)
  uniqueIndexes : List Json
deriving DecidableEq

structure EnumValue where
  name : Json
  mappedName : Json
deriving DecidableEq

structure Enum where
  name : Json
  values : List EnumValue
  mappedName : Json
deriving DecidableEq

structure Datamodel where
  models : List Model
  enums : List Enum
deriving DecidableEq

namespace Field

def isRelation (f : Field) : Bool :=
  f.relationName.isGiven

def isEnum (f : Field) : Bool :=
  f.kind == .str "enum"

def isColumn (f : Field) : Bool :=
  !f.isRelation && !f.isList.holds

end Field

namespace Model

def sourceName (m : Model) : Json :=
  m.mappedName.orElse m.name

def idField? (m : Model) : Option Field :=
  m.fields.find? (·.isId.holds)

/-- The declared key, else the id field alone, else nothing. -/
def keyFields (m : Model) : List Json :=
  match m.primaryKey with
  | some (name :: names) => name :: names
  | _ => m.idField?.toList.map (·.name)

def relationFields (m : Model) : List Field :=
  m.fields.filter (·.isRelation)

def field? (m : Model) (name : Json) : Option Field :=
  m.fields.find? (·.name == name)

end Model

def EnumValue.stored (v : EnumValue) : Json :=
  v.mappedName.orElse v.name

def Datamodel.model? (d : Datamodel) (name : Json) : Option Model :=
  d.models.find? (·.name == name)

end SyncSchema

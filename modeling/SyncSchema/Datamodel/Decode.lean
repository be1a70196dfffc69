import SyncSchema.Datamodel.Basic
import SyncSchema.Run

namespace SyncSchema

def Field.ofJson? (data : Json) : Except Misuse Field := do
  let name ← data.member? "name"
  let type ← data.member? "type"
  let kind ← data.memberOr? "kind" .null
  let mappedName ← data.memberOr? "dbName" .null
  let isRequired ← data.memberOr? "isRequired" (.bool true)
  let isList ← data.memberOr? "isList" (.bool false)
  let isId ← data.memberOr? "isId" (.bool false)
  let isUnique ← data.memberOr? "isUnique" (.bool false)
  let relationName ← data.memberOr? "relationName" .null
  let fromFields ← (← data.memberOr? "relationFromFields" .null).itemsIfGiven?
  let toFields ← (← data.memberOr? "relationToFields" .null).itemsIfGiven?
  let defaultValue ← data.memberOr? "default" .null
  return {
    name, type, mappedName, relationName, fromFields, toFields, defaultValue
    kind := kind.orElse (.str "scalar")
    isRequired := .ofBool isRequired.isGiven
    isList := .ofBool isList.isGiven
    isId := .ofBool isId.isGiven
    isUnique := .ofBool isUnique.isGiven }

def Model.keyOfJson? (declared : Json) : Except Misuse (Option (List Json)) := do
  if declared.isGiven then return some (← (← declared.member? "fields").items?)
  return none

def Model.ofJson? (data : Json) : Except Misuse Model := do
  let declared ← data.memberOr? "primaryKey" .null
  let name ← data.member? "name"
  let mappedName ← data.memberOr? "dbName" .null
  let fields ← (← (← data.memberOr? "fields" .null).itemsIfGiven?).mapM Field.ofJson?
  let primaryKey ← keyOfJson? declared
  let uniqueFields ← (← (← data.memberOr? "uniqueFields" .null).itemsIfGiven?).mapM Json.items?
  let uniqueIndexes ← (← data.memberOr? "uniqueIndexes" .null).itemsIfGiven?
  return { name, mappedName, fields, primaryKey, uniqueFields, uniqueIndexes }

def EnumValue.ofJson? (data : Json) : Except Misuse EnumValue := do
  let name ← data.member? "name"
  let mappedName ← data.memberOr? "dbName" .null
  return { name, mappedName }

def Enum.ofJson? (data : Json) : Except Misuse Enum := do
  let name ← data.member? "name"
  let values ← (← (← data.memberOr? "values" .null).itemsIfGiven?).mapM EnumValue.ofJson?
  let mappedName ← data.memberOr? "dbName" .null
  return { name, values, mappedName }

namespace Datamodel

def claimedName (data : Json) : Json :=
  match data with
  | .obj fields => (fields.lookup "name").getD .null
  | _ => .null

def modelProblem (data : Json) (index : Nat) : Misuse → Problem
  | .missing key => .incompleteModel index key (claimedName data)
  | misuse => .malformedModel index misuse (claimedName data)

def modelsOfJson? (data : List Json) : Except Problem (List Model) :=
  data.zipIdx.mapM fun (raw, index) => (Model.ofJson? raw).mapError (modelProblem raw index)

def enumsOfJson? (data : List Json) : Except Problem (List Enum) :=
  data.zipIdx.mapM fun (raw, index) => (Enum.ofJson? raw).mapError (Problem.malformedEnum index)

def sectionOf (document : Json) (fields : List (String × Json)) : Json :=
  (fields.lookup "datamodel").getD document

def listOf (fields : List (String × Json)) (key : String) : Json :=
  ((fields.lookup key).getD .null).orElse (.arr [])

def ofJson? (document : Json) : Except Problem Datamodel :=
  match document with
  | .obj fields =>
    match sectionOf document fields with
    | .obj fields =>
      if (fields.lookup "models").isNone then .error .noModels
      else
        match listOf fields "models", listOf fields "enums" with
        | .arr models, .arr enums => do
          let models ← modelsOfJson? models
          let enums ← enumsOfJson? enums
          return ⟨models, enums⟩
        | _, _ => .error .notLists
    | _ => .error .noModels
  | other => .error (.notAnObject other.kind)

def parse (document : Json) : Run Datamodel := do
  let d ← Run.lift ((ofJson? document).mapError .problem)
  Run.log .debug s!"Parsed DMMF document: {d.models.length} models, {d.enums.length} enums"
  return d

end Datamodel

end SyncSchema

import SyncSchema.Datamodel.Decode

namespace SyncSchema

inductive EditError where
  | notFound
  | outOfRange
  | misuse (misuse : Misuse)
  /-- What is assigned follows from the rest. -/
  | derived (owner name : String)
  | notAField (kind : Json.Kind)
deriving DecidableEq

def EditError.message : EditError → String
  | notFound => ""
  | outOfRange => "list index out of range"
  | misuse m => m.message
  | derived owner name => s!"property '{name}' of '{owner}' object has no setter"
  | notAField kind => s!"'{kind.name}' object has no attribute 'to_dict'"

namespace Edit

variable {α : Type}

def first (isMeant : α → Bool) (change : α → Except EditError α) : List α → Except EditError (List α)
  | [] => .error .notFound
  | item :: rest =>
    if isMeant item then return (← change item) :: rest
    else return item :: (← first isMeant change rest)

def remove (isMeant : α → Bool) : List α → Except EditError (List α)
  | [] => .error .notFound
  | item :: rest => if isMeant item then .ok rest else return item :: (← remove isMeant rest)

def atPlace (position : Nat) (change : α → Except EditError α) : List α → Except EditError (List α)
  | [] => .error .outOfRange
  | item :: rest =>
    match position with
    | 0 => return (← change item) :: rest
    | position + 1 => return item :: (← atPlace position change rest)

def nth (position : Int) (change : α → Except EditError α) (items : List α) : Except EditError (List α) :=
  let place := if position < 0 then position + items.length else position
  if place < 0 then .error .outOfRange else atPlace place.toNat change items

def place (position : Int) (length : Nat) : Nat :=
  if position < 0 then (position + length).toNat else min position.toNat length

def insert (position? : Option Int) (item : α) (items : List α) : List α :=
  match position? with
  | some position => items.insertIdx (place position items.length) item
  | none => items ++ [item]

end Edit

def itemsOf (value : Json) : Except EditError (List Json) :=
  value.items?.mapError .misuse

def noFields (value : Json) : Except EditError (List Field) :=
  (itemsOf value).bind fun
    | [] => .ok []
    | item :: _ => .error (.notAField item.kind)

def Field.assign (f : Field) (key : String) (value : Json) : Except EditError Field :=
  match key with
  | "name" => .ok { f with name := value }
  | "type" => .ok { f with type := value }
  | "kind" => .ok { f with kind := value }
  | "db_name" => .ok { f with mappedName := value }
  | "is_required" => .ok { f with isRequired := ⟨value⟩ }
  | "is_list" => .ok { f with isList := ⟨value⟩ }
  | "is_id" => .ok { f with isId := ⟨value⟩ }
  | "is_unique" => .ok { f with isUnique := ⟨value⟩ }
  | "relation_name" => .ok { f with relationName := value }
  | "relation_from_fields" => return { f with fromFields := ← itemsOf value }
  | "relation_to_fields" => return { f with toFields := ← itemsOf value }
  | "default" => .ok { f with defaultValue := value }
  | "is_relation" | "is_enum" => .error (.derived "FieldInfo" key)
  | _ => .ok f

def Model.assign (m : Model) (key : String) (value : Json) : Except EditError Model :=
  match key with
  | "name" => .ok { m with name := value }
  | "db_name" => .ok { m with mappedName := value }
  | "fields" => return { m with fields := ← noFields value }
  | "primary_key" =>
    if value = .arr [] then .ok { m with primaryKey := some [] }
    else if !value.isGiven then .ok { m with primaryKey := none }
    else return { m with primaryKey := some (← itemsOf value) }
  | "unique_fields" => return { m with uniqueFields := ← (← itemsOf value).mapM itemsOf }
  | "unique_indexes" => return { m with uniqueIndexes := ← itemsOf value }
  | "source_table_name" | "id_field" | "primary_key_fields" | "relation_fields" =>
    .error (.derived "ModelInfo" key)
  | _ => .ok m

def EnumValue.assign (v : EnumValue) (key : String) (value : Json) : Except EditError EnumValue :=
  match key with
  | "name" => .ok { v with name := value }
  | "db_name" => .ok { v with mappedName := value }
  | "value" => .error (.derived "EnumValue" key)
  | _ => .ok v

namespace Datamodel

def editModel (d : Datamodel) (model : Json) (change : Model → Except EditError Model) :
    Except EditError Datamodel :=
  return { d with models := ← Edit.first (·.name == model) change d.models }

def editField (d : Datamodel) (model field : Json) (change : Field → Except EditError Field) :
    Except EditError Datamodel :=
  d.editModel model fun m => return { m with fields := ← Edit.first (·.name == field) change m.fields }

def addField (d : Datamodel) (model : Json) (position? : Option Int) (f : Field) : Except EditError Datamodel :=
  d.editModel model fun m => .ok { m with fields := Edit.insert position? f m.fields }

def removeField (d : Datamodel) (model field : Json) : Except EditError Datamodel :=
  d.editModel model fun m => return { m with fields := ← Edit.remove (·.name == field) m.fields }

def addModel (d : Datamodel) (position? : Option Int) (m : Model) : Datamodel :=
  { d with models := Edit.insert position? m d.models }

def removeModel (d : Datamodel) (model : Json) : Except EditError Datamodel :=
  return { d with models := ← Edit.remove (·.name == model) d.models }

def editEnumValue (d : Datamodel) (enum value : Int) (change : EnumValue → Except EditError EnumValue) :
    Except EditError Datamodel :=
  return { d with
    enums := ← Edit.nth enum (fun e => return { e with values := ← Edit.nth value change e.values }) d.enums }

end Datamodel

end SyncSchema

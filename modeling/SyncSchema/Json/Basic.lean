import SyncSchema.Number.Binary64

namespace SyncSchema

inductive Json where
  | null
  | bool (b : Bool)
  | int (i : Int)
  | float (x : Floating)
  | str (s : String)
  | arr (items : List Json)
  | obj (fields : List (String × Json))
deriving Inhabited

namespace Json

mutual
def decEq : (a b : Json) → Decidable (a = b)
  | .null, .null => isTrue rfl
  | .bool a, .bool b => if h : a = b then isTrue (h ▸ rfl) else isFalse fun e => h (Json.bool.inj e)
  | .int a, .int b => if h : a = b then isTrue (h ▸ rfl) else isFalse fun e => h (Json.int.inj e)
  | .float a, .float b => if h : a = b then isTrue (h ▸ rfl) else isFalse fun e => h (Json.float.inj e)
  | .str a, .str b => if h : a = b then isTrue (h ▸ rfl) else isFalse fun e => h (Json.str.inj e)
  | .arr a, .arr b => match decEqItems a b with
    | isTrue h => isTrue (h ▸ rfl)
    | isFalse h => isFalse fun e => h (Json.arr.inj e)
  | .obj a, .obj b => match decEqFields a b with
    | isTrue h => isTrue (h ▸ rfl)
    | isFalse h => isFalse fun e => h (Json.obj.inj e)
  | .null, .bool _ | .null, .int _ | .null, .float _ | .null, .str _ | .null, .arr _ | .null, .obj _
  | .bool _, .null | .bool _, .int _ | .bool _, .float _ | .bool _, .str _ | .bool _, .arr _ | .bool _, .obj _
  | .int _, .null | .int _, .bool _ | .int _, .float _ | .int _, .str _ | .int _, .arr _ | .int _, .obj _
  | .float _, .null | .float _, .bool _ | .float _, .int _ | .float _, .str _ | .float _, .arr _ | .float _, .obj _
  | .str _, .null | .str _, .bool _ | .str _, .int _ | .str _, .float _ | .str _, .arr _ | .str _, .obj _
  | .arr _, .null | .arr _, .bool _ | .arr _, .int _ | .arr _, .float _ | .arr _, .str _ | .arr _, .obj _
  | .obj _, .null | .obj _, .bool _ | .obj _, .int _ | .obj _, .float _ | .obj _, .str _ | .obj _, .arr _ =>
    isFalse nofun

def decEqItems : (a b : List Json) → Decidable (a = b)
  | [], [] => isTrue rfl
  | a :: as, b :: bs => match decEq a b, decEqItems as bs with
    | isTrue h, isTrue hs => isTrue (h ▸ hs ▸ rfl)
    | isFalse h, _ => isFalse fun e => h (List.cons.inj e).1
    | _, isFalse hs => isFalse fun e => hs (List.cons.inj e).2
  | [], _ :: _ | _ :: _, [] => isFalse nofun

def decEqFields : (a b : List (String × Json)) → Decidable (a = b)
  | [], [] => isTrue rfl
  | (j, a) :: as, (k, b) :: bs =>
    if h : j = k then
      match decEq a b, decEqFields as bs with
      | isTrue ha, isTrue hs => isTrue (h ▸ ha ▸ hs ▸ rfl)
      | isFalse ha, _ => isFalse fun e => ha (Prod.mk.inj (List.cons.inj e).1).2
      | _, isFalse hs => isFalse fun e => hs (List.cons.inj e).2
    else isFalse fun e => h (Prod.mk.inj (List.cons.inj e).1).1
  | [], _ :: _ | _ :: _, [] => isFalse nofun
end

instance : DecidableEq Json := decEq

inductive Kind where
  | null | boolean | integer | float | string | list | object
deriving DecidableEq

def kind : Json → Kind
  | .null => .null
  | .bool _ => .boolean
  | .int _ => .integer
  | .float _ => .float
  | .str _ => .string
  | .arr _ => .list
  | .obj _ => .object

def Kind.name : Kind → String
  | .null => "NoneType"
  | .boolean => "bool"
  | .integer => "int"
  | .float => "float"
  | .string => "str"
  | .list => "list"
  | .object => "dict"

/-- A value counts as given unless it is null, false, a zero or empty. -/
def isGiven : Json → Bool
  | .null => false
  | .bool b => b
  | .int i => i != 0
  | .float (.finite d) => d.digits != 0
  | .float _ => true
  | .str s => !s.isEmpty
  | .arr items => !items.isEmpty
  | .obj fields => !fields.isEmpty

def canBeKey : Json → Bool
  | .arr _ | .obj _ => false
  | _ => true

def parts : Json → List Json
  | .arr items => items
  | .str s => s.toList.map fun c => .str (String.singleton c)
  | .obj fields => fields.map fun field => .str field.1
  | _ => []

def orElse (value other : Json) : Json :=
  if value.isGiven then value else other

@[simp] theorem isGiven_null : isGiven .null = false := rfl

@[simp] theorem isGiven_str (s : String) : isGiven (.str s) = !s.isEmpty := rfl

end Json

end SyncSchema

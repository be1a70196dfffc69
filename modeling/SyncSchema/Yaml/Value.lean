import SyncSchema.Json.Basic

namespace SyncSchema.Yaml

inductive Value where
  | null
  | bool (b : Bool)
  | int (i : Int)
  | float (x : Floating)
  | text (s : String)
  | bytes (data : List UInt8)
  | list (items : List Value)
  | mapping (entries : List (Value × Value))
  /-- A date, a set or the like: only its kind counts, and whether it is empty. -/
  | other (kind : String) (empty : Bool)
deriving Inhabited

namespace Value

mutual
def same : Value → Value → Bool
  | null, null => true
  | bool a, bool b => a == b
  | int a, int b => a == b
  | float a, float b => a = b
  | text a, text b => a == b
  | bytes a, bytes b => a == b
  | list a, list b => sameItems a b
  | mapping a, mapping b => sameEntries a b
  | other kind empty, other kind' empty' => kind == kind' && empty == empty'
  | _, _ => false

def sameItems : List Value → List Value → Bool
  | [], [] => true
  | a :: as, b :: bs => same a b && sameItems as bs
  | _, _ => false

def sameEntries : List (Value × Value) → List (Value × Value) → Bool
  | [], [] => true
  | (j, a) :: as, (k, b) :: bs => same j k && same a b && sameEntries as bs
  | _, _ => false
end

mutual
theorem same_iff (a b : Value) : same a b = true ↔ a = b := by
  cases a with
  | list as =>
    cases b with
    | list bs => rw [same, sameItems_iff as bs, list.injEq]
    | _ => simp [same]
  | mapping as =>
    cases b with
    | mapping bs => rw [same, sameEntries_iff as bs, mapping.injEq]
    | _ => simp [same]
  | _ => cases b <;> simp [same]

theorem sameItems_iff (as bs : List Value) : sameItems as bs = true ↔ as = bs := by
  match as, bs with
  | [], [] | [], _ :: _ | _ :: _, [] => simp [sameItems]
  | a :: as, b :: bs => rw [sameItems, Bool.and_eq_true, same_iff a b, sameItems_iff as bs, List.cons.injEq]

theorem sameEntries_iff (as bs : List (Value × Value)) : sameEntries as bs = true ↔ as = bs := by
  match as, bs with
  | [], [] | [], _ :: _ | _ :: _, [] => simp [sameEntries]
  | (j, a) :: as, (k, b) :: bs =>
    rw [sameEntries, Bool.and_eq_true, Bool.and_eq_true, same_iff j k, same_iff a b, sameEntries_iff as bs,
      List.cons.injEq, Prod.mk.injEq]
end

instance : DecidableEq Value :=
  fun a b => decidable_of_iff _ (same_iff a b)

def kindName : Value → String
  | null => Json.Kind.null.name
  | bool _ => Json.Kind.boolean.name
  | int _ => Json.Kind.integer.name
  | float _ => Json.Kind.float.name
  | text _ => Json.Kind.string.name
  | bytes _ => "bytes"
  | list _ => Json.Kind.list.name
  | mapping _ => Json.Kind.object.name
  | other kind _ => kind

def isGiven : Value → Bool
  | null => false
  | bool b => b
  | int i => i != 0
  | float x => (Json.float x).isGiven
  | text s => !s.isEmpty
  | bytes data => !data.isEmpty
  | list items => !items.isEmpty
  | mapping entries => !entries.isEmpty
  | other _ empty => !empty

mutual
def ofJson : Json → Value
  | .null => null
  | .bool b => bool b
  | .int i => int i
  | .float x => float x
  | .str s => text s
  | .arr items => list (ofItems items)
  | .obj fields => mapping (ofFields fields)

def ofItems : List Json → List Value
  | [] => []
  | item :: rest => ofJson item :: ofItems rest

def ofFields : List (String × Json) → List (Value × Value)
  | [] => []
  | (key, value) :: rest => (text key, ofJson value) :: ofFields rest
end

end Value

end SyncSchema.Yaml

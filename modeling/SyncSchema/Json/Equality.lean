import SyncSchema.Json.Basic

/-!
Equality of names. A number and a truth value of the same worth are the same name, and objects do not
depend on the order of their keys. Two values are the same exactly when they have one canonical form,
so `==` is an equivalence; on text it is equality.
-/

namespace SyncSchema.Json

def insertSorted (key : String) (value : Json) : List (String × Json) → List (String × Json)
  | [] => [(key, value)]
  | (k, v) :: rest =>
    if key < k then (key, value) :: (k, v) :: rest
    else if key = k then (key, value) :: rest
    else (k, v) :: insertSorted key value rest

def canonicalFloat (x : Floating) : Json :=
  match x with
  | .finite d =>
    let (num, den) := Floating.exact d
    if num % den = 0 then .int (num / den) else .float x
  | _ => .float x

mutual
def canonical : Json → Json
  | .null => .null
  | .bool b => .int b.toInt
  | .int i => .int i
  | .float x => canonicalFloat x
  | .str s => .str s
  | .arr items => .arr (canonicalItems items)
  | .obj fields => .obj (canonicalFields fields)

def canonicalItems : List Json → List Json
  | [] => []
  | item :: rest => item.canonical :: canonicalItems rest

def canonicalFields : List (String × Json) → List (String × Json)
  | [] => []
  | (key, value) :: rest => insertSorted key value.canonical (canonicalFields rest)
end

instance : BEq Json where
  beq a b := decide (a.canonical = b.canonical)

theorem beq_iff {a b : Json} : (a == b) = true ↔ a.canonical = b.canonical := by
  simp [BEq.beq]

instance : EquivBEq Json where
  rfl := beq_iff.2 rfl
  symm h := beq_iff.2 (beq_iff.1 h).symm
  trans h k := beq_iff.2 ((beq_iff.1 h).trans (beq_iff.1 k))

@[simp] theorem str_beq_str (s t : String) : (Json.str s == Json.str t) = (s == t) := by
  rw [Bool.eq_iff_iff, beq_iff]
  simp [canonical]

end SyncSchema.Json

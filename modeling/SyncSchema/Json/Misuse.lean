import SyncSchema.Json.Equality
import SyncSchema.Json.Display

namespace SyncSchema

inductive Misuse where
  | notText (kind : Json.Kind)
  | notAKey (kind : Json.Kind)
  | notOrdered (left right : Json.Kind)
  | notIterable (kind : Json.Kind)
  | notIndexed (kind : Json.Kind)
  | listIndexedByText
  | textIndexedByText
  | noMembers (kind : Json.Kind)
  | missing (key : String)
  | notJoinable (index : Nat) (kind : Json.Kind)
  | notAPath (kind : Json.Kind)
  | notAssignable (kind : Json.Kind)
  | noEntries (kind : Json.Kind)
  | notAName (kind : Json.Kind)
deriving DecidableEq

def Misuse.message : Misuse → String
  | notText kind => s!"Expected string, got {kind.name}"
  | notAKey kind => s!"unhashable type: '{kind.name}'"
  | notOrdered left right => s!"'<' not supported between instances of '{left.name}' and '{right.name}'"
  | notIterable kind => s!"'{kind.name}' object is not iterable"
  | notIndexed kind => s!"'{kind.name}' object is not subscriptable"
  | listIndexedByText => "list indices must be integers or slices, not str"
  | textIndexedByText => "string indices must be integers, not 'str'"
  | noMembers kind => s!"'{kind.name}' object has no attribute 'get'"
  | missing key => Text.literal key
  | notJoinable index kind => s!"sequence item {index}: expected str instance, {kind.name} found"
  | notAPath kind => s!"expected str, bytes or os.PathLike object, not {kind.name}"
  | notAssignable kind => s!"'{kind.name}' object does not support item assignment"
  | noEntries kind => s!"'{kind.name}' object has no attribute 'items'"
  | notAName kind => s!"attribute name must be string, not '{kind.name}'"

namespace Json

def text? : Json → Except Misuse String
  | .str s => .ok s
  | value => .error (.notText value.kind)

def attribute? : Json → Except Misuse String
  | .str s => .ok s
  | value => .error (.notAName value.kind)

def key? (value : Json) : Except Misuse Json :=
  if value.canBeKey then .ok value else .error (.notAKey value.kind)

def items? (value : Json) : Except Misuse (List Json) :=
  match value with
  | .arr _ | .str _ | .obj _ => .ok value.parts
  | value => .error (.notIterable value.kind)

def assignmentMisuse? : Json → Option Misuse
  | .obj _ => none
  | .arr _ => some .listIndexedByText
  | value => some (.notAssignable value.kind)

def entries? : Json → Except Misuse (List (String × Json))
  | .obj fields => .ok fields
  | value => .error (.noEntries value.kind)

def itemsIfGiven? (value : Json) : Except Misuse (List Json) :=
  if value.isGiven then value.items? else .ok []

def member? (value : Json) (key : String) : Except Misuse Json :=
  match value with
  | .obj fields =>
    match fields.lookup key with
    | some found => .ok found
    | none => .error (.missing key)
  | .arr _ => .error .listIndexedByText
  | .str _ => .error .textIndexedByText
  | value => .error (.notIndexed value.kind)

def memberOr? (value : Json) (key : String) (absent : Json) : Except Misuse Json :=
  match value with
  | .obj fields => .ok ((fields.lookup key).getD absent)
  | value => .error (.noMembers value.kind)

/-- A number as a fraction, with a tier below and above for the infinities. -/
def worth? : Json → Option (Int × Int × Nat)
  | .bool b => some (0, b.toInt, 1)
  | .int i => some (0, i, 1)
  | .float (.finite d) => let (num, den) := Floating.exact d; some (0, num, den)
  | .float (.infinite negative) => some (if negative then -1 else 1, 0, 1)
  | _ => none

mutual
def lt? : Json → Json → Except Misuse Bool
  | .str s, .str t => .ok (decide (s < t))
  | .arr as, .arr bs => ltItems? as bs
  | a, b =>
    match a.worth?, b.worth? with
    | some (i, m, d), some (j, n, e) => .ok (i < j || i == j && decide (m * e < n * d))
    | _, _ =>
      if a.kind = .float && b.worth?.isSome || b.kind = .float && a.worth?.isSome ||
          a.kind = .float && b.kind = .float then .ok false
      else .error (.notOrdered a.kind b.kind)

def ltItems? : List Json → List Json → Except Misuse Bool
  | [], bs => .ok !bs.isEmpty
  | _ :: _, [] => .ok false
  | a :: as, b :: bs => if a == b then ltItems? as bs else lt? a b
end

def insertName (name : Json) : List Json → Except Misuse (List Json)
  | [] => .ok [name]
  | other :: rest => do
    if ← name.lt? other then return name :: other :: rest
    return other :: (← insertName name rest)

def sortNames (names : List Json) : Except Misuse (List Json) :=
  names.foldlM (fun sorted name => insertName name sorted) []

def joinTexts (names : List Json) : Except Misuse String := do
  let texts ← names.zipIdx.mapM fun (name, index) =>
    match name with
    | .str s => .ok s
    | value => .error (Misuse.notJoinable index value.kind)
  return ", ".intercalate texts

end Json

end SyncSchema

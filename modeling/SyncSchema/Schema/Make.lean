import SyncSchema.Failure
import SyncSchema.Schema.Basic

namespace SyncSchema

def Cardinality.ofJson? (value : Json) : Except Invalid Cardinality :=
  match value with
  | .str name =>
    match Cardinality.ofName? name with
    | some cardinality => .ok cardinality
    | none => .error (.cardinality value)
  | _ => .error (.cardinality value)

def Relationship.make? (cardinality : Cardinality) (link : Option Link) (chain : Option (List Link)) :
    Except Invalid Relationship :=
  match link, chain with
  | some link, none => .ok ⟨cardinality, .direct link⟩
  | none, some [first, second] => .ok ⟨cardinality, .chain first second⟩
  | none, some _ => .error .chainLength
  | _, _ => .error .linkOrChain

end SyncSchema

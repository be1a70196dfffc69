import SyncSchema.Yaml.Graph
import SyncSchema.Yaml.Token

namespace SyncSchema.Yaml

structure Document where
  graph : Graph
  root : NodeId

structure Reading where
  anchors : List (String × NodeId)
  graph : Graph
  tokens : List Token

structure Properties where
  anchor? : Option String
  tag? : Option String

def faultAt : List Token → Fault
  | .broken fault :: _ => fault
  | _ => .malformed

namespace Properties

def tagOr (p : Properties) (other : Tag) : Tag :=
  match p.tag? with
  | none | some "!" => other
  | some name => .ofName name

def scalar (p : Properties) (plain : Bool) (text : String) : Node :=
  ⟨p.tagOr (if plain || p.tag?.isSome then .ofPlain text else .text), .scalar text⟩

def isEmpty (p : Properties) : Bool :=
  p.anchor?.isNone && p.tag?.isNone

def standardHandles : List (String × String) :=
  [("!", "!"), ("!!", Tag.root)]

def tagName (handles : List (String × String)) (handle? : Option String) (suffix : String) :
    Except Fault String :=
  match handle? with
  | none => .ok suffix
  | some handle =>
    match handles.lookup handle with
    | some meaning => .ok (meaning ++ suffix)
    | none => .error .malformed

def read (handles : List (String × String)) : List Token → Except Fault (Properties × List Token)
  | .anchor name :: .tag handle? suffix :: rest
  | .tag handle? suffix :: .anchor name :: rest => do
    return (⟨some name, some (← tagName handles handle? suffix)⟩, rest)
  | .anchor name :: rest => .ok (⟨some name, none⟩, rest)
  | .tag _ _ :: .broken fault :: _ => .error fault
  | .tag handle? suffix :: rest => do return (⟨none, some (← tagName handles handle? suffix)⟩, rest)
  | rest => .ok (⟨none, none⟩, rest)

end Properties

namespace Reading

def add (r : Reading) (p : Properties) (node : Node) : NodeId × Reading :=
  let (id, graph) := r.graph.add node
  (id, { r with graph, anchors := (p.anchor?.map (·, id)).toList ++ r.anchors })

def isFree (r : Reading) (anchor : String) : Bool :=
  !r.anchors.any (·.1 == anchor)

def endsEntry : List Token → Bool
  | .blockEntry :: _ | .blockEnd :: _ => true
  | _ => false

def endsValue : List Token → Bool
  | .key :: _ | .value :: _ | .blockEnd :: _ => true
  | _ => false

def endsFlow : List Token → Bool
  | .flowEntry :: _ | .flowListEnd :: _ | .flowMappingEnd :: _ => true
  | _ => false

def endsFlowKey : List Token → Bool
  | .value :: _ => true
  | tokens => endsFlow tokens

def absent (r : Reading) : NodeId × Reading :=
  r.add ⟨none, none⟩ ⟨.ofPlain "", .scalar ""⟩

def separated (first : Bool) : List Token → Except Fault (List Token)
  | .flowEntry :: tokens => if first then .error .malformed else .ok tokens
  | tokens => if first then .ok tokens else .error (faultAt tokens)

def list (p : Properties) (items : Reading → Except Fault (List NodeId × Reading)) (r : Reading) :
    Except Fault (NodeId × Reading) := do
  let (id, r) := r.add p ⟨p.tagOr .list, .list []⟩
  let (items, r) ← items r
  return (id, { r with graph := r.graph.setContent id (.list items) })

def mapping (p : Properties) (entries : Reading → Except Fault (List (NodeId × NodeId) × Reading))
    (r : Reading) : Except Fault (NodeId × Reading) := do
  let (id, r) := r.add p ⟨p.tagOr .mapping, .mapping []⟩
  let (entries, r) ← entries r
  return (id, { r with graph := r.graph.setContent id (.mapping entries) })

mutual
/-- One node. Each call passes on less `fuel` than it got, and takes at most three to read a token. -/
def node (handles : List (String × String)) (inBlock indentless : Bool) :
    Nat → Reading → Except Fault (NodeId × Reading)
  | 0, _ => .error .malformed
  | fuel + 1, r =>
    match r.tokens with
    | .reference name :: tokens =>
      match r.anchors.lookup name with
      | some id => .ok (id, { r with tokens })
      | none => .error .malformed
    | tokens => do
      let (p, tokens) ← Properties.read handles tokens
      if let .broken fault :: _ := tokens then throw fault
      if !p.anchor?.all r.isFree then throw .malformed
      let at_ (tokens : List Token) : Reading := { r with tokens }
      match tokens, inBlock, indentless with
      | .blockEntry :: _, _, true => list p (entries handles true fuel) (at_ tokens)
      | .scalar plain text :: rest, _, _ => return (at_ rest).add p (p.scalar plain text)
      | .flowListStart :: rest, _, _ => list p (flowItems handles true fuel) (at_ rest)
      | .flowMappingStart :: rest, _, _ => mapping p (flowPairs handles true fuel) (at_ rest)
      | .listStart :: rest, true, _ => list p (entries handles false fuel) (at_ rest)
      | .mappingStart :: rest, true, _ => mapping p (pairs handles fuel) (at_ rest)
      | _, _, _ => if p.isEmpty then throw .malformed else return (at_ tokens).add p (p.scalar true "")

def entries (handles : List (String × String)) (indentless : Bool) :
    Nat → Reading → Except Fault (List NodeId × Reading)
  | 0, _ => .error .malformed
  | fuel + 1, r =>
    match r.tokens, indentless with
    | .blockEntry :: tokens, _ => do
      let r := { r with tokens }
      let ends := endsEntry tokens || indentless && endsValue tokens
      let (id, r) ← if ends then pure r.absent else node handles true false fuel r
      let (more, r) ← entries handles indentless fuel r
      return (id :: more, r)
    | _, true => .ok ([], r)
    | .blockEnd :: tokens, false => .ok ([], { r with tokens })
    | tokens, false => .error (faultAt tokens)

def pairs (handles : List (String × String)) : Nat → Reading → Except Fault (List (NodeId × NodeId) × Reading)
  | 0, _ => .error .malformed
  | fuel + 1, r =>
    match r.tokens with
    | .key :: tokens => do
      let r := { r with tokens }
      let (key, r) ← if endsValue tokens then pure r.absent else node handles true true fuel r
      let (value, r) ←
        match r.tokens with
        | .value :: tokens =>
          let r := { r with tokens }
          if endsValue tokens then pure r.absent else node handles true true fuel r
        | _ => pure r.absent
      let (more, r) ← pairs handles fuel r
      return ((key, value) :: more, r)
    | .blockEnd :: tokens => .ok ([], { r with tokens })
    | tokens => .error (faultAt tokens)

def flowPair (handles : List (String × String)) : Nat → Reading → Except Fault ((NodeId × NodeId) × Reading)
  | 0, _ => .error .malformed
  | fuel + 1, r => do
    let (key, r) ← if endsFlowKey r.tokens then pure r.absent else node handles false false fuel r
    let (value, r) ←
      match r.tokens with
      | .value :: tokens =>
        let r := { r with tokens }
        if endsFlow tokens then pure r.absent else node handles false false fuel r
      | _ => pure r.absent
    return ((key, value), r)

def flowItems (handles : List (String × String)) (first : Bool) :
    Nat → Reading → Except Fault (List NodeId × Reading)
  | 0, _ => .error .malformed
  | fuel + 1, r =>
    match r.tokens with
    | .flowListEnd :: tokens => .ok ([], { r with tokens })
    | tokens => do
      match ← separated first tokens with
      | .flowListEnd :: tokens => return ([], { r with tokens })
      | .key :: tokens =>
        let (id, r) ←
          mapping ⟨none, none⟩ (fun r => (flowPair handles fuel r).map fun (pair, r) => ([pair], r))
            { r with tokens }
        let (more, r) ← flowItems handles false fuel r
        return (id :: more, r)
      | tokens =>
        let (id, r) ← node handles false false fuel { r with tokens }
        let (more, r) ← flowItems handles false fuel r
        return (id :: more, r)

def flowPairs (handles : List (String × String)) (first : Bool) :
    Nat → Reading → Except Fault (List (NodeId × NodeId) × Reading)
  | 0, _ => .error .malformed
  | fuel + 1, r =>
    match r.tokens with
    | .flowMappingEnd :: tokens => .ok ([], { r with tokens })
    | tokens => do
      match ← separated first tokens with
      | .flowMappingEnd :: tokens => return ([], { r with tokens })
      | .key :: tokens =>
        let (pair, r) ← flowPair handles fuel { r with tokens }
        let (more, r) ← flowPairs handles false fuel r
        return (pair :: more, r)
      | tokens =>
        let (key, r) ← node handles false false fuel { r with tokens }
        let (value, r) := r.absent
        let (more, r) ← flowPairs handles false fuel r
        return ((key, value) :: more, r)
end

end Reading

structure Prologue where
  hasVersion : Bool
  handles : List (String × String)

namespace Prologue

def read (p : Prologue) : List Token → Except Fault (Prologue × List Token)
  | .directive (.version major) :: rest =>
    if p.hasVersion || major != 1 then .error .malformed else read { p with hasVersion := true } rest
  | .directive (.handle handle meaning) :: rest =>
    if p.handles.any (·.1 == handle) then .error .malformed
    else read { p with handles := (handle, meaning) :: p.handles } rest
  | .directive .other :: rest => read p rest
  | rest => .ok (p, rest)

def readStart (tokens : List Token) : Except Fault (Prologue × List Token) := do
  match ← read ⟨false, []⟩ tokens with
  | (p, .documentStart :: rest) => return (p, rest)
  | (_, rest) => throw (faultAt rest)

end Prologue

namespace Document

def isEmpty : List Token → Bool
  | .directive _ :: _ | .documentStart :: _ | .documentEnd :: _ | .textEnd :: _ => true
  | _ => false

def isEnd : Token → Bool
  | .documentEnd => true
  | _ => false

/-- Only a document ends may follow; another document is an error, seen at its start. -/
def close (tokens : List Token) : Except Fault Unit :=
  match tokens.dropWhile isEnd with
  | .textEnd :: _ => .ok ()
  | rest => (Prologue.readStart rest).bind fun _ => .error .malformed

def ofContent (handles : List (String × String)) (tokens : List Token) : Except Fault Document := do
  let start : Reading := ⟨[], .empty, tokens⟩
  let (root, r) ←
    if isEmpty tokens then pure start.absent
    else start.node (handles ++ Properties.standardHandles) true false (3 * tokens.length + 3)
  close r.tokens
  return ⟨r.graph, root⟩

def ofTokens (tokens : List Token) : Except Fault (Option Document) :=
  match tokens with
  | .textEnd :: _ => .ok none
  | .directive _ :: _ | .documentStart :: _ => do
    let (p, rest) ← Prologue.readStart tokens
    return some (← ofContent p.handles rest)
  | .documentEnd :: _ => .error .malformed
  | _ => do return some (← ofContent [] tokens)

end Document

end SyncSchema.Yaml

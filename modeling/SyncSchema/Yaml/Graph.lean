import SyncSchema.Yaml.Flaw
import SyncSchema.Yaml.Tag

namespace SyncSchema.Yaml

abbrev NodeId := Nat

inductive Content where
  | scalar (text : String)
  | list (items : List NodeId)
  | mapping (entries : List (NodeId × NodeId))

structure Node where
  tag : Tag
  content : Content

structure Graph where
  nodes : Array Node

namespace Graph

def empty : Graph :=
  ⟨#[]⟩

def size (g : Graph) : Nat :=
  g.nodes.size

def node? (g : Graph) (id : NodeId) : Option Node :=
  g.nodes[id]?

def add (g : Graph) (node : Node) : NodeId × Graph :=
  (g.size, ⟨g.nodes.push node⟩)

def setContent (g : Graph) (id : NodeId) (content : Content) : Graph :=
  ⟨g.nodes.modify id fun node => { node with content }⟩

def setTag (g : Graph) (id : NodeId) (tag : Tag) : Graph :=
  ⟨g.nodes.modify id fun node => { node with tag }⟩

def hasTag (g : Graph) (id : NodeId) (tag : Tag) : Bool :=
  (g.node? id).any (·.tag = tag)

def entries (g : Graph) (id : NodeId) : List (NodeId × NodeId) :=
  match g.node? id with
  | some ⟨_, .mapping entries⟩ => entries
  | _ => []

def isMapping (g : Graph) (id : NodeId) : Bool :=
  match g.node? id with
  | some ⟨_, .mapping _⟩ => true
  | _ => false

def takeMerge? (g : Graph) : List (NodeId × NodeId) → Option (NodeId × List (NodeId × NodeId))
  | [] => none
  | (key, value) :: rest =>
    if g.hasTag key .merge then some (value, rest)
    else (g.takeMerge? rest).map fun (source, others) => (source, (key, value) :: others)

/--
The entries that a merge key brings: those of a mapping, or of a list of mappings. Of equal keys the last
one counts, so the first mapping of a list comes last.
-/
def gather (flatten : Graph → NodeId → Option Graph) (g : Graph) (source : NodeId) :
    Option (Graph × List (NodeId × NodeId)) :=
  match g.node? source with
  | some ⟨_, .mapping _⟩ => (flatten g source).map fun g => (g, g.entries source)
  | some ⟨_, .list items⟩ =>
    items.foldlM (fun (g, found) item =>
      if g.isMapping item then (flatten g item).map fun g => (g, g.entries item ++ found) else none) (g, [])
  | _ => none

def nameKeys (g : Graph) (entries : List (NodeId × NodeId)) : Graph :=
  entries.foldl (fun g (key, _) => if g.hasTag key .value then g.setTag key .text else g) g

/--
Puts what the merge keys of a mapping bring in front of its own entries. A merge key is taken out before
the mappings behind it are looked at, so a mapping may bring itself, and the calls nest no deeper than
there are entries.
-/
def flattenWithin : Nat → Graph → NodeId → Option Graph
  | 0, _, _ => none
  | fuel + 1, g, id =>
    match g.takeMerge? (g.entries id) with
    | none => some (g.nameKeys (g.entries id))
    | some (source, others) => do
      let (g, merged) ← gather (flattenWithin fuel) (g.setContent id (.mapping others)) source
      let g ← flattenWithin fuel g id
      return g.setContent id (.mapping (merged ++ g.entries id))

def entryCount (g : Graph) : Nat :=
  g.nodes.foldl (fun count node =>
    match node.content with
    | .mapping entries => count + entries.length
    | _ => count) 0

def flatten (g : Graph) (id : NodeId) : Option Graph :=
  flattenWithin (g.entryCount + 1) g id

/--
The text of a scalar, or of the first value under an equals sign in a mapping that stands for one. A
longer chain than there are nodes goes round in a circle.
-/
def textWithin (g : Graph) : Nat → NodeId → Except Fault String
  | 0, _ => .error (.flaw .endless)
  | fuel + 1, id =>
    match g.node? id with
    | some ⟨_, .scalar text⟩ => .ok text
    | some ⟨_, .mapping entries⟩ =>
      match entries.find? fun entry => g.hasTag entry.1 .value with
      | some (_, value) => textWithin g fuel value
      | none => .error .malformed
    | _ => .error .malformed

def text (g : Graph) (id : NodeId) : Except Fault String :=
  g.textWithin (g.size + 1) id

end Graph

end SyncSchema.Yaml

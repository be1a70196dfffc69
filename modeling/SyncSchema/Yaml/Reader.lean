import SyncSchema.Text.Base64
import SyncSchema.Yaml.Document
import SyncSchema.Yaml.Value

namespace SyncSchema.Yaml

def Tag.valueOf (tag : Tag) (text : String) : Except Fault Value :=
  match tag with
  | .null => .ok .null
  | .bool =>
    let word := String.ofList (Text.lower text.toList)
    match Tag.flags.lookup word with
    | some flag => .ok (.bool flag)
    | none => .error (.flaw (.flag word))
  | .int => ((Integer.read text.toList).map .int).mapError .flaw
  | .float => ((Fraction.read text.toList).map .float).mapError .flaw
  | .binary =>
    if !text.toList.all (·.val < 128) then .error .malformed
    else
      match Text.Base64.decode? text.toList with
      | some bytes => .ok (.bytes bytes)
      | none => .error .malformed
  | .timestamp =>
    match Stamp.ofText? (dropLineFeed text.toList) with
    | none => .error (.flaw .notATime)
    | some stamp => (stamp.kind.map (Value.other · false)).mapError .flaw
  | .text => .ok (.text text)
  | _ => .error .malformed

namespace Tag

def collection? : Tag → Option String
  | list | orderedPairs | pairs => some "list"
  | mapping => some "dict"
  | set => some "set"
  | _ => none

def isForeign : Tag → Bool
  | merge | value | unknown => true
  | _ => false

end Tag

def Value.canBeKey : Value → Bool
  | list _ | mapping _ => false
  | other kind _ => kind == "date" || kind == "datetime"
  | _ => true

def Graph.scalarValue (g : Graph) (id : NodeId) (tag : Tag) : Except Fault Value := do
  if tag.isForeign then throw .malformed
  let text ← g.text id
  if tag = .timestamp && g.isMapping id then throw (.flaw .timeOfEntries)
  tag.valueOf text

structure Making where
  graph : Graph
  /-- The values made so far; of a collection only its kind. -/
  made : Array (Option Value)
  pending : List NodeId

namespace Making

def start (g : Graph) : Making :=
  ⟨g, Array.replicate g.size none, []⟩

def value? (m : Making) (id : NodeId) : Option Value :=
  m.made[id]?.join

def remember (m : Making) (id : NodeId) (value : Value) : Making :=
  { m with made := m.made.set! id (some value) }

def make (m : Making) (id : NodeId) : Except Fault (Value × Making) :=
  match m.value? id, m.graph.node? id with
  | some value, _ => .ok (value, m)
  | none, none => .error .malformed
  | none, some node =>
    match node.tag.collection? with
    | some kind =>
      let value := Value.other kind true
      .ok (value, { m.remember id value with pending := id :: m.pending })
    | none => (m.graph.scalarValue id node.tag).map fun value => (value, m.remember id value)

def makeAll (m : Making) (ids : List NodeId) : Except Fault Making :=
  ids.foldlM (fun m id => (m.make id).map (·.2)) m

def makeEntry (m : Making) (entry : NodeId × NodeId) : Except Fault Making := do
  let (key, m) ← m.make entry.1
  if !key.canBeKey then throw .malformed
  m.makeAll [entry.2]

def makePair (m : Making) (item : NodeId) : Except Fault Making :=
  match m.graph.entries item with
  | [(key, value)] => m.makeAll [key, value]
  | _ => .error .malformed

def openNode (m : Making) (id : NodeId) : Except Fault Making :=
  match m.graph.node? id with
  | some ⟨.list, .list items⟩ => m.makeAll items
  | some ⟨.orderedPairs, .list items⟩ | some ⟨.pairs, .list items⟩ => items.foldlM makePair m
  | some ⟨.mapping, .mapping _⟩ | some ⟨.set, .mapping _⟩ =>
    match m.graph.flatten id with
    | some graph => (graph.entries id).foldlM makeEntry { m with graph }
    | none => .error .malformed
  | _ => .error .malformed

/-- Opens what is pending, one depth after the other. Every depth has a node of its own. -/
def openWithin : Nat → Making → Except Fault Making
  | 0, m => .ok m
  | depths + 1, m => do
    if m.pending.isEmpty then return m
    openWithin depths (← m.pending.reverse.foldlM openNode { m with pending := [] })

/-- The value of a node whose collections are opened down to a depth; below it only kinds count. -/
def valueWithin (m : Making) : Nat → NodeId → Value
  | 0, id => (m.value? id).getD .null
  | depth + 1, id =>
    match m.graph.node? id with
    | some ⟨.list, .list items⟩ => .list (items.map (valueWithin m depth))
    | some ⟨.orderedPairs, .list items⟩ | some ⟨.pairs, .list items⟩ =>
      .list (items.map fun _ => .other "tuple" false)
    | some ⟨.mapping, .mapping entries⟩ =>
      .mapping (entries.map fun (key, value) => (valueWithin m depth key, valueWithin m depth value))
    | some ⟨.set, .mapping entries⟩ => .other "set" entries.isEmpty
    | _ => (m.value? id).getD .null

end Making

def Document.value (d : Document) : Except Fault Value := do
  let (_, m) ← (Making.start d.graph).make d.root
  return (← m.openWithin d.graph.size).valueWithin 2 d.root

def read (text : List Char) : Except Fault Value := do
  match ← Document.ofTokens (Token.scan text) with
  | none => return .null
  | some document => document.value

end SyncSchema.Yaml

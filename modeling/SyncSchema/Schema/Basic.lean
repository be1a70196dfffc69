import SyncSchema.Datamodel.Basic

namespace SyncSchema

structure Column where
  type : String
  isOptional : Bool
  /-- The database column, where its name is not the key. -/
  storedAs : Option Json
deriving DecidableEq

structure Link where
  source : List Json
  dest : List Json
  target : String
deriving DecidableEq

inductive Cardinality where
  | one
  | many
deriving DecidableEq

def Cardinality.name : Cardinality → String
  | one => "one"
  | many => "many"

inductive Route where
  | direct (link : Link)
  | chain (first second : Link)
deriving DecidableEq

def Route.links : Route → List Link
  | direct link => [link]
  | chain first second => [first, second]

def Route.isChain : Route → Bool
  | direct _ => false
  | chain _ _ => true

structure Relationship where
  cardinality : Cardinality
  route : Route
deriving DecidableEq

def Cardinality.ofName? : String → Option Cardinality
  | "one" => some .one
  | "many" => some .many
  | _ => none

structure Table where
  name : Json
  /-- The database table, where its name is another one. -/
  storedAs : Option Json
  model : String
  constant : String
  columns : List (Json × Column)
  primaryKey : List Json
  relationships : List (Json × Relationship)
deriving DecidableEq

namespace Table

def cardinalities (t : Table) : List Cardinality :=
  [Cardinality.one, .many].filter fun c => t.relationships.any (·.2.cardinality = c)

end Table

structure Schema where
  tables : List Table
  enums : List Enum
deriving DecidableEq

namespace Schema

def related (s : Schema) : List Table :=
  s.tables.filter fun t => !t.relationships.isEmpty

def table? (s : Schema) (model : String) : Option Table :=
  s.tables.find? (·.model == model)

end Schema

end SyncSchema

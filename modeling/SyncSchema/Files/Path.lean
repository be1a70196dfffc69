namespace SyncSchema

abbrev Location := List String

/-- A path is relative when its root is empty. A root of exactly two slashes is a root of its own. -/
structure Path where
  root : String
  parts : List String
deriving DecidableEq

namespace Path

def splitSlashes : List Char → List (List Char)
  | [] => [[]]
  | c :: rest =>
    match splitSlashes rest with
    | part :: parts => if c = '/' then [] :: part :: parts else (c :: part) :: parts
    | [] => [[c]]

def isStep (part : String) : Bool :=
  part != "" && part != "."

def rootOf (text : List Char) : String :=
  match text.takeWhile (· == '/') with
  | [] => ""
  | ['/', '/'] => "//"
  | _ => "/"

def ofText (text : String) : Path :=
  ⟨rootOf text.toList, ((splitSlashes text.toList).map String.ofList).filter isStep⟩

def text (p : Path) : String :=
  if p.root.isEmpty && p.parts.isEmpty then "." else p.root ++ "/".intercalate p.parts

def join (p q : Path) : Path :=
  if q.root.isEmpty then ⟨p.root, p.parts ++ q.parts⟩ else q

def isProper (p : Path) : Bool :=
  p.parts.all fun part => !part.toList.contains '\x00'

def parent (p : Path) : Path :=
  ⟨p.root, p.parts.dropLast⟩

def start (current : Location) (p : Path) : Location :=
  if p.root.isEmpty then current else []

def resolve (current : Location) (p : Path) : Location :=
  p.parts.foldl (fun here part => if part = ".." then here.dropLast else here ++ [part]) (p.start current)

def ofLocation (place : Location) : Path :=
  ⟨"/", place⟩

end Path

end SyncSchema

import SyncSchema.Files.Path
import SyncSchema.Text.Literal
import SyncSchema.Text.Utf8

namespace SyncSchema

inductive Node where
  | folder
  | file (content : ByteArray)

/-- What stands at each location; the root is a folder even where it is not listed. -/
structure Store where
  nodes : List (Location × Node)

inductive Refusal where
  | missing
  | taken
  | notFolder
  | isFolder
  | tooLong
  /-- The path is no path to the system, which is not asked. -/
  | improper
deriving DecidableEq

def Refusal.text : Refusal → String
  | missing => "[Errno 2] No such file or directory"
  | taken => "[Errno 17] File exists"
  | notFolder => "[Errno 20] Not a directory"
  | isFolder => "[Errno 21] Is a directory"
  | tooLong => "[Errno 36] File name too long"
  | improper => "embedded null byte"

structure Refused where
  refusal : Refusal
  path : String
deriving DecidableEq

def Refused.message (r : Refused) : String :=
  if r.refusal = .improper then r.refusal.text else s!"{r.refusal.text}: {Text.literal r.path}"

namespace Store

def node? (store : Store) (place : Location) : Option Node :=
  if place.isEmpty then some .folder else store.nodes.lookup place

def put (store : Store) (place : Location) (node : Node) : Store :=
  ⟨go store.nodes⟩
where
  go : List (Location × Node) → List (Location × Node)
    | [] => [(place, node)]
    | (other, old) :: rest => if other = place then (place, node) :: rest else (other, old) :: go rest

def isLongName (part : String) : Bool :=
  255 < part.utf8ByteSize

def isLongPath (path : Path) : Bool :=
  4095 < path.text.utf8ByteSize

def walk (store : Store) (place : Location) : List String → Except Refusal Location
  | [] => .ok place
  | part :: rest =>
    if part = ".." then walk store place.dropLast rest
    else if isLongName part then .error .tooLong
    else
      match store.node? (place ++ [part]) with
      | some .folder => walk store (place ++ [part]) rest
      | some (.file _) => .error .notFolder
      | none => .error .missing

def locate (store : Store) (current : Location) (path : Path) : Except Refusal Location :=
  if !path.isProper then .error .improper
  else if isLongPath path then .error .tooLong
  else
    match path.parts.getLast? with
    | none => .ok (path.start current)
    | some last =>
      match store.walk (path.start current) path.parts.dropLast with
      | .error refusal => .error refusal
      | .ok folder =>
        if last = ".." then .ok folder.dropLast
        else if isLongName last then .error .tooLong
        else .ok (folder ++ [last])

def isFolder (store : Store) (current : Location) (path : Path) : Bool :=
  match store.locate current path with
  | .ok place =>
    match store.node? place with
    | some .folder => true
    | _ => false
  | .error _ => false

def content? (store : Store) (current : Location) (path : Path) : Except Refused (Option ByteArray) :=
  match store.locate current path with
  | .ok place =>
    match store.node? place with
    | some (.file content) => .ok (some content)
    | _ => .ok none
  | .error .tooLong => .error ⟨.tooLong, path.text⟩
  | .error _ => .ok none

def decode (content : ByteArray) : Except Text.Utf8.Error (List Char) :=
  (Text.Utf8.decode content.toList).map Text.unifyLines

def makeFolder (store : Store) (current : Location) (path : Path) : Except Refusal Store :=
  match store.locate current path with
  | .error refusal => .error refusal
  | .ok place =>
    match store.node? place with
    | some _ => .error .taken
    | none => .ok (store.put place .folder)

/--
Makes a folder and the parents it lacks; one that is there already is fine. Parents that were made stay
even when the folder itself is refused. The parts come last one first.
-/
def makeFolders (store : Store) (current : Location) (root : String) :
    List String → Store × Except Refused Unit
  | [] => (store, .ok ())
  | last :: above =>
    let path : Path := ⟨root, (last :: above).reverse⟩
    let settle (store : Store) (refusal : Refusal) : Store × Except Refused Unit :=
      (store, if store.isFolder current path then .ok () else .error ⟨refusal, path.text⟩)
    match store.makeFolder current path with
    | .ok store => (store, .ok ())
    | .error .missing =>
      match makeFolders store current root above with
      | (store, .error refused) => (store, .error refused)
      | (store, .ok ()) =>
        match store.makeFolder current path with
        | .ok store => (store, .ok ())
        | .error .missing => (store, .error ⟨.missing, path.text⟩)
        | .error refusal => settle store refusal
    | .error refusal => settle store refusal

def putFile (store : Store) (current : Location) (path : Path) (content : ByteArray) :
    Except Refused Store :=
  match store.locate current path with
  | .error refusal => .error ⟨refusal, path.text⟩
  | .ok place =>
    match store.node? place with
    | some .folder => .error ⟨.isFolder, path.text⟩
    | _ => .ok (store.put place (.file content))

def write (store : Store) (current : Location) (path : Path) (content : ByteArray) :
    Store × Except Refused Unit :=
  match store.makeFolders current path.parent.root path.parent.parts.reverse with
  | (store, .error refused) => (store, .error refused)
  | (store, .ok ()) =>
    match store.putFile current path content with
    | .ok store => (store, .ok ())
    | .error refused => (store, .error refused)

def empty (current : Location) : Store :=
  ⟨(List.range current.length).map fun depth => (current.take (depth + 1), .folder)⟩

def ofFiles (current : Location) (files : List (String × ByteArray)) : Store :=
  files.foldl (fun store (name, content) => (store.write current (.ofText name) content).1) (empty current)

def filesBelow (store : Store) (folder : Location) : List (String × ByteArray) :=
  store.nodes.filterMap fun (place, node) =>
    match node with
    | .file content =>
      if folder.isPrefixOf place then some ("/".intercalate (place.drop folder.length), content) else none
    | .folder => none

end Store

end SyncSchema

import SyncSchema.Command.Basic

namespace SyncSchema.Main

def look (place : Location) : IO (Option Node) := do
  let path := (← IO.currentDir) / (Path.ofLocation place).text
  if ← path.isDir then return some .folder
  if ← path.pathExists then return some (.file (← IO.FS.readBinFile path))
  return none

def observe (current : Location) (store : Store) (path : Path) : IO Store := do
  let ends := (List.range (path.parts.length + 1)).map fun n =>
    Path.resolve current ⟨path.root, path.parts.take n⟩
  let places := ends.flatMap fun place => (List.range place.length).map fun n => place.take (n + 1)
  places.foldlM (fun store place => do
    match store.node? place, ← look place with
    | none, some node => return store.put place node
    | _, _ => return store) store

def observeAll (world : Command.World) (args : Command.Arguments) : IO Command.World := do
  let store ← observe world.current world.store (.ofText args.configPath)
  let store ←
    match args.document with
    | .text document => observe world.current store (.ofText document)
    | .dropped => pure store
  let world := { world with store }
  match (Command.readOptions world args none).result with
  | .ok options =>
    let store ← observe world.current store (Module.pathOf options.outputDir options.outputFile)
    return { world with store }
  | .error _ => return world

def carryOut (before : Store) (place : Location) (node : Node) : IO Unit := do
  let path := (Path.ofLocation place).text
  match node, before.node? place with
  | .folder, some .folder => return
  | .folder, _ => IO.FS.createDirAll path
  | .file content, some (.file old) => if content.data != old.data then IO.FS.writeBinFile path content
  | .file content, _ => IO.FS.writeBinFile path content

def usage : String :=
  "usage: zero-schema-gen [-c CONFIG] [-o OUTPUT_DIR] [--output-file OUTPUT_FILE] -d DOCUMENT"

end SyncSchema.Main

open SyncSchema in
def main (arguments : List String) : IO UInt32 := do
  let current := (Path.ofText (← IO.currentDir).toString).parts
  let terminal ← (← IO.getStderr).isTty
  let bare : Command.World := ⟨⟨[]⟩, current, .missing, terminal⟩
  let world ←
    match Command.Arguments.parse arguments with
    | .ok args => Main.observeAll bare args
    | .error .help =>
      IO.println Main.usage
      pure bare
    | .error (.usage _) =>
      IO.eprintln Main.usage
      pure bare
  let outcome := Command.run world arguments ""
  outcome.store.nodes.forM fun (place, node) => Main.carryOut world.store place node
  IO.eprint (Text.shown outcome.messages)
  return UInt32.ofNat outcome.status

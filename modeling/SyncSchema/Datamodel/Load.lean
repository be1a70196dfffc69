import SyncSchema.Datamodel.Decode

namespace SyncSchema.Datamodel

def load (store : Store) (current : Location) (path : Path) : Run Datamodel := do
  let text ← Run.readFile store current path (.documentMissing path.text) id
  match Json.read text with
  | .error e => Run.stop (.documentUnreadable path.text e)
  | .ok document =>
    Run.log .debug s!"Loaded DMMF document from {path.text}"
    parse document

end SyncSchema.Datamodel

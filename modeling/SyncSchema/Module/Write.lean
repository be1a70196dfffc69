import SyncSchema.Run

namespace SyncSchema.Module

def pathOf (folder name : String) : Path :=
  (Path.ofText folder).join (.ofText name)

def write (store : Store) (current : Location) (folder name : String) (content : Text.Points) :
    Store × Run Path :=
  let path := pathOf folder name
  -- The file is emptied when it is opened, and its content is encoded after that.
  match store.write current path ((Text.encode content).toOption.getD .empty) with
  | (store, .error refused) =>
    (store, if refused.refusal = .improper then Run.fail (.refused refused)
      else Run.stop (.notWritten path.text refused))
  | (store, .ok ()) =>
    (store, do
      let _ ← Run.encode content
      Run.log .debug s!"Generated file: {path.text}"
      return path)

end SyncSchema.Module

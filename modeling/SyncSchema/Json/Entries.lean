import SyncSchema.Json.Equality

namespace SyncSchema

abbrev Entries (α : Type) := List (Json × α)

namespace Entries

variable {α : Type}

def get? (entries : Entries α) (name : Json) : Option α :=
  (entries.find? (·.1 == name)).map (·.2)

def set (entries : Entries α) (name : Json) (value : α) : Entries α :=
  match entries with
  | [] => [(name, value)]
  | (other, old) :: rest => if other == name then (other, value) :: rest else (other, old) :: set rest name value

def ofList (pairs : List (Json × α)) : Entries α :=
  pairs.foldl (fun entries pair => set entries pair.1 pair.2) []

end Entries

end SyncSchema

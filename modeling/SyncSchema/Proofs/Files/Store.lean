import Mathlib.Data.List.Basic
import Mathlib.Logic.Function.Basic
import SyncSchema.Files.Store

namespace SyncSchema.Store

def file? (store : Store) (place : Location) : Option ByteArray :=
  match store.node? place with
  | some (.file content) => some content
  | _ => none

theorem lookup_put (store : Store) (place other : Location) (node : Node) :
    (store.put place node).nodes.lookup other = if other = place then some node else store.nodes.lookup other := by
  rw [put]
  induction store.nodes with
  | nil => grind [put.go]
  | cons entry rest ih =>
    obtain ⟨first, old⟩ := entry
    by_cases here : first = place <;> by_cases same : other = first <;> grind [put.go]

theorem node?_put (store : Store) {place : Location} (inside : place ≠ []) (node : Node) (other : Location) :
    (store.put place node).node? other = if other = place then some node else store.node? other := by
  rw [node?, node?, lookup_put]
  cases other with
  | nil => exact (if_neg inside.symm).symm
  | cons => rfl

theorem ne_nil_of_not_folder {store : Store} {place : Location} (other : store.node? place ≠ some .folder) :
    place ≠ [] := by
  rintro rfl
  exact other rfl

theorem file?_put_folder {store : Store} {place : Location} (free : store.node? place = none) :
    (store.put place .folder).file? = store.file? := by
  have other : store.node? place ≠ some .folder := by
    rw [free]
    exact nofun
  have inside := ne_nil_of_not_folder other
  funext other
  rw [file?, file?, node?_put store inside]
  by_cases same : other = place
  · rw [if_pos same, same, free]
  · rw [if_neg same]

theorem file?_put_file {store : Store} {place : Location} (inside : place ≠ []) (content : ByteArray) :
    (store.put place (.file content)).file? = Function.update store.file? place (some content) := by
  funext other
  rw [file?, node?_put store inside, Function.update_apply]
  by_cases same : other = place
  · rw [if_pos same, if_pos same]
  · rw [if_neg same, if_neg same, file?]

theorem walk_eq_ok {store : Store} {parts : List String} {place stop : Location}
    (walked : store.walk place parts = .ok stop) :
    stop = parts.foldl (fun here part => if part = ".." then here.dropLast else here ++ [part]) place := by
  induction parts generalizing place with
  | nil => exact (Except.ok.inj walked).symm
  | cons part rest ih =>
    rw [walk] at walked
    rw [List.foldl_cons]
    split at walked
    · rename_i up
      rw [if_pos up, ih walked]
    · rename_i down
      rw [if_neg down]
      split at walked
      · cases walked
      · split at walked
        · exact ih walked
        all_goals cases walked

theorem locate_eq_ok {store : Store} {current : Location} {path : Path} {place : Location}
    (located : store.locate current path = .ok place) : place = path.resolve current := by
  rw [locate] at located
  split at located
  · cases located
  split at located
  · cases located
  split at located
  · rename_i none
    rw [Path.resolve, List.getLast?_eq_none_iff.1 none]
    exact (Except.ok.inj located).symm
  · rename_i last found
    rw [Path.resolve, ← List.dropLast_append_getLast? last (Option.mem_def.2 found), List.foldl_append, List.foldl_cons,
      List.foldl_nil]
    split at located
    · cases located
    · rename_i folder walked
      rw [← walk_eq_ok walked]
      split at located
      · rename_i up
        rw [if_pos up, Except.ok.inj located]
      · rename_i down
        split at located
        · cases located
        · rw [if_neg down, Except.ok.inj located]

theorem file?_makeFolder {store after : Store} {current : Location} {path : Path}
    (made : store.makeFolder current path = .ok after) : after.file? = store.file? := by
  rw [makeFolder] at made
  split at made
  · cases made
  · split at made
    · cases made
    · rename_i free
      rw [← Except.ok.inj made, file?_put_folder free]

theorem file?_makeFolders (store : Store) (current : Location) (root : String) (parts : List String) :
    (store.makeFolders current root parts).1.file? = store.file? := by
  induction parts generalizing store with
  | nil => rfl
  | cons last above ih =>
    rw [makeFolders]
    split
    · rename_i made
      exact file?_makeFolder made
    · have parents := ih store
      split
      · rename_i refused
        rwa [refused] at parents
      · rename_i between made
        rw [made] at parents
        split
        · rename_i last
          rw [file?_makeFolder last, parents]
        all_goals exact parents
    · rfl

theorem file?_putFile {store after : Store} {current : Location} {path : Path} {content : ByteArray}
    (put : store.putFile current path content = .ok after) :
    after.file? = Function.update store.file? (path.resolve current) (some content) := by
  rw [putFile] at put
  split at put
  · cases put
  · rename_i place located
    split at put
    · cases put
    · rename_i other
      rw [← Except.ok.inj put, ← locate_eq_ok located, file?_put_file (ne_nil_of_not_folder other)]

/-- What a writing does to the files: it sets the content at one place, or it is refused and changes none. -/
inductive Writes (store : Store) (place : Location) (content : ByteArray) : Store × Except Refused Unit → Prop
  | done {after : Store} (files : after.file? = Function.update store.file? place (some content)) :
    Writes store place content (after, .ok ())
  | refused {after : Store} {refused : Refused} (files : after.file? = store.file?) :
    Writes store place content (after, .error refused)

theorem write_writes (store : Store) (current : Location) (path : Path) (content : ByteArray) :
    Writes store (path.resolve current) content (store.write current path content) := by
  have folders := store.file?_makeFolders current path.parent.root path.parent.parts.reverse
  rw [write]
  split
  · rename_i made
    rw [made] at folders
    exact .refused folders
  · rename_i made
    rw [made] at folders
    split
    · rename_i put
      exact .done (by rw [file?_putFile put, folders])
    · exact .refused folders

end SyncSchema.Store

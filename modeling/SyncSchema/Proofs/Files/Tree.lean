import Mathlib.Data.List.Induction
import Mathlib.Data.List.Nodup
import SyncSchema.Proofs.Files.Store

namespace SyncSchema.Store

/-- Every place is listed once, and in a folder. -/
structure IsTree (store : Store) : Prop where
  distinct : (store.nodes.map Prod.fst).Nodup
  inside : ∀ entry ∈ store.nodes, entry.1 ≠ [] ∧ store.node? entry.1.dropLast = some .folder

structure Hosts (store : Store) (current : Location) : Prop where
  tree : store.IsTree
  here : store.node? current = some .folder

/-- What a store becomes that stays a tree and loses no folder. -/
structure Grows (store after : Store) : Prop where
  tree : after.IsTree
  folders : ∀ place, store.node? place = some .folder → after.node? place = some .folder

variable {store between after : Store} {current place : Location}

theorem IsTree.grows (tree : store.IsTree) : store.Grows store :=
  ⟨tree, fun _ => id⟩

theorem Grows.trans (first : store.Grows between) (second : between.Grows after) : store.Grows after :=
  ⟨second.tree, fun place folder => second.folders place (first.folders place folder)⟩

theorem Hosts.grow (hosts : store.Hosts current) (grows : store.Grows after) : after.Hosts current :=
  ⟨grows.tree, grows.folders current hosts.here⟩

theorem mem_of_node? {node : Node} (inside : place ≠ []) (found : store.node? place = some node) :
    (place, node) ∈ store.nodes := by
  rw [node?, if_neg (by simpa using inside)] at found
  obtain ⟨before, behind, listed, -⟩ := List.lookup_eq_some_iff.1 found
  rw [listed]
  exact List.mem_append_right before List.mem_cons_self

theorem IsTree.node?_of_mem (tree : store.IsTree) {node : Node} (listed : (place, node) ∈ store.nodes) :
    store.node? place = some node := by
  obtain ⟨before, behind, split⟩ := List.append_of_mem listed
  have distinct := tree.distinct
  rw [split, List.map_append, List.map_cons, List.nodup_middle, List.nodup_cons] at distinct
  rw [node?, if_neg (by simpa using (tree.inside _ listed).1), List.lookup_eq_some_iff]
  refine ⟨before, behind, split, fun entry member => ?_⟩
  rw [bne_iff_ne]
  rintro rfl
  exact distinct.1 (List.mem_append_left _ (List.mem_map.2 ⟨entry, member, rfl⟩))

theorem IsTree.folder_dropLast (tree : store.IsTree) {node : Node} (found : store.node? place = some node) :
    store.node? place.dropLast = some .folder := by
  by_cases root : place = []
  · rw [root]
    rfl
  · exact (tree.inside _ (mem_of_node? root found)).2

theorem IsTree.folder_above (tree : store.IsTree) {rest : Location} {node : Node}
    (found : store.node? (place ++ rest) = some node) (below : rest ≠ []) : store.node? place = some .folder := by
  induction rest using List.reverseRecOn generalizing node with
  | nil => exact absurd rfl below
  | append_singleton rest last ih =>
    have parent := tree.folder_dropLast found
    rw [← List.append_assoc, List.dropLast_concat] at parent
    by_cases only : rest = []
    · rwa [only, List.append_nil] at parent
    · exact ih parent only

theorem IsTree.apart (tree : store.IsTree) {content : ByteArray} (file : store.file? place = some content)
    {entry : Location × Node} (listed : entry ∈ store.nodes) (below : place <+: entry.1) :
    entry = (place, .file content) := by
  obtain ⟨_, node⟩ := entry
  obtain ⟨rest, rfl⟩ := below
  have found := tree.node?_of_mem listed
  have here : store.node? place = some (.file content) := by
    rw [file?] at file
    split at file
    · rename_i stands
      rw [stands, Option.some.inj file]
    · cases file
  by_cases only : rest = []
  · subst only
    rw [List.append_nil, here] at found
    rw [List.append_nil, Option.some.inj found]
  · rw [tree.folder_above found only] at here
    cases here

theorem keys_put (store : Store) (place : Location) (node : Node) :
    (store.put place node).nodes.map Prod.fst =
      if place ∈ store.nodes.map Prod.fst then store.nodes.map Prod.fst
      else store.nodes.map Prod.fst ++ [place] := by
  rw [put]
  induction store.nodes with
  | nil => rfl
  | cons entry rest ih =>
    obtain ⟨first, old⟩ := entry
    rw [put.go]
    by_cases here : first = place
    · simp [here]
    · rw [if_neg here, List.map_cons, ih]
      by_cases known : place ∈ rest.map Prod.fst <;> simp [known, Ne.symm here]

theorem mem_put {node : Node} {entry : Location × Node} :
    entry ∈ (store.put place node).nodes → entry = (place, node) ∨ entry ∈ store.nodes := by
  rw [put]
  induction store.nodes with
  | nil => exact fun listed => .inl (List.mem_singleton.1 listed)
  | cons first rest ih => grind [put.go]

theorem IsTree.put_grows (tree : store.IsTree) {node : Node} (inside : place ≠ [])
    (parent : store.node? place.dropLast = some .folder) (other : node = .folder ∨ store.node? place ≠ some .folder) :
    store.Grows (store.put place node) := by
  -- Also at `place`: a folder that stood there is put there again.
  have folders (folder : Location) (found : store.node? folder = some .folder) :
      (store.put place node).node? folder = some .folder := by
    rw [node?_put store inside]
    split
    · rename_i same
      rw [other.resolve_right (fun differs => differs (same ▸ found))]
    · exact found
  refine ⟨⟨?_, fun entry listed => ?_⟩, folders⟩
  · rw [keys_put]
    split
    · exact tree.distinct
    · rename_i fresh
      exact List.nodup_append_comm.1 (List.nodup_cons.2 ⟨fresh, tree.distinct⟩ : ([place] ++ _).Nodup)
  · rcases mem_put listed with rfl | listed
    · exact ⟨inside, folders _ parent⟩
    · exact (tree.inside entry listed).imp_right (folders _)

theorem Hosts.folder_start (hosts : store.Hosts current) (path : Path) :
    store.node? (path.start current) = some .folder := by
  rw [Path.start]
  split
  · exact hosts.here
  · rfl

theorem IsTree.walk_folder (tree : store.IsTree) {parts : List String} {stop : Location}
    (folder : store.node? place = some .folder) (walked : store.walk place parts = .ok stop) :
    store.node? stop = some .folder := by
  induction parts generalizing place with
  | nil => rwa [← Except.ok.inj walked]
  | cons part rest ih =>
    rw [walk] at walked
    split at walked
    · exact ih (tree.folder_dropLast folder) walked
    · split at walked
      · cases walked
      · split at walked
        · rename_i next
          exact ih next walked
        all_goals cases walked

theorem Hosts.locate_folder (hosts : store.Hosts current) {path : Path}
    (located : store.locate current path = .ok place) : store.node? place.dropLast = some .folder := by
  have start := hosts.folder_start path
  rw [locate] at located
  split at located
  · cases located
  split at located
  · cases located
  split at located
  · rw [← Except.ok.inj located]
    exact hosts.tree.folder_dropLast start
  · split at located
    · cases located
    · rename_i walked
      have folder := hosts.tree.walk_folder start walked
      split at located
      · rw [← Except.ok.inj located]
        exact hosts.tree.folder_dropLast (hosts.tree.folder_dropLast folder)
      · split at located
        · cases located
        · rwa [← Except.ok.inj located, List.dropLast_concat]

theorem Hosts.makeFolder_grows (hosts : store.Hosts current) {path : Path}
    (made : store.makeFolder current path = .ok after) : store.Grows after := by
  rw [makeFolder] at made
  split at made
  · cases made
  · rename_i place located
    split at made
    · cases made
    · rename_i free
      have other : store.node? place ≠ some .folder := by
        rw [free]
        rintro ⟨⟩
      rw [← Except.ok.inj made]
      exact hosts.tree.put_grows (ne_nil_of_not_folder other) (hosts.locate_folder located) (.inl rfl)

theorem Hosts.makeFolders_grows (hosts : store.Hosts current) (root : String) (parts : List String) :
    store.Grows (store.makeFolders current root parts).1 := by
  induction parts generalizing store with
  | nil => exact hosts.tree.grows
  | cons last above ih =>
    rw [makeFolders]
    split
    · rename_i made
      exact hosts.makeFolder_grows made
    · have parents := ih hosts
      split
      · rename_i refused
        rwa [refused] at parents
      · rename_i made
        rw [made] at parents
        split
        · rename_i last
          exact parents.trans ((hosts.grow parents).makeFolder_grows last)
        all_goals exact parents
    · exact hosts.tree.grows

theorem Hosts.putFile_grows (hosts : store.Hosts current) {path : Path} {content : ByteArray}
    (put : store.putFile current path content = .ok after) : store.Grows after := by
  rw [putFile] at put
  split at put
  · cases put
  · rename_i located
    split at put
    · cases put
    · rename_i other
      rw [← Except.ok.inj put]
      exact hosts.tree.put_grows (ne_nil_of_not_folder other) (hosts.locate_folder located) (.inr other)

theorem Hosts.write_grows (hosts : store.Hosts current) (path : Path) (content : ByteArray) :
    store.Grows (store.write current path content).1 := by
  have folders := hosts.makeFolders_grows path.parent.root path.parent.parts.reverse
  rw [write]
  split
  · rename_i made
    rwa [made] at folders
  · rename_i made
    rw [made] at folders
    split
    · rename_i put
      exact folders.trans ((hosts.grow folders).putFile_grows put)
    · exact folders

theorem node?_empty {depth : Nat} (within : depth ≤ current.length) :
    (empty current).node? (current.take depth) = some .folder := by
  rw [node?]
  split
  · rfl
  · rename_i inside
    cases depth with
    | zero => exact absurd rfl inside
    | succ depth =>
      have listed : current.take (depth + 1) ∈ (empty current).nodes.map Prod.fst := by
        rw [empty, List.map_map]
        exact List.mem_map.2 ⟨depth, List.mem_range.2 within, rfl⟩
      have folders : ∀ entry ∈ (empty current).nodes, entry.2 = .folder := by
        simp [empty]
      -- Whichever node the lookup gives, it is a folder.
      generalize (empty current).nodes = nodes at listed folders
      induction nodes with
      | nil => cases listed
      | cons entry rest ih => grind

theorem hosts_empty (current : Location) : (empty current).Hosts current := by
  refine ⟨⟨?_, fun entry listed => ?_⟩, ?_⟩
  · rw [empty, List.map_map]
    refine List.Nodup.map_on (fun depth known depth' known' same => ?_) List.nodup_range
    have lengths := congrArg List.length same
    simp only [Function.comp_apply, List.length_take, List.mem_range] at lengths known known'
    omega
  · obtain ⟨depth, known, rfl⟩ := List.mem_map.1 listed
    have within := List.mem_range.1 known
    rw [List.take_succ_eq_append_getElem within, List.dropLast_concat]
    exact ⟨List.concat_ne_nil _ _, node?_empty (Nat.le_of_lt within)⟩
  · have whole := node?_empty (Nat.le_refl current.length)
    rwa [List.take_length] at whole

theorem hosts_ofFiles (current : Location) (files : List (String × ByteArray)) : (ofFiles current files).Hosts current := by
  rw [ofFiles]
  generalize started : empty current = store
  have hosts : store.Hosts current := started ▸ hosts_empty current
  clear started
  induction files generalizing store with
  | nil => exact hosts
  | cons file rest ih => exact ih _ (hosts.grow (hosts.write_grows _ _))

end SyncSchema.Store

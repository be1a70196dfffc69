import SyncSchema.Module.Write
import SyncSchema.Proofs.Files.Tree
import SyncSchema.Proofs.Text.Encoding

namespace SyncSchema

namespace Path

theorem isProper_of_subset {p q : Path} (parts : p.parts ⊆ q.parts) (proper : q.isProper = true) : p.isProper = true := by
  rw [isProper, List.all_eq_true] at proper ⊢
  exact fun part member => proper part (parts member)

theorem subset_of_mem_splitSlashes {text part : List Char} (member : part ∈ splitSlashes text) : part ⊆ text := by
  induction text generalizing part with
  | nil =>
    rw [List.mem_singleton.1 member]
    exact List.nil_subset _
  | cons c rest ih =>
    rw [splitSlashes] at member
    cases split : splitSlashes rest with
    | nil =>
      rw [split] at member
      rw [List.mem_singleton.1 member]
      exact List.cons_subset_cons c (List.nil_subset rest)
    | cons first parts =>
      simp only [split] at member ih
      have later {part : List Char} (member : part ∈ first :: parts) : part ⊆ c :: rest :=
        List.subset_cons_of_subset c (ih member)
      split at member
      · rcases List.mem_cons.1 member with rfl | member
        · exact List.nil_subset _
        · exact later member
      · rcases List.mem_cons.1 member with rfl | member
        · exact List.cons_subset_cons c (ih List.mem_cons_self)
        · exact later (List.mem_cons_of_mem first member)

theorem isProper_ofText {text : String} (proper : '\x00' ∉ text.toList) : (ofText text).isProper = true := by
  rw [isProper, ofText, List.all_eq_true]
  intro part member
  obtain ⟨chars, known, rfl⟩ := List.mem_map.1 (List.mem_filter.1 member).1
  rw [String.toList_ofList, Bool.not_eq_true', ← Bool.not_eq_true, List.contains_iff_mem]
  exact fun inside => proper (subset_of_mem_splitSlashes known inside)

end Path

namespace Store

variable {store after : Store} {current : Location} {path : Path} {content : ByteArray} {refused : Refused}

theorem walk_ne_improper {parts : List String} {place : Location} : store.walk place parts ≠ .error .improper := by
  induction parts generalizing place with
  | nil => rintro ⟨⟩
  | cons part rest ih =>
    rw [walk]
    split
    · exact ih
    · split
      · rintro ⟨⟩
      · split
        · exact ih
        all_goals rintro ⟨⟩

theorem locate_ne_improper (proper : path.isProper = true) : store.locate current path ≠ .error .improper := by
  rw [locate, proper]
  split
  · rename_i impossible
    cases impossible
  split
  · rintro ⟨⟩
  split
  · rintro ⟨⟩
  · split
    · rename_i walked
      rintro ⟨⟩
      exact walk_ne_improper walked
    · split
      · rintro ⟨⟩
      · split <;> rintro ⟨⟩

theorem makeFolder_ne_improper (proper : path.isProper = true) :
    store.makeFolder current path ≠ .error .improper := by
  rw [makeFolder]
  split
  · rename_i located
    rintro ⟨⟩
    exact locate_ne_improper proper located
  · split <;> rintro ⟨⟩

theorem makeFolders_refusal {root : String} {parts : List String} (proper : (Path.mk root parts).isProper = true)
    (made : store.makeFolders current root parts = (after, .error refused)) : refused.refusal ≠ .improper := by
  induction parts generalizing store after with
  | nil => cases made
  | cons last above ih =>
    have whole : (Path.mk root (last :: above).reverse).isProper = true :=
      Path.isProper_of_subset (fun _ member => List.mem_reverse.1 member) proper
    -- Both attempts at a folder end like this: what stands in the way may be the folder itself.
    have settled {store : Store} {refusal : Refusal} (other : refusal ≠ .improper)
        (made : (store, if store.isFolder current ⟨root, (last :: above).reverse⟩ then .ok ()
          else .error ⟨refusal, (Path.mk root (last :: above).reverse).text⟩) = (after, Except.error refused)) :
        refused.refusal ≠ .improper := by
      split at made
      · cases made
      · cases made
        exact other
    rw [makeFolders] at made
    split at made
    · cases made
    · split at made
      · rename_i above
        cases made
        exact ih (Path.isProper_of_subset (List.subset_cons_self _ _) proper) above
      · split at made
        · cases made
        · cases made
          rintro ⟨⟩
        · rename_i refusal _ last
          exact settled (by rintro rfl; exact makeFolder_ne_improper whole last) made
    · rename_i refusal _ first
      exact settled (by rintro rfl; exact makeFolder_ne_improper whole first) made

theorem putFile_refusal (proper : path.isProper = true) (put : store.putFile current path content = .error refused) :
    refused.refusal ≠ .improper := by
  rw [putFile] at put
  split at put
  · rename_i located
    cases put
    rintro rfl
    exact locate_ne_improper proper located
  · split at put
    · cases put
      rintro ⟨⟩
    · cases put

theorem write_refusal (proper : path.isProper = true)
    (written : store.write current path content = (after, .error refused)) : refused.refusal ≠ .improper := by
  have parent : (Path.mk path.parent.root path.parent.parts.reverse).isProper = true :=
    Path.isProper_of_subset (fun _ member => List.dropLast_subset _ (List.mem_reverse.1 member)) proper
  rw [write] at written
  split at written
  · rename_i made
    cases written
    exact makeFolders_refusal parent made
  · split at written
    · cases written
    · rename_i put
      cases written
      exact putFile_refusal proper put

end Store

namespace Module

structure Request where
  folder : String
  name : String
  content : Text.Points

namespace Request

def path (r : Request) : Path :=
  pathOf r.folder r.name

def place (r : Request) (current : Location) : Location :=
  r.path.resolve current

def IsProper (r : Request) : Prop :=
  '\x00' ∉ r.folder.toList ∧ '\x00' ∉ r.name.toList

theorem isProper_path {r : Request} (proper : r.IsProper) : r.path.isProper = true := by
  have folder := Path.isProper_ofText proper.1
  have name := Path.isProper_ofText proper.2
  rw [path, pathOf, Path.join]
  split
  · rw [Path.isProper, List.all_append]
    exact Bool.and_eq_true_iff.2 ⟨folder, name⟩
  · exact name

end Request

def writeAll (current : Location) : Store → List Request → Store × List (Request × Except Failure Path)
  | store, [] => (store, [])
  | store, r :: rest =>
    let first := write store current r.folder r.name r.content
    let others := writeAll current first.1 rest
    (others.1, (r, first.2.result) :: others.2)

/-- The writing gives the path and sets the content at its place, or it gives a report and changes no file. -/
inductive Wrote (current : Location) (store : Store) (r : Request) : Store → Except Failure Path → Prop
  | written {after : Store} {bytes : ByteArray} (encoded : Text.encode r.content = .ok bytes)
    (files : after.file? = Function.update store.file? (r.place current) (some bytes)) :
    Wrote current store r after (.ok r.path)
  | refused {after : Store} {problem : Problem} (family : problem.report.family = .codeGeneration)
    (files : after.file? = store.file?) : Wrote current store r after (.error (.problem problem))

/-- The file is opened for a content that cannot be encoded, and stays empty. -/
inductive Emptied (current : Location) (store : Store) (r : Request) : Store → Except Failure Path → Prop
  | emptied {after : Store} {e : Text.Unencodable} (unencodable : Text.encode r.content = .error e)
    (files : after.file? = Function.update store.file? (r.place current) (some .empty)) :
    Emptied current store r after (.error (.invalid (.unencodable e)))

def Ends (current : Location) (store : Store) (r : Request) (after : Store) (outcome : Except Failure Path) : Prop :=
  Wrote current store r after outcome ∨ Emptied current store r after outcome

/-- One writing after the other, each related to what it does by `step`. -/
inductive Writings (step : Store → Request → Store → Except Failure Path → Prop) :
    Store → List (Request × Except Failure Path) → Store → Prop
  | none {store : Store} : Writings step store [] store
  | next {store between after : Store} {r : Request} {outcome : Except Failure Path}
    {outcomes : List (Request × Except Failure Path)} (first : step store r between outcome)
    (rest : Writings step between outcomes after) : Writings step store ((r, outcome) :: outcomes) after

def left? (current place : Location) : Request × Except Failure Path → Option ByteArray
  | (r, .ok _) | (r, .error (.invalid (.unencodable _))) =>
    if r.place current = place then some ((Text.encode r.content).toOption.getD .empty) else none
  | (_, .error _) => none

def lastLeft (current : Location) (outcomes : List (Request × Except Failure Path)) (place : Location) :
    Option ByteArray :=
  (outcomes.filterMap (left? current place)).getLast?

/-- After all writings a file holds what the last one to it left, or what it held before. No file is lost, and none has
anything below it. -/
structure LastWins (current : Location) (store : Store) (outcomes : List (Request × Except Failure Path))
    (after : Store) : Prop where
  files : ∀ place, after.file? place = (lastLeft current outcomes place).or (store.file? place)
  kept : ∀ place, store.file? place ≠ none → after.file? place ≠ none
  apart : ∀ place content, after.file? place = some content →
    ∀ entry ∈ after.nodes, place <+: entry.1 → entry = (place, .file content)

variable {current : Location} {store after : Store} {outcomes : List (Request × Except Failure Path)}

theorem store_write (r : Request) :
    (write store current r.folder r.name r.content).1 =
      (store.write current r.path ((Text.encode r.content).toOption.getD .empty)).1 := by
  rw [write]
  split <;> rename_i written <;> exact (congrArg Prod.fst written).symm

theorem write_ends {r : Request} (proper : r.IsProper) :
    Ends current store r (write store current r.folder r.name r.content).1
      (write store current r.folder r.name r.content).2.result := by
  have writes := store.write_writes current (pathOf r.folder r.name) ((Text.encode r.content).toOption.getD .empty)
  have refusal {content : ByteArray} {after : Store} {refused : Refused} :
      store.write current (pathOf r.folder r.name) content = (after, .error refused) → refused.refusal ≠ .improper :=
    Store.write_refusal (Request.isProper_path proper)
  rw [write]
  generalize ended : store.write current (pathOf r.folder r.name) ((Text.encode r.content).toOption.getD .empty) =
    outcome at writes
  cases writes with
  | refused files =>
    simp only [if_neg (refusal ended)]
    exact .inl (.refused rfl files)
  | done files =>
    cases encoded : Text.encode r.content with
    | ok bytes =>
      rw [encoded] at files
      simp only [Run.encode, encoded]
      exact .inl (.written encoded files)
    | error e =>
      rw [encoded] at files
      simp only [Run.encode, encoded]
      exact .inr (.emptied encoded files)

theorem writeAll_cons (r : Request) (rest : List Request) :
    writeAll current store (r :: rest) =
      ((writeAll current (write store current r.folder r.name r.content).1 rest).1,
        (r, (write store current r.folder r.name r.content).2.result) ::
          (writeAll current (write store current r.folder r.name r.content).1 rest).2) := by
  rw [writeAll]

theorem requests_writeAll (requests : List Request) : (writeAll current store requests).2.map Prod.fst = requests := by
  induction requests generalizing store with
  | nil => rfl
  | cons r rest ih => rw [writeAll_cons, List.map_cons, ih]

theorem writeAll_writings {requests : List Request} (proper : ∀ r ∈ requests, r.IsProper) :
    Writings (Ends current) store (writeAll current store requests).2 (writeAll current store requests).1 := by
  induction requests generalizing store with
  | nil => exact .none
  | cons r rest ih =>
    rw [List.forall_mem_cons] at proper
    rw [writeAll_cons]
    exact .next (write_ends proper.1) (ih proper.2)

theorem Ends.wrote {r : Request} {outcome : Except Failure Path} (ends : Ends current store r after outcome)
    (encodable : Text.isEncodable r.content = true) : Wrote current store r after outcome := by
  rcases ends with wrote | ⟨unencodable, -⟩
  · exact wrote
  · rw [Text.encode_eq_error_iff.1 ⟨_, unencodable⟩] at encodable
    cases encodable

theorem Writings.wrote (writings : Writings (Ends current) store outcomes after)
    (encodable : ∀ row ∈ outcomes, Text.isEncodable row.1.content = true) :
    Writings (Wrote current) store outcomes after := by
  induction writings with
  | none => exact .none
  | next first rest ih =>
    rw [List.forall_mem_cons] at encodable
    exact .next (first.wrote encodable.1) (ih encodable.2)

theorem hosts_writeAll (hosts : store.Hosts current) (requests : List Request) :
    (writeAll current store requests).1.Hosts current := by
  induction requests generalizing store with
  | nil => exact hosts
  | cons r rest ih =>
    rw [writeAll_cons]
    refine ih (hosts.grow ?_)
    rw [store_write]
    exact hosts.write_grows r.path _

theorem lastLeft_cons (entry : Request × Except Failure Path) (place : Location) :
    lastLeft current (entry :: outcomes) place =
      (lastLeft current outcomes place).or (left? current place entry) := by
  rw [lastLeft, lastLeft, List.filterMap_cons]
  cases left? current place entry with
  | none => rw [Option.or_none]
  | some content =>
    rw [List.getLast?_cons]
    cases List.getLast? _ <;> rfl

theorem update_eq_or {files : Location → Option ByteArray} {place other : Location} {content : ByteArray} :
    Function.update files place (some content) other =
      (if place = other then some content else none).or (files other) := by
  rw [Function.update_apply]
  by_cases here : place = other
  · rw [if_pos here, if_pos here.symm, Option.some_or]
  · rw [if_neg here, if_neg (Ne.symm here), Option.none_or]

theorem Ends.file? {r : Request} {outcome : Except Failure Path} (ends : Ends current store r after outcome)
    (place : Location) : after.file? place = (left? current place (r, outcome)).or (store.file? place) := by
  rcases ends with (⟨encoded, files⟩ | ⟨family, files⟩) | ⟨unencodable, files⟩
  · rw [files, update_eq_or, left?, encoded]
    rfl
  · rw [files]
    rfl
  · rw [files, update_eq_or, left?, unencodable]
    rfl

theorem Writings.file? (writings : Writings (Ends current) store outcomes after) (place : Location) :
    after.file? place = (lastLeft current outcomes place).or (store.file? place) := by
  induction writings with
  | none => rfl
  | next first rest ih => rw [ih, first.file?, lastLeft_cons, Option.or_assoc]

/-- Every writing sets the file at its place, or it is refused, or it empties the file since its content cannot be
encoded. Of all those to a place the last one wins. -/
theorem writeAll_lastWins (hosts : store.Hosts current) {requests : List Request}
    (proper : ∀ r ∈ requests, r.IsProper) :
    ∃ after outcomes, writeAll current store requests = (after, outcomes) ∧ outcomes.map Prod.fst = requests ∧
      Writings (Ends current) store outcomes after ∧ LastWins current store outcomes after ∧
      ((∀ r ∈ requests, Text.isEncodable r.content = true) → Writings (Wrote current) store outcomes after) := by
  have writings : Writings (Ends current) store (writeAll current store requests).2
      (writeAll current store requests).1 := writeAll_writings proper
  have named := @requests_writeAll current store requests
  refine ⟨_, _, rfl, named, writings, ⟨writings.file?, fun place file => ?_, fun place content file => ?_⟩,
    fun encodable => writings.wrote fun row member => encodable _ ?_⟩
  · rw [writings.file?, ne_eq, Option.or_eq_none_iff]
    exact fun none => file none.2
  · exact fun entry listed => (hosts_writeAll hosts requests).tree.apart file listed
  · rw [← named]
    exact List.mem_map_of_mem member

def spellings : List Request :=
  [⟨"out//zero", "a.ts", "one"⟩, ⟨"./out/zero/../zero", "a.ts", "two"⟩, ⟨"blocker/in", "a.ts", "three"⟩,
    ⟨"", "out", "four"⟩, ⟨"out", "b.ts", [.surrogate ⟨0, by decide⟩]⟩]

theorem writeAll_lastWins_spellings :
    let store := Store.ofFiles ["work"] [("blocker", "old".toUTF8)]
    (store.Hosts ["work"] ∧ ∀ r ∈ spellings, r.IsProper) ∧
      (∃ after outcomes, writeAll ["work"] store spellings = (after, outcomes) ∧ outcomes.map Prod.fst = spellings ∧
        Writings (Ends ["work"]) store outcomes after ∧ LastWins ["work"] store outcomes after ∧
        ((∀ r ∈ spellings, Text.isEncodable r.content = true) → Writings (Wrote ["work"]) store outcomes after)) ∧
      (writeAll ["work"] store spellings).2.map (·.2.isOk) = [true, true, false, false, false] ∧
      (writeAll ["work"] store spellings).1.file? ["work", "out", "zero", "a.ts"] = some "two".toUTF8 := by
  have hosts := Store.hosts_ofFiles ["work"] [("blocker", "old".toUTF8)]
  have proper : ∀ r ∈ spellings, r.IsProper := by simp [spellings, Request.IsProper]
  exact ⟨⟨hosts, proper⟩, writeAll_lastWins hosts proper, by decide +kernel, by decide +kernel⟩

/-- A file that was there is emptied, without a report, by a content that is one lone surrogate. -/
theorem not_forall_wrote :
    ¬∀ (current : Location) (store : Store) (r : Request), store.Hosts current → r.IsProper →
      Wrote current store r (write store current r.folder r.name r.content).1
        (write store current r.folder r.name r.content).2.result := by
  intro law
  let store := Store.ofFiles ["work"] [("a.ts", "one".toUTF8)]
  let r : Request := ⟨"", "a.ts", [.surrogate ⟨0, by decide⟩]⟩
  have wrote := law ["work"] store r (Store.hosts_ofFiles _ _) (by simp [r, Request.IsProper])
  have before : store.file? ["work", "a.ts"] = some "one".toUTF8 := by decide +kernel
  have after : (write store ["work"] r.folder r.name r.content).1.file? ["work", "a.ts"] = some .empty := by
    decide +kernel
  generalize (write store ["work"] r.folder r.name r.content).1 = left at wrote after
  generalize (write store ["work"] r.folder r.name r.content).2.result = outcome at wrote
  cases wrote with
  | written encoded => cases encoded
  | refused family files =>
    rw [files, before] at after
    exact absurd after (by decide)

end Module

end SyncSchema

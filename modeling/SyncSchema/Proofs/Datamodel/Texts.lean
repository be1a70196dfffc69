import SyncSchema.Mapping.Context
import SyncSchema.Proofs.Names
import SyncSchema.Proofs.Outcome

namespace SyncSchema
open Outcome

namespace Json

variable {name other : Json} {names : List Json}

theorem canBeKey_of_kind (text : name.kind = .string) : name.canBeKey = true := by
  obtain ⟨s, rfl⟩ := eq_str_of_kind text
  rfl

theorem exists_lt? (text : name.kind = .string) (text' : other.kind = .string) : ∃ b, name.lt? other = .ok b := by
  obtain ⟨s, rfl⟩ := eq_str_of_kind text
  obtain ⟨t, rfl⟩ := eq_str_of_kind text'
  exact ⟨_, lt?_str s t⟩

theorem insertName_isOk (text : name.kind = .string) (texts : ∀ other ∈ names, other.kind = .string) :
    ∃ sorted, insertName name names = .ok sorted ∧ ∀ other ∈ sorted, other.kind = .string := by
  induction names with
  | nil => exact ⟨[name], rfl, by simpa using text⟩
  | cons first rest ih =>
    rw [List.forall_mem_cons] at texts
    obtain ⟨sorted, inserted, sortedTexts⟩ := ih texts.2
    obtain ⟨before, compared⟩ := exists_lt? text texts.1
    rw [insertName, compared]
    cases before with
    | true => exact ⟨name :: first :: rest, rfl, by simpa using ⟨text, texts⟩⟩
    | false =>
      refine ⟨first :: sorted, ?_, by simpa using ⟨texts.1, sortedTexts⟩⟩
      rw [inserted]
      rfl

theorem foldlM_insertName_isOk {sorted : List Json} (texts : ∀ name ∈ names, name.kind = .string)
    (sortedTexts : ∀ name ∈ sorted, name.kind = .string) :
    ∃ result, names.foldlM (fun sorted name => insertName name sorted) sorted = .ok result ∧
      ∀ name ∈ result, name.kind = .string := by
  induction names generalizing sorted with
  | nil => exact ⟨sorted, rfl, sortedTexts⟩
  | cons name rest ih =>
    rw [List.forall_mem_cons] at texts
    obtain ⟨sorted', inserted, sortedTexts'⟩ := insertName_isOk texts.1 sortedTexts
    rw [List.foldlM_cons, inserted]
    exact ih texts.2 sortedTexts'

theorem sortNames_isOk (texts : ∀ name ∈ names, name.kind = .string) :
    ∃ sorted, sortNames names = .ok sorted ∧ ∀ name ∈ sorted, name.kind = .string :=
  foldlM_insertName_isOk texts (by simp)

theorem joinTexts_isOk (texts : ∀ name ∈ names, name.kind = .string) : ∃ text, joinTexts names = .ok text := by
  simp only [joinTexts, bind_eq_ok, pure_eq_ok]
  rw [exists_comm]
  refine (exists_mapM_eq_ok ?_).imp fun results joined => ⟨_, joined, rfl⟩
  rintro ⟨name, index⟩ member
  obtain ⟨s, rfl⟩ := eq_str_of_kind (texts name (List.fst_mem_of_mem_zipIdx member))
  exact ⟨s, rfl⟩

end Json

structure Datamodel.Named (d : Datamodel) : Prop where
  models : ∀ m ∈ d.models, m.name.kind = .string
  fields : ∀ m ∈ d.models, ∀ f ∈ m.fields, f.name.kind = .string ∧ f.type.kind = .string

instance (d : Datamodel) : Decidable d.Named :=
  decidable_of_iff (_ ∧ _) ⟨fun ⟨models, fields⟩ => ⟨models, fields⟩, fun ⟨models, fields⟩ => ⟨models, fields⟩⟩

/-- The names of tables and of the fields that make up keys are text as well. -/
structure Datamodel.Texts (d : Datamodel) : Prop extends d.Named where
  mappedNames : ∀ m ∈ d.models, m.mappedName.isGiven = true → m.mappedName.kind = .string
  keys : ∀ m ∈ d.models, ∀ names ∈ m.primaryKey, ∀ name ∈ names, name.kind = .string
  references : ∀ m ∈ d.models, ∀ f ∈ m.fields, ∀ name ∈ f.fromFields ++ f.toFields, name.kind = .string

instance (d : Datamodel) : Decidable d.Texts :=
  decidable_of_iff (d.Named ∧ _ ∧ _ ∧ _)
    ⟨fun ⟨named, mappedNames, keys, references⟩ => ⟨named, mappedNames, keys, references⟩,
      fun ⟨named, mappedNames, keys, references⟩ => ⟨named, mappedNames, keys, references⟩⟩

theorem Context.result_warnUnknown {excluded : List Json} (texts : ∀ name ∈ excluded, name.kind = .string)
    (models : List Model) : (warnUnknown excluded models).result = .ok () := by
  have unknown : ∀ name ∈ excluded.filter fun name => !models.any (·.name == name), name.kind = .string :=
    fun name member => texts name (List.mem_of_mem_filter member)
  obtain ⟨sorted, sortedOk, sortedTexts⟩ := Json.sortNames_isOk unknown
  obtain ⟨text, joined⟩ := Json.joinTexts_isOk sortedTexts
  rw [warnUnknown, sortedOk, Run.result_bind, Run.result_check, bind_eq_ok]
  refine ⟨sorted, rfl, ?_⟩
  split
  · rw [Run.result_bind, Run.result_check, joined]
    rfl
  · rfl

end SyncSchema

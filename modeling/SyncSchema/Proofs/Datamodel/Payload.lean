import SyncSchema.Proofs.Datamodel.Hash
import SyncSchema.Proofs.Mapping.Trim
import SyncSchema.Proofs.Samples

namespace SyncSchema
open Outcome

/-- The fields agree on what the payload leaves out, as far as a schema depends on it. -/
structure Field.Alike (f g : Field) : Prop where
  isId : f.isId.holds = g.isId.holds
  isEnum : f.isColumn = true ∨ f.isId.holds = true → f.isEnum = g.isEnum
  mappedName : f.isColumn = true → f.mappedName.orElse .null = g.mappedName.orElse .null

instance (f g : Field) : Decidable (f.Alike g) :=
  decidable_of_iff (_ ∧ _ ∧ _)
    ⟨fun ⟨isId, isEnum, mappedName⟩ => ⟨isId, isEnum, mappedName⟩,
      fun ⟨isId, isEnum, mappedName⟩ => ⟨isId, isEnum, mappedName⟩⟩

def Datamodel.Alike (d₁ d₂ : Datamodel) : Prop :=
  List.Forall₂ (fun m n => List.Forall₂ Field.Alike m.fields n.fields) d₁.models d₂.models

instance (d₁ d₂ : Datamodel) : Decidable (d₁.Alike d₂) :=
  inferInstanceAs (Decidable (List.Forall₂ _ _ _))

theorem map_eq_of_matches {α β : Type} {matched alike : α → α → Prop} {trim : α → β} {as bs : List α}
    (all : List.Forall₂ matched as bs) (all' : List.Forall₂ alike as bs)
    (step : ∀ a b, matched a b → alike a b → trim a = trim b) : as.map trim = bs.map trim := by
  induction all with
  | nil => rfl
  | cons first rest ih =>
    cases all' with
    | cons first' rest' => rw [List.map_cons, List.map_cons, step _ _ first first', ih rest']

theorem Field.trimmed_eq {f g : Field} (matched : f.Matches g) (alike : f.Alike g) : f.trimmed = g.trimmed := by
  have isColumn : f.isColumn = g.isColumn := by
    rw [Field.isColumn, Field.isColumn, isRelation, isRelation, matched.relationName, matched.isList]
  have kind : ((f.isColumn || f.isId.holds) && f.isEnum) = ((g.isColumn || g.isId.holds) && g.isEnum) := by
    rw [← isColumn, ← alike.isId]
    by_cases read : f.isColumn = true ∨ f.isId.holds = true
    · rw [alike.isEnum read]
    · have unread : (f.isColumn || f.isId.holds) = false := by simpa using read
      rw [unread, Bool.false_and, Bool.false_and]
  have mappedName : (if f.isColumn then f.mappedName.orElse .null else .null) =
      if g.isColumn then g.mappedName.orElse .null else Json.null := by
    rw [← isColumn]
    by_cases column : f.isColumn = true
    · rw [if_pos column, if_pos column, alike.mappedName column]
    · rw [if_neg column, if_neg column]
  rw [trimmed, trimmed, kind, mappedName, alike.isId, matched.name, matched.type, matched.relationName,
    matched.fromFields, matched.toFields, matched.defaultValue, matched.isRequired, matched.isList, matched.isUnique]

theorem Model.trimmed_eq {m n : Model} (matched : m.Matches n) (alike : List.Forall₂ Field.Alike m.fields n.fields) :
    m.trimmed = n.trimmed := by
  have fields := map_eq_of_matches matched.fields alike fun _ _ => Field.trimmed_eq
  rw [trimmed, trimmed, fields, matched.name, matched.mappedName, matched.primaryKey, matched.uniqueFields,
    matched.uniqueIndexes]

theorem Enum.trimmed_eq {e e' : Enum} (matched : e.Matches e') : e.trimmed = e'.trimmed := by
  rw [trimmed, trimmed, matched.name, matched.values]

namespace Datamodel

variable {d₁ d₂ : Datamodel}

theorem trimmed_eq (same : d₁.payload = d₂.payload) (alike : d₁.Alike d₂) : d₁.trimmed = d₂.trimmed := by
  have matched := payload_eq_iff.1 same
  have models := map_eq_of_matches matched.models alike fun _ _ => Model.trimmed_eq
  have enums : d₁.enums.map Enum.trimmed = d₂.enums.map Enum.trimmed :=
    Outcome.map_eq_of_forall₂ matched.enums.flip fun _ _ => Enum.trimmed_eq
  rw [trimmed, trimmed, models, enums]

def emitted (d : Datamodel) (naming : Naming) (excluded : List Json) (asUnions : Bool) (hash : Option String) :
    Except Failure String :=
  (Module.text · asUnions hash) <$> (d.toSchema naming excluded).result

theorem emitted_trimmed (d : Datamodel) (naming : Naming) (excluded : List Json) (asUnions : Bool)
    (hash : Option String) :
    d.trimmed.emitted naming excluded asUnions hash = d.emitted naming excluded asUnions hash := by
  rw [emitted, emitted, toSchema_trimmed, Run.result_map, Functor.map_map]
  simp only [Module.text_trimmed]

def Confused (d₁ d₂ : Datamodel) : Prop :=
  d₁.payload = d₂.payload ∧ (d₁.emitted ⟨false, false⟩ [] false none).isOk = true ∧
    (d₂.emitted ⟨false, false⟩ [] false none).isOk = true ∧
    d₁.emitted ⟨false, false⟩ [] false none ≠ d₂.emitted ⟨false, false⟩ [] false none

theorem emitted_of_payload (same : d₁.payload = d₂.payload) (alike : d₁.Alike d₂) (naming : Naming)
    (excluded : List Json) (asUnions : Bool) (hash : Option String) :
    d₁.emitted naming excluded asUnions hash = d₂.emitted naming excluded asUnions hash := by
  rw [← d₁.emitted_trimmed, trimmed_eq same alike, d₂.emitted_trimmed]

end Datamodel

namespace Sample

def redescribed : Datamodel :=
  { blog with
    models := [
      { user with fields := [id "user_id" "Int", column "email" "String",
          { posts with kind := .str "relation", mappedName := .str "written_posts" }] },
      post, tag, link] }

theorem redescribed_emitted : blog.payload = redescribed.payload ∧ blog.Alike redescribed ∧
    blog.emitted ⟨true, true⟩ [] true none = redescribed.emitted ⟨true, true⟩ [] true none := by
  have same : blog.payload = redescribed.payload := congrArg Json.render rfl
  have alike : blog.Alike redescribed := by decide +kernel
  exact ⟨same, alike, Datamodel.emitted_of_payload same alike ⟨true, true⟩ [] true none⟩

def plain : Datamodel where
  models := [model "user" [id "id" "Int", column "email" "String"]]
  enums := []

def rekeyed : Datamodel :=
  { plain with models := [model "user" [column "id" "Int", id "email" "String"]] }

def renamed : Datamodel :=
  { plain with models := [model "user" [id "id" "Int", { column "email" "String" with mappedName := .str "mail" }]] }

def retyped : Datamodel :=
  { plain with models := [model "user" [id "id" "Int", { column "email" "String" with kind := .str "enum" }]] }

/-- Each of the three things that the payload leaves out makes a difference. -/
theorem payload_leaves_out : plain.Confused rekeyed ∧ plain.Confused renamed ∧ plain.Confused retyped := by
  have differ {a b : Except Failure String} (texts : a.toOption ≠ b.toOption) : a ≠ b :=
    fun same => texts (congrArg Except.toOption same)
  refine ⟨⟨congrArg Json.render rfl, ?_, ?_, differ ?_⟩, ⟨congrArg Json.render rfl, ?_, ?_, differ ?_⟩,
    ⟨congrArg Json.render rfl, ?_, ?_, differ ?_⟩⟩
  all_goals decide +kernel

end Sample

end SyncSchema

import Mathlib.Data.List.Forall2
import SyncSchema.Datamodel.Outline
import SyncSchema.Proofs.Digest

namespace SyncSchema

structure Field.Matches (f g : Field) : Prop where
  name : f.name = g.name
  type : f.type = g.type
  isRequired : f.isRequired = g.isRequired
  isList : f.isList = g.isList
  relationName : f.relationName = g.relationName
  fromFields : f.fromFields = g.fromFields
  toFields : f.toFields = g.toFields
  defaultValue : f.defaultValue = g.defaultValue
  isUnique : f.isUnique = g.isUnique

structure Model.Matches (m n : Model) : Prop where
  name : m.name = n.name
  mappedName : m.mappedName = n.mappedName
  fields : List.Forall₂ Field.Matches m.fields n.fields
  primaryKey : m.primaryKey = n.primaryKey
  uniqueFields : m.uniqueFields = n.uniqueFields
  uniqueIndexes : m.uniqueIndexes = n.uniqueIndexes

structure Enum.Matches (e e' : Enum) : Prop where
  name : e.name = e'.name
  values : e.values = e'.values

structure Datamodel.Matches (d₁ d₂ : Datamodel) : Prop where
  models : List.Forall₂ Model.Matches d₁.models d₂.models
  enums : List.Forall₂ Enum.Matches d₁.enums d₂.enums

theorem map_eq_iff_forall₂ {α β : Type} {outline : α → β} {matched : α → α → Prop}
    (step : ∀ a b, outline a = outline b ↔ matched a b) (as bs : List α) :
    as.map outline = bs.map outline ↔ List.Forall₂ matched as bs := by
  simp only [← List.forall₂_eq_eq_eq, List.forall₂_map_left_iff, List.forall₂_map_right_iff, step]

theorem Flag.value_inj {a b : Flag} : a.value = b.value ↔ a = b := by
  cases a
  cases b
  rw [Flag.mk.injEq]

theorem Field.outline_eq_iff {f g : Field} : f.outline = g.outline ↔ f.Matches g := by
  simp only [outline, Json.obj.injEq, List.cons.injEq, Prod.mk.injEq, true_and, and_true, Json.arr.injEq,
    Flag.value_inj]
  constructor
  · rintro ⟨name, type, isRequired, isList, relationName, fromFields, toFields, defaultValue, isUnique⟩
    exact ⟨name, type, isRequired, isList, relationName, fromFields, toFields, defaultValue, isUnique⟩
  · rintro ⟨name, type, isRequired, isList, relationName, fromFields, toFields, defaultValue, isUnique⟩
    exact ⟨name, type, isRequired, isList, relationName, fromFields, toFields, defaultValue, isUnique⟩

theorem Model.outline_eq_iff {m n : Model} : m.outline = n.outline ↔ m.Matches n := by
  simp only [outline, Json.obj.injEq, List.cons.injEq, Prod.mk.injEq, true_and, and_true, Json.arr.injEq,
    map_eq_iff_forall₂ (fun _ _ => Field.outline_eq_iff), (List.map_injective_iff.2 fun _ _ => Json.arr.inj).eq_iff]
  constructor
  · rintro ⟨name, mappedName, fields, primaryKey, uniqueFields, uniqueIndexes⟩
    refine ⟨name, mappedName, fields, ?_, uniqueFields, uniqueIndexes⟩
    -- An absent key is null and an empty one an empty list.
    cases key : m.primaryKey <;> cases key' : n.primaryKey <;> simp [key, key'] at primaryKey ⊢
    exact primaryKey
  · rintro ⟨name, mappedName, fields, primaryKey, uniqueFields, uniqueIndexes⟩
    exact ⟨name, mappedName, fields, by rw [primaryKey], uniqueFields, uniqueIndexes⟩

theorem EnumValue.outline_injective : Function.Injective EnumValue.outline := by
  intro v w outlines
  cases v
  cases w
  simpa [outline] using outlines

theorem Enum.outline_eq_iff {e e' : Enum} : e.outline = e'.outline ↔ e.Matches e' := by
  simp only [outline, Json.obj.injEq, List.cons.injEq, Prod.mk.injEq, true_and, and_true, Json.arr.injEq,
    (List.map_injective_iff.2 EnumValue.outline_injective).eq_iff]
  exact ⟨fun ⟨name, values⟩ => ⟨name, values⟩, fun ⟨name, values⟩ => ⟨name, values⟩⟩

namespace Datamodel

variable {d₁ d₂ : Datamodel}

theorem outline_eq_iff : d₁.outline = d₂.outline ↔ d₁.Matches d₂ := by
  simp only [outline, Json.obj.injEq, List.cons.injEq, Prod.mk.injEq, true_and, and_true, Json.arr.injEq,
    map_eq_iff_forall₂ (fun _ _ => Model.outline_eq_iff), map_eq_iff_forall₂ (fun _ _ => Enum.outline_eq_iff)]
  exact ⟨fun ⟨models, enums⟩ => ⟨models, enums⟩, fun ⟨models, enums⟩ => ⟨models, enums⟩⟩

theorem payload_eq_iff : d₁.payload = d₂.payload ↔ d₁.Matches d₂ := by
  rw [← outline_eq_iff]
  exact ⟨Json.render_injective, congrArg Json.render⟩

/-- Documents have one payload exactly when they match, and one hash only then or by a collision of their payloads. -/
theorem payload_tells (d₁ d₂ : Datamodel) :
    (d₁.payload = d₂.payload ↔ d₁.Matches d₂) ∧
      (d₁.hash = d₂.hash ↔ d₁.Matches d₂ ∨ Digest.Collide d₁.payload.toUTF8.toList d₂.payload.toUTF8.toList) := by
  refine ⟨payload_eq_iff, ?_⟩
  rw [← payload_eq_iff]
  exact Digest.hex_eq_iff

end Datamodel

end SyncSchema

import SyncSchema.Proofs.Mapping.Clashes
import SyncSchema.Proofs.Mapping.Shape

namespace SyncSchema
open Outcome

def Table.RowApart (t : Table) : Prop :=
  ∀ column ∈ t.columns, ∀ entry ∈ t.relationships, (entry.1 == column.1) = false

instance (t : Table) : Decidable t.RowApart :=
  inferInstanceAs (Decidable (∀ column ∈ t.columns, _))

/-- No column is in camel case what a relation field of the model is called that leads to one of these models. -/
def Model.RowApart (m : Model) (models : List Model) : Prop :=
  ∀ c ∈ m.columnFields, c.mappedName.isGiven = false → ∀ f ∈ m.relationFields, f.leadsTo models = true →
    (f.name == Naming.shown true c.name) = false

theorem Naming.keyOf_eq_shown (naming : Naming) (f : Field) :
    naming.keyOf f = if f.mappedName.isGiven then f.name else shown naming.remapColumns f.name := by
  unfold keyOf resolveColumn
  by_cases mapped : f.mappedName.isGiven = true
  · rw [if_pos mapped, if_pos mapped]
    split_ifs <;> rfl
  · rw [if_neg mapped, if_neg mapped]
    unfold shown columnName
    cases asked : naming.remapColumns with
    | false =>
      show (renamed f.name f.name).1 = f.name
      rw [renamed, if_pos BEq.rfl]
    | true =>
      cases named : f.name with
      | str name =>
        show (renamed (.str name) (.str (camel name))).1 = .str (camel name)
        unfold renamed
        split
        · rename_i same
          exact (Json.eq_str_of_beq same).symm
        · rfl
      | _ => rfl

namespace Context

variable {d : Datamodel} {naming : Naming} {excluded : List Json} {ctx : Context} {m : Model} {t : Table}

theorem Built.rowApart_iff (built : ctx.Built d naming excluded) (kept : m ∈ d.kept excluded)
    (tabled : ctx.Tabled m t) (distinct : Distinct Field.name m.fields) :
    t.RowApart ↔ (naming.remapColumns = true → m.RowApart (d.kept excluded)) := by
  have columnsOk := tabled.columns_ok
  rw [built.naming_eq] at columnsOk
  have keys := Model.keys_columns (built.fit m kept) columnsOk
  have shows := (built.table_shows kept tabled).relationships (distinct.sublist List.filter_sublist)
  have names : t.relationships.map Prod.fst =
      (m.relationFields.filter (·.leadsTo (d.kept excluded))).map Field.name :=
    map_eq_of_forall₂ shows fun _ _ shows => shows.name
  have listed : t.RowApart ↔ ∀ key ∈ t.columns.map Prod.fst, ∀ name ∈ t.relationships.map Prod.fst,
      (name == key) = false := by
    simp only [Table.RowApart, List.forall_mem_map]
  -- A column that keeps its name is called differently from every other field.
  have apart : ∀ c ∈ m.columnFields, ∀ f ∈ m.relationFields, (f.name == c.name) = false := by
    intro c column f relation
    rw [Bool.eq_false_iff]
    intro same
    obtain ⟨memberC, column⟩ := List.mem_filter.1 column
    obtain ⟨memberF, relation⟩ := List.mem_filter.1 relation
    cases distinct.eq_of_beq memberF memberC same
    simp [Field.isColumn, relation] at column
  rw [listed, keys, names]
  simp only [List.forall_mem_map, List.mem_filter, and_imp]
  constructor
  · intro all asked c column unmapped f relation leads
    have differs := all c column f relation leads
    rwa [Naming.keyOf_eq_shown, unmapped, if_neg Bool.false_ne_true, asked] at differs
  · intro camel c column f relation leads
    rw [Naming.keyOf_eq_shown]
    split_ifs with mapped
    · exact apart c column f relation
    · cases asked : naming.remapColumns with
      | false => exact apart c column f relation
      | true => exact camel asked c column (Bool.not_eq_true _ ▸ mapped) f relation leads

end Context

theorem JoinTable.Joins.rowApart {ctx : Context} {model other a b : Model} {relation : Json} {idA idB : Field}
    {t : Table} (joins : Joins ctx model other relation t a b idA idB) : t.RowApart := by
  obtain ⟨typeA, typeB, -, -, columns⟩ := joins.columns_eq
  obtain ⟨constantA, constantB, -, -, relationships⟩ := joins.relationships_eq
  unfold Table.RowApart
  rw [columns, relationships]
  simp only [List.forall_mem_cons]
  decide

namespace Datamodel

variable {d : Datamodel} {naming : Naming} {excluded : List Json} {s : Schema}

theorem toSchema_rows_iff (distinct : ∀ m ∈ d.models, Distinct Field.name m.fields)
    (ok : (d.toSchema naming excluded).result = .ok s) :
    (∀ t ∈ s.tables, t.RowApart) ↔
      (naming.remapColumns = true → ∀ m ∈ d.kept excluded, m.RowApart (d.kept excluded)) := by
  obtain ⟨ctx, tables, joins, plans, ctxOk, rfl, tabled, -, joined⟩ := toSchema_ok ok
  have built := Context.build_ok ctxOk
  have rows {m : Model} {t : Table} (kept : m ∈ d.kept excluded) (made : (ctx.table m).result = .ok t) :=
    built.rowApart_iff kept (Context.table_ok made) (distinct m (List.mem_of_mem_filter kept))
  constructor
  · intro apart asked m kept
    obtain ⟨t, member, made⟩ := exists_result tabled kept
    exact (rows kept made).1 (apart t (List.mem_append_left _ member)) asked
  · intro camel t member
    rcases List.mem_append.1 member with table | join
    · obtain ⟨m, kept, made⟩ := exists_item tabled table
      exact (rows kept made).2 fun asked => camel asked m kept
    · obtain ⟨p, -, made⟩ := exists_item joined join
      obtain ⟨a, b, idA, idB, joins⟩ := JoinTable.table_ok made
      exact joins.rowApart

end Datamodel

namespace Sample

theorem blog_rows_iff : (∀ m ∈ blog.models, Distinct Field.name m.fields) ∧
    ∃ s, (blog.toSchema ⟨true, true⟩ []).result = .ok s ∧
      ((∀ t ∈ s.tables, t.RowApart) ↔
        (Naming.remapColumns ⟨true, true⟩ = true → ∀ m ∈ blog.kept [], m.RowApart (blog.kept []))) := by
  have distinct : ∀ m ∈ blog.models, Distinct Field.name m.fields := by decide +kernel
  obtain ⟨s, ok⟩ := blog_toSchema
  exact ⟨distinct, s, ok, Datamodel.toSchema_rows_iff distinct ok⟩

def counted : Datamodel where
  models := [
    model "User" [id "id" "Int", column "user_posts" "String", many "userPosts" "Post" "UserPosts"],
    model "Post" [id "id" "Int", column "authorId" "Int", one "author" "User" "UserPosts" ["authorId"] ["id"]]]
  enums := []

end Sample

theorem Datamodel.not_forall_rowApart : ¬∀ (d : Datamodel) (naming : Naming) (excluded : List Json) (s : Schema),
    (∀ m ∈ d.models, Distinct Field.name m.fields) → (d.toSchema naming excluded).result = .ok s →
      ∀ t ∈ s.tables, t.RowApart := by
  intro claim
  have clash : ∃ s ∈ (Sample.counted.toSchema ⟨false, true⟩ []).result.toOption,
      ¬∀ t ∈ s.tables, t.RowApart := by decide +kernel
  obtain ⟨s, made, clash⟩ := clash
  exact clash (claim Sample.counted ⟨false, true⟩ [] s (by decide +kernel) (toOption_eq_some.1 made))

end SyncSchema

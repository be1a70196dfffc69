import SyncSchema.Mapping.Columns
import SyncSchema.Proofs.Names
import SyncSchema.Proofs.Outcome

namespace SyncSchema
open Outcome

def Model.columnFields (m : Model) : List Field :=
  m.fields.filter (·.isColumn)

namespace Naming

def keyOf (naming : Naming) (f : Field) : Json :=
  match naming.resolveColumn f with
  | .ok (key, _) => key
  | .error _ => f.name

def HasKey (naming : Naming) (f : Field) : Prop :=
  (∃ storedAs, naming.resolveColumn f = .ok (naming.keyOf f, storedAs)) ∧ (naming.keyOf f).canBeKey = true

theorem keyOf_eq {naming : Naming} {f : Field} {key : Json} {storedAs : Option Json}
    (resolved : naming.resolveColumn f = .ok (key, storedAs)) : naming.keyOf f = key := by
  simp [keyOf, resolved]

end Naming

namespace Model

/-- Every column field has a key, and no two have the same. -/
structure KeysFit (m : Model) (naming : Naming) : Prop where
  hasKey : ∀ f ∈ m.columnFields, naming.HasKey f
  distinct : Distinct naming.keyOf m.columnFields

def keyTable (m : Model) (naming : Naming) : Entries Json :=
  .ofList (m.columnFields.map fun f => (f.name, naming.keyOf f))

theorem columnKeysFrom_eq_ok {naming : Naming} {model : Json} {seen : List (Json × Json)}
    {fields : List Field} {pairs : List (Json × Json)} :
    columnKeysFrom naming model seen fields = .ok pairs ↔
      (∀ f ∈ fields.filter (·.isColumn), naming.HasKey f) ∧
      (∀ f ∈ fields.filter (·.isColumn), ∀ entry ∈ seen, (entry.2 == naming.keyOf f) = false) ∧
      Distinct naming.keyOf (fields.filter (·.isColumn)) ∧
      pairs = seen.reverse ++ (fields.filter (·.isColumn)).map fun f => (f.name, naming.keyOf f) := by
  induction fields generalizing seen with
  | nil => simp [columnKeysFrom, Distinct, eq_comm (a := pairs)]
  | cons f rest ih =>
    rw [columnKeysFrom]
    by_cases column : f.isColumn = true
    · rw [if_pos column, List.filter_cons_of_pos column]
      simp only [List.forall_mem_cons, Distinct, List.pairwise_cons, List.map_cons]
      cases resolved : naming.resolveColumn f with
      | error misuse => simp [Naming.HasKey, resolved]
      | ok entry =>
        obtain ⟨key, storedAs⟩ := entry
        obtain rfl := Naming.keyOf_eq resolved
        by_cases usable : (naming.keyOf f).canBeKey = true
        · have hasKey : naming.HasKey f := ⟨⟨storedAs, resolved⟩, usable⟩
          cases clash : seen.find? (·.2 == naming.keyOf f) with
          | some first =>
            have same := List.find?_some clash
            have member := List.mem_of_find?_eq_some clash
            simp only [usable, clash, Bool.not_true, Bool.false_eq_true, if_false, reduceCtorEq, false_iff]
            rintro ⟨-, ⟨fresh, -⟩, -⟩
            simp [fresh first member] at same
          | none =>
            have fresh : ∀ entry ∈ seen, (entry.2 == naming.keyOf f) = false := by simpa using clash
            simp only [usable, clash, Bool.not_true, Bool.false_eq_true, if_false, ih, List.forall_mem_cons,
              List.reverse_cons, List.append_assoc, List.singleton_append]
            constructor
            · rintro ⟨hasKeys, apart, distinct, rfl⟩
              exact ⟨⟨hasKey, hasKeys⟩, ⟨fresh, fun g member => (apart g member).2⟩,
                ⟨fun g member => (apart g member).1, distinct⟩, rfl⟩
            · rintro ⟨⟨-, hasKeys⟩, ⟨-, apart⟩, ⟨apart', distinct⟩, rfl⟩
              exact ⟨hasKeys, fun g member => ⟨apart' g member, apart g member⟩, distinct, rfl⟩
        · simp [usable, Naming.HasKey]
    · rw [if_neg column, List.filter_cons_of_neg column, ih]

theorem columnKeys_eq_ok {m : Model} {naming : Naming} {keys : Entries Json} :
    m.columnKeys naming = .ok keys ↔ m.KeysFit naming ∧ keys = m.keyTable naming := by
  simp only [columnKeys, bind_eq_ok, pure_eq_ok, columnKeysFrom_eq_ok]
  constructor
  · rintro ⟨pairs, ⟨hasKey, -, distinct, rfl⟩, rfl⟩
    exact ⟨⟨hasKey, distinct⟩, rfl⟩
  · rintro ⟨⟨hasKey, distinct⟩, rfl⟩
    exact ⟨_, ⟨hasKey, by simp, distinct, rfl⟩, rfl⟩

theorem get?_keyTable (m : Model) (naming : Naming) {f : Field} (column : f ∈ m.columnFields) {name : Json}
    (named : (f.name == name) = true) :
    ∃ g ∈ m.columnFields, (g.name == name) = true ∧ (m.keyTable naming).get? name = some (naming.keyOf g) := by
  rw [keyTable, Entries.get?_ofList]
  cases found : (m.columnFields.map fun f => (f.name, naming.keyOf f)).reverse.find? (·.1 == name) with
  | none =>
    have := List.find?_eq_none.1 found (f.name, naming.keyOf f)
      (by simpa using ⟨f, column, rfl, rfl⟩)
    exact absurd named this
  | some entry =>
    have same := List.find?_some found
    have member := List.mem_of_find?_eq_some found
    simp only [List.mem_reverse, List.mem_map] at member
    obtain ⟨g, member, rfl⟩ := member
    exact ⟨g, member, same, rfl⟩

theorem columnsOf_ok {naming : Naming} {types : TypeTable} {model : Json} {fields : List Field}
    {columns : Entries Column} (ok : (columnsOf naming types model fields).result = .ok columns) :
    List.Forall₂ (fun f entry => ∃ storedAs, naming.resolveColumn f = .ok (entry.1, storedAs) ∧
      (f.column types storedAs).result = .ok entry.2) (fields.filter (·.isColumn)) columns := by
  induction fields generalizing columns with
  | nil =>
    rw [columnsOf, Run.result_pure, Except.ok.injEq] at ok
    subst ok
    exact .nil
  | cons f rest ih =>
    rw [columnsOf] at ok
    split at ok
    · rename_i relation
      rw [List.filter_cons_of_neg (by simp [Field.isColumn, relation])]
      exact ih ok
    · rename_i scalar
      split at ok
      · rename_i list
        rw [List.filter_cons_of_neg (by simp [Field.isColumn, list])]
        simp only [Run.result_bind, Run.result_log, bind_eq_ok] at ok
        obtain ⟨-, -, ok⟩ := ok
        exact ih ok
      · rename_i single
        rw [List.filter_cons_of_pos (by simp [Field.isColumn, scalar, single])]
        simp only [Run.result_bind, Run.result_check, Run.result_pure, bind_eq_ok, mapError_eq_ok,
          Except.ok.injEq] at ok
        obtain ⟨⟨key, storedAs⟩, resolved, column, typed, key', usable, columns, others, rfl⟩ := ok
        have : key = key' := by
          simp only [Json.key?] at usable
          split at usable <;> simp_all
        subst this
        exact .cons ⟨storedAs, resolved, typed⟩ (ih others)

theorem columns_ok {m : Model} {naming : Naming} {types : TypeTable} {columns : Entries Column}
    (fit : m.KeysFit naming) (ok : (m.columns naming types).result = .ok columns) :
    List.Forall₂ (fun f entry => ∃ storedAs, naming.resolveColumn f = .ok (entry.1, storedAs) ∧
      (f.column types storedAs).result = .ok entry.2) m.columnFields columns := by
  simp only [Model.columns, Run.result_bind, Run.result_pure, bind_eq_ok, Except.ok.injEq] at ok
  obtain ⟨pairs, pairsOk, rfl⟩ := ok
  have rows := columnsOf_ok pairsOk
  have keys : pairs.map Prod.fst = m.columnFields.map naming.keyOf :=
    map_eq_of_forall₂ rows fun f entry row => (Naming.keyOf_eq row.choose_spec.1).symm
  have distinct : Distinct Prod.fst pairs := by
    rw [← Function.id_comp Prod.fst, ← Distinct.map_iff, keys, Distinct.map_iff]
    exact fit.distinct
  rwa [Entries.ofList_eq_self distinct]

theorem keys_columns {m : Model} {naming : Naming} {types : TypeTable} {columns : Entries Column}
    (fit : m.KeysFit naming) (ok : (m.columns naming types).result = .ok columns) :
    columns.map Prod.fst = m.columnFields.map naming.keyOf :=
  map_eq_of_forall₂ (columns_ok fit ok) fun _ _ row => (Naming.keyOf_eq row.choose_spec.1).symm

end Model

end SyncSchema

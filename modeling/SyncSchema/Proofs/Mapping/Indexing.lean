import SyncSchema.Proofs.Judged
import SyncSchema.Proofs.Mapping.Conditions

namespace SyncSchema
open Outcome

namespace Json

theorem exists_text?_iff {name : Json} : (∃ s, name.text? = .ok s) ↔ name.kind = .string := by
  cases name <;> simp [text?, kind]

theorem exists_key?_iff {name : Json} : (∃ key, name.key? = .ok key) ↔ name.canBeKey = true := by
  simp [key?_eq_ok]

theorem exists_lt?_iff {name other : Json} (text : name.kind = .string) :
    (∃ before, name.lt? other = .ok before) ↔ other.kind = .string := by
  obtain ⟨s, rfl⟩ := eq_str_of_kind text
  cases other <;> simp [lt?, worth?, kind]

end Json

namespace Naming

variable {naming : Naming} {m : Model} {f : Field}

theorem exists_remap_iff {asked : Bool} {name : Json} :
    (∃ new, remap asked name = .ok new) ↔ (asked = true → name.kind = .string) := by
  cases asked with
  | true =>
    simp only [remap, if_true, exists_bind_eq_ok, pure_eq_ok, exists_eq', and_true, Json.exists_text?_iff,
      forall_const]
  | false => simp [remap, pure_eq_ok]

theorem exists_resolveTableName_iff {source : Json} :
    (∃ entry, naming.resolveTableName source = .ok entry) ↔ (naming.remapTables = true → source.kind = .string) := by
  simp only [resolveTableName, tableName, exists_bind_eq_ok, pure_eq_ok, exists_eq', and_true, exists_remap_iff]

theorem resolveTableName_isOk {source : Json} (text : source.kind = .string) (naming : Naming) :
    ∃ entry, naming.resolveTableName source = .ok entry :=
  exists_resolveTableName_iff.2 fun _ => text

theorem exists_resolveColumn_iff : (∃ entry, naming.resolveColumn f = .ok entry) ↔
    (naming.remapColumns = true → f.mappedName.isGiven = false → f.name.kind = .string) := by
  by_cases mapped : f.mappedName.isGiven = true
  · simp [resolveColumn, mapped, pure_eq_ok]
  · rw [Bool.not_eq_true] at mapped
    simp only [resolveColumn, columnName, mapped, Bool.false_eq_true, if_false, exists_bind_eq_ok, pure_eq_ok,
      exists_eq', and_true, exists_remap_iff, forall_const]

theorem resolveColumn_keyOf :
    (∃ storedAs, naming.resolveColumn f = .ok (naming.keyOf f, storedAs)) ↔
      ∃ entry, naming.resolveColumn f = .ok entry := by
  constructor
  · rintro ⟨storedAs, resolved⟩
    exact ⟨_, resolved⟩
  · rintro ⟨⟨key, storedAs⟩, resolved⟩
    exact ⟨storedAs, by rw [keyOf_eq resolved, resolved]⟩

theorem eq_or_of_remap {asked : Bool} {name new : Json} (ok : remap asked name = .ok new) :
    new = name ∨ new.kind = .string ∧ name.kind = .string := by
  cases asked with
  | true =>
    simp only [remap, if_true, bind_eq_ok, pure_eq_ok] at ok
    obtain ⟨s, text, rfl⟩ := ok
    exact .inr ⟨rfl, Json.exists_text?_iff.1 ⟨s, text⟩⟩
  | false =>
    cases ok
    exact .inl rfl

theorem keyOf_eq_or : naming.keyOf f = f.name ∨ (naming.keyOf f).kind = .string ∧ f.name.kind = .string := by
  cases resolved : naming.resolveColumn f with
  | error misuse => exact .inl (by rw [keyOf, resolved])
  | ok entry =>
    obtain ⟨key, storedAs⟩ := entry
    rw [keyOf_eq resolved]
    rw [resolveColumn] at resolved
    split at resolved
    · simp only [pure_eq_ok, Prod.mk.injEq] at resolved
      exact .inl resolved.1.symm
    · simp only [bind_eq_ok, pure_eq_ok, columnName, renamed] at resolved
      obtain ⟨new, remapped, renames⟩ := resolved
      split at renames
      · exact .inl (congrArg Prod.fst renames).symm
      · obtain rfl : new = key := congrArg Prod.fst renames
        exact eq_or_of_remap remapped

theorem hasKey_iff : naming.HasKey f ↔ f.Keyable naming := by
  have usable : (naming.keyOf f).canBeKey = f.name.canBeKey := by
    rcases keyOf_eq_or with same | ⟨textKey, text⟩
    · rw [same]
    · rw [Json.canBeKey_of_kind textKey, Json.canBeKey_of_kind text]
  rw [HasKey, resolveColumn_keyOf, exists_resolveColumn_iff, usable]
  constructor
  · rintro ⟨resolves, usable⟩
    exact ⟨usable, resolves⟩
  · rintro ⟨usable, resolves⟩
    exact ⟨resolves, usable⟩

end Naming

theorem Field.columnType_judged (f : Field) (types : TypeTable) :
    Judged (f.columnType types).result f.Typeable True := by
  rw [columnType, Typeable]
  split
  · rename_i enum
    exact .ok (.inl enum)
  · rename_i other
    have looked : (∃ found, types.find? f.type = .ok found) ↔ f.type.canBeKey = true := by
      rw [TypeTable.find?, exists_bind_eq_ok, ← Json.exists_key?_iff]
      refine exists_congr fun key => and_iff_left ?_
      split <;> exact ⟨_, rfl⟩
    rw [Run.result_bind, Run.result_check, or_iff_right other, ← and_true (f.type.canBeKey = true)]
    refine .check_bind looked fun found _ _ => ?_
    cases found <;> exact .ok trivial

theorem Field.column_judged (f : Field) (types : TypeTable) (storedAs : Option Json) :
    Judged (f.column types storedAs).result f.Typeable True := by
  rw [column, Run.result_bind]
  exact (f.columnType_judged types).bind_pure _

namespace Model

theorem columnKeysFrom_judged (naming : Naming) (model : Json) (seen : List (Json × Json)) (fields : List Field) :
    Judged (columnKeysFrom naming model seen fields) (∀ f ∈ fields.filter (·.isColumn), f.Keyable naming)
      ((∀ f ∈ fields.filter (·.isColumn), ∀ entry ∈ seen, (entry.2 == naming.keyOf f) = false) ∧
        Distinct naming.keyOf (fields.filter (·.isColumn))) := by
  induction fields generalizing seen with
  | nil => exact .ok (by simp)
  | cons f rest ih =>
    rw [columnKeysFrom]
    by_cases column : f.isColumn = true
    · rw [if_pos column, List.filter_cons_of_pos column]
      simp only [List.forall_mem_cons, Distinct, List.pairwise_cons, ← Naming.hasKey_iff (f := f)]
      cases resolved : naming.resolveColumn f with
      | error misuse => exact .misuse (by simp [Naming.HasKey, resolved])
      | ok entry =>
        obtain ⟨key, storedAs⟩ := entry
        obtain rfl := Naming.keyOf_eq resolved
        by_cases usable : (naming.keyOf f).canBeKey = true
        · have hasKey : naming.HasKey f := ⟨⟨storedAs, resolved⟩, usable⟩
          simp only [usable, Bool.not_true, Bool.false_eq_true, if_false]
          cases clash : seen.find? (·.2 == naming.keyOf f) with
          | some first =>
            have same := List.find?_some clash
            have member := List.mem_of_find?_eq_some clash
            refine .problem ?_
            rintro ⟨⟨fresh, -⟩, -⟩
            simp [fresh first member] at same
          | none =>
            refine (ih ((f.name, naming.keyOf f) :: seen)).imp (by simp [hasKey]) ?_
            rintro ⟨⟨fresh, apart⟩, others⟩
            simp only [List.forall_mem_cons]
            exact ⟨fun g member => ⟨others.1 g member, apart g member⟩, others.2⟩
        · simp only [usable]
          exact .misuse fun hasKeys => usable hasKeys.1.2
    · rw [if_neg column, List.filter_cons_of_neg column]
      exact ih seen

theorem columnKeys_judged (m : Model) (naming : Naming) :
    Judged (m.columnKeys naming) (∀ f ∈ m.columnFields, f.Keyable naming) (Distinct naming.keyOf m.columnFields) :=
  ((columnKeysFrom_judged naming m.name [] m.fields).bind_pure _).imp Iff.rfl fun distinct => ⟨by simp, distinct⟩

theorem columnsOf_judged (naming : Naming) (types : TypeTable) (model : Json) (fields : List Field) :
    Judged (columnsOf naming types model fields).result
      (∀ f ∈ fields.filter (·.isColumn), f.Keyable naming ∧ f.Typeable) True := by
  induction fields with
  | nil => exact .ok (by simp)
  | cons f rest ih =>
    rw [columnsOf]
    split
    · rename_i relation
      rwa [List.filter_cons_of_neg (by simp [Field.isColumn, relation])]
    rename_i scalar
    split
    · rename_i list
      rwa [List.filter_cons_of_neg (by simp [Field.isColumn, list])]
    · rename_i single
      rw [List.filter_cons_of_pos (by simp [Field.isColumn, scalar, single]), List.forall_mem_cons]
      simp only [Run.result_bind, Run.result_check, Run.result_pure, ← Naming.hasKey_iff (f := f)]
      have usable : (∃ entry, naming.resolveColumn f = .ok entry) ∧ f.Typeable ∧ (naming.keyOf f).canBeKey = true ∧
          (∀ f ∈ rest.filter (·.isColumn), f.Keyable naming ∧ f.Typeable) ↔
          (naming.HasKey f ∧ f.Typeable) ∧ ∀ f ∈ rest.filter (·.isColumn), f.Keyable naming ∧ f.Typeable := by
        rw [Naming.HasKey, Naming.resolveColumn_keyOf]
        tauto
      refine .congr (.check_bind Iff.rfl ?_) usable
      rintro ⟨key, storedAs⟩ resolved -
      obtain rfl := Naming.keyOf_eq resolved
      exact (f.column_judged types storedAs).value_bind fun _ _ _ =>
        .check_bind Json.exists_key?_iff fun _ _ _ => ih.bind_pure _

theorem columns_judged (m : Model) (naming : Naming) (types : TypeTable) :
    Judged (m.columns naming types).result (∀ f ∈ m.columnFields, f.Keyable naming ∧ f.Typeable) True := by
  rw [columns, Run.result_bind]
  exact (columnsOf_judged naming types m.name m.fields).bind_pure _

end Model

namespace Context

variable {d : Datamodel} {naming : Naming} {excluded : List Json}

theorem indexFrom_judged (excluded : List Json) (seen models : List Model) :
    Judged (indexFrom excluded seen models) (∀ m ∈ models, m.name.canBeKey = true)
      (Distinct Model.name (keptOf excluded models) ∧
        ∀ m ∈ keptOf excluded models, ∀ n ∈ seen, (n.name == m.name) = false) := by
  induction models generalizing seen with
  | nil => exact .ok (List.forall_mem_nil _)
  | cons m rest ih =>
    rw [indexFrom, List.forall_mem_cons]
    split
    · rename_i unusable
      exact .misuse fun usable => by simp [usable.1] at unusable
    rename_i usable
    have usable : m.name.canBeKey = true := by simpa using usable
    cases dropped : excluded.contains m.name with
    | true =>
      rw [keptOf_cons_of_excluded dropped]
      split
      · exact (ih seen).congr (and_iff_right usable).symm
      · refine (ih (m :: seen)).imp (and_iff_right usable).symm ?_
        rintro ⟨distinct, apart⟩
        refine ⟨distinct, fun n kept => ?_⟩
        rw [List.forall_mem_cons]
        exact ⟨excluded_ne_kept dropped (not_excluded_of_kept kept), apart n kept⟩
    | false =>
      rw [keptOf_cons_of_kept dropped, List.forall_mem_cons]
      split
      · rename_i known
        obtain ⟨n, member, same⟩ := List.any_eq_true.1 known
        exact .problem fun fits => by simp [fits.2.1 n member] at same
      · refine (ih (m :: seen)).imp (and_iff_right usable).symm ?_
        rintro ⟨distinct, apart, others⟩
        obtain ⟨fresh, distinct⟩ := List.pairwise_cons.1 distinct
        refine ⟨distinct, fun n kept => ?_⟩
        rw [List.forall_mem_cons]
        exact ⟨fresh n kept, others n kept⟩

theorem build_judged (d : Datamodel) (naming : Naming) (texts : ∀ name ∈ excluded, name.kind = .string) :
    Judged (build d naming excluded).result
      ((∀ m ∈ d.models, m.name.canBeKey = true) ∧ ∀ m ∈ d.kept excluded, ∀ f ∈ m.columnFields, f.Keyable naming)
      (Distinct Model.name (d.kept excluded) ∧ ∀ m ∈ d.kept excluded, Distinct naming.keyOf m.columnFields) := by
  simp only [build, Run.result_bind, Run.result_lift, Run.result_mapM, Run.result_pure, result_warnUnknown texts,
    ok_bind]
  exact ((indexFrom_judged excluded [] d.models).bind fun index _ _ =>
    (Judged.mapM fun m _ => (m.columnKeys_judged naming).bind_pure _).bind_pure _).imp Iff.rfl
      fun fits => ⟨⟨fits.1, by simp⟩, fits.2⟩

end Context

end SyncSchema

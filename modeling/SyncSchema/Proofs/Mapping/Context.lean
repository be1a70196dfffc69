import SyncSchema.Mapping.Tables
import SyncSchema.Proofs.Mapping.Columns

namespace SyncSchema
open Outcome

namespace Context

variable {d : Datamodel} {naming : Naming} {excluded : List Json} {ctx : Context} {m : Model}

theorem keptOf_cons_of_kept (here : excluded.contains m.name = false) (models : List Model) :
    keptOf excluded (m :: models) = m :: keptOf excluded models :=
  List.filter_cons_of_pos (by rw [here]; rfl)

theorem keptOf_cons_of_excluded (dropped : excluded.contains m.name = true) (models : List Model) :
    keptOf excluded (m :: models) = keptOf excluded models :=
  List.filter_cons_of_neg (by rw [dropped]; decide)

theorem not_excluded_of_kept {models : List Model} (kept : m ∈ keptOf excluded models) :
    excluded.contains m.name = false := by
  simpa using (List.mem_filter.1 kept).2

theorem excluded_ne_kept {name other : Json} (dropped : excluded.contains name = true)
    (here : excluded.contains other = false) : (name == other) = false := by
  rw [Bool.eq_false_iff]
  intro same
  rw [← List.contains_congr same, dropped] at here
  contradiction

theorem indexFrom_ok {seen models index : List Model} (ok : indexFrom excluded seen models = .ok index)
    (distinct : Distinct Model.name seen) :
    Distinct Model.name index ∧ (∀ m ∈ models, m.name.canBeKey = true) ∧
      (∀ m ∈ models, ∃ n ∈ index, (n.name == m.name) = true) ∧
      ∃ added, index = seen.reverse ++ added ∧ added.Sublist models ∧
        keptOf excluded added = keptOf excluded models := by
  induction models generalizing seen with
  | nil =>
    rw [indexFrom, Except.ok.injEq] at ok
    subst ok
    refine ⟨?_, by simp, by simp, [], by simp⟩
    rw [Distinct, List.pairwise_reverse]
    exact distinct.imp fun apart => by rwa [BEq.comm]
  | cons m rest ih =>
    rw [indexFrom] at ok
    split at ok
    · cases ok
    rename_i usable
    rw [Bool.not_eq_true, Bool.not_eq_false'] at usable
    split at ok
    · rename_i known
      split at ok
      · rename_i dropped
        obtain ⟨distinct, usables, named, added, rfl, sub, kept⟩ := ih ok distinct
        obtain ⟨n, member, same⟩ := List.any_eq_true.1 known
        refine ⟨distinct, by simpa using ⟨usable, usables⟩, ?_, added, rfl, sub.cons m, ?_⟩
        · rw [List.forall_mem_cons]
          exact ⟨⟨n, by simp [member], same⟩, named⟩
        · rw [kept, keptOf, keptOf, List.filter_cons_of_neg (by simp [dropped])]
      · cases ok
    · rename_i fresh
      have apart : ∀ n ∈ seen, (n.name == m.name) = false := by simpa using fresh
      have distinct' : Distinct Model.name (m :: seen) :=
        List.pairwise_cons.2 ⟨fun n member => by rw [BEq.comm, apart n member], distinct⟩
      obtain ⟨distinct, usables, named, added, rfl, sub, kept⟩ := ih ok distinct'
      refine ⟨distinct, by simpa using ⟨usable, usables⟩, ?_, m :: added, by simp, sub.cons_cons m, ?_⟩
      · rw [List.forall_mem_cons]
        exact ⟨⟨m, by simp, BEq.rfl⟩, named⟩
      · rw [keptOf, keptOf, List.filter_cons, List.filter_cons, ← keptOf, kept, keptOf]

structure Built (ctx : Context) (d : Datamodel) (naming : Naming) (excluded : List Json) : Prop where
  naming_eq : ctx.naming = naming
  excluded_eq : ctx.excluded = excluded
  distinct : Distinct Model.name ctx.models
  usable : ∀ m ∈ d.models, m.name.canBeKey = true
  named : ∀ m ∈ d.models, ∃ n ∈ ctx.models, (n.name == m.name) = true
  sublist : ctx.models.Sublist d.models
  kept : keptOf excluded ctx.models = d.kept excluded
  fit : ∀ m ∈ d.kept excluded, m.KeysFit naming
  columnKeys_eq : ctx.columnKeys = (d.kept excluded).map fun m => (m.name, m.keyTable naming)

theorem build_ok (ok : (build d naming excluded).result = .ok ctx) : ctx.Built d naming excluded := by
  have tables (m : Model) (entry : Json × Entries Json) :
      (do return (m.name, ← m.columnKeys naming) : Except Failure _) = .ok entry ↔
        m.KeysFit naming ∧ entry = (m.name, m.keyTable naming) := by
    simp only [bind_eq_ok, pure_eq_ok, Model.columnKeys_eq_ok]
    constructor
    · rintro ⟨_, ⟨fit, rfl⟩, rfl⟩
      exact ⟨fit, rfl⟩
    · rintro ⟨fit, rfl⟩
      exact ⟨_, ⟨fit, rfl⟩, rfl⟩
  simp only [build, Run.result_bind, Run.result_lift, Run.result_mapM, Run.result_pure] at ok
  rw [bind_eq_ok] at ok
  obtain ⟨models, indexed, ok⟩ := ok
  rw [bind_eq_ok] at ok
  obtain ⟨-, -, ok⟩ := ok
  rw [bind_eq_ok] at ok
  obtain ⟨columnKeys, tabled, ok⟩ := ok
  obtain ⟨fit, rfl⟩ := (mapM_eq_ok_map tables).1 tabled
  cases ok
  obtain ⟨distinct, usable, named, added, rfl, sub, kept⟩ := indexFrom_ok indexed .nil
  exact ⟨rfl, rfl, distinct, usable, named, sub, kept, fit, rfl⟩

theorem build_of_fit {index : List Model} (indexed : indexFrom excluded [] d.models = .ok index)
    (warned : (warnUnknown excluded index).result = .ok ()) (fit : ∀ m ∈ d.kept excluded, m.KeysFit naming) :
    ∃ ctx, (build d naming excluded).result = .ok ctx := by
  have tables : ∃ tables, ((keptOf excluded d.models).mapM fun m =>
      (do return (m.name, ← Run.lift (m.columnKeys naming)) : Run _).result) = .ok tables := by
    apply exists_mapM_eq_ok
    intro m kept
    exact ⟨(m.name, m.keyTable naming), by rw [Model.columnKeys_eq_ok.2 ⟨fit m kept, rfl⟩]; rfl⟩
  obtain ⟨tables, tabled⟩ := tables
  refine ⟨⟨naming, excluded, index, tables⟩, ?_⟩
  simp only [build, Run.result_bind, Run.result_lift, Run.result_mapM, Run.result_pure, indexed, warned,
    ok_bind] at tabled ⊢
  rw [tabled]
  rfl

theorem model?_eq_ok {name : Json} {found : Option Model} :
    ctx.model? name = .ok found ↔ name.canBeKey = true ∧ ctx.models.find? (·.name == name) = found := by
  simp only [model?, bind_eq_ok, pure_eq_ok, Json.key?_eq_ok]
  constructor
  · rintro ⟨_, ⟨usable, rfl⟩, found⟩
    exact ⟨usable, found⟩
  · rintro ⟨usable, found⟩
    exact ⟨name, ⟨usable, rfl⟩, found⟩

theorem columnKeysOf_eq_ok {model : Json} {fields keys : List Json} :
    ctx.columnKeysOf model fields = .ok keys ↔
      model.canBeKey = true ∧ (∀ field ∈ fields, field.canBeKey = true) ∧
        keys = fields.map (ctx.columnKey model) := by
  have step (field key : Json) :
      (do return ctx.columnKey model (← field.key?) : Except Misuse _) = .ok key ↔
        field.canBeKey = true ∧ key = ctx.columnKey model field := by
    simp only [bind_eq_ok, pure_eq_ok, Json.key?_eq_ok]
    constructor
    · rintro ⟨_, ⟨usable, rfl⟩, rfl⟩
      exact ⟨usable, rfl⟩
    · rintro ⟨usable, rfl⟩
      exact ⟨field, ⟨usable, rfl⟩, rfl⟩
  rw [columnKeysOf, bind_eq_ok]
  constructor
  · rintro ⟨_, named, rows⟩
    obtain ⟨usable, rfl⟩ := Json.key?_eq_ok.1 named
    exact ⟨usable, (mapM_eq_ok_map step).1 rows⟩
  · rintro ⟨usable, rows⟩
    exact ⟨model, Json.key?_eq_ok.2 ⟨usable, rfl⟩, (mapM_eq_ok_map step).2 rows⟩

namespace Built

variable (built : ctx.Built d naming excluded)
include built

theorem isExcluded_eq (name : Json) : ctx.isExcluded name = excluded.contains name := by
  rw [isExcluded, built.excluded_eq]

theorem isExcluded_kept (kept : m ∈ d.kept excluded) : ctx.isExcluded m.name = false := by
  rw [built.isExcluded_eq]
  exact not_excluded_of_kept kept

theorem mem_models (kept : m ∈ d.kept excluded) : m ∈ ctx.models := by
  rw [← built.kept] at kept
  exact List.mem_of_mem_filter kept

theorem distinct_kept : Distinct Model.name (d.kept excluded) := by
  rw [← built.kept]
  exact built.distinct.sublist List.filter_sublist

theorem model?_kept (kept : m ∈ d.kept excluded) {name : Json} (usable : name.canBeKey = true)
    (same : (m.name == name) = true) : ctx.model? name = .ok (some m) :=
  model?_eq_ok.2 ⟨usable, built.distinct.find?_eq (built.mem_models kept) same⟩

theorem kept_of_model? {name : Json} (found : ctx.model? name = .ok (some m))
    (here : ctx.isExcluded m.name = false) : m ∈ d.kept excluded ∧ (m.name == name) = true := by
  obtain ⟨-, found⟩ := model?_eq_ok.1 found
  have same := List.find?_some found
  refine ⟨?_, same⟩
  rw [← built.kept]
  rw [built.isExcluded_eq] at here
  exact List.mem_filter.2 ⟨List.mem_of_find?_eq_some found, by simp [here]⟩

theorem columnKey_eq (kept : m ∈ d.kept excluded) (field : Json) :
    ctx.columnKey m.name field = ((m.keyTable naming).get? field).getD field := by
  have distinct : Distinct Prod.fst ((d.kept excluded).map fun m => (m.name, m.keyTable naming)) :=
    Distinct.map_iff.2 built.distinct_kept
  have found : ctx.columnKeys.get? m.name = some (m.keyTable naming) := by
    rw [built.columnKeys_eq, Entries.get?,
      distinct.find?_eq (a := (m.name, m.keyTable naming)) (List.mem_map_of_mem kept) BEq.rfl]
    rfl
  rw [columnKey, found, Option.getD_some]

theorem columnKey_column (kept : m ∈ d.kept excluded) {f : Field} (column : f ∈ m.columnFields) {name : Json}
    (named : (f.name == name) = true) :
    ∃ g ∈ m.columnFields, (g.name == name) = true ∧ ctx.columnKey m.name name = naming.keyOf g := by
  obtain ⟨g, member, same, found⟩ := m.get?_keyTable naming column named
  exact ⟨g, member, same, by rw [built.columnKey_eq kept, found, Option.getD_some]⟩

end Built

end Context

end SyncSchema

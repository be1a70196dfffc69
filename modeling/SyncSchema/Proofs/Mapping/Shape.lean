import SyncSchema.Proofs.Mapping.Targets

namespace SyncSchema
open Outcome

def Link.Even (link : Link) : Prop :=
  link.source ≠ [] ∧ link.source.length = link.dest.length

def Field.leadsTo (f : Field) (models : List Model) : Bool :=
  models.any (·.name == f.type)

/-- What a relation field of a model shows as, among the models that are kept. -/
structure Field.ShowsAs (f : Field) (m : Model) (models : List Model) (entry : Json × Relationship) : Prop where
  name : entry.1 = f.name
  one : entry.2.cardinality = .one ↔ f.isList.holds = false
  chain : ∃ target ∈ models, (target.name == f.type) = true ∧
    (entry.2.route.isChain = true ↔
      f.isList.holds = true ∧ ∃ back ∈ f.backReference? m target, back.isList.holds = true)

structure Table.Shows (t : Table) (m : Model) (naming : Naming) (models : List Model) : Prop where
  model : m.name = .str t.model
  columns : List.Forall₂ (fun f entry => naming.resolveColumn f = .ok (entry.1, entry.2.storedAs) ∧
    (f.column .standard entry.2.storedAs).result = .ok entry.2) m.columnFields t.columns
  keys : Distinct Prod.fst t.columns
  relationships : Distinct Field.name m.relationFields →
    List.Forall₂ (fun f entry => f.ShowsAs m models entry) (m.relationFields.filter (·.leadsTo models))
      t.relationships

/-- The table joins the models of the plan, for a list of the one that finds a list on the other. Column `A` refers to
the id of the one, column `B` to that of the other. -/
structure Table.Carries (t : Table) (p : JoinTable.Plan) (ctx : Context) (models : List Model) : Prop where
  models : p.model ∈ models ∧ p.other ∈ models
  stems : ∃ f ∈ p.model.relationFields, f.relationName = p.relation ∧ f.isList.holds = true ∧
    (f.type == p.other.name) = true ∧ ∃ back ∈ f.backReference? p.model p.other, back.isList.holds = true
  model : t.model = p.name ∧ p.name = "_" ++ p.relation.display
  primaryKey : t.primaryKey = [.str "A", .str "B"]
  sides : ∃ idA idB, p.model.idField? = some idA ∧ p.other.idField? = some idB ∧
    (∃ typeA typeB, (idA.columnType .standard).result = .ok typeA ∧ (idB.columnType .standard).result = .ok typeB ∧
      t.columns = [(.str "A", ⟨typeA, false, none⟩), (.str "B", ⟨typeB, false, none⟩)]) ∧
    ∃ constantA constantB,
      Naming.constant? p.model.name = .ok constantA ∧ Naming.constant? p.other.name = .ok constantB ∧
      t.relationships = [
        (.str "modelA", ⟨.one, .direct ⟨[.str "A"], [ctx.columnKey p.model.name idA.name], constantA⟩⟩),
        (.str "modelB", ⟨.one, .direct ⟨[.str "B"], [ctx.columnKey p.other.name idB.name], constantB⟩⟩)]

namespace Context

variable {d : Datamodel} {naming : Naming} {excluded : List Json} {ctx : Context} {m target : Model} {f : Field}
  {t : Table} {r : Relationship}

theorem Links.isEven {sources dests : List Json} {link : Link} (links : ctx.Links m target sources dests link) :
    link.Even := by
  rw [Link.Even, links.source_eq, links.dest_eq, List.length_map, List.length_map]
  exact ⟨by simpa using links.nonempty, links.even⟩

namespace Resolves

theorem links_even (resolves : ctx.Resolves m f target r) : ∀ link ∈ r.route.links, link.Even := by
  cases resolves with
  | toMany _ _ _ _ links => simpa [Route.links] using links.isEven
  | toOneHere _ _ links => simpa [Route.links] using links.isEven
  | toOneThere _ _ _ _ links => simpa [Route.links] using links.isEven
  | through => simp [Route.links, Link.Even]

theorem one_iff (resolves : ctx.Resolves m f target r) : r.cardinality = .one ↔ f.isList.holds = false := by
  cases resolves with
  | toMany list => simp [list]
  | toOneHere single => simp [single]
  | toOneThere single => simp [single]
  | through list => simp [list]

theorem isChain_iff (resolves : ctx.Resolves m f target r) : r.route.isChain = true ↔
    f.isList.holds = true ∧ ∃ back ∈ f.backReference? m target, back.isList.holds = true := by
  cases resolves with
  | toMany _ found single => simp [Route.isChain, found, single]
  | toOneHere single => simp [Route.isChain, single]
  | toOneThere single => simp [Route.isChain, single]
  | through list found lists => simp [Route.isChain, list, found, lists]

end Resolves

namespace Built

variable (built : ctx.Built d naming excluded)
include built

theorem leadsTo_eq {outcome : Option Relationship} (ok : (ctx.relationship? m f).result = .ok outcome) :
    f.leadsTo (d.kept excluded) = outcome.isSome := by
  rw [Bool.eq_iff_iff, Field.leadsTo, List.any_eq_true]
  constructor
  · rintro ⟨target, kept, points⟩
    obtain ⟨r, rfl, -⟩ := built.resolves_kept kept (BEq.symm points) ok
    rfl
  · intro some
    obtain ⟨r, rfl⟩ := Option.isSome_iff_exists.1 some
    obtain ⟨target, kept, points, -⟩ := built.exists_resolves ok
    exact ⟨target, kept, points⟩

theorem forall₂_shown {fields : List Field} {found : List (Option Relationship)}
    (all : List.Forall₂ (fun f r => (ctx.relationship? m f).result = .ok r) fields found) :
    List.Forall₂ (fun f entry => entry.1 = f.name ∧ (ctx.relationship? m f).result = .ok (some entry.2))
      (fields.filter (·.leadsTo (d.kept excluded)))
      ((fields.zip found).filterMap fun row => row.2.map (row.1.name, ·)) := by
  induction all with
  | nil => exact .nil
  | @cons f outcome fields found first rest ih =>
    have leads := built.leadsTo_eq first
    cases outcome with
    | none =>
      rw [List.filter_cons_of_neg (by simp [leads])]
      exact ih
    | some r =>
      rw [List.filter_cons_of_pos (by simp [leads])]
      exact .cons ⟨rfl, first⟩ ih

theorem table_shows (kept : m ∈ d.kept excluded) (tabled : ctx.Tabled m t) :
    t.Shows m naming (d.kept excluded) := by
  have columnsOk := tabled.columns_ok
  rw [built.naming_eq] at columnsOk
  have fit := built.fit m kept
  refine ⟨tabled.model_eq, ?_, ?_, fun distinct => ?_⟩
  · refine (Model.columns_ok fit columnsOk).imp ?_
    rintro f ⟨key, column⟩ ⟨storedAs, resolved, made⟩
    have stored : column.storedAs = storedAs := by
      simp only [Field.column, Run.result_bind, Run.result_pure, bind_eq_ok, Except.ok.injEq] at made
      obtain ⟨type, -, rfl⟩ := made
      rfl
    subst stored
    exact ⟨resolved, made⟩
  · have keys := Model.keys_columns fit columnsOk
    rw [← Function.id_comp Prod.fst, ← Distinct.map_iff, keys, Distinct.map_iff]
    exact fit.distinct
  · obtain ⟨found, all, shown⟩ := relationships_rows tabled.relationships_ok distinct
    rw [shown]
    refine (built.forall₂_shown all).imp ?_
    rintro f entry ⟨name, resolved⟩
    obtain ⟨target, keptTarget, points, resolves⟩ := built.exists_resolves resolved
    exact ⟨name, resolves.one_iff, target, keptTarget, points, resolves.isChain_iff⟩

end Built

end Context

namespace Datamodel

variable {d : Datamodel} {naming : Naming} {excluded : List Json} {s : Schema} {ctx : Context} {m : Model}
  {plans : List JoinTable.Plan} {tables : List Table} {t : Table}

theorem links_even_of_table (built : ctx.Built d naming excluded) (made : (ctx.table m).result = .ok t) :
    ∀ entry ∈ t.relationships, ∀ link ∈ entry.2.route.links, link.Even := by
  intro entry known
  obtain ⟨f, -, -, resolved⟩ := (Context.relationships_ok (Context.table_ok made).relationships_ok).2 entry known
  obtain ⟨target, -, -, resolves⟩ := built.exists_resolves resolved
  exact resolves.links_even

theorem table_carries (built : ctx.Built d naming excluded) (planned : d.joinPlans ctx excluded = .ok plans)
    {p : JoinTable.Plan} (member : p ∈ plans)
    (made : (JoinTable.table ctx p.model p.other p.relation).result = .ok t) :
    t.Carries p ctx (d.kept excluded) ∧ ∀ entry ∈ t.relationships, ∀ link ∈ entry.2.route.links, link.Even := by
  obtain ⟨m, kept, f, relation, target, keptTarget, back, calls⟩ := calls_of_mem_joinPlans built planned member
  have points := (built.kept_of_model? calls.looked calls.here).2
  obtain ⟨a, b, idA, idB, joins⟩ := JoinTable.table_ok made
  obtain ⟨rfl, rfl⟩ := joins.models_eq (ordered_of_mem_joinPlans built planned member)
  constructor
  · refine ⟨mem_kept_of_joinPlans built planned member, ?_, ⟨(joined_model built planned member made).1, ?_⟩,
      joins.primaryKey_eq, idA, idB, joins.identityA, joins.identityB, joins.columns_eq, joins.relationships_eq⟩
    · rw [calls.plan_eq]
      exact ⟨f, relation, rfl, calls.list, BEq.symm points, back, calls.found, calls.lists⟩
    · rw [calls.name_eq relation, calls.plan_eq]
  · obtain ⟨constantA, constantB, -, -, relationships⟩ := joins.relationships_eq
    rw [relationships]
    simp [Route.links, Link.Even]

/-- The model of a plan comes first by its name, so a plan does not come again with its models exchanged. -/
theorem plans_apart (built : ctx.Built d naming excluded)
    (texts : ∀ m ∈ d.kept excluded, ∃ name, m.name = .str name) (planned : d.joinPlans ctx excluded = .ok plans) :
    plans.Pairwise fun p q => ¬q.IsFor p.model p.other p.name := by
  refine (joinPlans_ok planned).apart.imp_of_mem fun {p q} memberP memberQ apart between => ?_
  obtain ⟨models, name⟩ := between
  have straight : q.model = p.model ∧ q.other = p.other := by
    rcases models with straight | ⟨model, other⟩
    · exact straight
    · have before := ordered_of_mem_joinPlans built planned memberP
      have after := ordered_of_mem_joinPlans built planned memberQ
      obtain ⟨keptModel, keptOther⟩ := mem_kept_of_joinPlans built planned memberP
      obtain ⟨first, named⟩ := texts p.model keptModel
      obtain ⟨second, namedOther⟩ := texts p.other keptOther
      rw [model, other, named, namedOther, Json.lt?_str, Except.ok.injEq, decide_eq_false_iff_not] at after
      rw [named, namedOther, Json.lt?_str, Except.ok.injEq, decide_eq_false_iff_not] at before
      have same : p.model = p.other := built.distinct_kept.eq_of_beq keptModel keptOther (by
        rw [named, namedOther, le_antisymm (not_lt.1 before) (not_lt.1 after)]
        exact BEq.rfl)
      exact ⟨by rw [model, same], by rw [other, same]⟩
  rw [JoinTable.Plan.isSame, straight.1, straight.2, name] at apart
  simp at apart

theorem toSchema_shaped (ok : (d.toSchema naming excluded).result = .ok s) :
    ∃ ctx tables joins plans, (Context.build d naming excluded).result = .ok ctx ∧
      d.joinPlans ctx excluded = .ok plans ∧ s.tables = tables ++ joins ∧ s.enums = d.enums ∧
      List.Forall₂ (fun m t => t.Shows m naming (d.kept excluded)) (d.kept excluded) tables ∧
      List.Forall₂ (fun p t => t.Carries p ctx (d.kept excluded)) plans joins ∧
      (plans.Pairwise fun p q => ¬q.IsFor p.model p.other p.name) ∧
      ∀ t ∈ s.tables, t.primaryKey ≠ [] ∧ ∀ entry ∈ t.relationships, ∀ link ∈ entry.2.route.links, link.Even := by
  obtain ⟨ctx, tables, joins, plans, ctxOk, rfl, tabled, planned, joined⟩ := toSchema_ok ok
  have built := Context.build_ok ctxOk
  refine ⟨ctx, tables, joins, plans, ctxOk, planned, rfl, rfl, ?_, ?_,
    plans_apart built (text_of_tabled tabled) planned, ?_⟩
  · rw [List.forall₂_iff_zip]
    refine ⟨tabled.length_eq, fun row => ?_⟩
    exact built.table_shows (List.of_mem_zip row).1 (Context.table_ok (List.forall₂_zip tabled row))
  · rw [List.forall₂_iff_zip]
    refine ⟨joined.length_eq, fun row => ?_⟩
    exact (table_carries built planned (List.of_mem_zip row).1 (List.forall₂_zip joined row)).1
  · intro t member
    rcases List.mem_append.1 member with table | join
    · obtain ⟨m, -, made⟩ := exists_item tabled table
      have keyed := Context.table_ok made
      exact ⟨by simpa [keyed.primaryKey_eq] using keyed.key, links_even_of_table built made⟩
    · obtain ⟨p, plan, made⟩ := exists_item joined join
      obtain ⟨carries, even⟩ := table_carries built planned plan made
      exact ⟨by rw [carries.primaryKey]; exact List.cons_ne_nil _ _, even⟩

end Datamodel

theorem Sample.blog_shaped : ∃ s, (blog.toSchema ⟨true, true⟩ []).result = .ok s ∧
    ∃ ctx tables joins plans, (Context.build blog ⟨true, true⟩ []).result = .ok ctx ∧
      blog.joinPlans ctx [] = .ok plans ∧ s.tables = tables ++ joins ∧ s.enums = blog.enums ∧
      List.Forall₂ (fun m t => t.Shows m ⟨true, true⟩ (blog.kept [])) (blog.kept []) tables ∧
      List.Forall₂ (fun p t => t.Carries p ctx (blog.kept [])) plans joins ∧
      (plans.Pairwise fun p q => ¬q.IsFor p.model p.other p.name) ∧
      ∀ t ∈ s.tables, t.primaryKey ≠ [] ∧ ∀ entry ∈ t.relationships, ∀ link ∈ entry.2.route.links, link.Even := by
  obtain ⟨s, ok⟩ := blog_toSchema
  exact ⟨s, ok, Datamodel.toSchema_shaped ok⟩

end SyncSchema

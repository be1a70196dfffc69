import SyncSchema.Proofs.Mapping.Narrowing

namespace SyncSchema
open Outcome

namespace JoinTable.Plan

theorem firsts_congr {seen seen' plans : List Plan}
    (same : ∀ p ∈ plans, seen.any p.isSame = seen'.any p.isSame) : firsts seen plans = firsts seen' plans := by
  induction plans generalizing seen seen' with
  | nil => rfl
  | cons p rest ih =>
    rw [List.forall_mem_cons] at same
    have later : firsts (p :: seen) rest = firsts (p :: seen') rest := by
      apply ih
      intro q member
      rw [List.any_cons, List.any_cons, same.2 q member]
    rw [firsts, firsts, same.1, ih same.2, later]

theorem firsts_append {ps qs : List Plan} (apart : ∀ p ∈ ps, ∀ q ∈ qs, q.isSame p = false) (seen : List Plan) :
    firsts seen (ps ++ qs) = firsts seen ps ++ firsts seen qs := by
  induction ps generalizing seen with
  | nil => rfl
  | cons p rest ih =>
    rw [List.forall_mem_cons] at apart
    rw [List.cons_append, firsts, firsts]
    split
    · exact ih apart.2 seen
    · have unseen : firsts (p :: seen) qs = firsts seen qs := by
        apply firsts_congr
        intro q member
        rw [List.any_cons, apart.1 q member, Bool.false_or]
      rw [ih apart.2, unseen, List.cons_append]

theorem firsts_flatMap {models : List Model} {plans : Model → List Plan} (distinct : Distinct Model.name models)
    (own : ∀ m ∈ models, ∀ p ∈ plans m, p.model = m) :
    firsts [] (models.flatMap plans) = models.flatMap fun m => firsts [] (plans m) := by
  induction models with
  | nil => rfl
  | cons m rest ih =>
    obtain ⟨fresh, distinct⟩ := List.pairwise_cons.1 distinct
    rw [List.forall_mem_cons] at own
    have apart : ∀ p ∈ plans m, ∀ q ∈ rest.flatMap plans, q.isSame p = false := by
      intro p here q there
      obtain ⟨n, member, there⟩ := List.mem_flatMap.1 there
      rw [isSame, own.1 p here, own.2 n member q there, BEq.comm, fresh n member]
      rfl
    rw [List.flatMap_cons, List.flatMap_cons, firsts_append apart, ih distinct own.2]

end JoinTable.Plan

namespace Context

variable {d d' : Datamodel} {naming : Naming} {excluded : List Json} {ctx ctx' : Context} {m : Model}

theorem warnUnknown_congr {index index' : List Model}
    (same : ∀ name, index.any (·.name == name) = index'.any (·.name == name)) :
    warnUnknown excluded index = warnUnknown excluded index' := by
  unfold warnUnknown
  simp only [same]

theorem build_reordered (perm : d.models.Perm d'.models) (ok : (build d naming excluded).result = .ok ctx) :
    ∃ ctx', (build d' naming excluded).result = .ok ctx' := by
  refine build_narrowed (.reordered perm excluded) (build_ok ok) fun index same => ?_
  rw [warnUnknown_congr same]
  exact build_warned ok

variable (perm : d.models.Perm d'.models) (built : ctx.Built d naming excluded)
  (built' : ctx'.Built d' naming excluded) (kept : m ∈ d'.kept excluded)
include perm built built' kept

theorem table_reordered {t : Table} (ok : (ctx.table m).result = .ok t) : (ctx'.table m).result = .ok t := by
  have narrows : d.Narrows excluded d' excluded := .reordered perm excluded
  have unchanged := table_narrowed (.refl d excluded) built built (narrows.mem_kept kept) ok
  rw [table_narrowed narrows built built' kept ok, ← unchanged, ok]

theorem plan?_reordered {f : Field} {planned : Option JoinTable.Plan}
    (ok : JoinTable.plan? ctx m f = .ok planned) : JoinTable.plan? ctx' m f = .ok planned := by
  have narrows : d.Narrows excluded d' excluded := .reordered perm excluded
  have unchanged := JoinTable.plan?_narrowed (.refl d excluded) built built (narrows.mem_kept kept) ok
  rw [JoinTable.plan?_narrowed narrows built built' kept ok, ← unchanged, ok]

end Context

def Model.joinPlans (m : Model) (ctx : Context) : List JoinTable.Plan :=
  JoinTable.Plan.firsts [] (m.relationFields.filterMap fun f => JoinTable.called ctx (m, f))

namespace Datamodel

variable {d : Datamodel} {naming : Naming} {excluded : List Json} {s : Schema} {ctx ctx' : Context}

theorem joinPlans_eq_ok (built : ctx.Built d naming excluded) {plans : List JoinTable.Plan} :
    d.joinPlans ctx excluded = .ok plans ↔
      (∀ m ∈ d.kept excluded, ∀ f ∈ m.relationFields,
        JoinTable.plan? ctx m f = .ok (JoinTable.called ctx (m, f))) ∧
      plans = (d.kept excluded).flatMap (Model.joinPlans · ctx) := by
  have rows : (∀ row ∈ (d.kept excluded).flatMap fun m => m.relationFields.map (m, ·),
      JoinTable.plan? ctx row.1 row.2 = .ok (JoinTable.called ctx row)) ↔
      ∀ m ∈ d.kept excluded, ∀ f ∈ m.relationFields,
        JoinTable.plan? ctx m f = .ok (JoinTable.called ctx (m, f)) := by
    constructor
    · intro all m kept f relation
      exact all (m, f) (Model.mem_relationRows.2 ⟨kept, relation⟩)
    · rintro all ⟨m, f⟩ row
      obtain ⟨kept, relation⟩ := Model.mem_relationRows.1 row
      exact all m kept f relation
  rw [joinPlans, JoinTable.plansOf_eq_ok, rows]
  refine and_congr_right fun all => ?_
  have own : ∀ m ∈ d.kept excluded, ∀ p ∈ m.relationFields.filterMap fun f => JoinTable.called ctx (m, f),
      p.model = m := by
    intro m kept p member
    obtain ⟨f, relation, called⟩ := List.mem_filterMap.1 member
    have planned := all m kept f relation
    rw [called] at planned
    obtain ⟨target, back, calls⟩ := JoinTable.plan?_eq_ok.1 planned
    rw [calls.plan_eq]
  simp only [List.filterMap_flatMap, List.filterMap_map, Function.comp_def]
  rw [JoinTable.Plan.firsts_flatMap built.distinct_kept own]
  rfl

instance : Nonempty Table :=
  ⟨⟨.null, none, "", "", [], [], []⟩⟩

theorem reorder_of_ok {d' : Datamodel} (perm : d.models.Perm d'.models)
    (ok : (d.toSchema naming excluded).result = .ok s) :
    ∃ (tableOf : Model → Table) (joins joins' : List Table),
      s.tables = (d.kept excluded).map tableOf ++ joins ∧
      (∀ m ∈ d.kept excluded, m.name = .str (tableOf m).model) ∧ joins.Perm joins' ∧
      (d'.toSchema naming excluded).result = .ok ⟨(d'.kept excluded).map tableOf ++ joins', d'.enums⟩ := by
  obtain ⟨ctx, own, joins, plans, ctxOk, rfl, tabled, planned, joined⟩ := toSchema_ok ok
  obtain ⟨ctx', ctxOk'⟩ := Context.build_reordered perm ctxOk
  have built := Context.build_ok ctxOk
  have built' := Context.build_ok ctxOk'
  have kept : (d.kept excluded).Perm (d'.kept excluded) := perm.filter _
  obtain ⟨tableOf, made, rfl⟩ := exists_map_of_forall₂ tabled
  obtain ⟨joinOf, joinMade, rfl⟩ := exists_map_of_forall₂ joined
  obtain ⟨called, models⟩ := (joinPlans_eq_ok built).1 planned
  have called' : ∀ m ∈ d'.kept excluded, ∀ f ∈ m.relationFields,
      JoinTable.plan? ctx' m f = .ok (JoinTable.called ctx (m, f)) := fun m here f relation =>
    Context.plan?_reordered perm built built' here (called m (kept.mem_iff.2 here) f relation)
  have planned' : d'.joinPlans ctx' excluded = .ok ((d'.kept excluded).flatMap (Model.joinPlans · ctx)) := by
    refine (joinPlans_eq_ok built').2 ⟨fun m here f relation => ?_, ?_⟩
    · rw [JoinTable.called_eq (called' m here f relation)]
      exact called' m here f relation
    · refine List.flatMap_congr fun m here => ?_
      unfold Model.joinPlans
      congr 1
      refine List.filterMap_congr fun f relation => ?_
      exact (JoinTable.called_eq (called' m here f relation)).symm
  have plansPerm : plans.Perm ((d'.kept excluded).flatMap (Model.joinPlans · ctx)) := by
    rw [models]
    exact kept.flatMap_right _
  refine ⟨tableOf, plans.map joinOf, ((d'.kept excluded).flatMap (Model.joinPlans · ctx)).map joinOf, rfl,
    fun m here => (Context.table_ok (made m here)).model_eq, plansPerm.map joinOf, ?_⟩
  apply toSchema_of ctxOk' _ planned' _
  · rw [List.forall₂_map_right_iff, List.forall₂_same]
    intro m here
    exact Context.table_reordered perm built built' here (made m (kept.mem_iff.2 here))
  · rw [List.forall₂_map_right_iff, List.forall₂_same]
    intro p here
    have member := plansPerm.mem_iff.2 here
    obtain ⟨keptModel, keptOther⟩ := mem_kept_of_joinPlans built planned member
    rw [JoinTable.table_narrowed (.reordered perm excluded) built built' (kept.mem_iff.1 keptModel)
      (kept.mem_iff.1 keptOther) p.relation]
    exact joinMade p member

/-- The order of the models decides the order of the tables and nothing else. -/
theorem toSchema_reordered {d' : Datamodel} (perm : d.models.Perm d'.models) (enums : d.enums = d'.enums)
    (naming : Naming) (excluded : List Json) :
    ((∃ s, (d.toSchema naming excluded).result = .ok s) ↔ ∃ s', (d'.toSchema naming excluded).result = .ok s') ∧
    ∀ s s', (d.toSchema naming excluded).result = .ok s → (d'.toSchema naming excluded).result = .ok s' →
      ∃ (tableOf : Model → Table) (joins joins' : List Table),
        s.tables = (d.kept excluded).map tableOf ++ joins ∧ s'.tables = (d'.kept excluded).map tableOf ++ joins' ∧
        (∀ m ∈ d.kept excluded, m.name = .str (tableOf m).model) ∧ joins.Perm joins' ∧ s.enums = s'.enums := by
  constructor
  · constructor
    · rintro ⟨s, ok⟩
      obtain ⟨_, _, _, -, -, -, ok'⟩ := reorder_of_ok perm ok
      exact ⟨_, ok'⟩
    · rintro ⟨s', ok'⟩
      obtain ⟨_, _, _, -, -, -, ok⟩ := reorder_of_ok perm.symm ok'
      exact ⟨_, ok⟩
  · intro s s' ok ok'
    have sameEnums : s.enums = d.enums := by
      obtain ⟨_, _, _, _, -, rfl, -⟩ := toSchema_ok ok
      rfl
    obtain ⟨tableOf, joins, joins', tables, named, joinsPerm, made⟩ := reorder_of_ok perm ok
    cases made.symm.trans ok'
    exact ⟨tableOf, joins, joins', tables, rfl, named, joinsPerm, sameEnums.trans enums⟩

end Datamodel

theorem Sample.blog_reordered : blog.models.Perm blog.models.reverse ∧
    ∃ s s', (blog.toSchema ⟨true, true⟩ []).result = .ok s ∧
      (({ blog with models := blog.models.reverse } : Datamodel).toSchema ⟨true, true⟩ []).result = .ok s' ∧
      ∃ (tableOf : Model → Table) (joins joins' : List Table),
        s.tables = (blog.kept []).map tableOf ++ joins ∧
        s'.tables = ((blog.kept []).reverse).map tableOf ++ joins' ∧
        (∀ m ∈ blog.kept [], m.name = .str (tableOf m).model) ∧ joins.Perm joins' ∧ s.enums = s'.enums := by
  have perm : blog.models.Perm blog.models.reverse := (List.reverse_perm _).symm
  have reordered := @Datamodel.toSchema_reordered blog { blog with models := blog.models.reverse } perm rfl
    ⟨true, true⟩ []
  obtain ⟨s, ok⟩ := blog_toSchema
  obtain ⟨s', ok'⟩ := reordered.1.1 ⟨s, ok⟩
  exact ⟨perm, s, s', ok, ok', reordered.2 s s' ok ok'⟩

end SyncSchema

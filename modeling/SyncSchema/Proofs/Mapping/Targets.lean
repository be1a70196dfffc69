import Mathlib.Data.String.Basic
import SyncSchema.Proofs.Mapping.Tables
import SyncSchema.Proofs.Samples

namespace SyncSchema
open Outcome

def Schema.Closed (s : Schema) : Prop :=
  ∀ t ∈ s.tables, ∀ entry ∈ t.relationships, ∀ link ∈ entry.2.route.links, ∃ u ∈ s.tables, u.constant = link.target

instance (s : Schema) : Decidable s.Closed :=
  inferInstanceAs (Decidable (∀ t ∈ s.tables, _))

/-- If the target's name comes first, one of its list fields finds a list of the model under the same relation. -/
def Field.Answered (f : Field) (m target : Model) : Prop :=
  target.name.lt? m.name = .ok true → ∃ g ∈ target.relationFields, g.isList.holds = true ∧
    (g.type == m.name) = true ∧ g.relationName.display = f.relationName.display ∧
    ∃ back ∈ g.backReference? target m, back.isList.holds = true

instance (f : Field) (m target : Model) : Decidable (f.Answered m target) :=
  inferInstanceAs (Decidable (_ → _))

def Datamodel.Answered (d : Datamodel) (excluded : List Json) : Prop :=
  ∀ m ∈ d.kept excluded, ∀ f ∈ m.relationFields, f.isList.holds = true → ∀ target ∈ d.kept excluded,
    (f.type == target.name) = true → ∀ back ∈ f.backReference? m target, back.isList.holds = true →
      f.Answered m target

instance (d : Datamodel) (excluded : List Json) : Decidable (d.Answered excluded) :=
  inferInstanceAs (Decidable (∀ m ∈ d.kept excluded, _))

/-- The plan joins the two models, in whichever order, by a table of that name. -/
def JoinTable.Plan.IsFor (p : Plan) (m target : Model) (join : String) : Prop :=
  (p.model = m ∧ p.other = target ∨ p.model = target ∧ p.other = m) ∧ p.name = join

namespace Datamodel

variable {d : Datamodel} {naming : Naming} {excluded : List Json} {s : Schema} {ctx : Context}
  {plans : List JoinTable.Plan} {tables joins : List Table} {m target : Model} {f back : Field}

theorem exists_isFor_of_calls (built : ctx.Built d naming excluded) (ok : d.joinPlans ctx excluded = .ok plans)
    (kept : m ∈ d.kept excluded) (keptTarget : target ∈ d.kept excluded) (relation : f ∈ m.relationFields)
    {p : JoinTable.Plan} (calls : JoinTable.Calls ctx m f target back p) : ∃ q ∈ plans, q.IsFor m target p.name := by
  obtain ⟨q, member, same⟩ := exists_plan_of_calls ok kept relation calls
  obtain ⟨keptModel, keptOther⟩ := mem_kept_of_joinPlans built ok member
  simp only [JoinTable.Plan.isSame, Bool.and_eq_true, beq_iff_eq] at same
  rw [calls.plan_eq] at same
  obtain ⟨⟨model, other⟩, name⟩ := same
  have model := built.distinct_kept.eq_of_beq kept keptModel model
  have other := built.distinct_kept.eq_of_beq keptTarget keptOther other
  exact ⟨q, member, .inl ⟨model.symm, other.symm⟩, name.symm⟩

theorem exists_isFor_iff (built : ctx.Built d naming excluded)
    (texts : ∀ m ∈ d.kept excluded, ∃ name, m.name = .str name) (ok : d.joinPlans ctx excluded = .ok plans)
    (kept : m ∈ d.kept excluded) (relation : f ∈ m.relationFields) (list : f.isList.holds = true)
    (keptTarget : target ∈ d.kept excluded) (points : (f.type == target.name) = true)
    (found : f.backReference? m target = some back) (lists : back.isList.holds = true) :
    (∃ p ∈ plans, p.IsFor m target ("_" ++ f.relationName.display)) ↔ f.Answered m target := by
  obtain ⟨name, named⟩ := texts m kept
  obtain ⟨other, namedTarget⟩ := texts target keptTarget
  have compared : target.name.lt? m.name = .ok (decide (other < name)) := by rw [named, namedTarget, Json.lt?_str]
  constructor
  · rintro ⟨p, member, models, join⟩ first
    obtain ⟨m', kept', g, relation', target', keptTarget', h, calls⟩ := calls_of_mem_joinPlans built ok member
    have planName := calls.name_eq relation'
    rw [calls.plan_eq] at models
    rw [join, String.append_right_inj] at planName
    rcases models with ⟨rfl, rfl⟩ | ⟨rfl, rfl⟩
    · -- The plan starts from the model whose name comes first, which is not this one.
      have ordered := calls.ordered
      rw [first] at ordered
      cases ordered
    · have pointsBack := (built.kept_of_model? calls.looked calls.here).2
      exact ⟨g, relation', calls.list, BEq.symm pointsBack, planName.symm, h, calls.found, calls.lists⟩
  · intro answered
    by_cases first : other < name
    · -- This field is passed over; the plan is that of the target's own field.
      obtain ⟨g, relation', list', points', display, h, found', lists'⟩ :=
        answered (by rw [compared, decide_eq_true first])
      have ordered : m.name.lt? target.name = .ok false := by
        rw [named, namedTarget, Json.lt?_str, decide_eq_false (lt_asymm first)]
      have calls := JoinTable.calls_of_lists built kept ⟨name, named⟩ relation' list' points' found' lists' ordered
      obtain ⟨q, member, models, join⟩ := exists_isFor_of_calls built ok keptTarget kept relation' calls
      exact ⟨q, member, models.symm, by rw [join, display]⟩
    · rw [decide_eq_false first] at compared
      have calls :=
        JoinTable.calls_of_lists built keptTarget ⟨other, namedTarget⟩ relation list points found lists compared
      exact exists_isFor_of_calls built ok kept keptTarget relation calls

end Datamodel

namespace Context.Resolves

variable {ctx : Context} {m target : Model} {f : Field} {r : Relationship}

theorem of_chain {c : Cardinality} {first second : Link} (resolves : ctx.Resolves m f target ⟨c, .chain first second⟩)
    (relation : f ∈ m.relationFields) : f.isList.holds = true ∧
      (∃ back ∈ f.backReference? m target, back.isList.holds = true) ∧
      first.target = Naming.constant ("_" ++ f.relationName.display) := by
  cases resolves with
  | through list found lists named =>
    rw [JoinTable.name_of_given (Model.isRelation_of_mem relation), Except.ok.injEq] at named
    exact ⟨list, ⟨_, found, lists⟩, by rw [named]⟩

theorem links_lead (resolves : ctx.Resolves m f target r) {leads : String → Prop}
    (there : ∀ constant, Naming.constant? target.name = .ok constant → leads constant)
    (through : ∀ first second, r.route = .chain first second → leads first.target) :
    ∀ link ∈ r.route.links, leads link.target := by
  cases resolves with
  | toMany _ _ _ _ links => simpa [Route.links] using there _ links.constant
  | toOneHere _ _ links => simpa [Route.links] using there _ links.constant
  | toOneThere _ _ _ _ links => simpa [Route.links] using there _ links.constant
  | through _ _ _ _ _ _ _ _ constants =>
    simpa [Route.links] using ⟨through _ _ rfl, there _ constants⟩

end Context.Resolves

namespace Datamodel

variable {d : Datamodel} {naming : Naming} {excluded : List Json} {s : Schema} {ctx : Context}
  {plans : List JoinTable.Plan} {tables joins : List Table} {m : Model} {f : Field}

theorem exists_table_of_constant
    (tabled : List.Forall₂ (fun m t => (ctx.table m).result = .ok t) (d.kept excluded) tables)
    (kept : m ∈ d.kept excluded) {constant : String} (named : Naming.constant? m.name = .ok constant) :
    ∃ u ∈ tables ++ joins, u.constant = constant := by
  obtain ⟨u, member, made⟩ := exists_result tabled kept
  exact ⟨u, List.mem_append_left _ member, ((Context.table_ok made).constant_unique named).symm⟩

theorem join_links_lead (built : ctx.Built d naming excluded)
    (tabled : List.Forall₂ (fun m t => (ctx.table m).result = .ok t) (d.kept excluded) tables)
    (planned : d.joinPlans ctx excluded = .ok plans) {p : JoinTable.Plan} (member : p ∈ plans) {t : Table}
    (made : (JoinTable.table ctx p.model p.other p.relation).result = .ok t) :
    ∀ entry ∈ t.relationships, ∀ link ∈ entry.2.route.links, ∃ u ∈ tables ++ joins, u.constant = link.target := by
  obtain ⟨keptModel, keptOther⟩ := mem_kept_of_joinPlans built planned member
  obtain ⟨a, b, idA, idB, sides⟩ := JoinTable.table_ok made
  obtain ⟨keptA, keptB⟩ := sides.both keptModel keptOther
  obtain ⟨constantA, constantB, namedA, namedB, relationships⟩ := sides.relationships_eq
  rw [relationships, List.forall_mem_cons, List.forall_mem_singleton]
  constructor
  · simpa [Route.links] using exists_table_of_constant tabled keptA namedA
  · simpa [Route.links] using exists_table_of_constant tabled keptB namedB

variable (built : ctx.Built d naming excluded)
  (tabled : List.Forall₂ (fun m t => (ctx.table m).result = .ok t) (d.kept excluded) tables)
  (planned : d.joinPlans ctx excluded = .ok plans)
  (joined : List.Forall₂ (fun p t => (JoinTable.table ctx p.model p.other p.relation).result = .ok t) plans joins)
  (kept : m ∈ d.kept excluded) (relation : f ∈ m.relationFields)
include built tabled planned joined kept relation

theorem exists_join_iff (keptTarget : target ∈ d.kept excluded) (points : (f.type == target.name) = true)
    {c : Cardinality} {first second : Link} (resolves : ctx.Resolves m f target ⟨c, .chain first second⟩) :
    f.Answered m target ↔ ∃ row ∈ plans.zip joins, row.1.IsFor m target ("_" ++ f.relationName.display) ∧
      row.2.constant = first.target := by
  obtain ⟨list, ⟨back, found, lists⟩, constant⟩ := resolves.of_chain relation
  rw [← exists_isFor_iff built (text_of_tabled tabled) planned kept relation list keptTarget points found lists]
  constructor
  · rintro ⟨p, member, isFor⟩
    obtain ⟨t, row⟩ := exists_pair joined member
    have made := joined_model built planned member (List.forall₂_zip joined row)
    exact ⟨(p, t), row, isFor, by rw [made.2, isFor.2, constant]⟩
  · rintro ⟨⟨p, t⟩, row, isFor, -⟩
    exact ⟨p, (List.of_mem_zip row).1, isFor⟩

theorem links_lead (answered : d.Answered excluded) {r : Relationship}
    (resolved : (ctx.relationship? m f).result = .ok (some r)) :
    ∀ link ∈ r.route.links, ∃ u ∈ tables ++ joins, u.constant = link.target := by
  obtain ⟨target, keptTarget, points, resolves⟩ := built.exists_resolves resolved
  have points := BEq.symm points
  obtain ⟨c, route⟩ := r
  refine resolves.links_lead (fun constant => exists_table_of_constant tabled keptTarget) ?_
  rintro first second rfl
  obtain ⟨list, ⟨back, found, lists⟩, -⟩ := resolves.of_chain relation
  have answer := answered m kept f relation list target keptTarget points back found lists
  obtain ⟨⟨p, u⟩, row, -, constant⟩ :=
    (exists_join_iff built tabled planned joined kept relation keptTarget points resolves).1 answer
  exact ⟨u, List.mem_append_right _ (List.of_mem_zip row).2, constant⟩

omit built tabled planned joined kept relation

theorem toSchema_closed (ok : (d.toSchema naming excluded).result = .ok s) :
    ∃ ctx tables joins plans, (Context.build d naming excluded).result = .ok ctx ∧ s.tables = tables ++ joins ∧
      d.joinPlans ctx excluded = .ok plans ∧
      List.Forall₂ (fun p t => (JoinTable.table ctx p.model p.other p.relation).result = .ok t) plans joins ∧
      (∀ m ∈ d.kept excluded, ∀ f ∈ m.relationFields, ∀ c first second,
        (ctx.relationship? m f).result = .ok (some ⟨c, .chain first second⟩) →
          ∃ target ∈ d.kept excluded, (f.type == target.name) = true ∧
            (f.Answered m target ↔ ∃ row ∈ plans.zip joins, row.1.IsFor m target ("_" ++ f.relationName.display) ∧
              row.2.constant = first.target)) ∧
      (d.Answered excluded → s.Closed) := by
  obtain ⟨ctx, tables, joins, plans, ctxOk, rfl, tabled, planned, joined⟩ := toSchema_ok ok
  have built := Context.build_ok ctxOk
  refine ⟨ctx, tables, joins, plans, ctxOk, rfl, planned, joined, ?_, ?_⟩
  · intro m kept f relation c first second resolved
    obtain ⟨target, keptTarget, points, resolves⟩ := built.exists_resolves resolved
    exact ⟨target, keptTarget, BEq.symm points,
      exists_join_iff built tabled planned joined kept relation keptTarget (BEq.symm points) resolves⟩
  · intro answered t member
    rcases List.mem_append.1 member with table | join
    · obtain ⟨m, kept, made⟩ := exists_item tabled table
      intro entry known
      obtain ⟨f, relation, -, resolved⟩ :=
        (Context.relationships_ok (Context.table_ok made).relationships_ok).2 entry known
      exact links_lead built tabled planned joined kept relation answered resolved
    · obtain ⟨p, plan, made⟩ := exists_item joined join
      exact join_links_lead built tabled planned plan made

end Datamodel

namespace Sample

theorem blog_closed : ∃ s, (blog.toSchema ⟨true, true⟩ []).result = .ok s ∧ blog.Answered [] ∧
    ∃ ctx tables joins plans, (Context.build blog ⟨true, true⟩ []).result = .ok ctx ∧ s.tables = tables ++ joins ∧
      blog.joinPlans ctx [] = .ok plans ∧
      List.Forall₂ (fun p t => (JoinTable.table ctx p.model p.other p.relation).result = .ok t) plans joins ∧
      (∀ m ∈ blog.kept [], ∀ f ∈ m.relationFields, ∀ c first second,
        (ctx.relationship? m f).result = .ok (some ⟨c, .chain first second⟩) →
          ∃ target ∈ blog.kept [], (f.type == target.name) = true ∧
            (f.Answered m target ↔ ∃ row ∈ plans.zip joins, row.1.IsFor m target ("_" ++ f.relationName.display) ∧
              row.2.constant = first.target)) ∧
      (blog.Answered [] → s.Closed) := by
  obtain ⟨s, ok⟩ := blog_toSchema
  exact ⟨s, ok, by decide +kernel, Datamodel.toSchema_closed ok⟩

/-- Two lists and a foreign key under one relation: the course's list finds the foreign key first. -/
def campus : Datamodel where
  models := [
    model "Course" [id "id" "Int", many "students" "Student" "Attends"],
    model "Student" [id "id" "Int", column "courseId" "Int", one "course" "Course" "Attends" ["courseId"] ["id"],
      many "courses" "Course" "Attends"]]
  enums := []

end Sample

theorem Datamodel.not_forall_closed : ¬∀ (d : Datamodel) (naming : Naming) (excluded : List Json) (s : Schema),
    (d.toSchema naming excluded).result = .ok s → s.Closed := by
  intro claim
  have dangles : ∃ s ∈ (Sample.campus.toSchema ⟨false, false⟩ []).result.toOption, ¬s.Closed := by decide +kernel
  obtain ⟨s, made, dangles⟩ := dangles
  exact dangles (claim Sample.campus ⟨false, false⟩ [] s (toOption_eq_some.1 made))

end SyncSchema

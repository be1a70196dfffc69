import Mathlib.Data.String.Basic
import SyncSchema.Proofs.Mapping.Tables
import SyncSchema.Proofs.Samples

namespace SyncSchema
open Outcome

theorem JoinTable.name_given {model other : Json} {relation : String} (given : relation ≠ "") :
    name model other (.str relation) = .ok ("_" ++ relation) :=
  name_of_given (by simpa using given)

theorem Field.relation_ne_empty {f : Field} (relation : f.isRelation = true) {name : String}
    (named : f.relationName = .str name) : name ≠ "" := by
  rw [isRelation, named] at relation
  simpa using relation

theorem ordered_pair_unique {a b c d : String} {m n : Json} (ordered : ¬b < a) (ordered' : ¬d < c)
    (names : (Json.str a == m) = true ∧ (Json.str b == n) = true ∨ (Json.str a == n) = true ∧ (Json.str b == m) = true)
    (names' : (Json.str c == m) = true ∧ (Json.str d == n) = true ∨ (Json.str c == n) = true ∧ (Json.str d == m) = true) :
    a = c ∧ b = d := by
  have equal {a b : String} {n : Json} (ha : (Json.str a == n) = true) (hb : (Json.str b == n) = true) : a = b := by
    simpa using BEq.trans ha (BEq.symm hb)
  have crossed (first : a = d) (second : b = c) : a = c ∧ b = d := by
    subst first second
    have same := le_antisymm (not_lt.1 ordered) (not_lt.1 ordered')
    exact ⟨same, same.symm⟩
  rcases names with ⟨am, bn⟩ | ⟨an, bm⟩
  · rcases names' with ⟨cm, dn⟩ | ⟨cn, dm⟩
    · exact ⟨equal am cm, equal bn dn⟩
    · exact crossed (equal am dm) (equal bn cn)
  · rcases names' with ⟨cm, dn⟩ | ⟨cn, dm⟩
    · exact crossed (equal an dn) (equal bm cm)
    · exact ⟨equal an cn, equal bm dm⟩

/-- Relations and their fields are named by text, fields by distinct ones, and back references are mutual. -/
structure Datamodel.Linked (d : Datamodel) (excluded : List Json) : Prop where
  text : ∀ m ∈ d.kept excluded, ∀ f ∈ m.relationFields, f.name.kind = .string ∧ f.relationName.kind = .string
  distinct : ∀ m ∈ d.kept excluded, Distinct Field.name m.fields
  answered : ∀ m ∈ d.kept excluded, ∀ f ∈ m.relationFields, ∀ target ∈ d.kept excluded,
    (f.type == target.name) = true → ∀ back ∈ f.backReference? m target, back.backReference? target m = some f

instance (d : Datamodel) (excluded : List Json) : Decidable (d.Linked excluded) :=
  decidable_of_iff (_ ∧ _ ∧ _)
    ⟨fun ⟨text, distinct, answered⟩ => ⟨text, distinct, answered⟩,
      fun ⟨text, distinct, answered⟩ => ⟨text, distinct, answered⟩⟩

structure Datamodel.ListEnd (d : Datamodel) (excluded : List Json) (m : Model) (f : Field) (target : Model)
    (back : Field) (relation : String) : Prop where
  kept : m ∈ d.kept excluded
  relationField : f ∈ m.relationFields
  list : f.isList.holds = true
  points : (f.type == target.name) = true
  found : f.backReference? m target = some back
  named : f.relationName = .str relation
  text : ∃ name, f.name = .str name

def JoinTable.Plan.isBetween (p : Plan) (m target : Model) (relation : Json) : Bool :=
  (p.model.name == m.name && p.other.name == target.name ||
    p.model.name == target.name && p.other.name == m.name) && p.relation == relation

namespace Datamodel

variable {d : Datamodel} {naming : Naming} {excluded : List Json} {ctx : Context} {plans : List JoinTable.Plan}
  {m target : Model} {f back : Field} {relation : String}

theorem Linked.listEnds (linked : d.Linked excluded) (kept : m ∈ d.kept excluded)
    (keptTarget : target ∈ d.kept excluded) (relationField : f ∈ m.relationFields) (list : f.isList.holds = true)
    (points : (f.type == target.name) = true) (found : f.backReference? m target = some back)
    (lists : back.isList.holds = true) :
    ∃ relation, d.ListEnd excluded m f target back relation ∧ d.ListEnd excluded target back m f relation := by
  have text := linked.text m kept f relationField
  obtain ⟨relation, named⟩ := Json.eq_str_of_kind text.2
  have completes := Field.backReference?_completes found
  obtain ⟨relationBack, namedBack⟩ := completes.relationField (Model.isRelation_of_mem relationField) named
  have foundBack := linked.answered m kept f relationField target keptTarget points back found
  refine ⟨relation, ⟨kept, relationField, list, points, found, named, Json.eq_str_of_kind text.1⟩,
    ⟨keptTarget, relationBack, lists, completes.type, foundBack, namedBack, ?_⟩⟩
  exact Json.eq_str_of_kind (linked.text target keptTarget back relationBack).1

theorem ListEnd.given (here : d.ListEnd excluded m f target back relation) : relation ≠ "" :=
  Field.relation_ne_empty (Model.isRelation_of_mem here.relationField) here.named

theorem ListEnd.calls (here : d.ListEnd excluded m f target back relation)
    (there : d.ListEnd excluded target back m f relation) (built : ctx.Built d naming excluded)
    {name other : String} (named : m.name = .str name) (namedTarget : target.name = .str other)
    (ordered : ¬other < name) :
    JoinTable.Calls ctx m f target back ⟨("_" ++ relation), m, target, .str relation⟩ := by
  have later : target.name.lt? m.name = .ok false := by
    rw [named, namedTarget, Json.lt?_str, decide_eq_false ordered]
  have calls := JoinTable.calls_of_lists built there.kept ⟨other, namedTarget⟩ here.relationField here.list
    here.points here.found there.list later
  rwa [here.named] at calls

theorem Linked.of_mem_joinPlans (linked : d.Linked excluded) (built : ctx.Built d naming excluded)
    (ok : d.joinPlans ctx excluded = .ok plans) {p : JoinTable.Plan} (member : p ∈ plans) :
    p.model ∈ d.kept excluded ∧ p.other ∈ d.kept excluded ∧ p.other.name.lt? p.model.name = .ok false ∧
      ∃ relation, p.relation = .str relation ∧ p.name = "_" ++ relation := by
  obtain ⟨m, kept, f, relationField, target, keptTarget, back, calls⟩ := calls_of_mem_joinPlans built ok member
  obtain ⟨relation, named⟩ := Json.eq_str_of_kind (linked.text m kept f relationField).2
  have name := calls.name_eq relationField
  rw [named] at name
  rw [calls.plan_eq]
  exact ⟨kept, keptTarget, calls.ordered, relation, named, name⟩

theorem Linked.exists_plan_of_calls (linked : d.Linked excluded) (built : ctx.Built d naming excluded)
    (ok : d.joinPlans ctx excluded = .ok plans) (here : d.ListEnd excluded m f target back relation)
    (calls : JoinTable.Calls ctx m f target back ⟨"_" ++ relation, m, target, .str relation⟩) :
    ∃ q ∈ plans, (q.model.name == m.name) = true ∧ (q.other.name == target.name) = true ∧
      q.relation = .str relation := by
  obtain ⟨q, member, same⟩ := Datamodel.exists_plan_of_calls ok here.kept here.relationField calls
  simp only [JoinTable.Plan.isSame, Bool.and_eq_true, beq_iff_eq] at same
  obtain ⟨⟨model, other⟩, name⟩ := same
  -- The name of a plan tells its relation.
  obtain ⟨-, -, -, relation', named, name'⟩ := linked.of_mem_joinPlans built ok member
  rw [name', String.append_right_inj] at name
  exact ⟨q, member, BEq.symm model, BEq.symm other, by rw [named, name]⟩

theorem exists_plan (linked : d.Linked excluded) (built : ctx.Built d naming excluded)
    (texts : ∀ m ∈ d.kept excluded, ∃ name, m.name = .str name) (ok : d.joinPlans ctx excluded = .ok plans)
    (here : d.ListEnd excluded m f target back relation) (there : d.ListEnd excluded target back m f relation) :
    ∃ p ∈ plans, p.isBetween m target (.str relation) = true := by
  obtain ⟨name, named⟩ := texts m here.kept
  obtain ⟨other, namedTarget⟩ := texts target there.kept
  by_cases ordered : other < name
  · have calls := there.calls here built namedTarget named (lt_asymm ordered)
    obtain ⟨p, member, model, other, relation_eq⟩ := linked.exists_plan_of_calls built ok there calls
    exact ⟨p, member, by simp [JoinTable.Plan.isBetween, model, other, relation_eq]⟩
  · have calls := here.calls there built named namedTarget ordered
    obtain ⟨p, member, model, other, relation_eq⟩ := linked.exists_plan_of_calls built ok here calls
    exact ⟨p, member, by simp [JoinTable.Plan.isBetween, model, other, relation_eq]⟩

theorem plan_unique (linked : d.Linked excluded) (built : ctx.Built d naming excluded)
    (texts : ∀ m ∈ d.kept excluded, ∃ name, m.name = .str name) (ok : d.joinPlans ctx excluded = .ok plans)
    {p q : JoinTable.Plan} (memberP : p ∈ plans) (memberQ : q ∈ plans)
    (between : p.isBetween m target (.str relation) = true) (between' : q.isBetween m target (.str relation) = true) :
    p.isSame q = true := by
  obtain ⟨keptP, keptOtherP, orderedP, relationP, relationP_eq, nameP⟩ := linked.of_mem_joinPlans built ok memberP
  obtain ⟨keptQ, keptOtherQ, orderedQ, relationQ, relationQ_eq, nameQ⟩ := linked.of_mem_joinPlans built ok memberQ
  obtain ⟨modelP, modelP_eq⟩ := texts p.model keptP
  obtain ⟨otherP, otherP_eq⟩ := texts p.other keptOtherP
  obtain ⟨modelQ, modelQ_eq⟩ := texts q.model keptQ
  obtain ⟨otherQ, otherQ_eq⟩ := texts q.other keptOtherQ
  simp only [JoinTable.Plan.isBetween, Bool.and_eq_true, Bool.or_eq_true] at between between'
  obtain ⟨modelsP, relationP'⟩ := between
  obtain ⟨modelsQ, relationQ'⟩ := between'
  rw [relationP_eq, Json.str_beq_str, beq_iff_eq] at relationP'
  rw [relationQ_eq, Json.str_beq_str, beq_iff_eq] at relationQ'
  rw [modelP_eq, otherP_eq, Json.lt?_str, Except.ok.injEq, decide_eq_false_iff_not] at orderedP
  rw [modelQ_eq, otherQ_eq, Json.lt?_str, Except.ok.injEq, decide_eq_false_iff_not] at orderedQ
  rw [modelP_eq, otherP_eq] at modelsP
  rw [modelQ_eq, otherQ_eq] at modelsQ
  -- Both plans start from the model whose name comes first.
  have sameModels := ordered_pair_unique orderedP orderedQ modelsP modelsQ
  simp [JoinTable.Plan.isSame, modelP_eq, modelQ_eq, otherP_eq, otherQ_eq, sameModels, nameP, nameQ, relationP',
    relationQ']

theorem exists_single_plan (linked : d.Linked excluded) (built : ctx.Built d naming excluded)
    (texts : ∀ m ∈ d.kept excluded, ∃ name, m.name = .str name) (ok : d.joinPlans ctx excluded = .ok plans)
    (here : d.ListEnd excluded m f target back relation) (there : d.ListEnd excluded target back m f relation) :
    ∃ p ∈ plans, plans.filter (·.isBetween m target (.str relation)) = [p] := by
  obtain ⟨p, member, between⟩ := exists_plan linked built texts ok here there
  cases single : plans.filter (·.isBetween m target (.str relation)) with
  | nil => exact absurd between (List.filter_eq_nil_iff.1 single p member)
  | cons q rest =>
    have all : ∀ q' ∈ q :: rest, q' ∈ plans ∧ q'.isBetween m target (.str relation) = true := by
      rw [← single]
      exact fun q' => List.mem_filter.1
    cases rest with
    | nil => exact ⟨q, (all q List.mem_cons_self).1, rfl⟩
    | cons q' rest =>
      have apart := (joinPlans_ok ok).apart.sublist (List.filter_sublist (p := (·.isBetween m target (.str relation))))
      rw [single] at apart
      have differs := (List.pairwise_cons.1 apart).1 q' List.mem_cons_self
      have first := all q List.mem_cons_self
      have second := all q' (List.mem_cons_of_mem _ List.mem_cons_self)
      have same := plan_unique linked built texts ok second.1 first.1 second.2 first.2
      rw [differs] at same
      contradiction

end Datamodel

end SyncSchema

import SyncSchema.Proofs.Mapping.Narrowing

namespace SyncSchema
open Outcome

def Table.pruned (t : Table) (m : Model) (gone : List Json) : Table :=
  { t with
    relationships := t.relationships.filter fun entry =>
      !m.relationFields.any fun f => f.name == entry.1 && gone.contains f.type }

/-- A schema taken apart into the table of each kept model and the join table of each plan. -/
structure Context.Parts (ctx : Context) (d : Datamodel) (excluded : List Json) (s : Schema)
    (own : List (Model × Table)) (joins : List (JoinTable.Plan × Table)) : Prop where
  tables : s.tables = own.map Prod.snd ++ joins.map Prod.snd
  models : own.map Prod.fst = d.kept excluded
  plans : d.joinPlans ctx excluded = .ok (joins.map Prod.fst)
  made : ∀ row ∈ own, (ctx.table row.1).result = .ok row.2
  joined : ∀ row ∈ joins, (JoinTable.table ctx row.1.model row.1.other row.1.relation).result = .ok row.2

theorem Field.any_named {fields : List Field} {f : Field} (distinct : Distinct Field.name fields)
    (member : f ∈ fields) (gone : List Json) :
    (fields.any fun g => g.name == f.name && gone.contains g.type) = gone.contains f.type := by
  rw [Bool.eq_iff_iff, List.any_eq_true]
  constructor
  · rintro ⟨g, memberG, both⟩
    obtain ⟨same, dropped⟩ := Bool.and_eq_true_iff.1 both
    cases distinct.eq_of_beq memberG member same
    exact dropped
  · intro dropped
    exact ⟨f, member, by rw [dropped, BEq.rfl]; rfl⟩

namespace Context

variable {d : Datamodel} {naming : Naming} {excluded excluded' : List Json} {ctx ctx' : Context} {m : Model}
  {s : Schema}

theorem relationRows_keptOf (models : List Model) :
    ((keptOf excluded models).flatMap fun m => m.relationFields.map (m, ·)) =
      (models.flatMap fun m => m.relationFields.map (m, ·)).filter (!excluded.contains ·.1.name) := by
  induction models with
  | nil => rfl
  | cons m rest ih =>
    rw [List.flatMap_cons, List.filter_append, ← ih, List.filter_map]
    cases dropped : excluded.contains m.name with
    | true =>
      rw [keptOf_cons_of_excluded dropped, List.filter_eq_nil_iff.2 (by simp [dropped])]
      rfl
    | false =>
      rw [keptOf_cons_of_kept dropped, List.filter_eq_self.2 (by simp [dropped]), List.flatMap_cons]

theorem exists_parts (ok : (d.toSchema naming excluded).result = .ok s) :
    ∃ ctx own joins, (build d naming excluded).result = .ok ctx ∧ ctx.Parts d excluded s own joins := by
  obtain ⟨ctx, tables, joins, plans, ctxOk, rfl, tabled, planned, joined⟩ := Datamodel.toSchema_ok ok
  refine ⟨ctx, (d.kept excluded).zip tables, plans.zip joins, ctxOk, ?_, ?_, ?_, ?_, ?_⟩
  · rw [List.map_snd_zip (Nat.le_of_eq tabled.length_eq.symm), List.map_snd_zip (Nat.le_of_eq joined.length_eq.symm)]
  · exact List.map_fst_zip (Nat.le_of_eq tabled.length_eq)
  · rw [List.map_fst_zip (Nat.le_of_eq joined.length_eq)]
    exact planned
  · intro row member
    exact List.forall₂_zip tabled member
  · intro row member
    exact List.forall₂_zip joined member

theorem distinct_related (ctx : Context) {fields : List Field} (distinct : Distinct Field.name fields) :
    Distinct Prod.fst (fields.filterMap fun f => (ctx.related m f).map (f.name, ·)) := by
  refine List.pairwise_filterMap.2 (distinct.imp fun apart entry made entry' made' => ?_)
  obtain ⟨_, -, rfl⟩ := Option.map_eq_some_iff.1 made
  obtain ⟨_, -, rfl⟩ := Option.map_eq_some_iff.1 made'
  exact apart

theorem relationships_related {entries : Entries Relationship} (ok : (ctx.relationships m).result = .ok entries)
    (distinct : Distinct Field.name m.relationFields) :
    entries = m.relationFields.filterMap fun f => (ctx.related m f).map (f.name, ·) := by
  simp only [relationships, Run.result_bind, Run.result_pure, bind_eq_ok, Except.ok.injEq] at ok
  obtain ⟨_, listed, rfl⟩ := ok
  obtain ⟨-, rfl⟩ := relationshipsOf_eq_ok.1 listed
  exact Entries.ofList_eq_self (ctx.distinct_related distinct)

variable (narrows : d.Narrows excluded d excluded') (built : ctx.Built d naming excluded)
  (built' : ctx'.Built d naming excluded')
include narrows built built'

theorem table_pruned (kept : m ∈ d.kept excluded') (distinct : Distinct Field.name m.relationFields) {t : Table}
    (ok : (ctx.table m).result = .ok t) : (ctx'.table m).result = .ok (t.pruned m excluded') := by
  rw [table_narrowed narrows built built' kept ok, Table.pruned,
    relationships_related (table_ok ok).relationships_ok distinct]
  congr 2
  have sub : (m.relationFields.filter (!excluded'.contains ·.type)).Sublist m.relationFields := List.filter_sublist
  rw [Entries.ofList_eq_self (ctx.distinct_related (distinct.sublist sub)), List.filterMap_filter,
    List.filter_filterMap]
  refine List.filterMap_congr fun f member => ?_
  have stays := Field.any_named distinct member excluded'
  cases ctx.related m f with
  | none => simp
  | some r =>
    rw [Option.map_some, Option.filter_some, stays]

theorem joinPlans_pruned {plans : List JoinTable.Plan} (ok : d.joinPlans ctx excluded = .ok plans) :
    d.joinPlans ctx' excluded' = .ok (plans.filter (JoinTable.Plan.stays excluded')) := by
  obtain ⟨called, rfl⟩ := JoinTable.plansOf_eq_ok.1 ok
  have rows : ((d.kept excluded').flatMap fun m => m.relationFields.map (m, ·)) =
      ((d.kept excluded).flatMap fun m => m.relationFields.map (m, ·)).filter (!excluded'.contains ·.1.name) := by
    rw [← relationRows_keptOf]
    unfold Datamodel.kept
    rw [← narrows.keptOf_keptOf]
  have narrowed : ∀ row ∈ (d.kept excluded').flatMap fun m => m.relationFields.map (m, ·),
      JoinTable.plan? ctx' row.1 row.2 =
        .ok ((JoinTable.called ctx row).filter (JoinTable.Plan.stays excluded')) := by
    rintro ⟨m, f⟩ row
    obtain ⟨kept, relation⟩ := Model.mem_relationRows.1 row
    have before := Model.mem_relationRows.2 ⟨narrows.mem_kept kept, relation⟩
    exact JoinTable.plan?_narrowed narrows built built' kept (called _ before)
  refine JoinTable.plansOf_eq_ok.2 ⟨fun row member => ?_, ?_⟩
  · rw [JoinTable.called_eq (narrowed row member)]
    exact narrowed row member
  · rw [← JoinTable.Plan.firsts_filter, List.filter_nil, List.filter_filterMap,
      List.filterMap_congr fun row member => JoinTable.called_eq (narrowed row member), rows, List.filterMap_filter]
    congr 1
    refine List.filterMap_congr fun row member => ?_
    split
    · rfl
    · rename_i dropped
      cases planned : JoinTable.called ctx row with
      | none => rfl
      | some p =>
        have calls := called row member
        rw [planned] at calls
        obtain ⟨target, back, calls⟩ := JoinTable.plan?_eq_ok.1 calls
        have goes : p.stays excluded' = false := by
          have dropped : excluded'.contains row.1.name = true := by simpa using dropped
          rw [calls.plan_eq, JoinTable.Plan.stays, dropped]
          rfl
        rw [Option.filter_some_neg goes]

end Context

namespace Datamodel

variable {d : Datamodel} {naming : Naming} {excluded excluded' : List Json} {s : Schema}

theorem toSchema_pruned (grows : excluded ⊆ excluded') (texts : ∀ name ∈ excluded', name.kind = .string)
    (distinct : ∀ m ∈ d.models, Distinct Field.name m.relationFields)
    (ok : (d.toSchema naming excluded).result = .ok s) :
    ∃ ctx own joins s', (Context.build d naming excluded).result = .ok ctx ∧
      ctx.Parts d excluded s own joins ∧ (d.toSchema naming excluded').result = .ok s' ∧
      s'.tables = (own.filter (!excluded'.contains ·.1.name)).map (fun row => row.2.pruned row.1 excluded') ++
        (joins.filter (·.1.stays excluded')).map Prod.snd ∧
      s'.enums = s.enums := by
  obtain ⟨ctx, own, joins, ctxOk, parts⟩ := Context.exists_parts ok
  have narrows : d.Narrows excluded d excluded' := by
    refine ⟨.refl _, fun name dropped => ?_⟩
    rw [List.contains_iff_exists_mem_beq] at dropped ⊢
    obtain ⟨other, member, same⟩ := dropped
    exact ⟨other, grows member, same⟩
  have built := Context.build_ok ctxOk
  obtain ⟨ctx', ctxOk'⟩ :=
    Context.build_narrowed narrows built fun index _ => Context.result_warnUnknown texts index
  have built' := Context.build_ok ctxOk'
  have kept : d.kept excluded' = (own.filter (!excluded'.contains ·.1.name)).map Prod.fst := by
    unfold Datamodel.kept
    rw [narrows.keptOf_keptOf, Context.keptOf, ← Datamodel.kept, ← parts.models, List.filter_map]
    rfl
  have planned : d.joinPlans ctx' excluded' = .ok ((joins.filter (·.1.stays excluded')).map Prod.fst) := by
    rw [Context.joinPlans_pruned narrows built built' parts.plans, List.filter_map]
    rfl
  refine ⟨ctx, own, joins, ⟨_, d.enums⟩, ctxOk, parts, toSchema_of ctxOk' ?_ planned ?_, rfl, ?_⟩
  · rw [kept, List.forall₂_map_left_iff, List.forall₂_map_right_iff, List.forall₂_same]
    intro row member
    have here : row.1 ∈ d.kept excluded' := by
      rw [kept]
      exact List.mem_map_of_mem member
    exact Context.table_pruned narrows built built' here (distinct _ (List.mem_of_mem_filter here))
      (parts.made row (List.mem_of_mem_filter member))
  · rw [List.forall₂_map_left_iff, List.forall₂_map_right_iff, List.forall₂_same]
    intro row member
    obtain ⟨known, stays⟩ := List.mem_filter.1 member
    simp only [JoinTable.Plan.stays, Bool.and_eq_true] at stays
    obtain ⟨keptModel, keptOther⟩ := mem_kept_of_joinPlans built parts.plans (List.mem_map_of_mem known)
    have keptModel' := narrows.kept_perm.mem_iff.1 (List.mem_filter.2 ⟨keptModel, stays.1⟩)
    have keptOther' := narrows.kept_perm.mem_iff.1 (List.mem_filter.2 ⟨keptOther, stays.2⟩)
    rw [JoinTable.table_narrowed narrows built built' keptModel' keptOther']
    exact parts.joined row known
  · obtain ⟨_, _, _, _, -, rfl, -⟩ := toSchema_ok ok
    rfl

end Datamodel

theorem Sample.blog_pruned : ([] : List Json) ⊆ [.str "tag"] ∧ (∀ name ∈ [Json.str "tag"], name.kind = .string) ∧
    (∀ m ∈ blog.models, Distinct Field.name m.relationFields) ∧
    ∃ s, (blog.toSchema ⟨true, true⟩ []).result = .ok s ∧
      ∃ ctx own joins s', (Context.build blog ⟨true, true⟩ []).result = .ok ctx ∧
        ctx.Parts blog [] s own joins ∧ (blog.toSchema ⟨true, true⟩ [.str "tag"]).result = .ok s' ∧
        s'.tables =
          (own.filter (! [Json.str "tag"].contains ·.1.name)).map (fun row => row.2.pruned row.1 [.str "tag"]) ++
          (joins.filter (·.1.stays [.str "tag"])).map Prod.snd ∧
        s'.enums = s.enums := by
  have grows : ([] : List Json) ⊆ [.str "tag"] := List.nil_subset _
  have texts : ∀ name ∈ [Json.str "tag"], name.kind = .string := by decide
  have distinct : ∀ m ∈ blog.models, Distinct Field.name m.relationFields := by decide +kernel
  obtain ⟨s, ok⟩ := blog_toSchema
  exact ⟨grows, texts, distinct, s, ok, Datamodel.toSchema_pruned grows texts distinct ok⟩

end SyncSchema

import SyncSchema.Proofs.Mapping.Exclusion
import SyncSchema.Proofs.Mapping.Indexing

namespace SyncSchema
open Outcome

structure Datamodel.Narrows (d : Datamodel) (excluded : List Json) (d' : Datamodel) (excluded' : List Json) :
    Prop where
  models : d.models.Perm d'.models
  excluded : ∀ name, excluded.contains name = true → excluded'.contains name = true

namespace Datamodel.Narrows

variable {d d' : Datamodel} {excluded excluded' : List Json} {m : Model}

theorem reordered (perm : d.models.Perm d'.models) (excluded : List Json) : d.Narrows excluded d' excluded :=
  ⟨perm, fun _ dropped => dropped⟩

theorem refl (d : Datamodel) (excluded : List Json) : d.Narrows excluded d excluded :=
  reordered (.refl _) excluded

variable (narrows : d.Narrows excluded d' excluded')
include narrows

theorem here {name : Json} (stays : excluded'.contains name = false) : excluded.contains name = false := by
  rw [Bool.eq_false_iff] at stays ⊢
  intro dropped
  exact stays (narrows.excluded name dropped)

theorem keptOf_keptOf (models : List Model) :
    Context.keptOf excluded' models = Context.keptOf excluded' (Context.keptOf excluded models) := by
  rw [Context.keptOf, Context.keptOf, Context.keptOf, List.filter_filter]
  apply List.filter_congr
  intro m _
  cases stays : excluded'.contains m.name with
  | true => rfl
  | false => rw [narrows.here stays]; rfl

theorem kept_perm : (Context.keptOf excluded' (d.kept excluded)).Perm (d'.kept excluded') := by
  unfold Datamodel.kept
  rw [← narrows.keptOf_keptOf]
  exact narrows.models.filter _

theorem mem_kept (kept : m ∈ d'.kept excluded') : m ∈ d.kept excluded :=
  List.mem_of_mem_filter (narrows.kept_perm.mem_iff.2 kept)

end Datamodel.Narrows

namespace Context

variable {d d' : Datamodel} {naming : Naming} {excluded excluded' : List Json} {ctx ctx' : Context}
  {m target : Model} {f : Field}

theorem build_warned (ok : (build d naming excluded).result = .ok ctx) :
    (warnUnknown excluded ctx.models).result = .ok () := by
  simp only [build, Run.result_bind, Run.result_lift, Run.result_mapM, Run.result_pure, bind_eq_ok] at ok
  obtain ⟨models, -, _, warned, columnKeys, -, made⟩ := ok
  cases made
  exact warned

theorem Built.any_models (built : ctx.Built d naming excluded) (name : Json) :
    ctx.models.any (·.name == name) = d.models.any (·.name == name) := by
  rw [Bool.eq_iff_iff, List.any_eq_true, List.any_eq_true]
  constructor
  · rintro ⟨m, member, same⟩
    exact ⟨m, built.sublist.subset member, same⟩
  · rintro ⟨m, member, same⟩
    obtain ⟨n, indexed, named⟩ := built.named m member
    exact ⟨n, indexed, BEq.trans named same⟩

theorem build_narrowed (narrows : d.Narrows excluded d' excluded') (built : ctx.Built d naming excluded)
    (warned : ∀ index, (∀ name, index.any (·.name == name) = ctx.models.any (·.name == name)) →
      (warnUnknown excluded' index).result = .ok ()) :
    ∃ ctx', (build d' naming excluded').result = .ok ctx' := by
  have usable : ∀ m ∈ d'.models, m.name.canBeKey = true :=
    fun m member => built.usable m (narrows.models.mem_iff.2 member)
  have distinct : Distinct Model.name (d'.kept excluded') := by
    have apart : Distinct Model.name (keptOf excluded' (d.kept excluded)) :=
      built.distinct_kept.sublist List.filter_sublist
    refine (List.Perm.pairwise_iff ?_ narrows.kept_perm).1 apart
    intro m n apart
    rwa [BEq.comm]
  have indexed : ∃ index, indexFrom excluded' [] d'.models = .ok index :=
    (indexFrom_judged excluded' [] d'.models).isOk usable ⟨distinct, by simp⟩
  obtain ⟨index, indexed⟩ := indexed
  refine build_of_fit indexed (warned index ?_) fun m kept => built.fit m (narrows.mem_kept kept)
  intro name
  obtain ⟨-, -, named, added, made, sub, -⟩ := indexFrom_ok indexed .nil
  rw [List.reverse_nil, List.nil_append] at made
  subst made
  rw [built.any_models, Bool.eq_iff_iff, List.any_eq_true, List.any_eq_true]
  constructor
  · rintro ⟨m, member, same⟩
    exact ⟨m, narrows.models.mem_iff.2 (sub.subset member), same⟩
  · rintro ⟨m, member, same⟩
    obtain ⟨n, known, same'⟩ := named m (narrows.models.mem_iff.1 member)
    exact ⟨n, known, BEq.trans same' same⟩

section

variable (narrows : d.Narrows excluded d' excluded') (built : ctx.Built d naming excluded)
  (built' : ctx'.Built d' naming excluded')
include narrows built built'

theorem columnKey_narrowed (kept : m ∈ d'.kept excluded') (name : Json) :
    ctx'.columnKey m.name name = ctx.columnKey m.name name := by
  rw [built'.columnKey_eq kept, built.columnKey_eq (narrows.mem_kept kept)]

theorem columnKeysOf_narrowed (kept : m ∈ d'.kept excluded') (fields : List Json) :
    ctx'.columnKeysOf m.name fields = ctx.columnKeysOf m.name fields := by
  unfold columnKeysOf
  cases usable : m.name.canBeKey with
  | false => simp [Json.key?, usable, bind, Except.bind]
  | true =>
    have key : m.name.key? = .ok m.name := Json.key?_eq_ok.2 ⟨usable, rfl⟩
    simp only [key, ok_bind, columnKey_narrowed narrows built built' kept]

theorem model?_narrowed {name : Json} (looked : ctx.model? name = .ok (some target)) :
    if excluded'.contains name then
      ∃ gone, ctx'.model? name = .ok (some gone) ∧ ctx'.isExcluded gone.name = true
    else ctx'.model? name = .ok (some target) ∧ target ∈ d'.kept excluded' := by
  obtain ⟨usable, found⟩ := model?_eq_ok.1 looked
  have named := List.find?_some found
  have member : target ∈ d'.models :=
    narrows.models.mem_iff.1 (built.sublist.subset (List.mem_of_find?_eq_some found))
  split
  · rename_i dropped
    apply built'.model?_gone usable
    apply Datamodel.gone_contains.2
    exact ⟨target, member, by rwa [List.contains_congr named], BEq.symm named⟩
  · rename_i stays
    have kept : target ∈ d'.kept excluded' :=
      List.mem_filter.2 ⟨member, by rw [List.contains_congr named]; simpa using stays⟩
    exact ⟨built'.model?_kept kept usable named, kept⟩

theorem model?_unknown {name : Json} (looked : ctx.model? name = .ok none) : ctx'.model? name = .ok none := by
  obtain ⟨usable, found⟩ := model?_eq_ok.1 looked
  refine model?_eq_ok.2 ⟨usable, ?_⟩
  have known : ctx.models.any (·.name == name) = false := by simpa using found
  rw [built.any_models] at known
  have known' : ctx'.models.any (·.name == name) = false := by
    rw [built'.any_models, ← known]
    exact (List.Perm.any_eq narrows.models).symm
  simpa using known'

theorem directLink_narrowed (kept : m ∈ d'.kept excluded') (keptTarget : target ∈ d'.kept excluded')
    (f : Field) (sources dests : List Json) :
    ctx'.directLink m target f sources dests = ctx.directLink m target f sources dests := by
  unfold directLink
  rw [columnKeysOf_narrowed narrows built built' kept, columnKeysOf_narrowed narrows built built' keptTarget]

theorem resolved_narrowed (kept : m ∈ d'.kept excluded') (keptTarget : target ∈ d'.kept excluded')
    (f : Field) :
    (∀ back, ctx'.toMany m target f back = ctx.toMany m target f back) ∧
      (∀ back, ctx'.toOne m target f back = ctx.toOne m target f back) ∧
      ∀ back, ctx'.throughJoin m target f back = ctx.throughJoin m target f back := by
  refine ⟨fun back => ?_, fun back => ?_, fun back => ?_⟩
  · unfold toMany
    simp only [directLink_narrowed narrows built built' kept keptTarget]
  · unfold toOne
    simp only [directLink_narrowed narrows built built' kept keptTarget]
  · unfold throughJoin
    simp only [columnKeysOf_narrowed narrows built built' kept,
      columnKeysOf_narrowed narrows built built' keptTarget]

theorem relationship?_narrowed (kept : m ∈ d'.kept excluded') {outcome : Option Relationship}
    (ok : (ctx.relationship? m f).result = .ok outcome) :
    (ctx'.relationship? m f).result = .ok (if excluded'.contains f.type then none else outcome) := by
  obtain ⟨target, looked, -⟩ := relationship?_eq_ok.1 ok
  have narrowed := model?_narrowed narrows built built' looked
  split at narrowed
  · rename_i dropped
    obtain ⟨gone, looked', dropped'⟩ := narrowed
    rw [if_pos dropped]
    exact relationship?_eq_ok.2 ⟨gone, looked', by rw [if_pos dropped']⟩
  · rename_i stays
    obtain ⟨looked', keptTarget⟩ := narrowed
    obtain ⟨many, one, through⟩ := resolved_narrowed narrows built built' kept keptTarget f
    rw [if_neg stays, ← ok]
    unfold relationship?
    rw [looked', looked, Run.check_ok_bind, Run.check_ok_bind]
    simp only [built'.isExcluded_kept keptTarget, built.isExcluded_kept (narrows.mem_kept keptTarget), many, one,
      through]

end

def related (ctx : Context) (m : Model) (f : Field) : Option Relationship :=
  (ctx.relationship? m f).result.toOption.join

theorem related_eq {outcome : Option Relationship} (ok : (ctx.relationship? m f).result = .ok outcome) :
    ctx.related m f = outcome := by
  rw [related, ok]
  rfl

theorem relationshipsOf_eq_ok {fields : List Field} {entries : Entries Relationship} :
    (ctx.relationshipsOf m fields).result = .ok entries ↔
      (∀ f ∈ fields, (ctx.relationship? m f).result = .ok (ctx.related m f) ∧
        ((ctx.related m f).isSome = true → f.name.canBeKey = true)) ∧
        entries = fields.filterMap fun f => (ctx.related m f).map (f.name, ·) := by
  induction fields generalizing entries with
  | nil =>
    rw [relationshipsOf, Run.result_pure, Except.ok.injEq, List.filterMap_nil, and_iff_right (by simp)]
    exact eq_comm
  | cons f rest ih =>
    rw [relationshipsOf, Run.result_bind, List.forall_mem_cons, List.filterMap_cons]
    cases resolved : (ctx.relationship? m f).result with
    | error failure => simp [bind, Except.bind]
    | ok outcome =>
      rw [related_eq resolved, ok_bind]
      cases outcome with
      | none => simp [ih]
      | some r =>
        simp only [Run.result_bind, Run.result_check, Run.result_pure, bind_eq_ok, mapError_eq_ok,
          Json.key?_eq_ok, Except.ok.injEq, ih]
        constructor
        · rintro ⟨_, ⟨usable, rfl⟩, _, ⟨all, rfl⟩, rfl⟩
          exact ⟨⟨⟨trivial, fun _ => usable⟩, all⟩, rfl⟩
        · rintro ⟨⟨⟨-, usable⟩, all⟩, rfl⟩
          exact ⟨_, ⟨usable rfl, rfl⟩, _, ⟨all, rfl⟩, rfl⟩

section

variable (narrows : d.Narrows excluded d' excluded') (built : ctx.Built d naming excluded)
  (built' : ctx'.Built d' naming excluded')
include narrows built built'

theorem table_narrowed (kept : m ∈ d'.kept excluded') {t : Table} (ok : (ctx.table m).result = .ok t) :
    (ctx'.table m).result = .ok { t with
      relationships := Entries.ofList ((m.relationFields.filter (!excluded'.contains ·.type)).filterMap fun f =>
        (ctx.related m f).map (f.name, ·)) } := by
  have naming_eq : ctx'.naming = ctx.naming := by rw [built'.naming_eq, built.naming_eq]
  have related : ∀ f ∈ m.relationFields, (ctx.relationship? m f).result = .ok (ctx.related m f) ∧
      ((ctx.related m f).isSome = true → f.name.canBeKey = true) := by
    have listed := (table_ok ok).relationships_ok
    simp only [relationships, Run.result_bind, Run.result_pure, bind_eq_ok] at listed
    obtain ⟨entries, listed, -⟩ := listed
    exact (relationshipsOf_eq_ok.1 listed).1
  have relationships : (ctx'.relationships m).result = .ok (Entries.ofList
      ((m.relationFields.filter (!excluded'.contains ·.type)).filterMap fun f =>
        (ctx.related m f).map (f.name, ·))) := by
    have narrowed (f : Field) (member : f ∈ m.relationFields) :=
      relationship?_narrowed narrows built built' kept (related f member).1
    have listed : (ctx'.relationshipsOf m m.relationFields).result =
        .ok (m.relationFields.filterMap fun f => (ctx'.related m f).map (f.name, ·)) := by
      refine relationshipsOf_eq_ok.2 ⟨fun f member => ?_, rfl⟩
      rw [related_eq (narrowed f member)]
      refine ⟨narrowed f member, fun shown => (related f member).2 ?_⟩
      split at shown
      · contradiction
      · exact shown
    rw [Context.relationships, Run.result_bind, listed, ok_bind, Run.result_pure]
    congr 2
    rw [List.filterMap_filter]
    refine List.filterMap_congr fun f member => ?_
    rw [related_eq (narrowed f member)]
    cases excluded'.contains f.type <;> rfl
  have primaryKey : ctx'.primaryKey m = ctx.primaryKey m := by
    simp only [primaryKey, columnKeysOf_narrowed narrows built built' kept]
  simp only [table, naming_eq, primaryKey, relationships, Run.result_bind, Run.result_check, Run.result_lift,
    Run.result_log, Run.result_pure, bind_eq_ok, mapError_eq_ok, Except.ok.injEq] at ok ⊢
  obtain ⟨named, namedOk, model, text, columns, columnsOk, keys, keysOk, _, -, -, -, rfl⟩ := ok
  exact ⟨named, namedOk, model, text, columns, columnsOk, keys, keysOk, _, rfl, (), trivial, rfl⟩

end

end Context

namespace JoinTable

def Plan.firsts (seen : List Plan) : List Plan → List Plan
  | [] => []
  | p :: rest => if seen.any p.isSame then firsts seen rest else p :: firsts (p :: seen) rest

def Plan.stays (excluded : List Json) (p : Plan) : Bool :=
  !excluded.contains p.model.name && !excluded.contains p.other.name

theorem Plan.stays_congr {p q : Plan} (same : p.isSame q = true) (excluded : List Json) :
    p.stays excluded = q.stays excluded := by
  simp only [isSame, Bool.and_eq_true] at same
  rw [stays, stays, List.contains_congr same.1.1, List.contains_congr same.1.2]

/-- Plans that are the same stay together or go together, so it does not matter when they go. -/
theorem Plan.firsts_filter (excluded : List Json) (seen plans : List Plan) :
    firsts (seen.filter (stays excluded)) (plans.filter (stays excluded)) =
      (firsts seen plans).filter (stays excluded) := by
  induction plans generalizing seen with
  | nil => rfl
  | cons p rest ih =>
    cases kept : p.stays excluded with
    | true =>
      have known : (seen.filter (Plan.stays excluded)).any p.isSame = seen.any p.isSame := by
        rw [List.any_filter]
        congr 1
        funext q
        cases same : p.isSame q with
        | false => rw [Bool.and_false]
        | true => rw [← stays_congr same, kept]; rfl
      have later := ih (p :: seen)
      rw [List.filter_cons_of_pos kept] at later
      rw [List.filter_cons_of_pos kept, firsts, firsts, known]
      split
      · exact ih seen
      · rw [later, List.filter_cons_of_pos kept]
    | false =>
      have gone : ¬p.stays excluded = true := by rw [kept]; exact Bool.false_ne_true
      have later := ih (p :: seen)
      rw [List.filter_cons_of_neg gone] at later
      rw [List.filter_cons_of_neg gone, firsts]
      split
      · exact ih seen
      · rw [later, List.filter_cons_of_neg gone]

def called (ctx : Context) (row : Model × Field) : Option Plan :=
  (plan? ctx row.1 row.2).toOption.join

variable {ctx ctx' : Context} {m model other : Model} {f : Field}

theorem plan?_of_single (single : ¬f.isList.holds = true) : plan? ctx m f = .ok none := by
  rw [plan?, if_pos (by simpa using single)]
  rfl

theorem plan?_of_unknown (looked : ctx.model? f.type = .ok none) : plan? ctx m f = .ok none := by
  rw [plan?, looked]
  split <;> rfl

theorem plan?_of_excluded {target : Model} (looked : ctx.model? f.type = .ok (some target))
    (dropped : ctx.isExcluded target.name = true) : plan? ctx m f = .ok none := by
  rw [plan?, looked, ok_bind]
  dsimp only
  rw [if_pos dropped]
  split <;> rfl

theorem called_eq {row : Model × Field} {planned : Option Plan} (ok : plan? ctx row.1 row.2 = .ok planned) :
    called ctx row = planned := by
  rw [called, ok]
  rfl

theorem plansOf_eq_ok {seen plans : List Plan} {rows : List (Model × Field)} :
    plansOf ctx seen rows = .ok plans ↔ (∀ row ∈ rows, plan? ctx row.1 row.2 = .ok (called ctx row)) ∧
      plans = Plan.firsts seen (rows.filterMap (called ctx)) := by
  induction rows generalizing seen plans with
  | nil =>
    rw [plansOf, Except.ok.injEq, and_iff_right (by simp)]
    exact eq_comm
  | cons row rest ih =>
    obtain ⟨m, f⟩ := row
    rw [plansOf, List.forall_mem_cons, List.filterMap_cons]
    cases planned : plan? ctx m f with
    | error misuse => simp [bind, Except.bind]
    | ok outcome =>
      rw [called_eq planned, ok_bind]
      cases outcome with
      | none => simp [ih]
      | some p =>
        dsimp only
        rw [Plan.firsts]
        split
        · simp [ih]
        · simp only [bind_eq_ok, pure_eq_ok, ih]
          constructor
          · rintro ⟨_, ⟨all, rfl⟩, rfl⟩
            exact ⟨⟨trivial, all⟩, rfl⟩
          · rintro ⟨⟨-, all⟩, rfl⟩
            exact ⟨_, ⟨all, rfl⟩, rfl⟩

variable {d d' : Datamodel} {naming : Naming} {excluded excluded' : List Json}
  (narrows : d.Narrows excluded d' excluded') (built : ctx.Built d naming excluded)
  (built' : ctx'.Built d' naming excluded')
include narrows built built'

theorem plan?_narrowed (kept : m ∈ d'.kept excluded') {planned : Option Plan} (ok : plan? ctx m f = .ok planned) :
    plan? ctx' m f = .ok (planned.filter (Plan.stays excluded')) := by
  by_cases list : f.isList.holds = true
  · cases looked : ctx.model? f.type with
    | error misuse => simp [plan?, list, looked, bind, Except.bind] at ok
    | ok found =>
      cases found with
      | none =>
        cases (plan?_of_unknown looked).symm.trans ok
        exact plan?_of_unknown (Context.model?_unknown narrows built built' looked)
      | some target =>
        have named := List.find?_some (Context.model?_eq_ok.1 looked).2
        have narrowed := Context.model?_narrowed narrows built built' looked
        split at narrowed
        · rename_i dropped
          obtain ⟨gone, looked', dropped'⟩ := narrowed
          rw [plan?_of_excluded looked' dropped']
          cases planned with
          | none => rfl
          | some p =>
            obtain ⟨target', back, calls⟩ := plan?_eq_ok.1 ok
            cases looked.symm.trans calls.looked
            have goes : p.stays excluded' = false := by
              rw [calls.plan_eq, Plan.stays, List.contains_congr named, dropped]
              exact Bool.and_false _
            rw [Option.filter_some_neg goes]
        · obtain ⟨looked', keptTarget⟩ := narrowed
          have same : plan? ctx' m f = plan? ctx m f := by
            unfold plan?
            rw [looked', looked, ok_bind, ok_bind]
            dsimp only
            rw [built'.isExcluded_kept keptTarget, built.isExcluded_kept (narrows.mem_kept keptTarget)]
          rw [same, ok]
          cases planned with
          | none => rfl
          | some p =>
            obtain ⟨target', back, calls⟩ := plan?_eq_ok.1 ok
            cases looked.symm.trans calls.looked
            have stays : p.stays excluded' = true := by
              rw [calls.plan_eq, Plan.stays, Context.not_excluded_of_kept kept,
                Context.not_excluded_of_kept keptTarget]
              rfl
            rw [Option.filter_some_pos stays]
  · cases (plan?_of_single list).symm.trans ok
    exact plan?_of_single list

theorem table_narrowed (kept : model ∈ d'.kept excluded') (keptOther : other ∈ d'.kept excluded') (relation : Json) :
    table ctx' model other relation = table ctx model other relation := by
  have naming_eq : ctx'.naming = ctx.naming := by rw [built'.naming_eq, built.naming_eq]
  have sides (column : String) (m : Model) (kept : m ∈ d'.kept excluded') (id : Field) :
      side ctx' column m id = side ctx column m id := by
    unfold side
    rw [Context.columnKeysOf_narrowed narrows built built' kept]
  unfold table
  rw [naming_eq]
  refine bind_congr fun join => bind_congr fun swapped => ?_
  cases swapped with
  | true => simp only [if_true, sides _ _ kept, sides _ _ keptOther]
  | false => simp only [Bool.false_eq_true, if_false, sides _ _ kept, sides _ _ keptOther]

end JoinTable

end SyncSchema

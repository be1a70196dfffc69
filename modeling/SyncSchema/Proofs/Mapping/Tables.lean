import SyncSchema.Proofs.Mapping.Relation

namespace SyncSchema
open Outcome

namespace Context

variable {ctx : Context} {m : Model} {t : Table}

structure Tabled (ctx : Context) (m : Model) (t : Table) : Prop where
  model_eq : m.name = .str t.model
  constant_eq : t.constant = Naming.constant t.model
  named : ctx.naming.resolveTable m = .ok (t.name, t.storedAs)
  columns_ok : (m.columns ctx.naming .standard).result = .ok t.columns
  key : m.keyFields ≠ []
  primaryKey_eq : t.primaryKey = m.keyFields.map (ctx.columnKey m.name)
  relationships_ok : (ctx.relationships m).result = .ok t.relationships

theorem table_ok (ok : (ctx.table m).result = .ok t) : ctx.Tabled m t := by
  simp only [table, primaryKey, Run.result_bind, Run.result_check, Run.result_lift, Run.result_log,
    Run.result_pure, bind_eq_ok, mapError_eq_ok, keyFields_eq_ok, columnKeysOf_eq_ok, Except.ok.injEq] at ok
  obtain ⟨⟨name, storedAs⟩, named, model, text, columns, columnsOk, keys, ⟨_, ⟨key, rfl⟩, -, -, rfl⟩,
    relationships, relationshipsOk, -, -, rfl⟩ := ok
  have model_eq : m.name = .str model := by
    cases h : m.name <;> simp [h, Json.text?] at text
    exact congrArg Json.str text
  exact ⟨model_eq, rfl, named, columnsOk, key, rfl, relationshipsOk⟩

theorem Tabled.constant_unique (tabled : ctx.Tabled m t) {constant : String}
    (named : Naming.constant? m.name = .ok constant) : constant = t.constant := by
  rw [tabled.model_eq, Naming.constant?_eq_ok] at named
  obtain ⟨_, ⟨⟩, rfl⟩ := named
  exact tabled.constant_eq.symm

theorem Built.column_of_field {d : Datamodel} {naming : Naming} {excluded : List Json} {f : Field}
    (built : ctx.Built d naming excluded) (kept : m ∈ d.kept excluded) (tabled : ctx.Tabled m t)
    (distinct : Distinct Field.name m.fields) (member : f ∈ m.columnFields) :
    ∃ column storedAs, (ctx.columnKey m.name f.name, column) ∈ t.columns ∧
      (f.column .standard storedAs).result = .ok column := by
  obtain ⟨g, memberG, same, key⟩ := built.columnKey_column kept member BEq.rfl
  cases (distinct.sublist List.filter_sublist).eq_of_beq memberG member same
  have columns_ok := tabled.columns_ok
  rw [built.naming_eq] at columns_ok
  obtain ⟨⟨found, column⟩, entry, storedAs, resolved, made⟩ :=
    exists_result (Model.columns_ok (built.fit m kept) columns_ok) member
  rw [key, Naming.keyOf_eq resolved]
  exact ⟨column, storedAs, entry, made⟩

end Context

theorem Model.mem_relationRows {models : List Model} {m : Model} {f : Field} :
    (m, f) ∈ models.flatMap (fun m => m.relationFields.map (m, ·)) ↔ m ∈ models ∧ f ∈ m.relationFields := by
  rw [List.mem_flatMap]
  constructor
  · rintro ⟨m', member, row⟩
    obtain ⟨f', relation, same⟩ := List.mem_map.1 row
    cases same
    exact ⟨member, relation⟩
  · rintro ⟨member, relation⟩
    exact ⟨m, member, List.mem_map_of_mem relation⟩

namespace JoinTable

variable {ctx : Context} {m target : Model} {f : Field} {t : Table}

theorem name_of_given {model other relation : Json} (given : relation.isGiven = true) :
    name model other relation = .ok ("_" ++ relation.display) := by
  rw [name, if_pos given]
  rfl

/-- The table that joins two models, `a` with the id `idA` being the one that column `A` refers to. -/
structure Joins (ctx : Context) (model other : Model) (relation : Json) (t : Table) (a b : Model)
    (idA idB : Field) : Prop where
  named : name model.name other.name relation = .ok t.model
  resolved : ctx.naming.resolveTableName (.str t.model) = .ok (t.name, t.storedAs)
  ordered : ∃ swapped, other.name.lt? model.name = .ok swapped ∧
    (a, b) = if swapped then (other, model) else (model, other)
  identityA : a.idField? = some idA
  identityB : b.idField? = some idB
  constant_eq : t.constant = Naming.constant t.model
  columns_eq : ∃ typeA typeB, (idA.columnType .standard).result = .ok typeA ∧
    (idB.columnType .standard).result = .ok typeB ∧
    t.columns = [(.str "A", ⟨typeA, false, none⟩), (.str "B", ⟨typeB, false, none⟩)]
  primaryKey_eq : t.primaryKey = [.str "A", .str "B"]
  relationships_eq : ∃ constantA constantB, Naming.constant? a.name = .ok constantA ∧
    Naming.constant? b.name = .ok constantB ∧
    t.relationships = [
      (.str "modelA", ⟨.one, .direct ⟨[.str "A"], [ctx.columnKey a.name idA.name], constantA⟩⟩),
      (.str "modelB", ⟨.one, .direct ⟨[.str "B"], [ctx.columnKey b.name idB.name], constantB⟩⟩)]

theorem side_eq_ok {column : String} {id : Field} {r : Relationship} (ok : side ctx column m id = .ok r) :
    ∃ constant, Naming.constant? m.name = .ok constant ∧
      r = ⟨.one, .direct ⟨[.str column], [ctx.columnKey m.name id.name], constant⟩⟩ := by
  simp only [side, bind_eq_ok, mapError_eq_ok, Context.columnKeysOf_eq_ok, pure_eq_ok] at ok
  obtain ⟨_, ⟨-, -, rfl⟩, constant, named, rfl⟩ := ok
  exact ⟨constant, named, rfl⟩

theorem table_ok {model other : Model} {relation : Json} (ok : (table ctx model other relation).result = .ok t) :
    ∃ a b idA idB, Joins ctx model other relation t a b idA idB := by
  simp only [table, column, Run.result_bind, Run.result_check, Run.result_lift, Run.result_pure, bind_eq_ok,
    mapError_eq_ok, identity_eq_ok, Except.ok.injEq] at ok
  obtain ⟨join, named, swapped, lt, ok⟩ := ok
  generalize ordered : (if swapped then (other, model) else (model, other)) = pair at ok
  obtain ⟨a, b⟩ := pair
  obtain ⟨idA, identityA, idB, identityB, ⟨tableName, storedAs⟩, resolved, _,
    ⟨typeA, typedA, rfl⟩, _, ⟨typeB, typedB, rfl⟩, sideA, sideAOk, sideB, sideBOk, rfl⟩ := ok
  obtain ⟨constantA, namedA, rfl⟩ := side_eq_ok sideAOk
  obtain ⟨constantB, namedB, rfl⟩ := side_eq_ok sideBOk
  exact ⟨a, b, idA, idB, named, resolved, ⟨swapped, lt, ordered.symm⟩, identityA, identityB, rfl,
    ⟨typeA, typeB, typedA, typedB, rfl⟩, rfl, ⟨constantA, constantB, namedA, namedB, rfl⟩⟩

theorem Joins.both {model other a b : Model} {relation : Json} {idA idB : Field}
    (joins : Joins ctx model other relation t a b idA idB) {p : Model → Prop} (here : p model) (there : p other) :
    p a ∧ p b := by
  obtain ⟨swapped, -, ordered⟩ := joins.ordered
  cases swapped with
  | true =>
    cases ordered
    exact ⟨there, here⟩
  | false =>
    cases ordered
    exact ⟨here, there⟩

theorem Joins.models_eq {model other a b : Model} {relation : Json} {idA idB : Field}
    (joins : Joins ctx model other relation t a b idA idB) (ordered : other.name.lt? model.name = .ok false) :
    a = model ∧ b = other := by
  obtain ⟨swapped, compared, pair⟩ := joins.ordered
  cases ordered.symm.trans compared
  exact Prod.mk.inj pair

structure Calls (ctx : Context) (m : Model) (f : Field) (target : Model) (back : Field) (p : Plan) : Prop where
  list : f.isList.holds = true
  looked : ctx.model? f.type = .ok (some target)
  here : ctx.isExcluded target.name = false
  ordered : target.name.lt? m.name = .ok false
  found : f.backReference? m target = some back
  lists : back.isList.holds = true
  named : name m.name target.name f.relationName = .ok p.name
  plan_eq : p = ⟨p.name, m, target, f.relationName⟩

theorem Calls.name_eq {back : Field} {p : Plan} (calls : Calls ctx m f target back p)
    (relation : f ∈ m.relationFields) : p.name = "_" ++ f.relationName.display := by
  have named := calls.named
  rw [name_of_given (Model.isRelation_of_mem relation), Except.ok.injEq] at named
  exact named.symm

theorem plan?_eq_ok {p : Plan} :
    plan? ctx m f = .ok (some p) ↔ ∃ target back, Calls ctx m f target back p := by
  constructor
  · intro ok
    rw [plan?] at ok
    split at ok
    · simp [pure_eq_ok] at ok
    rename_i list
    rw [bind_eq_ok] at ok
    obtain ⟨_ | target, looked, ok⟩ := ok
    · simp [pure_eq_ok] at ok
    dsimp only at ok
    split at ok
    · simp [pure_eq_ok] at ok
    rename_i here
    rw [bind_eq_ok] at ok
    obtain ⟨_ | _, ordered, ok⟩ := ok
    · rw [if_neg Bool.false_ne_true] at ok
      cases lists : (f.backReference? m target).filter (·.isList.holds) with
      | none => simp [lists, pure_eq_ok] at ok
      | some back =>
        simp only [lists, bind_eq_ok, pure_eq_ok, Option.some.injEq] at ok
        obtain ⟨join, named, rfl⟩ := ok
        obtain ⟨found, lists⟩ := Option.filter_eq_some_iff.1 lists
        exact ⟨target, back, by simpa using list, looked, by simpa using here, ordered, found, lists, named, rfl⟩
    · simp [pure_eq_ok] at ok
  · rintro ⟨target, back, calls⟩
    have lists : (f.backReference? m target).filter (·.isList.holds) = some back :=
      Option.filter_eq_some_iff.2 ⟨calls.found, calls.lists⟩
    simp only [plan?, calls.list, calls.looked, calls.here, calls.ordered, lists, calls.named, bind,
      Except.bind, pure, Except.pure, Bool.not_true, Bool.false_eq_true, if_false]
    rw [← calls.plan_eq]

theorem calls_of_lists {d : Datamodel} {naming : Naming} {excluded : List Json} {back : Field}
    (built : ctx.Built d naming excluded) (keptTarget : target ∈ d.kept excluded)
    (text : ∃ name, target.name = .str name) (relation : f ∈ m.relationFields) (list : f.isList.holds = true)
    (points : (f.type == target.name) = true) (found : f.backReference? m target = some back) (lists : back.isList.holds = true)
    (ordered : target.name.lt? m.name = .ok false) :
    Calls ctx m f target back ⟨"_" ++ f.relationName.display, m, target, f.relationName⟩ where
  list := list
  looked := by
    obtain ⟨name, named⟩ := text
    have type : f.type = .str name := Json.eq_str_of_beq (by rw [← named]; exact points)
    exact built.model?_kept keptTarget (by rw [type]; rfl) (BEq.symm points)
  here := built.isExcluded_kept keptTarget
  ordered := ordered
  found := found
  lists := lists
  named := name_of_given (Model.isRelation_of_mem relation)
  plan_eq := rfl

def plansOf (ctx : Context) (seen : List Plan) : List (Model × Field) → Except Misuse (List Plan)
  | [] => .ok []
  | (model, f) :: rest => do
    match ← plan? ctx model f with
    | none => plansOf ctx seen rest
    | some p => if seen.any p.isSame then plansOf ctx seen rest else return p :: (← plansOf ctx (p :: seen) rest)

theorem Plan.isSame_self (p : Plan) : p.isSame p = true := by
  simp [Plan.isSame]

/-- The plans are those that the fields call for: each comes from a field, and no two are the same. -/
structure Planned (ctx : Context) (seen : List Plan) (rows : List (Model × Field)) (plans : List Plan) : Prop where
  called : ∀ p ∈ plans, ∃ row ∈ rows, plan? ctx row.1 row.2 = .ok (some p)
  covered : ∀ row ∈ rows, ∀ p, plan? ctx row.1 row.2 = .ok (some p) → ∃ q ∈ seen ++ plans, p.isSame q = true
  fresh : ∀ p ∈ plans, ∀ q ∈ seen, p.isSame q = false
  apart : plans.Pairwise fun p q => q.isSame p = false

theorem plansOf_ok {seen plans : List Plan} {rows : List (Model × Field)}
    (ok : plansOf ctx seen rows = .ok plans) : Planned ctx seen rows plans := by
  induction rows generalizing seen plans with
  | nil =>
    rw [plansOf, Except.ok.injEq] at ok
    subst ok
    exact ⟨by simp, by simp, by simp, .nil⟩
  | cons row rest ih =>
    obtain ⟨m, f⟩ := row
    rw [plansOf, bind_eq_ok] at ok
    obtain ⟨planned, called, ok⟩ := ok
    cases planned with
    | none =>
      have later := ih ok
      refine ⟨fun p member => ?_, ?_, later.fresh, later.apart⟩
      · obtain ⟨row, known, calls⟩ := later.called p member
        exact ⟨row, List.mem_cons_of_mem _ known, calls⟩
      · rw [List.forall_mem_cons]
        exact ⟨fun p calls => by simp [called] at calls, later.covered⟩
    | some p =>
      dsimp only at ok
      by_cases known : seen.any p.isSame = true
      · rw [if_pos known] at ok
        have later := ih ok
        refine ⟨fun p member => ?_, ?_, later.fresh, later.apart⟩
        · obtain ⟨row, known, calls⟩ := later.called p member
          exact ⟨row, List.mem_cons_of_mem _ known, calls⟩
        · rw [List.forall_mem_cons]
          refine ⟨fun p' calls => ?_, later.covered⟩
          rw [called, Except.ok.injEq, Option.some.injEq] at calls
          subst calls
          obtain ⟨q, member, same⟩ := List.any_eq_true.1 known
          exact ⟨q, List.mem_append_left _ member, same⟩
      · rw [if_neg known] at ok
        simp only [bind_eq_ok, pure_eq_ok] at ok
        obtain ⟨others, othersOk, rfl⟩ := ok
        have later := ih othersOk
        have unseen : ∀ q ∈ seen, p.isSame q = false := by simpa using known
        refine ⟨fun q member => ?_, ?_, ?_, ?_⟩
        · rcases List.mem_cons.1 member with rfl | member
          · exact ⟨(m, f), List.mem_cons_self, called⟩
          · obtain ⟨row, known, calls⟩ := later.called q member
            exact ⟨row, List.mem_cons_of_mem _ known, calls⟩
        · rw [List.forall_mem_cons]
          constructor
          · intro p' calls
            rw [called, Except.ok.injEq, Option.some.injEq] at calls
            subst calls
            exact ⟨p, by simp, p.isSame_self⟩
          · intro row member p' calls
            obtain ⟨q, known, same⟩ := later.covered row member p' calls
            refine ⟨q, ?_, same⟩
            simp only [List.mem_append, List.mem_cons] at known ⊢
            tauto
        · rw [List.forall_mem_cons]
          exact ⟨unseen, fun q member r old => later.fresh q member r (List.mem_cons_of_mem _ old)⟩
        · exact List.pairwise_cons.2 ⟨fun q member => later.fresh q member p List.mem_cons_self, later.apart⟩

theorem tablesOf_ok {seen : List Plan} {fields : List (Model × Field)} {tables : List Table}
    (ok : (tablesOf ctx seen fields).result = .ok tables) :
    ∃ plans, plansOf ctx seen fields = .ok plans ∧
      List.Forall₂ (fun p t => (table ctx p.model p.other p.relation).result = .ok t) plans tables := by
  induction fields generalizing seen tables with
  | nil =>
    rw [tablesOf, Run.result_pure, Except.ok.injEq] at ok
    subst ok
    exact ⟨[], rfl, .nil⟩
  | cons row rest ih =>
    obtain ⟨m, f⟩ := row
    rw [tablesOf, Run.result_bind, Run.result_check, bind_eq_ok] at ok
    obtain ⟨planned, called, ok⟩ := ok
    rw [mapError_eq_ok] at called
    simp only [plansOf, called, bind_eq_ok, Except.ok.injEq]
    cases planned with
    | none =>
      obtain ⟨plans, planned, all⟩ := ih ok
      exact ⟨plans, ⟨none, rfl, planned⟩, all⟩
    | some p =>
      dsimp only at ok
      by_cases known : seen.any p.isSame = true
      · rw [if_pos known] at ok
        obtain ⟨plans, planned, all⟩ := ih ok
        exact ⟨plans, ⟨some p, rfl, by simpa [known] using planned⟩, all⟩
      · rw [if_neg known] at ok
        simp only [Run.result_bind, Run.result_log, Run.result_pure, bind_eq_ok, Except.ok.injEq] at ok
        obtain ⟨-, -, built, builtOk, others, othersOk, rfl⟩ := ok
        obtain ⟨plans, planned, all⟩ := ih othersOk
        exact ⟨p :: plans, ⟨some p, rfl, by simp [known, planned]⟩, .cons builtOk all⟩

theorem tablesOf_result {seen plans : List Plan} {rows : List (Model × Field)}
    (planned : plansOf ctx seen rows = .ok plans) :
    (tablesOf ctx seen rows).result = plans.mapM fun p => (table ctx p.model p.other p.relation).result := by
  induction rows generalizing seen plans with
  | nil =>
    cases planned
    rfl
  | cons row rest ih =>
    obtain ⟨m, f⟩ := row
    rw [plansOf, bind_eq_ok] at planned
    obtain ⟨outcome, called, planned⟩ := planned
    rw [tablesOf, called, Run.check_ok_bind]
    cases outcome with
    | none => exact ih planned
    | some p =>
      dsimp only at planned ⊢
      split at planned
      · rename_i known
        rw [if_pos known]
        exact ih planned
      · rename_i fresh
        rw [if_neg fresh]
        simp only [bind_eq_ok, pure_eq_ok] at planned
        obtain ⟨others, planned, rfl⟩ := planned
        simp only [Run.result_bind, Run.result_log, Run.result_pure, ok_bind, List.mapM_cons, ih planned]
        rfl

theorem tablesOf_of_plansOf {seen plans : List Plan} {fields : List (Model × Field)} {tables : List Table}
    (planned : plansOf ctx seen fields = .ok plans)
    (joined : List.Forall₂ (fun p t => (table ctx p.model p.other p.relation).result = .ok t) plans tables) :
    (tablesOf ctx seen fields).result = .ok tables := by
  rw [tablesOf_result planned]
  exact mapM_eq_ok.2 joined

end JoinTable

namespace Datamodel

variable {d : Datamodel} {naming : Naming} {excluded : List Json} {s : Schema}

def joinPlans (d : Datamodel) (ctx : Context) (excluded : List Json) : Except Misuse (List JoinTable.Plan) :=
  JoinTable.plansOf ctx [] ((d.kept excluded).flatMap fun m => m.relationFields.map (m, ·))

theorem joinPlans_ok {ctx : Context} {plans : List JoinTable.Plan} (ok : d.joinPlans ctx excluded = .ok plans) :
    JoinTable.Planned ctx [] ((d.kept excluded).flatMap fun m => m.relationFields.map (m, ·)) plans :=
  JoinTable.plansOf_ok ok

theorem calls_of_mem_joinPlans {ctx : Context} (built : ctx.Built d naming excluded) {plans : List JoinTable.Plan}
    (ok : d.joinPlans ctx excluded = .ok plans) {p : JoinTable.Plan} (member : p ∈ plans) :
    ∃ m ∈ d.kept excluded, ∃ f ∈ m.relationFields, ∃ target ∈ d.kept excluded, ∃ back,
      JoinTable.Calls ctx m f target back p := by
  obtain ⟨⟨m, f⟩, row, called⟩ := (joinPlans_ok ok).called p member
  obtain ⟨kept, relation⟩ := Model.mem_relationRows.1 row
  obtain ⟨target, back, calls⟩ := JoinTable.plan?_eq_ok.1 called
  exact ⟨m, kept, f, relation, target, (built.kept_of_model? calls.looked calls.here).1, back, calls⟩

theorem mem_kept_of_joinPlans {ctx : Context} (built : ctx.Built d naming excluded) {plans : List JoinTable.Plan}
    (ok : d.joinPlans ctx excluded = .ok plans) {p : JoinTable.Plan} (member : p ∈ plans) :
    p.model ∈ d.kept excluded ∧ p.other ∈ d.kept excluded := by
  obtain ⟨m, kept, f, -, target, keptTarget, back, calls⟩ := calls_of_mem_joinPlans built ok member
  rw [calls.plan_eq]
  exact ⟨kept, keptTarget⟩

theorem ordered_of_mem_joinPlans {ctx : Context} (built : ctx.Built d naming excluded) {plans : List JoinTable.Plan}
    (ok : d.joinPlans ctx excluded = .ok plans) {p : JoinTable.Plan} (member : p ∈ plans) :
    p.other.name.lt? p.model.name = .ok false := by
  obtain ⟨m, -, f, -, target, -, back, calls⟩ := calls_of_mem_joinPlans built ok member
  rw [calls.plan_eq]
  exact calls.ordered

theorem joined_model {ctx : Context} (built : ctx.Built d naming excluded) {plans : List JoinTable.Plan}
    (ok : d.joinPlans ctx excluded = .ok plans) {p : JoinTable.Plan} (member : p ∈ plans) {t : Table}
    (made : (JoinTable.table ctx p.model p.other p.relation).result = .ok t) :
    t.model = p.name ∧ t.constant = Naming.constant p.name := by
  obtain ⟨m, -, f, -, target, -, back, calls⟩ := calls_of_mem_joinPlans built ok member
  obtain ⟨a, b, idA, idB, joins⟩ := JoinTable.table_ok made
  have named := joins.named
  rw [calls.plan_eq, calls.named, Except.ok.injEq] at named
  exact ⟨named.symm, by rw [joins.constant_eq, named]⟩

theorem exists_plan_of_calls {ctx : Context} {plans : List JoinTable.Plan} (ok : d.joinPlans ctx excluded = .ok plans)
    {m target : Model} {f back : Field} {p : JoinTable.Plan} (kept : m ∈ d.kept excluded)
    (relation : f ∈ m.relationFields) (calls : JoinTable.Calls ctx m f target back p) :
    ∃ q ∈ plans, p.isSame q = true := by
  have called := JoinTable.plan?_eq_ok.2 ⟨target, back, calls⟩
  simpa using (joinPlans_ok ok).covered (m, f) (Model.mem_relationRows.2 ⟨kept, relation⟩) p called

theorem toSchema_ok (ok : (d.toSchema naming excluded).result = .ok s) :
    ∃ ctx tables joins plans, (Context.build d naming excluded).result = .ok ctx ∧
      s = ⟨tables ++ joins, d.enums⟩ ∧
      List.Forall₂ (fun m t => (ctx.table m).result = .ok t) (d.kept excluded) tables ∧
      d.joinPlans ctx excluded = .ok plans ∧
      List.Forall₂ (fun p t => (JoinTable.table ctx p.model p.other p.relation).result = .ok t) plans joins := by
  simp only [toSchema, Run.result_bind, Run.result_mapM, Run.result_pure, bind_eq_ok, mapM_eq_ok,
    Except.ok.injEq] at ok
  obtain ⟨ctx, built, -, -, tables, tabled, joins, joinsOk, rfl⟩ := ok
  obtain ⟨plans, planned, all⟩ := JoinTable.tablesOf_ok joinsOk
  exact ⟨ctx, tables, joins, plans, built, rfl, tabled, planned, all⟩

theorem toSchema_of {ctx : Context} {tables joins : List Table} {plans : List JoinTable.Plan}
    (built : (Context.build d naming excluded).result = .ok ctx)
    (tabled : List.Forall₂ (fun m t => (ctx.table m).result = .ok t) (d.kept excluded) tables)
    (planned : d.joinPlans ctx excluded = .ok plans)
    (joined : List.Forall₂ (fun p t => (JoinTable.table ctx p.model p.other p.relation).result = .ok t) plans joins) :
    (d.toSchema naming excluded).result = .ok ⟨tables ++ joins, d.enums⟩ := by
  have joinsOk : (JoinTable.tables ctx (d.kept excluded)).result = .ok joins :=
    JoinTable.tablesOf_of_plansOf planned joined
  have tablesOk := mapM_eq_ok.2 tabled
  simp only [toSchema, Run.result_bind, Run.result_mapM, Run.result_pure, Run.result_forM_log, built, tablesOk,
    joinsOk, ok_bind]

theorem text_of_tabled {ctx : Context} {tables : List Table}
    (tabled : List.Forall₂ (fun m t => (ctx.table m).result = .ok t) (d.kept excluded) tables) :
    ∀ m ∈ d.kept excluded, ∃ name, m.name = .str name := by
  intro m kept
  obtain ⟨t, -, made⟩ := exists_result tabled kept
  exact ⟨t.model, (Context.table_ok made).model_eq⟩

theorem resolves_of_tabled {ctx : Context} {tables : List Table} (built : ctx.Built d naming excluded)
    (tabled : List.Forall₂ (fun m t => (ctx.table m).result = .ok t) (d.kept excluded) tables) {m target : Model}
    {f : Field} (kept : m ∈ d.kept excluded) (relation : f ∈ m.relationFields) (keptTarget : target ∈ d.kept excluded)
    (points : (f.type == target.name) = true) :
    ∃ r, (ctx.relationship? m f).result = .ok (some r) ∧ ctx.Resolves m f target r := by
  obtain ⟨t, -, made⟩ := exists_result tabled kept
  obtain ⟨outcome, ok⟩ := (Context.relationships_ok (Context.table_ok made).relationships_ok).1 f relation
  obtain ⟨r, rfl, resolves⟩ := built.resolves_kept keptTarget points ok
  exact ⟨r, ok, resolves⟩

end Datamodel

end SyncSchema

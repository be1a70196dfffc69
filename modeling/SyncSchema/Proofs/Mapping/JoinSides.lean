import SyncSchema.Proofs.Mapping.JoinPlans

namespace SyncSchema
open Outcome

theorem decide_lt_flip {s t : String} (differ : s ≠ t) : decide (t < s) = !decide (s < t) := by
  rcases lt_or_gt_of_ne differ with before | after
  · simp [before, lt_asymm before]
  · simp [after, lt_asymm after]

theorem Field.isFirstSide_flip {f back : Field} {m target : Model} (textM : ∃ name, m.name = .str name)
    (textT : ∃ name, target.name = .str name) (textF : ∃ name, f.name = .str name)
    (textB : ∃ name, back.name = .str name) (completes : back.Completes f m target) {first : Bool}
    (side : f.isFirstSide m target back = .ok first) : back.isFirstSide target m f = .ok !first := by
  obtain ⟨name, nameM⟩ := textM
  obtain ⟨other, nameT⟩ := textT
  obtain ⟨own, nameF⟩ := textF
  obtain ⟨own', nameB⟩ := textB
  have differ := completes.other
  simp only [isFirstSide, nameM, nameT, nameF, nameB, Json.str_beq_str, Json.lt?_str, beq_iff_eq,
    beq_eq_false_iff_ne] at side differ ⊢
  by_cases same : name = other
  · rw [if_pos same, Except.ok.injEq] at side
    rw [if_pos same.symm, Except.ok.injEq, ← side, decide_lt_flip (differ same).symm]
  · rw [if_neg same, Except.ok.injEq] at side
    rw [if_neg (Ne.symm same), Except.ok.injEq, ← side, decide_lt_flip same]

structure Table.RefersTo (t : Table) (column : String) (u : Table) (key : Json) : Prop where
  link : (.str ("model" ++ column), ⟨.one, .direct ⟨[.str column], [key], u.constant⟩⟩) ∈ t.relationships
  type : ∃ own, (key, own) ∈ u.columns ∧ (.str column, ⟨own.type, false, none⟩) ∈ t.columns

/-- From the key of one table by the column `own` into the join table, by `other` to the key of the second one. -/
def Relationship.through (join u : Table) (source : Json) (own other : String) (dest : Json) : Relationship :=
  ⟨.many, .chain ⟨[source], [.str own], join.constant⟩ ⟨[.str other], [dest], u.constant⟩⟩

/-- The ends go through the join table by the same columns, which refer to the models of the ends. -/
structure JoinTable.EndsAgree (ctx : Context) (m target : Model) (f back : Field) (t tableM tableT : Table)
    (keyM keyT : Json) (x y : String) : Prop where
  named : name m.name target.name f.relationName = .ok t.model
  sides : x = "A" ∧ y = "B" ∨ x = "B" ∧ y = "A"
  resolved : (ctx.relationship? m f).result = .ok (some (.through t tableT keyM x y keyT))
  resolvedBack : (ctx.relationship? target back).result = .ok (some (.through t tableM keyT y x keyM))
  entry : (f.name, .through t tableT keyM x y keyT) ∈ tableM.relationships
  entryBack : (back.name, .through t tableM keyT y x keyM) ∈ tableT.relationships
  refers : t.RefersTo x tableM keyM
  refersBack : t.RefersTo y tableT keyT

namespace JoinTable

variable {d : Datamodel} {naming : Naming} {excluded : List Json} {ctx : Context} {model other m target a b : Model}
  {idA idB : Field} {relation : Json} {t u tableA tableB tableM tableT : Table}

theorem idColumn (built : ctx.Built d naming excluded) (linked : d.Linked excluded) (kept : m ∈ d.kept excluded)
    (tabled : ctx.Tabled m u) {id : Field} (identity : m.idField? = some id) (column : id.isColumn = true) :
    ∃ own, (ctx.columnKey m.name id.name, own) ∈ u.columns ∧ (id.columnType .standard).result = .ok own.type := by
  have member : id ∈ m.columnFields := List.mem_filter.2 ⟨List.mem_of_find?_eq_some identity, column⟩
  obtain ⟨own, storedAs, entry, made⟩ := built.column_of_field kept tabled (linked.distinct m kept) member
  simp only [Field.column, Run.result_bind, Run.result_pure, bind_eq_ok, Except.ok.injEq] at made
  obtain ⟨type, typed, rfl⟩ := made
  exact ⟨_, entry, typed⟩

theorem Joins.model_eq {p : Plan} {given : String} (joins : Joins ctx p.model p.other p.relation t a b idA idB)
    (text : given ≠ "") (between : p.isBetween m target (.str given) = true) : t.model = "_" ++ given := by
  simp only [Plan.isBetween, Bool.and_eq_true] at between
  have named := joins.named
  rw [Json.eq_str_of_beq between.2, name_given text, Except.ok.injEq] at named
  exact named.symm

theorem Joins.refersTo (joins : Joins ctx model other relation t a b idA idB) (built : ctx.Built d naming excluded)
    (linked : d.Linked excluded) (keptA : a ∈ d.kept excluded) (keptB : b ∈ d.kept excluded)
    (tabledA : ctx.Tabled a tableA) (tabledB : ctx.Tabled b tableB) (columnA : idA.isColumn = true)
    (columnB : idB.isColumn = true) :
    t.RefersTo "A" tableA (ctx.columnKey a.name idA.name) ∧
      t.RefersTo "B" tableB (ctx.columnKey b.name idB.name) := by
  obtain ⟨typeA, typeB, typedA, typedB, columns⟩ := joins.columns_eq
  obtain ⟨constantA, constantB, namedA, namedB, relationships⟩ := joins.relationships_eq
  obtain ⟨ownA, entryA, ownTypedA⟩ := idColumn built linked keptA tabledA joins.identityA columnA
  obtain ⟨ownB, entryB, ownTypedB⟩ := idColumn built linked keptB tabledB joins.identityB columnB
  rw [ownTypedA, Except.ok.injEq] at typedA
  rw [ownTypedB, Except.ok.injEq] at typedB
  rw [tabledA.constant_unique namedA, tabledB.constant_unique namedB] at relationships
  subst typedA typedB
  constructor
  · exact ⟨by simp [relationships], ownA, entryA, by simp [columns]⟩
  · exact ⟨by simp [relationships], ownB, entryB, by simp [columns]⟩

theorem sides_eq (first : Bool) :
    (sides first).1 = "A" ∧ (sides first).2 = "B" ∨ (sides first).1 = "B" ∧ (sides first).2 = "A" := by
  cases first with
  | true => exact .inl ⟨rfl, rfl⟩
  | false => exact .inr ⟨rfl, rfl⟩

theorem sides_not (first : Bool) : sides (!first) = (sides first).swap := by
  cases first <;> rfl

theorem Joins.refersTo_sides (joins : Joins ctx model other relation t a b idA idB)
    (built : ctx.Built d naming excluded) (linked : d.Linked excluded) (kept : m ∈ d.kept excluded)
    (keptTarget : target ∈ d.kept excluded) (tabled : ctx.Tabled m tableM) (tabledT : ctx.Tabled target tableT)
    {idM idT : Field} (identity : m.idField? = some idM) (identityT : target.idField? = some idT)
    (column : idM.isColumn = true) (columnT : idT.isColumn = true) {first : Bool}
    (pair : (a, b) = if first then (m, target) else (target, m)) :
    t.RefersTo (sides first).1 tableM (ctx.columnKey m.name idM.name) ∧
      t.RefersTo (sides first).2 tableT (ctx.columnKey target.name idT.name) := by
  cases first with
  | true =>
    cases pair
    cases identity.symm.trans joins.identityA
    cases identityT.symm.trans joins.identityB
    exact joins.refersTo built linked kept keptTarget tabled tabledT column columnT
  | false =>
    cases pair
    cases identity.symm.trans joins.identityB
    cases identityT.symm.trans joins.identityA
    exact (joins.refersTo built linked keptTarget kept tabledT tabled columnT column).symm

end JoinTable

namespace Datamodel

variable {d : Datamodel} {naming : Naming} {excluded : List Json} {s : Schema} {ctx : Context} {m target : Model}
  {f back : Field} {relation : String} {plans : List JoinTable.Plan}

theorem ListEnd.through (here : d.ListEnd excluded m f target back relation)
    (there : d.ListEnd excluded target back m f relation) {tableT t : Table} (tabled : ctx.Tabled target tableT)
    (joined : t.model = "_" ++ relation) (constant : t.constant = Naming.constant t.model) {r : Relationship}
    (resolves : ctx.Resolves m f target r) : ∃ idM idT first, m.idField? = some idM ∧ target.idField? = some idT ∧
      f.isFirstSide m target back = .ok first ∧
      r = .through t tableT (ctx.columnKey m.name idM.name) (JoinTable.sides first).1 (JoinTable.sides first).2
        (ctx.columnKey target.name idT.name) := by
  have lists : (f.backReference? m target).filter (·.isList.holds) = some back :=
    Option.filter_eq_some_iff.2 ⟨here.found, there.list⟩
  obtain ⟨join, idM, idT, first, constantT, named, identity, identityT, side, namedT, -, rfl⟩ :=
    Context.throughJoin_eq_ok.1 ((Context.resolves_lists here.list lists).1 resolves)
  rw [here.named, JoinTable.name_given here.given, Except.ok.injEq] at named
  refine ⟨idM, idT, first, identity, identityT, side, ?_⟩
  rw [Relationship.through, constant, joined, named, tabled.constant_unique namedT]

theorem participants (linked : d.Linked excluded) (built : ctx.Built d naming excluded)
    (texts : ∀ m ∈ d.kept excluded, ∃ name, m.name = .str name) (ok : d.joinPlans ctx excluded = .ok plans)
    (here : d.ListEnd excluded m f target back relation) (there : d.ListEnd excluded target back m f relation)
    {p : JoinTable.Plan} (member : p ∈ plans) (between : p.isBetween m target (.str relation) = true) {t : Table}
    {a b : Model} {idA idB : Field} (joins : JoinTable.Joins ctx p.model p.other p.relation t a b idA idB)
    {first : Bool} (side : f.isFirstSide m target back = .ok first) :
    (a, b) = if first then (m, target) else (target, m) := by
  obtain ⟨keptModel, keptOther, ordered, -⟩ := linked.of_mem_joinPlans built ok member
  have atA : (a, b) = (p.model, p.other) := Prod.ext_iff.2 (joins.models_eq ordered)
  have equal {m n : Model} (km : m ∈ d.kept excluded) (kn : n ∈ d.kept excluded)
      (same : (m.name == n.name) = true) : m = n :=
    built.distinct_kept.eq_of_beq km kn same
  rw [atA]
  by_cases self : (m.name == target.name) = true
  · -- Both sides are the same model, so it does not matter which end is first.
    cases equal here.kept there.kept self
    simp only [JoinTable.Plan.isBetween, Bool.and_eq_true, Bool.or_eq_true, or_self] at between
    rw [equal keptModel here.kept between.1.1, equal keptOther here.kept between.1.2, ite_self]
  · rw [Field.isFirstSide, if_neg self] at side
    obtain ⟨name, nameM⟩ := texts m here.kept
    obtain ⟨other, nameT⟩ := texts target there.kept
    rw [nameM, nameT, Json.lt?_str, Except.ok.injEq] at side
    rw [nameM, nameT, Json.str_beq_str, beq_iff_eq] at self
    simp only [JoinTable.Plan.isBetween, Bool.and_eq_true, Bool.or_eq_true] at between
    rcases between.1 with ⟨modelM, otherT⟩ | ⟨modelT, otherM⟩
    · rw [equal keptModel here.kept modelM, equal keptOther there.kept otherT] at ordered ⊢
      rw [nameM, nameT, Json.lt?_str, Except.ok.injEq, decide_lt_flip self, side, Bool.not_eq_false'] at ordered
      rw [ordered, if_pos rfl]
    · rw [equal keptModel there.kept modelT, equal keptOther here.kept otherM] at ordered ⊢
      rw [nameM, nameT, Json.lt?_str, Except.ok.injEq, side] at ordered
      rw [ordered]
      rfl

theorem toSchema_endsAgree (ok : (d.toSchema naming excluded).result = .ok s) (linked : d.Linked excluded)
    (kept : m ∈ d.kept excluded) (keptTarget : target ∈ d.kept excluded) (relationField : f ∈ m.relationFields)
    (list : f.isList.holds = true) (points : (f.type == target.name) = true)
    (found : f.backReference? m target = some back) (lists : back.isList.holds = true)
    (column : ∀ id ∈ m.idField?, id.isColumn = true) (columnTarget : ∀ id ∈ target.idField?, id.isColumn = true) :
    ∃ ctx tables joins plans, (Context.build d naming excluded).result = .ok ctx ∧ s.tables = tables ++ joins ∧
      List.Forall₂ (fun m t => (ctx.table m).result = .ok t) (d.kept excluded) tables ∧
      d.joinPlans ctx excluded = .ok plans ∧
      List.Forall₂ (fun p t => (JoinTable.table ctx p.model p.other p.relation).result = .ok t) plans joins ∧
      ∃ p, plans.filter (·.isBetween m target f.relationName) = [p] ∧
        ∃ t ∈ joins, (JoinTable.table ctx p.model p.other p.relation).result = .ok t ∧
        ∃ tableM ∈ tables, (ctx.table m).result = .ok tableM ∧
        ∃ tableT ∈ tables, (ctx.table target).result = .ok tableT ∧
        ∃ idM idT x y, m.idField? = some idM ∧ target.idField? = some idT ∧
          JoinTable.EndsAgree ctx m target f back t tableM tableT (ctx.columnKey m.name idM.name)
            (ctx.columnKey target.name idT.name) x y := by
  obtain ⟨ctx, tables, joins, plans, ctxOk, rfl, tabled, planned, joined⟩ := toSchema_ok ok
  have built := Context.build_ok ctxOk
  have texts := text_of_tabled tabled
  obtain ⟨relation, here, there⟩ := linked.listEnds kept keptTarget relationField list points found lists
  obtain ⟨p, member, single⟩ := exists_single_plan linked built texts planned here there
  have between : p.isBetween m target (.str relation) = true := by
    have only : p ∈ plans.filter (·.isBetween m target (.str relation)) := by rw [single]; exact List.mem_cons_self
    exact (List.mem_filter.1 only).2
  obtain ⟨t, join, made⟩ := exists_result joined member
  obtain ⟨tableM, memberM, madeM⟩ := exists_result tabled kept
  obtain ⟨tableT, memberT, madeT⟩ := exists_result tabled keptTarget
  have tabledM := Context.table_ok madeM
  have tabledT := Context.table_ok madeT
  obtain ⟨a, b, idA, idB, joins⟩ := JoinTable.table_ok made
  have joinModel := joins.model_eq here.given between
  obtain ⟨r, resolved, resolves⟩ := resolves_of_tabled built tabled kept here.relationField keptTarget here.points
  obtain ⟨q, resolvedBack, resolvesBack⟩ :=
    resolves_of_tabled built tabled keptTarget there.relationField kept there.points
  obtain ⟨idM, idT, first, identity, identityT, side, rfl⟩ :=
    here.through there tabledT joinModel joins.constant_eq resolves
  obtain ⟨idT', idM', first', identityT', identity', side', rfl⟩ :=
    there.through here tabledM joinModel joins.constant_eq resolvesBack
  cases identity.symm.trans identity'
  cases identityT.symm.trans identityT'
  have flipped := Field.isFirstSide_flip (texts m kept) (texts target keptTarget) here.text there.text
    (Field.backReference?_completes found) side
  cases flipped.symm.trans side'
  rw [JoinTable.sides_not] at resolvedBack
  have pair := participants linked built texts planned here there member between joins side
  obtain ⟨refers, refersBack⟩ := joins.refersTo_sides built linked kept keptTarget tabledM tabledT identity identityT
    (column _ identity) (columnTarget _ identityT) pair
  have entry := Context.relationships_entry tabledM.relationships_ok
    ((linked.distinct m kept).sublist List.filter_sublist) here.relationField resolved
  have entryBack := Context.relationships_entry tabledT.relationships_ok
    ((linked.distinct target keptTarget).sublist List.filter_sublist) there.relationField resolvedBack
  have ends : JoinTable.EndsAgree ctx m target f back t tableM tableT (ctx.columnKey m.name idM.name)
      (ctx.columnKey target.name idT.name) (JoinTable.sides first).1 (JoinTable.sides first).2 := {
    named := by rw [here.named, JoinTable.name_given here.given, joinModel]
    sides := JoinTable.sides_eq first
    resolved := resolved
    resolvedBack := resolvedBack
    entry := entry
    entryBack := entryBack
    refers := refers
    refersBack := refersBack }
  exact ⟨ctx, tables, _, plans, ctxOk, rfl, tabled, planned, joined, p, by rwa [here.named], t, join, made, tableM,
    memberM, madeM, tableT, memberT, madeT, idM, idT, _, _, identity, identityT, ends⟩

theorem blog_endsAgree : ∃ s, (Sample.blog.toSchema ⟨true, true⟩ []).result = .ok s ∧ Sample.blog.Linked [] ∧
    ∃ ctx tables joins plans, (Context.build Sample.blog ⟨true, true⟩ []).result = .ok ctx ∧
      s.tables = tables ++ joins ∧
      List.Forall₂ (fun m t => (ctx.table m).result = .ok t) (Sample.blog.kept []) tables ∧
      Sample.blog.joinPlans ctx [] = .ok plans ∧
      List.Forall₂ (fun p t => (JoinTable.table ctx p.model p.other p.relation).result = .ok t) plans joins ∧
      ∃ p, plans.filter (·.isBetween Sample.tag Sample.link Sample.links.relationName) = [p] ∧
        ∃ t ∈ joins, (JoinTable.table ctx p.model p.other p.relation).result = .ok t ∧
        ∃ tableM ∈ tables, (ctx.table Sample.tag).result = .ok tableM ∧
        ∃ tableT ∈ tables, (ctx.table Sample.link).result = .ok tableT ∧
        ∃ idM idT x y, Sample.tag.idField? = some idM ∧ Sample.link.idField? = some idT ∧
          JoinTable.EndsAgree ctx Sample.tag Sample.link Sample.links Sample.tags t tableM tableT
            (ctx.columnKey Sample.tag.name idM.name) (ctx.columnKey Sample.link.name idT.name) x y := by
  have linked : Sample.blog.Linked [] := by decide +kernel
  obtain ⟨s, ok⟩ := Sample.blog_toSchema
  refine ⟨s, ok, linked, toSchema_endsAgree ok linked ?_ ?_ ?_ ?_ ?_ ?_ ?_ ?_ ?_⟩
  all_goals decide +kernel

end Datamodel

namespace Sample

def truths : Field :=
  { many "bs" "B" "" with relationName := .bool true }

def numbers : Field :=
  { many "as" "A" "" with relationName := .int 1 }

def unlike : Datamodel where
  models := [model "A" [id "id" "Int", truths], model "B" [id "id" "Int", numbers]]
  enums := []

theorem unlike_ends : ∃ ctx, (Context.build unlike ⟨false, false⟩ []).result = .ok ctx ∧
    (ctx.relationship? (model "A" [id "id" "Int", truths]) truths).result = .ok (some ⟨.many, .chain
      ⟨[.str "id"], [.str "A"], "_trueTable"⟩ ⟨[.str "B"], [.str "id"], "bTable"⟩⟩) ∧
    (ctx.relationship? (model "B" [id "id" "Int", numbers]) numbers).result = .ok (some ⟨.many, .chain
      ⟨[.str "id"], [.str "B"], "_1Table"⟩ ⟨[.str "A"], [.str "id"], "aTable"⟩⟩) := by
  have run : (do
      let ctx ← Context.build unlike ⟨false, false⟩ []
      return (← ctx.relationship? (model "A" [id "id" "Int", truths]) truths,
        ← ctx.relationship? (model "B" [id "id" "Int", numbers]) numbers) : Run _).result.toOption =
        some (some ⟨.many, .chain ⟨[.str "id"], [.str "A"], "_trueTable"⟩ ⟨[.str "B"], [.str "id"], "bTable"⟩⟩,
          some ⟨.many, .chain ⟨[.str "id"], [.str "B"], "_1Table"⟩ ⟨[.str "A"], [.str "id"], "aTable"⟩⟩) := by
    decide +kernel
  simp only [toOption_eq_some, Run.result_bind, Run.result_pure, bind_eq_ok, Except.ok.injEq, Prod.mk.injEq] at run
  obtain ⟨ctx, ctxOk, r, resolved, q, resolvedBack, rfl, rfl⟩ := run
  exact ⟨ctx, ctxOk, resolved, resolvedBack⟩

end Sample

theorem Datamodel.not_forall_endsAgree : ¬∀ (d : Datamodel) (naming : Naming) (excluded : List Json) (s : Schema)
    (ctx : Context) (m target : Model) (f back : Field) (c c' : Cardinality) (l₁ l₂ k₁ k₂ : Link),
    (d.toSchema naming excluded).result = .ok s → (Context.build d naming excluded).result = .ok ctx →
    (∀ m ∈ d.kept excluded, Distinct Field.name m.fields) →
    (∀ m ∈ d.kept excluded, ∀ f ∈ m.relationFields, ∀ target ∈ d.kept excluded, (f.type == target.name) = true →
      ∀ back ∈ f.backReference? m target, back.backReference? target m = some f) →
    m ∈ d.kept excluded → target ∈ d.kept excluded → f ∈ m.relationFields → f.isList.holds = true →
    (f.type == target.name) = true → f.backReference? m target = some back → back.isList.holds = true →
    (∀ id ∈ m.idField?, id.isColumn = true) → (∀ id ∈ target.idField?, id.isColumn = true) →
    (ctx.relationship? m f).result = .ok (some ⟨c, .chain l₁ l₂⟩) →
    (ctx.relationship? target back).result = .ok (some ⟨c', .chain k₁ k₂⟩) → l₁.target = k₁.target := by
  intro claim
  have succeeds : (Sample.unlike.toSchema ⟨false, false⟩ []).result.isOk = true := by decide +kernel
  obtain ⟨s, ok⟩ := exists_of_isOk succeeds
  obtain ⟨ctx, ctxOk, resolved, resolvedBack⟩ := Sample.unlike_ends
  refine absurd (claim Sample.unlike ⟨false, false⟩ [] s ctx _ _ Sample.truths Sample.numbers _ _ _ _ _ _ ok ctxOk
    ?_ ?_ ?_ ?_ ?_ ?_ ?_ ?_ ?_ ?_ ?_ resolved resolvedBack) ?_
  all_goals decide +kernel

end SyncSchema

import Mathlib.Data.List.Find
import SyncSchema.Proofs.Datamodel.Texts
import SyncSchema.Proofs.Mapping.Tables
import SyncSchema.Proofs.Samples

namespace SyncSchema
open Outcome

def Field.leadsInto (f : Field) (gone : List Json) : Bool :=
  f.isRelation && gone.contains f.type

namespace Model

def without (gone : List Json) (m : Model) : Model :=
  { m with fields := m.fields.filter (!·.leadsInto gone) }

variable (gone : List Json) (m : Model)

@[simp] theorem name_without : (m.without gone).name = m.name := rfl

theorem isColumn_of_leadsInto {f : Field} (leads : f.leadsInto gone = true) : f.isColumn = false := by
  rw [Field.leadsInto, Bool.and_eq_true] at leads
  rw [Field.isColumn, leads.1, Bool.not_true, Bool.false_and]

theorem relationFields_without :
    (m.without gone).relationFields = m.relationFields.filter (!·.leadsInto gone) := by
  rw [relationFields, relationFields, without, List.filter_filter, List.filter_filter]
  simp only [Bool.and_comm]

theorem columnKeysFrom_without (naming : Naming) (name : Json) (seen : List (Json × Json)) (fields : List Field) :
    columnKeysFrom naming name seen (fields.filter (!·.leadsInto gone)) = columnKeysFrom naming name seen fields := by
  induction fields generalizing seen with
  | nil => rfl
  | cons f rest ih =>
    by_cases leads : f.leadsInto gone = true
    · rw [List.filter_cons_of_neg (by simp [leads]), ih, columnKeysFrom, isColumn_of_leadsInto gone leads]
      rfl
    · rw [List.filter_cons_of_pos (by simpa using leads), columnKeysFrom, columnKeysFrom]
      simp only [ih]

theorem columnKeys_without (naming : Naming) : (m.without gone).columnKeys naming = m.columnKeys naming := by
  rw [columnKeys, columnKeys, ← columnKeysFrom_without gone naming m.name [] m.fields]
  rfl

theorem columnsOf_without (naming : Naming) (types : TypeTable) (name : Json) (fields : List Field) :
    columnsOf naming types name (fields.filter (!·.leadsInto gone)) = columnsOf naming types name fields := by
  induction fields with
  | nil => rfl
  | cons f rest ih =>
    by_cases leads : f.leadsInto gone = true
    · rw [List.filter_cons_of_neg (by simp [leads]), ih, columnsOf,
        if_pos (Bool.and_eq_true_iff.1 leads).1]
    · rw [List.filter_cons_of_pos (by simpa using leads), columnsOf, columnsOf, ih]

theorem columns_without (naming : Naming) (types : TypeTable) :
    (m.without gone).columns naming types = m.columns naming types := by
  rw [columns, columns, ← columnsOf_without gone naming types m.name m.fields]
  rfl

variable {m}

def RelationsAreNoIds (m : Model) : Prop :=
  ∀ f ∈ m.relationFields, f.isId.holds = false

instance (m : Model) : Decidable m.RelationsAreNoIds :=
  inferInstanceAs (Decidable (∀ f ∈ m.relationFields, _))

theorem idField?_without (noIds : m.RelationsAreNoIds) : (m.without gone).idField? = m.idField? := by
  rw [idField?, idField?, without, List.find?_filter]
  refine List.find?_congr fun f member => ?_
  by_cases leads : f.leadsInto gone = true
  · have relation : f ∈ m.relationFields := List.mem_filter.2 ⟨member, (Bool.and_eq_true_iff.1 leads).1⟩
    simp [leads, noIds f relation]
  · simp [leads]

theorem keyFields_without (noIds : m.RelationsAreNoIds) : (m.without gone).keyFields = m.keyFields := by
  rw [keyFields, keyFields, idField?_without gone noIds]
  rfl

end Model

theorem Field.backReference?_without {gone : List Json} {m : Model} (here : gone.contains m.name = false)
    (f : Field) (target : Model) :
    f.backReference? (m.without gone) (target.without gone) = f.backReference? m target := by
  rw [backReference?, backReference?, Model.without, Model.without, List.find?_filter]
  refine List.find?_congr fun candidate _ => ?_
  by_cases points : (candidate.type == m.name) = true
  · rw [← List.contains_congr points] at here
    simp [leadsInto, here]
  · simp [points]

theorem JoinTable.identity_without {m : Model} (gone : List Json) (noIds : m.RelationsAreNoIds) (relation : Json) :
    identity (m.without gone) relation = identity m relation := by
  rw [identity, identity, Model.idField?_without gone noIds]
  rfl

namespace Context

def without (gone : List Json) (ctx : Context) : Context :=
  { ctx with excluded := [], models := (keptOf ctx.excluded ctx.models).map (Model.without gone) }

variable (gone : List Json) (ctx : Context) {m target : Model} (f : Field)

@[simp] theorem naming_without : (ctx.without gone).naming = ctx.naming := rfl
@[simp] theorem isExcluded_without (name : Json) : (ctx.without gone).isExcluded name = false := rfl

theorem keyFields_without (noIds : m.RelationsAreNoIds) : keyFields (m.without gone) = keyFields m := by
  rw [keyFields, keyFields, Model.keyFields_without gone noIds]
  rfl

theorem namedOrKey_without (noIds : m.RelationsAreNoIds) (names : List Json) :
    namedOrKey names (m.without gone) = namedOrKey names m := by
  rw [namedOrKey, namedOrKey, keyFields_without gone noIds]

theorem toMany_without (noIds : m.RelationsAreNoIds) (back : Option Field) :
    (ctx.without gone).toMany (m.without gone) (target.without gone) f back = ctx.toMany m target f back := by
  cases back with
  | none => rfl
  | some back =>
    simp only [toMany, keyFields_without gone noIds]
    rfl

theorem toOne_without (noIds : m.RelationsAreNoIds) (noIdsTarget : target.RelationsAreNoIds) (back : Option Field) :
    (ctx.without gone).toOne (m.without gone) (target.without gone) f back = ctx.toOne m target f back := by
  simp only [toOne, namedOrKey_without gone noIds, namedOrKey_without gone noIdsTarget]
  rfl

theorem throughJoin_without (noIds : m.RelationsAreNoIds) (noIdsTarget : target.RelationsAreNoIds) (back : Field) :
    (ctx.without gone).throughJoin (m.without gone) (target.without gone) f back = ctx.throughJoin m target f back := by
  simp only [throughJoin, JoinTable.identity_without gone noIds, JoinTable.identity_without gone noIdsTarget]
  rfl

theorem primaryKey_without (noIds : m.RelationsAreNoIds) :
    (ctx.without gone).primaryKey (m.without gone) = ctx.primaryKey m := by
  rw [primaryKey, primaryKey, keyFields_without gone noIds]
  rfl

end Context

namespace Datamodel

def gone (d : Datamodel) (excluded : List Json) : List Json :=
  (d.models.map (·.name)).filter excluded.contains

def without (d : Datamodel) (excluded : List Json) : Datamodel :=
  { d with models := (d.kept excluded).map (Model.without (d.gone excluded)) }

variable {d : Datamodel} {excluded : List Json} {m : Model} {name : Json}

theorem gone_contains : (d.gone excluded).contains name = true ↔
    ∃ m ∈ d.models, excluded.contains m.name = true ∧ (name == m.name) = true := by
  simp only [gone, List.contains_iff_exists_mem_beq, List.mem_filter, List.mem_map]
  constructor
  · rintro ⟨_, ⟨⟨m, member, rfl⟩, dropped⟩, same⟩
    exact ⟨m, member, by simpa [List.contains_iff_exists_mem_beq] using dropped, same⟩
  · rintro ⟨m, member, dropped, same⟩
    exact ⟨m.name, ⟨⟨m, member, rfl⟩, by simpa [List.contains_iff_exists_mem_beq] using dropped⟩, same⟩

theorem not_gone (stays : excluded.contains name = false) : (d.gone excluded).contains name = false := by
  rw [Bool.eq_false_iff, Ne, gone_contains]
  rintro ⟨m, -, dropped, same⟩
  rw [← List.contains_congr same, stays] at dropped
  contradiction

theorem not_gone_kept (kept : m ∈ d.kept excluded) : (d.gone excluded).contains m.name = false :=
  not_gone (Context.not_excluded_of_kept kept)

end Datamodel

namespace Context

variable {d : Datamodel} {naming : Naming} {excluded : List Json} {ctx : Context} {m target : Model} {f : Field}

namespace Built

variable (built : ctx.Built d naming excluded)
include built

theorem model?_gone {name : Json} (usable : name.canBeKey = true) (gone : (d.gone excluded).contains name = true) :
    ∃ target, ctx.model? name = .ok (some target) ∧ ctx.isExcluded target.name = true := by
  obtain ⟨m, member, dropped, same⟩ := Datamodel.gone_contains.1 gone
  obtain ⟨n, indexed, same'⟩ := built.named m member
  cases found : ctx.models.find? (·.name == name) with
  | none => exact absurd (BEq.trans same' (BEq.symm same)) (List.find?_eq_none.1 found n indexed)
  | some target =>
    refine ⟨target, model?_eq_ok.2 ⟨usable, found⟩, ?_⟩
    have named := List.find?_some found
    rw [built.isExcluded_eq, List.contains_congr (BEq.trans named same)]
    exact dropped

theorem isExcluded_stays {name : Json} (stays : (d.gone excluded).contains name = false)
    (member : m ∈ ctx.models) (same : (m.name == name) = true) : ctx.isExcluded m.name = false := by
  rw [Bool.eq_false_iff]
  intro dropped
  rw [built.isExcluded_eq] at dropped
  have gone : (d.gone excluded).contains name = true :=
    Datamodel.gone_contains.2 ⟨m, built.sublist.subset member, dropped, BEq.symm same⟩
  rw [stays] at gone
  contradiction

theorem model?_without {name : Json} (stays : (d.gone excluded).contains name = false) :
    (ctx.without (d.gone excluded)).model? name = Option.map (Model.without (d.gone excluded)) <$> ctx.model? name := by
  have found : (keptOf ctx.excluded ctx.models).find? (·.name == name) = ctx.models.find? (·.name == name) := by
    rw [keptOf, List.find?_filter]
    refine List.find?_congr fun m member => ?_
    by_cases same : (m.name == name) = true
    · have here := built.isExcluded_stays stays member same
      rw [isExcluded] at here
      simp [here]
    · simp [same]
  cases usable : name.canBeKey with
  | false => simp [model?, Json.key?, usable, Functor.map, Except.map, bind, Except.bind]
  | true =>
    have looked : ctx.model? name = .ok (ctx.models.find? (·.name == name)) := model?_eq_ok.2 ⟨usable, rfl⟩
    rw [looked, ← found]
    refine model?_eq_ok.2 ⟨usable, ?_⟩
    rw [without, List.find?_map]
    rfl

theorem relationship?_gone (text : f.type.kind = .string) (leads : f.leadsInto (d.gone excluded) = true) :
    (ctx.relationship? m f).result = .ok none := by
  obtain ⟨target, looked, dropped⟩ :=
    built.model?_gone (Json.canBeKey_of_kind text) (Bool.and_eq_true_iff.1 leads).2
  exact relationship?_eq_ok.2 ⟨target, looked, by rw [if_pos dropped]⟩

theorem relationship?_without (noIds : ∀ m ∈ d.models, m.RelationsAreNoIds) (kept : m ∈ d.kept excluded)
    (relation : f.isRelation = true) (stays : f.leadsInto (d.gone excluded) = false) :
    (ctx.without (d.gone excluded)).relationship? (m.without (d.gone excluded)) f = ctx.relationship? m f := by
  have stays : (d.gone excluded).contains f.type = false := by simpa [Field.leadsInto, relation] using stays
  have noIdsHere := noIds m (List.mem_of_mem_filter kept)
  rw [relationship?, relationship?, built.model?_without stays, Run.check_map, bind_map_left]
  cases looked : ctx.model? f.type with
  | error misuse => rfl
  | ok found =>
    cases found with
    | none => rfl
    | some target =>
      have found := (model?_eq_ok.1 looked).2
      have indexed := List.mem_of_find?_eq_some found
      have named := List.find?_some found
      have here := built.isExcluded_stays stays indexed named
      have noIdsThere := noIds target (built.sublist.subset indexed)
      simp only [Run.check_ok_bind, Option.map_some, Model.name_without, isExcluded_without, here,
        Field.backReference?_without (Datamodel.not_gone_kept kept), toMany_without _ ctx f noIdsHere,
        toOne_without _ ctx f noIdsHere noIdsThere, throughJoin_without _ ctx f noIdsHere noIdsThere]

theorem relationshipsOf_without (noIds : ∀ m ∈ d.models, m.RelationsAreNoIds) (kept : m ∈ d.kept excluded)
    {fields : List Field} (fit : ∀ f ∈ fields, f.isRelation = true ∧ f.type.kind = .string) :
    ((ctx.without (d.gone excluded)).relationshipsOf (m.without (d.gone excluded))
      (fields.filter (!·.leadsInto (d.gone excluded)))).result = (ctx.relationshipsOf m fields).result := by
  induction fields with
  | nil => rfl
  | cons f rest ih =>
    rw [List.forall_mem_cons] at fit
    have ih := ih fit.2
    by_cases leads : f.leadsInto (d.gone excluded) = true
    · rw [List.filter_cons_of_neg (by simp [leads]), ih, relationshipsOf, Run.result_bind,
        built.relationship?_gone fit.1.2 leads]
      rfl
    · have stays : f.leadsInto (d.gone excluded) = false := by simpa using leads
      rw [List.filter_cons_of_pos (by simp [stays]), relationshipsOf, relationshipsOf,
        built.relationship?_without noIds kept fit.1.1 stays, Run.result_bind, Run.result_bind]
      refine bind_congr fun outcome => ?_
      cases outcome with
      | none => exact ih
      | some r => simp only [Run.result_bind, ih]

theorem relationships_without (noIds : ∀ m ∈ d.models, m.RelationsAreNoIds) (named : d.Named)
    (kept : m ∈ d.kept excluded) :
    ((ctx.without (d.gone excluded)).relationships (m.without (d.gone excluded))).result =
      (ctx.relationships m).result := by
  have member := List.mem_of_mem_filter kept
  have fit : ∀ f ∈ m.relationFields, f.isRelation = true ∧ f.type.kind = .string := by
    intro f relation
    obtain ⟨field, relation⟩ := List.mem_filter.1 relation
    exact ⟨relation, (named.fields m member f field).2⟩
  rw [relationships, relationships, Model.relationFields_without, Run.result_bind, Run.result_bind,
    built.relationshipsOf_without noIds kept fit]

theorem table_without (noIds : ∀ m ∈ d.models, m.RelationsAreNoIds) (named : d.Named) (kept : m ∈ d.kept excluded) :
    ((ctx.without (d.gone excluded)).table (m.without (d.gone excluded))).result = (ctx.table m).result := by
  have table (naming : Naming) : naming.resolveTable (m.without (d.gone excluded)) = naming.resolveTable m := rfl
  simp only [Context.table, naming_without, table, Model.name_without, Model.columns_without,
    primaryKey_without _ ctx (noIds m (List.mem_of_mem_filter kept)), Run.result_bind,
    built.relationships_without noIds named kept]

end Built

end Context

namespace JoinTable

variable {d : Datamodel} {naming : Naming} {excluded : List Json} {ctx : Context} {m model other : Model} {f : Field}

theorem table_without (gone : List Json) (noIds : model.RelationsAreNoIds) (noIdsOther : other.RelationsAreNoIds)
    (relation : Json) :
    table (ctx.without gone) (model.without gone) (other.without gone) relation = table ctx model other relation := by
  have pair (swapped : Bool) :
      (if swapped then (other.without gone, model.without gone) else (model.without gone, other.without gone)) =
        Prod.map (Model.without gone) (Model.without gone) (if swapped then (other, model) else (model, other)) := by
    cases swapped <;> rfl
  have noIdsPair (swapped : Bool) : (if swapped then (other, model) else (model, other)).1.RelationsAreNoIds ∧
      (if swapped then (other, model) else (model, other)).2.RelationsAreNoIds := by
    cases swapped with
    | true => exact ⟨noIdsOther, noIds⟩
    | false => exact ⟨noIds, noIdsOther⟩
  simp only [table, Model.name_without, Context.naming_without, pair, Prod.map]
  refine bind_congr fun join => bind_congr fun swapped => ?_
  rw [identity_without gone (noIdsPair swapped).1, identity_without gone (noIdsPair swapped).2]
  rfl

def Plan.without (gone : List Json) (p : Plan) : Plan :=
  { p with model := p.model.without gone, other := p.other.without gone }

theorem plan?_gone (built : ctx.Built d naming excluded) (text : f.type.kind = .string)
    (leads : f.leadsInto (d.gone excluded) = true) : plan? ctx m f = .ok none := by
  obtain ⟨target, looked, dropped⟩ :=
    built.model?_gone (Json.canBeKey_of_kind text) (Bool.and_eq_true_iff.1 leads).2
  rw [plan?, looked]
  split
  · rfl
  · simp [bind, Except.bind, dropped, pure, Except.pure]

theorem plan?_without (built : ctx.Built d naming excluded) (kept : m ∈ d.kept excluded)
    (relation : f.isRelation = true) (stays : f.leadsInto (d.gone excluded) = false) :
    plan? (ctx.without (d.gone excluded)) (m.without (d.gone excluded)) f =
      Option.map (Plan.without (d.gone excluded)) <$> plan? ctx m f := by
  have stays : (d.gone excluded).contains f.type = false := by simpa [Field.leadsInto, relation] using stays
  rw [plan?, plan?, built.model?_without stays]
  split
  · rfl
  cases looked : ctx.model? f.type with
  | error misuse => rfl
  | ok found =>
    cases found with
    | none => rfl
    | some target =>
      have found := (Context.model?_eq_ok.1 looked).2
      have named := List.find?_some found
      have here := built.isExcluded_stays stays (List.mem_of_find?_eq_some found) named
      have back := f.backReference?_without (Datamodel.not_gone_kept kept) target
      simp only [map_ok, ok_bind, map_bind, Option.map_some, Model.name_without, Context.isExcluded_without, here, back,
        Bool.false_eq_true, if_false]
      refine bind_congr fun later => ?_
      cases later with
      | true => rfl
      | false =>
        cases (f.backReference? m target).filter (·.isList.holds) with
        | none => rfl
        | some back =>
          simp only [Bool.false_eq_true, if_false, map_bind, map_pure]
          rfl

theorem tablesOf_without (built : ctx.Built d naming excluded) (noIds : ∀ m ∈ d.models, m.RelationsAreNoIds)
    {rows : List (Model × Field)} (fit : ∀ row ∈ rows, row.1 ∈ d.kept excluded ∧ row.2.isRelation = true ∧
      row.2.type.kind = .string) (seen : List Plan) :
    (tablesOf (ctx.without (d.gone excluded)) (seen.map (Plan.without (d.gone excluded)))
      ((rows.filter (!·.2.leadsInto (d.gone excluded))).map fun row =>
        (row.1.without (d.gone excluded), row.2))).result = (tablesOf ctx seen rows).result := by
  induction rows generalizing seen with
  | nil => rfl
  | cons row rest ih =>
    obtain ⟨m, f⟩ := row
    rw [List.forall_mem_cons] at fit
    obtain ⟨⟨kept, relation, text⟩, fit⟩ := fit
    have ih := ih fit
    by_cases leads : f.leadsInto (d.gone excluded) = true
    · -- The row is deleted on one side and plans nothing on the other.
      rw [List.filter_cons_of_neg (by simp [leads]), ih seen, tablesOf, plan?_gone built text leads,
        Run.check_ok_bind]
    · have stays : f.leadsInto (d.gone excluded) = false := by simpa using leads
      rw [List.filter_cons_of_pos (by simp [stays]), List.map_cons, tablesOf, tablesOf,
        plan?_without built kept relation stays, Run.check_map, bind_map_left]
      cases planned : plan? ctx m f with
      | error misuse => rfl
      | ok plan =>
        rw [Run.check_ok_bind, Run.check_ok_bind]
        cases plan with
        | none => exact ih seen
        | some p =>
          obtain ⟨target, back, calls⟩ := plan?_eq_ok.1 planned
          have keptTarget := (built.kept_of_model? calls.looked calls.here).1
          have noIdsModel : p.model.RelationsAreNoIds := by
            rw [calls.plan_eq]
            exact noIds m (List.mem_of_mem_filter kept)
          have noIdsOther : p.other.RelationsAreNoIds := by
            rw [calls.plan_eq]
            exact noIds target (List.mem_of_mem_filter keptTarget)
          have known : (seen.map (Plan.without (d.gone excluded))).any (p.without (d.gone excluded)).isSame =
              seen.any p.isSame := by
            rw [List.any_map]
            rfl
          have later := ih (p :: seen)
          rw [List.map_cons] at later
          simp only [Option.map_some, known]
          split
          · exact ih seen
          · simp only [Run.result_bind, later]
            rw [Plan.without, table_without _ noIdsModel noIdsOther]

theorem tables_without (built : ctx.Built d naming excluded) (noIds : ∀ m ∈ d.models, m.RelationsAreNoIds)
    (named : d.Named) :
    (tables (ctx.without (d.gone excluded)) ((d.kept excluded).map (Model.without (d.gone excluded)))).result =
      (tables ctx (d.kept excluded)).result := by
  have rows : (((d.kept excluded).map (Model.without (d.gone excluded))).flatMap fun m => m.relationFields.map (m, ·)) =
      (((d.kept excluded).flatMap fun m => m.relationFields.map (m, ·)).filter
        (!·.2.leadsInto (d.gone excluded))).map fun row => (row.1.without (d.gone excluded), row.2) := by
    simp only [List.flatMap_map, List.filter_flatMap, List.map_flatMap, Model.relationFields_without, List.filter_map,
      List.map_map]
    rfl
  rw [tables, tables, rows]
  refine tablesOf_without built noIds ?_ []
  rintro ⟨m, f⟩ row
  obtain ⟨kept, relation⟩ := Model.mem_relationRows.1 row
  obtain ⟨field, relation⟩ := List.mem_filter.1 relation
  exact ⟨kept, relation, (named.fields m (List.mem_of_mem_filter kept) f field).2⟩

end JoinTable

namespace Context

variable {excluded : List Json}

theorem any_keptOf {m : Model} (here : excluded.contains m.name = false) (models : List Model) :
    (keptOf excluded models).any (·.name == m.name) = models.any (·.name == m.name) := by
  induction models with
  | nil => rfl
  | cons n rest ih =>
    cases dropped : excluded.contains n.name with
    | true =>
      rw [keptOf_cons_of_excluded dropped, ih, List.any_cons, excluded_ne_kept dropped here, Bool.false_or]
    | false => rw [keptOf_cons_of_kept dropped, List.any_cons, List.any_cons, ih]

theorem indexFrom_without (gone : List Json) {models : List Model} (texts : ∀ m ∈ models, m.name.kind = .string)
    (seen : List Model) :
    indexFrom [] ((keptOf excluded seen).map (Model.without gone)) ((keptOf excluded models).map (Model.without gone)) =
      (fun index => (keptOf excluded index).map (Model.without gone)) <$> indexFrom excluded seen models := by
  induction models generalizing seen with
  | nil =>
    have reversed : keptOf excluded seen.reverse = (keptOf excluded seen).reverse := List.filter_reverse ..
    rw [indexFrom, map_ok, reversed, List.map_reverse]
    rfl
  | cons m rest ih =>
    rw [List.forall_mem_cons] at texts
    have usable := Json.canBeKey_of_kind texts.1
    have ih := ih texts.2
    cases dropped : excluded.contains m.name with
    | true =>
      -- Whether or not its name was seen before, the model leaves no trace on the other side.
      rw [keptOf_cons_of_excluded dropped, indexFrom, usable, dropped]
      split
      · contradiction
      · split
        · exact ih seen
        · rw [← ih (m :: seen), keptOf_cons_of_excluded dropped]
    | false =>
      have known : ((keptOf excluded seen).map (Model.without gone)).any (·.name == m.name) =
          seen.any (·.name == m.name) := by
        rw [List.any_map, ← any_keptOf dropped]
        rfl
      rw [keptOf_cons_of_kept dropped, List.map_cons, indexFrom, indexFrom, Model.name_without, usable, known, dropped]
      split
      · contradiction
      · split
        · rfl
        · rw [← ih (m :: seen), keptOf_cons_of_kept dropped]
          rfl

end Context

namespace Datamodel

variable {d : Datamodel} {excluded : List Json}

theorem kept_without : (d.without excluded).kept [] = (d.kept excluded).map (Model.without (d.gone excluded)) :=
  List.filter_eq_self.2 fun _ _ => rfl

theorem build_without (named : d.Named) (texts : ∀ name ∈ excluded, name.kind = .string) (naming : Naming) :
    (Context.build (d.without excluded) naming []).result =
      Context.without (d.gone excluded) <$> (Context.build d naming excluded).result := by
  have indexed : Context.indexFrom [] [] (d.without excluded).models =
      (fun index => (Context.keptOf excluded index).map (Model.without (d.gone excluded))) <$>
        Context.indexFrom excluded [] d.models :=
    Context.indexFrom_without (d.gone excluded) named.models []
  have kept : Context.keptOf [] (d.without excluded).models =
      (Context.keptOf excluded d.models).map (Model.without (d.gone excluded)) :=
    kept_without
  have warned (models : List Model) : (Context.warnUnknown [] models).result = .ok () :=
    Context.result_warnUnknown (by simp) models
  simp only [Context.build, Run.result_bind, Run.result_lift, Run.result_mapM, Run.result_pure, indexed, kept, warned,
    Context.result_warnUnknown texts, bind_map_left, map_bind, List.mapM_map, Function.comp_def,
    Model.columnKeys_without, Model.name_without, ok_bind]
  rfl

/-- Leaving models out gives the outcome of the datamodel that never had them. -/
theorem toSchema_without (named : d.Named) (noIds : ∀ m ∈ d.models, m.RelationsAreNoIds)
    (texts : ∀ name ∈ excluded, name.kind = .string) (naming : Naming) :
    (d.toSchema naming excluded).result = ((d.without excluded).toSchema naming []).result := by
  simp only [toSchema, Run.result_bind, Run.result_pure, Run.result_forM_log, Run.result_mapM, ok_bind, kept_without,
    build_without named texts, bind_map_left, List.mapM_map, Function.comp_def]
  cases built : (Context.build d naming excluded).result with
  | error failure => rfl
  | ok ctx =>
    have built := Context.build_ok built
    have tables : ((d.kept excluded).mapM fun m => (ctx.table m).result) = (d.kept excluded).mapM fun m =>
        ((ctx.without (d.gone excluded)).table (m.without (d.gone excluded))).result :=
      mapM_congr fun m kept => (built.table_without noIds named kept).symm
    simp only [ok_bind, tables, JoinTable.tables_without built noIds named]
    rfl

end Datamodel

namespace Sample

theorem retired_without : retired.Named ∧ (∀ m ∈ retired.models, m.RelationsAreNoIds) ∧
    (∀ name ∈ [Json.str "tag", .str "ghost"], name.kind = .string) ∧
    (retired.toSchema ⟨true, true⟩ [.str "tag", .str "ghost"]).result.isOk = true ∧
    (retired.toSchema ⟨true, true⟩ [.str "tag", .str "ghost"]).result =
      ((retired.without [.str "tag", .str "ghost"]).toSchema ⟨true, true⟩ []).result := by
  have named : retired.Named := by decide +kernel
  have noIds : ∀ m ∈ retired.models, m.RelationsAreNoIds := by decide +kernel
  have texts : ∀ name ∈ [Json.str "tag", .str "ghost"], name.kind = .string := by decide
  exact ⟨named, noIds, texts, by decide +kernel, Datamodel.toSchema_without named noIds texts ⟨true, true⟩⟩

end Sample

end SyncSchema

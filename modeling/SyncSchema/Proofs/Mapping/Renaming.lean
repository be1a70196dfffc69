import SyncSchema.Proofs.Mapping.Shape
import SyncSchema.Proofs.Mapping.TableNames

namespace SyncSchema
open Outcome

def Field.sourceName (f : Field) : Json :=
  f.mappedName.orElse f.name

/-- A name of a column field leads to its key; any other name stays as it is. -/
def Model.rename (m : Model) (naming : Naming) (name : Json) : Json :=
  ((m.columnFields.find? (·.name == name)).map naming.keyOf).getD name

def Link.renamed (here there : Json → Json) (link : Link) : Link :=
  { link with source := link.source.map here, dest := link.dest.map there }

/-- Both ends renamed. What lies between the links of a chain are columns of a join table. -/
def Relationship.renamed (here there : Json → Json) (r : Relationship) : Relationship :=
  { r with
    route := match r.route with
      | .direct link => .direct (link.renamed here there)
      | .chain first second => .chain (first.renamed here id) (second.renamed id there) }

def Column.rekeyed (c : Column) (old new : Json) : Column :=
  if new == old then c else { c with storedAs := some old }

def Context.RelatesAs (ctx : Context) (naming : Naming) (m : Model) (models : List Model) (name : Json)
    (r r' : Relationship) : Prop :=
  ∃ f ∈ m.relationFields, (f.name == name) = true ∧ (ctx.relationship? m f).result = .ok (some r) ∧
    ∃ target ∈ models, (target.name == f.type) = true ∧ r' = r.renamed (m.rename naming) (target.rename naming)

structure Table.Renamed (t' t : Table) (ctx : Context) (naming : Naming) (m : Model) (models : List Model) : Prop where
  names : t'.name = t.name ∧ t'.storedAs = t.storedAs ∧ t'.model = t.model ∧ t'.constant = t.constant
  columns : t'.columns = t.columns.map fun entry =>
    (m.rename naming entry.1, entry.2.rekeyed entry.1 (m.rename naming entry.1))
  primaryKey : t'.primaryKey = t.primaryKey.map (m.rename naming)
  relationships : List.Forall₂ (fun entry entry' => entry'.1 = entry.1 ∧
    ctx.RelatesAs naming m models entry.1 entry.2 entry'.2) t.relationships t'.relationships

def Table.JoinRenamed (t' t : Table) (naming : Naming) (p : JoinTable.Plan) : Prop :=
  ∃ linkA linkB,
    t.relationships = [(.str "modelA", ⟨.one, .direct linkA⟩), (.str "modelB", ⟨.one, .direct linkB⟩)] ∧
    t' = { t with
      relationships := [
        (.str "modelA", ⟨.one, .direct (linkA.renamed id (p.model.rename naming))⟩),
        (.str "modelB", ⟨.one, .direct (linkB.renamed id (p.other.rename naming))⟩)] }

/-- The schema `s'` is `s` with the columns of every model renamed. -/
def Datamodel.Renames (d : Datamodel) (excluded : List Json) (naming naming' : Naming) (s s' : Schema) : Prop :=
  ∃ ctx own own' joins joins' plans, (Context.build d naming excluded).result = .ok ctx ∧
    d.joinPlans ctx excluded = .ok plans ∧
    s.tables = own ++ joins ∧ s'.tables = own' ++ joins' ∧ s'.enums = s.enums ∧
    own.length = (d.kept excluded).length ∧ joins.length = plans.length ∧
    List.Forall₂ (fun row t' => t'.Renamed row.2 ctx naming' row.1 (d.kept excluded))
      ((d.kept excluded).zip own) own' ∧
    List.Forall₂ (fun row t' => t'.JoinRenamed row.2 naming' row.1) (plans.zip joins) joins'

/-- The names that the database has for a table and its columns are still there. -/
structure Table.TracesTo (t : Table) (m : Model) : Prop where
  columns : List.Forall₂ (fun f entry => entry.2.storedAs.getD entry.1 = f.sourceName) m.columnFields t.columns
  table : t.storedAs.getD t.name = m.sourceName

namespace Naming

variable {naming : Naming} {f : Field} {source key : Json} {storedAs : Option Json}

theorem keyOf_unmapped (asked : Bool) : Naming.keyOf ⟨asked, false⟩ = Field.name := by
  funext f
  by_cases mapped : f.mappedName.isGiven = true
  · exact keyOf_eq (by rw [resolveColumn, if_pos mapped]; rfl)
  · have same : Naming.resolveColumn ⟨asked, false⟩ f = .ok (f.name, none) := by
      rw [resolveColumn, if_neg mapped]
      simp [columnName, remap, renamed, pure, Except.pure, bind, Except.bind]
    exact keyOf_eq same

theorem getD_renamed (old new : Json) : (renamed old new).2.getD (renamed old new).1 = old := by
  rw [renamed]
  split <;> rfl

theorem getD_resolveTableName (resolved : naming.resolveTableName source = .ok (key, storedAs)) :
    storedAs.getD key = source := by
  rw [resolveTableName, bind_eq_ok] at resolved
  obtain ⟨new, -, entry⟩ := resolved
  rw [pure_eq_ok] at entry
  have traced := getD_renamed source new
  rwa [entry] at traced

theorem getD_resolveColumn (text : f.name.kind = .string)
    (resolved : naming.resolveColumn f = .ok (key, storedAs)) : storedAs.getD key = f.sourceName := by
  rw [resolveColumn] at resolved
  rw [Field.sourceName, Json.orElse]
  split at resolved
  · rename_i mapped
    rw [if_pos mapped]
    rw [pure_eq_ok, Prod.mk.injEq] at resolved
    obtain ⟨rfl, rfl⟩ := resolved
    split
    · rename_i same
      obtain ⟨s, named⟩ := Json.eq_str_of_kind text
      rw [named] at same
      rw [Option.getD_none, named, Json.eq_str_of_beq same]
    · rfl
  · rename_i unmapped
    rw [if_neg unmapped]
    rw [bind_eq_ok] at resolved
    obtain ⟨new, -, entry⟩ := resolved
    rw [pure_eq_ok] at entry
    have traced := getD_renamed f.name new
    rwa [entry] at traced

theorem resolveColumn_rekeyed {asked asked' : Bool} {key' : Json} {storedAs' : Option Json}
    (resolved : Naming.resolveColumn ⟨asked, false⟩ f = .ok (key, storedAs))
    (resolved' : Naming.resolveColumn ⟨asked', true⟩ f = .ok (key', storedAs')) :
    storedAs' = if key' == key then storedAs else some key := by
  rw [resolveColumn] at resolved resolved'
  split at resolved
  · rename_i mapped
    rw [if_pos mapped] at resolved'
    cases resolved.symm.trans resolved'
    rw [if_pos BEq.rfl]
  · rename_i unmapped
    rw [if_neg unmapped] at resolved'
    simp only [columnName, remap, Bool.false_eq_true, if_false, bind_eq_ok, pure_eq_ok, exists_eq_left', renamed,
      BEq.rfl, if_true, Prod.mk.injEq] at resolved resolved'
    obtain ⟨rfl, rfl⟩ := resolved
    obtain ⟨new, -, entry⟩ := resolved'
    split at entry
    · cases entry
      rw [if_pos BEq.rfl]
    · rename_i differs
      cases entry
      rw [if_neg differs]

end Naming

namespace Context

variable {d : Datamodel} {asked : Bool} {naming : Naming} {excluded : List Json} {ctx ctx' : Context}
  {m target : Model} {f : Field} {t t' : Table} {r : Relationship} {here there : Json → Json}

theorem Built.columnKey_rename (built : ctx.Built d naming excluded) (kept : m ∈ d.kept excluded)
    (distinct : Distinct Field.name m.columnFields) (name : Json) : ctx.columnKey m.name name = m.rename naming name := by
  have table : m.keyTable naming = m.columnFields.map fun f => (f.name, naming.keyOf f) :=
    Entries.ofList_eq_self (Distinct.map_iff.2 distinct)
  rw [built.columnKey_eq kept, table, Entries.get?, List.find?_map, Model.rename, Option.map_map]
  rfl

theorem Built.distinct_columns (built : ctx.Built d ⟨asked, false⟩ excluded) (kept : m ∈ d.kept excluded) :
    Distinct Field.name m.columnFields := by
  have distinct := (built.fit m kept).distinct
  rwa [Naming.keyOf_unmapped] at distinct

theorem Built.columnKey_unmapped (built : ctx.Built d ⟨asked, false⟩ excluded) (texts : d.Texts)
    (kept : m ∈ d.kept excluded) (name : Json) : ctx.columnKey m.name name = name := by
  rw [built.columnKey_rename kept (built.distinct_columns kept), Model.rename, Naming.keyOf_unmapped]
  cases found : m.columnFields.find? (·.name == name) with
  | none => rfl
  | some f =>
    have same := List.find?_some found
    have column := List.mem_of_find?_eq_some found
    have text := (texts.fields m (List.mem_of_mem_filter kept) f (List.mem_of_mem_filter column)).1
    obtain ⟨s, named⟩ := Json.eq_str_of_kind text
    rw [named] at same
    rw [Option.map_some, Option.getD_some, named, Json.eq_str_of_beq (BEq.symm same)]

theorem Built.columns_renamed (built : ctx.Built d ⟨asked, false⟩ excluded) (kept : m ∈ d.kept excluded)
    (shows : t.Shows m ⟨asked, false⟩ (d.kept excluded)) (shows' : t'.Shows m ⟨asked, true⟩ (d.kept excluded)) :
    t'.columns = t.columns.map fun entry =>
      (m.rename ⟨asked, true⟩ entry.1, entry.2.rekeyed entry.1 (m.rename ⟨asked, true⟩ entry.1)) := by
  have pairs : List.Forall₂ (fun entry entry' : Json × Column => entry' =
      (m.rename ⟨asked, true⟩ entry.1, entry.2.rekeyed entry.1 (m.rename ⟨asked, true⟩ entry.1)))
      t.columns t'.columns := by
    refine forall₂_of_forall₂ shows.columns shows'.columns ?_
    rintro f column ⟨key, type, single, stored⟩ ⟨key', type', single', stored'⟩ ⟨resolved, made⟩ ⟨resolved', made'⟩
    dsimp only at resolved resolved' made made'
    have name := Naming.keyOf_eq resolved
    rw [Naming.keyOf_unmapped] at name
    have renamed : m.rename ⟨asked, true⟩ key = key' := by
      rw [Model.rename, ← name, (built.distinct_columns kept).find?_eq column BEq.rfl, Option.map_some,
        Option.getD_some, Naming.keyOf_eq resolved']
    have rekeyed := Naming.resolveColumn_rekeyed resolved resolved'
    simp only [Field.column, Run.result_bind, Run.result_pure, bind_eq_ok, Except.ok.injEq, Column.mk.injEq]
      at made made'
    obtain ⟨found, typed, rfl, rfl, -⟩ := made
    obtain ⟨found', typed', rfl, rfl, -⟩ := made'
    cases typed.symm.trans typed'
    rw [renamed, Column.rekeyed, rekeyed]
    split <;> rfl
  simpa using map_eq_of_forall₂ pairs fun _ _ same => same

structure Rekeys (ctx ctx' : Context) (m : Model) (rename : Json → Json) : Prop where
  before : ∀ name, ctx.columnKey m.name name = name
  after : ∀ name, ctx'.columnKey m.name name = rename name

theorem Links.renamed {sources dests : List Json} {link : Link} (links : ctx.Links m target sources dests link)
    (own : Rekeys ctx ctx' m here) (other : Rekeys ctx ctx' target there) :
    ctx'.Links m target sources dests (link.renamed here there) where
  source_eq := by
    rw [Link.renamed, links.source_eq, List.map_map]
    exact List.map_congr_left fun name _ => by rw [Function.comp, own.before, own.after]
  dest_eq := by
    rw [Link.renamed, links.dest_eq, List.map_map]
    exact List.map_congr_left fun name _ => by rw [Function.comp, other.before, other.after]
  nonempty := links.nonempty
  even := links.even
  constant := links.constant
  usable := links.usable

theorem Resolves.renamed (resolves : ctx.Resolves m f target r) (own : Rekeys ctx ctx' m here)
    (other : Rekeys ctx ctx' target there) : ctx'.Resolves m f target (r.renamed here there) := by
  cases resolves with
  | toMany list found single foreign links => exact .toMany list found single foreign (links.renamed own other)
  | toOneHere single foreign links => exact .toOneHere single foreign (links.renamed own other)
  | toOneThere single found absent foreign links =>
    exact .toOneThere single found absent foreign (links.renamed own other)
  | through list found lists named source dest side usable constants =>
    have resolves' : ctx'.Resolves m f target _ :=
      .through list found lists named source dest side usable constants
    rw [own.after, other.after] at resolves'
    simpa [Relationship.renamed, Link.renamed, own.before, other.before] using resolves'

namespace Built

variable (built : ctx.Built d ⟨asked, false⟩ excluded) (built' : ctx'.Built d ⟨asked, true⟩ excluded) (texts : d.Texts)
include built built' texts

theorem rekeys (kept : m ∈ d.kept excluded) : Rekeys ctx ctx' m (m.rename ⟨asked, true⟩) where
  before := built.columnKey_unmapped texts kept
  after := built'.columnKey_rename kept (built.distinct_columns kept)

theorem relationship?_renamed (kept : m ∈ d.kept excluded)
    (ok : (ctx.relationship? m f).result = .ok (some r)) :
    ∃ target ∈ d.kept excluded, (target.name == f.type) = true ∧ (ctx'.relationship? m f).result =
      .ok (some (r.renamed (m.rename ⟨asked, true⟩) (target.rename ⟨asked, true⟩))) := by
  obtain ⟨target, keptTarget, points, resolves⟩ := built.exists_resolves ok
  obtain ⟨found, looked, -⟩ := relationship?_eq_ok.1 ok
  have looked' := built'.model?_kept keptTarget (model?_eq_ok.1 looked).1 points
  refine ⟨target, keptTarget, points, relationship?_eq_ok.2 ⟨target, looked', ?_⟩⟩
  rw [if_neg (by simp [built'.isExcluded_kept keptTarget])]
  exact ⟨_, rfl, resolves.renamed (built.rekeys built' texts kept) (built.rekeys built' texts keptTarget)⟩

theorem relationships_renamed (kept : m ∈ d.kept excluded) {entries entries' : Entries Relationship}
    (ok : (ctx.relationships m).result = .ok entries) (ok' : (ctx'.relationships m).result = .ok entries') :
    List.Forall₂ (fun entry entry' => entry'.1 = entry.1 ∧
      ctx.RelatesAs ⟨asked, true⟩ m (d.kept excluded) entry.1 entry.2 entry'.2) entries entries' := by
  simp only [relationships, Run.result_bind, Run.result_pure, bind_eq_ok, Except.ok.injEq] at ok ok'
  obtain ⟨pairs, pairsOk, rfl⟩ := ok
  obtain ⟨pairs', pairsOk', rfl⟩ := ok'
  obtain ⟨found, all, rfl⟩ := relationshipsOf_ok pairsOk
  obtain ⟨found', all', rfl⟩ := relationshipsOf_ok pairsOk'
  refine Entries.forall₂_ofList ?_ ?_
  · rintro name name' r r' same ⟨f, relation, named, rest⟩
    exact ⟨f, relation, BEq.trans named same, rest⟩
  · refine forall₂_of_forall₂ (built.forall₂_shown all) (built'.forall₂_shown all') ?_
    rintro f field ⟨name, r⟩ ⟨name', r'⟩ ⟨rfl, resolved⟩ ⟨rfl, resolved'⟩
    obtain ⟨target, keptTarget, points, renamed⟩ := built.relationship?_renamed built' texts kept resolved
    cases renamed.symm.trans resolved'
    exact ⟨rfl, f, List.mem_of_mem_filter field, BEq.rfl, resolved, target, keptTarget, points, rfl⟩

theorem table_renamed (kept : m ∈ d.kept excluded) (tabled : ctx.Tabled m t) (tabled' : ctx'.Tabled m t') :
    t'.Renamed t ctx ⟨asked, true⟩ m (d.kept excluded) := by
  have model : t'.model = t.model := by
    have same := tabled.model_eq.symm.trans tabled'.model_eq
    exact (Json.str.inj same).symm
  have named : ctx'.naming.resolveTable m = ctx.naming.resolveTable m := by
    rw [built.naming_eq, built'.naming_eq]
    rfl
  rw [tabled.named, tabled'.named, Except.ok.injEq, Prod.mk.injEq] at named
  have rekeys := built.rekeys built' texts kept
  refine ⟨⟨named.1, named.2, model, by rw [tabled'.constant_eq, model, tabled.constant_eq]⟩,
    built.columns_renamed kept (built.table_shows kept tabled) (built'.table_shows kept tabled'), ?_,
    built.relationships_renamed built' texts kept tabled.relationships_ok tabled'.relationships_ok⟩
  rw [tabled.primaryKey_eq, tabled'.primaryKey_eq, List.map_map]
  exact List.map_congr_left fun name _ => by rw [Function.comp, rekeys.before, rekeys.after]

end Built

theorem Built.traces (built : ctx.Built d naming excluded) (texts : d.Texts) (kept : m ∈ d.kept excluded)
    (tabled : ctx.Tabled m t) : t.TracesTo m where
  columns := by
    have shows := (built.table_shows kept tabled).columns
    rw [List.forall₂_iff_zip] at shows ⊢
    refine ⟨shows.1, fun {f entry} row => ?_⟩
    have column := (List.of_mem_zip row).1
    have text := (texts.fields m (List.mem_of_mem_filter kept) f (List.mem_of_mem_filter column)).1
    exact Naming.getD_resolveColumn text (shows.2 row).1
  table := Naming.getD_resolveTableName tabled.named

theorem build_models (ok : (build d naming excluded).result = .ok ctx) :
    indexFrom excluded [] d.models = .ok ctx.models := by
  simp only [build, Run.result_bind, Run.result_lift, Run.result_mapM, Run.result_pure, bind_eq_ok] at ok
  obtain ⟨models, indexed, -, -, columnKeys, -, made⟩ := ok
  cases made
  exact indexed

end Context

namespace JoinTable

variable {d : Datamodel} {asked : Bool} {excluded : List Json} {ctx ctx' : Context} {t t' : Table}

theorem plansOf_renamed (models : ctx'.models = ctx.models) (same : ctx'.excluded = ctx.excluded) (seen : List Plan)
    (rows : List (Model × Field)) : plansOf ctx' seen rows = plansOf ctx seen rows := by
  induction rows generalizing seen with
  | nil => rfl
  | cons row rest ih =>
    have planned : plan? ctx' row.1 row.2 = plan? ctx row.1 row.2 := by
      cases ctx
      cases ctx'
      cases models
      cases same
      rfl
    rw [plansOf, plansOf, planned]
    simp only [ih]

theorem table_renamed (built : ctx.Built d ⟨asked, false⟩ excluded) (built' : ctx'.Built d ⟨asked, true⟩ excluded)
    (texts : d.Texts) {plans : List Plan} (planned : d.joinPlans ctx excluded = .ok plans) {p : Plan}
    (member : p ∈ plans) (made : (table ctx p.model p.other p.relation).result = .ok t)
    (made' : (table ctx' p.model p.other p.relation).result = .ok t') : t'.JoinRenamed t ⟨asked, true⟩ p := by
  have ordered := Datamodel.ordered_of_mem_joinPlans built planned member
  obtain ⟨kept, keptOther⟩ := Datamodel.mem_kept_of_joinPlans built planned member
  have rekeys := built.rekeys built' texts kept
  have rekeysOther := built.rekeys built' texts keptOther
  obtain ⟨_, _, idA, idB, joins⟩ := table_ok made
  obtain ⟨_, _, idA', idB', joins'⟩ := table_ok made'
  obtain ⟨rfl, rfl⟩ := joins.models_eq ordered
  obtain ⟨rfl, rfl⟩ := joins'.models_eq ordered
  cases joins.identityA.symm.trans joins'.identityA
  cases joins.identityB.symm.trans joins'.identityB
  have model : t'.model = t.model := (Except.ok.inj (joins.named.symm.trans joins'.named)).symm
  have named : ctx'.naming.resolveTableName (.str t'.model) = ctx.naming.resolveTableName (.str t.model) := by
    rw [built.naming_eq, built'.naming_eq, model]
    rfl
  rw [joins.resolved, joins'.resolved, Except.ok.injEq, Prod.mk.injEq] at named
  obtain ⟨typeA, typeB, typedA, typedB, columns⟩ := joins.columns_eq
  obtain ⟨typeA', typeB', typedA', typedB', columns'⟩ := joins'.columns_eq
  cases typedA.symm.trans typedA'
  cases typedB.symm.trans typedB'
  obtain ⟨constantA, constantB, namedA, namedB, relationships⟩ := joins.relationships_eq
  obtain ⟨constantA', constantB', namedA', namedB', relationships'⟩ := joins'.relationships_eq
  cases namedA.symm.trans namedA'
  cases namedB.symm.trans namedB'
  rw [rekeys.before, rekeysOther.before] at relationships
  rw [rekeys.after, rekeysOther.after] at relationships'
  refine ⟨_, _, relationships, ?_⟩
  have eta : t' = ⟨t'.name, t'.storedAs, t'.model, t'.constant, t'.columns, t'.primaryKey, t'.relationships⟩ := rfl
  rw [eta, named.1, named.2, model, joins'.constant_eq, model, ← joins.constant_eq, columns', ← columns,
    joins'.primaryKey_eq, ← joins.primaryKey_eq, relationships']
  rfl

end JoinTable

namespace Datamodel

variable {d : Datamodel} {excluded : List Json}

theorem renames_of_ok (texts : d.Texts) {asked : Bool} {s s' : Schema}
    (ok : (d.toSchema ⟨asked, false⟩ excluded).result = .ok s)
    (ok' : (d.toSchema ⟨asked, true⟩ excluded).result = .ok s') :
    d.Renames excluded ⟨asked, false⟩ ⟨asked, true⟩ s s' := by
  obtain ⟨ctx, own, joins, plans, ctxOk, rfl, tabled, planned, joined⟩ := toSchema_ok ok
  obtain ⟨ctx', own', joins', plans', ctxOk', rfl, tabled', planned', joined'⟩ := toSchema_ok ok'
  have built := Context.build_ok ctxOk
  have built' := Context.build_ok ctxOk'
  have models : ctx'.models = ctx.models :=
    Except.ok.inj ((Context.build_models ctxOk').symm.trans (Context.build_models ctxOk))
  have same : d.joinPlans ctx' excluded = d.joinPlans ctx excluded :=
    JoinTable.plansOf_renamed models (by rw [built.excluded_eq, built'.excluded_eq]) _ _
  cases planned.symm.trans (same.symm.trans planned')
  refine ⟨ctx, own, own', joins, joins', plans, ctxOk, planned, rfl, rfl, rfl, tabled.length_eq.symm,
    joined.length_eq.symm, ?_, ?_⟩
  · have renamed : ∀ m ∈ d.kept excluded, ∀ t t', (ctx.table m).result = .ok t → (ctx'.table m).result = .ok t' →
        t'.Renamed t ctx ⟨asked, true⟩ m (d.kept excluded) := fun m kept t t' made made' =>
      built.table_renamed built' texts kept (Context.table_ok made) (Context.table_ok made')
    exact forall₂_zip_of_forall₂ tabled tabled' renamed
  · have renamed : ∀ p ∈ plans, ∀ t t', (JoinTable.table ctx p.model p.other p.relation).result = .ok t →
        (JoinTable.table ctx' p.model p.other p.relation).result = .ok t' → t'.JoinRenamed t ⟨asked, true⟩ p :=
      fun p member t t' made made' => JoinTable.table_renamed built built' texts planned member made made'
    exact forall₂_zip_of_forall₂ joined joined' renamed

theorem traces_of_ok (texts : d.Texts) {naming : Naming} {s : Schema}
    (ok : (d.toSchema naming excluded).result = .ok s) :
    ∃ own joins, s.tables = own ++ joins ∧ List.Forall₂ (fun m t => t.TracesTo m) (d.kept excluded) own ∧
      ∀ t ∈ joins, t.storedAs.getD t.name = .str t.model := by
  obtain ⟨ctx, own, joins, plans, ctxOk, rfl, tabled, -, joined⟩ := toSchema_ok ok
  have built := Context.build_ok ctxOk
  refine ⟨own, joins, rfl, ?_, fun t member => ?_⟩
  · rw [List.forall₂_iff_zip]
    refine ⟨tabled.length_eq, fun row => ?_⟩
    exact built.traces texts (List.of_mem_zip row).1 (Context.table_ok (List.forall₂_zip tabled row))
  · obtain ⟨p, -, made⟩ := exists_item joined member
    obtain ⟨a, b, idA, idB, joins⟩ := JoinTable.table_ok made
    exact Naming.getD_resolveTableName joins.resolved

theorem toSchema_renamed (texts : d.Texts) :
    (∀ columns, Schema.untitled <$> (d.toSchema ⟨true, columns⟩ excluded).result =
      Schema.untitled <$> (d.toSchema ⟨false, columns⟩ excluded).result) ∧
    (∀ tables s s', (d.toSchema ⟨tables, false⟩ excluded).result = .ok s →
      (d.toSchema ⟨tables, true⟩ excluded).result = .ok s' →
      d.Renames excluded ⟨tables, false⟩ ⟨tables, true⟩ s s') ∧
    ∀ naming s, (d.toSchema naming excluded).result = .ok s →
      ∃ own joins, s.tables = own ++ joins ∧ List.Forall₂ (fun m t => t.TracesTo m) (d.kept excluded) own ∧
        ∀ t ∈ joins, t.storedAs.getD t.name = .str t.model :=
  ⟨fun columns => toSchema_untitled texts columns true false, fun _ _ _ ok ok' => renames_of_ok texts ok ok',
    fun _ _ ok => traces_of_ok texts ok⟩

end Datamodel

theorem Sample.blog_renamed : blog.Texts ∧
    ∃ s s', (blog.toSchema ⟨true, false⟩ []).result = .ok s ∧ (blog.toSchema ⟨true, true⟩ []).result = .ok s' ∧
      blog.Renames [] ⟨true, false⟩ ⟨true, true⟩ s s' := by
  have texts : blog.Texts := by decide +kernel
  have succeeds : (blog.toSchema ⟨true, false⟩ []).result.isOk = true := by decide +kernel
  obtain ⟨s, ok⟩ := exists_of_isOk succeeds
  obtain ⟨s', ok'⟩ := blog_toSchema
  exact ⟨texts, s, s', ok, ok', (Datamodel.toSchema_renamed texts).2.1 true s s' ok ok'⟩

end SyncSchema

import SyncSchema.Proofs.Mapping.Tables
import SyncSchema.Proofs.Samples

namespace SyncSchema
open Outcome

def Model.NamesColumn (m : Model) (name : Json) : Prop :=
  ∃ f ∈ m.columnFields, (f.name == name) = true

/-- Keys, ids and foreign keys of the kept models name columns, and their relations are named by text. -/
structure Datamodel.Proper (d : Datamodel) (excluded : List Json) : Prop where
  keys : ∀ m ∈ d.kept excluded, ∀ name ∈ m.keyFields, m.NamesColumn name
  ids : ∀ m ∈ d.kept excluded, ∀ f ∈ m.idField?, m.NamesColumn f.name
  relations : ∀ m ∈ d.kept excluded, ∀ f ∈ m.relationFields, f.relationName.kind = .string
  fromFields : ∀ m ∈ d.kept excluded, ∀ f ∈ m.relationFields, ∀ name ∈ f.fromFields, m.NamesColumn name
  toFields : ∀ m ∈ d.kept excluded, ∀ f ∈ m.relationFields, ∀ target ∈ d.kept excluded,
    (target.name == f.type) = true → ∀ name ∈ f.toFields, target.NamesColumn name

instance (m : Model) (name : Json) : Decidable (m.NamesColumn name) :=
  inferInstanceAs (Decidable (∃ f ∈ m.columnFields, _))

instance (d : Datamodel) (excluded : List Json) : Decidable (d.Proper excluded) :=
  decidable_of_iff (_ ∧ _ ∧ _ ∧ _ ∧ _)
    ⟨fun ⟨keys, ids, relations, fromFields, toFields⟩ => ⟨keys, ids, relations, fromFields, toFields⟩,
      fun ⟨keys, ids, relations, fromFields, toFields⟩ => ⟨keys, ids, relations, fromFields, toFields⟩⟩

def Table.keys (t : Table) : List Json :=
  t.columns.map Prod.fst

def Relationship.Within (r : Relationship) (t u : Table) : Prop :=
  match r.route with
  | .direct link => link.source ⊆ t.keys ∧ link.dest ⊆ u.keys ∧ link.target = u.constant
  | .chain first second => first.source ⊆ t.keys ∧
    (first.dest = [.str "A"] ∧ second.source = [.str "B"] ∨ first.dest = [.str "B"] ∧ second.source = [.str "A"]) ∧
    second.dest ⊆ u.keys ∧ second.target = u.constant

def Table.JoinsWithin (t tableA tableB : Table) : Prop :=
  t.keys = [.str "A", .str "B"] ∧ ∃ linkA linkB,
    t.relationships = [(.str "modelA", ⟨.one, .direct linkA⟩), (.str "modelB", ⟨.one, .direct linkB⟩)] ∧
    linkA.source = [.str "A"] ∧ linkA.dest ⊆ tableA.keys ∧ linkA.target = tableA.constant ∧
    linkB.source = [.str "B"] ∧ linkB.dest ⊆ tableB.keys ∧ linkB.target = tableB.constant

/-- Among the tables of the kept models and the join tables, every key is a column's. -/
structure Datamodel.KeysClosed (d : Datamodel) (excluded : List Json) (ctx : Context) (tables joins : List Table) :
    Prop where
  tabled : List.Forall₂ (fun m t => (ctx.table m).result = .ok t) (d.kept excluded) tables
  primaryKeys : ∀ t ∈ tables ++ joins, t.primaryKey ⊆ t.keys
  resolved : ∀ m ∈ d.kept excluded, ∀ t, (ctx.table m).result = .ok t →
    ∀ f ∈ m.relationFields, ∀ r, (ctx.relationship? m f).result = .ok (some r) →
      ∃ target ∈ d.kept excluded, (target.name == f.type) = true ∧
        ∃ u ∈ tables, (ctx.table target).result = .ok u ∧ r.Within t u
  entries : ∀ m ∈ d.kept excluded, ∀ t, (ctx.table m).result = .ok t → ∀ entry ∈ t.relationships,
    ∃ f ∈ m.relationFields, (f.name == entry.1) = true ∧ (ctx.relationship? m f).result = .ok (some entry.2)
  joined : ∀ t ∈ joins, ∃ a ∈ d.kept excluded, ∃ b ∈ d.kept excluded,
    ∃ tableA ∈ tables, ∃ tableB ∈ tables, (ctx.table a).result = .ok tableA ∧ (ctx.table b).result = .ok tableB ∧
      t.JoinsWithin tableA tableB

namespace Context

variable {d : Datamodel} {naming : Naming} {excluded : List Json} {ctx : Context} {m target : Model} {f : Field}
  {t u : Table}

theorem Built.columnKey_mem_keys (built : ctx.Built d naming excluded) (kept : m ∈ d.kept excluded)
    (tabled : ctx.Tabled m t) {name : Json} (named : m.NamesColumn name) :
    ctx.columnKey m.name name ∈ t.keys := by
  obtain ⟨f, column, same⟩ := named
  obtain ⟨g, column, -, key⟩ := built.columnKey_column kept column same
  have columns_ok := tabled.columns_ok
  rw [built.naming_eq] at columns_ok
  rw [Table.keys, Model.keys_columns (built.fit m kept) columns_ok, key]
  exact List.mem_map_of_mem column

theorem Built.map_columnKey_subset (built : ctx.Built d naming excluded) (kept : m ∈ d.kept excluded)
    (tabled : ctx.Tabled m t) {names : List Json} (named : ∀ name ∈ names, m.NamesColumn name) :
    names.map (ctx.columnKey m.name) ⊆ t.keys := by
  intro key member
  obtain ⟨name, known, rfl⟩ := List.mem_map.1 member
  exact built.columnKey_mem_keys kept tabled (named name known)

theorem keyOr_forall {p : Json → Prop} {names : List Json} (all : ∀ name ∈ names, p name)
    (keys : ∀ name ∈ m.keyFields, p name) : ∀ name ∈ keyOr names m, p name := by
  rw [keyOr]
  split
  · exact keys
  · exact all

theorem Resolves.within {r : Relationship} (resolves : ctx.Resolves m f target r)
    (built : ctx.Built d naming excluded) (proper : d.Proper excluded) (kept : m ∈ d.kept excluded)
    (relation : f ∈ m.relationFields) (keptTarget : target ∈ d.kept excluded)
    (points : (target.name == f.type) = true) (tabled : ctx.Tabled m t) (tabledTarget : ctx.Tabled target u) :
    r.Within t u := by
  have ends {sources dests : List Json} {link : Link} (links : ctx.Links m target sources dests link)
      (here : ∀ name ∈ sources, m.NamesColumn name) (there : ∀ name ∈ dests, target.NamesColumn name) :
      link.source ⊆ t.keys ∧ link.dest ⊆ u.keys ∧ link.target = u.constant := by
    rw [links.source_eq, links.dest_eq]
    exact ⟨built.map_columnKey_subset kept tabled here,
      built.map_columnKey_subset keptTarget tabledTarget there, tabledTarget.constant_unique links.constant⟩
  -- The field found on the target is held to the same references as `f`.
  have backs (back : Field) (found : f.backReference? m target = some back) :
      back ∈ target.relationFields ∧ (m.name == back.type) = true := by
    have completes := Field.backReference?_completes found
    obtain ⟨name, text⟩ := Json.eq_str_of_kind (proper.relations m kept f relation)
    exact ⟨(completes.relationField (Model.isRelation_of_mem relation) text).1, BEq.symm completes.type⟩
  cases resolves with
  | toMany list found single foreign links =>
    obtain ⟨back, -⟩ := backs _ found
    exact ends links (proper.keys m kept) (proper.fromFields target keptTarget _ back)
  | toOneHere single foreign links =>
    have toFields := proper.toFields m kept f relation target keptTarget points
    exact ends links (proper.fromFields m kept f relation)
      (keyOr_forall toFields (proper.keys target keptTarget))
  | toOneThere single found absent foreign links =>
    obtain ⟨back, pointsBack⟩ := backs _ found
    have toFields := proper.toFields target keptTarget _ back m kept pointsBack
    exact ends links (keyOr_forall toFields (proper.keys m kept))
      (proper.fromFields target keptTarget _ back)
  | @through _ sourceId targetId _ _ first list found lists named source dest side usable constants =>
    have here := built.columnKey_mem_keys kept tabled (proper.ids m kept sourceId source)
    have there := built.columnKey_mem_keys keptTarget tabledTarget (proper.ids target keptTarget targetId dest)
    refine ⟨by simpa using here, ?_, by simpa using there, tabledTarget.constant_unique constants⟩
    cases first with
    | true => exact .inl ⟨rfl, rfl⟩
    | false => exact .inr ⟨rfl, rfl⟩

theorem Built.joinsWithin (built : ctx.Built d naming excluded) (proper : d.Proper excluded)
    {model other a b : Model} {relation : Json} {idA idB : Field} {tableA tableB : Table}
    (joins : JoinTable.Joins ctx model other relation t a b idA idB) (keptA : a ∈ d.kept excluded)
    (keptB : b ∈ d.kept excluded) (tabledA : ctx.Tabled a tableA) (tabledB : ctx.Tabled b tableB) :
    t.JoinsWithin tableA tableB := by
  obtain ⟨typeA, typeB, -, -, columns⟩ := joins.columns_eq
  obtain ⟨constantA, constantB, namedA, namedB, relationships⟩ := joins.relationships_eq
  refine ⟨by rw [Table.keys, columns]; rfl, _, _, relationships, rfl, ?_, tabledA.constant_unique namedA, rfl, ?_,
    tabledB.constant_unique namedB⟩
  · simpa using built.columnKey_mem_keys keptA tabledA (proper.ids a keptA idA joins.identityA)
  · simpa using built.columnKey_mem_keys keptB tabledB (proper.ids b keptB idB joins.identityB)

end Context

theorem JoinTable.Joins.primaryKey_subset {ctx : Context} {model other a b : Model} {relation : Json} {t : Table}
    {idA idB : Field} (joins : Joins ctx model other relation t a b idA idB) : t.primaryKey ⊆ t.keys := by
  obtain ⟨typeA, typeB, -, -, columns⟩ := joins.columns_eq
  rw [joins.primaryKey_eq, Table.keys, columns]
  exact List.Subset.refl _

namespace Datamodel

variable {d : Datamodel} {naming : Naming} {excluded : List Json} {s : Schema} {ctx : Context} {tables : List Table}
  {m : Model} {f : Field} {t : Table}

theorem exists_within (built : ctx.Built d naming excluded) (proper : d.Proper excluded)
    (tabled : List.Forall₂ (fun m t => (ctx.table m).result = .ok t) (d.kept excluded) tables)
    (kept : m ∈ d.kept excluded) (made : (ctx.table m).result = .ok t) (relation : f ∈ m.relationFields)
    {r : Relationship} (resolved : (ctx.relationship? m f).result = .ok (some r)) :
    ∃ target ∈ d.kept excluded, (target.name == f.type) = true ∧
      ∃ u ∈ tables, (ctx.table target).result = .ok u ∧ r.Within t u := by
  obtain ⟨target, keptTarget, points, resolves⟩ := built.exists_resolves resolved
  obtain ⟨u, member, madeTarget⟩ := exists_result tabled keptTarget
  have within := resolves.within built proper kept relation keptTarget points (Context.table_ok made)
    (Context.table_ok madeTarget)
  exact ⟨target, keptTarget, points, u, member, madeTarget, within⟩

theorem exists_joinsWithin (built : ctx.Built d naming excluded) (proper : d.Proper excluded)
    (tabled : List.Forall₂ (fun m t => (ctx.table m).result = .ok t) (d.kept excluded) tables)
    {plans : List JoinTable.Plan} (planned : d.joinPlans ctx excluded = .ok plans) {p : JoinTable.Plan}
    (member : p ∈ plans) (made : (JoinTable.table ctx p.model p.other p.relation).result = .ok t) :
    ∃ a ∈ d.kept excluded, ∃ b ∈ d.kept excluded, ∃ tableA ∈ tables, ∃ tableB ∈ tables,
      (ctx.table a).result = .ok tableA ∧ (ctx.table b).result = .ok tableB ∧ t.JoinsWithin tableA tableB := by
  obtain ⟨keptModel, keptOther⟩ := mem_kept_of_joinPlans built planned member
  obtain ⟨a, b, idA, idB, joins⟩ := JoinTable.table_ok made
  obtain ⟨keptA, keptB⟩ := joins.both keptModel keptOther
  obtain ⟨tableA, memberA, madeA⟩ := exists_result tabled keptA
  obtain ⟨tableB, memberB, madeB⟩ := exists_result tabled keptB
  have within := built.joinsWithin proper joins keptA keptB (Context.table_ok madeA) (Context.table_ok madeB)
  exact ⟨a, keptA, b, keptB, tableA, memberA, tableB, memberB, madeA, madeB, within⟩

theorem toSchema_keysClosed (ok : (d.toSchema naming excluded).result = .ok s) (proper : d.Proper excluded) :
    ∃ ctx tables joins, (Context.build d naming excluded).result = .ok ctx ∧ s.tables = tables ++ joins ∧
      d.KeysClosed excluded ctx tables joins := by
  obtain ⟨ctx, tables, joins, plans, ctxOk, rfl, tabled, planned, joined⟩ := toSchema_ok ok
  have built := Context.build_ok ctxOk
  refine ⟨ctx, tables, joins, ctxOk, rfl, tabled, ?_, ?_, ?_, ?_⟩
  · intro t member
    rcases List.mem_append.1 member with table | join
    · obtain ⟨m, kept, made⟩ := exists_item tabled table
      have made := Context.table_ok made
      rw [made.primaryKey_eq]
      exact built.map_columnKey_subset kept made (proper.keys m kept)
    · obtain ⟨p, -, made⟩ := exists_item joined join
      obtain ⟨a, b, idA, idB, joins⟩ := JoinTable.table_ok made
      exact joins.primaryKey_subset
  · intro m kept t made f relation r resolved
    exact exists_within built proper tabled kept made relation resolved
  · intro m kept t made
    exact (Context.relationships_ok (Context.table_ok made).relationships_ok).2
  · intro t join
    obtain ⟨p, member, made⟩ := exists_item joined join
    exact exists_joinsWithin built proper tabled planned member made

theorem blog_keysClosed :
    ∃ s, (Sample.blog.toSchema ⟨true, true⟩ []).result = .ok s ∧ Sample.blog.Proper [] ∧
      ∃ ctx tables joins, (Context.build Sample.blog ⟨true, true⟩ []).result = .ok ctx ∧ s.tables = tables ++ joins ∧
        Sample.blog.KeysClosed [] ctx tables joins := by
  have proper : Sample.blog.Proper [] := by decide +kernel
  obtain ⟨s, ok⟩ := Sample.blog_toSchema
  exact ⟨s, ok, proper, toSchema_keysClosed ok proper⟩

end Datamodel

end SyncSchema

import SyncSchema.Proofs.Mapping.Context

namespace SyncSchema
open Outcome

def JoinTable.sides (first : Bool) : String × String :=
  if first then ("A", "B") else ("B", "A")

theorem JoinTable.identity_eq_ok {m : Model} {relation : Json} {f : Field} :
    identity m relation = .ok f ↔ m.idField? = some f := by
  cases h : m.idField? <;> simp [identity, h]

theorem Naming.constant?_eq_ok {name : Json} {constant : String} :
    Naming.constant? name = .ok constant ↔ ∃ s, name = .str s ∧ Naming.constant s = constant := by
  cases name <;> simp [Naming.constant?, Json.text?]

theorem Model.isRelation_of_mem {m : Model} {f : Field} (relation : f ∈ m.relationFields) : f.isRelation = true :=
  (List.mem_filter.1 relation).2

namespace Field

variable {f back : Field} {m target : Model}

structure Completes (back f : Field) (m target : Model) : Prop where
  member : back ∈ target.fields
  relation : (back.relationName == f.relationName) = true
  type : (back.type == m.name) = true
  other : (m.name == target.name) = true → (back.name == f.name) = false

theorem backReference?_completes (found : f.backReference? m target = some back) :
    back.Completes f m target := by
  have holds := List.find?_some found
  simp only [Bool.and_eq_true, Bool.not_eq_true', Bool.and_eq_false_imp] at holds
  exact ⟨List.mem_of_find?_eq_some found, holds.2.1, holds.2.2, holds.1⟩

theorem Completes.relationField (completes : back.Completes f m target) (relation : f.isRelation = true)
    {name : String} (text : f.relationName = .str name) :
    back ∈ target.relationFields ∧ back.relationName = .str name := by
  have same := completes.relation
  rw [text] at same
  have same := Json.eq_str_of_beq same
  refine ⟨List.mem_filter.2 ⟨completes.member, ?_⟩, same⟩
  rwa [isRelation, same, ← text, ← isRelation]

end Field

namespace Context

variable {ctx : Context} {m target : Model} {f : Field}

def keyOr (names : List Json) (m : Model) : List Json :=
  if names.isEmpty then m.keyFields else names

theorem keyFields_eq_ok {fields : List Json} :
    keyFields m = .ok fields ↔ m.keyFields ≠ [] ∧ fields = m.keyFields := by
  by_cases empty : m.keyFields = []
  · rw [keyFields, if_pos (by simp [empty])]
    simp [empty]
  · rw [keyFields, if_neg (by simp [empty])]
    simp [empty, eq_comm (a := fields)]

theorem namedOrKey_eq_ok {names fields : List Json} :
    namedOrKey names m = .ok fields ↔ keyOr names m ≠ [] ∧ fields = keyOr names m := by
  by_cases empty : names = []
  · simp [namedOrKey, keyOr, empty, keyFields_eq_ok]
  · simp [namedOrKey, keyOr, empty, eq_comm (a := fields)]

structure Links (ctx : Context) (m target : Model) (sources dests : List Json) (link : Link) : Prop where
  source_eq : link.source = sources.map (ctx.columnKey m.name)
  dest_eq : link.dest = dests.map (ctx.columnKey target.name)
  nonempty : sources ≠ []
  even : sources.length = dests.length
  constant : Naming.constant? target.name = .ok link.target
  usable : m.name.canBeKey = true ∧ ∀ field ∈ sources ++ dests, field.canBeKey = true

theorem directLink_eq_ok {sources dests : List Json} {link : Link} :
    ctx.directLink m target f sources dests = .ok link ↔ ctx.Links m target sources dests link := by
  obtain ⟨source, dest, constant⟩ := link
  simp only [directLink, bind_eq_ok, mapError_eq_ok, columnKeysOf_eq_ok]
  constructor
  · rintro ⟨_, ⟨usable, usables, rfl⟩, _, ⟨-, usables', rfl⟩, ok⟩
    split at ok
    · simp [throw_ne_ok, bind_eq_ok] at ok
    · rename_i fits
      simp only [bind_eq_ok, mapError_eq_ok, pure_eq_ok, Link.mk.injEq] at ok
      obtain ⟨_, named, rfl, rfl, rfl⟩ := ok
      simp only [List.isEmpty_map, Bool.or_eq_true, List.isEmpty_iff, List.length_map, bne_iff_ne,
        not_or, not_not] at fits
      exact ⟨rfl, rfl, fits.1, fits.2, named, usable, fun field member =>
        (List.mem_append.1 member).elim (usables field) (usables' field)⟩
  · rintro ⟨rfl, rfl, nonempty, even, named, usable, usables⟩
    obtain ⟨s, same, -⟩ := Naming.constant?_eq_ok.1 named
    refine ⟨_, ⟨usable, fun field member => usables field (by simp [member]), rfl⟩, _,
      ⟨by simp [same, Json.canBeKey], fun field member => usables field (by simp [member]), rfl⟩, ?_⟩
    rw [if_neg (by simp [nonempty, even])]
    simp [map_eq_ok, mapError_eq_ok, named]

/-- How a field that points at a kept model resolves. -/
inductive Resolves (ctx : Context) (m : Model) (f : Field) (target : Model) : Relationship → Prop
  | toMany {back : Field} {link : Link} (list : f.isList.holds = true)
      (found : f.backReference? m target = some back) (single : back.isList.holds = false)
      (foreign : back.fromFields ≠ []) (links : ctx.Links m target m.keyFields back.fromFields link) :
      Resolves ctx m f target ⟨.many, .direct link⟩
  | toOneHere {link : Link} (single : f.isList.holds = false) (foreign : f.fromFields ≠ [])
      (links : ctx.Links m target f.fromFields (keyOr f.toFields target) link) :
      Resolves ctx m f target ⟨.one, .direct link⟩
  | toOneThere {back : Field} {link : Link} (single : f.isList.holds = false)
      (found : f.backReference? m target = some back) (absent : f.fromFields = [])
      (foreign : back.fromFields ≠ []) (links : ctx.Links m target (keyOr back.toFields m) back.fromFields link) :
      Resolves ctx m f target ⟨.one, .direct link⟩
  | through {back sourceId targetId : Field} {join constant : String} {first : Bool}
      (list : f.isList.holds = true) (found : f.backReference? m target = some back)
      (lists : back.isList.holds = true)
      (named : JoinTable.name m.name target.name f.relationName = .ok join)
      (source : m.idField? = some sourceId) (dest : target.idField? = some targetId)
      (side : f.isFirstSide m target back = .ok first)
      (usable : m.name.canBeKey = true ∧ sourceId.name.canBeKey = true ∧ targetId.name.canBeKey = true)
      (constants : Naming.constant? target.name = .ok constant) :
      Resolves ctx m f target ⟨.many, .chain
        ⟨[ctx.columnKey m.name sourceId.name], [.str (JoinTable.sides first).1], Naming.constant join⟩
        ⟨[.str (JoinTable.sides first).2], [ctx.columnKey target.name targetId.name], constant⟩⟩

theorem toMany_eq_ok {back : Option Field} {r : Relationship} :
    ctx.toMany m target f back = .ok r ↔ ∃ b link, back = some b ∧ b.fromFields ≠ [] ∧
      ctx.Links m target m.keyFields b.fromFields link ∧ r = ⟨.many, .direct link⟩ := by
  cases back with
  | none => simp [toMany]
  | some b =>
    simp only [toMany]
    by_cases absent : b.fromFields = []
    · simp [absent]
    · simp only [List.isEmpty_iff, absent, if_false, bind_eq_ok, keyFields_eq_ok, pure_eq_ok, directLink_eq_ok]
      constructor
      · rintro ⟨_, ⟨-, rfl⟩, link, links, rfl⟩
        exact ⟨b, link, rfl, absent, links, rfl⟩
      · rintro ⟨_, link, ⟨⟩, -, links, rfl⟩
        exact ⟨_, ⟨links.nonempty, rfl⟩, link, links, rfl⟩

theorem toOne_eq_ok {back : Option Field} {r : Relationship} :
    ctx.toOne m target f back = .ok r ↔
      (∃ link, f.fromFields ≠ [] ∧ ctx.Links m target f.fromFields (keyOr f.toFields target) link ∧
        r = ⟨.one, .direct link⟩) ∨
      ∃ b link, back = some b ∧ f.fromFields = [] ∧ b.fromFields ≠ [] ∧
        ctx.Links m target (keyOr b.toFields m) b.fromFields link ∧ r = ⟨.one, .direct link⟩ := by
  by_cases absent : f.fromFields = []
  · rw [toOne, if_neg (by simp [absent])]
    cases back with
    | none => simp [absent, throw_ne_ok]
    | some b =>
      by_cases absent' : b.fromFields = []
      · rw [Option.filter_some_neg (by simp [absent'])]
        simp [absent, absent', throw_ne_ok]
      · rw [Option.filter_some_pos (by simp [absent'])]
        simp only [bind_eq_ok, namedOrKey_eq_ok, directLink_eq_ok, pure_eq_ok]
        constructor
        · rintro ⟨_, ⟨-, rfl⟩, link, links, rfl⟩
          exact .inr ⟨b, link, rfl, absent, absent', links, rfl⟩
        · rintro (⟨_, held, -⟩ | ⟨_, link, ⟨⟩, -, -, links, rfl⟩)
          · exact absurd absent held
          · exact ⟨_, ⟨links.nonempty, rfl⟩, link, links, rfl⟩
  · rw [toOne, if_pos (by simp [absent])]
    simp only [bind_eq_ok, namedOrKey_eq_ok, directLink_eq_ok, pure_eq_ok]
    constructor
    · rintro ⟨_, ⟨-, rfl⟩, link, links, rfl⟩
      exact .inl ⟨link, absent, links, rfl⟩
    · rintro (⟨link, -, links, rfl⟩ | ⟨_, _, -, empty, -⟩)
      · have present : keyOr f.toFields target ≠ [] := fun empty => links.nonempty
          (List.length_eq_zero_iff.1 (by rw [links.even, empty, List.length_nil]))
        exact ⟨_, ⟨present, rfl⟩, link, links, rfl⟩
      · exact absurd empty absent

theorem throughJoin_eq_ok {back : Field} {r : Relationship} :
    (ctx.throughJoin m target f back).result = .ok r ↔ ∃ join sourceId targetId first constant,
      JoinTable.name m.name target.name f.relationName = .ok join ∧ m.idField? = some sourceId ∧
      target.idField? = some targetId ∧ f.isFirstSide m target back = .ok first ∧
      Naming.constant? target.name = .ok constant ∧
      (m.name.canBeKey = true ∧ sourceId.name.canBeKey = true ∧ targetId.name.canBeKey = true) ∧
      r = ⟨.many, .chain
        ⟨[ctx.columnKey m.name sourceId.name], [.str (JoinTable.sides first).1], Naming.constant join⟩
        ⟨[.str (JoinTable.sides first).2], [ctx.columnKey target.name targetId.name], constant⟩⟩ := by
  simp only [throughJoin, Run.result_bind, Run.result_check, Run.result_lift, Run.result_log,
    Run.result_pure, bind_eq_ok, mapError_eq_ok, JoinTable.identity_eq_ok, columnKeysOf_eq_ok,
    List.forall_mem_singleton, List.map_singleton, Except.ok.injEq, ← JoinTable.sides.eq_def]
  constructor
  · rintro ⟨join, named, sourceId, source, targetId, dest, first, side, _, ⟨usable, usableSource, rfl⟩, _,
      ⟨-, usableTarget, rfl⟩, constant, constants, -, -, rfl⟩
    exact ⟨join, sourceId, targetId, first, constant, named, source, dest, side, constants,
      ⟨usable, usableSource, usableTarget⟩, rfl⟩
  · rintro ⟨join, sourceId, targetId, first, constant, named, source, dest, side, constants,
      ⟨usable, usableSource, usableTarget⟩, rfl⟩
    obtain ⟨s, same, -⟩ := Naming.constant?_eq_ok.1 constants
    exact ⟨join, named, sourceId, source, targetId, dest, first, side, _, ⟨usable, usableSource, rfl⟩, _,
      ⟨by simp [same, Json.canBeKey], usableTarget, rfl⟩, constant, constants, (), trivial, rfl⟩

theorem resolves_single {r : Relationship} (single : f.isList.holds = false) :
    ctx.Resolves m f target r ↔ ctx.toOne m target f (f.backReference? m target) = .ok r := by
  rw [toOne_eq_ok]
  constructor
  · intro resolves
    cases resolves with
    | toMany list => simp [single] at list
    | toOneHere _ foreign links => exact .inl ⟨_, foreign, links, rfl⟩
    | toOneThere _ found absent foreign links => exact .inr ⟨_, _, found, absent, foreign, links, rfl⟩
    | through list => simp [single] at list
  · rintro (⟨link, foreign, links, rfl⟩ | ⟨back, link, found, absent, foreign, links, rfl⟩)
    · exact .toOneHere single foreign links
    · exact .toOneThere single found absent foreign links

theorem resolves_list {r : Relationship} (list : f.isList.holds = true)
    (single : (f.backReference? m target).filter (·.isList.holds) = none) :
    ctx.Resolves m f target r ↔ ctx.toMany m target f (f.backReference? m target) = .ok r := by
  rw [toMany_eq_ok]
  constructor
  · intro resolves
    cases resolves with
    | toMany _ found _ foreign links => exact ⟨_, _, found, foreign, links, rfl⟩
    | toOneHere single => simp [list] at single
    | toOneThere single => simp [list] at single
    | through _ found lists => simp [found, lists] at single
  · rintro ⟨back, link, found, foreign, links, rfl⟩
    rw [found, Option.filter_some] at single
    exact .toMany list found (by simpa using single) foreign links

theorem resolves_lists {back : Field} {r : Relationship} (list : f.isList.holds = true)
    (lists : (f.backReference? m target).filter (·.isList.holds) = some back) :
    ctx.Resolves m f target r ↔ (ctx.throughJoin m target f back).result = .ok r := by
  obtain ⟨found, lists⟩ := Option.filter_eq_some_iff.1 lists
  rw [throughJoin_eq_ok]
  constructor
  · intro resolves
    cases resolves with
    | toMany _ found' single =>
      rw [found, Option.some.injEq] at found'
      simp [← found', lists] at single
    | toOneHere single => simp [list] at single
    | toOneThere single => simp [list] at single
    | through _ found' _ named source dest side usable constants =>
      rw [found, Option.some.injEq] at found'
      subst found'
      exact ⟨_, _, _, _, _, named, source, dest, side, constants, usable, rfl⟩
  · rintro ⟨join, sourceId, targetId, first, constant, named, source, dest, side, constants, usable, rfl⟩
    exact .through list found lists named source dest side usable constants

theorem relationship?_eq_ok {r : Option Relationship} :
    (ctx.relationship? m f).result = .ok r ↔ ∃ target, ctx.model? f.type = .ok (some target) ∧
      if ctx.isExcluded target.name then r = none
      else ∃ found, r = some found ∧ ctx.Resolves m f target found := by
  simp only [relationship?, Run.result_bind, Run.result_check, bind_eq_ok, mapError_eq_ok, Option.exists,
    Run.result_stop, reduceCtorEq, and_false, false_or]
  refine exists_congr fun target => and_congr_right fun _ => ?_
  by_cases excluded : ctx.isExcluded target.name = true
  · simp [excluded, bind, eq_comm]
  rw [if_neg excluded, if_neg excluded]
  by_cases list : f.isList.holds = true
  · rw [if_pos list]
    cases lists : (f.backReference? m target).filter (·.isList.holds) with
    | none =>
      simp only [Run.result_bind, Run.result_lift, Run.result_pure, bind_eq_ok, Except.ok.injEq,
        resolves_list list lists]
      exact exists_congr fun found => by rw [and_comm, eq_comm]
    | some back =>
      simp only [Run.result_bind, Run.result_pure, bind_eq_ok, Except.ok.injEq, resolves_lists list lists]
      exact exists_congr fun found => by rw [and_comm, eq_comm]
  · rw [if_neg list]
    simp only [Run.result_bind, Run.result_lift, Run.result_pure, bind_eq_ok, Except.ok.injEq,
      resolves_single (Bool.not_eq_true _ ▸ list)]
    exact exists_congr fun found => by rw [and_comm, eq_comm]

theorem Built.resolves_kept {d : Datamodel} {naming : Naming} {excluded : List Json}
    (built : ctx.Built d naming excluded) (kept : target ∈ d.kept excluded)
    (points : (f.type == target.name) = true) {outcome : Option Relationship}
    (ok : (ctx.relationship? m f).result = .ok outcome) : ∃ r, outcome = some r ∧ ctx.Resolves m f target r := by
  obtain ⟨found, looked, resolved⟩ := relationship?_eq_ok.1 ok
  have usable := (model?_eq_ok.1 looked).1
  rw [built.model?_kept kept usable (BEq.symm points)] at looked
  cases looked
  rwa [if_neg (by simp [built.isExcluded_kept kept])] at resolved

theorem Built.exists_resolves {d : Datamodel} {naming : Naming} {excluded : List Json}
    (built : ctx.Built d naming excluded) {r : Relationship} (ok : (ctx.relationship? m f).result = .ok (some r)) :
    ∃ target ∈ d.kept excluded, (target.name == f.type) = true ∧ ctx.Resolves m f target r := by
  obtain ⟨target, looked, outcome⟩ := relationship?_eq_ok.1 ok
  split at outcome
  · cases outcome
  · rename_i here
    obtain ⟨_, ⟨⟩, resolves⟩ := outcome
    obtain ⟨keptTarget, points⟩ := built.kept_of_model? looked (Bool.not_eq_true _ ▸ here)
    exact ⟨target, keptTarget, points, resolves⟩

theorem relationshipsOf_ok {fields : List Field} {entries : Entries Relationship}
    (ok : (ctx.relationshipsOf m fields).result = .ok entries) :
    ∃ found, List.Forall₂ (fun f r => (ctx.relationship? m f).result = .ok r) fields found ∧
      entries = (fields.zip found).filterMap fun row => row.2.map (row.1.name, ·) := by
  induction fields generalizing entries with
  | nil =>
    rw [relationshipsOf, Run.result_pure, Except.ok.injEq] at ok
    exact ⟨[], .nil, ok.symm⟩
  | cons f rest ih =>
    rw [relationshipsOf, Run.result_bind, bind_eq_ok] at ok
    obtain ⟨r, first, ok⟩ := ok
    cases r with
    | none =>
      obtain ⟨found, all, rfl⟩ := ih ok
      exact ⟨none :: found, .cons first all, by simp⟩
    | some r =>
      simp only [Run.result_bind, Run.result_check, Run.result_pure, bind_eq_ok, mapError_eq_ok,
        Json.key?_eq_ok, Except.ok.injEq] at ok
      obtain ⟨_, ⟨-, rfl⟩, others, othersOk, rfl⟩ := ok
      obtain ⟨found, all, rfl⟩ := ih othersOk
      exact ⟨some r :: found, .cons first all, by simp⟩

theorem relationships_ok {entries : Entries Relationship} (ok : (ctx.relationships m).result = .ok entries) :
    (∀ f ∈ m.relationFields, ∃ r, (ctx.relationship? m f).result = .ok r) ∧
      ∀ entry ∈ entries, ∃ f ∈ m.relationFields, (f.name == entry.1) = true ∧
        (ctx.relationship? m f).result = .ok (some entry.2) := by
  simp only [relationships, Run.result_bind, Run.result_pure, bind_eq_ok, Except.ok.injEq] at ok
  obtain ⟨pairs, pairsOk, rfl⟩ := ok
  obtain ⟨found, all, rfl⟩ := relationshipsOf_ok pairsOk
  constructor
  · intro f member
    obtain ⟨r, -, ok⟩ := exists_result all member
    exact ⟨r, ok⟩
  · intro entry member
    obtain ⟨pair, member, same, value⟩ := Entries.mem_ofList member
    obtain ⟨⟨f, r⟩, row, made⟩ := List.mem_filterMap.1 member
    obtain ⟨relationship, rfl, rfl⟩ := Option.map_eq_some_iff.1 made
    refine ⟨f, (List.of_mem_zip row).1, same, ?_⟩
    rw [← value]
    exact List.forall₂_zip all row

theorem relationships_rows {entries : Entries Relationship} (ok : (ctx.relationships m).result = .ok entries)
    (distinct : Distinct Field.name m.relationFields) :
    ∃ found, List.Forall₂ (fun f r => (ctx.relationship? m f).result = .ok r) m.relationFields found ∧
      entries = (m.relationFields.zip found).filterMap fun row => row.2.map (row.1.name, ·) := by
  simp only [relationships, Run.result_bind, Run.result_pure, bind_eq_ok, Except.ok.injEq] at ok
  obtain ⟨pairs, pairsOk, rfl⟩ := ok
  obtain ⟨found, all, rfl⟩ := relationshipsOf_ok pairsOk
  have rows : Distinct (fun row : Field × Option Relationship => row.1.name) (m.relationFields.zip found) := by
    have fields : (m.relationFields.zip found).map Prod.fst = m.relationFields :=
      List.map_fst_zip (Nat.le_of_eq all.length_eq)
    rw [← fields, Distinct.map_iff] at distinct
    exact distinct
  refine ⟨found, all, Entries.ofList_eq_self ?_⟩
  refine List.pairwise_filterMap.2 (rows.imp fun apart entry made entry' made' => ?_)
  obtain ⟨_, -, rfl⟩ := Option.map_eq_some_iff.1 made
  obtain ⟨_, -, rfl⟩ := Option.map_eq_some_iff.1 made'
  exact apart

theorem relationships_entry {entries : Entries Relationship} (ok : (ctx.relationships m).result = .ok entries)
    (distinct : Distinct Field.name m.relationFields) {r : Relationship} (member : f ∈ m.relationFields)
    (resolved : (ctx.relationship? m f).result = .ok (some r)) : (f.name, r) ∈ entries := by
  obtain ⟨found, all, rfl⟩ := relationships_rows ok distinct
  obtain ⟨r', row⟩ := exists_pair all member
  have resolved' := List.forall₂_zip all row
  rw [resolved, Except.ok.injEq] at resolved'
  subst resolved'
  exact List.mem_filterMap.2 ⟨_, row, rfl⟩

end Context

end SyncSchema

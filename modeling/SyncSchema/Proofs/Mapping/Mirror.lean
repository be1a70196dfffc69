import SyncSchema.Proofs.Mapping.Tables
import SyncSchema.Proofs.Samples

namespace SyncSchema
open Outcome

def Link.Mirrors (l k : Link) : Prop :=
  l.source = k.dest ∧ l.dest = k.source

theorem Link.Mirrors.symm {l k : Link} (mirrors : l.Mirrors k) : k.Mirrors l :=
  ⟨mirrors.2.symm, mirrors.1.symm⟩

theorem Link.mirrors_comm {l k : Link} : l.Mirrors k ↔ k.Mirrors l :=
  ⟨Mirrors.symm, Mirrors.symm⟩

namespace Context

variable {ctx : Context} {m target : Model} {f back : Field} {r : Relationship} {l k : Link}

/-- The foreign key of the field refers to the columns of the target's primary key. -/
def RefersToKey (ctx : Context) (f : Field) (target : Model) : Prop :=
  f.toFields = [] ∨ f.toFields.map (ctx.columnKey target.name) = target.keyFields.map (ctx.columnKey target.name)

theorem refersToKey_iff : ctx.RefersToKey f target ↔
    (keyOr f.toFields target).map (ctx.columnKey target.name) = target.keyFields.map (ctx.columnKey target.name) := by
  by_cases absent : f.toFields = []
  · simp [RefersToKey, keyOr, absent]
  · simp [RefersToKey, keyOr, absent]

theorem Resolves.ofHolder (resolves : ctx.Resolves m f target r) (found : f.backReference? m target = some back)
    (absent : back.fromFields = []) (notLists : ¬(f.isList.holds = true ∧ back.isList.holds = true)) :
    f.isList.holds = false ∧ ∃ l, r = ⟨.one, .direct l⟩ ∧
      ctx.Links m target f.fromFields (keyOr f.toFields target) l := by
  cases resolves with
  | toMany list found' single foreign links =>
    cases found.symm.trans found'
    exact absurd absent foreign
  | toOneHere single foreign links => exact ⟨single, _, rfl, links⟩
  | toOneThere single found' absent' foreign links =>
    cases found.symm.trans found'
    exact absurd absent foreign
  | through list found' lists =>
    cases found.symm.trans found'
    exact absurd ⟨list, lists⟩ notLists

theorem Resolves.ofOther (resolves : ctx.Resolves m f target r) (found : f.backReference? m target = some back)
    (absent : f.fromFields = []) (notLists : ¬(f.isList.holds = true ∧ back.isList.holds = true)) :
    ∃ c k, r = ⟨c, .direct k⟩ ∧
      ctx.Links m target (if f.isList.holds then m.keyFields else keyOr back.toFields m) back.fromFields k := by
  cases resolves with
  | toMany list found' single foreign links =>
    cases found.symm.trans found'
    exact ⟨_, _, rfl, by rwa [if_pos list]⟩
  | toOneHere single foreign links => exact absurd absent foreign
  | toOneThere single found' absent' foreign links =>
    cases found.symm.trans found'
    exact ⟨_, _, rfl, by rwa [if_neg (by simp [single])]⟩
  | through list found' lists =>
    cases found.symm.trans found'
    exact absurd ⟨list, lists⟩ notLists

theorem Links.mirrors_iff (holder : ctx.Links m target f.fromFields (keyOr f.toFields target) l)
    (other : ctx.Links target m (if back.isList.holds then target.keyFields else keyOr f.toFields target)
      f.fromFields k) :
    l.Mirrors k ↔ (back.isList.holds = true → ctx.RefersToKey f target) := by
  rw [Link.Mirrors, holder.source_eq, holder.dest_eq, other.source_eq, other.dest_eq, refersToKey_iff]
  by_cases list : back.isList.holds = true
  · simp [list]
  · simp [list]

end Context

namespace Datamodel

variable {d : Datamodel} {naming : Naming} {excluded : List Json} {s : Schema} {m target : Model} {f back : Field}

theorem mirrors_of_holder {ctx : Context} {r q : Relationship} (resolves : ctx.Resolves m f target r)
    (resolvesBack : ctx.Resolves target back m q) (found : f.backReference? m target = some back)
    (foundBack : back.backReference? target m = some f) (absent : back.fromFields = [])
    (notLists : ¬(f.isList.holds = true ∧ back.isList.holds = true)) :
    f.isList.holds = false ∧ ∃ c c' l k, r = ⟨c, .direct l⟩ ∧ q = ⟨c', .direct k⟩ ∧
      (l.Mirrors k ↔ (back.isList.holds = true → ctx.RefersToKey f target)) := by
  obtain ⟨single, l, rfl, holder⟩ := resolves.ofHolder found absent notLists
  obtain ⟨c', k, rfl, other⟩ := resolvesBack.ofOther foundBack absent fun lists => notLists lists.symm
  exact ⟨single, _, _, l, k, rfl, rfl, holder.mirrors_iff other⟩

theorem toSchema_mirrors (ok : (d.toSchema naming excluded).result = .ok s) (kept : m ∈ d.kept excluded)
    (keptTarget : target ∈ d.kept excluded) (relation : f ∈ m.relationFields)
    (relationBack : back ∈ target.relationFields) (found : f.backReference? m target = some back)
    (foundBack : back.backReference? target m = some f) (one : Xor (f.fromFields ≠ []) (back.fromFields ≠ []))
    (notLists : ¬(f.isList.holds = true ∧ back.isList.holds = true)) :
    ∃ ctx c c' l k, (Context.build d naming excluded).result = .ok ctx ∧
      (ctx.relationship? m f).result = .ok (some ⟨c, .direct l⟩) ∧
      (ctx.relationship? target back).result = .ok (some ⟨c', .direct k⟩) ∧
      (l.Mirrors k ↔ (back.isList.holds = true → ctx.RefersToKey f target) ∧
        (f.isList.holds = true → ctx.RefersToKey back m)) := by
  obtain ⟨ctx, tables, joins, plans, ctxOk, -, tabled, -, -⟩ := toSchema_ok ok
  have built := Context.build_ok ctxOk
  have completes := Field.backReference?_completes found
  have completesBack := Field.backReference?_completes foundBack
  obtain ⟨r, resolved, resolves⟩ := resolves_of_tabled built tabled kept relation keptTarget completesBack.type
  obtain ⟨q, resolvedBack, resolvesBack⟩ :=
    resolves_of_tabled built tabled keptTarget relationBack kept completes.type
  rcases one with ⟨-, absent⟩ | ⟨-, absent⟩
  · rw [not_not] at absent
    obtain ⟨single, c, c', l, k, rfl, rfl, mirrors⟩ :=
      mirrors_of_holder resolves resolvesBack found foundBack absent notLists
    refine ⟨ctx, c, c', l, k, ctxOk, resolved, resolvedBack, ?_⟩
    simp [mirrors, single]
  · rw [not_not] at absent
    obtain ⟨single, c', c, k, l, rfl, rfl, mirrors⟩ :=
      mirrors_of_holder resolvesBack resolves foundBack found absent fun lists => notLists lists.symm
    refine ⟨ctx, c, c', l, k, ctxOk, resolved, resolvedBack, ?_⟩
    rw [Link.mirrors_comm]
    simp [mirrors, single]

theorem blog_mirrors : ∃ s, (Sample.blog.toSchema ⟨true, true⟩ []).result = .ok s ∧
    ∃ ctx c c' l k, (Context.build Sample.blog ⟨true, true⟩ []).result = .ok ctx ∧
      (ctx.relationship? Sample.post Sample.author).result = .ok (some ⟨c, .direct l⟩) ∧
      (ctx.relationship? Sample.user Sample.posts).result = .ok (some ⟨c', .direct k⟩) ∧
      (l.Mirrors k ↔ (Sample.posts.isList.holds = true → ctx.RefersToKey Sample.author Sample.user) ∧
        (Sample.author.isList.holds = true → ctx.RefersToKey Sample.posts Sample.post)) := by
  obtain ⟨s, ok⟩ := Sample.blog_toSchema
  refine ⟨s, ok, toSchema_mirrors ok ?_ ?_ ?_ ?_ ?_ ?_ ?_ ?_⟩
  all_goals decide +kernel

theorem blog_ends : ∃ ctx, (Context.build Sample.blog ⟨true, true⟩ []).result = .ok ctx ∧
    (ctx.relationship? Sample.user Sample.posts).result =
      .ok (some ⟨.many, .direct ⟨[.str "userId"], [.str "authorEmail"], "postTable"⟩⟩) ∧
    (ctx.relationship? Sample.post Sample.author).result =
      .ok (some ⟨.one, .direct ⟨[.str "authorEmail"], [.str "email"], "userTable"⟩⟩) := by
  have run : (do
      let ctx ← Context.build Sample.blog ⟨true, true⟩ []
      return (← ctx.relationship? Sample.user Sample.posts, ← ctx.relationship? Sample.post Sample.author) :
      Run _).result.toOption = some
        (some ⟨.many, .direct ⟨[.str "userId"], [.str "authorEmail"], "postTable"⟩⟩,
          some ⟨.one, .direct ⟨[.str "authorEmail"], [.str "email"], "userTable"⟩⟩) := by decide +kernel
  simp only [toOption_eq_some, Run.result_bind, Run.result_pure, bind_eq_ok, Except.ok.injEq, Prod.mk.injEq] at run
  obtain ⟨ctx, ctxOk, r, resolved, q, resolvedBack, rfl, rfl⟩ := run
  exact ⟨ctx, ctxOk, resolved, resolvedBack⟩

theorem not_forall_mirrors : ¬∀ (d : Datamodel) (naming : Naming) (excluded : List Json) (s : Schema)
    (ctx : Context) (m target : Model) (f back : Field) (c c' : Cardinality) (l k : Link),
    (d.toSchema naming excluded).result = .ok s → (Context.build d naming excluded).result = .ok ctx →
    m ∈ d.kept excluded → target ∈ d.kept excluded → f ∈ m.relationFields → back ∈ target.relationFields →
    f.backReference? m target = some back → back.backReference? target m = some f →
    Xor (f.fromFields ≠ []) (back.fromFields ≠ []) → ¬(f.isList.holds = true ∧ back.isList.holds = true) →
    (ctx.relationship? m f).result = .ok (some ⟨c, .direct l⟩) →
    (ctx.relationship? target back).result = .ok (some ⟨c', .direct k⟩) → l.Mirrors k := by
  intro claim
  obtain ⟨s, ok⟩ := Sample.blog_toSchema
  obtain ⟨ctx, ctxOk, resolved, resolvedBack⟩ := blog_ends
  have mirrors := claim Sample.blog ⟨true, true⟩ [] s ctx Sample.user Sample.post Sample.posts Sample.author
    _ _ _ _ ok ctxOk ?_ ?_ ?_ ?_ ?_ ?_ ?_ ?_ resolved resolvedBack
  · exact absurd mirrors.1 (by simp)
  all_goals decide +kernel

end Datamodel

end SyncSchema

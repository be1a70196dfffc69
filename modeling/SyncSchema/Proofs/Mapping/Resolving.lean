import SyncSchema.Proofs.Mapping.Indexing

namespace SyncSchema
open Outcome

theorem Naming.exists_constant?_iff {name : Json} :
    (∃ constant, Naming.constant? name = .ok constant) ↔ name.kind = .string := by
  simp only [constant?, exists_bind_eq_ok, pure_eq_ok, exists_eq', and_true, Json.exists_text?_iff]

theorem Field.exists_isFirstSide_iff {f back : Field} {m target : Model} (text : m.name.kind = .string) :
    (∃ first, f.isFirstSide m target back = .ok first) ↔
      target.name.kind = .string ∧ ((m.name == target.name) = true → (f.name.lt? back.name).isOk = true) := by
  obtain ⟨s, named⟩ := Json.eq_str_of_kind text
  rw [isFirstSide]
  split
  · rename_i same
    have textTarget : target.name = .str s := Json.eq_str_of_beq (by rw [← named]; exact BEq.symm same)
    constructor
    · rintro ⟨first, compared⟩
      exact ⟨by rw [textTarget]; rfl, fun _ => by rw [compared]; rfl⟩
    · rintro ⟨-, ordered⟩
      exact exists_of_isOk (ordered same)
  · rename_i other
    simp [other, Json.exists_lt?_iff text]

namespace Context

variable {d : Datamodel} {naming : Naming} {excluded : List Json} {ctx : Context} {m target : Model} {f : Field}

theorem exists_columnKeysOf_iff {model : Json} {fields : List Json} :
    (∃ keys, ctx.columnKeysOf model fields = .ok keys) ↔ model.canBeKey = true ∧ Json.AreKeys fields := by
  simp only [columnKeysOf_eq_ok, exists_and_left, exists_eq, and_true, Json.AreKeys]

section

variable {α : Type} {next : List Json → Except Failure α} {usable fitting : Prop}

theorem keyFields_bind (later : Judged (next m.keyFields) usable fitting) :
    Judged (keyFields m >>= next) usable (m.keyFields ≠ [] ∧ fitting) := by
  rw [keyFields]
  split
  · rename_i none
    exact .problem fun fits => fits.1 (List.isEmpty_iff.1 none)
  · exact later.imp Iff.rfl And.right

theorem namedOrKey_bind {names : List Json} (later : Judged (next (keyOr names m)) usable fitting) :
    Judged (namedOrKey names m >>= next) usable (keyOr names m ≠ [] ∧ fitting) := by
  rw [namedOrKey]
  rw [keyOr] at later ⊢
  split
  · rename_i none
    rw [if_pos none] at later
    exact keyFields_bind later
  · rename_i given
    rw [if_neg given] at later
    exact later.imp Iff.rfl And.right

theorem identity_bind {relation : Json} {next : Field → Except Failure α}
    (later : ∀ id, m.idField? = some id → Judged (next id) usable fitting) :
    Judged (JoinTable.identity m relation >>= next) usable (m.idField?.isSome = true ∧ fitting) := by
  rw [JoinTable.identity]
  split
  · rename_i id found
    exact (later id found).imp Iff.rfl And.right
  · rename_i none
    exact .problem (by simp [none])

end

theorem directLink_judged (ctx : Context) (text : m.name.kind = .string) (target : Model) (f : Field)
    (sources dests : List Json) :
    Judged (ctx.directLink m target f sources dests)
      (target.name.kind = .string ∧ Json.AreKeys sources ∧ Json.AreKeys dests)
      (sources ≠ [] ∧ sources.length = dests.length) := by
  rw [directLink]
  refine .congr (.check_bind exists_columnKeysOf_iff fun source sourceOk _ => .check_bind exists_columnKeysOf_iff
    fun dest destOk _ => (?_ : Judged _ (target.name.kind = .string) _)) ?_
  · obtain ⟨-, -, rfl⟩ := columnKeysOf_eq_ok.1 sourceOk
    obtain ⟨-, -, rfl⟩ := columnKeysOf_eq_ok.1 destOk
    split
    · rename_i uneven
      refine .problem ?_
      rintro ⟨nonempty, even⟩
      simp [nonempty, even] at uneven
    · exact (Judged.check Naming.exists_constant?_iff).bind_pure _
  · constructor
    · rintro ⟨⟨-, sourceKeys⟩, ⟨-, destKeys⟩, textTarget⟩
      exact ⟨textTarget, sourceKeys, destKeys⟩
    · rintro ⟨textTarget, sourceKeys, destKeys⟩
      exact ⟨⟨Json.canBeKey_of_kind text, sourceKeys⟩, ⟨Json.canBeKey_of_kind textTarget, destKeys⟩, textTarget⟩

theorem toMany_judged (ctx : Context) (text : m.name.kind = .string) (keys : Json.AreKeys m.keyFields) (target : Model)
    (f : Field) (back : Option Field) :
    Judged (ctx.toMany m target f back) (target.name.kind = .string ∧ ∀ b ∈ back, Json.AreKeys b.fromFields)
      (∃ b ∈ back, b.fromFields ≠ [] ∧ b.fromFields.length = m.keyFields.length) := by
  cases back with
  | none => exact .problem (by simp)
  | some b =>
    simp only [toMany, Option.mem_some_iff, forall_eq', exists_eq_left']
    split
    · rename_i absent
      exact .problem fun fits => fits.1 (List.isEmpty_iff.1 absent)
    · rename_i foreign
      have linked := (ctx.directLink_judged text target f m.keyFields b.fromFields).bind_pure
        (Relationship.mk .many <| .direct ·)
      refine (keyFields_bind linked).imp (by simp [keys]) ?_
      rintro ⟨foreign, even⟩
      have nonempty := List.ne_nil_of_length_pos (even ▸ List.length_pos_iff.2 foreign)
      exact ⟨nonempty, nonempty, even.symm⟩

theorem toOne_judged (ctx : Context) (text : m.name.kind = .string) (target : Model) (f : Field) (back : Option Field) :
    Judged (ctx.toOne m target f back)
      (target.name.kind = .string ∧
        (f.fromFields ≠ [] → Json.AreKeys f.fromFields ∧ Json.AreKeys (keyOr f.toFields target)) ∧
        (f.fromFields = [] → ∀ b ∈ back, b.fromFields ≠ [] →
          Json.AreKeys (keyOr b.toFields m) ∧ Json.AreKeys b.fromFields))
      (f.fromFields ≠ [] ∧ f.fromFields.length = (keyOr f.toFields target).length ∨
        f.fromFields = [] ∧ ∃ b ∈ back, b.fromFields ≠ [] ∧ b.fromFields.length = (keyOr b.toFields m).length) := by
  rw [toOne]
  by_cases absent : f.fromFields = []
  · rw [if_neg (by simp [absent])]
    simp only [absent, ne_eq, not_true, false_implies, false_and, false_or, true_and, forall_const]
    cases back with
    | none => exact .problem (by simp)
    | some b =>
      by_cases absent' : b.fromFields = []
      · rw [Option.filter_some_neg (by simp [absent'])]
        exact .problem (by simp [absent'])
      · rw [Option.filter_some_pos (by simp [absent'])]
        simp only [Option.mem_some_iff, forall_eq', exists_eq_left', absent', not_false_eq_true, forall_const, true_and]
        have linked := (ctx.directLink_judged text target f (keyOr b.toFields m) b.fromFields).bind_pure
          (Relationship.mk .one <| .direct ·)
        refine (namedOrKey_bind linked).imp Iff.rfl fun even => ?_
        have nonempty := List.ne_nil_of_length_pos (even ▸ List.length_pos_iff.2 absent')
        exact ⟨nonempty, nonempty, even.symm⟩
  · rw [if_pos (by simp [absent])]
    simp only [absent, ne_eq, not_false_eq_true, false_implies, and_true, false_and, or_false, true_and, forall_const]
    have linked := (ctx.directLink_judged text target f f.fromFields (keyOr f.toFields target)).bind_pure
      (Relationship.mk .one <| .direct ·)
    refine (namedOrKey_bind linked).imp Iff.rfl fun even => ?_
    exact ⟨List.ne_nil_of_length_pos (even ▸ List.length_pos_iff.2 absent), absent, even⟩

theorem throughJoin_judged (ctx : Context) (text : m.name.kind = .string) (target : Model)
    (relation : f.isRelation = true) (back : Field) :
    Judged (ctx.throughJoin m target f back).result
      (target.name.kind = .string ∧ (∀ id ∈ m.idField?, id.name.canBeKey = true) ∧
        (∀ id ∈ target.idField?, id.name.canBeKey = true) ∧
        ((m.name == target.name) = true → (f.name.lt? back.name).isOk = true))
      (m.idField?.isSome = true ∧ target.idField?.isSome = true) := by
  rw [throughJoin, JoinTable.name_of_given relation, Run.check_ok_bind]
  simp only [Run.result_bind, Run.result_lift, Run.result_check, Run.result_log, Run.result_pure]
  refine identity_bind fun sourceId source =>
    .imp (identity_bind fun targetId dest => ?_) Iff.rfl fun id => ⟨id, trivial⟩
  rw [source, dest]
  refine .congr (.check_bind (Field.exists_isFirstSide_iff text) fun first _ _ =>
    .check_bind exists_columnKeysOf_iff fun _ _ _ => .check_bind exists_columnKeysOf_iff fun _ _ _ =>
      .check_bind Naming.exists_constant?_iff fun _ _ _ => .ok trivial) ?_
  simp only [Json.AreKeys, List.forall_mem_singleton, Option.mem_some_iff, forall_eq', and_true]
  have here := Json.canBeKey_of_kind text
  have there := @Json.canBeKey_of_kind target.name
  tauto

theorem toOne_judged_of_single (ctx : Context) (text : m.name.kind = .string) (single : f.isList.holds = false) :
    Judged (ctx.toOne m target f (f.backReference? m target)) (target.name.kind = .string ∧ f.Linkable m target)
      (f.Resolvable m target) := by
  have linkable (links : _) : f.Linkable m target := ⟨by simp [single], by simp [single], fun _ => links⟩
  exact (ctx.toOne_judged text target f _).imp (and_congr_right fun _ => ⟨linkable, fun links => links.single single⟩)
    fun resolvable => resolvable.single single

theorem toMany_judged_of_list (ctx : Context) (text : m.name.kind = .string) (keys : Json.AreKeys m.keyFields)
    (list : f.isList.holds = true) (noList : (f.backReference? m target).filter (·.isList.holds) = none) :
    Judged (ctx.toMany m target f (f.backReference? m target)) (target.name.kind = .string ∧ f.Linkable m target)
      (f.Resolvable m target) := by
  have single : ∀ back ∈ f.backReference? m target, back.isList.holds = false := by
    simpa [Option.filter_eq_none_iff] using noList
  refine (ctx.toMany_judged text keys target f _).imp (and_congr_right fun _ => ⟨fun links => ?_, fun links => ?_⟩)
    fun resolvable => resolvable.list list single
  · refine ⟨fun _ back found lists => ?_, fun _ back found _ => links back found, by simp [list]⟩
    simp [single back found] at lists
  · exact fun back found => links.list list back found (single back found)

theorem throughJoin_judged_of_lists (ctx : Context) (text : m.name.kind = .string) (relation : f.isRelation = true)
    {back : Field} (list : f.isList.holds = true) (found : f.backReference? m target = some back)
    (lists : back.isList.holds = true) :
    Judged (ctx.throughJoin m target f back).result (target.name.kind = .string ∧ f.Linkable m target)
      (f.Resolvable m target) := by
  refine (ctx.throughJoin_judged text target relation back).imp
    (and_congr_right fun _ => ⟨fun links => ?_, fun links => ?_⟩)
    fun resolvable => resolvable.lists list back found lists
  · refine ⟨fun _ back' found' _ => ?_, fun _ back' found' single => ?_, by simp [list]⟩
    · cases found.symm.trans found'
      exact links
    · cases found.symm.trans found'
      simp [lists] at single
  · exact links.lists list back found lists

end Context

def Field.Followable (f : Field) (m : Model) (targets : List Model) : Prop :=
  f.type.canBeKey = true ∧ ∀ target ∈ targets, (target.name == f.type) = true →
    target.name.kind = .string ∧ f.Linkable m target

def Field.Leads (f : Field) (m : Model) (models targets : List Model) : Prop :=
  (∃ n ∈ models, (n.name == f.type) = true) ∧
    ∀ target ∈ targets, (target.name == f.type) = true → f.Resolvable m target

namespace Context

variable {d : Datamodel} {naming : Naming} {excluded : List Json} {ctx : Context} {m target : Model} {f : Field}
  (built : ctx.Built d naming excluded) (text : m.name.kind = .string) (keys : Json.AreKeys m.keyFields)
include built text keys

theorem relationship?_judged (relation : f.isRelation = true) :
    Judged (ctx.relationship? m f).result (f.Followable m (d.kept excluded))
      (f.Leads m d.models (d.kept excluded)) := by
  have looked : (∃ found, ctx.model? f.type = .ok found) ↔ f.type.canBeKey = true := by
    simp only [model?_eq_ok, exists_and_left, exists_eq', and_true]
  rw [relationship?, Run.result_bind, Run.result_check]
  refine .check_bind looked fun found looked usable => ?_
  cases found with
  | none =>
    refine .problem ?_
    rintro ⟨⟨n, member, points⟩, -⟩
    obtain ⟨n', indexed, same⟩ := built.named n member
    exact absurd (BEq.trans same points) (List.find?_eq_none.1 (model?_eq_ok.1 looked).2 n' indexed)
  | some target =>
    dsimp only
    -- Names of targets are distinct, so what is asked of every target of that name is asked of this one.
    have only : ∀ other ∈ d.kept excluded, (other.name == f.type) = true → other = target := by
      intro other kept points
      rw [built.model?_kept kept usable points, Except.ok.injEq, Option.some.injEq] at looked
      exact looked
    split
    · rename_i dropped
      refine .ok fun other kept points => ?_
      cases only other kept points
      rw [built.isExcluded_kept kept] at dropped
      cases dropped
    · rename_i here
      obtain ⟨kept, points⟩ := built.kept_of_model? looked (Bool.not_eq_true _ ▸ here)
      have there : (∀ other ∈ d.kept excluded, (other.name == f.type) = true →
          other.name.kind = .string ∧ f.Linkable m other) ↔ target.name.kind = .string ∧ f.Linkable m target := by
        constructor
        · exact fun all => all target kept points
        · intro holds other kept points
          rwa [only other kept points]
      rw [there]
      refine .imp (?_ : Judged _ (target.name.kind = .string ∧ f.Linkable m target) (f.Resolvable m target)) Iff.rfl
        fun leads => leads.2 target kept points
      by_cases list : f.isList.holds = true
      · rw [if_pos list]
        cases lists : (f.backReference? m target).filter (·.isList.holds) with
        | none =>
          dsimp only
          rw [Run.result_bind, Run.result_lift]
          exact (ctx.toMany_judged_of_list text keys list lists).bind_pure _
        | some back =>
          obtain ⟨found, lists⟩ := Option.filter_eq_some_iff.1 lists
          dsimp only
          rw [Run.result_bind]
          exact (ctx.throughJoin_judged_of_lists text relation list found lists).bind_pure _
      · rw [if_neg list, Run.result_bind, Run.result_lift]
        exact (ctx.toOne_judged_of_single text (Bool.not_eq_true _ ▸ list)).bind_pure _

/-- The name of a field is used only where its relation has an entry, that is, where it leads to a target. -/
theorem relationshipsOf_judged {fields : List Field} (relations : fields ⊆ m.relationFields) :
    Judged (ctx.relationshipsOf m fields).result
      (∀ f ∈ fields, f.Followable m (d.kept excluded) ∧
        ∀ target ∈ d.kept excluded, (target.name == f.type) = true → f.name.canBeKey = true)
      (∀ f ∈ fields, f.Leads m d.models (d.kept excluded)) := by
  induction fields with
  | nil => exact .ok (List.forall_mem_nil _)
  | cons f rest ih =>
    obtain ⟨relation, relations⟩ := List.cons_subset.1 relations
    have first := relationship?_judged built text keys (f := f) (Model.isRelation_of_mem relation)
    rw [relationshipsOf, Run.result_bind, List.forall_mem_cons, List.forall_mem_cons, and_assoc]
    refine first.bind fun outcome resolved _ => ?_
    cases outcome with
    | none =>
      refine (ih relations).congr (iff_and_self.2 fun _ target kept points => ?_)
      obtain ⟨r, none, -⟩ := built.resolves_kept kept (BEq.symm points) resolved
      cases none
    | some r =>
      obtain ⟨target, kept, points, -⟩ := built.exists_resolves resolved
      have named : (∀ target ∈ d.kept excluded, (target.name == f.type) = true → f.name.canBeKey = true) ↔
          f.name.canBeKey = true := ⟨fun named => named target kept points, fun named _ _ _ => named⟩
      rw [named]
      simp only [Run.result_bind, Run.result_check, Run.result_pure]
      exact .check_bind Json.exists_key?_iff fun _ _ _ => (ih relations).bind_pure _

theorem relationships_judged :
    Judged (ctx.relationships m).result
      (∀ f ∈ m.relationFields, f.Followable m (d.kept excluded) ∧
        ∀ target ∈ d.kept excluded, (target.name == f.type) = true → f.name.canBeKey = true)
      (∀ f ∈ m.relationFields, f.Leads m d.models (d.kept excluded)) := by
  rw [relationships, Run.result_bind]
  exact (relationshipsOf_judged built text keys (List.Subset.refl _)).bind_pure _

omit text keys in
theorem table_judged :
    Judged (ctx.table m).result
      (m.Usable naming ∧ ∀ f ∈ m.relationFields, f.Followable m (d.kept excluded) ∧
        ∀ target ∈ d.kept excluded, (target.name == f.type) = true → f.name.canBeKey = true)
      (m.keyFields ≠ [] ∧ ∀ f ∈ m.relationFields, f.Leads m d.models (d.kept excluded)) := by
  have key (text : m.name.kind = .string) :
      Judged (ctx.primaryKey m) (Json.AreKeys m.keyFields) (m.keyFields ≠ []) :=
    (keyFields_bind (.check exists_columnKeysOf_iff)).imp (and_iff_right (Json.canBeKey_of_kind text))
      fun key => ⟨key, trivial⟩
  simp only [table, Naming.resolveTable, Run.result_bind, Run.result_check, Run.result_lift, Run.result_log,
    Run.result_pure]
  refine .congr (.check_bind Naming.exists_resolveTableName_iff fun entry _ _ => .check_bind Json.exists_text?_iff
    fun model _ text => .value_bind (m.columns_judged _ _) fun columns _ _ => (key text).bind fun _ _ keys =>
      (relationships_judged built text keys).bind_pure _) ?_
  rw [built.naming_eq]
  constructor
  · rintro ⟨tableName, name, columns, keys, relations⟩
    exact ⟨⟨name, tableName, columns, keys, fun f relation => (relations f relation).1.1⟩, relations⟩
  · rintro ⟨⟨name, tableName, columns, keys, targets⟩, relations⟩
    exact ⟨tableName, name, columns, keys, relations⟩

end Context

end SyncSchema

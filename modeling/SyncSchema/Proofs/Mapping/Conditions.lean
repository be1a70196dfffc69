import SyncSchema.Proofs.Datamodel.Texts
import SyncSchema.Proofs.Mapping.Tables

namespace SyncSchema
open Outcome

structure Field.Resolvable (f : Field) (m target : Model) : Prop where
  lists : f.isList.holds = true → ∀ back ∈ f.backReference? m target, back.isList.holds = true →
    m.idField?.isSome = true ∧ target.idField?.isSome = true
  list : f.isList.holds = true → (∀ back ∈ f.backReference? m target, back.isList.holds = false) →
    ∃ back ∈ f.backReference? m target, back.fromFields ≠ [] ∧ back.fromFields.length = m.keyFields.length
  single : f.isList.holds = false →
    f.fromFields ≠ [] ∧ f.fromFields.length = (Context.keyOr f.toFields target).length ∨
      f.fromFields = [] ∧ ∃ back ∈ f.backReference? m target, back.fromFields ≠ [] ∧
        back.fromFields.length = (Context.keyOr back.toFields m).length

structure Datamodel.Accepts (d : Datamodel) (naming : Naming) (excluded : List Json) : Prop where
  models : Distinct Model.name (d.kept excluded)
  columns : ∀ m ∈ d.kept excluded, Distinct naming.keyOf m.columnFields
  keys : ∀ m ∈ d.kept excluded, (∃ names ∈ m.primaryKey, names ≠ []) ∨ m.idField?.isSome = true
  targets : ∀ m ∈ d.kept excluded, ∀ f ∈ m.relationFields, ∃ n ∈ d.models, (n.name == f.type) = true
  relations : ∀ m ∈ d.kept excluded, ∀ f ∈ m.relationFields, ∀ target ∈ d.kept excluded,
    (target.name == f.type) = true → f.Resolvable m target

instance (f : Field) (m target : Model) : Decidable (f.Resolvable m target) :=
  decidable_of_iff (_ ∧ _ ∧ _)
    ⟨fun ⟨lists, list, single⟩ => ⟨lists, list, single⟩, fun ⟨lists, list, single⟩ => ⟨lists, list, single⟩⟩

instance (d : Datamodel) (naming : Naming) (excluded : List Json) : Decidable (d.Accepts naming excluded) :=
  decidable_of_iff (_ ∧ _ ∧ _ ∧ _ ∧ _)
    ⟨fun ⟨models, columns, keys, targets, relations⟩ => ⟨models, columns, keys, targets, relations⟩,
      fun ⟨models, columns, keys, targets, relations⟩ => ⟨models, columns, keys, targets, relations⟩⟩

theorem Model.keyFields_ne_nil {m : Model} :
    m.keyFields ≠ [] ↔ (∃ names ∈ m.primaryKey, names ≠ []) ∨ m.idField?.isSome = true := by
  rw [keyFields]
  split
  · rename_i name names key
    simp [key]
  · rename_i noKey
    have empty : ¬∃ names ∈ m.primaryKey, names ≠ [] := by
      rintro ⟨_ | ⟨name, names⟩, key, nonempty⟩
      · contradiction
      · exact noKey name names key
    rw [or_iff_right empty]
    simp [Option.isSome_iff_ne_none]

namespace Context

variable {d : Datamodel} {naming : Naming} {excluded : List Json} {ctx : Context} {m target : Model} {f : Field}

theorem Resolves.resolvable {r : Relationship} (resolves : ctx.Resolves m f target r) : f.Resolvable m target := by
  cases resolves with
  | @toMany back _ list found single foreign links =>
    refine ⟨fun _ b found' lists => ?_, fun _ _ => ⟨back, found, foreign, links.even.symm⟩, fun single => ?_⟩
    · cases found.symm.trans found'
      simp [single] at lists
    · simp [list] at single
  | toOneHere single foreign links =>
    refine ⟨fun list => ?_, fun list => ?_, fun _ => .inl ⟨foreign, links.even⟩⟩
    all_goals simp [single] at list
  | @toOneThere back _ single found absent foreign links =>
    refine ⟨fun list => ?_, fun list => ?_, fun _ => .inr ⟨absent, back, found, foreign, links.even.symm⟩⟩
    all_goals simp [single] at list
  | through list found lists named source dest =>
    refine ⟨fun _ _ _ _ => ⟨by rw [source]; rfl, by rw [dest]; rfl⟩, fun _ noList => ?_, fun single => ?_⟩
    · simp [noList _ found] at lists
    · simp [list] at single

end Context

namespace Datamodel

variable {d : Datamodel} {naming : Naming} {excluded : List Json} {s : Schema}

theorem accepts_of_ok (ok : (d.toSchema naming excluded).result = .ok s) : d.Accepts naming excluded := by
  obtain ⟨ctx, tables, joins, plans, ctxOk, -, tabled, -, -⟩ := toSchema_ok ok
  have built := Context.build_ok ctxOk
  refine ⟨built.distinct_kept, fun m kept => (built.fit m kept).distinct, ?_, ?_, ?_⟩
  · intro m kept
    obtain ⟨t, -, made⟩ := exists_result tabled kept
    exact Model.keyFields_ne_nil.1 (Context.table_ok made).key
  · intro m kept f relation
    obtain ⟨t, -, made⟩ := exists_result tabled kept
    obtain ⟨r, resolved⟩ := (Context.relationships_ok (Context.table_ok made).relationships_ok).1 f relation
    obtain ⟨target, looked, -⟩ := Context.relationship?_eq_ok.1 resolved
    have found := (Context.model?_eq_ok.1 looked).2
    have named := List.find?_some found
    exact ⟨target, built.sublist.subset (List.mem_of_find?_eq_some found), named⟩
  · intro m kept f relation target keptTarget points
    obtain ⟨r, -, resolves⟩ := resolves_of_tabled built tabled kept relation keptTarget (BEq.symm points)
    exact resolves.resolvable

end Datamodel

def Json.AreKeys (names : List Json) : Prop :=
  ∀ name ∈ names, name.canBeKey = true

instance (names : List Json) : Decidable (Json.AreKeys names) :=
  inferInstanceAs (Decidable (∀ name ∈ names, _))

namespace Field

structure Keyable (f : Field) (naming : Naming) : Prop where
  name : f.name.canBeKey = true
  text : naming.remapColumns = true → f.mappedName.isGiven = false → f.name.kind = .string

def Typeable (f : Field) : Prop :=
  f.isEnum = true ∨ f.type.canBeKey = true

structure Linkable (f : Field) (m target : Model) : Prop where
  lists : f.isList.holds = true → ∀ back ∈ f.backReference? m target, back.isList.holds = true →
    (∀ id ∈ m.idField?, id.name.canBeKey = true) ∧ (∀ id ∈ target.idField?, id.name.canBeKey = true) ∧
      ((m.name == target.name) = true → (f.name.lt? back.name).isOk = true)
  list : f.isList.holds = true → ∀ back ∈ f.backReference? m target, back.isList.holds = false →
    Json.AreKeys back.fromFields
  single : f.isList.holds = false →
    (f.fromFields ≠ [] → Json.AreKeys f.fromFields ∧ Json.AreKeys (Context.keyOr f.toFields target)) ∧
      (f.fromFields = [] → ∀ back ∈ f.backReference? m target, back.fromFields ≠ [] →
        Json.AreKeys (Context.keyOr back.toFields m) ∧ Json.AreKeys back.fromFields)

def Joining (f : Field) (m target : Model) : Prop :=
  f.isList.holds = true ∧ (∃ back ∈ f.backReference? m target, back.isList.holds = true) ∧
    target.name.lt? m.name = .ok false

end Field

structure Model.Usable (m : Model) (naming : Naming) : Prop where
  name : m.name.kind = .string
  tableName : naming.remapTables = true → m.sourceName.kind = .string
  columns : ∀ f ∈ m.columnFields, f.Keyable naming ∧ f.Typeable
  keys : Json.AreKeys m.keyFields
  targets : ∀ f ∈ m.relationFields, f.type.canBeKey = true

/-- The values of a datamodel can be used for everything that its mapping makes of them. -/
structure Datamodel.Usable (d : Datamodel) (naming : Naming) (excluded : List Json) : Prop where
  names : ∀ m ∈ d.models, m.name.canBeKey = true
  models : ∀ m ∈ d.kept excluded, m.Usable naming
  relations : ∀ m ∈ d.kept excluded, ∀ f ∈ m.relationFields, ∀ target ∈ d.kept excluded,
    (target.name == f.type) = true → f.name.canBeKey = true ∧ f.Linkable m target
  joins : ∀ m ∈ d.kept excluded, ∀ f ∈ m.relationFields, ∀ target ∈ d.kept excluded,
    (target.name == f.type) = true → f.Joining m target →
      (∀ id ∈ m.idField?, id.Typeable) ∧ ∀ id ∈ target.idField?, id.Typeable

instance (f : Field) (naming : Naming) : Decidable (f.Keyable naming) :=
  decidable_of_iff (_ ∧ _) ⟨fun ⟨name, text⟩ => ⟨name, text⟩, fun ⟨name, text⟩ => ⟨name, text⟩⟩

instance (f : Field) : Decidable f.Typeable :=
  inferInstanceAs (Decidable (_ ∨ _))

set_option synthInstance.maxSize 512 in
instance (f : Field) (m target : Model) : Decidable (f.Linkable m target) :=
  decidable_of_iff (_ ∧ _ ∧ _)
    ⟨fun ⟨lists, list, single⟩ => ⟨lists, list, single⟩, fun ⟨lists, list, single⟩ => ⟨lists, list, single⟩⟩

instance (f : Field) (m target : Model) : Decidable (f.Joining m target) :=
  inferInstanceAs (Decidable (_ ∧ _ ∧ _))

instance (m : Model) (naming : Naming) : Decidable (m.Usable naming) :=
  decidable_of_iff (_ ∧ _ ∧ _ ∧ _ ∧ _)
    ⟨fun ⟨name, tableName, columns, keys, targets⟩ => ⟨name, tableName, columns, keys, targets⟩,
      fun ⟨name, tableName, columns, keys, targets⟩ => ⟨name, tableName, columns, keys, targets⟩⟩

instance (d : Datamodel) (naming : Naming) (excluded : List Json) : Decidable (d.Usable naming excluded) :=
  decidable_of_iff (_ ∧ _ ∧ _ ∧ _) ⟨fun ⟨names, models, relations, joins⟩ => ⟨names, models, relations, joins⟩,
    fun ⟨names, models, relations, joins⟩ => ⟨names, models, relations, joins⟩⟩

namespace Datamodel

variable {d : Datamodel} {m : Model}

theorem Texts.sourceName (texts : d.Texts) (member : m ∈ d.models) : m.sourceName.kind = .string := by
  rw [Model.sourceName, Json.orElse]
  split
  · rename_i mapped
    exact texts.mappedNames m member mapped
  · exact texts.models m member

theorem Texts.keyFields (texts : d.Texts) (member : m ∈ d.models) : ∀ name ∈ m.keyFields, name.kind = .string := by
  intro name known
  rw [Model.keyFields] at known
  split at known
  · rename_i key
    exact texts.keys m member _ key name known
  · rw [List.mem_map] at known
    obtain ⟨f, id, rfl⟩ := known
    exact (texts.fields m member f (List.mem_of_find?_eq_some (Option.mem_toList.1 id))).1

theorem Texts.keyOr (texts : d.Texts) (member : m ∈ d.models) {names : List Json}
    (given : ∀ name ∈ names, name.kind = .string) : ∀ name ∈ Context.keyOr names m, name.kind = .string := by
  rw [Context.keyOr]
  split
  · exact texts.keyFields member
  · exact given

theorem Texts.usable (texts : d.Texts) (naming : Naming) (excluded : List Json) :
    d.Usable naming excluded := by
  have keysOf {names : List Json} (given : ∀ name ∈ names, name.kind = .string) : Json.AreKeys names :=
    fun name member => Json.canBeKey_of_kind (given name member)
  have named {m : Model} (member : m ∈ d.models) {f : Field} (field : f ∈ m.fields) : f.name.canBeKey = true :=
    Json.canBeKey_of_kind (texts.fields m member f field).1
  have typed {m : Model} (member : m ∈ d.models) {f : Field} (field : f ∈ m.fields) : f.type.canBeKey = true :=
    Json.canBeKey_of_kind (texts.fields m member f field).2
  have references {m : Model} (member : m ∈ d.models) {f : Field} (field : f ∈ m.fields) :
      (∀ name ∈ f.fromFields, name.kind = .string) ∧ ∀ name ∈ f.toFields, name.kind = .string :=
    List.forall_mem_append.1 (texts.references m member f field)
  have idOf {m : Model} {id : Field} (found : id ∈ m.idField?) : id ∈ m.fields := List.mem_of_find?_eq_some found
  refine ⟨fun m member => Json.canBeKey_of_kind (texts.models m member), ?_, ?_, ?_⟩
  · intro m kept
    have member := List.mem_of_mem_filter kept
    exact {
      name := texts.models m member
      tableName := fun _ => texts.sourceName member
      columns := fun f column =>
        have field := List.mem_of_mem_filter column
        ⟨⟨named member field, fun _ _ => (texts.fields m member f field).1⟩, .inr (typed member field)⟩
      keys := keysOf (texts.keyFields member)
      targets := fun f relation => typed member (List.mem_of_mem_filter relation) }
  · intro m kept f relation target keptTarget points
    have member := List.mem_of_mem_filter kept
    have memberTarget := List.mem_of_mem_filter keptTarget
    have field := List.mem_of_mem_filter relation
    have backField {back : Field} (found : back ∈ f.backReference? m target) : back ∈ target.fields :=
      (Field.backReference?_completes found).member
    refine ⟨named member field, fun _ back found _ => ⟨?_, ?_, fun _ => ?_⟩, fun _ back found _ => ?_,
      fun _ => ⟨fun _ => ?_, fun _ back found _ => ?_⟩⟩
    · exact fun id source => named member (idOf source)
    · exact fun id dest => named memberTarget (idOf dest)
    · obtain ⟨before, compared⟩ := Json.exists_lt? (texts.fields m member f field).1
        (texts.fields target memberTarget back (backField found)).1
      rw [compared]
      rfl
    · exact keysOf (references memberTarget (backField found)).1
    · exact ⟨keysOf (references member field).1, keysOf (texts.keyOr memberTarget (references member field).2)⟩
    · exact ⟨keysOf (texts.keyOr member (references memberTarget (backField found)).2),
        keysOf (references memberTarget (backField found)).1⟩
  · intro m kept f relation target keptTarget points joining
    exact ⟨fun id source => .inr (typed (List.mem_of_mem_filter kept) (idOf source)),
      fun id dest => .inr (typed (List.mem_of_mem_filter keptTarget) (idOf dest))⟩

end Datamodel

end SyncSchema

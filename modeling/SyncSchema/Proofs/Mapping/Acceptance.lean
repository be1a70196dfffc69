import SyncSchema.Datamodel.Decode
import SyncSchema.Proofs.Mapping.Resolving
import SyncSchema.Proofs.Samples

namespace SyncSchema
open Outcome

namespace JoinTable

variable {d : Datamodel} {naming : Naming} {excluded : List Json} {ctx : Context} {m model other : Model} {f : Field}

structure Joinable (m : Model) : Prop where
  text : m.name.kind = .string
  id : ∃ id ∈ m.idField?, id.name.canBeKey = true

theorem Joinable.side_isOk (joinable : Joinable m) (ctx : Context) (column : String) {id : Field}
    (source : m.idField? = some id) : ∃ r, side ctx column m id = .ok r := by
  obtain ⟨constant, named⟩ := Naming.exists_constant?_iff.2 joinable.text
  obtain ⟨id', source', usable⟩ := joinable.id
  cases source.symm.trans source'
  simp only [side, bind_eq_ok, mapError_eq_ok, Context.columnKeysOf_eq_ok, pure_eq_ok]
  exact ⟨_, _, ⟨Json.canBeKey_of_kind joinable.text, by simpa using usable, rfl⟩, constant, named, rfl⟩

theorem column_judged (id : Field) : Judged (column id).result id.Typeable True := by
  rw [column, Run.result_bind]
  exact (id.columnType_judged _).bind_pure _

theorem table_judged (ctx : Context) {relation : Json} (given : relation.isGiven = true) (here : Joinable model)
    (there : Joinable other) :
    Judged (table ctx model other relation).result
      ((∀ id ∈ model.idField?, id.Typeable) ∧ ∀ id ∈ other.idField?, id.Typeable) True := by
  obtain ⟨swapped, compared⟩ := Json.exists_lt? there.text here.text
  have ends : ∀ pair : Model × Model, pair = (if swapped then (other, model) else (model, other)) →
      (Joinable pair.1 ∧ Joinable pair.2) ∧
        ((∀ id ∈ pair.1.idField?, id.Typeable) ∧ (∀ id ∈ pair.2.idField?, id.Typeable) ↔
          (∀ id ∈ model.idField?, id.Typeable) ∧ ∀ id ∈ other.idField?, id.Typeable) := by
    rintro _ rfl
    cases swapped with
    | true => exact ⟨⟨there, here⟩, and_comm⟩
    | false => exact ⟨⟨here, there⟩, Iff.rfl⟩
  rw [table, name_of_given given, Run.check_ok_bind, compared, Run.check_ok_bind]
  generalize (if swapped = true then (other, model) else (model, other)) = pair at ends ⊢
  obtain ⟨a, b⟩ := pair
  obtain ⟨⟨endA, endB⟩, types⟩ := ends (a, b) rfl
  obtain ⟨idA, sourceA, -⟩ := endA.id
  obtain ⟨idB, sourceB, -⟩ := endB.id
  have joinText : (Json.str ("_" ++ relation.display)).kind = .string := rfl
  obtain ⟨entry, resolved⟩ := Naming.resolveTableName_isOk joinText ctx.naming
  obtain ⟨sideA, sideAOk⟩ := endA.side_isOk ctx "A" sourceA
  obtain ⟨sideB, sideBOk⟩ := endB.side_isOk ctx "B" sourceB
  simp only [Run.result_bind, Run.result_check, Run.result_lift, Run.result_pure, identity_eq_ok.2 sourceA,
    identity_eq_ok.2 sourceB, resolved, sideAOk, sideBOk, ok_bind, Except.mapError]
  refine .congr (.value_bind (column_judged idA) fun _ _ _ => (column_judged idB).bind_pure _) ?_
  rw [← types, sourceA, sourceB]
  simp only [Option.mem_some_iff, forall_eq']

theorem plansOf_isOk {rows : List (Model × Field)} (each : ∀ row ∈ rows, ∃ p, plan? ctx row.1 row.2 = .ok p)
    (seen : List Plan) : ∃ plans, plansOf ctx seen rows = .ok plans := by
  induction rows generalizing seen with
  | nil => exact ⟨[], rfl⟩
  | cons row rest ih =>
    obtain ⟨m, f⟩ := row
    rw [List.forall_mem_cons] at each
    obtain ⟨⟨outcome, called⟩, each⟩ := each
    rw [plansOf, called, ok_bind]
    cases outcome with
    | none => exact ih each seen
    | some p =>
      dsimp only
      split
      · exact ih each seen
      · obtain ⟨others, planned⟩ := ih each (p :: seen)
        exact ⟨p :: others, by rw [planned]; rfl⟩

section

variable {tables : List Table} (built : ctx.Built d naming excluded)
  (tabled : List.Forall₂ (fun m t => (ctx.table m).result = .ok t) (d.kept excluded) tables)
include built tabled

theorem plan?_isOk_of_tabled (kept : m ∈ d.kept excluded) (relation : f ∈ m.relationFields) :
    ∃ p, plan? ctx m f = .ok p := by
  obtain ⟨t, -, made⟩ := exists_result tabled kept
  obtain ⟨outcome, ok⟩ := (Context.relationships_ok (Context.table_ok made).relationships_ok).1 f relation
  obtain ⟨target, looked, -⟩ := Context.relationship?_eq_ok.1 ok
  rw [plan?, looked, ok_bind]
  split
  · exact ⟨none, rfl⟩
  dsimp only
  split
  · exact ⟨none, rfl⟩
  · rename_i here
    obtain ⟨keptTarget, -⟩ := built.kept_of_model? looked (Bool.not_eq_true _ ▸ here)
    obtain ⟨name, text⟩ := Datamodel.text_of_tabled tabled m kept
    obtain ⟨nameTarget, textTarget⟩ := Datamodel.text_of_tabled tabled target keptTarget
    rw [text, textTarget, Json.lt?_str, name_of_given (Model.isRelation_of_mem relation), ok_bind, ok_bind]
    split
    · exact ⟨none, rfl⟩
    · split <;> exact ⟨_, rfl⟩

theorem Calls.joinable {back : Field} {p : Plan} (calls : Calls ctx m f other back p) (kept : m ∈ d.kept excluded)
    (relation : f ∈ m.relationFields) (keptOther : other ∈ d.kept excluded) : Joinable m ∧ Joinable other := by
  obtain ⟨-, points⟩ := built.kept_of_model? calls.looked calls.here
  obtain ⟨r, -, resolves⟩ := Datamodel.resolves_of_tabled built tabled kept relation keptOther (BEq.symm points)
  obtain ⟨name, text⟩ := Datamodel.text_of_tabled tabled m kept
  obtain ⟨nameOther, textOther⟩ := Datamodel.text_of_tabled tabled other keptOther
  cases resolves with
  | toMany _ found single =>
    cases calls.found.symm.trans found
    simp [calls.lists] at single
  | toOneHere single => simp [calls.list] at single
  | toOneThere single => simp [calls.list] at single
  | through _ _ _ _ source dest _ usable =>
    exact ⟨⟨by rw [text]; rfl, _, source, usable.2.1⟩, by rw [textOther]; rfl, _, dest, usable.2.2⟩

theorem tables_judged :
    Judged (JoinTable.tables ctx (d.kept excluded)).result
      (∀ m ∈ d.kept excluded, ∀ f ∈ m.relationFields, ∀ target ∈ d.kept excluded, (target.name == f.type) = true →
        f.Joining m target → (∀ id ∈ m.idField?, id.Typeable) ∧ ∀ id ∈ target.idField?, id.Typeable) True := by
  have planned : ∃ plans, d.joinPlans ctx excluded = .ok plans := by
    refine plansOf_isOk ?_ []
    rintro ⟨m, f⟩ row
    obtain ⟨kept, relation⟩ := Model.mem_relationRows.1 row
    exact plan?_isOk_of_tabled built tabled kept relation
  obtain ⟨plans, planned⟩ := planned
  have each : ∀ p ∈ plans, Judged (table ctx p.model p.other p.relation).result
      ((∀ id ∈ p.model.idField?, id.Typeable) ∧ ∀ id ∈ p.other.idField?, id.Typeable) True := by
    intro p member
    obtain ⟨m, kept, f, relation, target, keptTarget, back, calls⟩ :=
      Datamodel.calls_of_mem_joinPlans built planned member
    obtain ⟨here, there⟩ := calls.joinable built tabled kept relation keptTarget
    rw [calls.plan_eq]
    exact table_judged ctx (Model.isRelation_of_mem relation) here there
  rw [JoinTable.tables, tablesOf_result planned]
  refine (Judged.mapM each).imp ⟨?_, ?_⟩ fun _ _ _ => trivial
  · rintro typeable m kept f relation target keptTarget points ⟨list, ⟨back, found, lists⟩, ordered⟩
    have calls := calls_of_lists built keptTarget (Datamodel.text_of_tabled tabled target keptTarget) relation list
      (BEq.symm points) found lists ordered
    obtain ⟨q, member, same⟩ := Datamodel.exists_plan_of_calls planned kept relation calls
    simp only [Plan.isSame, Bool.and_eq_true] at same
    obtain ⟨keptModel, keptOther⟩ := Datamodel.mem_kept_of_joinPlans built planned member
    rw [built.distinct_kept.eq_of_beq kept keptModel same.1.1,
      built.distinct_kept.eq_of_beq keptTarget keptOther same.1.2]
    exact typeable q member
  · intro typeable p member
    obtain ⟨m, kept, f, relation, target, keptTarget, back, calls⟩ :=
      Datamodel.calls_of_mem_joinPlans built planned member
    obtain ⟨-, points⟩ := built.kept_of_model? calls.looked calls.here
    rw [calls.plan_eq]
    exact typeable m kept f relation target keptTarget points
      ⟨calls.list, ⟨back, calls.found, calls.lists⟩, calls.ordered⟩

end

end JoinTable

namespace Datamodel

variable {d : Datamodel} {naming : Naming} {excluded : List Json}

theorem toSchema_judged (d : Datamodel) (naming : Naming) (texts : ∀ name ∈ excluded, name.kind = .string) :
    Judged (d.toSchema naming excluded).result (d.Usable naming excluded) (d.Accepts naming excluded) := by
  simp only [toSchema, Run.result_bind, Run.result_mapM, Run.result_forM_log, Run.result_pure, ok_bind]
  refine ((Context.build_judged d naming texts).bind fun ctx ctxOk _ =>
    (Judged.mapM fun m _ => Context.table_judged (Context.build_ok ctxOk)).bind fun tables tabled _ =>
      (JoinTable.tables_judged (Context.build_ok ctxOk) (mapM_eq_ok.1 tabled)).bind_pure _).imp ⟨?_, ?_⟩ ?_
  · rintro ⟨⟨names, -⟩, tables, joins⟩
    exact {
      names
      models := fun m kept => (tables m kept).1
      relations := fun m kept f relation target keptTarget points =>
        have follows := (tables m kept).2 f relation
        ⟨follows.2 target keptTarget points, (follows.1.2 target keptTarget points).2⟩
      joins }
  · intro usable
    have columns : ∀ m ∈ d.kept excluded, ∀ f ∈ m.columnFields, f.Keyable naming :=
      fun m kept f column => ((usable.models m kept).columns f column).1
    refine ⟨⟨usable.names, columns⟩, fun m kept => ⟨usable.models m kept, fun f relation => ?_⟩, usable.joins⟩
    refine ⟨⟨(usable.models m kept).targets f relation, ?_⟩, ?_⟩
    · intro target keptTarget points
      exact ⟨(usable.models target keptTarget).name, (usable.relations m kept f relation target keptTarget points).2⟩
    · exact fun target keptTarget points => (usable.relations m kept f relation target keptTarget points).1
  · intro accepts
    exact ⟨⟨accepts.models, accepts.columns⟩, fun m kept => ⟨Model.keyFields_ne_nil.2 (accepts.keys m kept),
      fun f relation => ⟨accepts.targets m kept f relation, accepts.relations m kept f relation⟩⟩, trivial⟩

theorem toSchema_isOk_of_accepts (texts : d.Texts) (excludedTexts : ∀ name ∈ excluded, name.kind = .string)
    (accepts : d.Accepts naming excluded) : ∃ s, (d.toSchema naming excluded).result = .ok s :=
  (toSchema_judged d naming excludedTexts).isOk (texts.usable naming excluded) accepts

/-- Where names are text, a datamodel has a schema exactly if it meets the conditions. -/
theorem toSchema_isOk_iff (texts : d.Texts) (excludedTexts : ∀ name ∈ excluded, name.kind = .string) :
    (∃ s, (d.toSchema naming excluded).result = .ok s) ↔ d.Accepts naming excluded := by
  constructor
  · rintro ⟨s, ok⟩
    exact accepts_of_ok ok
  · exact toSchema_isOk_of_accepts texts excludedTexts

end Datamodel

theorem Sample.retired_isOk_iff : retired.Texts ∧ (∀ name ∈ [Json.str "tag"], name.kind = .string) ∧
    retired.Accepts ⟨true, true⟩ [.str "tag"] ∧ ¬retired.Accepts ⟨true, true⟩ [] ∧
    ((∃ s, (retired.toSchema ⟨true, true⟩ [.str "tag"]).result = .ok s) ↔
      retired.Accepts ⟨true, true⟩ [.str "tag"]) := by
  have texts : retired.Texts := by decide +kernel
  have excludedTexts : ∀ name ∈ [Json.str "tag"], name.kind = .string := by decide
  exact ⟨texts, excludedTexts, by decide +kernel, by decide +kernel, Datamodel.toSchema_isOk_iff texts excludedTexts⟩

/-- The mapping of a datamodel ends in a schema, in a report of parts that do not fit, or in a misuse of a value that
cannot be used. -/
theorem Datamodel.toSchema_foreseen {excluded : List Json} (d : Datamodel) (naming : Naming)
    (texts : ∀ name ∈ excluded, name.kind = .string) :
    (∃ s, (d.toSchema naming excluded).result = .ok s ∧ d.Usable naming excluded ∧ d.Accepts naming excluded) ∨
    (∃ p, (d.toSchema naming excluded).result = .error (.problem p) ∧ ¬d.Accepts naming excluded) ∨
    ∃ misuse, (d.toSchema naming excluded).result = .error (.misuse misuse) ∧ ¬d.Usable naming excluded := by
  have judged := toSchema_judged d naming texts
  generalize outcome : (d.toSchema naming excluded).result = result at judged
  cases judged with
  | ok usable => exact .inl ⟨_, rfl, usable, accepts_of_ok outcome⟩
  | problem fault => exact .inr (.inl ⟨_, rfl, fault⟩)
  | misuse fault => exact .inr (.inr ⟨_, rfl, fault⟩)

namespace Sample

def nested : Datamodel where
  models := [{ model "Post" [id "id" "Int"] with primaryKey := some [.arr [.str "id"]] }]
  enums := []

def nestedDocument : Json :=
  .obj [("models", .arr [.obj [
    ("name", .str "Post"),
    ("fields", .arr [.obj [("name", .str "id"), ("type", .str "Int"), ("kind", .str "scalar"),
      ("isRequired", .bool true), ("isList", .bool false), ("isId", .bool true), ("isUnique", .bool false)]]),
    ("primaryKey", .obj [("fields", .arr [.arr [.str "id"]])])]])]

theorem nested_foreseen : (∀ name ∈ ([] : List Json), name.kind = .string) ∧ nested.Accepts ⟨false, false⟩ [] ∧
    ∃ misuse, (nested.toSchema ⟨false, false⟩ []).result = .error (.misuse misuse) ∧
      ¬nested.Usable ⟨false, false⟩ [] := by
  have texts : ∀ name ∈ ([] : List Json), name.kind = .string := by decide
  have accepts : nested.Accepts ⟨false, false⟩ [] := by decide +kernel
  have unusable : ¬nested.Usable ⟨false, false⟩ [] := by decide +kernel
  refine ⟨texts, accepts, ?_⟩
  rcases Datamodel.toSchema_foreseen nested ⟨false, false⟩ texts with ⟨_, -, usable, -⟩ | ⟨_, -, fault⟩ | misuse
  · exact absurd usable unusable
  · exact absurd accepts fault
  · exact misuse

end Sample

theorem Datamodel.not_forall_foreseen : ¬∀ (document : Json) (d : Datamodel) (naming : Naming) (names : List String),
    (parse document).result = .ok d →
      (∃ s, (d.toSchema naming (names.map .str)).result = .ok s) ∨
        ∃ p, (d.toSchema naming (names.map .str)).result = .error (.problem p) := by
  intro claim
  have parsed : (parse Sample.nestedDocument).result = .ok Sample.nested := by rfl
  have stops : (Sample.nested.toSchema ⟨false, false⟩ []).result = .error (.misuse (.notAKey .list)) := by rfl
  rcases claim Sample.nestedDocument Sample.nested ⟨false, false⟩ [] parsed with ⟨s, ok⟩ | ⟨p, failed⟩
  · rw [List.map_nil, stops] at ok
    cases ok
  · rw [List.map_nil, stops] at failed
    cases failed

end SyncSchema

import SyncSchema.Datamodel.Decode
import SyncSchema.Proofs.Outcome

namespace SyncSchema
open Outcome

namespace Json

variable {value found : Json} {key : String} {items : List Json}

def entry (members : List (String × Json)) (key : String) : Json :=
  (members.lookup key).getD .null

def IsIterable (value : Json) : Prop :=
  value.kind = .list ∨ value.kind = .string ∨ value.kind = .object

def IsSequence (value : Json) : Prop :=
  value.isGiven = true → value.IsIterable

def Lists (value : Json) (items : List Json) : Prop :=
  if value.isGiven then value = .arr items else items = []

theorem member?_eq_ok :
    value.member? key = .ok found ↔ ∃ members, value = .obj members ∧ members.lookup key = some found := by
  cases value with
  | obj members => cases h : members.lookup key <;> simp [member?, h]
  | _ => simp [member?]

theorem memberOr?_eq_ok {absent : Json} :
    value.memberOr? key absent = .ok found ↔
      ∃ members, value = .obj members ∧ (members.lookup key).getD absent = found := by
  cases value <;> simp [memberOr?]

theorem items?_eq_ok : value.items? = .ok items ↔ value.IsIterable ∧ value.parts = items := by
  cases value <;> simp [items?, IsIterable, kind]

theorem parts_of_not_given (absent : value.isGiven = false) : value.parts = [] := by
  cases value with
  | arr items => simpa [isGiven, parts] using absent
  | str s => simpa [isGiven, parts] using absent
  | obj members => simpa [isGiven, parts] using absent
  | _ => rfl

theorem itemsIfGiven?_eq_ok : value.itemsIfGiven? = .ok items ↔ value.IsSequence ∧ value.parts = items := by
  rw [itemsIfGiven?, IsSequence]
  by_cases given : value.isGiven = true
  · simp [given, items?_eq_ok]
  · simp [given, parts_of_not_given (Bool.not_eq_true _ ▸ given)]

/-- Parts that are objects are the items of a list: the parts of a text and of an object are texts. -/
theorem lists_of_parts (sequence : value.IsSequence) (objects : ∀ part ∈ value.parts, part.kind = .object) :
    value.Lists value.parts := by
  rw [Lists]
  split
  · rename_i given
    cases value with
    | arr items => rfl
    | str s =>
      cases chars : s.toList with
      | nil => simp [String.toList_eq_nil_iff.1 chars] at given
      | cons c rest => simp [parts, chars, kind] at objects
    | obj members =>
      cases members with
      | nil => cases given
      | cons member members => simp [parts, kind] at objects
    | _ => simp [IsSequence, IsIterable, given, kind] at sequence
  · rename_i absent
    exact parts_of_not_given (Bool.not_eq_true _ ▸ absent)

theorem Lists.parts_eq (lists : value.Lists items) : value.parts = items := by
  rw [Lists] at lists
  split at lists
  · rw [lists, parts]
  · rename_i absent
    rw [parts_of_not_given (Bool.not_eq_true _ ▸ absent), lists]

theorem Lists.isSequence (lists : value.Lists items) : value.IsSequence := by
  intro given
  rw [Lists, if_pos given] at lists
  rw [lists]
  exact .inl rfl

end Json

namespace Outcome

variable {α β ε ε' : Type}

theorem mapM_zipIdx_cases (read : α → Except ε β) (problem : α → Nat → ε → ε') (items : List α) (start : Nat) :
    (∃ results, (items.zipIdx start).mapM (fun (raw, index) => (read raw).mapError (problem raw index)) = .ok results ∧
      List.Forall₂ (fun raw result => read raw = .ok result) items results) ∨
    ∃ before raw after failure, items = before ++ raw :: after ∧ (∀ other ∈ before, ∃ result, read other = .ok result) ∧
      read raw = .error failure ∧
      (items.zipIdx start).mapM (fun (raw, index) => (read raw).mapError (problem raw index)) =
        .error (problem raw (start + before.length) failure) := by
  induction items generalizing start with
  | nil => exact .inl ⟨[], rfl, .nil⟩
  | cons item rest ih =>
    rw [List.zipIdx_cons, List.mapM_cons]
    dsimp only
    cases here : read item with
    | error failure => exact .inr ⟨[], item, rest, failure, rfl, List.forall_mem_nil _, here, rfl⟩
    | ok result =>
      rcases ih (start + 1) with ⟨results, all, related⟩ | ⟨before, raw, after, failure, rfl, fine, failed, stopped⟩
      · exact .inl ⟨result :: results, by rw [all]; rfl, .cons here related⟩
      · have fine := List.forall_mem_cons.2 ⟨⟨result, here⟩, fine⟩
        refine .inr ⟨item :: before, raw, after, failure, rfl, fine, failed, ?_⟩
        rw [stopped, List.length_cons, Nat.add_assoc, Nat.add_comm 1]
        rfl

end Outcome

namespace Field

variable {f : Field} {raw : Json}

def WellFormed (raw : Json) : Prop :=
  ∃ members, raw = .obj members ∧ (members.lookup "name").isSome = true ∧ (members.lookup "type").isSome = true ∧
    (Json.entry members "relationFromFields").IsSequence ∧ (Json.entry members "relationToFields").IsSequence

structure IsReadFrom (f : Field) (raw : Json) : Prop where
  name : raw.member? "name" = .ok f.name
  type : raw.member? "type" = .ok f.type

theorem ofJson?_ok (ok : ofJson? raw = .ok f) : WellFormed raw ∧ f.IsReadFrom raw := by
  simp only [ofJson?, bind_eq_ok, pure_eq_ok] at ok
  obtain ⟨name, named, type, typed, _, -, _, -, _, -, _, -, _, -, _, -, _, -, _, sources, _, source, _, dests, _, dest,
    _, -, rfl⟩ := ok
  obtain ⟨members, rfl, hasName⟩ := Json.member?_eq_ok.1 named
  obtain ⟨_, ⟨⟩, hasType⟩ := Json.member?_eq_ok.1 typed
  obtain ⟨_, ⟨⟩, rfl⟩ := Json.memberOr?_eq_ok.1 sources
  obtain ⟨_, ⟨⟩, rfl⟩ := Json.memberOr?_eq_ok.1 dests
  have sequences := (Json.itemsIfGiven?_eq_ok.1 source).1
  have sequences' := (Json.itemsIfGiven?_eq_ok.1 dest).1
  exact ⟨⟨members, rfl, by rw [hasName]; rfl, by rw [hasType]; rfl, sequences, sequences'⟩, named, typed⟩

theorem ofJson?_isOk (well : WellFormed raw) : ∃ f, ofJson? raw = .ok f := by
  obtain ⟨members, rfl, hasName, hasType, sources, dests⟩ := well
  obtain ⟨name, named⟩ := Option.isSome_iff_exists.1 hasName
  obtain ⟨type, typed⟩ := Option.isSome_iff_exists.1 hasType
  have source := Json.itemsIfGiven?_eq_ok.2 ⟨sources, rfl⟩
  have dest := Json.itemsIfGiven?_eq_ok.2 ⟨dests, rfl⟩
  rw [Json.entry] at source dest
  exact ⟨_, by simp only [ofJson?, Json.member?, Json.memberOr?, named, typed, source, dest, ok_bind]; rfl⟩

theorem WellFormed.isObject (well : WellFormed raw) : raw.kind = .object := by
  obtain ⟨members, rfl, -⟩ := well
  rfl

end Field

theorem Json.mapM_items_ok {α : Type} {decode : Json → Except Misuse α} {wellFormed : Json → Prop}
    {reads : α → Json → Prop} (step : ∀ raw a, decode raw = .ok a → wellFormed raw ∧ reads a raw)
    (object : ∀ raw, wellFormed raw → raw.kind = .object) {value : Json} (sequence : value.IsSequence)
    {results : List α} (ok : value.parts.mapM decode = .ok results) :
    ∃ items, value.Lists items ∧ (∀ item ∈ items, wellFormed item) ∧ List.Forall₂ reads results items := by
  rw [mapM_eq_ok] at ok
  have well : ∀ item ∈ value.parts, wellFormed item := fun item member =>
    have ⟨result, _, made⟩ := exists_result ok member
    (step item result made).1
  exact ⟨value.parts, lists_of_parts sequence fun item member => object item (well item member), well,
    (ok.imp fun raw a made => (step raw a made).2).flip⟩

namespace Model

variable {m : Model} {raw : Json}

def WellFormed (raw : Json) : Prop :=
  ∃ members, raw = .obj members ∧ (members.lookup "name").isSome = true ∧
    (∃ items, (Json.entry members "fields").Lists items ∧ ∀ item ∈ items, Field.WellFormed item) ∧
    ((Json.entry members "primaryKey").isGiven = true →
      ∃ names, (Json.entry members "primaryKey").member? "fields" = .ok names ∧ names.IsIterable) ∧
    (Json.entry members "uniqueFields").IsSequence ∧
    (∀ part ∈ (Json.entry members "uniqueFields").parts, part.IsIterable) ∧
    (Json.entry members "uniqueIndexes").IsSequence

structure IsReadFrom (m : Model) (raw : Json) : Prop where
  name : raw.member? "name" = .ok m.name
  fields : ∃ members items, raw = .obj members ∧ (Json.entry members "fields").Lists items ∧
    List.Forall₂ Field.IsReadFrom m.fields items

theorem keyOfJson?_isOk_iff {declared : Json} : (∃ key, keyOfJson? declared = .ok key) ↔
    (declared.isGiven = true → ∃ names, declared.member? "fields" = .ok names ∧ names.IsIterable) := by
  by_cases given : declared.isGiven = true
  · simp [keyOfJson?, given, bind_eq_ok, map_eq_ok, Json.items?_eq_ok]
  · simp [keyOfJson?, given, pure_eq_ok]

theorem ofJson?_ok (ok : ofJson? raw = .ok m) : WellFormed raw ∧ m.IsReadFrom raw := by
  simp only [ofJson?, bind_eq_ok, pure_eq_ok] at ok
  obtain ⟨_, declared, name, named, _, -, _, listed, _, gone, fields, fieldsOk, key, keyOk, _, uniques, _, gone', _,
    uniquesOk, _, indexes, _, gone'', rfl⟩ := ok
  obtain ⟨members, rfl, hasName⟩ := Json.member?_eq_ok.1 named
  obtain ⟨_, ⟨⟩, rfl⟩ := Json.memberOr?_eq_ok.1 declared
  obtain ⟨_, ⟨⟩, rfl⟩ := Json.memberOr?_eq_ok.1 listed
  obtain ⟨_, ⟨⟩, rfl⟩ := Json.memberOr?_eq_ok.1 uniques
  obtain ⟨_, ⟨⟩, rfl⟩ := Json.memberOr?_eq_ok.1 indexes
  obtain ⟨sequence, rfl⟩ := Json.itemsIfGiven?_eq_ok.1 gone
  obtain ⟨sequence', rfl⟩ := Json.itemsIfGiven?_eq_ok.1 gone'
  obtain ⟨items, lists, well, related⟩ :=
    Json.mapM_items_ok (fun _ _ => Field.ofJson?_ok) (fun _ => Field.WellFormed.isObject) sequence fieldsOk
  have iterable : ∀ part ∈ (Json.entry members "uniqueFields").parts, part.IsIterable := fun part member =>
    have ⟨_, _, made⟩ := exists_result (mapM_eq_ok.1 uniquesOk) member
    (Json.items?_eq_ok.1 made).1
  have declared := keyOfJson?_isOk_iff.1 ⟨key, keyOk⟩
  have indexes := (Json.itemsIfGiven?_eq_ok.1 gone'').1
  exact ⟨⟨members, rfl, by rw [hasName]; rfl, ⟨items, lists, well⟩, declared, sequence', iterable, indexes⟩,
    named, members, items, rfl, lists, related⟩

theorem ofJson?_isOk (well : WellFormed raw) : ∃ m, ofJson? raw = .ok m := by
  obtain ⟨members, rfl, hasName, ⟨items, lists, fieldsWell⟩, declared, uniques, iterable, indexes⟩ := well
  obtain ⟨name, named⟩ := Option.isSome_iff_exists.1 hasName
  obtain ⟨key, keyOk⟩ := keyOfJson?_isOk_iff.2 declared
  obtain ⟨fields, fieldsOk⟩ := exists_mapM_eq_ok fun item member => Field.ofJson?_isOk (fieldsWell item member)
  obtain ⟨parts, partsOk⟩ := exists_mapM_eq_ok (f := Json.items?) fun part member =>
    ⟨_, Json.items?_eq_ok.2 ⟨iterable part member, rfl⟩⟩
  have gone := Json.itemsIfGiven?_eq_ok.2 ⟨lists.isSequence, lists.parts_eq⟩
  have gone' := Json.itemsIfGiven?_eq_ok.2 ⟨uniques, rfl⟩
  have gone'' := Json.itemsIfGiven?_eq_ok.2 ⟨indexes, rfl⟩
  rw [Json.entry] at keyOk gone gone' gone'' partsOk
  exact ⟨_, by
    simp only [ofJson?, Json.member?, Json.memberOr?, named, gone, fieldsOk, keyOk, gone', partsOk, gone'', ok_bind]
    rfl⟩

end Model

namespace EnumValue

variable {v : EnumValue} {raw : Json}

def WellFormed (raw : Json) : Prop :=
  ∃ members, raw = .obj members ∧ (members.lookup "name").isSome = true

def IsReadFrom (v : EnumValue) (raw : Json) : Prop :=
  raw.member? "name" = .ok v.name

theorem ofJson?_ok (ok : ofJson? raw = .ok v) : WellFormed raw ∧ v.IsReadFrom raw := by
  simp only [ofJson?, bind_eq_ok, pure_eq_ok] at ok
  obtain ⟨name, named, _, -, rfl⟩ := ok
  obtain ⟨members, rfl, hasName⟩ := Json.member?_eq_ok.1 named
  exact ⟨⟨members, rfl, by rw [hasName]; rfl⟩, named⟩

theorem ofJson?_isOk (well : WellFormed raw) : ∃ v, ofJson? raw = .ok v := by
  obtain ⟨members, rfl, hasName⟩ := well
  obtain ⟨name, named⟩ := Option.isSome_iff_exists.1 hasName
  exact ⟨_, by simp only [ofJson?, Json.member?, Json.memberOr?, named, ok_bind]; rfl⟩

theorem WellFormed.isObject (well : WellFormed raw) : raw.kind = .object := by
  obtain ⟨members, rfl, -⟩ := well
  rfl

end EnumValue

namespace Enum

variable {e : Enum} {raw : Json}

def WellFormed (raw : Json) : Prop :=
  ∃ members, raw = .obj members ∧ (members.lookup "name").isSome = true ∧
    ∃ items, (Json.entry members "values").Lists items ∧ ∀ item ∈ items, EnumValue.WellFormed item

structure IsReadFrom (e : Enum) (raw : Json) : Prop where
  name : raw.member? "name" = .ok e.name
  values : ∃ members items, raw = .obj members ∧ (Json.entry members "values").Lists items ∧
    List.Forall₂ EnumValue.IsReadFrom e.values items

theorem ofJson?_ok (ok : ofJson? raw = .ok e) : WellFormed raw ∧ e.IsReadFrom raw := by
  simp only [ofJson?, bind_eq_ok, pure_eq_ok] at ok
  obtain ⟨name, named, _, listed, _, gone, values, valuesOk, _, -, rfl⟩ := ok
  obtain ⟨members, rfl, hasName⟩ := Json.member?_eq_ok.1 named
  obtain ⟨_, ⟨⟩, rfl⟩ := Json.memberOr?_eq_ok.1 listed
  obtain ⟨sequence, rfl⟩ := Json.itemsIfGiven?_eq_ok.1 gone
  obtain ⟨items, lists, well, related⟩ :=
    Json.mapM_items_ok (fun _ _ => EnumValue.ofJson?_ok) (fun _ => EnumValue.WellFormed.isObject) sequence valuesOk
  exact ⟨⟨members, rfl, by rw [hasName]; rfl, items, lists, well⟩, named, members, items, rfl, lists, related⟩

theorem ofJson?_isOk (well : WellFormed raw) : ∃ e, ofJson? raw = .ok e := by
  obtain ⟨members, rfl, hasName, items, lists, valuesWell⟩ := well
  obtain ⟨name, named⟩ := Option.isSome_iff_exists.1 hasName
  obtain ⟨values, valuesOk⟩ := exists_mapM_eq_ok fun item member => EnumValue.ofJson?_isOk (valuesWell item member)
  have gone := Json.itemsIfGiven?_eq_ok.2 ⟨lists.isSequence, lists.parts_eq⟩
  rw [Json.entry] at gone
  exact ⟨_, by simp only [ofJson?, Json.member?, Json.memberOr?, named, gone, valuesOk, ok_bind]; rfl⟩

end Enum

namespace Datamodel

variable {document : Json}

def Lists (document : Json) (models enums : List Json) : Prop :=
  ∃ outer fields given, document = .obj outer ∧ sectionOf document outer = .obj fields ∧
    fields.lookup "models" = some given ∧ given.Lists models ∧ (Json.entry fields "enums").Lists enums

structure IsReadFrom (d : Datamodel) (document : Json) (models enums : List Json) : Prop where
  lists : Lists document models enums
  modelsWell : ∀ raw ∈ models, Model.WellFormed raw
  enumsWell : ∀ raw ∈ enums, Enum.WellFormed raw
  models : List.Forall₂ Model.IsReadFrom d.models models
  enums : List.Forall₂ Enum.IsReadFrom d.enums enums

/-- Why a document is refused. The first model that is not well formed is named, and only without one an enum. -/
inductive Refused (document : Json) : Problem → Prop
  | notAnObject (other : document.kind ≠ .object) : Refused document (.notAnObject document.kind)
  | noModels {outer : List (String × Json)} (object : document = .obj outer)
      (none : ∀ fields, sectionOf document outer = .obj fields → fields.lookup "models" = none) :
      Refused document .noModels
  | notLists {outer fields : List (String × Json)} (object : document = .obj outer)
      (here : sectionOf document outer = .obj fields) (some : (fields.lookup "models").isSome = true)
      (other : ¬∃ models enums, Lists document models enums) : Refused document .notLists
  | model {before after enums : List Json} {raw : Json} {p : Problem} {fault : String}
      (lists : Lists document (before ++ raw :: after) enums) (fine : ∀ other ∈ before, Model.WellFormed other)
      (malformed : ¬Model.WellFormed raw) (message : p.report.message = s!"Model at index {before.length} is {fault}") :
      Refused document p
  | enum {models before after : List Json} {raw : Json} {p : Problem} {fault : String}
      (lists : Lists document models (before ++ raw :: after)) (modelsFine : ∀ other ∈ models, Model.WellFormed other)
      (fine : ∀ other ∈ before, Enum.WellFormed other) (malformed : ¬Enum.WellFormed raw)
      (message : p.report.message = s!"Enum at index {before.length} is {fault}") : Refused document p

theorem not_of_error {α : Type} {read : Json → Except Misuse α} {wellFormed : Json → Prop} {raw : Json}
    {misuse : Misuse} (reads : ∀ raw, wellFormed raw → ∃ a, read raw = .ok a) (failed : read raw = .error misuse) :
    ¬wellFormed raw := by
  intro well
  obtain ⟨a, made⟩ := reads raw well
  rw [failed] at made
  cases made

theorem report_modelProblem (raw : Json) (index : Nat) (misuse : Misuse) :
    (modelProblem raw index misuse).report.family = .document ∧
      ∃ fault : String, (modelProblem raw index misuse).report.message = s!"Model at index {index} is {fault}" := by
  have malformed (message : String) :
      ∃ fault : String, s!"Model at index {index} is malformed: {message}" = s!"Model at index {index} is {fault}" := by
    refine ⟨"malformed: " ++ message, ?_⟩
    rw [← String.toList_inj]
    simp [toString]
  cases misuse with
  | missing key =>
    refine ⟨rfl, s!"missing required key {Text.literal key}", ?_⟩
    rw [← String.toList_inj]
    simp [modelProblem, Problem.report, Report.make, toString]
  | _ => exact ⟨rfl, malformed _⟩

theorem modelsOfJson?_cases (raws : List Json) :
    (∃ ms, modelsOfJson? raws = .ok ms ∧ (∀ raw ∈ raws, Model.WellFormed raw) ∧
      List.Forall₂ Model.IsReadFrom ms raws) ∨
    ∃ before raw after p, ∃ fault : String, raws = before ++ raw :: after ∧ (∀ other ∈ before, Model.WellFormed other) ∧
      ¬Model.WellFormed raw ∧ modelsOfJson? raws = .error p ∧ p.report.family = .document ∧
      p.report.message = s!"Model at index {before.length} is {fault}" := by
  rcases mapM_zipIdx_cases Model.ofJson? modelProblem raws 0 with
    ⟨ms, ok, read⟩ | ⟨before, raw, after, misuse, rfl, fine, failed, stopped⟩
  · refine .inl ⟨ms, ok, fun raw member => ?_, (read.imp fun _ _ made => (Model.ofJson?_ok made).2).flip⟩
    obtain ⟨m, -, made⟩ := exists_result read member
    exact (Model.ofJson?_ok made).1
  · obtain ⟨family, fault, message⟩ := report_modelProblem raw before.length misuse
    have malformed : ¬Model.WellFormed raw := not_of_error (fun _ => Model.ofJson?_isOk) failed
    rw [Nat.zero_add] at stopped
    refine .inr ⟨before, raw, after, _, fault, rfl, fun other member => ?_, malformed, stopped, family, message⟩
    obtain ⟨m, made⟩ := fine other member
    exact (Model.ofJson?_ok made).1

theorem enumsOfJson?_cases (raws : List Json) :
    (∃ es, enumsOfJson? raws = .ok es ∧ (∀ raw ∈ raws, Enum.WellFormed raw) ∧ List.Forall₂ Enum.IsReadFrom es raws) ∨
    ∃ before raw after p, ∃ fault : String, raws = before ++ raw :: after ∧ (∀ other ∈ before, Enum.WellFormed other) ∧
      ¬Enum.WellFormed raw ∧ enumsOfJson? raws = .error p ∧ p.report.family = .document ∧
      p.report.message = s!"Enum at index {before.length} is {fault}" := by
  rcases mapM_zipIdx_cases Enum.ofJson? (fun _ => Problem.malformedEnum) raws 0 with
    ⟨es, ok, read⟩ | ⟨before, raw, after, misuse, rfl, fine, failed, stopped⟩
  · refine .inl ⟨es, ok, fun raw member => ?_, (read.imp fun _ _ made => (Enum.ofJson?_ok made).2).flip⟩
    obtain ⟨e, -, made⟩ := exists_result read member
    exact (Enum.ofJson?_ok made).1
  · have reported : ∃ fault : String,
        (Problem.malformedEnum before.length misuse).report.message = s!"Enum at index {before.length} is {fault}" := by
      refine ⟨"malformed: " ++ misuse.message, ?_⟩
      rw [← String.toList_inj]
      simp [Problem.report, Report.make, toString]
    obtain ⟨fault, message⟩ := reported
    have malformed : ¬Enum.WellFormed raw := not_of_error (fun _ => Enum.ofJson?_isOk) failed
    rw [Nat.zero_add] at stopped
    refine .inr ⟨before, raw, after, _, fault, rfl, fun other member => ?_, malformed, stopped, rfl, message⟩
    obtain ⟨e, made⟩ := fine other member
    exact (Enum.ofJson?_ok made).1

theorem listOf_eq_arr {fields : List (String × Json)} {key : String} {items : List Json} :
    listOf fields key = .arr items ↔ (Json.entry fields key).Lists items := by
  rw [listOf, Json.orElse, Json.Lists, Json.entry]
  split
  · rfl
  · rw [Json.arr.injEq, eq_comm]

theorem ofJson?_of_lists {models enums : List Json} (lists : Lists document models enums) :
    ofJson? document = do return ⟨← modelsOfJson? models, ← enumsOfJson? enums⟩ := by
  obtain ⟨outer, fields, given, rfl, here, some, modelsHere, enumsHere⟩ := lists
  have modelsHere : listOf fields "models" = .arr models := listOf_eq_arr.2 (by rwa [Json.entry, some])
  have enumsHere : listOf fields "enums" = .arr enums := listOf_eq_arr.2 enumsHere
  simp only [ofJson?, here, some, modelsHere, enumsHere]
  rfl

theorem ofJson?_of_not_lists (unlisted : ¬∃ models enums, Lists document models enums) :
    ∃ p, ofJson? document = .error p ∧ p.report.family = .document ∧ Refused document p := by
  cases document with
  | obj outer =>
    have noModels (none : ∀ fields, sectionOf (.obj outer) outer = .obj fields → fields.lookup "models" = none) :
        Refused (.obj outer) .noModels := .noModels rfl none
    cases here : sectionOf (.obj outer) outer with
    | obj fields =>
      simp only [ofJson?, here]
      cases given : fields.lookup "models" with
      | none =>
        refine ⟨.noModels, rfl, rfl, noModels fun fields' same => ?_⟩
        rw [here, Json.obj.injEq] at same
        rw [← same, given]
      | some value =>
        refine ⟨.notLists, ?_, rfl, .notLists rfl here (by rw [given]; rfl) unlisted⟩
        split
        · contradiction
        · split
          · rename_i models enums modelsHere enumsHere
            rw [listOf_eq_arr, Json.entry, given] at modelsHere
            exact absurd ⟨models, enums, outer, fields, value, rfl, here, given, modelsHere, listOf_eq_arr.1 enumsHere⟩
              unlisted
          · rfl
    | _ =>
      refine ⟨.noModels, by simp only [ofJson?, here], rfl, noModels fun fields same => ?_⟩
      rw [here] at same
      cases same
  | _ => exact ⟨_, rfl, rfl, .notAnObject nofun⟩

/-- Every document is taken as a whole or refused by a report of its own family, which names the first part that is not
well formed. -/
theorem parse_contained (document : Json) :
    (∃ d models enums, (parse document).result = .ok d ∧ d.IsReadFrom document models enums) ∨
    ∃ p, (parse document).result = .error (.problem p) ∧ p.report.family = .document ∧ Refused document p := by
  simp only [parse, Run.result_bind, Run.result_lift, Run.result_log, Run.result_pure]
  by_cases listed : ∃ models enums, Lists document models enums
  · obtain ⟨models, enums, lists⟩ := listed
    rw [ofJson?_of_lists lists]
    rcases modelsOfJson?_cases models with
      ⟨ms, modelsOk, well, read⟩ | ⟨before, raw, after, p, fault, rfl, fine, malformed, failed, family, message⟩
    · rcases enumsOfJson?_cases enums with
        ⟨es, enumsOk, well', read'⟩ | ⟨before, raw, after, p, fault, rfl, fine, malformed, failed, family, message⟩
      · exact .inl ⟨⟨ms, es⟩, models, enums, by rw [modelsOk, enumsOk]; rfl, lists, well, well', read, read'⟩
      · exact .inr ⟨p, by rw [modelsOk, failed]; rfl, family, .enum lists well fine malformed message⟩
    · exact .inr ⟨p, by rw [failed]; rfl, family, .model lists fine malformed message⟩
  · obtain ⟨p, failed, family, refused⟩ := ofJson?_of_not_lists listed
    exact .inr ⟨p, by rw [failed]; rfl, family, refused⟩

example : ofJson? (.obj [("models", .arr [.obj [("name", .str "User")], .obj []]), ("enums", .arr [.null])]) =
    .error (.incompleteModel 1 "name" .null) := by
  rfl

end Datamodel

end SyncSchema

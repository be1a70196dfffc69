import Mathlib.Data.List.Nodup
import Mathlib.Data.List.TakeWhile
import SyncSchema.Proofs.Options.Verdict

namespace SyncSchema
open Outcome

namespace Text

def Blank (text : String) : Prop :=
  ∀ c ∈ text.toList, isBlank c = true

theorem strip_isEmpty_iff {text : String} : (strip text).isEmpty = true ↔ Blank text := by
  rw [String.isEmpty_iff, strip, String.ofList_eq_empty_iff, List.reverse_eq_nil_iff, List.dropWhile_eq_nil_iff]
  constructor
  · intro behind c member
    rw [← List.takeWhile_append_dropWhile (p := isBlank) (l := text.toList)] at member
    rcases List.mem_append.1 member with before | rest
    · exact List.mem_takeWhile_imp before
    · exact behind c (List.mem_reverse.2 rest)
  · intro blank c member
    exact blank c ((List.dropWhile_sublist _).subset (List.mem_reverse.1 member))

end Text

namespace Given

/-- The value of a mapping under a text. Of equal keys the last one counts. -/
def under (entries : List (Yaml.Value × Yaml.Value)) (spelling : String) : Option Yaml.Value :=
  entries.reverse.findSome? fun
    | (.text key, value) => if key = spelling then some value else none
    | _ => none

/-- The value that counts for an option, with its spelling: the one in camel case comes before the other. -/
def effective? (entries : List (Yaml.Value × Yaml.Value)) (setting : Setting) : Option (String × Yaml.Value) :=
  (setting.alias?.bind fun alias_ => (under entries alias_).map (alias_, ·)).or
    ((under entries setting.key).map (setting.key, ·))

theorem lookup_ofMapping (entries : List (Yaml.Value × Yaml.Value)) (spelling : String) :
    (ofMapping entries).lookup spelling = under entries spelling := by
  induction entries using List.reverseRecOn with
  | nil => rfl
  | append_singleton entries entry ih =>
    obtain ⟨key, value⟩ := entry
    rw [ofMapping_concat, under, List.reverse_append, List.reverse_singleton, List.singleton_append,
      List.findSome?_cons, ← under]
    cases key with
    | text other =>
      simp only [lookup_set, ih]
      by_cases same : spelling = other
      · rw [if_pos same, if_pos same.symm]
      · rw [if_neg same, if_neg (Ne.symm same)]
    | _ => exact ih

theorem find?_ofMapping (entries : List (Yaml.Value × Yaml.Value)) (setting : Setting) :
    (ofMapping entries).find? setting = effective? entries setting := by
  rw [find?_eq, effective?, Setting.spellings]
  cases setting.alias? with
  | none => simp [lookup_ofMapping]
  | some alias_ =>
    simp only [lookup_ofMapping, Option.toList_some, List.singleton_append, List.findSome?_cons, List.findSome?_nil,
      Option.bind_some]
    cases under entries alias_ <;> cases under entries setting.key <;> rfl

end Given

namespace Setting
open Given

def reading (entries : List (Yaml.Value × Yaml.Value)) (setting : Setting) : Except String Json :=
  match effective? entries setting with
  | none => .ok setting.absent
  | some (_, value) => setting.read value

def entry? (entries : List (Yaml.Value × Yaml.Value)) (setting : Setting) : Option (String × Json) :=
  match effective? entries setting, reading entries setting with
  | some (spelling, _), .error message => some (spelling, .str message)
  | _, _ => none

def Valid (entries : List (Yaml.Value × Yaml.Value)) (setting : Setting) : Prop :=
  ∃ shown, reading entries setting = .ok shown

end Setting

namespace Options
open Given

/-- Names of models as an option gives them: null, or a list of texts, none of them blank. They are trimmed. -/
inductive Lists : Yaml.Value → List String → Prop
  | none : Lists .null []
  | names {texts : List String} (filled : ∀ text ∈ texts, ¬Text.Blank text) :
    Lists (.list (texts.map .text)) (texts.map Text.strip)

def fileEntry : Option String → List (String × Json)
  | some file => if file.isEmpty then [] else [("config_file", .str file)]
  | none => []

/-- The options of a mapping are taken or refused one by one. -/
structure Independent (entries : List (Yaml.Value × Yaml.Value)) (file : Option String)
    (outcome : Except Failure Options) : Prop where
  accepts : (∃ o, outcome = .ok o) ↔ ∀ setting, Setting.Valid entries setting
  options : ∀ o, outcome = .ok o → ∀ setting, Setting.reading entries setting = .ok (o.get setting)
  /-- A report has one entry for each option that is not valid, in their order, and one for the file. -/
  faults : ∀ failure, outcome = .error failure → ∃ problem, failure = .problem problem ∧
    problem.report.family = .configuration ∧
    problem.report.context = Setting.all.filterMap (Setting.entry? entries) ++ fileEntry file ∧
    (problem.report.context.map Prod.fst).Nodup
  reported : ∀ setting, ¬Setting.Valid entries setting ↔ ∃ spelling value message,
    effective? entries setting = some (spelling, value) ∧ Setting.entry? entries setting = some (spelling, .str message)
  excluded : ∀ spelling value, effective? entries .excludeTables = some (spelling, value) →
    (Setting.Valid entries .excludeTables ↔ ∃ names, Lists value names) ∧
      ∀ o, outcome = .ok o → Lists value o.excludeTables

theorem entry?_eq (entries : List (Yaml.Value × Yaml.Value)) (setting : Setting) :
    Setting.entry? entries setting =
      (fault? ((ofMapping entries).verdict setting)).map fun fault => (fault.1, .str fault.2) := by
  rw [Setting.entry?, Setting.reading, verdict, find?_ofMapping]
  cases effective? entries setting with
  | none => rfl
  | some given =>
    obtain ⟨spelling, value⟩ := given
    dsimp only
    cases setting.read value <;> rfl

theorem verdict_eq_ok {entries : List (Yaml.Value × Yaml.Value)} {setting : Setting} {shown : Json} :
    (ofMapping entries).verdict setting = .ok shown ↔ Setting.reading entries setting = .ok shown := by
  rw [Setting.reading, verdict, find?_ofMapping]
  cases effective? entries setting with
  | none => simp only [Except.ok.injEq]
  | some given => exact mapError_eq_ok

theorem readName_eq_ok {value : Yaml.Value} {index : Nat} {name : String} :
    readName value index = .ok name ↔ ∃ text, value = .text text ∧ ¬Text.Blank text ∧ name = Text.strip text := by
  cases value with
  | text text =>
    rw [readName]
    simp only [Yaml.Value.text.injEq, exists_eq_left', ← Text.strip_isEmpty_iff]
    split
    · rename_i empty
      simp [empty]
    · rename_i filled
      simp [filled, eq_comm]
  | _ => simp [readName]

-- The index where the items start is free: it shows in messages only.
theorem forall₂_readName {items : List Yaml.Value} {names : List String} (start : Nat) :
    List.Forall₂ (fun row name => readName row.1 row.2 = .ok name) (items.zipIdx start) names ↔
      ∃ texts : List String, items = texts.map .text ∧ (∀ text ∈ texts, ¬Text.Blank text) ∧
        names = texts.map Text.strip := by
  induction items generalizing names start with
  | nil =>
    rw [List.zipIdx_nil, List.forall₂_nil_left_iff]
    constructor
    · rintro rfl
      exact ⟨[], rfl, by simp, rfl⟩
    · rintro ⟨texts, none, -, rfl⟩
      rw [List.map_eq_nil_iff.1 none.symm, List.map_nil]
  | cons item rest ih =>
    rw [List.zipIdx_cons, List.forall₂_cons_left_iff]
    simp only [ih]
    simp only [readName_eq_ok]
    constructor
    · rintro ⟨_, _, ⟨text, rfl, filled, rfl⟩, ⟨texts, rfl, all, rfl⟩, rfl⟩
      exact ⟨text :: texts, rfl, List.forall_mem_cons.2 ⟨filled, all⟩, rfl⟩
    · rintro ⟨_ | ⟨text, texts⟩, split, all, rfl⟩
      · cases split
      · obtain ⟨rfl, rfl⟩ := List.cons.inj split
        rw [List.forall_mem_cons] at all
        exact ⟨_, _, ⟨text, rfl, all.1, rfl⟩, ⟨texts, rfl, all.2, rfl⟩, rfl⟩

theorem readNames_eq_ok {value : Yaml.Value} {names : List String} : readNames value = .ok names ↔ Lists value names := by
  constructor
  · intro read
    cases value with
    | null =>
      cases read
      exact .none
    | list items =>
      rw [readNames, mapError_eq_ok, mapM_eq_ok] at read
      obtain ⟨texts, rfl, filled, rfl⟩ := (forall₂_readName 0).1 read
      exact .names filled
    | _ => cases read
  · rintro (_ | filled)
    · rfl
    · rw [readNames, mapError_eq_ok, mapM_eq_ok]
      exact (forall₂_readName 0).2 ⟨_, rfl, filled, rfl⟩

theorem effective?_spelling {entries : List (Yaml.Value × Yaml.Value)} {setting : Setting}
    {given : String × Yaml.Value} (found : effective? entries setting = some given) :
    given.1 ∈ setting.spellings := by
  rw [← find?_ofMapping, find?_eq] at found
  obtain ⟨spelling, member, value⟩ := List.exists_of_findSome?_eq_some found
  obtain ⟨_, -, rfl⟩ := Option.map_eq_some_iff.1 value
  exact member

theorem entry?_spelling {entries : List (Yaml.Value × Yaml.Value)} {setting : Setting} {entry : String × Json}
    (found : Setting.entry? entries setting = some entry) : entry.1 ∈ setting.spellings := by
  rw [Setting.entry?] at found
  split at found
  · rename_i given _
    cases found
    exact effective?_spelling given
  · cases found

theorem not_valid_iff {entries : List (Yaml.Value × Yaml.Value)} {setting : Setting} :
    ¬Setting.Valid entries setting ↔ ∃ spelling value message, effective? entries setting = some (spelling, value) ∧
      Setting.entry? entries setting = some (spelling, .str message) := by
  rw [Setting.Valid, Setting.entry?, Setting.reading]
  cases effective? entries setting with
  | none => simp
  | some given =>
    obtain ⟨spelling, value⟩ := given
    cases read : setting.read value <;> simp [read]

theorem config_file_not_mem (setting : Setting) : "config_file" ∉ setting.spellings := by
  cases setting <;> decide

theorem config_file_not_reported (entries : List (Yaml.Value × Yaml.Value)) :
    "config_file" ∉ (Setting.all.filterMap (Setting.entry? entries)).map Prod.fst := by
  intro known
  obtain ⟨entry, found, same⟩ := List.mem_map.1 known
  obtain ⟨setting, -, found⟩ := List.mem_filterMap.1 found
  exact config_file_not_mem setting (same ▸ entry?_spelling found)

theorem nodup_entries (entries : List (Yaml.Value × Yaml.Value)) (file : Option String) :
    ((Setting.all.filterMap (Setting.entry? entries) ++ fileEntry file).map Prod.fst).Nodup := by
  have options : ((Setting.all.filterMap (Setting.entry? entries)).map Prod.fst).Nodup := by
    rw [List.map_filterMap]
    -- A spelling belongs to one option only.
    refine List.Nodup.filterMap (fun s t key ofS ofT => ?_) (by decide)
    obtain ⟨entry, found, rfl⟩ := Option.map_eq_some_iff.1 ofS
    obtain ⟨entry', found', same⟩ := Option.map_eq_some_iff.1 ofT
    exact Setting.eq_of_spelling (entry?_spelling found) (same ▸ entry?_spelling found')
  rw [List.map_append]
  cases file with
  | none => rwa [fileEntry, List.map_nil, List.append_nil]
  | some file =>
    rw [fileEntry]
    split
    · rwa [List.map_nil, List.append_nil]
    · exact List.nodup_append_comm.1 (List.nodup_cons.2 ⟨config_file_not_reported entries, options⟩)

theorem set_fresh {context : List (String × Json)} {key : String} (value : Json) (fresh : key ∉ context.map Prod.fst) :
    Report.note.set key value context = context ++ [(key, value)] := by
  induction context with
  | nil => rfl
  | cons entry rest ih =>
    obtain ⟨first, old⟩ := entry
    rw [List.map_cons, List.mem_cons, not_or] at fresh
    rw [Report.note.set, if_neg (Ne.symm fresh.1), ih fresh.2, List.cons_append]

theorem context_invalidOptions {faults : List (String × String)} (file : Option String)
    (fresh : "config_file" ∉ (faults.map fun fault => (fault.1, Json.str fault.2)).map Prod.fst) :
    (Problem.invalidOptions faults (file.elim .null .str)).report.context =
      (faults.map fun fault => (fault.1, Json.str fault.2)) ++ fileEntry file := by
  have noted : (Problem.invalidOptions faults (file.elim .null .str)).report.context =
      Report.note (faults.map fun fault => (fault.1, Json.str fault.2)) "config_file" (file.elim .null .str) := rfl
  rw [noted, Report.note, set_fresh _ fresh]
  cases file with
  | none => simp [Json.isGiven, fileEntry]
  | some file =>
    rw [Option.elim_some, Json.isGiven, fileEntry]
    cases file.isEmpty <;> simp

theorem valid_excludeTables_iff {entries : List (Yaml.Value × Yaml.Value)} {spelling : String} {value : Yaml.Value}
    (given : effective? entries .excludeTables = some (spelling, value)) :
    Setting.Valid entries .excludeTables ↔ ∃ names, Lists value names := by
  rw [Setting.Valid, Setting.reading, given]
  simp only [Setting.read, map_eq_ok, readNames_eq_ok]
  constructor
  · rintro ⟨_, names, lists, -⟩
    exact ⟨names, lists⟩
  · rintro ⟨names, lists⟩
    exact ⟨_, names, lists, rfl⟩

theorem lists_excludeTables {entries : List (Yaml.Value × Yaml.Value)} {spelling : String} {value : Yaml.Value}
    {o : Options} (given : effective? entries .excludeTables = some (spelling, value))
    (read : Setting.reading entries .excludeTables = .ok (o.get .excludeTables)) : Lists value o.excludeTables := by
  rw [Setting.reading, given] at read
  obtain ⟨names, lists, same⟩ := map_eq_ok.1 read
  have injective : Function.Injective Json.str := fun _ _ => Json.str.inj
  rw [← List.map_injective_iff.2 injective (Json.arr.inj same)]
  exact readNames_eq_ok.1 lists

theorem shown_faults (entries : List (Yaml.Value × Yaml.Value)) :
    ((Setting.all.filterMap fun setting => fault? ((ofMapping entries).verdict setting)).map
      fun fault => (fault.1, Json.str fault.2)) = Setting.all.filterMap (Setting.entry? entries) := by
  rw [List.map_filterMap]
  exact congrArg (List.filterMap · Setting.all) (funext fun setting => (entry?_eq entries setting).symm)

theorem independent_of_readings {entries : List (Yaml.Value × Yaml.Value)} {file : Option String} {o : Options}
    (readings : ∀ setting, Setting.reading entries setting = .ok (o.get setting)) :
    Independent entries file (.ok o) where
  accepts := ⟨fun _ setting => ⟨_, readings setting⟩, fun _ => ⟨o, rfl⟩⟩
  options := by
    rintro _ ⟨⟩
    exact readings
  faults := by
    rintro _ ⟨⟩
  reported _ := not_valid_iff
  excluded spelling value given := by
    refine ⟨valid_excludeTables_iff given, ?_⟩
    rintro _ ⟨⟩
    exact lists_excludeTables given (readings _)

theorem independent_of_faults {entries : List (Yaml.Value × Yaml.Value)} {file : Option String} {setting : Setting}
    {faults : List (String × String)} (invalid : ¬Setting.Valid entries setting)
    (shown : (faults.map fun fault => (fault.1, Json.str fault.2)) = Setting.all.filterMap (Setting.entry? entries)) :
    Independent entries file (.error (.problem (.invalidOptions faults (file.elim .null .str)))) where
  accepts := by
    constructor
    · rintro ⟨_, ⟨⟩⟩
    · exact fun valid => absurd (valid setting) invalid
  options := by
    rintro _ ⟨⟩
  faults := by
    rintro _ ⟨⟩
    have context := context_invalidOptions file (shown ▸ config_file_not_reported entries)
    rw [shown] at context
    exact ⟨_, rfl, rfl, context, context ▸ nodup_entries entries file⟩
  reported _ := not_valid_iff
  excluded spelling value given := by
    refine ⟨valid_excludeTables_iff given, ?_⟩
    rintro _ ⟨⟩

/-- Each option is decided by its own value. Either all are valid and make the result, or the report tells of every one
that is not. -/
theorem ofValue_independent (entries : List (Yaml.Value × Yaml.Value)) (file : Option String) :
    Independent entries file (ofValue (.mapping entries) (file.elim .null .str)).result := by
  have decided := validate_decided (.ofMapping entries)
  rw [ofValue]
  generalize validate (.ofMapping entries) = outcome at decided
  cases decided with
  | options each => exact independent_of_readings fun setting => verdict_eq_ok.1 (each setting)
  | faults some =>
    obtain ⟨setting, fault, found⟩ := some
    have invalid : ¬Setting.Valid entries setting := by
      rintro ⟨shown, read⟩
      rw [verdict_eq_ok.2 read] at found
      cases found
    exact independent_of_faults invalid (shown_faults entries)

example :
    let given := ofValue (.mapping [(.text "enum_as_union", .text "maybe"), (.text "output", .int 1),
      (.text "output_dir", .text "out"), (.text "excludeTables", .list [.text " user ", .text "\t"])]) (.str "zero.yaml")
    given.result = .error (.problem (.invalidOptions [("output", "Input should be a valid string"),
      ("excludeTables", "Value error, Item at index 1 cannot be empty or just whitespace."),
      ("enum_as_union", "Input should be a valid boolean, unable to interpret input")] (.str "zero.yaml"))) := by
  decide +kernel

end Options

end SyncSchema

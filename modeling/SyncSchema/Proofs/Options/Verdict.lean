import Mathlib.Data.List.Induction
import SyncSchema.Options.Load
import SyncSchema.Proofs.Outcome

namespace SyncSchema
open Outcome

namespace Setting

def read : Setting → Yaml.Value → Except String Json
  | name, value | outputDir, value | outputFile, value => .str <$> Options.readText value
  | excludeTables, value => (fun names => .arr (names.map .str)) <$> Options.readNames value
  | remapTables, value | remapColumns, value | enumAsUnion, value | prettier, value
  | resolvePrettierConfig, value => .bool <$> Options.readFlag value

def absent : Setting → Json
  | name => .str "zero"
  | outputDir => .str "generated/zero"
  | outputFile => .str "schema.ts"
  | excludeTables => .arr []
  | remapTables | remapColumns | enumAsUnion | prettier => .bool false
  | resolvePrettierConfig => .bool true

def spellings (setting : Setting) : List String :=
  setting.alias?.toList ++ [setting.key]

theorem eq_of_spelling {s t : Setting} {spelling : String} (ofS : spelling ∈ s.spellings)
    (ofT : spelling ∈ t.spellings) : s = t := by
  have apart : s = t ∨ ∀ x ∈ s.spellings, x ∉ t.spellings := by
    cases s <;> cases t <;> decide
  exact apart.resolve_right fun apart => apart spelling ofS ofT

theorem key_mem_spellings (s : Setting) : s.key ∈ s.spellings :=
  List.mem_append_right _ List.mem_cons_self

theorem ofKey?_eq_some {key : String} {s : Setting} : ofKey? key = some s ↔ key = s.key := by
  constructor
  · intro found
    have same := List.find?_some (p := fun s : Setting => s.key == key) found
    exact (beq_iff_eq.1 same).symm
  · rintro rfl
    cases s <;> decide

end Setting

namespace Given

theorem lookup_remove (given : Given) (removed spelling : String) :
    (given.remove removed).lookup spelling = if spelling = removed then none else given.lookup spelling := by
  induction given with
  | nil => split <;> rfl
  | cons entry rest ih =>
    obtain ⟨first, value⟩ := entry
    rw [remove] at ih ⊢
    by_cases here : first = removed <;> by_cases same : spelling = first <;> grind

theorem lookup_set (given : Given) (added spelling : String) (value : Yaml.Value) :
    (given.set added value).lookup spelling = if spelling = added then some value else given.lookup spelling := by
  induction given with
  | nil => grind [set]
  | cons entry rest ih =>
    obtain ⟨first, old⟩ := entry
    by_cases here : first = added <;> by_cases same : spelling = first <;> grind [set]

theorem lookup_overrideWith (given : Given) (setting : Setting) (value : Yaml.Value) (spelling : String) :
    (given.overrideWith setting value).lookup spelling =
      if spelling = setting.key then some value
      else if spelling ∈ setting.spellings then none else given.lookup spelling := by
  rw [overrideWith, lookup_set]
  cases other : setting.alias? with
  | none => grind [Setting.spellings]
  | some alias_ =>
    simp only [lookup_remove]
    grind [Setting.spellings]

theorem find?_eq (given : Given) (setting : Setting) :
    given.find? setting = setting.spellings.findSome? fun spelling => (given.lookup spelling).map (spelling, ·) := rfl

theorem find?_congr {given given' : Given} {setting : Setting}
    (same : ∀ spelling ∈ setting.spellings, given.lookup spelling = given'.lookup spelling) :
    given.find? setting = given'.find? setting := by
  rw [find?_eq, find?_eq]
  generalize setting.spellings = spellings at same ⊢
  induction spellings with
  | nil => rfl
  | cons spelling rest ih =>
    rw [List.forall_mem_cons] at same
    rw [List.findSome?_cons, List.findSome?_cons, same.1, ih same.2]

theorem find?_overrideWith (given : Given) (s t : Setting) (value : Yaml.Value) :
    (given.overrideWith s value).find? t = if t = s then some (s.key, value) else given.find? t := by
  split
  · rename_i same
    subst same
    rw [find?_eq, Setting.spellings]
    simp only [lookup_overrideWith]
    cases other : t.alias? with
    | none => simp
    | some alias_ =>
      have differs : alias_ ≠ t.key := by
        rintro rfl
        cases t <;> simp [Setting.alias?, Setting.key] at other
      simp [differs, Setting.spellings, other]
  · rename_i other
    refine find?_congr fun spelling member => ?_
    have outside : spelling ∉ s.spellings := fun inside => other (Setting.eq_of_spelling member inside)
    have notKey : spelling ≠ s.key := fun same => outside (same ▸ s.key_mem_spellings)
    rw [lookup_overrideWith, if_neg notKey, if_neg outside]

theorem ofMapping_concat (entries : List (Yaml.Value × Yaml.Value)) (key value : Yaml.Value) :
    ofMapping (entries ++ [(key, value)]) =
      match key with
      | .text spelling => (ofMapping entries).set spelling value
      | _ => ofMapping entries := by
  rw [ofMapping, List.foldl_append]
  rfl

theorem lookup_ofMapping_filter (entries : List (Yaml.Value × Yaml.Value)) {kept : Yaml.Value × Yaml.Value → Bool}
    {spelling : String} (keeps : ∀ value, kept (.text spelling, value) = true) :
    (ofMapping (entries.filter kept)).lookup spelling = (ofMapping entries).lookup spelling := by
  induction entries using List.reverseRecOn with
  | nil => rfl
  | append_singleton entries entry ih =>
    obtain ⟨key, value⟩ := entry
    rw [List.filter_append, ofMapping_concat]
    by_cases stays : kept (key, value) = true
    · rw [List.filter_cons_of_pos stays, List.filter_nil, ofMapping_concat]
      cases key with
      | text other => rw [lookup_set, lookup_set, ih]
      | _ => exact ih
    · rw [List.filter_cons_of_neg stays, List.filter_nil, List.append_nil, ih]
      cases key with
      | text other =>
        have differs : spelling ≠ other := fun same => stays (same ▸ keeps value)
        rw [lookup_set, if_neg differs]
      | _ => rfl

def verdict (given : Given) (setting : Setting) : Except (String × String) Json :=
  match given.find? setting with
  | none => .ok setting.absent
  | some (spelling, value) => (setting.read value).mapError (spelling, ·)

end Given

namespace Options

/-- The outcome where every option is decided by itself. -/
inductive Decided (verdict : Setting → Except (String × String) Json) : Except (List (String × String)) Options → Prop
  | options {o : Options} (each : ∀ setting, verdict setting = .ok (o.get setting)) : Decided verdict (.ok o)
  | faults (some : ∃ setting fault, verdict setting = .error fault) :
    Decided verdict (.error (Setting.all.filterMap fun setting => fault? (verdict setting)))

theorem Decided.congr {verdict verdict' : Setting → Except (String × String) Json}
    {outcome : Except (List (String × String)) Options} (decided : Decided verdict outcome)
    (same : ∀ setting, verdict setting = verdict' setting) : Decided verdict' outcome := by
  rwa [funext same] at decided

theorem mapError_map {α β ε ε' : Type} (f : α → β) (g : ε → ε') (outcome : Except ε α) :
    (f <$> outcome).mapError g = f <$> outcome.mapError g := by
  cases outcome <;> rfl

theorem fault?_map {α β : Type} (f : α → β) (outcome : Except (String × String) α) :
    fault? (f <$> outcome) = fault? outcome := by
  cases outcome <;> rfl

theorem fault?_eq_some {α : Type} {outcome : Except (String × String) α} {fault : String × String} :
    fault? outcome = some fault ↔ outcome = .error fault := by
  cases outcome <;> simp [fault?]

theorem exists_of_fault?_eq_none {α : Type} {outcome : Except (String × String) α} (none : fault? outcome = none) :
    ∃ a, outcome = .ok a := by
  cases outcome with
  | ok a => exact ⟨a, rfl⟩
  | error fault => cases none

theorem verdict_eq {α : Type} (given : Given) (setting : Setting) (absent : α) {read : Yaml.Value → Except String α}
    {shown : α → Json} (reads : ∀ value, setting.read value = shown <$> read value)
    (default : setting.absent = shown absent) :
    given.verdict setting = shown <$> readSetting given setting read absent := by
  rw [Given.verdict, readSetting]
  cases given.find? setting with
  | none => exact congrArg Except.ok default
  | some found =>
    simp only [reads]
    exact mapError_map _ _ _

theorem validate_decided (given : Given) : Decided given.verdict (validate given) := by
  have name := verdict_eq given .name _ (fun _ => rfl) rfl
  have outputDir := verdict_eq given .outputDir _ (fun _ => rfl) rfl
  have outputFile := verdict_eq given .outputFile _ (fun _ => rfl) rfl
  have excludeTables := verdict_eq given .excludeTables [] (fun _ => rfl) rfl
  have remapTables := verdict_eq given .remapTables _ (fun _ => rfl) rfl
  have remapColumns := verdict_eq given .remapColumns _ (fun _ => rfl) rfl
  have enumAsUnion := verdict_eq given .enumAsUnion _ (fun _ => rfl) rfl
  have prettier := verdict_eq given .prettier _ (fun _ => rfl) rfl
  have resolvePrettierConfig := verdict_eq given .resolvePrettierConfig _ (fun _ => rfl) rfl
  have listed : [fault? (readSetting given .name readText "zero"),
      fault? (readSetting given .outputDir readText "generated/zero"),
      fault? (readSetting given .outputFile readText "schema.ts"),
      fault? (readSetting given .excludeTables readNames []),
      fault? (readSetting given .remapTables readFlag false), fault? (readSetting given .remapColumns readFlag false),
      fault? (readSetting given .enumAsUnion readFlag false), fault? (readSetting given .prettier readFlag false),
      fault? (readSetting given .resolvePrettierConfig readFlag true)] =
      Setting.all.map fun setting => fault? (given.verdict setting) := by
    simp only [Setting.all, List.map_cons, List.map_nil, name, outputDir, outputFile, excludeTables, remapTables,
      remapColumns, enumAsUnion, prettier, resolvePrettierConfig, fault?_map]
  rw [validate, listed, List.filterMap_map, Function.id_comp]
  split
  · refine .options fun setting => ?_
    cases setting <;> simp only [*] <;> rfl
  · rename_i incomplete
    refine .faults ?_
    by_contra none
    have sound {α : Type} {shown : α → Json} {outcome : Except (String × String) α} (setting : Setting)
        (verdict : given.verdict setting = shown <$> outcome) : ∃ a, outcome = .ok a := by
      refine exists_of_fault?_eq_none (Option.eq_none_iff_forall_ne_some.2 fun fault some => ?_)
      rw [← fault?_map shown, ← verdict, fault?_eq_some] at some
      exact none ⟨setting, fault, some⟩
    obtain ⟨_, name⟩ := sound _ name
    obtain ⟨_, outputDir⟩ := sound _ outputDir
    obtain ⟨_, outputFile⟩ := sound _ outputFile
    obtain ⟨_, excludeTables⟩ := sound _ excludeTables
    obtain ⟨_, remapTables⟩ := sound _ remapTables
    obtain ⟨_, remapColumns⟩ := sound _ remapColumns
    obtain ⟨_, enumAsUnion⟩ := sound _ enumAsUnion
    obtain ⟨_, prettier⟩ := sound _ prettier
    obtain ⟨_, resolvePrettierConfig⟩ := sound _ resolvePrettierConfig
    exact incomplete _ _ _ _ _ _ _ _ _ name outputDir outputFile excludeTables remapTables remapColumns enumAsUnion
      prettier resolvePrettierConfig

end Options

end SyncSchema

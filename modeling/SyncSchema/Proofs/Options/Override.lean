import SyncSchema.Proofs.Options.Verdict

namespace SyncSchema
open Outcome

namespace Options

namespace Overrides

def value? (overrides : Overrides) (setting : Setting) : Option Yaml.Value :=
  List.lookup setting (List.reverse overrides)

/-- The value given for an option besides the file. Null stands for none. -/
def argument? (arguments : List (String × Json)) (setting : Setting) : Option Yaml.Value :=
  ((arguments.lookup setting.key).filter (· ≠ .null)).map .ofJson

def prune (overrides : Overrides) (entries : List (Yaml.Value × Yaml.Value)) : List (Yaml.Value × Yaml.Value) :=
  entries.filter fun
    | (.text spelling, _) => !overrides.any fun entry => entry.1.spellings.contains spelling
    | _ => true

theorem value?_append (overrides others : Overrides) (setting : Setting) :
    value? (overrides ++ others) setting = (value? others setting).or (value? overrides setting) := by
  rw [value?, List.reverse_append, List.lookup_append]
  rfl

theorem value?_singleton (entry : Setting × Yaml.Value) (setting : Setting) :
    value? [entry] setting = if setting = entry.1 then some entry.2 else none := by
  rw [value?, List.reverse_singleton, List.lookup_cons]
  by_cases same : setting = entry.1
  · rw [if_pos same, beq_iff_eq.2 same]
  · rw [if_neg same, beq_false_of_ne same]
    rfl

theorem ofEntries_cons (key : String) (value : Json) (rest : List (String × Json)) :
    ofEntries ((key, value) :: rest) =
      (if value = .null then none else (Setting.ofKey? key).map (·, .ofJson value)).toList ++ ofEntries rest := by
  simp only [ofEntries, List.filterMap_cons]
  cases (if value = .null then none else (Setting.ofKey? key).map (·, Yaml.Value.ofJson value)) <;> rfl

theorem value?_ofEntries {arguments : List (String × Json)} (distinct : (arguments.map Prod.fst).Nodup)
    (setting : Setting) : value? (ofEntries arguments) setting = argument? arguments setting := by
  induction arguments with
  | nil => rfl
  | cons argument rest ih =>
    obtain ⟨key, value⟩ := argument
    rw [List.map_cons, List.nodup_cons] at distinct
    rw [ofEntries_cons, value?_append, ih distinct.2, argument?, argument?, List.lookup_cons]
    by_cases here : setting.key = key
    · have others : rest.lookup setting.key = none :=
        List.lookup_eq_none_iff.2 fun entry member => by
          rw [here, bne_iff_ne]
          exact fun same => distinct.1 (List.mem_map.2 ⟨entry, member, same.symm⟩)
      rw [others, beq_iff_eq.2 here]
      by_cases null : value = .null
      · simp [null, value?, Option.filter]
      · simp [null, Setting.ofKey?_eq_some.2 here.symm, value?_singleton, Option.filter]
    · rw [beq_false_of_ne here]
      have skipped : value? (if value = .null then none
          else (Setting.ofKey? key).map (·, Yaml.Value.ofJson value)).toList setting = none := by
        cases found : Setting.ofKey? key with
        | none => split <;> rfl
        | some other =>
          have differs : setting ≠ other := fun same => here (by rw [same, ← Setting.ofKey?_eq_some.1 found])
          split
          · rfl
          · simp [value?_singleton, differs]
      rw [skipped, Option.or_none]

theorem apply_concat (overrides : Overrides) (entry : Setting × Yaml.Value) (given : Given) :
    apply (overrides ++ [entry]) given = (overrides.apply given).overrideWith entry.1 entry.2 := by
  rw [apply, List.foldl_append]
  rfl

theorem find?_apply (overrides : Overrides) (given : Given) (setting : Setting) :
    (overrides.apply given).find? setting =
      match overrides.value? setting with
      | some value => some (setting.key, value)
      | none => given.find? setting := by
  induction overrides using List.reverseRecOn with
  | nil => rfl
  | append_singleton overrides entry ih =>
    rw [apply_concat, Given.find?_overrideWith, value?_append, value?_singleton, ih]
    by_cases same : setting = entry.1
    · rw [if_pos same, if_pos same, same]
      rfl
    · rw [if_neg same, if_neg same]
      rfl

theorem value?_eq_none {overrides : Overrides} {setting : Setting} (none : overrides.value? setting = none) :
    ∀ entry ∈ overrides, entry.1 ≠ setting := by
  rintro entry member rfl
  have absent := List.lookup_eq_none_iff.1 none entry (List.mem_reverse.2 member)
  simp at absent

theorem find?_prune {overrides : Overrides} {setting : Setting} (entries : List (Yaml.Value × Yaml.Value))
    (none : overrides.value? setting = none) :
    (Given.ofMapping (overrides.prune entries)).find? setting = (Given.ofMapping entries).find? setting := by
  refine Given.find?_congr fun spelling member => Given.lookup_ofMapping_filter entries fun value => ?_
  simp only [Bool.not_eq_true', List.any_eq_false, List.contains_iff_mem]
  intro entry overridden inside
  exact value?_eq_none none entry overridden (Setting.eq_of_spelling inside member)

theorem find?_apply_prune (overrides : Overrides) (entries : List (Yaml.Value × Yaml.Value)) (setting : Setting) :
    (overrides.apply (.ofMapping (overrides.prune entries))).find? setting =
      (overrides.apply (.ofMapping entries)).find? setting := by
  rw [find?_apply, find?_apply]
  split
  · rfl
  · rename_i none
    exact find?_prune entries none

end Overrides

/-- What is decided about an option by what overrides it, or else by the file alone. -/
def overruled (arguments : List (String × Json)) (given : Given) (setting : Setting) : Except (String × String) Json :=
  match Overrides.argument? arguments setting with
  | some value => (setting.read value).mapError (setting.key, ·)
  | none => given.verdict setting

/-- There is a file at the path, and its text is YAML for the value. -/
structure Reads (store : Store) (current : Location) (path : String) (value : Yaml.Value) : Prop where
  named : path.isEmpty = false
  text : ∃ content text, store.content? current (.ofText path) = .ok (some content) ∧
    Store.decode content = .ok text ∧ Yaml.read text = .ok value

theorem result_readFile {store : Store} {current : Location} {path : Path} {content : ByteArray} {text : List Char}
    (held : store.content? current path = .ok (some content)) (decoded : Store.decode content = .ok text)
    (absent : Problem) (adjust : Text.Utf8.Error → Text.Utf8.Error) :
    (Run.readFile store current path absent adjust).result = .ok text := by
  rw [Run.readFile, held]
  simp only [decoded, Except.mapError, Run.result_lift]

theorem result_given (path : String) (entries : List (Yaml.Value × Yaml.Value)) :
    (given path (.mapping entries)).result = .ok (.ofMapping entries) := by
  cases entries <;> rfl

def conclude (current : Location) (path : String) (outcome : Except (List (String × String)) Options) :
    Except Failure Options :=
  match outcome with
  | .ok o => (o.located current).result
  | .error faults => .error (.problem (.invalidOptions faults (.str path)))

theorem result_settle (current : Location) (given : Given) (overrides : Overrides) (path : String) :
    (settle current given overrides (.str path)).result =
      conclude current path (validate (overrides.apply given)) := by
  have checked (outcome : Except (List (String × String)) Options) :
      ((check outcome (.str path)).result >>= fun o => (o.located current).result) = conclude current path outcome := by
    cases outcome <;> rfl
  rw [settle]
  split
  all_goals
    simp only [Run.result_bind, Run.result_log, Run.result_pure, ok_bind, ← checked]
    cases (check (validate (overrides.apply given)) (.str path)).result with
    | error failure => rfl
    | ok o =>
      rw [ok_bind, ok_bind]
      cases (o.located current).result <;> rfl

theorem result_load_mapping {store : Store} {current : Location} {path : String}
    {entries : List (Yaml.Value × Yaml.Value)} (reads : Reads store current path (.mapping entries))
    (overrides : Overrides) (said : Option String) :
    (load store current path overrides said).result =
      conclude current path (validate (overrides.apply (.ofMapping entries))) := by
  obtain ⟨named, content, text, held, decoded, value⟩ := reads
  have read := result_readFile held decoded (.configMissing path) cutOff
  rw [load, Run.result_bind, readFile, named]
  simp only [Bool.false_eq_true, if_false, Run.result_bind, read, ok_bind, value, result_given]
  exact result_settle current _ overrides path

theorem get_located {o o' : Options} {current : Location} (located : (o.located current).result = .ok o')
    {setting : Setting} (other : setting ≠ .outputDir) : o'.get setting = o.get setting := by
  rw [Options.located] at located
  split at located
  · obtain rfl := Except.ok.inj located
    cases setting with
    | outputDir => exact absurd rfl other
    | _ => rfl
  · cases located

theorem validate_congr {given given' : Given} (same : ∀ setting, given.find? setting = given'.find? setting) :
    validate given = validate given' := by
  simp only [validate, readSetting, same]

theorem validate_apply_decided {arguments : List (String × Json)} (distinct : (arguments.map Prod.fst).Nodup)
    (given : Given) : Decided (overruled arguments given) (validate ((Overrides.ofEntries arguments).apply given)) := by
  refine (validate_decided _).congr fun setting => ?_
  rw [Given.verdict, Overrides.find?_apply, Overrides.value?_ofEntries distinct, overruled]
  cases Overrides.argument? arguments setting <;> rfl

/-- The options given besides a file win over it, and leave all others to it. -/
structure Overrule (current : Location) (path : String) (entries : List (Yaml.Value × Yaml.Value))
    (arguments : List (String × Json)) : Prop where
  /-- What the file says of options given besides it is as good as absent. -/
  pruned : ∀ store store' said said', Reads store current path (.mapping entries) →
    Reads store' current path (.mapping ((Overrides.ofEntries arguments).prune entries)) →
    (load store current path (.ofEntries arguments) said).result =
      (load store' current path (.ofEntries arguments) said').result
  /-- With nothing given besides, each option is decided by the file. -/
  alone : ∃ outcome, Decided (Given.ofMapping entries).verdict outcome ∧
    ∀ file, (ofValue (.mapping entries) file).result = (check outcome file).result
  /-- Each option is decided by its argument alone, or else as the file alone decides it. -/
  decided : ∃ outcome, Decided (overruled arguments (.ofMapping entries)) outcome ∧
    ∀ store said, Reads store current path (.mapping entries) →
      (load store current path (.ofEntries arguments) said).result = conclude current path outcome
  /-- Only the folder is changed after that. -/
  kept : ∀ store said o, Reads store current path (.mapping entries) →
    (load store current path (.ofEntries arguments) said).result = .ok o →
    ∀ setting, setting ≠ .outputDir → overruled arguments (.ofMapping entries) setting = .ok (o.get setting)

theorem load_overridden (current : Location) (path : String) (entries : List (Yaml.Value × Yaml.Value))
    {arguments : List (String × Json)} (distinct : (arguments.map Prod.fst).Nodup) :
    Overrule current path entries arguments where
  pruned store store' said said' reads reads' := by
    rw [result_load_mapping reads, result_load_mapping reads', validate_congr (Overrides.find?_apply_prune _ entries)]
  alone := ⟨_, validate_decided _, fun _ => rfl⟩
  decided := ⟨_, validate_apply_decided distinct _, fun _ said reads => result_load_mapping reads _ said⟩
  kept store said o reads result setting other := by
    rw [result_load_mapping reads] at result
    have decided := validate_apply_decided distinct (.ofMapping entries)
    generalize validate ((Overrides.ofEntries arguments).apply (.ofMapping entries)) = outcome at decided result
    cases decided with
    | options each => rw [get_located result other, each setting]
    | faults _ => cases result

theorem load_overridden_twice_spelled :
    let text := "output: [1]\noutput_dir: file\nenumAsUnion: maybe\nexcludeTables: [' user ']\n3: ~\n"
    let text' := "excludeTables: [' user ']\n3: ~\n"
    let store : Store := ⟨[(["work"], .folder), (["work", "zero.yaml"], .file text.toUTF8)]⟩
    let store' : Store := ⟨[(["work"], .folder), (["work", "zero.yaml"], .file text'.toUTF8)]⟩
    let entries : List (Yaml.Value × Yaml.Value) :=
      [(.text "output", .list [.int 1]), (.text "output_dir", .text "file"), (.text "enumAsUnion", .text "maybe"),
        (.text "excludeTables", .list [.text " user "]), (.int 3, .null)]
    let arguments : List (String × Json) :=
      [("document", .str "zero.json"), ("output_dir", .str "out"), ("enum_as_union", .bool false), ("prettier", .null),
        ("name", .str "sync")]
    (arguments.map Prod.fst).Nodup ∧ Overrule ["work"] "zero.yaml" entries arguments ∧
      Reads store ["work"] "zero.yaml" (.mapping entries) ∧
      Reads store' ["work"] "zero.yaml" (.mapping ((Overrides.ofEntries arguments).prune entries)) ∧
      (load store ["work"] "zero.yaml" (.ofEntries arguments)).result =
        .ok ⟨"sync", "/work/out", "schema.ts", ["user"], false, false, false, false, true⟩ := by
  intro text text' store store' entries arguments
  have distinct : (arguments.map Prod.fst).Nodup := by decide
  refine ⟨distinct, load_overridden _ _ _ distinct, ⟨rfl, text.toUTF8, text.toList, rfl, ?_, ?_⟩,
    ⟨rfl, text'.toUTF8, text'.toList, rfl, ?_, ?_⟩, ?_⟩
  all_goals decide +kernel

end Options

end SyncSchema

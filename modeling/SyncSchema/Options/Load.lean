import SyncSchema.Options.Basic
import SyncSchema.Run
import SyncSchema.Yaml.Reader

namespace SyncSchema

namespace Options

def check (outcome : Except (List (String × String)) Options) (file : Json) : Run Options :=
  match outcome with
  | .ok options => do
    Run.log .debug "Configuration dictionary parsed and validated successfully against schema."
    return options
  | .error faults => do
    Run.log .critical "Configuration validation failed! Please check your config file or arguments."
    Run.stop (.invalidOptions faults file)

def ofValue (value : Yaml.Value) (file : Json) : Run Options :=
  match value with
  | .mapping entries => check (validate (.ofMapping entries)) file
  | _ =>
    check (.error [("Model Level", "Input should be a valid dictionary or instance of GeneratorConfigSchema")])
      file

abbrev Overrides := List (Setting × Yaml.Value)

def Overrides.ofEntries (entries : List (String × Json)) : Overrides :=
  entries.filterMap fun (key, value) =>
    if value = .null then none else (Setting.ofKey? key).map (·, .ofJson value)

def Overrides.apply (overrides : Overrides) (given : Given) : Given :=
  overrides.foldl (fun given (setting, value) => given.overrideWith setting value) given

def Overrides.keys (overrides : Overrides) : List String :=
  (overrides.map (·.1.key)).mergeSort

/-- A character that the end of the file cuts off is looked at by itself. -/
def cutOff (e : Text.Utf8.Error) : Text.Utf8.Error :=
  if e.reason = .unexpectedEnd then { e with position := 0 } else e

/-- What an option file gives. A file that holds no mapping gives nothing. -/
def given (path : String) (value : Yaml.Value) : Run Given := do
  if !value.isGiven then return []
  match value with
  | .mapping entries =>
    Run.log .debug s!"Loaded configuration from {path}"
    return .ofMapping entries
  | _ =>
    Run.log .warning s!"Content in config file {path} is not a dictionary. Ignoring file content."
    return []

def readFile (store : Store) (current : Location) (path : String) (said : Option String) : Run Given := do
  if path.isEmpty then return []
  let text ← Run.readFile store current (.ofText path) (.configMissing path) cutOff
  match Yaml.read text with
  | .error .malformed => Run.stop (.configUnreadable path said)
  | .error (.flaw flaw) => Run.fail (.flaw flaw)
  | .ok value => given path value

def located (options : Options) (current : Location) : Run Options :=
  let path := Path.ofText options.outputDir
  if path.isProper then
    return { options with outputDir := (Path.ofLocation (path.resolve current)).text }
  else Run.fail (.refused ⟨.improper, path.text⟩)

def settle (current : Location) (given : Given) (overrides : Overrides) (file : Json) : Run Options := do
  if !overrides.isEmpty then
    let keys := Json.literal (.arr (overrides.keys.map .str))
    Run.log .debug s!"Overridden config keys from CLI arguments: {keys}"
  Run.log .info "Validating final configuration..."
  let options ← (← check (validate (overrides.apply given)) file).located current
  Run.log .info "Configuration loaded and validated successfully."
  return options

def load (store : Store) (current : Location) (path : String) (overrides : Overrides)
    (said : Option String := none) : Run Options := do
  let given ← readFile store current path said
  settle current given overrides (.str path)

end Options

end SyncSchema

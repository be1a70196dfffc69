import SyncSchema.Announce
import SyncSchema.Command.Arguments
import SyncSchema.Datamodel.Load
import SyncSchema.Datamodel.Outline
import SyncSchema.Module.Formatter
import SyncSchema.Module.Generate
import SyncSchema.Module.Write
import SyncSchema.Terminal.Channel

/-!
The command: it reads its options and a document, and writes one module. All that can fail before the
writing is done before the writing, so a run that fails there leaves every file alone.
-/

namespace SyncSchema.Command

structure World where
  store : Store
  current : Location
  formatter : Formatter
  terminal : Bool

structure Outcome where
  status : Nat
  messages : String
  store : Store

def readOptions (world : World) (args : Arguments) (said : Option String) : Run Options := do
  Run.progress "Loading configuration..."
  let options ← Options.load world.store world.current args.configPath args.overrides said
  Run.log .debug s!"Effective configuration loaded: {options.summary}"
  if !options.excludeTables.isEmpty then
    let names := ", ".intercalate options.excludeTables
    Run.highlight s!"Excluding models: {names}"
  return options

def readDatamodel (world : World) (args : Arguments) : Run Datamodel := do
  Run.heading "Datamodel"
  Run.progress s!"Loading DMMF document from {args.document.toJson.display}..."
  let path ← Run.check args.document.path?
  let d ← Datamodel.load world.store world.current path
  Run.highlight s!"Found {d.models.length} models and {d.enums.length} enums"
  return d

def assemble (d : Datamodel) (options : Options) : Run Schema := do
  Run.heading "Intermediate Representation"
  Run.progress "Transforming datamodel into Zero tables..."
  let schema ← d.assemble options.naming options.excluded
  Run.success "Intermediate representation built successfully."
  return schema

def render (world : World) (d : Datamodel) (schema : Schema) (options : Options) : Run String := do
  Run.heading "Code Generation"
  Run.progress "Hashing datamodel..."
  let hash ← d.hashed
  Run.log .debug s!"Schema hash: {hash}"
  Run.progress "Rendering Zero schema..."
  let text ← Module.emit schema options.enumAsUnion (some hash)
  if options.prettier then
    Run.progress "Formatting generated code with prettier..."
    world.formatter.format text options.resolvePrettierConfig
      (some (Module.pathOf options.outputDir options.outputFile))
  else return text

def prepare (world : World) (args : Arguments) (said : Option String) : Run (Options × String) := do
  let options ← readOptions world args said
  let d ← readDatamodel world args
  let schema ← assemble d options
  let text ← render world d schema options
  Run.progress "Writing schema file..."
  return (options, text)

def finish (world : World) (options : Options) (text : String) : Store × Run Unit :=
  let (store, written) := Module.write world.store world.current options.outputDir options.outputFile text
  (store, do
    let path ← written
    Run.heading "Completion"
    Run.success s!"Zero schema written to {path.text}")

def generate (world : World) (args : Arguments) (said : Option String) : Store × Run Unit :=
  let prepared := prepare world args said
  match prepared.result with
  | .error failure => (world.store, ⟨prepared.records, .error failure⟩)
  | .ok (options, text) =>
    let (store, finished) := finish world options text
    (store, ⟨prepared.records ++ finished.records, finished.result⟩)

def lastWords (args : Arguments) : Failure → Record
  | .problem problem =>
    { level := .error, message := s!"{problem.report.family.name}: {problem.report.text}", traced := args.verbose }
  | failure =>
    { level := .error
      message := s!"An unexpected error occurred during generation: {failure.message}"
      traced := true }

def preamble (args : Arguments) : List Record :=
  (if args.verbose then [⟨.debug, "Verbose mode enabled. DEBUG level logging activated.", false⟩] else []) ++
  (if args.noColor then [⟨.debug, "Color output disabled.", false⟩] else [])

def recordsOf (args : Arguments) (run : Run Unit) : List Record :=
  preamble args ++ run.records ++
    match run.result with
    | .ok () => []
    | .error failure => [lastWords args failure]

def channelOf (world : World) (args : Arguments) : Terminal.Channel :=
  .setup (if args.verbose then .debug else .info) (!args.noColor) world.terminal

def run (world : World) (arguments : List String) (account : String) (said : Option String := none) : Outcome :=
  match Arguments.parse arguments with
  | .error stop => ⟨stop.status, stop.text, world.store⟩
  | .ok args =>
    let (store, run) := generate world args said
    let messages := (channelOf world args).emitAll (recordsOf args run) account
    ⟨match run.result with | .ok () => 0 | .error _ => 1, messages, store⟩

end SyncSchema.Command

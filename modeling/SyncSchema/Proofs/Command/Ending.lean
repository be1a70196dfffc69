import SyncSchema.Command.Basic
import SyncSchema.Proofs.Files.Store
import SyncSchema.Proofs.Module.Pieces
import SyncSchema.Proofs.Outcome
import SyncSchema.Proofs.Samples
import SyncSchema.Proofs.Text.Encoding

namespace SyncSchema
open Outcome

namespace Run

end Run

namespace Command

/-- The options that are in effect, and the text that the document of the arguments makes with them. -/
structure Makes (world : World) (args : Arguments) (said : Option String) (options : Options) (text : String) :
    Prop where
  loaded : (Options.load world.store world.current args.configPath args.overrides said).result = .ok options
  generated : ∃ path d, args.document.path? = .ok path ∧
    (Datamodel.load world.store world.current path).result = .ok d ∧ Text.isEncodable d.payload = true ∧
    (Module.generate d options (some d.hash)).result = .ok text

def target (world : World) (options : Options) : Location :=
  (Module.pathOf options.outputDir options.outputFile).resolve world.current

/-- Why a run fails that took its arguments: there is no text to write, or the file cannot be opened for it. -/
inductive Fails (world : World) (args : Arguments) (said : Option String) : Prop
  | unmade (none : ∀ options text, Makes world args said options text → options.prettier = true)
  | unwritten {options : Options} {text : String} {after : Store} {refused : Refused}
    (makes : Makes world args said options text)
    (write : world.store.write world.current (Module.pathOf options.outputDir options.outputFile)
      ((Text.encode text).toOption.getD .empty) = (after, .error refused))

/-- The run writes the module and changes no other file, or it fails and changes none. -/
inductive Ends (world : World) (arguments : List String) (said : Option String) (outcome : Outcome) : Prop
  | written {args : Arguments} {options : Options} {text : String} (parsed : Arguments.parse arguments = .ok args)
    (makes : Makes world args said options text) (plain : options.prettier = false)
    (encodable : Text.isEncodable text = true) (status : outcome.status = 0)
    (files : outcome.store.file? = Function.update world.store.file? (target world options) (some text.toUTF8))
  | failed {args : Arguments} (parsed : Arguments.parse arguments = .ok args) (fails : Fails world args said)
    (status : outcome.status = 1) (files : outcome.store.file? = world.store.file?)
  | rejected {error : UsageError} (parsed : Arguments.parse arguments = .error (.usage error))
    (status : outcome.status = 2) (files : outcome.store.file? = world.store.file?)

variable {world : World} {arguments : List String} {said : Option String} {outcome : Outcome}

end Command

namespace Sample
open Command

end Sample

namespace Command
open Sample

end Command

end SyncSchema

import SyncSchema.Run
import SyncSchema.Text.CharClass

namespace SyncSchema

namespace Formatter

structure Call where
  command : List String
  input : String
deriving DecidableEq

inductive Reply where
  | ended (status : Int) (output errors : String)
  | notStarted (reason : String)
deriving DecidableEq

end Formatter

structure Formatter where
  executable : Option String
  reply : Formatter.Call → Formatter.Reply

namespace Formatter

def missing : Formatter :=
  ⟨none, fun _ => .notStarted ""⟩

def settingsArguments (resolve : Bool) (path : Option Path) : List String :=
  if resolve then
    match path with
    | some path => ["--stdin-filepath", path.text]
    | none => []
  else ["--no-config"]

def call (executable : String) (code : String) (resolve : Bool) (path : Option Path) : Call where
  command := [executable, "--parser", "typescript"] ++ settingsArguments resolve path
  input := code

def calls (f : Formatter) (code : String) (resolve : Bool) (path : Option Path) : List Call :=
  f.executable.toList.map (call · code resolve path)

def format (f : Formatter) (code : String) (resolve : Bool) (path : Option Path) : Run String := do
  let some executable := f.executable
    | Run.stop .formatterMissing
  let call := call executable code resolve path
  let line := " ".intercalate call.command
  Run.log .debug s!"Formatting TypeScript code using prettier: {line}"
  match f.reply call with
  | .notStarted reason => Run.stop (.formatterNotStarted reason)
  | .ended status output errors =>
    let _ ← Run.encode code
    if status ≠ 0 then Run.stop (.formatterFailed status (Text.strip errors))
    else
      Run.log .debug "Formatted code using prettier"
      return output

end Formatter

end SyncSchema

import SyncSchema.Run
import SyncSchema.Text.Casing

namespace SyncSchema.Run

def success (message : String) : Run Unit :=
  log .info ("✓ " ++ message)

def progress (message : String) : Run Unit :=
  log .info ("→ " ++ message)

def highlight (message : String) : Run Unit :=
  log .info ("• " ++ message)

def rule : String :=
  String.ofList (List.replicate 60 '=')

def heading (title : String) : Run Unit := do
  log .info rule
  log .info ("  " ++ String.ofList (Text.upper title.toList))
  log .info rule

end SyncSchema.Run

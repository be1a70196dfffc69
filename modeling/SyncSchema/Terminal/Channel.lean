import SyncSchema.Terminal.Colour

namespace SyncSchema.Terminal

structure Handler where
  level : Level
  colours : Bool

structure Channel where
  level : Level
  handler : Option Handler

namespace Channel

def silent : Channel :=
  ⟨.critical, none⟩

def handlers (_ : Channel) : Nat := 1

def setup (level : Level) (colours terminal : Bool) : Channel :=
  ⟨level, some ⟨level, colours && terminal⟩⟩

def admits (channel : Channel) (level : Level) : Bool :=
  0 < level.number && channel.level.number ≤ level.number &&
    channel.handler.any (·.level.number ≤ level.number)

def textOf (record : Record) (account : String) : String :=
  let text := record.level.name ++ ": " ++ record.message
  if record.traced then (if text.endsWith "\n" then text else text ++ "\n") ++ account else text

def emit (channel : Channel) (record : Record) (account : String) : String :=
  match channel.handler with
  | some handler =>
    if channel.admits record.level then
      paint handler.colours record.level record.message (textOf record account) ++ "\n"
    else ""
  | none => ""

def emitAll (channel : Channel) (records : List Record) (account : String) : String :=
  String.join (records.map (channel.emit · account))

end Channel

end SyncSchema.Terminal

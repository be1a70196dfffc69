import SyncSchema.Text.Literal

namespace SyncSchema.Yaml

inductive TimePart where
  | year
  | month
  | day
  | hour
  | minute
  | second
deriving DecidableEq

inductive Flaw where
  | codePoint (code : Nat)
  | flag (word : String)
  | noDigits
  | integer (base : Nat) (digits : String)
  | float (digits : String)
  | notATime
  | timeOfEntries
  /-- Entries that stand for themselves. -/
  | endless
  | timePart (part : TimePart)
  | offset (days seconds : Int)
deriving DecidableEq

def TimePart.message : TimePart → String
  | year => "year 0 is out of range"
  | month => "month must be in 1..12"
  | day => "day is out of range for month"
  | hour => "hour must be in 0..23"
  | minute => "minute must be in 0..59"
  | second => "second must be in 0..59"

def spanText (days seconds : Int) : String :=
  let parts := (if days = 0 then [] else [s!"days={days}"]) ++ (if seconds = 0 then [] else [s!"seconds={seconds}"])
  "datetime.timedelta(" ++ ", ".intercalate parts ++ ")"

def shortLiteral (text : String) : String :=
  String.ofList ((Text.literal text).toList.take 200)

def Flaw.message : Flaw → String
  | codePoint code =>
    if code < 0x80000000 then "chr() arg not in range(0x110000)" else "Python int too large to convert to C int"
  | flag word => Text.literal word
  | noDigits => "string index out of range"
  | integer base digits => s!"invalid literal for int() with base {base}: {shortLiteral digits}"
  | float digits => s!"could not convert string to float: {Text.literal digits}"
  | notATime => "'NoneType' object has no attribute 'groupdict'"
  | timeOfEntries => "expected string or bytes-like object, got 'list'"
  | endless => "maximum recursion depth exceeded"
  | timePart part => part.message
  | offset days seconds =>
    "offset must be a timedelta strictly between -timedelta(hours=24) and timedelta(hours=24), not " ++
      spanText days seconds ++ "."

inductive Fault where
  | malformed
  | flaw (flaw : Flaw)
deriving DecidableEq

end SyncSchema.Yaml

import SyncSchema.Text.CharClass
import SyncSchema.Text.Point

namespace SyncSchema.Text.Literal

def hex : Nat → Nat → List Char
  | 0, _ => []
  | width + 1, n => hex width (n / 16) ++ [Nat.digitChar (n % 16)]

def escapeCode (code : Nat) : List Char :=
  if code < 0x100 then '\\' :: 'x' :: hex 2 code
  else if code < 0x10000 then '\\' :: 'u' :: hex 4 code
  else '\\' :: 'U' :: hex 8 code

def escape (mark c : Char) : List Char :=
  if c = mark || c = '\\' then ['\\', c]
  else if c = '\n' then ['\\', 'n']
  else if c = '\r' then ['\\', 'r']
  else if c = '\t' then ['\\', 't']
  else if isPrintable c then [c]
  else escapeCode (pointOf c).value

def mark (text : List Char) : Char :=
  if text.contains '\'' && !text.contains '"' then '"' else '\''

def encode (text : List Char) : List Char :=
  mark text :: (text.flatMap (escape (mark text)) ++ [mark text])

end SyncSchema.Text.Literal

namespace SyncSchema.Text

def literal (text : String) : String :=
  String.ofList (Literal.encode text.toList)

def Unencodable.message (e : Unencodable) : String :=
  if e.length = 1 then
    let code := String.ofList (Literal.escapeCode e.first.value)
    s!"'utf-8' codec can't encode character '{code}' in position {e.position}: surrogates not allowed"
  else
    s!"'utf-8' codec can't encode characters in position {e.position}-{e.position + e.length - 1}: surrogates not allowed"

/-- A text as a stream shows it that cannot be given surrogates. -/
def shown (text : String) : String :=
  String.ofList ((points text).flatMap fun
    | .char c => [c]
    | point => Literal.escapeCode point.value)

end SyncSchema.Text

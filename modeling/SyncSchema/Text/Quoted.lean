namespace SyncSchema.Text.Quoted

def escape (c : Char) : List Char :=
  if c = '"' then ['\\', '"']
  else if c = '\\' then ['\\', '\\']
  else if c = '\n' then ['\\', 'n']
  else if c = '\r' then ['\\', 'r']
  else if c = '\t' then ['\\', 't']
  else if c = '\x08' then ['\\', 'b']
  else if c = '\x0c' then ['\\', 'f']
  else if c.toNat < 32 then ['\\', 'u', '0', '0', Nat.digitChar (c.toNat / 16), Nat.digitChar (c.toNat % 16)]
  else [c]

def encode (text : List Char) : List Char :=
  '"' :: (text.flatMap escape ++ ['"'])

end SyncSchema.Text.Quoted

namespace SyncSchema.Text

def quote (text : String) : String :=
  String.ofList (Quoted.encode text.toList)

end SyncSchema.Text

namespace SyncSchema.Text.Base64

def digit? (c : Char) : Option Nat :=
  if 'A' ≤ c && c ≤ 'Z' then some (c.toNat - 65)
  else if 'a' ≤ c && c ≤ 'z' then some (c.toNat - 71)
  else if c.isDigit then some (c.toNat + 4)
  else if c == '+' then some 62
  else if c == '/' then some 63
  else none

/--
The bytes of the text from here on, none where a group stays open. `place` counts the digits of the open
group, `carry` holds the bits of the last one that no byte has taken yet, and `padding` the signs behind it.
-/
def bytes? (place carry padding : Nat) : List Char → Option (List UInt8)
  | [] => if place = 0 then some [] else none
  | c :: rest =>
    if c == '=' then
      if place < 2 then bytes? place carry padding rest
      else if 4 ≤ place + padding + 1 then some []
      else bytes? place carry (padding + 1) rest
    else
      match digit? c, place with
      | none, _ => bytes? place carry padding rest
      | some digit, 0 => bytes? 1 digit 0 rest
      | some digit, 1 => (bytes? 2 (digit % 16) 0 rest).map (UInt8.ofNat (carry * 4 + digit / 16) :: ·)
      | some digit, 2 => (bytes? 3 (digit % 4) 0 rest).map (UInt8.ofNat (carry * 16 + digit / 4) :: ·)
      | some digit, _ => (bytes? 0 0 0 rest).map (UInt8.ofNat (carry * 64 + digit) :: ·)

def decode? (text : List Char) : Option (List UInt8) :=
  bytes? 0 0 0 text

end SyncSchema.Text.Base64

namespace SyncSchema.Text

/-- A code point: a character, or a surrogate that stands alone, counted from U+D800. -/
inductive Point where
  | char (c : Char)
  | surrogate (index : Fin 0x800)
deriving DecidableEq

abbrev Points := List Point

namespace Point

def value : Point → Nat
  | char c => c.toNat
  | surrogate index => 0xD800 + index

def char? : Point → Option Char
  | char c => some c
  | surrogate _ => none

def isChar : Point → Bool
  | char _ => true
  | surrogate _ => false

end Point

/-- A surrogate inside a string: it takes the place of one of the last 2048 private characters. -/
def standIn (index : Fin 0x800) : Char :=
  Char.ofNat (0x10F800 + index)

def pointOf (c : Char) : Point :=
  if 0x10F800 ≤ c.toNat then .surrogate (Fin.ofNat 0x800 (c.toNat - 0x10F800)) else .char c

def points (text : String) : Points :=
  text.toList.map pointOf

instance : Coe String Points := ⟨points⟩

def characterOf (code : Nat) : Char :=
  if 0xD800 ≤ code && code < 0xE000 then standIn (Fin.ofNat 0x800 (code - 0xD800)) else Char.ofNat code

/-- The first surrogates in a row that keep a text from being encoded. -/
structure Unencodable where
  first : Point
  position : Nat
  length : Nat
deriving DecidableEq

def encode (text : Points) : Except Unencodable ByteArray :=
  match text.dropWhile Point.isChar with
  | [] => .ok (String.ofList (text.filterMap Point.char?)).toUTF8
  | first :: rest =>
    .error ⟨first, (text.takeWhile Point.isChar).length, (rest.takeWhile (!Point.isChar ·)).length + 1⟩

def isEncodable (text : Points) : Bool :=
  text.all Point.isChar

end SyncSchema.Text

import SyncSchema.Json.Equality
import SyncSchema.Text.Point

namespace SyncSchema.Json

inductive Flaw where
  | byteOrderMark
  | value
  | name
  | colon
  | comma
  | extra
  | unterminated
  | control
  | escape
  | unicodeEscape
deriving DecidableEq

def Flaw.message : Flaw → String
  | byteOrderMark => "Unexpected UTF-8 BOM (decode using utf-8-sig)"
  | value => "Expecting value"
  | name => "Expecting property name enclosed in double quotes"
  | colon => "Expecting ':' delimiter"
  | comma => "Expecting ',' delimiter"
  | extra => "Extra data"
  | unterminated => "Unterminated string starting at"
  | control => "Invalid control character at"
  | escape => "Invalid \\escape"
  | unicodeEscape => "Invalid \\uXXXX escape"

structure SyntaxError where
  flaw : Flaw
  line : Nat
  column : Nat
  offset : Nat
deriving DecidableEq

def SyntaxError.message (e : SyntaxError) : String :=
  s!"{e.flaw.message}: line {e.line} column {e.column} (char {e.offset})"

def setMember (key : String) (value : Json) : List (String × Json) → List (String × Json)
  | [] => [(key, value)]
  | (k, v) :: rest => if k = key then (k, value) :: rest else (k, v) :: setMember key value rest

namespace Reader

structure Cursor where
  rest : List Char
  offset : Nat

def isSpace (c : Char) : Bool :=
  c == ' ' || c == '\t' || c == '\n' || c == '\r'

def Cursor.skip (here : Cursor) : Cursor :=
  let spaces := here.rest.takeWhile isSpace
  ⟨here.rest.drop spaces.length, here.offset + spaces.length⟩

def hexValue? (c : Char) : Option Nat :=
  if c.isDigit then some (c.toNat - 48)
  else if 'a' ≤ c && c ≤ 'f' then some (c.toNat - 87)
  else if 'A' ≤ c && c ≤ 'F' then some (c.toNat - 55)
  else none

def hex4? (a b c d : Char) : Option Nat := do
  return (((← hexValue? a) * 16 + (← hexValue? b)) * 16 + (← hexValue? c)) * 16 + (← hexValue? d)

def simpleEscape? : Char → Option Char
  | '"' => some '"'
  | '\\' => some '\\'
  | '/' => some '/'
  | 'b' => some '\x08'
  | 'f' => some '\x0c'
  | 'n' => some '\n'
  | 'r' => some '\r'
  | 't' => some '\t'
  | _ => none

/-- What a unit of sixteen bits followed by `rest` gives, when it and the next escape are a pair. -/
def pair? (unit : Nat) : List Char → Option (Option Nat)
  | '\\' :: 'u' :: a :: b :: c :: d :: _ :: _ =>
    if 0xD800 ≤ unit && unit < 0xDC00 then
      match hex4? a b c d with
      | none => some none
      | some low =>
        if 0xDC00 ≤ low && low < 0xE000 then
          some (some (0x10000 + (unit - 0xD800) * 1024 + (low - 0xDC00)))
        else none
    else none
  | _ => none

def string (start : Nat) (read : List Char) (offset : Nat) : List Char → Except (Flaw × Nat) (String × Cursor)
  | [] => .error (.unterminated, start)
  | '"' :: rest => .ok (String.ofList read.reverse, ⟨rest, offset + 1⟩)
  | '\\' :: [] => .error (.unterminated, start)
  | '\\' :: 'u' :: a :: b :: c :: d :: rest =>
    match hex4? a b c d, rest with
    | some unit, e :: more =>
      match pair? unit rest with
      | none => string start (Text.characterOf unit :: read) (offset + 6) (e :: more)
      | some none => .error (.unicodeEscape, offset + 7)
      | some (some point) => string start (Char.ofNat point :: read) (offset + 12) (more.drop 5)
    | _, _ => .error (.unicodeEscape, offset + 1)
  | '\\' :: 'u' :: _ => .error (.unicodeEscape, offset + 1)
  | '\\' :: c :: rest =>
    match simpleEscape? c with
    | some image => string start (image :: read) (offset + 2) rest
    | none => .error (.escape, offset)
  | c :: rest =>
    if c.toNat < 32 then .error (.control, offset) else string start (c :: read) (offset + 1) rest
termination_by text => text.length
decreasing_by all_goals simp <;> omega

def natural (digits : List Char) : Nat :=
  digits.foldl (fun n c => n * 10 + (c.toNat - 48)) 0

def fractionDigits : List Char → List Char
  | '.' :: rest => rest.takeWhile Char.isDigit
  | _ => []

def exponentPart : List Char → Option (Nat × Int)
  | e :: rest =>
    if e == 'e' || e == 'E' then
      let (sign, rest) :=
        match rest with
        | '-' :: rest => (some true, rest)
        | '+' :: rest => (some false, rest)
        | rest => (none, rest)
      let digits := rest.takeWhile Char.isDigit
      if digits.isEmpty then none
      else
        let value : Int := natural digits
        some (1 + (if sign.isSome then 1 else 0) + digits.length, if sign = some true then -value else value)
    else none
  | [] => none

def number? (text : List Char) : Option (Json × Nat) :=
  let (negative, body) :=
    match text with
    | '-' :: body => (true, body)
    | body => (false, body)
  let digits :=
    match body with
    | '0' :: _ => ['0']
    | body => body.takeWhile Char.isDigit
  if digits.isEmpty then none
  else
    let signLength := if negative then 1 else 0
    let rest := body.drop digits.length
    let fraction := fractionDigits rest
    let pointLength := if fraction.isEmpty then 0 else 1 + fraction.length
    let exponent := exponentPart (rest.drop pointLength)
    let length := signLength + digits.length + pointLength + (exponent.map (·.1)).getD 0
    if fraction.isEmpty && exponent.isNone then
      let value : Int := natural digits
      some (.int (if negative then -value else value), length)
    else
      let power := (exponent.map (·.2)).getD 0 - fraction.length
      some (.float (.ofParts negative (natural (digits ++ fraction)) power), length)

def words : List (List Char × Json) :=
  [("null".toList, .null), ("true".toList, .bool true), ("false".toList, .bool false),
    ("NaN".toList, .float .nan), ("Infinity".toList, .float (.infinite false)),
    ("-Infinity".toList, .float (.infinite true))]

def word? (text : List Char) : Option (Json × Nat) :=
  (words.find? (·.1.isPrefixOf text)).map fun (word, value) => (value, word.length)

mutual
/-- One value. Each call passes on less `fuel` than it got, and every one reads a character. -/
def value : Nat → Cursor → Except (Flaw × Nat) (Json × Cursor)
  | 0, here => .error (.value, here.offset)
  | fuel + 1, here =>
    match here.rest with
    | '"' :: rest => do
      let (s, here) ← string here.offset [] (here.offset + 1) rest
      return (.str s, here)
    | '{' :: rest =>
      let inner := Cursor.skip ⟨rest, here.offset + 1⟩
      match inner.rest with
      | '}' :: rest => .ok (.obj [], ⟨rest, inner.offset + 1⟩)
      | _ => members fuel [] inner
    | '[' :: rest =>
      let inner := Cursor.skip ⟨rest, here.offset + 1⟩
      match inner.rest with
      | ']' :: rest => .ok (.arr [], ⟨rest, inner.offset + 1⟩)
      | _ => items fuel [] inner
    | text =>
      match word? text <|> number? text with
      | some (value, length) => .ok (value, ⟨text.drop length, here.offset + length⟩)
      | none => .error (.value, here.offset)

def members : Nat → List (String × Json) → Cursor → Except (Flaw × Nat) (Json × Cursor)
  | 0, _, here => .error (.name, here.offset)
  | fuel + 1, read, here =>
    match here.rest with
    | '"' :: rest => do
      let (key, here) ← string here.offset [] (here.offset + 1) rest
      let here := here.skip
      match here.rest with
      | ':' :: rest =>
        let (member, here) ← value fuel (Cursor.skip ⟨rest, here.offset + 1⟩)
        let here := here.skip
        let read := setMember key member read
        match here.rest with
        | '}' :: rest => return (.obj read, ⟨rest, here.offset + 1⟩)
        | ',' :: rest => members fuel read (Cursor.skip ⟨rest, here.offset + 1⟩)
        | _ => throw (.comma, here.offset)
      | _ => throw (.colon, here.offset)
    | _ => .error (.name, here.offset)

def items : Nat → List Json → Cursor → Except (Flaw × Nat) (Json × Cursor)
  | 0, _, here => .error (.value, here.offset)
  | fuel + 1, read, here => do
    let (item, here) ← value fuel here
    let here := here.skip
    match here.rest with
    | ']' :: rest => return (.arr (item :: read).reverse, ⟨rest, here.offset + 1⟩)
    | ',' :: rest => items fuel (item :: read) (Cursor.skip ⟨rest, here.offset + 1⟩)
    | _ => throw (.comma, here.offset)
end

def locate (text : List Char) (flaw : Flaw) (offset : Nat) : SyntaxError :=
  let before := text.take offset
  ⟨flaw, before.count '\n' + 1, (before.reverse.takeWhile (· != '\n')).length + 1, offset⟩

end Reader

def read (text : List Char) : Except SyntaxError Json :=
  if text.head? = some (Char.ofNat 0xFEFF) then .error (Reader.locate text .byteOrderMark 0)
  else
    match Reader.value (text.length + 1) (Reader.Cursor.skip ⟨text, 0⟩) with
    | .error (flaw, offset) => .error (Reader.locate text flaw offset)
    | .ok (value, here) =>
      let here := here.skip
      if here.rest.isEmpty then .ok value else .error (Reader.locate text .extra here.offset)

end SyncSchema.Json

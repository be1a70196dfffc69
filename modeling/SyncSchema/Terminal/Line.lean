import SyncSchema.Json.Display
import SyncSchema.Log
import SyncSchema.Number.Decimal
import SyncSchema.Terminal.Pattern

namespace SyncSchema.Terminal

structure Line where
  level : Level
  logger : String
  message : String

structure Layout where
  signs : Signs
  width : Nat
  precision? : Option Nat

structure Figure where
  sign : List Char
  mark : List Char
  body : List Char
  numeric : Bool

namespace Figure

def ofText (body : List Char) : Figure :=
  ⟨[], [], body, false⟩

def fill (figure : Figure) (layout : Layout) : List Char :=
  let head := figure.sign ++ figure.mark
  let missing := layout.width - (head.length + figure.body.length)
  if layout.signs.left then head ++ figure.body ++ List.replicate missing ' '
  else if layout.signs.zeros && figure.numeric then head ++ List.replicate missing '0' ++ figure.body
  else List.replicate missing ' ' ++ head ++ figure.body

def signOf (n : Int) (signs : Signs) : List Char :=
  if n < 0 then ['-'] else if signs.plus then ['+'] else if signs.blank then [' '] else []

def integer (n : Int) (base : Nat) (layout : Layout) : Figure :=
  let digits := Nat.toDigits base n.natAbs
  let mark :=
    if !layout.signs.marked then [] else if base = 16 then ['0', 'x'] else if base = 8 then ['0', 'o'] else []
  ⟨signOf n layout.signs, mark, List.replicate (layout.precision?.getD 0 - digits.length) '0' ++ digits, true⟩

/-- The leading `length` digits of a number, rounded to even on a tie, and the place of the first one. -/
def leading (n length : Nat) : List Char × Nat :=
  let digits := Nat.toDigits 10 n
  if digits.length ≤ length then (digits ++ List.replicate (length - digits.length) '0', digits.length - 1)
  else
    let unit := Nat.pow 10 (digits.length - length)
    let kept := n / unit
    let up := unit < n % unit * 2 || n % unit * 2 == unit && kept % 2 == 1
    let rounded := Nat.toDigits 10 (if up then kept + 1 else kept)
    (rounded.take length, digits.length - 1 + (rounded.length - length))

def fraction (digits : List Char) (marked : Bool) : List Char :=
  if digits.isEmpty && !marked then [] else '.' :: digits

def trimmed (digits : List Char) : List Char :=
  (digits.reverse.dropWhile (· == '0')).reverse

def fixed (n : Nat) (places : Nat) (marked : Bool) : List Char :=
  Nat.toDigits 10 n ++ fraction (List.replicate places '0') marked

def scientific (digits : List Char) (place : Nat) (marked : Bool) : List Char :=
  digits.take 1 ++ fraction (digits.drop 1) marked ++ 'e' :: Decimal.exponentText place

/-- Positional as long as the digits reach the point, else scientific; zeros behind the point only if marked. -/
def general (n precision : Nat) (marked : Bool) : List Char :=
  let length := max precision 1
  let (digits, place) := leading n length
  let shown := fun digits => if marked then digits else trimmed digits
  if place < length then digits.take (place + 1) ++ fraction (shown (digits.drop (place + 1))) marked
  else scientific (digits.take 1 ++ shown (digits.drop 1)) place marked

def real (n : Int) (letter : Char) (layout : Layout) : Figure :=
  let precision := layout.precision?.getD 6
  let marked := layout.signs.marked
  let body :=
    match letter.toLower with
    | 'f' => fixed n.natAbs precision marked
    | 'e' => let (digits, place) := leading n.natAbs (precision + 1); scientific digits place marked
    | _ => general n.natAbs precision marked
  ⟨signOf n layout.signs, [], body, true⟩

def inCaseOf (figure : Figure) (letter : Char) : Figure :=
  if letter.isUpper then { figure with mark := figure.mark.map Char.toUpper, body := figure.body.map Char.toUpper }
  else figure

def cut (text : List Char) (layout : Layout) : Figure :=
  .ofText ((layout.precision?.map text.take).getD text)

end Figure

def asciiLiteral (literal : List Char) : List Char :=
  literal.flatMap fun c =>
    if c.toNat < 0x80 then [c]
    else if c.toNat < 0x100 then '\\' :: 'x' :: Text.Literal.hex 2 c.toNat
    else if c.toNat < 0x10000 then '\\' :: 'u' :: Text.Literal.hex 4 c.toNat
    else '\\' :: 'U' :: Text.Literal.hex 8 c.toNat

def character? : Json → Except PatternFault Char
  | .int n => if 0 ≤ n ∧ n < 0x110000 then .ok (Char.ofNat n.toNat) else .error .noSuchCharacter
  | .str s =>
    match s.toList with
    | [c] => .ok c
    | _ => .error .notACharacter
  | _ => .error .notACharacter

def figure? (value : Json) (letter : Char) (index : Nat) (layout : Layout) : Except PatternFault Figure :=
  match letter with
  | 's' => .ok (.cut value.display.toList layout)
  | 'r' => .ok (.cut value.literalChars layout)
  | 'a' => .ok (.cut (asciiLiteral value.literalChars) layout)
  | 'c' => return .ofText [← character? value]
  | 'd' | 'i' | 'u' =>
    match value with
    | .int n => .ok (.integer n 10 layout)
    | value => .error (.notANumber letter value.kind)
  | 'o' =>
    match value with
    | .int n => .ok (.integer n 8 layout)
    | value => .error (.notAnInteger letter value.kind)
  | 'x' | 'X' =>
    match value with
    | .int n => .ok ((Figure.integer n 16 layout).inCaseOf letter)
    | value => .error (.notAnInteger letter value.kind)
  | 'e' | 'E' | 'f' | 'F' | 'g' | 'G' =>
    match value with
    | .int n => .ok ((Figure.real n letter layout).inCaseOf letter)
    | value => .error (.notReal value.kind)
  | _ => .error (.unknownLetter letter index)

namespace Line

/-- The values of a record by name. The record was made outside of any call, with nothing raised, and its
message took no arguments, which are shown as text. -/
def values (line : Line) : List (String × Json) :=
  [("name", .str line.logger), ("msg", .str line.message), ("args", .str "()"), ("levelname", .str line.level.name),
    ("levelno", .int line.level.number), ("exc_info", .null), ("exc_text", .null), ("stack_info", .null),
    ("funcName", .null), ("threadName", .str "MainThread"), ("processName", .str "MainProcess"),
    ("message", .str line.message)]

def take? (hand : Option Json) : Except PatternFault Json :=
  match hand with
  | some value => .ok value
  | none => .error .nothingAtHand

def count? (count : Count) (hand : Option Json) : Except PatternFault (Option Int × Option Json) :=
  match count with
  | .absent => .ok (none, hand)
  | .number n => .ok (some n, hand)
  | .taken => do
    match ← take? hand with
    | .int n => return (some n, none)
    | _ => throw .notAWidth

def checkCount (count : Count) (most : Nat) (fault : PatternFault) : Except PatternFault Unit :=
  match count with
  | .number n => if n ≤ most then .ok () else .error fault
  | _ => .ok ()

def bring (line : Line) (name? : Option String) (hand : Option Json) : Except PatternFault (Option Json) :=
  match name? with
  | none => .ok hand
  | some name =>
    match line.values.lookup name with
    | some value => .ok (some value)
    | none => .error (.unknownField name)

def field (line : Line) (field : Field) (hand : Option Json) : Except PatternFault (List Char × Option Json) := do
  let hand ← line.bring field.name? hand
  checkCount field.width 0x7fffffffffffffff .tooWide
  let (width?, hand) ← count? field.width hand
  checkCount field.precision 0x7fffffff .tooPrecise
  let (precision?, hand) ← count? field.precision hand
  let (letter, index) ← field.ending
  let value ← take? hand
  let width := width?.getD 0
  let signs := { field.signs with left := field.signs.left || decide (width < 0) }
  let layout : Layout := ⟨signs, width.natAbs, precision?.map Int.toNat⟩
  return ((← figure? value letter index layout).fill layout, none)

def write (line : Line) (hand : Option Json) : List Piece → Except PatternFault (List Char)
  | [] => .ok []
  | .char c :: rest => return c :: (← line.write hand rest)
  | .field piece :: rest => do
    let (text, hand) ← line.field piece hand
    return text ++ (← line.write hand rest)
  | .broken fault :: _ => .error fault

def format (line : Line) (pattern : String) : Except PatternFault (List Char) :=
  line.write (some (.obj line.values)) (Pattern.pieces 0 pattern.toList)

end Line

end SyncSchema.Terminal

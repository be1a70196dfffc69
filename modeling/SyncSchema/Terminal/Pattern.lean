import SyncSchema.Json.Basic
import SyncSchema.Text.Literal

namespace SyncSchema.Terminal

inductive PatternFault where
  | noFields (pattern : String)
  | unknownField (name : String)
  | openName
  | unfinished
  | unknownLetter (letter : Char) (index : Nat)
  | tooWide
  | tooPrecise
  | notAWidth
  /-- A field without a name shows what is at hand, and that was shown already. -/
  | nothingAtHand
  | notANumber (letter : Char) (kind : Json.Kind)
  | notAnInteger (letter : Char) (kind : Json.Kind)
  | notReal (kind : Json.Kind)
  | notACharacter
  | noSuchCharacter
deriving DecidableEq

def shownLetter (letter : Char) : Char :=
  if 31 ≤ letter.toNat && letter.toNat < 127 then letter else '?'

def PatternFault.message : PatternFault → String
  | noFields pattern => s!"Invalid format '{pattern}' for '%' style"
  | unknownField name => s!"Formatting field not found in record: {Text.literal name}"
  | openName => "incomplete format key"
  | unfinished => "incomplete format"
  | unknownLetter letter index =>
    s!"unsupported format character '{shownLetter letter}' " ++
      s!"(0x{String.ofList (Nat.toDigits 16 letter.toNat)}) at index {index}"
  | tooWide => "width too big"
  | tooPrecise => "precision too big"
  | notAWidth => "* wants int"
  | nothingAtHand => "not enough arguments for format string"
  | notANumber letter kind => s!"%{letter} format: a real number is required, not {kind.name}"
  | notAnInteger letter kind => s!"%{letter} format: an integer is required, not {kind.name}"
  | notReal kind => s!"must be real number, not {kind.name}"
  | notACharacter => "%c requires int or char"
  | noSuchCharacter => "%c arg not in range(0x110000)"

inductive Count where
  | absent
  | number (n : Nat)
  /-- What is at hand. -/
  | taken
deriving DecidableEq

structure Signs where
  left : Bool
  zeros : Bool
  plus : Bool
  blank : Bool
  marked : Bool
deriving DecidableEq

structure Field where
  name? : Option String
  signs : Signs
  width : Count
  precision : Count
  ending : Except PatternFault (Char × Nat)

inductive Piece where
  | char (c : Char)
  | field (field : Field)
  | broken (fault : PatternFault)

namespace Pattern

def isNameChar (c : Char) : Bool :=
  Text.isLetterOrNumber c || c == '_'

def isSign (c : Char) : Bool :=
  "#0+ -".toList.contains c

def isLetter (c : Char) : Bool :=
  "diouxefgcrsa%".toList.contains c.toLower

def dropCount : List Char → List Char
  | '*' :: rest => rest
  | text => text.dropWhile Text.isDecimalDigit

def dropPrecision (text : List Char) : List Char :=
  match text with
  | '.' :: c :: rest => if c == '*' || Text.isDecimalDigit c then dropCount (c :: rest) else text
  | _ => text

def startsField : List Char → Bool
  | '%' :: '(' :: rest =>
    let name := rest.takeWhile isNameChar
    match rest.drop name.length with
    | ')' :: rest => !name.isEmpty && (dropPrecision (dropCount (rest.dropWhile isSign))).head?.any isLetter
    | _ => false
  | _ => false

def hasField : List Char → Bool
  | [] => false
  | c :: rest => startsField (c :: rest) || hasField rest

def natural (digits : List Char) : Nat :=
  digits.foldl (fun n c => n * 10 + (c.toNat - 48)) 0

def nameLength? (depth : Nat) : List Char → Option Nat
  | [] => none
  | ')' :: rest => if depth = 0 then some 0 else (nameLength? (depth - 1) rest).map (· + 1)
  | '(' :: rest => (nameLength? (depth + 1) rest).map (· + 1)
  | _ :: rest => (nameLength? depth rest).map (· + 1)

def signs (text : List Char) : Signs :=
  ⟨text.contains '-', text.contains '0', text.contains '+', text.contains ' ', text.contains '#'⟩

def count (text : List Char) : Count × Nat :=
  match text with
  | '*' :: _ => (.taken, 1)
  | _ =>
    let digits := text.takeWhile Char.isDigit
    (if digits.isEmpty then .absent else .number (natural digits), digits.length)

def precision : List Char → Count × Nat
  | '.' :: rest =>
    match count rest with
    | (.absent, _) => (.number 0, 1)
    | (found, length) => (found, length + 1)
  | _ => (.absent, 0)

def sizeLength : List Char → Nat
  | 'h' :: _ | 'l' :: _ | 'L' :: _ => 1
  | _ => 0

def field (name? : Option String) (index : Nat) (text : List Char) : Field × Nat :=
  let signText := text.takeWhile isSign
  let (width, wide) := count (text.drop signText.length)
  let (precision, precise) := precision (text.drop (signText.length + wide))
  let before := signText.length + wide + precise
  let before := before + sizeLength (text.drop before)
  match text.drop before with
  | letter :: _ => (⟨name?, signs signText, width, precision, .ok (letter, index + before)⟩, before + 1)
  | [] => (⟨name?, signs signText, width, precision, .error .unfinished⟩, before)

def pieces (index : Nat) (text : List Char) : List Piece :=
  match text with
  | [] => []
  | '%' :: '%' :: rest => .char '%' :: pieces (index + 2) rest
  | '%' :: '(' :: rest =>
    match nameLength? 0 rest with
    | none => [.broken .openName]
    | some length =>
      let name := String.ofList (rest.take length)
      let (found, behind) := field (some name) (index + length + 3) (rest.drop (length + 1))
      .field found :: pieces (index + length + 3 + behind) (rest.drop (length + 1 + behind))
  | '%' :: rest =>
    let (found, behind) := field none (index + 1) rest
    .field found :: pieces (index + 1 + behind) (rest.drop behind)
  | c :: rest => .char c :: pieces (index + 1) rest
termination_by text.length
decreasing_by all_goals (simp only [List.length_cons, List.length_drop]; omega)

end Pattern

def standardPattern : String :=
  "%(levelname)s: %(message)s"

/-- The pattern that holds: none given is the standard one, and an empty one shows the message. -/
def pattern? (given : Option String) : Except PatternFault String :=
  match given with
  | none => .ok standardPattern
  | some "" => .ok "%(message)s"
  | some pattern =>
    if Pattern.hasField pattern.toList then .ok pattern else .error (.noFields pattern)

end SyncSchema.Terminal

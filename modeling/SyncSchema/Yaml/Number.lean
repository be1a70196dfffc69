import SyncSchema.Number.Binary64
import SyncSchema.Text.CharClass
import SyncSchema.Text.Casing
import SyncSchema.Yaml.Flaw

namespace SyncSchema.Yaml

def isDigitOrLine (c : Char) : Bool :=
  c.isDigit || c == '_'

def dropSign : List Char → List Char
  | '-' :: rest => rest
  | '+' :: rest => rest
  | text => text

def isNegative (text : List Char) : Bool :=
  text.head? == some '-'

def isSixties : List Char → Bool
  | [] => true
  | [':', a] => a.isDigit
  | ':' :: a :: ':' :: rest => a.isDigit && isSixties (':' :: rest)
  | ':' :: a :: b :: rest => '0' ≤ a && a ≤ '5' && b.isDigit && isSixties rest
  | _ => false
termination_by text => text.length

def digitOf? (base : Nat) (c : Char) : Option Nat :=
  let value :=
    if c.isDigit then c.toNat - 48
    else if 'a' ≤ c && c ≤ 'z' then c.toNat - 87
    else if 'A' ≤ c && c ≤ 'Z' then c.toNat - 55
    else base
  if value < base then some value else none

def asciiNumeral (text : List Char) : List Char :=
  text.map fun c =>
    if c.val < 127 then c
    else if Text.isBlank c then ' '
    else ((Text.decimalDigit? c).map fun digit => Char.ofNat (48 + digit)).getD c

def isNumeralBlank (c : Char) : Bool :=
  c == ' ' || 9 ≤ c.toNat && c.toNat ≤ 13

def numeral (text : List Char) : List Char :=
  let rest := (asciiNumeral text).dropWhile isNumeralBlank
  (rest.reverse.dropWhile isNumeralBlank).reverse

namespace Integer

def isPlainBody : List Char → Bool
  | '0' :: 'b' :: rest => !rest.isEmpty && rest.all fun c => c == '_' || (digitOf? 2 c).isSome
  | '0' :: 'x' :: rest => !rest.isEmpty && rest.all fun c => c == '_' || (digitOf? 16 c).isSome
  | '0' :: rest => rest.all fun c => c == '_' || (digitOf? 8 c).isSome
  | c :: rest => c.isDigit && isSixties (rest.dropWhile isDigitOrLine)
  | [] => false

def isPlain (text : List Char) : Bool :=
  isPlainBody (dropSign text)

def baseLetter? : Nat → Option Char
  | 2 => some 'b'
  | 8 => some 'o'
  | 16 => some 'x'
  | _ => none

def dropBaseMark (base : Nat) : List Char → List Char
  | '0' :: c :: rest => if baseLetter? base == some c.toLower then rest else '0' :: c :: rest
  | text => text

def ofDigits (base : Nat) (text : List Char) : Except Flaw Int :=
  let signed := numeral text
  match (dropBaseMark base (dropSign signed)).mapM (digitOf? base) with
  | some (digit :: digits) =>
    let value := (digit :: digits).foldl (fun n d => n * base + d) 0
    .ok (if isNegative signed then -(value : Int) else value)
  | _ => .error (.integer base (String.ofList text))

end Integer

def splitColons : List Char → List (List Char)
  | [] => [[]]
  | c :: rest =>
    match splitColons rest with
    | part :: parts => if c == ':' then [] :: part :: parts else (c :: part) :: parts
    | [] => [[c]]

def Integer.read (text : List Char) : Except Flaw Int := do
  let text := text.filter (· != '_')
  let sign : Int := if isNegative text then -1 else 1
  match dropSign text with
  | [] => .error .noDigits
  | ['0'] => return 0
  | '0' :: 'b' :: digits => return sign * (← ofDigits 2 digits)
  | '0' :: 'x' :: digits => return sign * (← ofDigits 16 digits)
  | '0' :: digits => return sign * (← ofDigits 8 ('0' :: digits))
  | digits =>
    if digits.contains ':' then
      let parts ← (splitColons digits).mapM (ofDigits 10)
      return sign * parts.foldl (fun n part => n * 60 + part) 0
    else return sign * (← ofDigits 10 digits)

namespace Fraction

def isExponent : List Char → Bool
  | [] => true
  | e :: sign :: digits =>
    (e == 'e' || e == 'E') && (sign == '-' || sign == '+') && !digits.isEmpty && digits.all Char.isDigit
  | _ => false

def isPlainBody (text : List Char) : Bool :=
  let rest := text.dropWhile isDigitOrLine
  match text, rest with
  | c :: _, '.' :: after => c.isDigit && isExponent (after.dropWhile isDigitOrLine)
  | c :: _, _ =>
    let sixties := rest.takeWhile (· != '.')
    let fraction := rest.drop sixties.length
    c.isDigit && !sixties.isEmpty && isSixties sixties && !fraction.isEmpty &&
      (fraction.drop 1).all isDigitOrLine
  | [], _ => false

def infinities : List (List Char) :=
  [".inf".toList, ".Inf".toList, ".INF".toList]

def notNumbers : List (List Char) :=
  [".nan".toList, ".NaN".toList, ".NAN".toList]

def isPlain (text : List Char) : Bool :=
  isPlainBody (dropSign text) || infinities.contains (dropSign text) || notNumbers.contains text ||
    match text with
    | '.' :: c :: rest => c.isDigit && isExponent (rest.dropWhile isDigitOrLine)
    | _ => false

def exponent? : List Char → Option Int
  | [] => some 0
  | e :: text =>
    let digits := dropSign text
    if e == 'e' && !digits.isEmpty && digits.all Char.isDigit then
      let value := digits.foldl (fun (n : Nat) c => n * 10 + (c.toNat - 48)) 0
      some (if isNegative text then -(value : Int) else value)
    else none

def decimal? (text : List Char) : Option (Nat × Int) := do
  let whole := text.takeWhile Char.isDigit
  let rest := text.drop whole.length
  let (fraction, rest) :=
    match rest with
    | '.' :: after => (after.takeWhile Char.isDigit, after.dropWhile Char.isDigit)
    | _ => ([], rest)
  let exponent ← exponent? rest
  if whole.isEmpty && fraction.isEmpty then none
  else return ((whole ++ fraction).foldl (fun n c => n * 10 + (c.toNat - 48)) 0,
    exponent - (fraction.length : Int))

def ofDigits (negative : Bool) (text : List Char) : Except Flaw Floating :=
  let signed := numeral text
  let negative := negative != isNegative signed
  let body := dropSign signed
  if body = "inf".toList || body = "infinity".toList then .ok (.infinite negative)
  else if body = "nan".toList then .ok .nan
  else
    match decimal? body with
    | some (digits, exponent) => .ok (.ofParts negative digits exponent)
    | none => .error (.float (String.ofList text))

def ofSixties (parts : List Floating) : Floating :=
  (parts.zipIdx.foldl (fun sum (part, place) => sum.add (part.times (Nat.pow 60 place)))
    (.finite (.zero false)))

def read (text : List Char) : Except Flaw Floating := do
  let text := Text.lower (text.filter (· != '_'))
  let negative := isNegative text
  let body := dropSign text
  if text.isEmpty then throw .noDigits
  if body = ".inf".toList then return .infinite negative
  if body = ".nan".toList then return .nan
  if body.contains ':' then
    let parts ← (splitColons body).mapM (ofDigits false)
    let value := ofSixties parts.reverse
    return if negative then value.negate else value
  ofDigits negative body

end Fraction

end SyncSchema.Yaml

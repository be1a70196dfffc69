namespace SyncSchema.Yaml

def isAllowed (c : Char) : Bool :=
  let n := c.toNat
  n == 9 || n == 10 || n == 13 || 0x20 ≤ n && n ≤ 0x7E || n == 0x85 || 0xA0 ≤ n && n ≤ 0xFFFD || 0x10000 ≤ n

def byteOrderMark : Char := Char.ofNat 0xFEFF

def isBreak (c : Char) : Bool :=
  c == '\n' || c.toNat == 0x85 || c.toNat == 0x2028 || c.toNat == 0x2029

def breakText (c : Char) : Char :=
  if c.toNat == 0x2028 || c.toNat == 0x2029 then c else '\n'

def isSpaceOrTab (c : Char) : Bool :=
  c == ' ' || c == '\t'

def startsApart : List Char → Bool
  | [] => true
  | c :: _ => c == ' ' || isBreak c

def startsBlank : List Char → Bool
  | [] => true
  | c :: _ => isSpaceOrTab c || isBreak c

def startsLine : List Char → Bool
  | [] => true
  | c :: _ => isBreak c

def isMark (mark : Char) : List Char → Bool
  | a :: b :: c :: rest => a == mark && b == mark && c == mark && startsBlank rest
  | _ => false

def startsMark (text : List Char) : Bool :=
  isMark '-' text || isMark '.' text

def dropSpaces (text : List Char) : List Char :=
  text.dropWhile (· == ' ')

def dropLineFeed (text : List Char) : List Char :=
  if text.getLast? == some '\n' then text.dropLast else text

def dropLine (text : List Char) : List Char :=
  text.dropWhile (!isBreak ·)

def dropComment : List Char → List Char
  | '#' :: rest => dropLine rest
  | text => text

def isWordChar (c : Char) : Bool :=
  c.isAlphanum || c == '-' || c == '_'

structure Position where
  index : Nat
  line : Nat
  column : Nat

def Position.step (p : Position) (c : Char) : Position :=
  if isBreak c then ⟨p.index + 1, p.line + 1, 0⟩
  else if c == byteOrderMark then ⟨p.index + 1, p.line, p.column⟩
  else ⟨p.index + 1, p.line, p.column + 1⟩

def Position.after (p : Position) (text : List Char) : Position :=
  text.foldl step p

end SyncSchema.Yaml

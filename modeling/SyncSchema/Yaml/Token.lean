import SyncSchema.Text.Utf8
import SyncSchema.Yaml.Scalar

namespace SyncSchema.Yaml

inductive Directive where
  | version (major : Nat)
  | handle (handle meaning : String)
  | other

inductive Token where
  | directive (directive : Directive)
  | documentStart
  | documentEnd
  | listStart
  | mappingStart
  | blockEnd
  | flowListStart
  | flowListEnd
  | flowMappingStart
  | flowMappingEnd
  | flowEntry
  | blockEntry
  | key
  | value
  | reference (name : String)
  | anchor (name : String)
  | tag (handle? : Option String) (suffix : String)
  | scalar (plain : Bool) (text : String)
  | textEnd
  | broken (fault : Fault)

namespace Token

def isUriChar (c : Char) : Bool :=
  c.isAlphanum || "-;/?:@&=+$,_.!~*'()[]".toList.contains c

def uriBytes : List Char → Option (List UInt8 × List Char)
  | '%' :: a :: b :: rest => do
    let high ← Quoted.hexDigit? a
    let low ← Quoted.hexDigit? b
    let (more, rest) ← uriBytes rest
    return (UInt8.ofNat (high * 16 + low) :: more, rest)
  | '%' :: _ => none
  | c :: rest =>
    if isUriChar c then do
      let (more, rest) ← uriBytes rest
      return (UInt8.ofNat c.toNat :: more, rest)
    else some ([], c :: rest)
  | [] => some ([], [])

def uri? (text : List Char) : Option (String × List Char) := do
  let (bytes, rest) ← uriBytes text
  if bytes.isEmpty then none
  else
    let chars ← (Text.Utf8.decode bytes).toOption
    return (String.ofList chars, rest)

def handle? : List Char → Option (String × List Char)
  | '!' :: rest =>
    if rest.head? == some ' ' then some ("!", rest)
    else
      let word := rest.takeWhile isWordChar
      match rest.drop word.length with
      | '!' :: after => some (String.ofList ('!' :: (word ++ ['!'])), after)
      | _ => none
  | _ => none

def apart {α : Type} (found : α × List Char) : Option (α × List Char) :=
  if startsApart found.2 then some found else none

def tag? (text : List Char) : Option (Token × List Char) :=
  match text with
  | '<' :: rest => do
    let (suffix, rest) ← uri? rest
    match rest with
    | '>' :: rest => apart (.tag none suffix, rest)
    | _ => none
  | _ =>
    if startsBlank text then apart (.tag none "!", text)
    else if (text.takeWhile fun c => c != ' ' && !isBreak c).contains '!' then do
      let (handle, rest) ← handle? ('!' :: text)
      let (suffix, rest) ← uri? rest
      apart (.tag (some handle) suffix, rest)
    else do
      let (suffix, rest) ← uri? text
      apart (.tag (some "!") suffix, rest)

def name? (text : List Char) : Option (String × List Char) :=
  let word := text.takeWhile isWordChar
  let rest := text.drop word.length
  let ends := startsBlank rest || rest.head?.any "?:,]\x7d%@`".toList.contains
  if word.isEmpty || !ends then none else some (String.ofList word, rest)

def number? (text : List Char) : Option (Nat × List Char) :=
  let digits := text.takeWhile Char.isDigit
  if digits.isEmpty then none
  else some (digits.foldl (fun n c => n * 10 + (c.toNat - 48)) 0, text.drop digits.length)

def version? (text : List Char) : Option (Directive × List Char) := do
  let (major, rest) ← number? (dropSpaces text)
  match rest with
  | '.' :: rest =>
    let (_, rest) ← number? rest
    apart (.version major, rest)
  | _ => none

def handleMeaning? (text : List Char) : Option (Directive × List Char) := do
  let (handle, rest) ← handle? (dropSpaces text)
  if rest.head? != some ' ' then none
  else
    let (meaning, rest) ← uri? (dropSpaces rest)
    apart (.handle handle meaning, rest)

def directive? (text : List Char) : Option (Directive × List Char) := do
  let word := text.takeWhile isWordChar
  let rest := text.drop word.length
  if word.isEmpty || !startsApart rest then none
  else
    let (found, rest) ←
      if word = "YAML".toList then version? rest
      else if word = "TAG".toList then handleMeaning? rest
      else some (Directive.other, dropLine rest)
    let line := dropComment (dropSpaces rest)
    if startsLine line then some (found, line.drop 1) else none

def isSign (c : Char) : Bool :=
  "-?:,[]\x7b\x7d#&*!|>'\"%@`".toList.contains c

def startsPlain (inFlow : Bool) (c : Char) (rest : List Char) : Bool :=
  !isSpaceOrTab c && !isBreak c && !isSign c ||
    !startsBlank rest && (c == '-' || !inFlow && (c == '?' || c == ':'))

end Token

/-- A place where a key may have started: how many tokens stood before it, and whether it must be one. -/
structure PossibleKey where
  count : Nat
  required : Bool
  position : Position

structure Scan where
  position : Position
  keyAllowed : Bool
  indents : List Nat
  /-- The possible key of the innermost flow collection, or of the block around all of them. -/
  key? : Option PossibleKey
  /-- The possible keys further out, one for each open flow collection. -/
  outer : List (Option PossibleKey)
  /-- The tokens so far, newest first. -/
  tokens : List Token

namespace Scan

abbrev Step := Except Fault (Scan × List Char)

def orMalformed {α : Type} : Option α → Except Fault α
  | some a => .ok a
  | none => .error .malformed

def start : Scan :=
  ⟨⟨0, 0, 0⟩, true, [], none, [], []⟩

def inFlow (s : Scan) : Bool :=
  !s.outer.isEmpty

def push (s : Scan) (token : Token) : Scan :=
  { s with tokens := token :: s.tokens }

def least (s : Scan) : Nat :=
  match s.indents with
  | [] => 0
  | column :: _ => column + 1

def dropKey (s : Scan) : Except Fault Scan :=
  if s.key?.any (·.required) then .error .malformed else .ok { s with key? := none }

def saveKey (s : Scan) : Except Fault Scan :=
  if s.keyAllowed then do
    let required := !s.inFlow && s.indents.head? == some s.position.column
    let s ← s.dropKey
    return { s with key? := some ⟨s.tokens.length, required, s.position⟩ }
  else .ok s

/-- A key stays on its line and has at most 1024 characters. -/
def isStale (s : Scan) (key : PossibleKey) : Bool :=
  key.position.line != s.position.line || 1024 < s.position.index - key.position.index

def dropStale (s : Scan) : Except Fault Scan :=
  let stale := ((s.key? :: s.outer).filterMap id).filter s.isStale
  if stale.any (·.required) then .error .malformed
  else
    let fresh := fun key? : Option PossibleKey => key?.filter (!s.isStale ·)
    .ok { s with key? := fresh s.key?, outer := s.outer.map fresh }

def unwind (s : Scan) (stays : Nat → Bool) : Scan :=
  if s.inFlow then s
  else
    let closed := s.indents.takeWhile (!stays ·)
    { s with indents := s.indents.drop closed.length, tokens := closed.map (fun _ => Token.blockEnd) ++ s.tokens }

def opensAt (s : Scan) (column : Nat) : Bool :=
  !s.inFlow && s.indents.head?.all (· < column)

def openBlock (s : Scan) (token : Token) : Scan :=
  if s.opensAt s.position.column then
    { s with indents := s.position.column :: s.indents, tokens := token :: s.tokens }
  else s

def insertKey (s : Scan) (key : PossibleKey) : Scan :=
  let (newer, older) := s.tokens.splitAt (s.tokens.length - key.count)
  if s.opensAt key.position.column then
    { s with indents := key.position.column :: s.indents
             tokens := newer ++ Token.key :: Token.mappingStart :: older }
  else { s with tokens := newer ++ Token.key :: older }

def directive (s : Scan) (rest : List Char) : Step := do
  let s ← (s.unwind fun _ => false).dropKey
  let (directive, rest) ← orMalformed (Token.directive? rest)
  return ({ s with keyAllowed := false }.push (.directive directive), rest)

def documentMark (s : Scan) (token : Token) (rest : List Char) : Step := do
  let s ← (s.unwind fun _ => false).dropKey
  return ({ s with keyAllowed := false }.push token, rest)

def openFlow (s : Scan) (token : Token) (rest : List Char) : Step := do
  let s ← s.saveKey
  return ({ s with keyAllowed := true, key? := none, outer := s.key? :: s.outer }.push token, rest)

def closeFlow (s : Scan) (token : Token) (rest : List Char) : Step := do
  let s ← s.dropKey
  match s.outer with
  | [] => .error .malformed
  | key? :: outer => return ({ s with keyAllowed := false, key?, outer }.push token, rest)

def flowEntry (s : Scan) (rest : List Char) : Step := do
  let s ← s.dropKey
  return ({ s with keyAllowed := true }.push .flowEntry, rest)

def blockEntry (s : Scan) (rest : List Char) : Step := do
  if !s.inFlow && !s.keyAllowed then throw .malformed
  let s ← (s.openBlock .listStart).dropKey
  return ({ s with keyAllowed := true }.push .blockEntry, rest)

def explicitKey (s : Scan) (rest : List Char) : Step := do
  if !s.inFlow && !s.keyAllowed then throw .malformed
  let s ← (s.openBlock .mappingStart).dropKey
  return ({ s with keyAllowed := !s.inFlow }.push .key, rest)

def value (s : Scan) (rest : List Char) : Step :=
  match s.key? with
  | some key => .ok (({ s with keyAllowed := false, key? := none }.insertKey key).push .value, rest)
  | none =>
    if !s.inFlow && !s.keyAllowed then .error .malformed
    else .ok (({ s with keyAllowed := !s.inFlow }.openBlock .mappingStart).push .value, rest)

def startOfKey (s : Scan) (read : Except Fault (Token × List Char)) : Step := do
  let s ← s.saveKey
  let (token, rest) ← read
  return ({ s with keyAllowed := false }.push token, rest)

def quoted (s : Scan) (double : Bool) (rest : List Char) : Step :=
  s.startOfKey ((Quoted.read double rest).map fun (text, rest) => (.scalar false (String.ofList text), rest))

def plain (s : Scan) (text : List Char) : Step := do
  let s ← s.saveKey
  let (word, newLine, rest) := Plain.words s.inFlow s.least [] false text
  return ({ s with keyAllowed := newLine }.push (.scalar true (String.ofList word)), rest)

def block (s : Scan) (folded : Bool) (rest : List Char) : Step := do
  let s ← s.dropKey
  let (text, rest) ← Block.read folded (max s.least 1) rest
  return ({ s with keyAllowed := true }.push (.scalar false (String.ofList text)), rest)

def step (s : Scan) (c : Char) (rest : List Char) : Step :=
  let first := s.position.column == 0
  if first && c == '%' then s.directive rest
  else if first && isMark '-' (c :: rest) then s.documentMark .documentStart (rest.drop 2)
  else if first && isMark '.' (c :: rest) then s.documentMark .documentEnd (rest.drop 2)
  else
    match c with
    | '[' => s.openFlow .flowListStart rest
    | '{' => s.openFlow .flowMappingStart rest
    | ']' => s.closeFlow .flowListEnd rest
    | '}' => s.closeFlow .flowMappingEnd rest
    | ',' => s.flowEntry rest
    | '*' => s.startOfKey (orMalformed ((Token.name? rest).map fun (name, rest) => (.reference name, rest)))
    | '&' => s.startOfKey (orMalformed ((Token.name? rest).map fun (name, rest) => (.anchor name, rest)))
    | '!' => s.startOfKey (orMalformed (Token.tag? rest))
    | '\'' => s.quoted false rest
    | '"' => s.quoted true rest
    | c =>
      if c == '-' && startsBlank rest then s.blockEntry rest
      else if c == '?' && (s.inFlow || startsBlank rest) then s.explicitKey rest
      else if c == ':' && (s.inFlow || startsBlank rest) then s.value rest
      else if !s.inFlow && (c == '|' || c == '>') then s.block (c == '>') rest
      else if Token.startsPlain s.inFlow c rest then s.plain (c :: rest)
      else .error .malformed

def nextToken (newLine : Bool) : List Char → Bool × List Char
  | [] => (newLine, [])
  | c :: rest =>
    if c == ' ' then nextToken newLine rest
    else if isBreak c then nextToken true rest
    else if c == '#' then comment newLine rest
    else (newLine, c :: rest)
where
  comment (newLine : Bool) : List Char → Bool × List Char
    | [] => (newLine, [])
    | c :: rest => if isBreak c then nextToken true rest else comment newLine rest

def moveTo (s : Scan) (text rest : List Char) : Scan :=
  { s with position := s.position.after (text.take (text.length - rest.length)) }

def settle (s : Scan) (text : List Char) (newLine : Bool) (rest : List Char) : Except Fault Scan := do
  let s := s.moveTo text rest
  let s ← { s with keyAllowed := s.keyAllowed || newLine && !s.inFlow }.dropStale
  return s.unwind (· ≤ s.position.column)

/--
The tokens so far, when what comes next is at fault. A token is held back as long as a key may have
started there, with all that follow it.
-/
def brokenBy (s : Scan) (fault : Fault) : List Token :=
  let open_ := ((s.key? :: s.outer).filterMap id).filter (!s.isStale ·)
  let count := open_.foldl (fun count key => min count key.count) s.tokens.length
  s.tokens.reverse.take count ++ [.broken fault]

/-- The tokens of the text from here on, behind those so far. A step that reads nothing is an error. -/
def run (s : Scan) (text : List Char) : List Token :=
  let (newLine, here) := nextToken false text
  match s.settle text newLine here, here with
  | .error fault, _ => s.brokenBy fault
  | .ok settled, [] =>
    match (settled.unwind fun _ => false).dropKey with
    | .error fault => s.brokenBy fault
    | .ok finished => (finished.push .textEnd).tokens.reverse
  | .ok settled, c :: rest =>
    match settled.step c rest with
    | .error fault => s.brokenBy fault
    | .ok (stepped, after) =>
      if _h : after.length < text.length then run (stepped.moveTo here after) after
      else s.brokenBy .malformed
termination_by text.length

end Scan

def Token.scan (text : List Char) : List Token :=
  if !text.all isAllowed then [.broken .malformed]
  else
    match text with
    | c :: rest => Scan.start.run (if c == byteOrderMark then rest else text)
    | [] => [.textEnd]

end SyncSchema.Yaml

import SyncSchema.Yaml.Flaw
import SyncSchema.Yaml.Layout

namespace SyncSchema.Yaml

structure Zone where
  west : Bool
  minutes : Nat

structure Stamp where
  year : Nat
  month : Nat
  day : Nat
  clock : Option (Nat × Nat × Nat)
  zone : Option Zone

namespace Stamp

def digit? (c : Char) : Option Nat :=
  if c.isDigit then some (c.toNat - 48) else none

def two? : List Char → Option (Nat × List Char)
  | a :: b :: rest => do return ((← digit? a) * 10 + (← digit? b), rest)
  | _ => none

def oneOrTwo? (text : List Char) : Option (Nat × List Char) :=
  two? text <|>
    match text with
    | a :: rest => (digit? a).map (·, rest)
    | [] => none

def behind? (c : Char) : List Char → Option (List Char)
  | d :: rest => if d == c then some rest else none
  | [] => none

def zone? (text : List Char) : Option (Option Zone) :=
  match text.dropWhile isSpaceOrTab with
  | [] => if text.isEmpty then some none else none
  | ['Z'] => some (some ⟨false, 0⟩)
  | sign :: rest => do
    if sign != '+' && sign != '-' then none
    else
      let (hours, rest) ← oneOrTwo? rest
      match rest with
      | [] => return some ⟨sign == '-', hours * 60⟩
      | ':' :: rest =>
        let (minutes, rest) ← two? rest
        if rest.isEmpty then return some ⟨sign == '-', hours * 60 + minutes⟩ else none
      | _ => none

def dropFraction : List Char → List Char
  | '.' :: rest => rest.dropWhile Char.isDigit
  | text => text

def clock? (text : List Char) : Option ((Nat × Nat × Nat) × Option Zone) := do
  let rest ←
    match text with
    | c :: rest =>
      if c == 'T' || c == 't' then some rest
      else if isSpaceOrTab c then some (rest.dropWhile isSpaceOrTab)
      else none
    | [] => none
  let (hour, rest) ← oneOrTwo? rest
  let (minute, rest) ← two? (← behind? ':' rest)
  let (second, rest) ← two? (← behind? ':' rest)
  return ((hour, minute, second), ← zone? (dropFraction rest))

def ofText? (text : List Char) : Option Stamp := do
  let (century, rest) ← two? text
  let (years, rest) ← two? rest
  let (month, rest) ← oneOrTwo? (← behind? '-' rest)
  let (day, rest) ← oneOrTwo? (← behind? '-' rest)
  let year := century * 100 + years
  if rest.isEmpty then return { year, month, day, clock := none, zone := none }
  let (clock, zone) ← clock? rest
  return { year, month, day, clock := some clock, zone }

def isPlain (text : List Char) : Bool :=
  (ofText? text).any fun stamp => stamp.clock.isSome || text.length == 10

def isLeap (year : Nat) : Bool :=
  year % 4 == 0 && (year % 100 != 0 || year % 400 == 0)

def daysIn (year month : Nat) : Nat :=
  if month == 2 then if isLeap year then 29 else 28
  else if month == 4 || month == 6 || month == 9 || month == 11 then 30
  else 31

def checkDate (s : Stamp) : Except Flaw Unit := do
  if s.year = 0 then throw (.timePart .year)
  if s.month = 0 || 12 < s.month then throw (.timePart .month)
  if s.day = 0 || daysIn s.year s.month < s.day then throw (.timePart .day)

def checkClock (hour minute second : Nat) : Except Flaw Unit := do
  if 24 ≤ hour then throw (.timePart .hour)
  if 60 ≤ minute then throw (.timePart .minute)
  if 60 ≤ second then throw (.timePart .second)

def checkZone (zone : Zone) : Except Flaw Unit := do
  if 24 * 60 ≤ zone.minutes then
    let seconds : Int := zone.minutes * 60
    let signed := if zone.west then -seconds else seconds
    throw (.offset (signed.fdiv 86400) (signed.fmod 86400))

def kind (s : Stamp) : Except Flaw String :=
  match s.clock with
  | none => do
    s.checkDate
    return "date"
  | some (hour, minute, second) => do
    match s.zone with
    | some zone => checkZone zone
    | none => pure ()
    s.checkDate
    checkClock hour minute second
    return "datetime"

end Stamp

end SyncSchema.Yaml

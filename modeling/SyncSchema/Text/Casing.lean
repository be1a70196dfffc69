import SyncSchema.Text.CasedTable
import SyncSchema.Text.CaseMapTable

namespace SyncSchema.Text

def mapCase (long : List (Nat × List Nat)) (runs : List CaseRun) (c : Char) : List Char :=
  match long.lookup c.toNat with
  | some image => image.map Char.ofNat
  | none => [Char.ofNat ((runs.findSome? (·.image? c.toNat)).getD c.toNat)]

def upperChar (c : Char) : List Char :=
  if c.val < 128 then [c.toUpper] else mapCase longUppers upperRuns c

def lowerChar (c : Char) : List Char :=
  if c.val < 128 then [c.toLower] else mapCase longLowers lowerRuns c

def isCaseIgnorable (c : Char) : Bool :=
  if c.val < 128 then c == '\'' || c == '.' || c == ':' || c == '^' || c.toNat == 96
  else caseIgnorableRanges.has c.toNat

def isCased (c : Char) : Bool :=
  if c.val < 128 then c.isAlpha else casedRanges.has c.toNat

def casedAhead (rest : List Char) : Bool :=
  (rest.dropWhile isCaseIgnorable).head?.any isCased

/-- `afterCased` tells whether a cased character stands before, case-ignorable ones passed over. -/
def lowerFrom (afterCased : Bool) : List Char → List Char
  | [] => []
  | c :: rest =>
    let here := if c.toNat = 0x3A3 && afterCased && !casedAhead rest then [Char.ofNat 0x3C2] else lowerChar c
    here ++ lowerFrom (if isCaseIgnorable c then afterCased else isCased c) rest

def lower (text : List Char) : List Char :=
  lowerFrom false text

def upper (text : List Char) : List Char :=
  text.flatMap upperChar

end SyncSchema.Text

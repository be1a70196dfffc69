import SyncSchema.Text.CharClass

namespace SyncSchema.Naming
open Text

/-- A word starts at `b`, which stands right after `a`; `next` stands right after `b`. -/
def startsWord (a b : Char) (next : Option Char) : Bool :=
  (a.isLower || a.isDigit) && b.isUpper || a.isUpper && b.isUpper && next.any Char.isLower

def goesOn (c : Char) : List Char → Bool
  | [] => false
  | d :: rest => isLetterOrNumber d && !startsWord c d rest.head?

def extendFirst (c : Char) : List (List Char) → List (List Char)
  | [] => [[c]]
  | word :: words => (c :: word) :: words

def splitWords : List Char → List (List Char)
  | [] => []
  | c :: rest =>
    if isLetterOrNumber c then
      if goesOn c rest then extendFirst c (splitWords rest) else [c] :: splitWords rest
    else splitWords rest

end SyncSchema.Naming

import SyncSchema.Naming.Words
import SyncSchema.Text.Casing

namespace SyncSchema.Naming
open Text

def capitalize : List Char → List Char
  | [] => []
  | c :: rest => (if isDigit c then ['_', c] else upperChar c) ++ lower rest

def joinCamel : List (List Char) → List Char
  | [] => []
  | word :: words => lower word ++ words.flatMap capitalize

def camelChars (name : List Char) : List Char :=
  name.takeWhile (· == '_') ++ joinCamel (splitWords (name.dropWhile (· == '_')))

def camel (name : String) : String :=
  String.ofList (camelChars name.toList)

def words (name : String) : List String :=
  (splitWords name.toList).map String.ofList

end SyncSchema.Naming

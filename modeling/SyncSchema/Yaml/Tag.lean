import SyncSchema.Yaml.Number
import SyncSchema.Yaml.Time

namespace SyncSchema.Yaml

inductive Tag where
  | null
  | bool
  | int
  | float
  | binary
  | timestamp
  | orderedPairs
  | pairs
  | set
  | text
  | list
  | mapping
  | merge
  | value
  | unknown
deriving DecidableEq

namespace Tag

def root : String :=
  "tag:yaml.org,2002:"

def names : List (String × Tag) :=
  [("null", null), ("bool", bool), ("int", int), ("float", float), ("binary", binary),
    ("timestamp", timestamp), ("omap", orderedPairs), ("pairs", pairs), ("set", set), ("str", text),
    ("seq", list), ("map", mapping), ("merge", merge), ("value", value)]

def ofName (name : String) : Tag :=
  ((names.find? fun entry => root ++ entry.1 == name).map (·.2)).getD unknown

def isSpelling (word : String) (text : String) : Bool :=
  text == word || text == word.capitalize || text == word.map Char.toUpper

def flags : List (String × Bool) :=
  [("yes", true), ("no", false), ("true", true), ("false", false), ("on", true), ("off", false)]

def ofWord (chars : List Char) : Tag :=
  let text := String.ofList chars
  if flags.any fun flag => isSpelling flag.1 text then bool
  else if Fraction.isPlain chars then float
  else if Integer.isPlain chars then int
  else if text == "<<" then merge
  else if text == "~" || isSpelling "null" text then null
  else if Stamp.isPlain chars then timestamp
  else if text == "=" then value
  else Tag.text

def ofPlain (text : String) : Tag :=
  if text.isEmpty then null else ofWord (dropLineFeed text.toList)

end Tag

end SyncSchema.Yaml

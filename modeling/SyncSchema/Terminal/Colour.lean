import SyncSchema.Log
import SyncSchema.Text.Casing

namespace SyncSchema.Terminal

def reset : String := "\x1b[0m"
def bold : String := "\x1b[1m"
def cyan : String := "\x1b[36m"
def yellow : String := "\x1b[33m"
def red : String := "\x1b[31m"
def magenta : String := "\x1b[35m"
def brightGreen : String := "\x1b[92m"
def brightBlue : String := "\x1b[94m"
def brightCyan : String := "\x1b[96m"

def occurs (word : List Char) : List Char → Bool
  | [] => word.isEmpty
  | c :: rest => word.isPrefixOf (c :: rest) || occurs word rest

def mentions (words : List String) (text : List Char) : Bool :=
  words.any fun word => occurs word.toList text

def isRule (message : List Char) : Bool :=
  occurs (List.replicate 20 '=') message

def successWords : List String :=
  ["complete", "successfully", "written", "validated", "done", "✓"]

def progressWords : List String :=
  ["loading", "parsing", "transforming", "rendering", "formatting", "writing", "building", "hashing", "→"]

def highlightWords : List String :=
  ["excluding", "skipping", "synthesizing", "found", "•"]

def colour? (level : Level) (message : String) : Option String :=
  let lowered := Text.lower message.toList
  if level = .error then some red
  else if level = .critical then some magenta
  else if level = .warning then some yellow
  else if isRule message.toList then some (bold ++ brightCyan)
  else if mentions successWords lowered then some (brightGreen ++ bold)
  else if mentions progressWords lowered then some brightBlue
  else if mentions highlightWords lowered then some brightCyan
  else if level = .debug then some cyan
  else none

def paint (colours : Bool) (level : Level) (message text : String) : String :=
  if colours then
    match colour? level message with
    | some codes => codes ++ text ++ reset
    | none => text
  else text

end SyncSchema.Terminal

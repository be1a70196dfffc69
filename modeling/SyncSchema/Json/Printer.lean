import SyncSchema.Json.Equality
import SyncSchema.Text.Quoted

namespace SyncSchema.Json

mutual
def compact : Json → List Char
  | .null => "null".toList
  | .bool b => (if b then "true" else "false").toList
  | .int i => i.repr.toList
  | .float x => x.text "Infinity".toList "NaN".toList
  | .str s => Text.Quoted.encode s.toList
  | .arr [] => ['[', ']']
  | .arr (item :: rest) => '[' :: (item.compact ++ compactItems rest)
  | .obj [] => ['{', '}']
  | .obj ((key, value) :: rest) =>
    '{' :: (Text.Quoted.encode key.toList ++ ':' :: (value.compact ++ compactFields rest))

def compactItems : List Json → List Char
  | [] => [']']
  | item :: rest => ',' :: (item.compact ++ compactItems rest)

def compactFields : List (String × Json) → List Char
  | [] => ['}']
  | (key, value) :: rest =>
    ',' :: (Text.Quoted.encode key.toList ++ ':' :: (value.compact ++ compactFields rest))
end

def render (value : Json) : String :=
  String.ofList value.compact

end SyncSchema.Json

import SyncSchema.Json.Equality
import SyncSchema.Text.Literal

namespace SyncSchema.Json

mutual
def literalChars : Json → List Char
  | .null => "None".toList
  | .bool b => (if b then "True" else "False").toList
  | .int i => i.repr.toList
  | .float x => x.text "inf".toList "nan".toList
  | .str s => Text.Literal.encode s.toList
  | .arr [] => ['[', ']']
  | .arr (item :: rest) => '[' :: (item.literalChars ++ literalItems rest)
  | .obj [] => ['{', '}']
  | .obj ((key, value) :: rest) =>
    '{' :: (Text.Literal.encode key.toList ++ ':' :: ' ' :: (value.literalChars ++ literalFields rest))

def literalItems : List Json → List Char
  | [] => [']']
  | item :: rest => ',' :: ' ' :: (item.literalChars ++ literalItems rest)

def literalFields : List (String × Json) → List Char
  | [] => ['}']
  | (key, value) :: rest =>
    ',' :: ' ' :: (Text.Literal.encode key.toList ++ ':' :: ' ' :: (value.literalChars ++ literalFields rest))
end

def literal (value : Json) : String :=
  String.ofList value.literalChars

def display : Json → String
  | .str s => s
  | value => value.literal

@[simp] theorem display_str (s : String) : display (.str s) = s := rfl

end SyncSchema.Json

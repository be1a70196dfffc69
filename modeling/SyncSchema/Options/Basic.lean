import SyncSchema.Json.Display
import SyncSchema.Text.CharClass
import SyncSchema.Text.Point
import SyncSchema.Text.Utf8
import SyncSchema.Yaml.Value

namespace SyncSchema

structure Options where
  name : String
  outputDir : String
  outputFile : String
  excludeTables : List String
  remapTables : Bool
  remapColumns : Bool
  enumAsUnion : Bool
  prettier : Bool
  resolvePrettierConfig : Bool
deriving DecidableEq

inductive Setting where
  | name
  | outputDir
  | outputFile
  | excludeTables
  | remapTables
  | remapColumns
  | enumAsUnion
  | prettier
  | resolvePrettierConfig
deriving DecidableEq

namespace Setting

def all : List Setting :=
  [name, outputDir, outputFile, excludeTables, remapTables, remapColumns, enumAsUnion, prettier,
    resolvePrettierConfig]

def key : Setting → String
  | name => "name"
  | outputDir => "output_dir"
  | outputFile => "output_file"
  | excludeTables => "exclude_tables"
  | remapTables => "remap_tables_to_camel_case"
  | remapColumns => "remap_columns_to_camel_case"
  | enumAsUnion => "enum_as_union"
  | prettier => "prettier"
  | resolvePrettierConfig => "resolve_prettier_config"

def alias? : Setting → Option String
  | name => none
  | outputDir => some "output"
  | outputFile => some "outputFile"
  | excludeTables => some "excludeTables"
  | remapTables => some "remapTablesToCamelCase"
  | remapColumns => some "remapColumnsToCamelCase"
  | enumAsUnion => some "enumAsUnion"
  | prettier => none
  | resolvePrettierConfig => some "resolvePrettierConfig"

def ofKey? (key : String) : Option Setting :=
  all.find? (·.key == key)

def unknown (key : String) : String :=
  s!"'GeneratorConfigSchema' object has no attribute {Text.literal key}"

end Setting

abbrev Given := List (String × Yaml.Value)

namespace Given

/-- The value of an option and the spelling that gave it; the one in camel case comes first. -/
def find? (given : Given) (setting : Setting) : Option (String × Yaml.Value) :=
  (setting.alias?.toList ++ [setting.key]).findSome? fun spelling =>
    (given.lookup spelling).map (spelling, ·)

def remove (given : Given) (spelling : String) : Given :=
  given.filter (·.1 != spelling)

def set (given : Given) (spelling : String) (value : Yaml.Value) : Given :=
  match given with
  | [] => [(spelling, value)]
  | (other, old) :: rest =>
    if other = spelling then (other, value) :: rest else (other, old) :: set rest spelling value

def ofMapping (entries : List (Yaml.Value × Yaml.Value)) : Given :=
  entries.foldl (fun given (key, value) =>
    match key with
    | .text spelling => given.set spelling value
    | _ => given) []

def overrideWith (given : Given) (setting : Setting) (value : Yaml.Value) : Given :=
  (match setting.alias? with
  | some alias_ => given.remove alias_
  | none => given).set setting.key value

end Given

namespace Options

def notText : String := "Input should be a valid string"

def unreadableText : String := notText ++ ", unable to parse raw data as a unicode string"

def encodable? (text : String) : Except String String :=
  if Text.isEncodable text then .ok text else .error unreadableText

def readText (value : Yaml.Value) : Except String String := do
  let text ←
    match value with
    | .text s => encodable? s
    | .bytes data =>
      match Text.Utf8.decode data with
      | .ok chars => .ok (String.ofList chars)
      | .error _ => .error unreadableText
    | _ => .error notText
  if text.isEmpty then throw "String should have at least 1 character"
  return text

def trueWords : List String := ["1", "t", "true", "y", "yes", "on"]

def falseWords : List String := ["0", "f", "false", "n", "no", "off"]

def notAFlag : String := "Input should be a valid boolean"

def unreadableFlag : String := notAFlag ++ ", unable to interpret input"

/-- Zero and one are flags; other integers of sixty-four bits are read and refused, greater ones not read. -/
def readFlagNumber (i : Int) : Except String Bool :=
  if i = 0 then .ok false
  else if i = 1 then .ok true
  else if -0x8000000000000000 ≤ i && i < 0x8000000000000000 then .error unreadableFlag
  else .error notAFlag

def readFlagWord (text : String) : Except String Bool :=
  let word := text.toLower
  if trueWords.contains word then .ok true
  else if falseWords.contains word then .ok false
  else .error unreadableFlag

def readFlag : Yaml.Value → Except String Bool
  | .bool b => .ok b
  | .int i => readFlagNumber i
  | .float (.finite d) =>
    let (num, den) := Floating.exact d
    if num % den = 0 then readFlagNumber (num / den) else .error notAFlag
  | .text s => encodable? s >>= readFlagWord
  | .bytes data =>
    match Text.Utf8.decode data with
    | .ok chars => readFlagWord (String.ofList chars)
    | .error _ => .error unreadableFlag
  | _ => .error notAFlag

def readName (value : Yaml.Value) (index : Nat) : Except String String :=
  match value with
  | .text s =>
    let name := Text.strip s
    if name.isEmpty then .error s!"Item at index {index} cannot be empty or just whitespace."
    else .ok name
  | value => .error s!"Item at index {index} must be a string, found: {value.kindName}"

def readNames : Yaml.Value → Except String (List String)
  | .null => .ok []
  | .list items =>
    (items.zipIdx.mapM fun (item, index) => readName item index).mapError ("Value error, " ++ ·)
  | _ => .error "Value error, excludeTables must be an array"

def readSetting {α : Type} (given : Given) (setting : Setting) (read : Yaml.Value → Except String α)
    (absent : α) : Except (String × String) α :=
  match given.find? setting with
  | none => .ok absent
  | some (spelling, value) => (read value).mapError (spelling, ·)

def fault? {α : Type} : Except (String × String) α → Option (String × String)
  | .error fault => some fault
  | .ok _ => none

def validate (given : Given) : Except (List (String × String)) Options :=
  let name := readSetting given .name readText "zero"
  let outputDir := readSetting given .outputDir readText "generated/zero"
  let outputFile := readSetting given .outputFile readText "schema.ts"
  let excludeTables := readSetting given .excludeTables readNames []
  let remapTables := readSetting given .remapTables readFlag false
  let remapColumns := readSetting given .remapColumns readFlag false
  let enumAsUnion := readSetting given .enumAsUnion readFlag false
  let prettier := readSetting given .prettier readFlag false
  let resolvePrettierConfig := readSetting given .resolvePrettierConfig readFlag true
  match name, outputDir, outputFile, excludeTables, remapTables, remapColumns, enumAsUnion, prettier,
    resolvePrettierConfig with
  | .ok name, .ok outputDir, .ok outputFile, .ok excludeTables, .ok remapTables, .ok remapColumns,
    .ok enumAsUnion, .ok prettier, .ok resolvePrettierConfig =>
    .ok { name, outputDir, outputFile, excludeTables, remapTables, remapColumns, enumAsUnion, prettier,
          resolvePrettierConfig }
  | _, _, _, _, _, _, _, _, _ =>
    .error ([fault? name, fault? outputDir, fault? outputFile, fault? excludeTables, fault? remapTables,
      fault? remapColumns, fault? enumAsUnion, fault? prettier, fault? resolvePrettierConfig].filterMap id)

def get (o : Options) : Setting → Json
  | .name => .str o.name
  | .outputDir => .str o.outputDir
  | .outputFile => .str o.outputFile
  | .excludeTables => .arr (o.excludeTables.map .str)
  | .remapTables => .bool o.remapTables
  | .remapColumns => .bool o.remapColumns
  | .enumAsUnion => .bool o.enumAsUnion
  | .prettier => .bool o.prettier
  | .resolvePrettierConfig => .bool o.resolvePrettierConfig

def summary (o : Options) : String :=
  " ".intercalate (Setting.all.map fun setting => s!"{setting.key}={(o.get setting).literal}")

end Options

end SyncSchema

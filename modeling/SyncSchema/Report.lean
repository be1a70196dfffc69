import SyncSchema.Json.Display

namespace SyncSchema

/-- The families of error. Every family but the general one has a code and advice of its own. -/
inductive Family where
  | general
  | configuration
  | document
  | primaryKey
  | relationship
  | implicitJoin
  | codeGeneration
deriving DecidableEq

namespace Family

def name : Family → String
  | general => "ZeroSchemaGeneratorError"
  | configuration => "ConfigurationError"
  | document => "SchemaDocumentError"
  | primaryKey => "PrimaryKeyError"
  | relationship => "RelationshipError"
  | implicitJoin => "ImplicitJoinError"
  | codeGeneration => "CodeGenerationError"

def line : Family → List Family
  | general => [general]
  | implicitJoin => [implicitJoin, relationship, general]
  | family => [family, general]

def code? : Family → Option String
  | general => none
  | configuration => some "CONFIG_ERROR"
  | document => some "DOCUMENT_ERROR"
  | primaryKey => some "PRIMARY_KEY_ERROR"
  | relationship => some "RELATIONSHIP_ERROR"
  | implicitJoin => some "IMPLICIT_JOIN_ERROR"
  | codeGeneration => some "CODE_GENERATION_ERROR"

def details : Family → List String
  | general => []
  | configuration => ["config_file"]
  | document => ["model", "field"]
  | primaryKey => ["model"]
  | relationship => ["source_model", "target_model", "field"]
  | implicitJoin => ["relation_name", "source_model", "target_model", "field"]
  | codeGeneration => ["component", "path"]

def advice : Family → List String
  | general => []
  | configuration => [
      "Check the configuration file syntax",
      "Verify option names match the documented generator options",
      "Make sure excludeTables is a list of model names"]
  | document => [
      "Regenerate the DMMF JSON from a schema that passes validation",
      "Check the document is the full DMMF or its 'datamodel' section"]
  | primaryKey => [
      "Mark one field with @id or declare @@id([...]) on the model",
      "Add the model to excludeTables if it should not be synced"]
  | relationship => [
      "Check both sides of the relation are declared",
      "Check @relation(fields: [...], references: [...]) lists have the same length",
      "Verify the target model exists in the document"]
  | implicitJoin => [
      "Give both models of the many-to-many relation a single @id field",
      "Model the join table explicitly instead of relying on an implicit one"]
  | codeGeneration => [
      "Check the output directory is writable",
      "Install prettier or disable the formatting pass"]

end Family

structure Report where
  family : Family
  message : String
  context : List (String × Json)
  suggestions : Json
  code : Json
deriving DecidableEq

namespace Report

/-- A context entry is replaced where it stands, or put at the end; one that is not given is left out. -/
def note (context : List (String × Json)) (key : String) (value : Json) : List (String × Json) :=
  if value.isGiven then set context else context
where
  set : List (String × Json) → List (String × Json)
    | [] => [(key, value)]
    | (k, v) :: rest => if k = key then (k, value) :: rest else (k, v) :: set rest

/--
A report of a family: the details of the family come behind the context given, and the family's advice
stands in for missing suggestions.
-/
def make (family : Family) (message : String) (details : List (String × Json))
    (context : List (String × Json)) (suggestions : Json) : Report where
  family := family
  message := message
  context := family.details.foldl
    (fun context key => note context key ((details.lookup key).getD .null)) context
  suggestions := suggestions.orElse (.arr (family.advice.map .str))
  code := (family.code?.map .str).getD .null

def block (title : String) (lines : List String) : List String :=
  if lines.isEmpty then [] else title :: lines

def lines (r : Report) : List String :=
  [r.message] ++
    (if r.code.isGiven then [s!"Error Code: {r.code.display}"] else []) ++
    block "Context:" (r.context.map fun (key, value) => s!"  {key}: {value.display}") ++
    block "Suggestions:" (r.suggestions.parts.map fun suggestion => s!"  • {suggestion.display}")

def text (r : Report) : String :=
  "\n".intercalate r.lines

end Report

end SyncSchema

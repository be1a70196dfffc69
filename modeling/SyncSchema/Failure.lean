import SyncSchema.Files.Store
import SyncSchema.Json.Misuse
import SyncSchema.Json.Reader
import SyncSchema.Report
import SyncSchema.Terminal.Pattern
import SyncSchema.Text.Utf8
import SyncSchema.Yaml.Flaw

namespace SyncSchema

inductive Problem where
  | configMissing (path : String)
  /-- `said` is what the reader of the file says of the fault. -/
  | configUnreadable (path : String) (said : Option String)
  | invalidOptions (faults : List (String × String)) (file : Json)
  | documentMissing (path : String)
  | documentUnreadable (path : String) (error : Json.SyntaxError)
  | notAnObject (kind : Json.Kind)
  | noModels
  | notLists
  | incompleteModel (index : Nat) (key : String) (model : Json)
  | malformedModel (index : Nat) (misuse : Misuse) (model : Json)
  | malformedEnum (index : Nat) (misuse : Misuse)
  | repeatedModel (name : Json)
  | columnClash (model first second column : Json)
  | noPrimaryKey (model : Json)
  | unknownTarget (model target field : Json)
  | noForeignKeyOnTarget (model target field : Json)
  | noForeignKey (model target field : Json)
  | unevenLink (model target field : Json) (sources targets : Nat)
  | noIdField (model relation : Json)
  | formatterMissing
  | formatterNotStarted (reason : String)
  | formatterFailed (status : Int) (output : String)
  | notWritten (path : String) (refused : Refused)
deriving DecidableEq

namespace Problem

def relationReport (model target field : Json) (message : String) : Report :=
  .make .relationship message [("source_model", model), ("target_model", target), ("field", field)] [] .null

def report : Problem → Report
  | configMissing path =>
    .make .configuration s!"Config file not found at {path}" [("config_file", .str path)] [] .null
  | configUnreadable path said =>
    .make .configuration (s!"Error parsing YAML file {path}" ++ (said.elim "" (": " ++ ·)))
      [("config_file", .str path)] [] .null
  | invalidOptions faults file =>
    .make .configuration "Invalid generator configuration" [("config_file", file)]
      (faults.map fun (option, fault) => (option, .str fault)) .null
  | documentMissing path =>
    .make .document s!"DMMF document not found: {path}" [] [("path", .str path)] .null
  | documentUnreadable path error =>
    .make .document s!"Error parsing DMMF JSON {path}: {error.message}" [] [("path", .str path)] .null
  | notAnObject kind => .make .document s!"DMMF document must be a JSON object, got {kind.name}" [] [] .null
  | noModels => .make .document "DMMF document has no 'models' list" [] [] .null
  | notLists => .make .document "'models' and 'enums' must be lists" [] [] .null
  | incompleteModel index key model =>
    .make .document s!"Model at index {index} is missing required key {Text.literal key}"
      [("model", model)] [] .null
  | malformedModel index misuse model =>
    .make .document s!"Model at index {index} is malformed: {misuse.message}" [("model", model)] [] .null
  | malformedEnum index misuse =>
    .make .document s!"Enum at index {index} is malformed: {misuse.message}" [] [] .null
  | repeatedModel name =>
    .make .document s!"Model '{name.display}' is declared more than once" [("model", name)] [] .null
  | columnClash model first second column =>
    .make .document
      (s!"Fields '{first.display}' and '{second.display}' of model '{model.display}' " ++
        s!"both map to column '{column.display}'")
      [("model", model), ("field", second)] []
      (.arr [.str "Rename one of the fields", .str "Disable remapColumnsToCamelCase for this schema"])
  | noPrimaryKey model =>
    .make .primaryKey s!"No primary key found or mapped for {model.display}" [("model", model)] [] .null
  | unknownTarget model target field =>
    relationReport model target field
      s!"Target model {target.display} not found for relationship {field.display}"
  | noForeignKeyOnTarget model target field =>
    relationReport model target field
      s!"Relation {model.display}.{field.display} has no foreign key on {target.display}"
  | noForeignKey model target field =>
    relationReport model target field
      s!"Relation {model.display}.{field.display} declares no foreign key on either side"
  | unevenLink model target field sources targets =>
    relationReport model target field
      s!"Relation {model.display}.{field.display} links {sources} column(s) to {targets} column(s)"
  | noIdField model relation =>
    .make .implicitJoin s!"Implicit relation {relation.display}: Model {model.display} has no @id field."
      [("relation_name", relation), ("source_model", model)] [] .null
  | formatterMissing =>
    .make .codeGeneration "Unable to run prettier. Is it installed?" [("component", .str "prettier")] []
      (.arr [.str "Install prettier (npm install -g prettier)",
        .str "Disable the formatting pass (prettier: false)"])
  | formatterNotStarted reason =>
    .make .codeGeneration s!"Could not start prettier: {reason}" [("component", .str "prettier")] [] .null
  | formatterFailed status output =>
    .make .codeGeneration s!"prettier exited with status {status}: {output}"
      [("component", .str "prettier")] [] .null
  | notWritten path refused =>
    .make .codeGeneration s!"Could not write {path}: {refused.message}"
      [("component", .str "writer"), ("path", .str path)] [] .null

end Problem

inductive Invalid where
  | listColumn (field : Json)
  | cardinality (given : Json)
  | linkOrChain
  | chainLength
  | unencodable (error : Text.Unencodable)
deriving DecidableEq

def Invalid.message : Invalid → String
  | listColumn field => s!"List field '{field.display}' cannot be mapped to a column"
  | cardinality given => s!"{given.literal} is not a valid RelationshipType"
  | linkOrChain => "A relationship has either a direct link or a chain, not both"
  | chainLength => "A relationship chain has exactly two links"
  | unencodable error => error.message

inductive Failure where
  | problem (problem : Problem)
  | misuse (misuse : Misuse)
  | invalid (invalid : Invalid)
  | undecodable (error : Text.Utf8.Error)
  | refused (refused : Refused)
  | flaw (flaw : Yaml.Flaw)
  | pattern (fault : Terminal.PatternFault)
deriving DecidableEq

def Failure.message : Failure → String
  | problem p => p.report.text
  | misuse m => m.message
  | invalid i => i.message
  | undecodable e => e.message
  | refused r => r.message
  | flaw f => f.message
  | pattern f => f.message

end SyncSchema

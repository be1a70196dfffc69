namespace SyncSchema.Command

inductive Flag where
  | help
  | document
  | config
  | outputDir
  | outputFile
  | excludeTables
  | remapTables
  | remapColumns
  | enumAsUnion
  | prettier
  | verbose
  | noColor
deriving DecidableEq

inductive Arity where
  | none
  | one
  | many
deriving DecidableEq

namespace Flag

def arity : Flag → Arity
  | document | config | outputDir | outputFile => .one
  | excludeTables => .many
  | _ => .none

def spellings : List (String × Flag) := [
  ("-h", help),
  ("--help", help),
  ("-d", document),
  ("--document", document),
  ("-c", config),
  ("--config", config),
  ("-o", outputDir),
  ("--output-dir", outputDir),
  ("--output-file", outputFile),
  ("--exclude-tables", excludeTables),
  ("--remap-tables-to-camel-case", remapTables),
  ("--no-remap-tables-to-camel-case", remapTables),
  ("--remap-columns-to-camel-case", remapColumns),
  ("--no-remap-columns-to-camel-case", remapColumns),
  ("--enum-as-union", enumAsUnion),
  ("--no-enum-as-union", enumAsUnion),
  ("--prettier", prettier),
  ("--no-prettier", prettier),
  ("-v", verbose),
  ("--verbose", verbose),
  ("--no-color", noColor)]

def label (flag : Flag) : String :=
  "/".intercalate ((spellings.filter (·.2 = flag)).map (·.1))

end Flag

end SyncSchema.Command

import SyncSchema.Json.Printer
import SyncSchema.Run
import SyncSchema.Schema.Basic

/-!
The TypeScript module of a schema: imports, enums, tables, relationships, the schema itself and the row
types. The text is a sequence of blocks, each of whole lines.
-/

namespace SyncSchema.Module

def block (lines : List String) : String :=
  String.join (lines.map (· ++ "\n"))

def quoteList (names : List Json) (separator : String) : String :=
  separator.intercalate (names.map fun name => Text.quote name.display)

def header (hash : Option String) : String :=
  block (["// Generated by Zero Schema Generator"] ++
    match hash with
    | some hash => if hash.isEmpty then [] else ["// Schema hash: " ++ hash]
    | none => [])

def imports : String :=
  block [
    "",
    "import \x7b",
    "  table,",
    "  string,",
    "  boolean,",
    "  number,",
    "  json,",
    "  enumeration,",
    "  relationships,",
    "  createSchema,",
    "  type Row,",
    "\x7d from \"@rocicorp/zero\";",
    ""]

def union (e : Enum) : String :=
  block [
    "export type " ++ e.name.display ++ " = " ++ quoteList (e.values.map (·.stored)) " | " ++ ";",
    ""]

def member (v : EnumValue) : String :=
  "  " ++ v.name.display ++ " = " ++ v.stored.render ++ ","

def enum (e : Enum) : String :=
  block (["export enum " ++ e.name.display ++ " \x7b"] ++ e.values.map member ++ ["\x7d", ""])

def enums (asUnions : Bool) (enums : List Enum) : String :=
  if enums.isEmpty then ""
  else if asUnions then block ["// Define enums as unions", ""] ++ String.join (enums.map union)
  else block ["// Define enums", ""] ++ String.join (enums.map enum)

def ifGiven (name : Option Json) (text : Json → List String) : List String :=
  match name with
  | some name => if name.isGiven then text name else []
  | none => []

def column (key : Json) (c : Column) : String :=
  "    " ++ key.display ++ ": " ++ c.type ++
    String.join (ifGiven c.storedAs fun name => [".from('" ++ name.display ++ "')"]) ++
    (if c.isOptional then ".optional()" else "") ++ ","

def table (t : Table) : String :=
  block (["export const " ++ t.constant ++ " = table(" ++ t.name.render ++ ")"] ++
    (ifGiven t.storedAs fun name => ["  .from(" ++ name.render ++ ")"]) ++
    ["  .columns(\x7b"] ++ t.columns.map (fun entry => column entry.1 entry.2) ++
    ["  \x7d)", "  .primaryKey(" ++ quoteList t.primaryKey ", " ++ ");", ""])

def link (l : Link) : String :=
  "\x7b\n    sourceField: " ++ (Json.arr l.source).render ++
    ",\n    destField: " ++ (Json.arr l.dest).render ++
    ",\n    destSchema: " ++ l.target ++ ",\n  \x7d"

def relationship (name : Json) (r : Relationship) : String :=
  "  " ++ name.display ++ ": " ++ r.cardinality.name ++ "(" ++
    ", ".intercalate (r.route.links.map link) ++ ")"

def relationshipLines : List (Json × Relationship) → List String
  | [] => []
  | [(name, r)] => [relationship name r]
  | (name, r) :: rest => (relationship name r ++ ",") :: relationshipLines rest

def relationshipsConstant (t : Table) : String :=
  t.constant ++ "Relationships"

def relationships (t : Table) : String :=
  block (["export const " ++ relationshipsConstant t ++ " = relationships(" ++ t.constant ++ ", (\x7b " ++
      ", ".intercalate (t.cardinalities.map (·.name)) ++ " \x7d) => (\x7b"] ++
    relationshipLines t.relationships ++ ["\x7d));", ""])

def allRelationships (related : List Table) : String :=
  if related.isEmpty then ""
  else block ["", "// Define relationships", ""] ++ String.join (related.map relationships)

def schema (tables related : List Table) : String :=
  block (["// Define schema", "", "export const schema = createSchema(", "  \x7b", "    tables: ["] ++
    tables.map (fun t => "      " ++ t.constant ++ ",") ++ ["    ],"] ++
    (if related.isEmpty then []
    else ["    relationships: ["] ++ related.map (fun t => "      " ++ relationshipsConstant t ++ ",") ++
      ["    ],"]) ++
    ["  \x7d", ");", "", "// Define types", "export type Schema = typeof schema;"])

def row (t : Table) : String :=
  "export type " ++ t.model ++ " = Row<typeof schema.tables." ++ t.name.display ++ ">;"

def text (s : Schema) (enumsAsUnions : Bool) (hash : Option String) : String :=
  header hash ++ imports ++ enums enumsAsUnions s.enums ++
    block ["// Define tables", ""] ++ String.join (s.tables.map table) ++
    allRelationships s.related ++ schema s.tables s.related ++ block (s.tables.map row)

def emit (s : Schema) (enumsAsUnions : Bool) (hash : Option String) : Run String := do
  let form := if enumsAsUnions then "unions" else "enums"
  Run.log .debug s!"Rendered {s.tables.length} tables and {s.enums.length} enums ({form})"
  return text s enumsAsUnions hash

end SyncSchema.Module

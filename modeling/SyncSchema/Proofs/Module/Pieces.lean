import Mathlib.Data.String.Basic
import SyncSchema.Module.Text

namespace SyncSchema

namespace Module

inductive Piece where
  | code (text : String)
  | identifier (name : String)
  /-- A value between double quotes, with escapes. -/
  | literal (value : Json)
  /-- A value between single quotes, as it is. -/
  | bare (value : Json)

namespace Piece

def text : Piece → String
  | code text => text
  | identifier name => name
  | literal value => value.render
  | bare value => "'" ++ value.display ++ "'"

def isMark : Piece → Bool
  | code _ => false
  | identifier _ | literal _ | bare _ => true

end Piece

def print (pieces : List Piece) : String :=
  String.join (pieces.map Piece.text)

def separated (separator : String) (parts : List (List Piece)) : List Piece :=
  [Piece.code separator].intercalate parts

def given (name : Option Json) : List Json :=
  (name.filter Json.isGiven).toList

namespace Pieces
open Piece

def block (lines : List (List Piece)) : List Piece :=
  lines.flatMap (· ++ [code "\n"])

def quoteList (names : List Json) (separator : String) : List Piece :=
  separated separator (names.map fun name => [literal (.str name.display)])

def list (items : List Json) : List Piece :=
  [code "["] ++ separated "," (items.map fun item => [literal item]) ++ [code "]"]

def union (e : Enum) : List Piece :=
  block [
    [code "export type ", identifier e.name.display, code " = "] ++ quoteList (e.values.map (·.stored)) " | " ++ [code ";"],
    []]

def member (v : EnumValue) : List Piece :=
  [code "  ", identifier v.name.display, code " = ", literal v.stored, code ","]

def enum (e : Enum) : List Piece :=
  block ([[code "export enum ", identifier e.name.display, code " \x7b"]] ++ e.values.map member ++ [[code "\x7d"], []])

def enums (asUnions : Bool) (enums : List Enum) : List Piece :=
  if enums.isEmpty then []
  else if asUnions then code (Module.block ["// Define enums as unions", ""]) :: enums.flatMap union
  else code (Module.block ["// Define enums", ""]) :: enums.flatMap enum

def column (key : Json) (c : Column) : List Piece :=
  [code "    ", identifier key.display, code ": ", code c.type] ++
    (given c.storedAs).flatMap (fun stored => [code ".from(", bare stored, code ")"]) ++
    [code (if c.isOptional then ".optional()" else ""), code ","]

def table (t : Table) : List Piece :=
  block ([[code "export const ", identifier t.constant, code " = table(", literal t.name, code ")"]] ++
    (given t.storedAs).map (fun stored => [code "  .from(", literal stored, code ")"]) ++
    [[code "  .columns(\x7b"]] ++ t.columns.map (fun entry => column entry.1 entry.2) ++
    [[code "  \x7d)"], [code "  .primaryKey("] ++ quoteList t.primaryKey ", " ++ [code ");"], []])

def link (l : Link) : List Piece :=
  [code "\x7b\n    sourceField: "] ++ list l.source ++ [code ",\n    destField: "] ++ list l.dest ++
    [code ",\n    destSchema: ", identifier l.target, code ",\n  \x7d"]

def relationship (key : Json) (r : Relationship) : List Piece :=
  [code "  ", identifier key.display, code ": ", code r.cardinality.name, code "("] ++
    separated ", " (r.route.links.map link) ++ [code ")"]

def relationshipLines : List (Json × Relationship) → List (List Piece)
  | [] => []
  | [(name, r)] => [relationship name r]
  | (name, r) :: rest => (relationship name r ++ [code ","]) :: relationshipLines rest

def relationships (t : Table) : List Piece :=
  block ([[code "export const ", identifier (relationshipsConstant t), code " = relationships(", identifier t.constant,
      code ", (\x7b ", code (", ".intercalate (t.cardinalities.map (·.name))), code " \x7d) => (\x7b"]] ++
    relationshipLines t.relationships ++ [[code "\x7d));"], []])

def allRelationships (related : List Table) : List Piece :=
  if related.isEmpty then []
  else code (Module.block ["", "// Define relationships", ""]) :: related.flatMap relationships

def constants (names : List String) : List Piece :=
  block (names.map fun constant => [code "      ", identifier constant, code ","])

def schema (tables related : List Table) : List Piece :=
  [code (Module.block ["// Define schema", "", "export const schema = createSchema(", "  \x7b", "    tables: ["])] ++
    constants (tables.map (·.constant)) ++ [code (Module.block ["    ],"])] ++
    (if related.isEmpty then []
    else [code (Module.block ["    relationships: ["])] ++ constants (related.map relationshipsConstant) ++
      [code (Module.block ["    ],"])]) ++
    [code (Module.block ["  \x7d", ");", "", "// Define types", "export type Schema = typeof schema;"])]

def row (t : Table) : List Piece :=
  [code "export type ", identifier t.model, code " = Row<typeof schema.tables.", identifier t.name.display, code ">;"]

end Pieces

def pieces (s : Schema) (enumsAsUnions : Bool) (hash : Option String) : List Piece :=
  [.code (header hash), .code imports] ++ Pieces.enums enumsAsUnions s.enums ++
    [.code (block ["// Define tables", ""])] ++ s.tables.flatMap Pieces.table ++
    Pieces.allRelationships s.related ++ Pieces.schema s.tables s.related ++ Pieces.block (s.tables.map Pieces.row)

namespace Marks
open Piece

def enum (asUnions : Bool) (e : Enum) : List Piece :=
  identifier e.name.display :: e.values.flatMap fun v =>
    if asUnions then [literal (.str v.stored.display)] else [identifier v.name.display, literal v.stored]

def table (t : Table) : List Piece :=
  [identifier t.constant, literal t.name] ++ (given t.storedAs).map literal ++
    t.columns.flatMap (fun entry => identifier entry.1.display :: (given entry.2.storedAs).map bare) ++
    t.primaryKey.map fun key => literal (.str key.display)

def link (l : Link) : List Piece :=
  l.source.map literal ++ l.dest.map literal ++ [identifier l.target]

def relationships (t : Table) : List Piece :=
  [identifier (relationshipsConstant t), identifier t.constant] ++
    t.relationships.flatMap fun entry => identifier entry.1.display :: entry.2.route.links.flatMap link

def row (t : Table) : List Piece :=
  [identifier t.model, identifier t.name.display]

end Marks

/-- What of a schema stands in its module, in this order. -/
def marks (s : Schema) (enumsAsUnions : Bool) : List Piece :=
  s.enums.flatMap (Marks.enum enumsAsUnions) ++ s.tables.flatMap Marks.table ++
    s.related.flatMap Marks.relationships ++ s.tables.map (.identifier ·.constant) ++
    s.related.map (.identifier <| relationshipsConstant ·) ++ s.tables.flatMap Marks.row

section

@[simp] theorem print_nil : print [] = "" := rfl

@[simp] theorem print_cons (piece : Piece) (pieces : List Piece) : print (piece :: pieces) = piece.text ++ print pieces :=
  String.join_cons

@[simp] theorem print_append (pieces others : List Piece) : print (pieces ++ others) = print pieces ++ print others := by
  rw [print, List.map_append, String.join_append]
  rfl

theorem print_flatMap {α : Type} (items : List α) (part : α → List Piece) :
    print (items.flatMap part) = String.join (items.map fun item => print (part item)) := by
  induction items with
  | nil => rfl
  | cons item rest ih => rw [List.flatMap_cons, print_append, ih, List.map_cons, String.join_cons]

theorem print_separated (separator : String) (parts : List (List Piece)) :
    print (separated separator parts) = separator.intercalate (parts.map print) := by
  rw [separated]
  induction parts with
  | nil => rfl
  | cons part rest ih =>
    cases rest with
    | nil => simp
    | cons next rest =>
      rw [List.intercalate_cons_cons, print_append, print_append, ih]
      simp only [List.map_cons, String.intercalate_cons_cons, print_cons, print_nil, Piece.text, String.append_empty]

theorem print_block (lines : List (List Piece)) : print (Pieces.block lines) = block (lines.map print) := by
  rw [Pieces.block, print_flatMap, block, List.map_map]
  simp only [Function.comp_def, print_append, print_cons, print_nil, Piece.text, String.append_empty]

theorem ifGiven_eq (name : Option Json) (text : Json → String) :
    ifGiven name (fun name => [text name]) = (given name).map text := by
  cases name with
  | none => rfl
  | some name => by_cases here : name.isGiven = true <;> simp [ifGiven, given, Option.filter, here]

theorem print_quoteList (names : List Json) (separator : String) :
    print (Pieces.quoteList names separator) = quoteList names separator := by
  have literal (name : Json) : print [.literal (.str name.display)] = Text.quote name.display := by
    rw [print_cons, print_nil, String.append_empty]
    rfl
  simp only [Pieces.quoteList, print_separated, quoteList, List.map_map, Function.comp_def, literal]

theorem ofList_cons (c : Char) (rest : List Char) :
    String.ofList (c :: rest) = String.ofList [c] ++ String.ofList rest := by
  rw [← String.ofList_append, List.singleton_append]

theorem ofList_compactItems (first : Json) (items : List Json) :
    String.ofList (first.compact ++ Json.compactItems items) =
      ",".intercalate ((first :: items).map Json.render) ++ "]" := by
  induction items generalizing first with
  | nil =>
    rw [Json.compactItems, String.ofList_append]
    rfl
  | cons next items ih =>
    rw [Json.compactItems, String.ofList_append, ofList_cons, ih, List.map_cons, List.map_cons, List.map_cons,
      String.intercalate_cons_cons, String.append_assoc, String.append_assoc]
    rfl

theorem render_arr (items : List Json) :
    (Json.arr items).render = "[" ++ ",".intercalate (items.map Json.render) ++ "]" := by
  cases items with
  | nil => rfl
  | cons first items =>
    rw [Json.render, Json.compact, ofList_cons, ofList_compactItems, String.append_assoc]

theorem print_list (items : List Json) : print (Pieces.list items) = (Json.arr items).render := by
  rw [render_arr, Pieces.list, print_append, print_append, print_separated]
  simp [Piece.text, Function.comp_def]

theorem print_union (e : Enum) : print (Pieces.union e) = union e := by
  simp [Pieces.union, union, print_block, print_quoteList, Piece.text, String.append_assoc]

theorem print_member (v : EnumValue) : print (Pieces.member v) = member v := by
  simp [Pieces.member, member, Piece.text, String.append_assoc]

theorem print_enum (e : Enum) : print (Pieces.enum e) = enum e := by
  simp [Pieces.enum, enum, print_block, print_member, Piece.text, String.append_assoc, Function.comp_def]

theorem print_enums (asUnions : Bool) (enums : List Enum) :
    print (Pieces.enums asUnions enums) = Module.enums asUnions enums := by
  rw [Pieces.enums, Module.enums]
  split
  · rfl
  · split
    · simp [Piece.text, print_flatMap, print_union]
    · simp [Piece.text, print_flatMap, print_enum]

theorem print_column (key : Json) (c : Column) : print (Pieces.column key c) = column key c := by
  have stored (name : Json) : ".from('" ++ (name.display ++ "')") = ".from(" ++ ("'" ++ (name.display ++ "')")) := by
    have opening : ".from('" = ".from(" ++ "'" := rfl
    rw [opening, String.append_assoc]
  simp [Pieces.column, column, ifGiven_eq, print_flatMap, Piece.text, String.append_assoc, stored]

theorem print_table (t : Table) : print (Pieces.table t) = table t := by
  simp [Pieces.table, table, ifGiven_eq, print_block, print_quoteList, print_column, Piece.text, String.append_assoc,
    Function.comp_def]

theorem print_link (l : Link) : print (Pieces.link l) = link l := by
  unfold Pieces.link link
  simp only [print_append, print_cons, print_nil, print_list, Piece.text, String.append_empty, String.append_assoc]

theorem print_relationship (key : Json) (r : Relationship) :
    print (Pieces.relationship key r) = relationship key r := by
  simp [Pieces.relationship, relationship, print_separated, print_link, Piece.text, String.append_assoc,
    Function.comp_def]

theorem print_relationshipLines (entries : List (Json × Relationship)) :
    (Pieces.relationshipLines entries).map print = relationshipLines entries := by
  induction entries with
  | nil => rfl
  | cons entry rest ih =>
    cases rest with
    | nil => simp [Pieces.relationshipLines, relationshipLines, print_relationship]
    | cons next rest =>
      simp [Pieces.relationshipLines, relationshipLines, print_relationship, Piece.text, ← ih]

theorem print_relationships (t : Table) : print (Pieces.relationships t) = relationships t := by
  simp [Pieces.relationships, relationships, print_block, print_relationshipLines, Piece.text, String.append_assoc]

theorem print_allRelationships (related : List Table) :
    print (Pieces.allRelationships related) = allRelationships related := by
  rw [Pieces.allRelationships, allRelationships]
  split
  · rfl
  · simp [Piece.text, print_flatMap, print_relationships]

theorem print_constants (names : List String) :
    print (Pieces.constants names) = block (names.map fun name => "      " ++ name ++ ",") := by
  simp [Pieces.constants, print_block, Piece.text, String.append_assoc, Function.comp_def]

theorem block_append (lines others : List String) : block (lines ++ others) = block lines ++ block others := by
  rw [block, List.map_append, String.join_append]
  rfl

theorem print_schema (tables related : List Table) : print (Pieces.schema tables related) = schema tables related := by
  unfold Pieces.schema schema
  simp only [print_append, print_constants, print_cons, print_nil, block_append, Piece.text, List.map_map,
    String.append_empty, Function.comp_def]
  split
  · simp only [print_nil]
    rfl
  · simp only [print_append, print_constants, print_cons, print_nil, block_append, Piece.text, List.map_map,
      String.append_empty, Function.comp_def]

theorem print_row (t : Table) : print (Pieces.row t) = row t := by
  unfold Pieces.row row
  simp only [print_cons, print_nil, Piece.text, String.append_empty, String.append_assoc]

theorem text_eq (s : Schema) (enumsAsUnions : Bool) (hash : Option String) :
    text s enumsAsUnions hash = print (pieces s enumsAsUnions hash) := by
  unfold text pieces
  simp only [print_append, print_cons, print_nil, print_flatMap, print_block, print_enums, print_table,
    print_allRelationships, print_schema, Piece.text, String.append_empty, List.map_map, Function.comp_def, print_row]

end

section

variable (text : String) (name : String) (value : Json) (rest : List Piece)

@[simp] theorem filter_code : (Piece.code text :: rest).filter Piece.isMark = rest.filter Piece.isMark := rfl

@[simp] theorem filter_identifier :
    (Piece.identifier name :: rest).filter Piece.isMark = .identifier name :: rest.filter Piece.isMark := rfl

@[simp] theorem filter_literal :
    (Piece.literal value :: rest).filter Piece.isMark = .literal value :: rest.filter Piece.isMark := rfl

@[simp] theorem filter_bare :
    (Piece.bare value :: rest).filter Piece.isMark = .bare value :: rest.filter Piece.isMark := rfl

end

section

theorem marks_block (lines : List (List Piece)) :
    (Pieces.block lines).filter Piece.isMark = lines.flatMap (·.filter Piece.isMark) := by
  rw [Pieces.block, List.filter_flatMap]
  simp

theorem marks_separated (separator : String) (parts : List (List Piece)) :
    (separated separator parts).filter Piece.isMark = parts.flatMap (·.filter Piece.isMark) := by
  rw [separated]
  induction parts with
  | nil => rfl
  | cons part rest ih =>
    cases rest with
    | nil => simp
    | cons next rest => simp [List.intercalate_cons_cons, ih]

theorem marks_quoteList (names : List Json) (separator : String) :
    (Pieces.quoteList names separator).filter Piece.isMark = names.map fun name => .literal (.str name.display) := by
  rw [Pieces.quoteList, marks_separated]
  simp [List.flatMap_map, ← List.map_eq_flatMap]

theorem marks_list (items : List Json) : (Pieces.list items).filter Piece.isMark = items.map .literal := by
  rw [Pieces.list, List.filter_append, List.filter_append, marks_separated]
  simp [List.flatMap_map, ← List.map_eq_flatMap]

theorem marks_enums (asUnions : Bool) (enums : List Enum) :
    (Pieces.enums asUnions enums).filter Piece.isMark = enums.flatMap (Marks.enum asUnions) := by
  have union (e : Enum) : (Pieces.union e).filter Piece.isMark = Marks.enum true e := by
    rw [Pieces.union, marks_block]
    simp [marks_quoteList, Marks.enum, ← List.map_eq_flatMap]
  have enum (e : Enum) : (Pieces.enum e).filter Piece.isMark = Marks.enum false e := by
    rw [Pieces.enum, marks_block]
    simp [Pieces.member, Marks.enum, List.flatMap_map]
  rw [Pieces.enums]
  split
  · rename_i none
    rw [List.isEmpty_iff.1 none]
    rfl
  · cases asUnions <;> simp [List.filter_flatMap, union, enum]

theorem marks_table (t : Table) : (Pieces.table t).filter Piece.isMark = Marks.table t := by
  rw [Pieces.table, marks_block]
  simp [Pieces.column, Marks.table, List.flatMap_map, List.filter_flatMap, marks_quoteList,
    ← List.map_eq_flatMap]

theorem marks_relationshipLines (entries : List (Json × Relationship)) :
    (Pieces.relationshipLines entries).flatMap (·.filter Piece.isMark) =
      entries.flatMap fun entry => (Pieces.relationship entry.1 entry.2).filter Piece.isMark := by
  induction entries with
  | nil => rfl
  | cons entry rest ih =>
    cases rest with
    | nil => simp [Pieces.relationshipLines]
    | cons next rest => simp [Pieces.relationshipLines, ih]

theorem marks_relationships (t : Table) : (Pieces.relationships t).filter Piece.isMark = Marks.relationships t := by
  have link (l : Link) : (Pieces.link l).filter Piece.isMark = Marks.link l := by
    unfold Pieces.link
    simp [marks_list, Marks.link]
  have relationship (key : Json) (r : Relationship) : (Pieces.relationship key r).filter Piece.isMark =
      .identifier key.display :: r.route.links.flatMap Marks.link := by
    simp [Pieces.relationship, marks_separated, List.flatMap_map, link]
  rw [Pieces.relationships, marks_block]
  simp [marks_relationshipLines, relationship, Marks.relationships]

theorem marks_constants (names : List String) :
    (Pieces.constants names).filter Piece.isMark = names.map .identifier := by
  rw [Pieces.constants, marks_block]
  simp [List.flatMap_map, ← List.map_eq_flatMap]

theorem marks_schema (tables related : List Table) : (Pieces.schema tables related).filter Piece.isMark =
    tables.map (.identifier ·.constant) ++ related.map (.identifier <| relationshipsConstant ·) := by
  rw [Pieces.schema]
  split
  · rename_i none
    rw [List.isEmpty_iff.1 none]
    simp [marks_constants]
  · simp [marks_constants, Function.comp_def]

theorem marks_pieces (s : Schema) (enumsAsUnions : Bool) (hash : Option String) :
    (pieces s enumsAsUnions hash).filter Piece.isMark = marks s enumsAsUnions := by
  have related : (Pieces.allRelationships s.related).filter Piece.isMark = s.related.flatMap Marks.relationships := by
    rw [Pieces.allRelationships]
    split
    · rename_i none
      rw [List.isEmpty_iff.1 none]
      rfl
    · simp [List.filter_flatMap, marks_relationships]
  have row (t : Table) : (Pieces.row t).filter Piece.isMark = Marks.row t := rfl
  rw [pieces, marks]
  simp [List.filter_flatMap, List.flatMap_map, marks_enums, marks_table, related, marks_schema, marks_block, row]

end

end Module

end SyncSchema

import SyncSchema.Proofs.Json.Compact
import SyncSchema.Proofs.Mapping.Columns
import SyncSchema.Proofs.Module.Pieces
import SyncSchema.Proofs.Naming.Identifier

namespace SyncSchema
open Naming Text

namespace Json

def isIdentifier : Json → Bool
  | .str name => Naming.isIdentifier name
  | _ => false

theorem exists_of_isIdentifier {name : Json} (identifier : name.isIdentifier = true) :
    ∃ s, name = .str s ∧ Naming.isIdentifier s = true := by
  cases name with
  | str s => exact ⟨s, rfl, identifier⟩
  | _ => cases identifier

theorem render_append_inj {v w : Json} {mark rest rest' : String}
    (stops : mark.toList.head?.any (!Decimal.isWord ·) = true)
    (same : v.render ++ (mark ++ rest) = w.render ++ (mark ++ rest')) : v = w ∧ rest = rest' := by
  have chars (value : Json) (rest : String) : (value.render ++ rest).toList = value.compact ++ rest.toList := by
    rw [String.toList_append, render, String.toList_ofList]
  have both := congrArg String.toList same
  rw [chars, chars] at both
  obtain ⟨value, behind⟩ := compact_append_inj v w (stops_append stops rest) (stops_append stops rest') both
  exact ⟨value, (String.append_right_inj mark).1 (String.toList_inj.1 behind)⟩

end Json

def Column.IsTyped (c : Column) : Prop :=
  (∃ entry ∈ TypeTable.standard, c.type = entry.2) ∨
    ∃ name, isIdentifier name = true ∧ c.type = "enumeration<" ++ name ++ ">()"

namespace TypeTable

theorem mem_of_find? {types : TypeTable} {type : Json} {written : String}
    (found : types.find? type = .ok (some written)) : ∃ entry ∈ types, written = entry.2 := by
  rw [find?, Outcome.bind_eq_ok] at found
  obtain ⟨key, -, found⟩ := found
  cases key with
  | str name =>
    simp only [Outcome.pure_eq_ok] at found
    obtain ⟨before, after, rfl, -⟩ := List.lookup_eq_some_iff.1 found
    exact ⟨(name, written), by simp, rfl⟩
  | _ => cases found

end TypeTable

theorem Field.isTyped_of_columnType {f : Field} {c : Column} (named : f.isEnum = true → f.type.isIdentifier = true)
    (typed : (f.columnType .standard).result = .ok c.type) : c.IsTyped := by
  rw [columnType] at typed
  split at typed
  · rename_i isEnum
    obtain ⟨name, written, identifier⟩ := Json.exists_of_isIdentifier (named isEnum)
    rw [Run.result_pure, Except.ok.injEq, written] at typed
    exact .inr ⟨name, identifier, typed.symm⟩
  · left
    simp only [Run.result_bind, Run.result_check, Outcome.bind_eq_ok, Outcome.mapError_eq_ok] at typed
    obtain ⟨found, looked, typed⟩ := typed
    cases found with
    | some written =>
      rw [Run.result_pure, Except.ok.injEq] at typed
      rw [← typed]
      exact TypeTable.mem_of_find? looked
    | none =>
      simp only [Run.result_bind, Run.result_log, Run.result_pure, Outcome.bind_eq_ok, Except.ok.injEq] at typed
      obtain ⟨-, -, typed⟩ := typed
      rw [← typed]
      decide

structure Table.Plain (t : Table) : Prop where
  constant : isIdentifier t.constant = true
  model : isIdentifier t.model = true
  name : t.name.isIdentifier = true
  storedAs : ∀ name ∈ t.storedAs, name.isIdentifier = true
  columns : ∀ entry ∈ t.columns, entry.1.isIdentifier = true ∧ entry.2.IsTyped ∧
    ∀ name ∈ entry.2.storedAs, name.isIdentifier = true
  primaryKey : ∀ name ∈ t.primaryKey, name.kind = .string
  relationships : ∀ entry ∈ t.relationships, entry.1.isIdentifier = true ∧
    ∀ link ∈ entry.2.route.links, isIdentifier link.target = true

structure Enum.Plain (e : Enum) : Prop where
  name : e.name.isIdentifier = true
  values : ∀ v ∈ e.values, v.name.isIdentifier = true

structure Schema.Plain (s : Schema) : Prop where
  tables : ∀ t ∈ s.tables, t.Plain
  enums : ∀ e ∈ s.enums, e.Plain

def EnumValue.shown (v : EnumValue) : Json × Json :=
  (v.name, v.stored)

def Enum.shown (e : Enum) : Json × List (Json × Json) :=
  (e.name, e.values.map EnumValue.shown)

namespace Module

variable {rest rest' : String}

theorem quote_append_inj {a b : String} (same : quote a ++ rest = quote b ++ rest') : a = b ∧ rest = rest' := by
  have chars := congrArg String.toList same
  rw [String.toList_append, String.toList_append, quote, String.toList_ofList, quote, String.toList_ofList] at chars
  obtain ⟨text, behind⟩ := Quoted.encode_append_inj chars
  exact ⟨String.toList_inj.1 text, String.toList_inj.1 behind⟩

theorem identifier_append_inj {a b mark : String} (stops : mark.toList.head?.any (!isIdentifierChar ·) = true)
    (identifier : isIdentifier a = true) (identifier' : isIdentifier b = true)
    (same : a ++ (mark ++ rest) = b ++ (mark ++ rest')) : a = b ∧ rest = rest' :=
  run_append_inj stops (isIdentifier_iff.1 identifier).2 (isIdentifier_iff.1 identifier').2 same

theorem name_append_inj {a b : Json} {mark : String} (stops : mark.toList.head?.any (!isIdentifierChar ·) = true)
    (identifier : a.isIdentifier = true) (identifier' : b.isIdentifier = true)
    (same : a.display ++ (mark ++ rest) = b.display ++ (mark ++ rest')) : a = b ∧ rest = rest' := by
  obtain ⟨s, rfl, spelled⟩ := Json.exists_of_isIdentifier identifier
  obtain ⟨t, rfl, spelled'⟩ := Json.exists_of_isIdentifier identifier'
  obtain ⟨rfl, behind⟩ := identifier_append_inj stops spelled spelled' same
  exact ⟨rfl, behind⟩

theorem block_cons (line : String) (lines : List String) : block (line :: lines) = line ++ ("\n" ++ block lines) := by
  rw [block, List.map_cons, String.join_cons, String.append_assoc]
  rfl

theorem block_nil : block [] = "" := rfl

theorem block_map {α : Type} (items : List α) (line : α → String) :
    block (items.map line) = String.join (items.map fun item => line item ++ "\n") := by
  rw [block, List.map_map]
  rfl

theorem link_append_inj {l l' : Link} (identifier : isIdentifier l.target = true)
    (identifier' : isIdentifier l'.target = true) (same : link l ++ rest = link l' ++ rest') :
    l = l' ∧ rest = rest' := by
  obtain ⟨source, dest, target⟩ := l
  obtain ⟨source', dest', target'⟩ := l'
  unfold link at same
  simp only [String.append_assoc, String.append_right_inj] at same
  obtain ⟨⟨⟩, dests⟩ := Json.render_append_inj (by decide) same
  obtain ⟨⟨⟩, targets⟩ := Json.render_append_inj (by decide) dests
  obtain ⟨rfl, behind⟩ := identifier_append_inj (by decide) identifier identifier' targets
  exact ⟨rfl, behind⟩

theorem cardinality_append_inj {c c' : Cardinality} (same : c.name ++ rest = c'.name ++ rest') :
    c = c' ∧ rest = rest' := by
  cases c <;> cases c'
  · exact ⟨rfl, (String.append_right_inj _).1 same⟩
  · exact absurd same (append_ne (by decide) _ _)
  · exact absurd same (append_ne (by decide) _ _)
  · exact ⟨rfl, (String.append_right_inj _).1 same⟩

theorem links_injective {r r' : Route} (same : r.links = r'.links) : r = r' := by
  cases r <;> cases r' <;> simp_all [Route.links]

theorem relationship_append_inj {entry entry' : Json × Relationship}
    (plain : entry.1.isIdentifier = true ∧ ∀ link ∈ entry.2.route.links, isIdentifier link.target = true)
    (plain' : entry'.1.isIdentifier = true ∧ ∀ link ∈ entry'.2.route.links, isIdentifier link.target = true)
    (same : relationship entry.1 entry.2 ++ rest = relationship entry'.1 entry'.2 ++ rest') :
    entry = entry' ∧ rest = rest' := by
  obtain ⟨name, cardinality, route⟩ := entry
  obtain ⟨name', cardinality', route'⟩ := entry'
  unfold relationship at same
  simp only [String.append_assoc, String.append_right_inj] at same
  obtain ⟨rfl, call⟩ := name_append_inj (by decide) plain.1 plain'.1 same
  obtain ⟨rfl, links⟩ := cardinality_append_inj call
  rw [String.append_right_inj] at links
  have ends (rest : String) (l : Link) (more : String) : link l ++ more ≠ ")" ++ rest := by
    unfold link
    simp only [String.append_assoc]
    exact append_ne (by decide) _ _
  have last (rest more : String) : ", " ++ more ≠ ")" ++ rest := append_ne (by decide) _ _
  obtain ⟨all, behind⟩ := intercalate_append_inj (fun _ _ _ _ => link_append_inj) plain.2 plain'.2 (ends rest)
    (ends rest') (last rest) (last rest') links
  obtain rfl := links_injective all
  exact ⟨rfl, (String.append_right_inj _).1 behind⟩

theorem block_relationshipLines {entries : List (Json × Relationship)} (entered : entries ≠ []) :
    block (relationshipLines entries) =
      ",\n".intercalate (entries.map fun entry => relationship entry.1 entry.2) ++ "\n" := by
  induction entries with
  | nil => contradiction
  | cons entry others ih =>
    cases others with
    | nil =>
      rw [relationshipLines, block_cons, block_nil]
      simp
    | cons next others =>
      have comma : ",\n" = "," ++ "\n" := rfl
      have later := ih (List.cons_ne_nil _ _)
      rw [List.map_cons] at later
      rw [relationshipLines, block_cons, later, List.map_cons, List.map_cons, String.intercalate_cons_cons, comma]
      · simp only [String.append_assoc]
      · exact List.cons_ne_nil _ _

def shownRelationships (t : Table) : String × List (Json × Relationship) :=
  (t.constant, t.relationships)

theorem relationships_append_inj {t t' : Table} (plain : t.Plain) (plain' : t'.Plain)
    (entered : t.relationships ≠ []) (entered' : t'.relationships ≠ [])
    (same : relationships t ++ rest = relationships t' ++ rest') :
    shownRelationships t = shownRelationships t' ∧ rest = rest' := by
  have named {t : Table} (plain : t.Plain) : isIdentifier (relationshipsConstant t) = true :=
    isIdentifier_append plain.constant (by decide)
  unfold relationships at same
  simp only [block_append, block_cons, block_nil, block_relationshipLines entered, block_relationshipLines entered',
    String.append_assoc, String.append_right_inj, String.empty_append] at same
  obtain ⟨constants, table⟩ := identifier_append_inj (by decide) (named plain) (named plain') same
  have constant : t.constant = t'.constant := (String.append_left_inj _).1 constants
  rw [constant, String.append_right_inj, String.append_right_inj] at table
  have endsKinds (rest : String) (c : Cardinality) (more : String) : c.name ++ more ≠ " \x7d) => (\x7b" ++ rest := by
    cases c <;> exact append_ne (by decide) _ _
  have lastKind (rest more : String) : ", " ++ more ≠ " \x7d) => (\x7b" ++ rest := append_ne (by decide) _ _
  have kinds (c c' : Cardinality) (rest rest' : String) (_ _ : True) (same : c.name ++ rest = c'.name ++ rest') :
      c = c' ∧ rest = rest' := cardinality_append_inj same
  obtain ⟨-, entries⟩ := intercalate_append_inj kinds (fun _ _ => trivial) (fun _ _ => trivial) (endsKinds _)
    (endsKinds _) (lastKind _) (lastKind _) table
  rw [String.append_right_inj, String.append_right_inj] at entries
  have ends (rest : String) (entry : Json × Relationship) (more : String) :
      relationship entry.1 entry.2 ++ more ≠ "\n" ++ rest := by
    unfold relationship
    simp only [String.append_assoc]
    exact append_ne (by decide) _ _
  have last (rest more : String) : ",\n" ++ more ≠ "\n" ++ rest := append_ne (by decide) _ _
  obtain ⟨all, behind⟩ := intercalate_append_inj (fun _ _ _ _ => relationship_append_inj) plain.relationships
    plain'.relationships (ends _) (ends _) (last _) (last _) entries
  simp only [String.append_right_inj] at behind
  exact ⟨Prod.ext constant all, behind⟩

theorem exists_run_of_isTyped {c : Column} (typed : c.IsTyped) :
    ∃ head, c.type = head ++ "()" ∧ ∀ d ∈ head.toList, (d != '(') = true := by
  rcases typed with ⟨entry, member, type⟩ | ⟨name, identifier, type⟩
  · have all : ∀ entry ∈ TypeTable.standard, ∃ head ∈ ["string", "boolean", "number", "json"],
        entry.2 = head ++ "()" ∧ head.toList.all (· != '(') = true := by decide
    obtain ⟨head, -, written, run⟩ := all entry member
    exact ⟨head, by rw [type, written], List.all_eq_true.1 run⟩
  · refine ⟨"enumeration<" ++ name ++ ">", by rw [type]; simp only [String.append_assoc]; rfl, ?_⟩
    simp only [String.toList_append, List.forall_mem_append]
    refine ⟨⟨List.all_eq_true.1 (by decide), fun d member => ?_⟩, List.all_eq_true.1 (by decide)⟩
    have char := (isIdentifier_iff.1 identifier).2 d member
    rw [bne_iff_ne]
    rintro rfl
    exact absurd char (by decide)

theorem isGiven_of_isIdentifier {name : Json} (identifier : name.isIdentifier = true) : name.isGiven = true := by
  obtain ⟨s, rfl, spelled⟩ := Json.exists_of_isIdentifier identifier
  obtain ⟨⟨first, head, -⟩, -⟩ := isIdentifier_iff.1 spelled
  rw [Json.isGiven_str, Bool.not_eq_true', Bool.eq_false_iff]
  intro empty
  rw [String.isEmpty_iff.1 empty] at head
  cases head

theorem given_of_isIdentifier {storedAs : Option Json} (plain : ∀ name ∈ storedAs, name.isIdentifier = true) :
    given storedAs = storedAs.toList := by
  cases storedAs with
  | none => rfl
  | some name => rw [given, Option.filter_some_pos (isGiven_of_isIdentifier (plain name rfl))]

theorem given_append_inj {part : Json → String} {storedAs storedAs' : Option Json}
    (step : ∀ a b rest rest', a.isIdentifier = true → b.isIdentifier = true → part a ++ rest = part b ++ rest' →
      a = b ∧ rest = rest')
    (plain : ∀ name ∈ storedAs, name.isIdentifier = true) (plain' : ∀ name ∈ storedAs', name.isIdentifier = true)
    (ends : ∀ name more, part name ++ more ≠ rest) (ends' : ∀ name more, part name ++ more ≠ rest')
    (same : String.join ((given storedAs).map part) ++ rest = String.join ((given storedAs').map part) ++ rest') :
    storedAs = storedAs' ∧ rest = rest' := by
  rw [given_of_isIdentifier plain, given_of_isIdentifier plain'] at same
  obtain ⟨stored, behind⟩ := join_append_inj step (by simpa using plain) (by simpa using plain') ends ends' same
  refine ⟨?_, behind⟩
  cases storedAs <;> cases storedAs' <;> simp_all

theorem optional_append_inj {o o' : Bool} (same : (if o then ".optional()" else "") ++ ("," ++ rest) =
    (if o' then ".optional()" else "") ++ ("," ++ rest')) : o = o' ∧ rest = rest' := by
  cases o <;> cases o' <;> simp only [Bool.false_eq_true, if_false, if_true, String.empty_append] at same
  · exact ⟨rfl, (String.append_right_inj _).1 same⟩
  · exact absurd same (append_ne (by decide) _ _)
  · exact absurd same (append_ne (by decide) _ _)
  · exact ⟨rfl, by simpa only [String.append_right_inj] using same⟩

theorem column_append_inj {entry entry' : Json × Column}
    (plain : entry.1.isIdentifier = true ∧ entry.2.IsTyped ∧ ∀ name ∈ entry.2.storedAs, name.isIdentifier = true)
    (plain' : entry'.1.isIdentifier = true ∧ entry'.2.IsTyped ∧ ∀ name ∈ entry'.2.storedAs, name.isIdentifier = true)
    (same : column entry.1 entry.2 ++ rest = column entry'.1 entry'.2 ++ rest') : entry = entry' ∧ rest = rest' := by
  obtain ⟨key, type, isOptional, storedAs⟩ := entry
  obtain ⟨key', type', isOptional', storedAs'⟩ := entry'
  obtain ⟨head, typed, run⟩ := exists_run_of_isTyped plain.2.1
  obtain ⟨head', typed', run'⟩ := exists_run_of_isTyped plain'.2.1
  dsimp only at typed typed'
  subst typed typed'
  unfold column at same
  simp only [ifGiven_eq, String.append_assoc, String.append_right_inj] at same
  obtain ⟨rfl, call⟩ := name_append_inj (by decide) plain.1 plain'.1 same
  obtain ⟨rfl, stored⟩ := run_append_inj (by decide) run run' call
  have step (a b : Json) (rest rest' : String) (plain : a.isIdentifier = true) (plain' : b.isIdentifier = true)
      (same : ".from('" ++ (a.display ++ "')") ++ rest = ".from('" ++ (b.display ++ "')") ++ rest') :
      a = b ∧ rest = rest' := by
    simp only [String.append_assoc, String.append_right_inj] at same
    exact name_append_inj (by decide) plain plain' same
  have ends (o : Bool) (rest : String) (name : Json) (more : String) :
      ".from('" ++ (name.display ++ "')") ++ more ≠ (if o then ".optional()" else "") ++ ("," ++ rest) := by
    cases o <;> simp only [Bool.false_eq_true, if_false, if_true, String.empty_append, String.append_assoc]
    · exact append_ne (by decide) _ _
    · exact append_ne (by decide) _ _
  obtain ⟨rfl, optional⟩ := given_append_inj step plain.2.2 plain'.2.2 (ends _ _) (ends _ _) stored
  obtain ⟨rfl, behind⟩ := optional_append_inj optional
  exact ⟨rfl, behind⟩

/-- What the block of a table shows, which is all but its model and its relationships. -/
def shown (t : Table) : String × Json × Option Json × List (Json × Column) × List Json :=
  (t.constant, t.name, t.storedAs, t.columns, t.primaryKey)

theorem quoteList_append_inj {names names' : List Json} (texts : ∀ name ∈ names, name.kind = .string)
    (texts' : ∀ name ∈ names', name.kind = .string)
    (same : quoteList names ", " ++ (");" ++ rest) = quoteList names' ", " ++ (");" ++ rest')) :
    names = names' ∧ rest = rest' := by
  have step (a b : Json) (rest rest' : String) (text : a.kind = .string) (text' : b.kind = .string)
      (same : quote a.display ++ rest = quote b.display ++ rest') : a = b ∧ rest = rest' := by
    obtain ⟨s, rfl⟩ := Json.eq_str_of_kind text
    obtain ⟨t, rfl⟩ := Json.eq_str_of_kind text'
    obtain ⟨rfl, behind⟩ := quote_append_inj same
    exact ⟨rfl, behind⟩
  have ends (rest : String) (name : Json) (more : String) : quote name.display ++ more ≠ ");" ++ rest := by
    rw [quote, Quoted.encode, ofList_cons, String.append_assoc]
    exact append_ne (by decide) _ _
  have last (rest more : String) : ", " ++ more ≠ ");" ++ rest := append_ne (by decide) _ _
  obtain ⟨rfl, behind⟩ := intercalate_append_inj step texts texts' (ends _) (ends _) (last _) (last _) same
  exact ⟨rfl, (String.append_right_inj _).1 behind⟩

theorem table_append_inj {t t' : Table} (plain : t.Plain) (plain' : t'.Plain)
    (same : table t ++ rest = table t' ++ rest') : shown t = shown t' ∧ rest = rest' := by
  unfold table at same
  simp only [ifGiven_eq, block_append, block_cons, block_nil, block_map, String.append_assoc, String.append_right_inj,
    String.empty_append] at same
  obtain ⟨constant, named⟩ := identifier_append_inj (by decide) plain.constant plain'.constant same
  obtain ⟨name, stored⟩ := Json.render_append_inj (by decide) named
  rw [String.append_right_inj] at stored
  have stepStored (a b : Json) (rest rest' : String) (_ : a.isIdentifier = true) (_ : b.isIdentifier = true)
      (same : "  .from(" ++ (a.render ++ (")" ++ "\n")) ++ rest = "  .from(" ++ (b.render ++ (")" ++ "\n")) ++ rest') :
      a = b ∧ rest = rest' := by
    simp only [String.append_assoc, String.append_right_inj] at same
    obtain ⟨rfl, behind⟩ := Json.render_append_inj (by decide) same
    exact ⟨rfl, (String.append_right_inj _).1 behind⟩
  have endsStored (rest : String) (name : Json) (more : String) :
      "  .from(" ++ (name.render ++ (")" ++ "\n")) ++ more ≠ "  .columns(\x7b" ++ rest := by
    rw [String.append_assoc]
    exact append_ne (by decide) _ _
  obtain ⟨storedAs, columned⟩ := given_append_inj stepStored plain.storedAs plain'.storedAs (endsStored _)
    (endsStored _) stored
  rw [String.append_right_inj, String.append_right_inj] at columned
  have stepColumn (entry entry' : Json × Column) (rest rest' : String)
      (plain : entry.1.isIdentifier = true ∧ entry.2.IsTyped ∧ ∀ name ∈ entry.2.storedAs, name.isIdentifier = true)
      (plain' : entry'.1.isIdentifier = true ∧ entry'.2.IsTyped ∧ ∀ name ∈ entry'.2.storedAs, name.isIdentifier = true)
      (same : column entry.1 entry.2 ++ "\n" ++ rest = column entry'.1 entry'.2 ++ "\n" ++ rest') :
      entry = entry' ∧ rest = rest' := by
    rw [String.append_assoc, String.append_assoc] at same
    obtain ⟨rfl, behind⟩ := column_append_inj plain plain' same
    exact ⟨rfl, (String.append_right_inj _).1 behind⟩
  have endsColumn (rest : String) (entry : Json × Column) (more : String) :
      column entry.1 entry.2 ++ "\n" ++ more ≠ "  \x7d)" ++ rest := by
    unfold column
    simp only [String.append_assoc]
    exact append_ne (by decide) _ _
  obtain ⟨columns, keyed⟩ := join_append_inj stepColumn plain.columns plain'.columns (endsColumn _) (endsColumn _)
    columned
  simp only [String.append_right_inj] at keyed
  obtain ⟨primaryKey, behind⟩ := quoteList_append_inj plain.primaryKey plain'.primaryKey keyed
  simp only [String.append_right_inj] at behind
  exact ⟨by rw [shown, shown, constant, name, storedAs, columns, primaryKey], behind⟩

theorem enum_append_inj {e e' : Enum} (plain : e.Plain) (plain' : e'.Plain)
    (same : enum e ++ rest = enum e' ++ rest') : e.shown = e'.shown ∧ rest = rest' := by
  unfold enum at same
  simp only [block_append, block_cons, block_nil, block_map, String.append_assoc, String.append_right_inj,
    String.empty_append] at same
  obtain ⟨name, values⟩ := name_append_inj (by decide) plain.name plain'.name same
  rw [String.append_right_inj] at values
  have step (v v' : EnumValue) (rest rest' : String) (plain : v.name.isIdentifier = true)
      (plain' : v'.name.isIdentifier = true) (same : member v ++ "\n" ++ rest = member v' ++ "\n" ++ rest') :
      v.shown = v'.shown ∧ rest = rest' := by
    unfold member at same
    simp only [String.append_assoc, String.append_right_inj] at same
    obtain ⟨name, stored⟩ := name_append_inj (by decide) plain plain' same
    obtain ⟨stored, behind⟩ := Json.render_append_inj (by decide) stored
    exact ⟨Prod.ext name stored, (String.append_right_inj _).1 behind⟩
  have ends (rest : String) (v : EnumValue) (more : String) : member v ++ "\n" ++ more ≠ "\x7d" ++ rest := by
    unfold member
    simp only [String.append_assoc]
    exact append_ne (by decide) _ _
  obtain ⟨all, behind⟩ := map_append_inj step plain.values plain'.values (ends _) (ends _) values
  simp only [String.append_right_inj] at behind
  exact ⟨Prod.ext name all, behind⟩

theorem enums_append_inj {es es' : List Enum} (plain : ∀ e ∈ es, e.Plain) (plain' : ∀ e ∈ es', e.Plain)
    (same : enums false es ++ ("// Define tables" ++ rest) = enums false es' ++ ("// Define tables" ++ rest')) :
    es.map Enum.shown = es'.map Enum.shown ∧ rest = rest' := by
  have headed (e : Enum) (es : List Enum) :
      enums false (e :: es) = "// Define enums\n\n" ++ String.join ((e :: es).map enum) := rfl
  have ends (rest : String) (e : Enum) (more : String) : enum e ++ more ≠ "// Define tables" ++ rest := by
    unfold enum
    simp only [block_append, block_cons, String.append_assoc]
    exact append_ne (by decide) _ _
  exact headed_append_inj rfl headed (by decide) (fun _ _ _ _ => enum_append_inj) plain plain' ends same

end Module

end SyncSchema

import SyncSchema.Proofs.Module.Blocks

namespace SyncSchema
open Naming Text

def Table.alone (t : Table) : Table :=
  { t with relationships := [] }

/-- The schemas are the same, up to which tables of one constant the relationships belong to. -/
structure Schema.Alike (s s' : Schema) : Prop where
  enums : s.enums.map Enum.shown = s'.enums.map Enum.shown
  tables : s.tables.map Table.alone = s'.tables.map Table.alone
  related : s.related.map Module.shownRelationships = s'.related.map Module.shownRelationships

/-- Of tables that share a constant, all have relationships or none has. -/
def Schema.Uniform (s : Schema) : Prop :=
  ∀ t ∈ s.tables, ∀ u ∈ s.tables, t.constant = u.constant → (t.relationships = [] ↔ u.relationships = [])

instance (s : Schema) : Decidable s.Uniform :=
  inferInstanceAs (Decidable (∀ t ∈ s.tables, ∀ u ∈ s.tables, _ → _))

theorem map_congr_of_view {α β γ : Type} {view : α → β} {f : α → γ} (factors : ∀ a b, view a = view b → f a = f b)
    {items items' : List α} (same : items.map view = items'.map view) : items.map f = items'.map f := by
  induction items generalizing items' with
  | nil =>
    rw [List.map_nil, eq_comm, List.map_eq_nil_iff] at same
    rw [same]
  | cons a items ih =>
    cases items' with
    | nil => cases same
    | cons b items' =>
      rw [List.map_cons, List.map_cons, List.cons.injEq] at same
      rw [List.map_cons, List.map_cons, factors a b same.1, ih same.2]

theorem isEmpty_eq_of_view {α β : Type} {view : α → β} {items items' : List α}
    (same : items.map view = items'.map view) : items.isEmpty = items'.isEmpty := by
  rw [← List.isEmpty_map (f := view), same, List.isEmpty_map]

namespace Schema.Alike

variable {s s' : Schema} (alike : s.Alike s')
include alike

theorem map_eq {γ : Type} {f : Table → γ} (f_alone : ∀ t, f t.alone = f t) : s.tables.map f = s'.tables.map f :=
  map_congr_of_view (fun t t' same => by rw [← f_alone t, same, f_alone]) alike.tables

theorem constants_eq : s.tables.map Table.constant = s'.tables.map Table.constant :=
  alike.map_eq fun _ => rfl

theorem relatedConstants_eq : s.related.map Table.constant = s'.related.map Table.constant :=
  map_congr_of_view (fun _ _ same => congrArg Prod.fst same) alike.related

end Schema.Alike

namespace Module

theorem schema_congr {tables tables' related related' : List Table}
    (constants : tables.map Table.constant = tables'.map Table.constant)
    (relatedConstants : related.map Table.constant = related'.map Table.constant) :
    schema tables related = schema tables' related' := by
  have lines : tables.map (fun t => "      " ++ t.constant ++ ",") =
      tables'.map fun t => "      " ++ t.constant ++ "," :=
    map_congr_of_view (fun t u same => by rw [same]) constants
  have relatedLines : related.map (fun t => "      " ++ relationshipsConstant t ++ ",") =
      related'.map fun t => "      " ++ relationshipsConstant t ++ "," :=
    map_congr_of_view (fun t u same => by rw [relationshipsConstant, same, relationshipsConstant]) relatedConstants
  unfold schema
  rw [lines, relatedLines, isEmpty_eq_of_view relatedConstants]

theorem rows_inj {tables tables' : List Table} (plain : ∀ t ∈ tables, t.Plain) (plain' : ∀ t ∈ tables', t.Plain)
    (same : block (tables.map row) = block (tables'.map row)) : tables.map Table.model = tables'.map Table.model := by
  have step (t t' : Table) (rest rest' : String) (plain : t.Plain) (plain' : t'.Plain)
      (same : row t ++ "\n" ++ rest = row t' ++ "\n" ++ rest') : t.model = t'.model ∧ rest = rest' := by
    unfold row at same
    simp only [String.append_assoc, String.append_right_inj] at same
    obtain ⟨model, named⟩ := identifier_append_inj (by decide) plain.model plain'.model same
    obtain ⟨-, behind⟩ := name_append_inj (by decide) plain.name plain'.name named
    exact ⟨model, (String.append_right_inj _).1 behind⟩
  have ends (t : Table) (more : String) : row t ++ "\n" ++ more ≠ "" := by
    unfold row
    simp
  have joined : String.join (tables.map fun t => row t ++ "\n") ++ "" =
      String.join (tables'.map fun t => row t ++ "\n") ++ "" := by
    rw [← block_map, ← block_map, same]
  exact (map_append_inj step plain plain' ends ends joined).1

theorem exists_schema (tables related : List Table) : ∃ more, schema tables related = "// Define schema" ++ more := by
  unfold schema
  simp only [block_append, block_cons, String.append_assoc]
  exact ⟨_, rfl⟩

theorem allRelationships_nil : allRelationships [] = "" := rfl

theorem allRelationships_cons (t : Table) (related : List Table) : allRelationships (t :: related) =
    "\n// Define relationships\n\n" ++ String.join ((t :: related).map relationships) := rfl

theorem allRelationships_append_inj {related related' : List Table}
    (plain : ∀ t ∈ related, t.Plain ∧ t.relationships ≠ []) (plain' : ∀ t ∈ related', t.Plain ∧ t.relationships ≠ [])
    (same : allRelationships related ++ ("// Define schema" ++ rest) =
      allRelationships related' ++ ("// Define schema" ++ rest')) :
    related.map shownRelationships = related'.map shownRelationships ∧ rest = rest' := by
  have step (t t' : Table) (rest rest' : String) (plain : t.Plain ∧ t.relationships ≠ [])
      (plain' : t'.Plain ∧ t'.relationships ≠ []) (same : relationships t ++ rest = relationships t' ++ rest') :
      shownRelationships t = shownRelationships t' ∧ rest = rest' :=
    relationships_append_inj plain.1 plain'.1 plain.2 plain'.2 same
  have ends (rest : String) (t : Table) (more : String) : relationships t ++ more ≠ "// Define schema" ++ rest := by
    unfold relationships
    simp only [block_append, block_cons, String.append_assoc]
    exact append_ne (by decide) _ _
  exact headed_append_inj allRelationships_nil allRelationships_cons (by decide) step plain plain' ends same

theorem table_append_ne (related : List Table) (rest : String) (t : Table) (more : String) :
    table t ++ more ≠ allRelationships related ++ ("// Define schema" ++ rest) := by
  unfold table
  simp only [block_append, block_cons, String.append_assoc]
  cases related with
  | nil =>
    simp only [allRelationships_nil, String.empty_append]
    exact append_ne (by decide) _ _
  | cons t related =>
    rw [allRelationships_cons, String.append_assoc]
    exact append_ne (by decide) _ _

theorem text_inj {s s' : Schema} (plain : s.Plain) (plain' : s'.Plain) {hash : Option String}
    (same : text s false hash = text s' false hash) :
    s.enums.map Enum.shown = s'.enums.map Enum.shown ∧ s.tables.map shown = s'.tables.map shown ∧
      s.tables.map Table.model = s'.tables.map Table.model ∧
      s.related.map shownRelationships = s'.related.map shownRelationships := by
  have header : block ["// Define tables", ""] = "// Define tables" ++ "\n\n" := rfl
  obtain ⟨more, schema_eq⟩ := exists_schema s.tables s.related
  obtain ⟨more', schema_eq'⟩ := exists_schema s'.tables s'.related
  have related {s : Schema} (plain : s.Plain) : ∀ t ∈ s.related, t.Plain ∧ t.relationships ≠ [] := by
    intro t member
    obtain ⟨known, entered⟩ := List.mem_filter.1 member
    exact ⟨plain.tables t known, by simpa using entered⟩
  unfold text at same
  rw [header, schema_eq, schema_eq'] at same
  simp only [String.append_assoc, String.append_right_inj] at same
  obtain ⟨enums, tabled⟩ := enums_append_inj plain.enums plain'.enums same
  rw [String.append_right_inj] at tabled
  obtain ⟨tables, relating⟩ := map_append_inj (fun _ _ _ _ => table_append_inj) plain.tables plain'.tables
    (table_append_ne _ _) (table_append_ne _ _) tabled
  obtain ⟨relationships, behind⟩ := allRelationships_append_inj (related plain) (related plain') relating
  have constants : s.tables.map Table.constant = s'.tables.map Table.constant :=
    map_congr_of_view (fun t u same => congrArg Prod.fst same) tables
  have relatedConstants : s.related.map Table.constant = s'.related.map Table.constant :=
    map_congr_of_view (fun t u same => congrArg Prod.fst same) relationships
  have definitions := schema_congr constants relatedConstants
  rw [schema_eq, schema_eq', String.append_right_inj] at definitions
  rw [definitions, String.append_right_inj] at behind
  exact ⟨enums, tables, rows_inj plain.tables plain'.tables behind, relationships⟩

theorem enum_congr {e e' : Enum} (same : e.shown = e'.shown) : enum e = enum e' := by
  have name : e.name = e'.name := congrArg Prod.fst same
  have values : e.values.map EnumValue.shown = e'.values.map EnumValue.shown := congrArg Prod.snd same
  have members : e.values.map member = e'.values.map member := by
    refine map_congr_of_view (fun v v' same => ?_) values
    obtain ⟨name, stored⟩ := Prod.mk.inj same
    rw [member, name, stored, member]
  rw [enum, name, members, enum]

theorem union_congr {e e' : Enum} (same : e.shown = e'.shown) : union e = union e' := by
  have name : e.name = e'.name := congrArg Prod.fst same
  have values : e.values.map EnumValue.shown = e'.values.map EnumValue.shown := congrArg Prod.snd same
  have stored : e.values.map (·.stored) = e'.values.map (·.stored) :=
    map_congr_of_view (fun v v' same => congrArg Prod.snd same) values
  rw [union, name, stored, union]

theorem enums_congr {es es' : List Enum} (same : es.map Enum.shown = es'.map Enum.shown) (asUnions : Bool) :
    enums asUnions es = enums asUnions es' := by
  rw [enums, isEmpty_eq_of_view same, map_congr_of_view (fun _ _ => union_congr) same,
    map_congr_of_view (fun _ _ => enum_congr) same, enums]

theorem relationships_congr {t t' : Table} (same : shownRelationships t = shownRelationships t') :
    relationships t = relationships t' := by
  obtain ⟨constant, entries⟩ := Prod.mk.inj same
  simp only [relationships, relationshipsConstant, Table.cardinalities, constant, entries]

theorem allRelationships_congr {related related' : List Table}
    (same : related.map shownRelationships = related'.map shownRelationships) :
    allRelationships related = allRelationships related' := by
  rw [allRelationships, isEmpty_eq_of_view same, map_congr_of_view (fun _ _ => relationships_congr) same,
    allRelationships]

theorem text_congr {s s' : Schema} (alike : s.Alike s') (asUnions : Bool) (hash : Option String) :
    text s asUnions hash = text s' asUnions hash := by
  rw [text, enums_congr alike.enums, alike.map_eq (f := table) fun _ => rfl, allRelationships_congr alike.related,
    schema_congr alike.constants_eq alike.relatedConstants_eq, alike.map_eq (f := row) fun _ => rfl, text]

end Module

namespace Schema

variable {s s' : Schema}

theorem alike_of_text (plain : s.Plain) (plain' : s'.Plain) {hash : Option String}
    (same : Module.text s false hash = Module.text s' false hash) : s.Alike s' := by
  obtain ⟨enums, shown, models, related⟩ := Module.text_inj plain plain' same
  have both : s.tables.map (fun t => (Module.shown t, t.model)) = s'.tables.map fun t => (Module.shown t, t.model) := by
    rw [← List.zip_map' (f := Module.shown), ← List.zip_map' (f := Module.shown), shown, models]
  refine ⟨enums, map_congr_of_view (fun t t' same => ?_) both, related⟩
  simp only [Module.shown, Prod.mk.injEq] at same
  obtain ⟨⟨constant, name, storedAs, columns, primaryKey⟩, model⟩ := same
  simp only [Table.alone, constant, name, storedAs, columns, primaryKey, model]

theorem alike_iff_text (plain : s.Plain) (plain' : s'.Plain) (hash : Option String) :
    s.Alike s' ↔ Module.text s false hash = Module.text s' false hash :=
  ⟨fun alike => Module.text_congr alike false hash, alike_of_text plain plain'⟩

def relates (s : Schema) (constant : String) : Bool :=
  (s.related.map Table.constant).contains constant

theorem relates_of_mem {t : Table} (member : t ∈ s.related) : s.relates t.constant = true :=
  List.contains_iff_mem.2 (List.mem_map_of_mem member)

theorem relationships_eq_nil {t : Table} (member : t ∈ s.tables) (unrelated : s.relates t.constant = false) :
    t.relationships = [] := by
  by_contra entered
  have related : t ∈ s.related := List.mem_filter.2 ⟨member, by simpa using entered⟩
  rw [relates_of_mem related] at unrelated
  cases unrelated

theorem Uniform.related_eq (uniform : s.Uniform) : s.related = s.tables.filter fun t => s.relates t.constant := by
  refine List.filter_congr fun t member => Bool.eq_iff_iff.2 ⟨fun entered => ?_, fun relates => ?_⟩
  · exact relates_of_mem (List.mem_filter.2 ⟨member, entered⟩)
  · obtain ⟨u, related, same⟩ := List.mem_map.1 (List.contains_iff_mem.1 relates)
    obtain ⟨known, entered⟩ := List.mem_filter.1 related
    rw [Bool.not_eq_true', List.isEmpty_eq_false_iff] at entered ⊢
    exact fun none => entered ((uniform u known t member same).2 none)

/-- Where it shows from its constant whether a table has relationships, they can be given back to the tables in their
order. -/
theorem tables_eq_of_marked {marked : String → Bool} {tables tables' : List Table}
    (alone : tables.map Table.alone = tables'.map Table.alone)
    (related : (tables.filter fun t => marked t.constant).map Module.shownRelationships =
      (tables'.filter fun t => marked t.constant).map Module.shownRelationships)
    (rest : ∀ t ∈ tables, marked t.constant = false → t.relationships = [])
    (rest' : ∀ t ∈ tables', marked t.constant = false → t.relationships = []) : tables = tables' := by
  induction tables generalizing tables' with
  | nil => exact (List.map_eq_nil_iff.1 alone.symm).symm
  | cons t tables ih =>
    cases tables' with
    | nil => cases alone
    | cons t' tables' =>
      rw [List.map_cons, List.map_cons, List.cons.injEq] at alone
      rw [List.forall_mem_cons] at rest rest'
      have constant : t.constant = t'.constant := by
        change t.alone.constant = t'.alone.constant
        rw [alone.1]
      have same (entries : t.relationships = t'.relationships) : t = t' :=
        congrArg₂ (fun (u : Table) entries => { u with relationships := entries }) alone.1 entries
      rw [List.filter_cons, List.filter_cons, ← constant] at related
      cases mark : marked t.constant with
      | false =>
        simp only [mark, Bool.false_eq_true, if_false] at related
        rw [same ((rest.1 mark).trans (rest'.1 (constant ▸ mark)).symm), ih alone.2 related rest.2 rest'.2]
      | true =>
        simp only [mark, if_true, List.map_cons, List.cons.injEq, Module.shownRelationships, Prod.mk.injEq] at related
        rw [same related.1.2, ih alone.2 related.2 rest.2 rest'.2]

namespace Alike

variable (alike : s.Alike s')
include alike

theorem relates_eq : s.relates = s'.relates := by
  funext constant
  rw [relates, alike.relatedConstants_eq, relates]

theorem related_eq (uniform : s.Uniform) : s'.related = s'.tables.filter fun t => s'.relates t.constant := by
  have count : s'.related.length = (s'.tables.filter fun t => s'.relates t.constant).length :=
    calc s'.related.length = s.related.length := by
          rw [← List.length_map Table.constant, ← alike.relatedConstants_eq, List.length_map]
      _ = (s.tables.map Table.constant).countP s.relates := by
          rw [uniform.related_eq, List.countP_map, List.countP_eq_length_filter]
          rfl
      _ = (s'.tables.filter fun t => s'.relates t.constant).length := by
          rw [alike.constants_eq, alike.relates_eq, List.countP_map, List.countP_eq_length_filter]
          rfl
  have entered : s'.related =
      (s'.tables.filter fun t => s'.relates t.constant).filter fun t => !t.relationships.isEmpty := by
    rw [List.filter_filter]
    refine List.filter_congr fun t member => ?_
    rw [Bool.eq_iff_iff, Bool.and_eq_true, iff_self_and]
    exact fun entered => relates_of_mem (List.mem_filter.2 ⟨member, entered⟩)
  rw [entered] at count
  rw [entered, List.filter_eq_self]
  exact List.length_filter_eq_length_iff.1 count

theorem tables_eq (uniform : s.Uniform) : s.tables = s'.tables := by
  have related := alike.related
  rw [uniform.related_eq, alike.related_eq uniform, alike.relates_eq] at related
  refine tables_eq_of_marked alike.tables related (fun t member unmarked => ?_) fun t member unmarked => ?_
  · rw [← alike.relates_eq] at unmarked
    exact relationships_eq_nil member unmarked
  · exact relationships_eq_nil member unmarked

end Alike

theorem uniform_of_nodup (distinct : (s.tables.map Table.constant).Nodup) : s.Uniform := by
  intro t known u member same
  rw [List.inj_on_of_nodup_map distinct known member same]

/-- The module says of a schema what `Alike` compares, which is all of it where constants tell who has relationships. -/
theorem text_determines (plain : s.Plain) (plain' : s'.Plain) (hash : Option String) :
    (Module.text s false hash = Module.text s' false hash ↔ s.Alike s') ∧
      (s.Uniform → (Module.text s false hash = Module.text s' false hash ↔
        s.tables = s'.tables ∧ s.enums.map Enum.shown = s'.enums.map Enum.shown)) := by
  have alike_iff := (alike_iff_text plain plain' hash).symm
  refine ⟨alike_iff, fun uniform => alike_iff.trans ⟨fun alike => ⟨alike.tables_eq uniform, alike.enums⟩, ?_⟩⟩
  rintro ⟨tables, enums⟩
  exact ⟨enums, by rw [tables], by rw [related, related, tables]⟩

end Schema

namespace Sample

def postTable (model : String) (relationships : List (Json × Relationship)) : Table where
  name := .str model
  storedAs := none
  model := model
  constant := "userPostTable"
  columns := [
    (.str "id", ⟨"number()", false, none⟩),
    (.str "mood", ⟨"enumeration<Mood>()", true, some (.str "post_mood")⟩)]
  primaryKey := [.str "id"]
  relationships := relationships

def previous : Json × Relationship :=
  (.str "previous", ⟨.one, .direct ⟨[.str "id"], [.str "id"], "userPostTable"⟩⟩)

theorem postTable_plain {model : String} {relationships : List (Json × Relationship)}
    (identifier : isIdentifier model = true) (plain : relationships ⊆ [previous]) :
    (postTable model relationships).Plain where
  constant := show isIdentifier "userPostTable" = true by decide
  model := identifier
  name := identifier
  storedAs := by rintro _ ⟨⟩
  columns := by
    intro entry member
    rcases List.mem_pair.1 member with rfl | rfl
    · exact ⟨by decide, .inl (by decide), by rintro _ ⟨⟩⟩
    · exact ⟨by decide, .inr ⟨"Mood", by decide, by decide⟩, by decide⟩
  primaryKey := show ∀ name ∈ [Json.str "id"], name.kind = .string by decide
  relationships := by
    intro entry member
    rw [List.mem_singleton.1 (plain member)]
    decide

def postSchema (first second : List (Json × Relationship)) (mappedName : Json) : Schema where
  tables := [postTable "UserPost" first, postTable "User_Post" second]
  enums := [⟨.str "Mood", [⟨.str "calm", mappedName⟩], .null⟩]

theorem postSchema_plain {first second : List (Json × Relationship)} (plain : first ⊆ [previous])
    (plain' : second ⊆ [previous]) (mappedName : Json) : (postSchema first second mappedName).Plain where
  tables := by
    intro t member
    rcases List.mem_pair.1 member with rfl | rfl
    · exact postTable_plain (by decide) plain
    · exact postTable_plain (by decide) plain'
  enums := by
    intro e member
    rw [List.mem_singleton.1 member]
    refine ⟨show isIdentifier "Mood" = true by decide, fun v member => ?_⟩
    rw [List.mem_singleton.1 member]
    exact show isIdentifier "calm" = true by decide

theorem postSchema_determined :
    let s := postSchema [previous] [previous] .null
    let s' := postSchema [previous] [previous] (.str "calm")
    (s.Plain ∧ s'.Plain ∧ s.Uniform) ∧ (Module.text s false none = Module.text s' false none ↔ s.Alike s') ∧
      (Module.text s false none = Module.text s' false none ↔
        s.tables = s'.tables ∧ s.enums.map Enum.shown = s'.enums.map Enum.shown) := by
  intro s s'
  have plain (mappedName : Json) : (postSchema [previous] [previous] mappedName).Plain :=
    postSchema_plain (List.Subset.refl _) (List.Subset.refl _) mappedName
  have uniform : s.Uniform := by decide
  obtain ⟨alike, same⟩ := Schema.text_determines (plain .null) (plain (.str "calm")) none
  exact ⟨⟨plain _, plain _, uniform⟩, alike, same uniform⟩

end Sample

theorem Schema.not_forall_determined : ¬∀ (s s' : Schema) (hash : Option String), s.Plain → s'.Plain →
    Module.text s false hash = Module.text s' false hash →
      s.tables = s'.tables ∧ s.enums.map Enum.shown = s'.enums.map Enum.shown := by
  intro claim
  have alike : (Sample.postSchema [Sample.previous] [] .null).Alike (Sample.postSchema [] [Sample.previous] .null) :=
    ⟨rfl, rfl, rfl⟩
  have same := claim _ _ none (Sample.postSchema_plain (List.Subset.refl _) (List.nil_subset _) .null)
    (Sample.postSchema_plain (List.nil_subset _) (List.Subset.refl _) .null) (Module.text_congr alike false none)
  exact absurd same.1 (by decide)

end SyncSchema

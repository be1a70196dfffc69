import SyncSchema.Proofs.Mapping.Clashes
import SyncSchema.Proofs.Mapping.Shape
import SyncSchema.Proofs.Module.Pieces
import SyncSchema.Proofs.Naming.Identifier

namespace SyncSchema
open Outcome

def Json.isSimple : Json → Bool
  | .str name => Naming.isSimple name
  | _ => false

/-- Models, fields, enums and their values have simple names. What they are mapped to may be anything. -/
structure Datamodel.Simple (d : Datamodel) : Prop where
  models : ∀ m ∈ d.models, m.name.isSimple = true
  fields : ∀ m ∈ d.models, ∀ f ∈ m.fields, f.name.isSimple = true
  enums : ∀ e ∈ d.enums, e.name.isSimple = true ∧ ∀ v ∈ e.values, v.name.isSimple = true

instance (d : Datamodel) : Decidable d.Simple :=
  decidable_of_iff (_ ∧ _ ∧ _)
    ⟨fun ⟨models, fields, enums⟩ => ⟨models, fields, enums⟩, fun ⟨models, fields, enums⟩ => ⟨models, fields, enums⟩⟩

structure Table.Spelled (t : Table) : Prop where
  constant : Naming.isIdentifier t.constant = true
  model : Naming.isIdentifier t.model = true
  name : Naming.isIdentifier t.name.display = true
  columns : ∀ entry ∈ t.columns, Naming.isIdentifier entry.1.display = true
  relationships : ∀ entry ∈ t.relationships, Naming.isIdentifier entry.1.display = true
  targets : ∀ entry ∈ t.relationships, ∀ link ∈ entry.2.route.links, Naming.isIdentifier link.target = true

def Table.ChainsSpelled (t : Table) : Prop :=
  ∀ entry ∈ t.relationships, ∀ first second, entry.2.route = .chain first second →
    Naming.isIdentifier first.target = true

def Datamodel.MappedSpelled (d : Datamodel) (naming : Naming) (excluded : List Json) : Prop :=
  ∀ m ∈ d.kept excluded, m.mappedName.isGiven = true →
    Naming.isIdentifier (Naming.shown naming.remapTables m.mappedName).display = true

def JoinTable.Plan.Spelled (p : Plan) : Prop :=
  ∀ c ∈ p.relation.display.toList, Naming.isIdentifierChar c = true

namespace Json

theorem exists_of_isSimple {name : Json} (simple : name.isSimple = true) :
    ∃ s, name = .str s ∧ Naming.isSimple s = true := by
  cases name with
  | str s => exact ⟨s, rfl, simple⟩
  | _ => cases simple

end Json

namespace Module
open Naming

def Piece.Spelled : Piece → Prop
  | identifier name => isIdentifier name = true
  | code _ | literal _ | bare _ => True

section

@[simp] theorem spelled_identifier (name : String) : (Piece.identifier name).Spelled ↔ isIdentifier name = true := .rfl

@[simp] theorem spelled_literal (value : Json) : (Piece.literal value).Spelled := trivial

@[simp] theorem spelled_bare (value : Json) : (Piece.bare value).Spelled := trivial

theorem forall_mem_flatMap {α : Type} {items : List α} {part : α → List Piece} {p : Piece → Prop} :
    (∀ piece ∈ items.flatMap part, p piece) ↔ ∀ item ∈ items, ∀ piece ∈ part item, p piece := by
  simp only [List.mem_flatMap]
  exact ⟨fun all item member piece inside => all piece ⟨item, member, inside⟩,
    fun all piece ⟨item, member, inside⟩ => all item member piece inside⟩

variable {t : Table} {s : Schema} {enumsAsUnions : Bool}

theorem spelled_table : (∀ piece ∈ Marks.table t, piece.Spelled) ↔
    isIdentifier t.constant = true ∧ ∀ entry ∈ t.columns, isIdentifier entry.1.display = true := by
  simp only [Marks.table, List.forall_mem_append, List.forall_mem_cons, List.not_mem_nil, false_implies, List.forall_mem_map,
    forall_mem_flatMap, spelled_identifier, spelled_literal, spelled_bare, implies_true, and_true]

theorem spelled_relationships : (∀ piece ∈ Marks.relationships t, piece.Spelled) ↔
    isIdentifier (relationshipsConstant t) = true ∧ isIdentifier t.constant = true ∧
      ∀ entry ∈ t.relationships, isIdentifier entry.1.display = true ∧
        ∀ link ∈ entry.2.route.links, isIdentifier link.target = true := by
  simp only [Marks.relationships, Marks.link, List.forall_mem_append, List.forall_mem_cons, List.not_mem_nil, false_implies,
    List.forall_mem_map, forall_mem_flatMap, spelled_identifier, spelled_literal, implies_true, and_true, true_and,
    and_assoc]

theorem spelled_pieces (hash : Option String) : (∀ piece ∈ pieces s enumsAsUnions hash, piece.Spelled) ↔
    ∀ piece ∈ marks s enumsAsUnions, piece.Spelled := by
  rw [← marks_pieces s enumsAsUnions hash]
  constructor
  · exact fun all piece mark => all piece (List.mem_of_mem_filter mark)
  · intro all piece member
    cases piece with
    | identifier => exact all _ (List.mem_filter.2 ⟨member, rfl⟩)
    | code | literal | bare => trivial

theorem mem_related {entry : Json × Relationship} (member : t ∈ s.tables) (entered : entry ∈ t.relationships) :
    t ∈ s.related := by
  refine List.mem_filter.2 ⟨member, ?_⟩
  cases related : t.relationships with
  | nil => simp [related] at entered
  | cons => rfl

theorem isIdentifier_relationshipsConstant (spelled : isIdentifier t.constant = true) :
    isIdentifier (relationshipsConstant t) = true :=
  isIdentifier_append spelled (by decide)

theorem spelled_iff (hash : Option String)
    (enums : ∀ e ∈ s.enums, isIdentifier e.name.display = true ∧ ∀ v ∈ e.values, isIdentifier v.name.display = true) :
    (∀ piece ∈ pieces s enumsAsUnions hash, piece.Spelled) ↔ ∀ t ∈ s.tables, t.Spelled := by
  rw [spelled_pieces, marks]
  simp only [List.forall_mem_append, List.forall_mem_map, forall_mem_flatMap, spelled_table, spelled_relationships,
    spelled_identifier, Marks.row, List.forall_mem_cons, List.not_mem_nil, false_implies, implies_true, and_true]
  constructor
  · rintro ⟨⟨⟨⟨⟨-, tables⟩, related⟩, -⟩, -⟩, rows⟩ t member
    exact ⟨(tables t member).1, (rows t member).1, (rows t member).2, (tables t member).2,
      fun entry entered => ((related t (mem_related member entered)).2.2 entry entered).1,
      fun entry entered => ((related t (mem_related member entered)).2.2 entry entered).2⟩
  · intro spelled
    have related : ∀ t ∈ s.related, t.Spelled := fun t member => spelled t (List.mem_of_mem_filter member)
    refine ⟨⟨⟨⟨⟨?_, ?_⟩, ?_⟩, ?_⟩, ?_⟩, ?_⟩
    · intro e member
      obtain ⟨name, values⟩ := enums e member
      rw [Marks.enum, List.forall_mem_cons, forall_mem_flatMap]
      refine ⟨name, fun v known => ?_⟩
      cases enumsAsUnions with
      | true => exact List.forall_mem_singleton.2 trivial
      | false => exact List.forall_mem_cons.2 ⟨values v known, List.forall_mem_singleton.2 trivial⟩
    · exact fun t member => ⟨(spelled t member).constant, (spelled t member).columns⟩
    · intro t member
      have spells := related t member
      exact ⟨isIdentifier_relationshipsConstant spells.constant, spells.constant,
        fun entry entered => ⟨spells.relationships entry entered, spells.targets entry entered⟩⟩
    · exact fun t member => (spelled t member).constant
    · exact fun t member => isIdentifier_relationshipsConstant (related t member).constant
    · exact fun t member => ⟨(spelled t member).model, (spelled t member).name⟩

end

end Module

namespace Naming

variable {naming : Naming} {f : Field} {name key : Json} {storedAs : Option Json}

theorem isIdentifier_constant {name : String} (simple : isSimple name = true) : isIdentifier (constant name) = true :=
  isIdentifier_append (isIdentifier_camel simple) (by decide)

theorem isIdentifier_constant? (simple : name.isSimple = true) {named : String} (ok : constant? name = .ok named) :
    isIdentifier named = true := by
  obtain ⟨text, rfl, simple⟩ := Json.exists_of_isSimple simple
  cases ok
  exact isIdentifier_constant simple

theorem isIdentifier_shown (simple : name.isSimple = true) (asked : Bool) :
    isIdentifier (shown asked name).display = true := by
  obtain ⟨text, rfl, simple⟩ := Json.exists_of_isSimple simple
  rw [shown_str]
  cases asked with
  | false => exact isIdentifier_of_isSimple simple
  | true => exact isIdentifier_camel simple

theorem isIdentifier_key (simple : f.name.isSimple = true)
    (resolved : naming.resolveColumn f = .ok (key, storedAs)) : isIdentifier key.display = true := by
  have unmapped : isIdentifier f.name.display = true := isIdentifier_shown simple false
  rw [resolveColumn] at resolved
  split at resolved
  · cases resolved
    exact unmapped
  · -- An unmapped column is named like a table.
    rw [@resolveTableName_eq ⟨naming.remapColumns, naming.remapColumns⟩ f.name key storedAs resolved]
    exact isIdentifier_shown simple naming.remapColumns

end Naming

namespace Context
open Naming

variable {d : Datamodel} {naming : Naming} {excluded : List Json} {ctx : Context} {m : Model} {t : Table}

theorem Tabled.name_eq (built : ctx.Built d naming excluded) (tabled : ctx.Tabled m t) :
    t.name = shown naming.remapTables m.sourceName := by
  have named := tabled.named
  rw [built.naming_eq] at named
  exact resolveTableName_eq named

theorem Tabled.isSimple_model (tabled : ctx.Tabled m t) (simple : m.name.isSimple = true) : isSimple t.model = true := by
  rwa [tabled.model_eq] at simple

theorem Tabled.isIdentifier_constant (tabled : ctx.Tabled m t) (simple : m.name.isSimple = true) :
    isIdentifier t.constant = true := by
  rw [tabled.constant_eq]
  exact Naming.isIdentifier_constant (tabled.isSimple_model simple)

theorem Built.spelled_iff (built : ctx.Built d naming excluded) (simple : d.Simple) (kept : m ∈ d.kept excluded)
    (tabled : ctx.Tabled m t) : t.Spelled ↔ isIdentifier t.name.display = true ∧ t.ChainsSpelled := by
  have simpleName {m : Model} (kept : m ∈ d.kept excluded) : m.name.isSimple = true :=
    simple.models m (List.mem_of_mem_filter kept)
  have simpleField {f : Field} (field : f ∈ m.fields) : f.name.isSimple = true :=
    simple.fields m (List.mem_of_mem_filter kept) f field
  constructor
  · intro spelled
    refine ⟨spelled.name, fun entry entered first second route => spelled.targets entry entered first ?_⟩
    rw [route]
    exact List.mem_cons_self
  · rintro ⟨name, chains⟩
    constructor
    case constant => exact tabled.isIdentifier_constant (simpleName kept)
    case model => exact isIdentifier_of_isSimple (tabled.isSimple_model (simpleName kept))
    case name => exact name
    case columns =>
      intro entry member
      obtain ⟨f, column, resolved, -⟩ := exists_item (built.table_shows kept tabled).columns member
      exact isIdentifier_key (simpleField (List.mem_of_mem_filter column)) resolved
    case relationships =>
      intro entry member
      obtain ⟨f, relation, same, -⟩ := (relationships_ok tabled.relationships_ok).2 entry member
      have named := simpleField (List.mem_of_mem_filter relation)
      obtain ⟨text, text_eq, -⟩ := Json.exists_of_isSimple named
      rw [text_eq] at same
      rw [Json.eq_str_of_beq (BEq.symm same), ← text_eq]
      exact isIdentifier_shown named false
    case targets =>
      intro entry member
      obtain ⟨f, -, -, resolved⟩ := (relationships_ok tabled.relationships_ok).2 entry member
      obtain ⟨target, keptTarget, -, resolves⟩ := built.exists_resolves resolved
      exact resolves.links_lead (fun constant => isIdentifier_constant? (simpleName keptTarget))
        (chains entry member)

end Context

namespace Datamodel
open Naming

variable {d : Datamodel} {naming : Naming} {excluded : List Json} {s : Schema} {ctx : Context}
  {plans : List JoinTable.Plan} {t : Table}

theorem join_spelled_iff (built : ctx.Built d naming excluded) (simple : d.Simple)
    (planned : d.joinPlans ctx excluded = .ok plans) {p : JoinTable.Plan} (member : p ∈ plans)
    (made : (JoinTable.table ctx p.model p.other p.relation).result = .ok t) :
    t.Spelled ↔ p.Spelled := by
  have model : t.model = "_" ++ p.relation.display := by
    obtain ⟨carries, -⟩ := table_carries built planned member made
    rw [carries.model.1, carries.model.2]
  rw [JoinTable.Plan.Spelled, ← isIdentifier_underscore, ← model]
  refine ⟨Table.Spelled.model, fun spelled => ?_⟩
  have chars : ∀ c ∈ p.relation.display.toList, isIdentifierChar c = true := by
    rwa [model, isIdentifier_underscore] at spelled
  have camelled : isIdentifier (camel t.model) = true := by
    rw [model]
    exact isIdentifier_camel_underscore chars
  obtain ⟨keptModel, keptOther⟩ := mem_kept_of_joinPlans built planned member
  obtain ⟨a, b, idA, idB, joins⟩ := JoinTable.table_ok made
  obtain ⟨keptA, keptB⟩ := joins.both keptModel keptOther
  obtain ⟨typeA, typeB, -, -, columns⟩ := joins.columns_eq
  obtain ⟨constantA, constantB, namedA, namedB, relationships⟩ := joins.relationships_eq
  have named : t.name = shown naming.remapTables (.str t.model) := by
    have resolved := joins.resolved
    rw [built.naming_eq] at resolved
    exact resolveTableName_eq resolved
  have target {m : Model} (kept : m ∈ d.kept excluded) {constant : String}
      (ok : constant? m.name = .ok constant) : isIdentifier constant = true :=
    isIdentifier_constant? (simple.models m (List.mem_of_mem_filter kept)) ok
  constructor
  case constant => exact joins.constant_eq ▸ isIdentifier_append camelled (by decide)
  case model => exact spelled
  case name =>
    rw [named, shown_str]
    split
    · exact camelled
    · exact spelled
  case columns =>
    rw [columns, List.forall_mem_cons, List.forall_mem_singleton]
    show isIdentifier "A" = true ∧ isIdentifier "B" = true
    decide
  case relationships =>
    rw [relationships, List.forall_mem_cons, List.forall_mem_singleton]
    show isIdentifier "modelA" = true ∧ isIdentifier "modelB" = true
    decide
  case targets =>
    rw [relationships, List.forall_mem_cons, List.forall_mem_singleton]
    simpa [Route.links] using ⟨target keptA namedA, target keptB namedB⟩

theorem join_chainsSpelled {p : JoinTable.Plan}
    (made : (JoinTable.table ctx p.model p.other p.relation).result = .ok t) : t.ChainsSpelled := by
  obtain ⟨a, b, idA, idB, joins⟩ := JoinTable.table_ok made
  obtain ⟨constantA, constantB, -, -, relationships⟩ := joins.relationships_eq
  rw [Table.ChainsSpelled, relationships, List.forall_mem_cons, List.forall_mem_singleton]
  constructor <;> nofun

variable {tables joins : List Table}

theorem tables_spelled_iff (built : ctx.Built d naming excluded) (simple : d.Simple)
    (tabled : List.Forall₂ (fun m t => (ctx.table m).result = .ok t) (d.kept excluded) tables) :
    (∀ t ∈ tables, t.Spelled) ↔ d.MappedSpelled naming excluded ∧ ∀ t ∈ tables, t.ChainsSpelled := by
  constructor
  · intro spelled
    refine ⟨fun m kept mapped => ?_, fun t member => ?_⟩
    · obtain ⟨t, member, made⟩ := exists_result tabled kept
      have named := (Context.table_ok made).name_eq built
      rw [Model.sourceName, Json.orElse, if_pos mapped] at named
      rw [← named]
      exact (spelled t member).name
    · obtain ⟨m, kept, made⟩ := exists_item tabled member
      exact ((built.spelled_iff simple kept (Context.table_ok made)).1 (spelled t member)).2
  · rintro ⟨mapped, chains⟩ t member
    obtain ⟨m, kept, made⟩ := exists_item tabled member
    refine (built.spelled_iff simple kept (Context.table_ok made)).2 ⟨?_, chains t member⟩
    rw [(Context.table_ok made).name_eq built, Model.sourceName, Json.orElse]
    split
    · rename_i given
      exact mapped m kept given
    · exact isIdentifier_shown (simple.models m (List.mem_of_mem_filter kept)) naming.remapTables

theorem joins_spelled_iff (built : ctx.Built d naming excluded) (simple : d.Simple)
    (planned : d.joinPlans ctx excluded = .ok plans)
    (joined : List.Forall₂ (fun p t => (JoinTable.table ctx p.model p.other p.relation).result = .ok t) plans joins) :
    (∀ t ∈ joins, t.Spelled) ↔ ∀ p ∈ plans, p.Spelled := by
  constructor
  · intro spelled p member
    obtain ⟨t, join, made⟩ := exists_result joined member
    exact (join_spelled_iff built simple planned member made).1 (spelled t join)
  · intro chars t join
    obtain ⟨p, member, made⟩ := exists_item joined join
    exact (join_spelled_iff built simple planned member made).2 (chars p member)

/-- Identifiers stand where they are expected, exactly if those names are identifiers that the document only passes
on. If every link leads to a table, chains need no condition of their own. -/
theorem toSchema_identifiers (simple : d.Simple) (ok : (d.toSchema naming excluded).result = .ok s) :
    ∃ ctx plans, (Context.build d naming excluded).result = .ok ctx ∧ d.joinPlans ctx excluded = .ok plans ∧
      (∀ enumsAsUnions hash,
        Module.text s enumsAsUnions hash = Module.print (Module.pieces s enumsAsUnions hash) ∧
        ((∀ piece ∈ Module.pieces s enumsAsUnions hash, piece.Spelled) ↔
          d.MappedSpelled naming excluded ∧ (∀ p ∈ plans, p.Spelled) ∧ ∀ t ∈ s.tables, t.ChainsSpelled)) ∧
      (s.Closed → (∀ p ∈ plans, p.Spelled) → ∀ t ∈ s.tables, t.ChainsSpelled) := by
  obtain ⟨ctx, tables, joins, plans, ctxOk, rfl, tabled, planned, joined⟩ := toSchema_ok ok
  have built := Context.build_ok ctxOk
  refine ⟨ctx, plans, ctxOk, planned, fun enumsAsUnions hash => ⟨Module.text_eq _ _ _, ?_⟩, ?_⟩
  · have enums : ∀ e ∈ d.enums, isIdentifier e.name.display = true ∧
        ∀ v ∈ e.values, isIdentifier v.name.display = true := fun e member =>
      ⟨isIdentifier_shown (simple.enums e member).1 false,
        fun v known => isIdentifier_shown ((simple.enums e member).2 v known) false⟩
    have direct : ∀ t ∈ joins, t.ChainsSpelled := by
      intro t join
      obtain ⟨p, -, made⟩ := exists_item joined join
      exact join_chainsSpelled made
    rw [Module.spelled_iff hash enums, List.forall_mem_append, List.forall_mem_append,
      tables_spelled_iff built simple tabled, joins_spelled_iff built simple planned joined]
    tauto
  · intro closed spelled t member entry entered first second route
    have here : first ∈ entry.2.route.links := by
      rw [route]
      exact List.mem_cons_self
    obtain ⟨u, known, constant⟩ := closed t member entry entered first here
    rw [← constant]
    rcases List.mem_append.1 known with table | join
    · obtain ⟨m, kept, made⟩ := exists_item tabled table
      exact (Context.table_ok made).isIdentifier_constant (simple.models m (List.mem_of_mem_filter kept))
    · exact ((joins_spelled_iff built simple planned joined).2 spelled u join).constant

end Datamodel

namespace Sample

theorem blog_identifiers : blog.Simple ∧ ∃ s, (blog.toSchema ⟨true, true⟩ []).result = .ok s ∧
    ∃ ctx plans, (Context.build blog ⟨true, true⟩ []).result = .ok ctx ∧ blog.joinPlans ctx [] = .ok plans ∧
      (∀ enumsAsUnions hash,
        Module.text s enumsAsUnions hash = Module.print (Module.pieces s enumsAsUnions hash) ∧
        ((∀ piece ∈ Module.pieces s enumsAsUnions hash, piece.Spelled) ↔
          blog.MappedSpelled ⟨true, true⟩ [] ∧ (∀ p ∈ plans, p.Spelled) ∧ ∀ t ∈ s.tables, t.ChainsSpelled)) ∧
      (s.Closed → (∀ p ∈ plans, p.Spelled) → ∀ t ∈ s.tables, t.ChainsSpelled) := by
  have simple : blog.Simple := by decide +kernel
  obtain ⟨s, ok⟩ := blog_toSchema
  exact ⟨simple, s, ok, Datamodel.toSchema_identifiers simple ok⟩

def accounts : Datamodel where
  models := [{ model "User" [id "id" "Int"] with mappedName := .str "user-accounts" }]
  enums := []

end Sample

theorem Datamodel.not_forall_identifiers : ¬∀ (d : Datamodel) (naming : Naming) (excluded : List Json) (s : Schema)
    (enumsAsUnions : Bool) (hash : Option String), d.Simple → (d.toSchema naming excluded).result = .ok s →
    ∀ piece ∈ Module.pieces s enumsAsUnions hash, piece.Spelled := by
  intro spelled
  have simple : Sample.accounts.Simple := by decide +kernel
  have hyphened : ∃ s ∈ (Sample.accounts.toSchema ⟨false, false⟩ []).result.toOption,
      ∃ t ∈ s.tables, Naming.isIdentifier t.name.display = false := by decide +kernel
  obtain ⟨s, made, t, member, hyphen⟩ := hyphened
  have all := spelled Sample.accounts ⟨false, false⟩ [] s false none simple (toOption_eq_some.1 made)
  have stands : Module.Piece.identifier t.name.display ∈ Module.marks s false :=
    List.mem_append_right _ (List.mem_flatMap.2 ⟨t, member, by simp [Module.Marks.row]⟩)
  have identifier := (Module.spelled_pieces none).1 all _ stands
  rw [Module.spelled_identifier, hyphen] at identifier
  cases identifier

end SyncSchema

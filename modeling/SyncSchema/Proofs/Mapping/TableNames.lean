import SyncSchema.Proofs.Mapping.Indexing

namespace SyncSchema
open Outcome

def Table.untitled (t : Table) : Table :=
  { t with name := .null, storedAs := none }

def Schema.untitled (s : Schema) : Schema :=
  { s with tables := s.tables.map Table.untitled }

namespace Model

variable (columns asked asked' : Bool)

theorem columnKeysFrom_titled (name : Json) (seen : List (Json × Json)) (fields : List Field) :
    columnKeysFrom ⟨asked, columns⟩ name seen fields = columnKeysFrom ⟨asked', columns⟩ name seen fields := by
  induction fields generalizing seen with
  | nil => rfl
  | cons f rest ih =>
    rw [columnKeysFrom, columnKeysFrom]
    simp only [ih]
    rfl

theorem columnKeys_titled (m : Model) : m.columnKeys ⟨asked, columns⟩ = m.columnKeys ⟨asked', columns⟩ := by
  rw [columnKeys, columnKeys, columnKeysFrom_titled columns asked asked']

theorem columnsOf_titled (types : TypeTable) (name : Json) (fields : List Field) :
    columnsOf ⟨asked, columns⟩ types name fields = columnsOf ⟨asked', columns⟩ types name fields := by
  induction fields with
  | nil => rfl
  | cons f rest ih =>
    rw [columnsOf, columnsOf, ih]
    rfl

theorem columns_titled (m : Model) (types : TypeTable) :
    m.columns ⟨asked, columns⟩ types = m.columns ⟨asked', columns⟩ types := by
  rw [Model.columns, Model.columns, columnsOf_titled columns asked asked']

end Model

namespace Context

def titled (asked : Bool) (ctx : Context) : Context :=
  { ctx with naming := ⟨asked, ctx.naming.remapColumns⟩ }

variable (asked : Bool) (ctx : Context) {m : Model}

theorem relationship?_titled (m : Model) (f : Field) :
    (ctx.titled asked).relationship? m f = ctx.relationship? m f := rfl

theorem relationshipsOf_titled (m : Model) (fields : List Field) :
    (ctx.titled asked).relationshipsOf m fields = ctx.relationshipsOf m fields := by
  induction fields with
  | nil => rfl
  | cons f rest ih => rw [relationshipsOf, relationshipsOf, relationship?_titled, ih]

theorem relationships_titled (m : Model) : (ctx.titled asked).relationships m = ctx.relationships m := by
  rw [relationships, relationships, relationshipsOf_titled]

theorem table_titled (text : m.sourceName.kind = .string) :
    Table.untitled <$> ((ctx.titled asked).table m).result = Table.untitled <$> (ctx.table m).result := by
  obtain ⟨entry, named⟩ := Naming.resolveTableName_isOk text ctx.naming
  obtain ⟨entry', named'⟩ := Naming.resolveTableName_isOk text (ctx.titled asked).naming
  have keys : (ctx.titled asked).primaryKey m = ctx.primaryKey m := rfl
  have columns : m.columns (ctx.titled asked).naming .standard = m.columns ctx.naming .standard :=
    m.columns_titled ctx.naming.remapColumns asked ctx.naming.remapTables .standard
  simp only [table, Naming.resolveTable, named, named', Run.check_ok_bind, keys, columns, relationships_titled,
    Run.result_bind, Run.result_check, Run.result_lift, Run.result_log, Run.result_pure, map_bind]
  rfl

end Context

namespace JoinTable

variable (asked : Bool) (ctx : Context)

theorem table_titled (model other : Model) (relation : Json) :
    Table.untitled <$> (table (ctx.titled asked) model other relation).result =
      Table.untitled <$> (table ctx model other relation).result := by
  simp only [table, Run.result_bind, Run.result_check, Run.result_lift, Run.result_pure, map_bind]
  refine bind_congr fun join => bind_congr fun swapped => bind_congr fun idA => bind_congr fun idB => ?_
  have text : (Json.str join).kind = .string := rfl
  obtain ⟨entry, named⟩ := Naming.resolveTableName_isOk text ctx.naming
  obtain ⟨entry', named'⟩ := Naming.resolveTableName_isOk text (ctx.titled asked).naming
  rw [named, named']
  rfl

theorem tablesOf_titled (seen : List Plan) (rows : List (Model × Field)) :
    List.map Table.untitled <$> (tablesOf (ctx.titled asked) seen rows).result =
      List.map Table.untitled <$> (tablesOf ctx seen rows).result := by
  induction rows generalizing seen with
  | nil => rfl
  | cons row rest ih =>
    obtain ⟨m, f⟩ := row
    have planned : plan? (ctx.titled asked) m f = plan? ctx m f := rfl
    rw [tablesOf, tablesOf, planned, Run.result_bind, Run.result_bind, map_bind, map_bind]
    refine bind_congr fun p => ?_
    cases p with
    | none => exact ih seen
    | some p =>
      dsimp only
      split
      · exact ih seen
      · simp only [Run.result_bind, Run.result_log, Run.result_pure, ok_bind]
        exact (map_bind_cons ..).trans (by rw [table_titled, ih, ← map_bind_cons]; rfl)

end JoinTable

namespace Datamodel

variable {d : Datamodel} {excluded : List Json}

theorem build_titled (d : Datamodel) (columns asked asked' : Bool) (excluded : List Json) :
    Context.build d ⟨asked, columns⟩ excluded = Context.titled asked <$> Context.build d ⟨asked', columns⟩ excluded := by
  simp only [Context.build, Model.columnKeys_titled columns asked asked', map_bind, map_pure]
  rfl

theorem map_untitled (tables joins : Except Failure (List Table)) (enums : List Enum) :
    Schema.untitled <$> (do return ⟨(← tables) ++ (← joins), enums⟩) =
      (do return ⟨(← List.map Table.untitled <$> tables) ++ (← List.map Table.untitled <$> joins), enums⟩) := by
  cases tables with
  | error failure => rfl
  | ok tables =>
    cases joins with
    | error failure => rfl
    | ok joins => simp only [Schema.untitled, map_ok, ok_bind, pure, Except.pure, List.map_append]

theorem toSchema_untitled (texts : d.Texts) (columns asked asked' : Bool) :
    Schema.untitled <$> (d.toSchema ⟨asked, columns⟩ excluded).result =
      Schema.untitled <$> (d.toSchema ⟨asked', columns⟩ excluded).result := by
  simp only [toSchema, build_titled d columns asked asked', bind_map_left, Run.result_bind, Run.result_mapM,
    Run.result_pure, Run.result_forM_log, ok_bind, map_bind]
  refine bind_congr fun ctx => ?_
  have tables : List.map Table.untitled <$> (d.kept excluded).mapM (fun m => ((ctx.titled asked).table m).result) =
      List.map Table.untitled <$> (d.kept excluded).mapM fun m => (ctx.table m).result := by
    rw [map_mapM, map_mapM]
    exact mapM_congr fun m kept => ctx.table_titled asked (texts.sourceName (List.mem_of_mem_filter kept))
  have joins := JoinTable.tablesOf_titled asked ctx [] ((d.kept excluded).flatMap fun m => m.relationFields.map (m, ·))
  simp only [← map_bind]
  exact (map_untitled ..).trans (by rw [tables, JoinTable.tables, joins, ← map_untitled]; rfl)

end Datamodel

end SyncSchema

import SyncSchema.Module.Text
import SyncSchema.Proofs.Mapping.Tables

namespace SyncSchema

namespace Field

def trimmed (f : Field) : Field :=
  { f with
    kind := if (f.isColumn || f.isId.holds) && f.isEnum then .str "enum" else .null
    mappedName := if f.isColumn then f.mappedName.orElse .null else .null
    isId := .ofBool f.isId.holds }

variable (f : Field)

@[simp] theorem name_trimmed : f.trimmed.name = f.name := rfl
@[simp] theorem type_trimmed : f.trimmed.type = f.type := rfl
@[simp] theorem isList_trimmed : f.trimmed.isList = f.isList := rfl
@[simp] theorem isRelation_trimmed : f.trimmed.isRelation = f.isRelation := rfl
@[simp] theorem isColumn_trimmed : f.trimmed.isColumn = f.isColumn := rfl
@[simp] theorem relationName_trimmed : f.trimmed.relationName = f.relationName := rfl

theorem isEnum_trimmed (read : f.isColumn = true ∨ f.isId.holds = true) : f.trimmed.isEnum = f.isEnum := by
  have read' : (f.isColumn || f.isId.holds) = true := by simpa using read
  cases enum : f.isEnum with
  | true =>
    simp only [isEnum, trimmed] at enum ⊢
    simp [read', enum]
  | false =>
    simp only [isEnum, trimmed] at enum ⊢
    simp only [enum, Bool.and_false, Bool.false_eq_true, if_false]
    decide

theorem columnType_trimmed (types : TypeTable) (read : f.isColumn = true ∨ f.isId.holds = true) :
    f.trimmed.columnType types = f.columnType types := by
  rw [columnType, f.isEnum_trimmed read]
  rfl

theorem column_trimmed (types : TypeTable) (storedAs : Option Json) (column : f.isColumn = true) :
    f.trimmed.column types storedAs = f.column types storedAs := by
  rw [Field.column, f.columnType_trimmed types (.inl column)]
  rfl

theorem resolveColumn_trimmed (naming : Naming) (column : f.isColumn = true) :
    naming.resolveColumn f.trimmed = naming.resolveColumn f := by
  have stored : f.trimmed.mappedName = f.mappedName.orElse .null := if_pos column
  rw [Naming.resolveColumn, Naming.resolveColumn, stored, Json.orElse]
  by_cases given : f.mappedName.isGiven = true
  · simp only [given, if_true]
    rfl
  · simp only [given, Bool.false_eq_true, if_false, Json.isGiven_null]
    rfl

end Field

namespace Model

def trimmed (m : Model) : Model :=
  { m with fields := m.fields.map Field.trimmed }

variable (m : Model)

@[simp] theorem name_trimmed : m.trimmed.name = m.name := rfl

theorem idField?_trimmed : m.trimmed.idField? = m.idField?.map Field.trimmed := by
  rw [idField?, trimmed, List.find?_map]
  rfl

theorem keyFields_trimmed : m.trimmed.keyFields = m.keyFields := by
  rw [keyFields, keyFields, idField?_trimmed]
  cases m.idField? <;> rfl

theorem relationFields_trimmed : m.trimmed.relationFields = m.relationFields.map Field.trimmed := by
  rw [relationFields, trimmed, List.filter_map]
  rfl

theorem columnKeysFrom_trimmed (naming : Naming) (name : Json) (seen : List (Json × Json)) (fields : List Field) :
    columnKeysFrom naming name seen (fields.map Field.trimmed) = columnKeysFrom naming name seen fields := by
  induction fields generalizing seen with
  | nil => rfl
  | cons f rest ih =>
    rw [List.map_cons, columnKeysFrom, columnKeysFrom, f.isColumn_trimmed]
    by_cases column : f.isColumn = true
    · rw [if_pos column, if_pos column, f.resolveColumn_trimmed naming column]
      simp only [ih]
      rfl
    · rw [if_neg column, if_neg column, ih]

theorem columnKeys_trimmed (naming : Naming) : m.trimmed.columnKeys naming = m.columnKeys naming := by
  rw [columnKeys, columnKeys, ← columnKeysFrom_trimmed naming m.name [] m.fields]
  rfl

theorem columnsOf_trimmed (naming : Naming) (types : TypeTable) (name : Json) (fields : List Field) :
    columnsOf naming types name (fields.map Field.trimmed) = columnsOf naming types name fields := by
  induction fields with
  | nil => rfl
  | cons f rest ih =>
    rw [List.map_cons, columnsOf, columnsOf, f.isRelation_trimmed, f.isList_trimmed, f.name_trimmed, ih]
    by_cases column : f.isColumn = true
    · rw [f.resolveColumn_trimmed naming column]
      simp only [f.column_trimmed types _ column]
    · have skipped : f.isRelation = true ∨ f.isList.holds = true := by
        simpa [Field.isColumn, or_iff_not_imp_left] using column
      rcases skipped with relation | list
      · rw [if_pos relation, if_pos relation]
      · rw [if_pos list, if_pos list]

theorem columns_trimmed (naming : Naming) (types : TypeTable) :
    m.trimmed.columns naming types = m.columns naming types := by
  rw [columns, columns, ← columnsOf_trimmed naming types m.name m.fields]
  rfl

end Model

theorem Field.backReference?_trimmed (f : Field) (m target : Model) :
    f.trimmed.backReference? m.trimmed target.trimmed = (f.backReference? m target).map Field.trimmed := by
  rw [backReference?, Model.trimmed, Model.trimmed, List.find?_map]
  rfl

theorem Field.filter_isList_trimmed (back : Option Field) :
    (back.map Field.trimmed).filter (·.isList.holds) = (back.filter (·.isList.holds)).map Field.trimmed := by
  rw [Option.filter_map]
  rfl

namespace Context

def trimmed (ctx : Context) : Context :=
  { ctx with models := ctx.models.map Model.trimmed }

variable (ctx : Context) (m target : Model) (f : Field)

@[simp] theorem naming_trimmed : ctx.trimmed.naming = ctx.naming := rfl
@[simp] theorem isExcluded_trimmed (name : Json) : ctx.trimmed.isExcluded name = ctx.isExcluded name := rfl

theorem indexFrom_trimmed (excluded : List Json) (seen models : List Model) :
    indexFrom excluded (seen.map Model.trimmed) (models.map Model.trimmed) =
      List.map Model.trimmed <$> indexFrom excluded seen models := by
  induction models generalizing seen with
  | nil =>
    rw [List.map_nil, indexFrom, indexFrom, ← List.map_reverse]
    rfl
  | cons m rest ih =>
    have known : (seen.map Model.trimmed).any (·.name == m.name) = seen.any (·.name == m.name) := by
      rw [List.any_map]
      rfl
    rw [List.map_cons, indexFrom, indexFrom, m.name_trimmed, known]
    split
    · rfl
    · split
      · split
        · exact ih seen
        · rfl
      · exact ih (m :: seen)

theorem keptOf_trimmed (excluded : List Json) (models : List Model) :
    keptOf excluded (models.map Model.trimmed) = (keptOf excluded models).map Model.trimmed := by
  rw [keptOf, List.filter_map]
  rfl

theorem warnUnknown_trimmed (excluded : List Json) (models : List Model) :
    warnUnknown excluded (models.map Model.trimmed) = warnUnknown excluded models := by
  simp only [warnUnknown, List.any_map]
  rfl

theorem model?_trimmed (name : Json) : ctx.trimmed.model? name = Option.map Model.trimmed <$> ctx.model? name := by
  simp only [model?, trimmed, List.find?_map, map_bind, map_pure]
  rfl

theorem keyFields_trimmed : keyFields m.trimmed = keyFields m := by
  rw [keyFields, keyFields, m.keyFields_trimmed]
  rfl

theorem namedOrKey_trimmed (names : List Json) : namedOrKey names m.trimmed = namedOrKey names m := by
  rw [namedOrKey, namedOrKey, keyFields_trimmed]

theorem toMany_trimmed (back : Option Field) :
    ctx.trimmed.toMany m.trimmed target.trimmed f.trimmed (back.map Field.trimmed) = ctx.toMany m target f back := by
  cases back with
  | none => rfl
  | some back =>
    simp only [toMany, Option.map_some, keyFields_trimmed]
    rfl

theorem toOne_trimmed (back : Option Field) :
    ctx.trimmed.toOne m.trimmed target.trimmed f.trimmed (back.map Field.trimmed) = ctx.toOne m target f back := by
  have held : (back.map Field.trimmed).filter (!·.fromFields.isEmpty) =
      (back.filter (!·.fromFields.isEmpty)).map Field.trimmed := by
    rw [Option.filter_map]
    rfl
  simp only [toOne, namedOrKey_trimmed, held]
  cases back.filter (!·.fromFields.isEmpty) <;> rfl

end Context

theorem JoinTable.identity_trimmed (m : Model) (relation : Json) :
    identity m.trimmed relation = Field.trimmed <$> identity m relation := by
  rw [identity, identity, m.idField?_trimmed]
  cases m.idField? <;> rfl

namespace Context

variable (ctx : Context) (m target : Model) (f : Field)

theorem throughJoin_trimmed (back : Field) :
    ctx.trimmed.throughJoin m.trimmed target.trimmed f.trimmed back.trimmed = ctx.throughJoin m target f back := by
  simp only [throughJoin, JoinTable.identity_trimmed, Run.lift_map, bind_map_left]
  rfl

theorem relationship?_trimmed : ctx.trimmed.relationship? m.trimmed f.trimmed = ctx.relationship? m f := by
  simp only [relationship?, f.type_trimmed, model?_trimmed, Run.check_map, bind_map_left]
  refine bind_congr fun found => ?_
  cases found with
  | none => rfl
  | some target =>
    simp only [Option.map_some, Field.backReference?_trimmed, Field.filter_isList_trimmed, toMany_trimmed,
      toOne_trimmed]
    cases (f.backReference? m target).filter (·.isList.holds) with
    | none => rfl
    | some back =>
      simp only [Option.map_some, throughJoin_trimmed]
      rfl

theorem relationshipsOf_trimmed (fields : List Field) :
    ctx.trimmed.relationshipsOf m.trimmed (fields.map Field.trimmed) = ctx.relationshipsOf m fields := by
  induction fields with
  | nil => rfl
  | cons f rest ih =>
    rw [List.map_cons, relationshipsOf, relationshipsOf, relationship?_trimmed, ih]
    rfl

theorem relationships_trimmed : ctx.trimmed.relationships m.trimmed = ctx.relationships m := by
  rw [relationships, relationships, m.relationFields_trimmed, relationshipsOf_trimmed]

theorem primaryKey_trimmed : ctx.trimmed.primaryKey m.trimmed = ctx.primaryKey m := by
  rw [primaryKey, primaryKey, keyFields_trimmed]
  rfl

theorem table_trimmed : ctx.trimmed.table m.trimmed = ctx.table m := by
  have table (naming : Naming) : naming.resolveTable m.trimmed = naming.resolveTable m := rfl
  simp only [Context.table, naming_trimmed, table, m.name_trimmed, m.columns_trimmed, primaryKey_trimmed,
    relationships_trimmed]

end Context

namespace JoinTable

variable (ctx : Context) (m model other target : Model) (f : Field)

theorem column_trimmed {id : Field} (isId : id.isId.holds = true) : column id.trimmed = column id := by
  rw [column, column, id.columnType_trimmed .standard (.inr isId)]

theorem table_trimmed (relation : Json) :
    table ctx.trimmed model.trimmed other.trimmed relation = table ctx model other relation := by
  have pair (swapped : Bool) : (if swapped then (other.trimmed, model.trimmed) else (model.trimmed, other.trimmed)) =
      Prod.map Model.trimmed Model.trimmed (if swapped then (other, model) else (model, other)) := by
    cases swapped <;> rfl
  simp only [table, Model.name_trimmed, ctx.naming_trimmed, pair]
  refine bind_congr fun join => bind_congr fun swapped => ?_
  obtain ⟨a, b⟩ : Model × Model := if swapped then (other, model) else (model, other)
  simp only [Prod.map, identity, Model.idField?_trimmed]
  cases idA : a.idField? with
  | none => rfl
  | some fieldA =>
    have isIdA : fieldA.isId.holds = true := List.find?_some (p := fun f : Field => f.isId.holds) idA
    cases idB : b.idField? with
    | none => rfl
    | some fieldB =>
      have isIdB : fieldB.isId.holds = true := List.find?_some (p := fun f : Field => f.isId.holds) idB
      simp only [Option.map_some, Run.lift_ok_bind, column_trimmed isIdA, column_trimmed isIdB]
      rfl

def Plan.trimmed (p : Plan) : Plan :=
  { p with model := p.model.trimmed, other := p.other.trimmed }

theorem plan?_trimmed : plan? ctx.trimmed m.trimmed f.trimmed = Option.map Plan.trimmed <$> plan? ctx m f := by
  simp only [plan?, f.isList_trimmed, f.type_trimmed, Context.model?_trimmed]
  split
  · rfl
  · simp only [bind_map_left, map_bind]
    refine bind_congr fun found => ?_
    cases found with
    | none => rfl
    | some target =>
      simp only [Option.map_some, Field.backReference?_trimmed, Field.filter_isList_trimmed, ctx.isExcluded_trimmed,
        Model.name_trimmed, f.relationName_trimmed]
      by_cases excluded : ctx.isExcluded target.name = true
      · simp only [excluded, if_true]
        rfl
      · simp only [excluded, Bool.false_eq_true, if_false, map_bind]
        refine bind_congr fun later => ?_
        cases later with
        | true => rfl
        | false =>
          cases (f.backReference? m target).filter (·.isList.holds) with
          | none => rfl
          | some back =>
            simp only [Option.map_some, Bool.false_eq_true, if_false, map_bind, map_pure]
            rfl

theorem tablesOf_trimmed (seen : List Plan) (rows : List (Model × Field)) :
    tablesOf ctx.trimmed (seen.map Plan.trimmed) (rows.map (Prod.map Model.trimmed Field.trimmed)) =
      tablesOf ctx seen rows := by
  induction rows generalizing seen with
  | nil => rfl
  | cons row rest ih =>
    obtain ⟨m, f⟩ := row
    rw [List.map_cons, Prod.map, tablesOf, tablesOf, plan?_trimmed, Run.check_map, bind_map_left]
    refine bind_congr fun planned => ?_
    cases planned with
    | none => exact ih seen
    | some p =>
      have known : (seen.map Plan.trimmed).any p.trimmed.isSame = seen.any p.isSame := by
        rw [List.any_map]
        rfl
      simp only [Option.map_some, known]
      split
      · exact ih seen
      · have later := ih (p :: seen)
        rw [List.map_cons] at later
        have table := table_trimmed ctx p.model p.other p.relation
        rw [later]
        simp only [Plan.trimmed, table]

theorem tables_trimmed (models : List Model) :
    tables ctx.trimmed (models.map Model.trimmed) = tables ctx models := by
  have rows : ((models.map Model.trimmed).flatMap fun m => m.relationFields.map (m, ·)) =
      (models.flatMap fun m => m.relationFields.map (m, ·)).map (Prod.map Model.trimmed Field.trimmed) := by
    simp only [List.flatMap_map, List.map_flatMap, Model.relationFields_trimmed, List.map_map]
    rfl
  rw [tables, tables, rows]
  exact tablesOf_trimmed ctx [] _

end JoinTable

def Enum.trimmed (e : Enum) : Enum :=
  { e with mappedName := .null }

def Schema.trimmed (s : Schema) : Schema :=
  { s with enums := s.enums.map Enum.trimmed }

namespace Datamodel

def trimmed (d : Datamodel) : Datamodel :=
  ⟨d.models.map Model.trimmed, d.enums.map Enum.trimmed⟩

variable (d : Datamodel) (naming : Naming) (excluded : List Json)

theorem build_trimmed :
    Context.build d.trimmed naming excluded = Context.trimmed <$> Context.build d naming excluded := by
  have index := Context.indexFrom_trimmed excluded [] d.models
  rw [List.map_nil] at index
  simp only [Context.build, trimmed, index, Run.lift_map, bind_map_left, map_bind, map_pure,
    Context.keptOf_trimmed, Context.warnUnknown_trimmed, List.mapM_map, Function.comp_def, Model.columnKeys_trimmed,
    Model.name_trimmed]
  rfl

theorem kept_trimmed : d.trimmed.kept excluded = (d.kept excluded).map Model.trimmed :=
  Context.keptOf_trimmed excluded d.models

theorem toSchema_trimmed : d.trimmed.toSchema naming excluded = Schema.trimmed <$> d.toSchema naming excluded := by
  have models : d.trimmed.models = d.models.map Model.trimmed := rfl
  have excluding (ctx : Context) : ((d.models.map Model.trimmed).filter (ctx.isExcluded ·.name)).forM
      (fun m => Run.log .debug s!"Excluding model {m.name.display}") =
        (d.models.filter (ctx.isExcluded ·.name)).forM fun m => Run.log .debug s!"Excluding model {m.name.display}" := by
    rw [List.filter_map]
    exact List.forM_map
  simp only [toSchema, build_trimmed, bind_map_left, kept_trimmed, models, Context.isExcluded_trimmed,
    excluding, List.mapM_map, Function.comp_def, Context.table_trimmed, JoinTable.tables_trimmed, map_bind, map_pure]
  rfl

end Datamodel

namespace Module

theorem enums_trimmed (asUnions : Bool) (es : List Enum) :
    enums asUnions (es.map Enum.trimmed) = enums asUnions es := by
  simp only [enums, List.isEmpty_map, List.map_map]
  rfl

theorem text_trimmed (s : Schema) (asUnions : Bool) (hash : Option String) :
    text s.trimmed asUnions hash = text s asUnions hash := by
  simp only [text, Schema.trimmed, enums_trimmed]
  rfl

end Module

end SyncSchema

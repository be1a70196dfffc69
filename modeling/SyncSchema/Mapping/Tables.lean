import SyncSchema.Mapping.Relation

namespace SyncSchema

namespace Context

def primaryKey (ctx : Context) (m : Model) : Except Failure (List Json) := do
  (ctx.columnKeysOf m.name (← keyFields m)).mapError .misuse

def table (ctx : Context) (m : Model) : Run Table := do
  let (name, storedAs) ← Run.check (ctx.naming.resolveTable m)
  let model ← Run.check m.name.text?
  let columns ← m.columns ctx.naming .standard
  let primaryKey ← Run.lift (ctx.primaryKey m)
  let relationships ← ctx.relationships m
  Run.log .debug (s!"Mapped model {model} -> table {name.display} " ++
    s!"({columns.length} columns, {relationships.length} relationships)")
  return { name, storedAs, model, constant := Naming.constant model, columns, primaryKey, relationships }

end Context

namespace JoinTable

def side (ctx : Context) (column : String) (m : Model) (id : Field) : Except Failure Relationship := do
  let dest ← (ctx.columnKeysOf m.name [id.name]).mapError .misuse
  return ⟨.one, .direct ⟨[.str column], dest, ← (Naming.constant? m.name).mapError .misuse⟩⟩

def column (id : Field) : Run Column :=
  return { type := ← id.columnType .standard, isOptional := false, storedAs := none }

/--
The table that joins two models. Column `A` refers to the model whose name comes first, column `B` to the
other one; both together are the key.
-/
def table (ctx : Context) (model other : Model) (relation : Json) : Run Table := do
  let join ← Run.check (name model.name other.name relation)
  let swapped ← Run.check (other.name.lt? model.name)
  let (a, b) := if swapped then (other, model) else (model, other)
  let idA ← Run.lift (identity a relation)
  let idB ← Run.lift (identity b relation)
  let (tableName, storedAs) ← Run.check (ctx.naming.resolveTableName (.str join))
  let columnA ← column idA
  let columnB ← column idB
  let sideA ← Run.lift (side ctx "A" a idA)
  let sideB ← Run.lift (side ctx "B" b idB)
  return {
    name := tableName
    storedAs
    model := join
    constant := Naming.constant join
    columns := [(.str "A", columnA), (.str "B", columnB)]
    primaryKey := [.str "A", .str "B"]
    relationships := [(.str "modelA", sideA), (.str "modelB", sideB)] }

structure Plan where
  name : String
  model : Model
  other : Model
  relation : Json

/-- The plan that a relation field calls for, seen from the model whose name comes first. -/
def plan? (ctx : Context) (model : Model) (f : Field) : Except Misuse (Option Plan) := do
  if !f.isList.holds then return none
  let some target ← ctx.model? f.type | return none
  if ctx.isExcluded target.name then return none
  if ← target.name.lt? model.name then return none
  match (f.backReference? model target).filter (·.isList.holds) with
  | none => return none
  | some _ =>
    return some ⟨← name model.name target.name f.relationName, model, target, f.relationName⟩

def Plan.isSame (p q : Plan) : Bool :=
  p.model.name == q.model.name && p.other.name == q.other.name && p.name == q.name

def tablesOf (ctx : Context) (seen : List Plan) : List (Model × Field) → Run (List Table)
  | [] => return []
  | (model, f) :: rest => do
    match ← Run.check (plan? ctx model f) with
    | none => tablesOf ctx seen rest
    | some plan =>
      if seen.any plan.isSame then tablesOf ctx seen rest
      else
        Run.log .debug s!"Synthesizing implicit join table {plan.name}"
        let built ← table ctx plan.model plan.other plan.relation
        return built :: (← tablesOf ctx (plan :: seen) rest)

def tables (ctx : Context) (models : List Model) : Run (List Table) :=
  tablesOf ctx [] (models.flatMap fun m => m.relationFields.map (m, ·))

end JoinTable

namespace Datamodel

def kept (d : Datamodel) (excluded : List Json) : List Model :=
  Context.keptOf excluded d.models

def toSchema (d : Datamodel) (naming : Naming) (excluded : List Json) : Run Schema := do
  let ctx ← Context.build d naming excluded
  (d.models.filter (ctx.isExcluded ·.name)).forM fun m =>
    Run.log .debug s!"Excluding model {m.name.display}"
  let tables ← (d.kept excluded).mapM ctx.table
  let joins ← JoinTable.tables ctx (d.kept excluded)
  return { tables := tables ++ joins, enums := d.enums }

def assemble (d : Datamodel) (naming : Naming) (excluded : List Json) : Run Schema := do
  Run.log .info "Building intermediate representation using domain services..."
  let schema ← d.toSchema naming excluded
  Run.log .info
    s!"Intermediate representation built: {schema.tables.length} tables, {schema.enums.length} enums"
  return schema

end Datamodel

end SyncSchema

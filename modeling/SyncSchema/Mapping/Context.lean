import SyncSchema.Mapping.Columns

namespace SyncSchema

structure Context where
  naming : Naming
  excluded : List Json
  /-- Every model that a relation can point at, the first of each name. -/
  models : List Model
  /-- For every kept model, the column key of each column field. -/
  columnKeys : Entries (Entries Json)

namespace Context

def distinct (names : List Json) : List Json :=
  names.foldl (fun seen name => if seen.contains name then seen else seen ++ [name]) []

def excludedNames (given : Json) : Except Misuse (List Json) := do
  return distinct (← (← given.itemsIfGiven?).mapM Json.key?)

/-- The first model of each name. A second one is an error unless the name is excluded. -/
def indexFrom (excluded : List Json) (seen : List Model) : List Model → Except Failure (List Model)
  | [] => .ok seen.reverse
  | m :: rest =>
    if !m.name.canBeKey then .error (.misuse (.notAKey m.name.kind))
    else if seen.any (·.name == m.name) then
      if excluded.contains m.name then indexFrom excluded seen rest
      else .error (.problem (.repeatedModel m.name))
    else indexFrom excluded (m :: seen) rest

def warnUnknown (excluded : List Json) (models : List Model) : Run Unit := do
  let unknown ← Run.check (Json.sortNames (excluded.filter fun name => !models.any (·.name == name)))
  if !unknown.isEmpty then
    let names ← Run.check (Json.joinTexts unknown)
    Run.log .warning s!"excludeTables names unknown models: {names}"

def keptOf (excluded : List Json) (models : List Model) : List Model :=
  models.filter fun m => !excluded.contains m.name

def build (d : Datamodel) (naming : Naming) (excluded : List Json) : Run Context := do
  let models ← Run.lift (indexFrom excluded [] d.models)
  warnUnknown excluded models
  let columnKeys ← (keptOf excluded d.models).mapM fun m =>
    return (m.name, ← Run.lift (m.columnKeys naming))
  return { naming, excluded, models, columnKeys }

def model? (ctx : Context) (name : Json) : Except Misuse (Option Model) :=
  return ctx.models.find? (·.name == (← name.key?))

def isExcluded (ctx : Context) (name : Json) : Bool :=
  ctx.excluded.contains name

def columnKey (ctx : Context) (model field : Json) : Json :=
  (((ctx.columnKeys.get? model).getD []).get? field).getD field

def columnKeysOf (ctx : Context) (model : Json) (fields : List Json) : Except Misuse (List Json) := do
  let model ← model.key?
  fields.mapM fun field => return ctx.columnKey model (← field.key?)

end Context

end SyncSchema

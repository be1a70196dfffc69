import SyncSchema.Mapping.Context

namespace SyncSchema

namespace JoinTable

def name (model other relation : Json) : Except Misuse String := do
  if relation.isGiven then return s!"_{relation.display}"
  if ← other.lt? model then return s!"_{other.display}To{model.display}"
  return s!"_{model.display}To{other.display}"

def identity (m : Model) (relation : Json) : Except Failure Field :=
  match m.idField? with
  | some f => .ok f
  | none => .error (.problem (.noIdField m.name relation))

end JoinTable

namespace Field

/--
The field on the target that completes the relation: it has the same relation name and points back at the
model. Within one model the field itself does not count.
-/
def backReference? (f : Field) (model target : Model) : Option Field :=
  target.fields.find? fun candidate =>
    !(model.name == target.name && candidate.name == f.name) &&
      (candidate.relationName == f.relationName && candidate.type == model.name)

/-- The model owns column `A` of the join table: its name comes first, or the field's within one model. -/
def isFirstSide (f : Field) (model target : Model) (back : Field) : Except Misuse Bool :=
  if model.name == target.name then f.name.lt? back.name else model.name.lt? target.name

end Field

namespace Context

def keyFields (m : Model) : Except Failure (List Json) :=
  if m.keyFields.isEmpty then .error (.problem (.noPrimaryKey m.name)) else .ok m.keyFields

def directLink (ctx : Context) (model target : Model) (f : Field) (sources dests : List Json) :
    Except Failure Link := do
  let source ← (ctx.columnKeysOf model.name sources).mapError .misuse
  let dest ← (ctx.columnKeysOf target.name dests).mapError .misuse
  if source.isEmpty || source.length != dest.length then
    throw (.problem (.unevenLink model.name target.name f.name source.length dest.length))
  return { source, dest, target := ← (Naming.constant? target.name).mapError .misuse }

def toMany (ctx : Context) (model target : Model) (f : Field) (back : Option Field) :
    Except Failure Relationship :=
  match back with
  | some back =>
    if back.fromFields.isEmpty then .error (.problem (.noForeignKeyOnTarget model.name target.name f.name))
    else return ⟨.many, .direct (← ctx.directLink model target f (← keyFields model) back.fromFields)⟩
  | none => .error (.problem (.noForeignKeyOnTarget model.name target.name f.name))

def namedOrKey (names : List Json) (m : Model) : Except Failure (List Json) :=
  if names.isEmpty then keyFields m else .ok names

def toOne (ctx : Context) (model target : Model) (f : Field) (back : Option Field) :
    Except Failure Relationship := do
  if !f.fromFields.isEmpty then
    let dests ← namedOrKey f.toFields target
    return ⟨.one, .direct (← ctx.directLink model target f f.fromFields dests)⟩
  match back.filter (!·.fromFields.isEmpty) with
  | some back =>
    let sources ← namedOrKey back.toFields model
    return ⟨.one, .direct (← ctx.directLink model target f sources back.fromFields)⟩
  | none => throw (.problem (.noForeignKey model.name target.name f.name))

def throughJoin (ctx : Context) (model target : Model) (f back : Field) : Run Relationship := do
  let join ← Run.check (JoinTable.name model.name target.name f.relationName)
  let sourceId ← Run.lift (JoinTable.identity model f.relationName)
  let targetId ← Run.lift (JoinTable.identity target f.relationName)
  let first ← Run.check (f.isFirstSide model target back)
  let (own, other) := if first then ("A", "B") else ("B", "A")
  let source ← Run.check (ctx.columnKeysOf model.name [sourceId.name])
  let dest ← Run.check (ctx.columnKeysOf target.name [targetId.name])
  let constant ← Run.check (Naming.constant? target.name)
  Run.log .debug s!"Resolved {model.name.display}.{f.name.display} as many-to-many through {join}"
  return ⟨.many, .chain ⟨source, [.str own], Naming.constant join⟩ ⟨[.str other], dest, constant⟩⟩

def relationship? (ctx : Context) (model : Model) (f : Field) : Run (Option Relationship) := do
  let some target ← Run.check (ctx.model? f.type)
    | Run.stop (.unknownTarget model.name f.type f.name)
  if ctx.isExcluded target.name then
    Run.log .debug (s!"Skipping relation {model.name.display}.{f.name.display}: " ++
      s!"target model {target.name.display} is excluded")
    return none
  let back := f.backReference? model target
  if f.isList.holds then
    match back.filter (·.isList.holds) with
    | some back => return some (← ctx.throughJoin model target f back)
    | none => return some (← Run.lift (ctx.toMany model target f back))
  return some (← Run.lift (ctx.toOne model target f back))

def relationshipsOf (ctx : Context) (model : Model) : List Field → Run (Entries Relationship)
  | [] => return []
  | f :: rest => do
    match ← ctx.relationship? model f with
    | none => ctx.relationshipsOf model rest
    | some relationship =>
      let name ← Run.check f.name.key?
      return (name, relationship) :: (← ctx.relationshipsOf model rest)

def relationships (ctx : Context) (model : Model) : Run (Entries Relationship) :=
  return .ofList (← ctx.relationshipsOf model model.relationFields)

end Context

end SyncSchema

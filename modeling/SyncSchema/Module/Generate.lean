import SyncSchema.Mapping.Tables
import SyncSchema.Module.Text
import SyncSchema.Options.Basic

namespace SyncSchema

namespace Options

def naming (o : Options) : Naming :=
  ⟨o.remapTables, o.remapColumns⟩

def excluded (o : Options) : List Json :=
  Context.distinct (o.excludeTables.map .str)

end Options

def Module.generate (d : Datamodel) (options : Options) (hash : Option String) : Run String := do
  let schema ← d.assemble options.naming options.excluded
  emit schema options.enumAsUnion hash

end SyncSchema

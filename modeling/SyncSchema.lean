import SyncSchema.Datamodel.Edit
import SyncSchema.Main
import SyncSchema.Proofs.Mapping.Context
import SyncSchema.Report.Parts
import SyncSchema.Schema.Make
import SyncSchema.Terminal.Line
import SyncSchema.Proofs.Mapping.Relation
import SyncSchema.Proofs.Mapping.Tables
import SyncSchema.Proofs.Samples
import SyncSchema.Proofs.Mapping.KeyClosure
import SyncSchema.Proofs.Mapping.Mirror
import SyncSchema.Proofs.Mapping.JoinPlans
import SyncSchema.Proofs.Mapping.JoinSides
import SyncSchema.Proofs.Number.Decimal
import SyncSchema.Proofs.Json.Compact
import SyncSchema.Proofs.Mapping.Trim
import SyncSchema.Proofs.Datamodel.Payload
import SyncSchema.Proofs.Datamodel.Texts
import SyncSchema.Proofs.Mapping.Exclusion
import SyncSchema.Proofs.Mapping.Acceptance
import SyncSchema.Proofs.Mapping.Targets
import SyncSchema.Proofs.Mapping.Clashes
import SyncSchema.Proofs.Mapping.Shape
import SyncSchema.Proofs.Mapping.TableNames
import SyncSchema.Proofs.Mapping.Renaming
import SyncSchema.Proofs.Module.Literals
import SyncSchema.Proofs.Module.Identifiers
import SyncSchema.Proofs.Mapping.Narrowing
import SyncSchema.Proofs.Mapping.Order
import SyncSchema.Proofs.Mapping.Pruning
import SyncSchema.Proofs.Mapping.RowNames
import SyncSchema.Proofs.Module.Determined
import SyncSchema.Proofs.Datamodel.Hash
import SyncSchema.Proofs.Command.Ending
import SyncSchema.Proofs.Naming.Settling
import SyncSchema.Proofs.Options.Override
import SyncSchema.Proofs.Naming.Shape
import SyncSchema.Proofs.Datamodel.Decoding
import SyncSchema.Proofs.Options.Independence
import SyncSchema.Proofs.Module.Writing
import SyncSchema.Proofs.Naming.Segments

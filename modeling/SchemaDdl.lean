import SchemaDdl.CommandLine.Run
import SchemaDdl.Main
import SchemaDdl.Proofs.Reading.Form
import SchemaDdl.Proofs.Compilation.Success
import SchemaDdl.Proofs.Compilation.Content
import SchemaDdl.Proofs.Identifier.Limit
import SchemaDdl.Proofs.Script.ReadBack
import SchemaDdl.Proofs.Compilation.Forms
import SchemaDdl.Proofs.Emulation.ImpliedCommands
import SchemaDdl.Proofs.Catalog.Guard
import SchemaDdl.Proofs.Emulation.LifeCycle
import SchemaDdl.Proofs.Emulation.OnePass
import SchemaDdl.Proofs.Identifier.Generated
import SchemaDdl.Proofs.Compilation.Requirements
import SchemaDdl.Proofs.Reading.Skeleton
import SchemaDdl.Proofs.Compilation.Anonymous
import SchemaDdl.Proofs.Emulation.Completeness
import SchemaDdl.Proofs.Compilation.Prefix
import SchemaDdl.Proofs.Emulation.Mode
import SchemaDdl.Proofs.Identifier.Segments
import SchemaDdl.Proofs.Reading.Unique
import SchemaDdl.Proofs.Compilation.Payload
import SchemaDdl.Proofs.Json.RoundTrip
import SchemaDdl.Proofs.Reading.Brackets
import SchemaDdl.Proofs.Reading.Words
import SchemaDdl.Proofs.Reading.Number
import SchemaDdl.Proofs.Column.Separation
import SchemaDdl.Proofs.CommandLine.Agreement
import SchemaDdl.Proofs.Column.Clauses
import SchemaDdl.Proofs.Sequence.Alteration
import SchemaDdl.Proofs.Emulation.Collision
import SchemaDdl.Proofs.Emulation.Expansion
import SchemaDdl.Proofs.Identifier.Constraint
import SchemaDdl.Proofs.Sequence.Statements
import SchemaDdl.Proofs.Identifier.Nameless
import SchemaDdl.Proofs.Identifier.Parts
import SchemaDdl.Proofs.Column.Check
import SchemaDdl.Proofs.Column.Suffix

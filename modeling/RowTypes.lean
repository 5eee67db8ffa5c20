import RowTypes.Main
import RowTypes.Proofs.Block.Locality
import RowTypes.Proofs.Block.Relations
import RowTypes.Proofs.CommandLine.Exit
import RowTypes.Proofs.CommandLine.Generation
import RowTypes.Proofs.CommandLine.Redaction
import RowTypes.Proofs.Imports.Accounting
import RowTypes.Proofs.Imports.Insertion
import RowTypes.Proofs.Imports.Join
import RowTypes.Proofs.Imports.RoundTrip
import RowTypes.Proofs.Naming.Underscores
import RowTypes.Proofs.Run.Identifiers
import RowTypes.Proofs.Run.Isolation
import RowTypes.Proofs.Run.Policies
import RowTypes.Proofs.Run.Reporting
import RowTypes.Proofs.Schema.Violations
import RowTypes.Proofs.Server.Schemas
import RowTypes.Proofs.Snapshot.RoundTrip
import RowTypes.Proofs.SourceFile.Commutation
import RowTypes.Proofs.SourceFile.Extent
import RowTypes.Proofs.SourceFile.Removal
import RowTypes.Proofs.SourceFile.Resplicing
import RowTypes.Proofs.Storage.Atomicity
import RowTypes.Proofs.Tag

import SqlDump.Client.TemporalColumn
import SqlDump.Main
import SqlDump.Script.Token
import SqlDump.Client.Offset
import SqlDump.Settings.Fields
import SqlDump.Proofs.Calendar.Duration
import SqlDump.Proofs.Client.TemporalColumn
import SqlDump.Proofs.Client.TemporalLiteral
import SqlDump.Proofs.Command.Outcome
import SqlDump.Proofs.Literal.Branches
import SqlDump.Proofs.Literal.Canonical
import SqlDump.Proofs.Literal.Closing
import SqlDump.Proofs.Literal.Containment
import SqlDump.Proofs.Literal.Floats
import SqlDump.Proofs.Literal.Octets
import SqlDump.Proofs.Literal.Refusal
import SqlDump.Proofs.Literal.RoundTrip
import SqlDump.Proofs.Literal.Unstored
import SqlDump.Proofs.Script.NormalForm
import SqlDump.Proofs.Script.Tokens
import SqlDump.Proofs.Text.Language
import SqlDump.Proofs.Text.Readback
import SqlDump.Proofs.Storage.Files
import SqlDump.Proofs.Dump.Comments
import SqlDump.Proofs.Dump.Export
import SqlDump.Proofs.Dump.Inventory
import SqlDump.Proofs.Dump.Readback
import SqlDump.Proofs.Dump.Waiting
import SqlDump.Proofs.Restore.Octets
import SqlDump.Proofs.Restore.Progress
import SqlDump.Proofs.Session.Failure
import SqlDump.Proofs.Session.Connections
import SqlDump.Proofs.Session.Cursors
import SqlDump.Proofs.Session.Sequence
import SqlDump.Proofs.Statement.Quoting
import SqlDump.Proofs.Literal.Rows
import SqlDump.Proofs.Dump.Coverage
import SqlDump.Proofs.Statement.Qualified
import SqlDump.Proofs.Adapter.Moment
import SqlDump.Proofs.Adapter.Registry
import SqlDump.Proofs.Adapter.TextSet

import SqlWire.Connection
import SqlWire.Proofs.Transport
import SqlWire.Proofs.Field
import SqlWire.Proofs.Frame
import SqlWire.Proofs.Answer
import SqlWire.Proofs.Request
import SqlWire.Proofs.RoundTrip
import SqlWire.Proofs.Login.Secrecy
import SqlWire.Proofs.Login.Agreement
import SqlWire.Proofs.ConnectString
import SqlWire.Proofs.Connection.Description
import SqlWire.Proofs.Connection.Refusal
import SqlWire.Proofs.Connection.RefCursor
import SqlWire.Proofs.Connection.Orphans
import SqlWire.Proofs.Cursor.Columns
import SqlWire.Proofs.Cursor.State
import SqlWire.Proofs.Response.Delimited
import SqlWire.Proofs.Response.Report
import SqlWire.Proofs.Response.Asked
import SqlWire.Proofs.Response.ErrorPayload
import SqlWire.Proofs.Parameter.Execution
import SqlWire.Proofs.Parameter.Reuse
import SqlWire.Proofs.Parameter.Retyped
import SqlWire.Proofs.Parameter.Decoded
import SqlWire.Proofs.Parameter.Interleaving
import SqlWire.Proofs.Value.Temporal
import SqlWire.Proofs.Calendar.Interval
import SqlWire.Proofs.Row.Cells
import SqlWire.Proofs.Row.ClassRegion

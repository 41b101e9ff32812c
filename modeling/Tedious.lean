import Tedious.Lib.Task
import Tedious.Lib.Scanner
import Tedious.Lib.ScannerSound
import Tedious.Js
import Tedious.Lib.Repeat
import Tedious.Lib.Exact
import Tedious.Collation
import Tedious.Metadata
import Tedious.ValueParser
import Tedious.Token.Parsers
import Tedious.Token.StreamParser
import Tedious.Token.Chunking
import Tedious.Encode
import Tedious.Lib.Machine
import Tedious.Packet
import Tedious.OutgoingMessageStream
import Tedious.IncomingMessageStream
import Tedious.MessageFraming
import Tedious.PacketStructure
import Tedious.Lib.While
import Tedious.PacketSplitting
import Tedious.Lib.Reentrant
import Tedious.Errors
import Tedious.Request
import Tedious.Token.Handler
import Tedious.Connection.State
import Tedious.Connection.Step
import Tedious.Connection.Reset
import Tedious.Connection.Transition
import Tedious.Connection.Phase
import Tedious.Connection.Encryption
import Tedious.Connection.Final
import Tedious.Connection.LoginResponse
import Tedious.Connection.Retry
import Tedious.Connection.AttentionResponse
import Tedious.Connection.Timers
import Tedious.Connection.PeerName
import Tedious.Connection.Emissions
import Tedious.Connection.Lifecycle
import Tedious.Connection.Serving
import Tedious.Connection.Executions
import Tedious.Connection.Answering
import Tedious.Connection.Attentions
import Tedious.Connection.Dialogue
import Tedious.Connection.Canceling
import Tedious.Transaction.Nesting
import Tedious.Transaction.Depth
import Tedious.Token.Encoding
import Tedious.DataTypes.Parameter
import Tedious.DataTypes.Variable
import Tedious.Lib.Takes
import Tedious.DataTypes.BinaryFraming
import Tedious.DataTypes.RoundTrip
import Tedious.DataTypes.NullSentinel
import Tedious.Token.RowAgreement
import Tedious.Lib.Lockstep
import Tedious.Lib.CutOut
import Tedious.Token.SkippedChange
import Tedious.DataTypes.Fixed
import Tedious.DataTypes.Types
import Tedious.DataTypes.Framing
import Tedious.Lib.Agreement
import Tedious.DataTypes.Tvp
import Tedious.DataTypes.TvpGrammar
import Tedious.VariantAgreement
import Tedious.Token.PlpStream
import Tedious.DataTypes.Amounts
import Tedious.DataTypes.TimeOfDay
import Tedious.DataTypes.Validation
import Tedious.Connection.Prepared
import Tedious.Login7Payload
import Tedious.Token.Collecting
import Tedious.Connection.Pausing
import Tedious.DataTypes.ColumnValues
import Tedious.BulkLoad
import Tedious.BulkLoadSql
import Tedious.DataTypes.DateRoundTrip
import Tedious.DataTypes.DateRange
import Tedious.AlwaysEncrypted.Aead
import Tedious.AlwaysEncrypted.KeyVault
import Tedious.Lib.Quoted
import Tedious.Connecting.InstanceLookup
import Tedious.Connecting.BrowserResponse
import Tedious.Lib.Race
import Tedious.Connecting.Sender
import Tedious.Connecting.Sequence
import Tedious.Connecting.Parallel
import Tedious.Lib.Appending
import Tedious.WritableTrackingBuffer
import Tedious.NtlmPayload
import Tedious.GuidParser
import Tedious.PreloginOptions
import Tedious.AllHeaders
import Tedious.TransactionPayload
import Tedious.Connection.Matching
import Tedious.RpcRequestPayload
import Tedious.Lib.Separated
import Tedious.Procedures
import Tedious.Connection.Configuration
import Tedious.Connection.InitialSql
import Tedious.RequestMessages
import Tedious.Lib.Generator
import Tedious.PayloadStream
import Tedious.BulkLoadStreams
import Tedious.Token.Columns
import Tedious.Token.Cells
import Tedious.Token.Response

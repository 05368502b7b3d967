import SqlxSqlserver.Foundation.LittleEndian
import SqlxSqlserver.Foundation.Chunks
import SqlxSqlserver.Foundation.Fallible
import SqlxSqlserver.Foundation.Reader
import SqlxSqlserver.Foundation.Pieces
import SqlxSqlserver.Foundation.Truncation
import SqlxSqlserver.Foundation.Framing
import SqlxSqlserver.Foundation.Unicode
import SqlxSqlserver.Foundation.Put
import SqlxSqlserver.Foundation.Async
import SqlxSqlserver.Foundation.Quoting
import SqlxSqlserver.Foundation.Splitting
import SqlxSqlserver.Foundation.Savepoints
import SqlxSqlserver.Protocol.Packet
import SqlxSqlserver.Protocol.PacketRoundTrip
import SqlxSqlserver.Protocol.PacketSoundness
import SqlxSqlserver.Protocol.PacketStream
import SqlxSqlserver.Protocol.PreLogin
import SqlxSqlserver.Protocol.PreLoginRoundTrip
import SqlxSqlserver.Driver.Options
import SqlxSqlserver.Protocol.Login7
import SqlxSqlserver.Protocol.Login7Layout
import SqlxSqlserver.Protocol.Read
import SqlxSqlserver.Protocol.TypeInfo
import SqlxSqlserver.Protocol.WireForm
import SqlxSqlserver.Protocol.Token
import SqlxSqlserver.Protocol.EnvChangeGrammar
import SqlxSqlserver.Driver.UrlOptions
import SqlxSqlserver.Driver.Ssrp
import SqlxSqlserver.Driver.MssqlTypeInfo
import SqlxSqlserver.Driver.Value
import SqlxSqlserver.Driver.ScalarRoundTrip
import SqlxSqlserver.Driver.Declarations
import SqlxSqlserver.Driver.DecimalInteger
import SqlxSqlserver.Driver.BigDecimal
import SqlxSqlserver.Driver.Decimal
import SqlxSqlserver.Driver.Temporal
import SqlxSqlserver.Driver.Chrono
import SqlxSqlserver.Driver.ChronoRoundTrip
import SqlxSqlserver.Driver.TimeCrate
import SqlxSqlserver.Driver.DateTimeOffset
import SqlxSqlserver.Driver.ScaledTemporal
import SqlxSqlserver.Protocol.Query
import SqlxSqlserver.Protocol.QueryTokens
import SqlxSqlserver.Protocol.QuerySoundness
import SqlxSqlserver.Protocol.RowEncodings
import SqlxSqlserver.Protocol.PutValue
import SqlxSqlserver.Protocol.PlpChunks
import SqlxSqlserver.Protocol.QueryResponse
import SqlxSqlserver.Driver.ColumnNames
import SqlxSqlserver.Protocol.QueryPanics
import SqlxSqlserver.Protocol.LoginTokens
import SqlxSqlserver.Driver.Arguments
import SqlxSqlserver.Protocol.TypeInfoRoundTrip
import SqlxSqlserver.Driver.TemporalPanics
import SqlxSqlserver.Driver.LegacyDatetime
import SqlxSqlserver.Protocol.Rpc
import SqlxSqlserver.Protocol.RpcParameter
import SqlxSqlserver.Protocol.RpcRoundTrip
import SqlxSqlserver.Protocol.RpcSizes
import SqlxSqlserver.Driver.AddAtomicity
import SqlxSqlserver.Driver.TlsPrelogin
import SqlxSqlserver.Driver.TlsFlush
import SqlxSqlserver.Driver.TlsDeframe
import SqlxSqlserver.Driver.TlsHalves
import SqlxSqlserver.Driver.TlsTunnel
import SqlxSqlserver.Driver.WireStream
import SqlxSqlserver.Driver.OutboundPackets
import SqlxSqlserver.Driver.ReadMessage
import SqlxSqlserver.Driver.Connection
import SqlxSqlserver.Driver.PacketSizes
import SqlxSqlserver.Driver.Transaction
import SqlxSqlserver.Driver.Descriptor
import SqlxSqlserver.Driver.Pairing
import SqlxSqlserver.Driver.NestedTransaction
import SqlxSqlserver.Driver.DroppedTransaction
import SqlxSqlserver.Driver.TransactionDepth
import SqlxSqlserver.Driver.LostRollback
import SqlxSqlserver.Driver.Migrate
import SqlxSqlserver.Foundation.Machine
import SqlxSqlserver.Protocol.LoginResponse
import SqlxSqlserver.Protocol.Negotiation
import SqlxSqlserver.Driver.Establish
import SqlxSqlserver.Driver.LoginPath
import SqlxSqlserver.Foundation.Simulation
import SqlxSqlserver.Driver.Served
import SqlxSqlserver.Driver.Session
import SqlxSqlserver.Driver.StatementHandles
import SqlxSqlserver.Driver.Terms
import SqlxSqlserver.Driver.Executor
import SqlxSqlserver.Driver.LoginServed
import SqlxSqlserver.Driver.Binding
import SqlxSqlserver.Driver.Migrations
import SqlxSqlserver.Driver.MigrationRuns
import SqlxSqlserver.Driver.MigrateDatabase
import SqlxSqlserver.Driver.AnyDriver
import SqlxSqlserver.Driver.Arrival
import SqlxSqlserver.Driver.TimeRoundTrip
import SqlxSqlserver.Driver.PlainTypes
import SqlxSqlserver.Driver.DriverValues
import SqlxSqlserver.Driver.Echo

import SqlxSqlserver.Driver.WireStream
import SqlxSqlserver.Protocol.Query

/-! The requests of a connection: every one samples the descriptor, is sent, and reads its
response, and every entry point flushes a queued rollback first. -/

namespace SqlxSqlserver.Driver
open Foundation Protocol

namespace MssqlConnection

def applyEnvChange (self : MssqlConnection) : EnvChange → MssqlConnection
  | .packetSize size =>
    { self with stream := self.stream.map fun stream =>
        { stream with packetSize := min (max size.toNat 512) 32767 } }
  | .beginTransaction descriptor => { self with transactionDescriptor := descriptor }
  | .commitTransaction _ | .rollbackTransaction _ => { self with transactionDescriptor := 0 }
  | _ => self

def applyEnvChanges (self : MssqlConnection) (envChanges : List EnvChange) : MssqlConnection :=
  envChanges.foldl applyEnvChange self

def incrementTransactionDepth (self : MssqlConnection) : MssqlConnection :=
  { self with transactionDepth := self.transactionDepth + 1 }

def decrementTransactionDepth (self : MssqlConnection) : MssqlConnection :=
  { self with transactionDepth := self.transactionDepth - 1 }

def clearTransactionDepth (self : MssqlConnection) : MssqlConnection :=
  { self with transactionDepth := 0 }

def queueRollback (self : MssqlConnection) : MssqlConnection :=
  match self.transactionDepth with
  | 0 => self
  | 1 => { self with transactionDepth := 0, pendingRollbackSql := some "ROLLBACK TRANSACTION" }
  | depth + 2 =>
    { self with
      transactionDepth := depth + 1
      pendingRollbackSql := some "ROLLBACK TRANSACTION sqlx_savepoint" }

theorem queueRollback_changes (self : MssqlConnection) : ∃ depth pending, self.queueRollback =
    { self with transactionDepth := depth, pendingRollbackSql := pending } := by
  unfold queueRollback
  split
  · exact ⟨self.transactionDepth, self.pendingRollbackSql, rfl⟩
  · exact ⟨_, _, rfl⟩
  · exact ⟨_, _, rfl⟩

end MssqlConnection

def World.updateConn (update : MssqlConnection → MssqlConnection) (self : World) : World :=
  { self with conn := update self.conn }

def wireNotImplemented : Error := .protocol "SQL Server connection stream is not available"

def stream : Task MssqlWireStream := do
  match (← .get).conn.stream with
  | some stream => pure stream
  | none => .fail wireNotImplemented

theorem triple_stream {P E : World → Prop} (unavailable : ∀ world, P world → E world) :
    stream.Triple P (fun _ => P) E := by
  apply Async.triple_look.bind
  intro world
  split
  · exact fun _ holds => holds
  · exact unavailable

theorem keeps_stream {P : World → Prop} : stream.Keeps P := triple_stream fun _ holds => holds

namespace Request

def packet (self : Request) (packetSize : Nat) (transactionDescriptor : UInt64) :
    Outcome Error Bytes :=
  match self with
  | .sqlBatch sql => (buildSqlBatchPacket sql packetSize transactionDescriptor).mapErr frameError
  | .executeSql sql arguments =>
    (buildExecuteSqlPacket sql arguments packetSize transactionDescriptor).mapErr
      fun error => .protocol ("failed to encode SQL Server RPC: " ++ error.message)
  | .prepare sql parameters =>
    (buildPreparePacket sql parameters packetSize transactionDescriptor).mapErr
      fun error => .protocol ("failed to encode SQL Server prepare RPC: " ++ error.message)
  | .unprepare statementId =>
    (buildUnpreparePacket statementId packetSize transactionDescriptor).mapErr
      fun error => .protocol ("failed to encode SQL Server unprepare RPC: " ++ error.message)

def operation : Request → String
  | .sqlBatch _ => "SQL batch"
  | .executeSql _ _ => "RPC execute"
  | .prepare _ _ => "prepare RPC"
  | .unprepare _ => "unprepare RPC"

def sendContext : Request → String
  | .sqlBatch _ => "failed to send SQL Server SQL batch packet"
  | .executeSql _ _ => "failed to send SQL Server RPC execute packet"
  | .prepare _ _ => "failed to send SQL Server prepare RPC packet"
  | .unprepare _ => "failed to send SQL Server unprepare RPC packet"

end Request

section operations
variable [ErrorDisplay]

def readQueryResponse (operation : String) : Task QueryOutput := do
  let stream ← stream
  let response ← stream.readMessage.mapErr
    (contextError s!"failed to read SQL Server {operation} response")
  if response.packetType ≠ .tabularResult then
    .fail (.protocol ("expected SQL Server query response as tabular result, got packet type 0x" ++
      hexByte response.packetType.code))
  else
    let output ← .ofOutcome ((parseQueryResponse response.payload).mapErr fun error =>
      .protocol (s!"failed to parse SQL Server {operation} response: " ++
        ErrorDisplay.display error))
    .modify (World.updateConn (·.applyEnvChanges output.envChanges))
    return output

/-- What the four senders share: the request is built under the current descriptor, sent, and its
response read. -/
def exchange (request : Request) : Task QueryOutput := do
  let transactionDescriptor := (← .get).conn.transactionDescriptor
  let stream ← stream
  let packet ← .ofOutcome (request.packet stream.packetSize transactionDescriptor)
  (stream.writeAll request packet).mapErr (contextError request.sendContext)
  readQueryResponse request.operation

def runSqlBatchDirect (sql : String) : Task QueryOutput := exchange (.sqlBatch sql)

def flushPendingRollback : Task Unit := do
  match (← .get).conn.pendingRollbackSql with
  | none => pure ()
  | some sql =>
    .modify (World.updateConn fun conn => { conn with pendingRollbackSql := none })
    let _ ← runSqlBatchDirect sql

def runSqlBatch (sql : String) : Task QueryOutput := do
  flushPendingRollback
  runSqlBatchDirect sql

def executeRequest (sql : String) : Option MssqlArguments → Request
  | some arguments => if arguments.isEmpty then .sqlBatch sql else .executeSql sql arguments
  | none => .sqlBatch sql

def runExecuteSql (sql : String) (arguments : Option MssqlArguments) : Task QueryOutput := do
  flushPendingRollback
  exchange (executeRequest sql arguments)

def decodeI32 (value : MssqlValue) : Outcome BoxDynError Int32 := do
  let bytes ← decodeInteger value "i32"
  return .ofInt (← .ofExcept (tryFrom (-2147483648) 2147483647 bytes))

def firstI32ReturnValue (output : QueryOutput) : Outcome Error (Option Int32) :=
  match output.returnValues with
  | [] => .ok none
  | value :: _ => do
    return some (← (decodeI32 value).mapErr (.columnDecode "return value"))

def runPrepare (sql : String) (parameters : List MssqlTypeInfo) : Task QueryOutput := do
  flushPendingRollback
  let output ← exchange (.prepare sql parameters)
  match ← .ofOutcome (firstI32ReturnValue output) with
  | some statementId =>
    let _ ← exchange (.unprepare statementId)
    return output
  | none => return output

def ping : Task Unit := do
  flushPendingRollback
  let _ ← stream

/-- How reading a response takes the world to `Q`: a tabular result that parses has its environment
changes applied, and every other message is an error. -/
theorem triple_readQueryResponse {P E : World → Prop} {R : WireMessage → World → Prop}
    {Q : QueryOutput → World → Prop} (operation : String)
    (unavailable : ∀ world, P world → E world)
    (read : ∀ self : MssqlWireStream, self.readMessage.Triple P R E)
    (refused : ∀ message world, R message world →
      (message.packetType = .tabularResult →
        ∀ output, parseQueryResponse message.payload ≠ .ok output) → E world)
    (applied : ∀ message output world, R message world → message.packetType = .tabularResult →
      parseQueryResponse message.payload = .ok output →
      Q output (world.updateConn (·.applyEnvChanges output.envChanges))) :
    (readQueryResponse operation).Triple P Q E := by
  refine (triple_stream unavailable).bind fun self => ((read self).mapErr _).bind fun message => ?_
  by_cases tabular : message.packetType = .tabularResult
  · rw [if_neg (not_not.mpr tabular)]
    cases parsed : parseQueryResponse message.payload with
    | ok output => exact fun world holds => applied message output world holds tabular parsed
    | err error =>
      exact fun world holds => refused message world holds
        fun _ output same => nomatch parsed.symm.trans same
    | panic text =>
      exact fun world holds => refused message world holds
        fun _ output same => nomatch parsed.symm.trans same
  · rw [if_pos tabular]
    exact fun world holds => refused message world holds fun same => absurd same tabular

/-- How an exchange takes the world from `P` to `Q`: the request is built under the descriptor,
sent whole, and its response is read. -/
theorem triple_exchange {P R E : World → Prop} {Q : QueryOutput → World → Prop} (request : Request)
    (unavailable : ∀ world, P world → E world)
    (sent : ∀ (world : World) (self : MssqlWireStream) bytes, P world →
      request.packet self.packetSize world.conn.transactionDescriptor = .ok bytes →
      (self.writeAll request bytes).Triple (fun state => state = world) (fun _ => R) E)
    (read : (readQueryResponse request.operation).Triple R Q E) :
    (exchange request).Triple P Q E := by
  intro world holds
  have exits : ∀ state, state = world → E state := fun state same => same ▸ unavailable world holds
  refine ((triple_stream exits).bind fun self => ?_) world rfl
  refine (Async.triple_ofOutcome _ exits).bind fun bytes => Async.triple_known fun built => ?_
  exact ((sent world self bytes holds built).mapErr _).bind fun _ => read

end operations
end SqlxSqlserver.Driver

import SqlxSqlserver.Driver.Connection

/-! The transaction manager and the calls a user of a connection can make. -/

namespace SqlxSqlserver.Driver
open Foundation Protocol

namespace MssqlTransactionManager
variable [ErrorDisplay]

def begin (statement : Option String) : Task Unit := do
  let depth := (← .get).conn.transactionDepth
  let sql := statement.getD
    (if depth = 0 then "BEGIN TRANSACTION" else "SAVE TRANSACTION sqlx_savepoint")
  let _ ← runSqlBatch sql
  .modify (World.updateConn (·.incrementTransactionDepth))

def commit : Task Unit := do
  let depth := (← .get).conn.transactionDepth
  if depth = 1 then
    let _ ← runSqlBatch "COMMIT TRANSACTION"
    .modify (World.updateConn (·.decrementTransactionDepth))
  else if 1 < depth then
    .modify (World.updateConn (·.decrementTransactionDepth))
  else pure ()

def rollback : Task Unit := do
  let depth := (← .get).conn.transactionDepth
  if depth = 1 then
    let _ ← runSqlBatch "ROLLBACK TRANSACTION"
    .modify (World.updateConn (·.clearTransactionDepth))
  else if 1 < depth then
    let _ ← runSqlBatch "ROLLBACK TRANSACTION sqlx_savepoint"
    .modify (World.updateConn (·.decrementTransactionDepth))
  else pure ()

def startRollback : Task Unit := .modify (World.updateConn (·.queueRollback))

end MssqlTransactionManager

inductive Call where
  | runSqlBatch (sql : String)
  | runExecuteSql (sql : String) (arguments : Option MssqlArguments)
  | runPrepare (sql : String) (parameters : List MssqlTypeInfo)
  | ping
  | begin (statement : Option String)
  | commit
  | rollback
  | startRollback
  deriving DecidableEq

section
variable [ErrorDisplay]

def Call.perform : Call → Task Unit
  | .runSqlBatch sql => do let _ ← Driver.runSqlBatch sql
  | .runExecuteSql sql arguments => do let _ ← Driver.runExecuteSql sql arguments
  | .runPrepare sql parameters => do let _ ← Driver.runPrepare sql parameters
  | .ping => Driver.ping
  | .begin statement => MssqlTransactionManager.begin statement
  | .commit => MssqlTransactionManager.commit
  | .rollback => MssqlTransactionManager.rollback
  | .startRollback => MssqlTransactionManager.startRollback

def run (calls : List Call) (world : World) : World :=
  calls.foldl (fun world call => (call.perform world).2) world

section keeps
variable {P : World → Prop}

/-- Neither the depth nor a queued rollback matters to `P`. -/
def IgnoresDepth (P : World → Prop) : Prop :=
  ∀ depth pending world, P world → P (world.updateConn fun conn =>
    { conn with transactionDepth := depth, pendingRollbackSql := pending })

theorem keeps_flush (exchanged : ∀ request, (exchange request).Keeps P) (ignores : IgnoresDepth P) :
    flushPendingRollback.Keeps P := by
  apply Async.keeps_get.bind
  intro world
  split
  · exact Async.keeps_pure _
  · refine (Async.keeps_modify fun world holds =>
      ignores world.conn.transactionDepth none world holds).bind fun _ => ?_
    exact (exchanged _).bind fun _ => Async.keeps_pure _

def Call.Sends : Call → Request → Prop
  | .runSqlBatch sql, request => request = .sqlBatch sql
  | .runExecuteSql sql arguments, request => request = executeRequest sql arguments
  | .runPrepare sql parameters, request =>
    request = .prepare sql parameters ∨ ∃ statementId, request = .unprepare statementId
  | .begin statement, request =>
    request = .sqlBatch (statement.getD "BEGIN TRANSACTION") ∨
      request = .sqlBatch (statement.getD "SAVE TRANSACTION sqlx_savepoint")
  | .commit, request => request = .sqlBatch "COMMIT TRANSACTION"
  | .rollback, request =>
    request = .sqlBatch "ROLLBACK TRANSACTION" ∨
      request = .sqlBatch "ROLLBACK TRANSACTION sqlx_savepoint"
  | .ping, _ | .startRollback, _ => False

theorem keeps_call (call : Call) (flushed : flushPendingRollback.Keeps P)
    (exchanged : ∀ request, call.Sends request → (exchange request).Keeps P)
    (depth : ∀ depth world, P world →
      P (world.updateConn fun conn => { conn with transactionDepth := depth }))
    (queued : call = .startRollback → ∀ world, P world → P (world.updateConn (·.queueRollback))) :
    call.perform.Keeps P := by
  have batch : ∀ sql, call.Sends (.sqlBatch sql) → (runSqlBatch sql).Keeps P :=
    fun sql sends => flushed.bind fun _ => exchanged _ sends
  have counts : ∀ update : Nat → Nat, (Async.modify (World.updateConn fun conn =>
      { conn with transactionDepth := update conn.transactionDepth }) : Task Unit).Keeps P :=
    fun update => Async.keeps_modify fun world holds =>
      depth (update world.conn.transactionDepth) world holds
  cases call with
  | runSqlBatch sql => exact (batch sql rfl).bind fun _ => Async.keeps_pure _
  | runExecuteSql sql arguments =>
    exact (flushed.bind fun _ => exchanged _ rfl).bind fun _ => Async.keeps_pure _
  | runPrepare sql parameters =>
    refine (flushed.bind fun _ => (exchanged _ (.inl rfl)).bind fun output =>
      (Async.keeps_ofOutcome _).bind fun found => ?_).bind fun _ => Async.keeps_pure _
    split
    next statementId =>
      exact (exchanged _ (.inr ⟨statementId, rfl⟩)).bind fun _ => Async.keeps_pure _
    next => exact Async.keeps_pure _
  | ping => exact flushed.bind fun _ => keeps_stream.bind fun _ => Async.keeps_pure _
  | begin statement =>
    apply Async.keeps_get.bind
    intro world
    refine (batch _ ?_).bind fun _ => counts (· + 1)
    by_cases outermost : world.conn.transactionDepth = 0
    · rw [if_pos outermost]
      exact .inl rfl
    · rw [if_neg outermost]
      exact .inr rfl
  | commit =>
    apply Async.keeps_get.bind
    intro world
    change Async.Keeps P (if world.conn.transactionDepth = 1 then _
      else if 1 < world.conn.transactionDepth then _ else _)
    split_ifs
    · exact (batch _ rfl).bind fun _ => counts (· - 1)
    · exact counts (· - 1)
    · exact Async.keeps_pure _
  | rollback =>
    apply Async.keeps_get.bind
    intro world
    change Async.Keeps P (if world.conn.transactionDepth = 1 then _
      else if 1 < world.conn.transactionDepth then _ else _)
    split_ifs
    · exact (batch _ (.inl rfl)).bind fun _ => counts fun _ => 0
    · exact (batch _ (.inr rfl)).bind fun _ => counts (· - 1)
    · exact Async.keeps_pure _
  | startRollback => exact Async.keeps_modify (queued rfl)

/-- What every exchange keeps, every call keeps. -/
theorem keeps_perform (exchanged : ∀ request, (exchange request).Keeps P)
    (ignores : IgnoresDepth P) (call : Call) : call.perform.Keeps P := by
  refine keeps_call call (keeps_flush exchanged ignores) (fun request _ => exchanged request) ?_ ?_
  · exact fun depth world => ignores depth world.conn.pendingRollbackSql world
  · intro _ world holds
    obtain ⟨depth, pending, changed⟩ := world.conn.queueRollback_changes
    have queued := ignores depth pending world holds
    rwa [World.updateConn, ← changed] at queued

theorem run_keeps (exchanged : ∀ request, (exchange request).Keeps P) (ignores : IgnoresDepth P)
    (calls : List Call) {world : World} (holds : P world) : P (run calls world) := by
  induction calls generalizing world with
  | nil => exact holds
  | cons call calls ih => exact ih ((keeps_perform exchanged ignores call).after holds)

end keeps
end
def answer (payload : Bytes) : Bytes :=
  (PacketHeader.new .tabularResult .endOfMessage
    (UInt16.ofNat (packetHeaderLen + payload.length)) 1).encode ++ payload

def doneBytes : Bytes := [0xfd, 0, 0, 0, 0, 0, 0, 0, 0, 0, 0, 0, 0]

def World.fresh (replies : List Bytes) : World :=
  { conn :=
      { stream := some ⟨.raw, 4096⟩, transactionDepth := 0, transactionDescriptor := 0
        pendingRollbackSql := none }
    link := { fates := [], replies, delivered := [], incoming := [], trace := [] } }

end SqlxSqlserver.Driver

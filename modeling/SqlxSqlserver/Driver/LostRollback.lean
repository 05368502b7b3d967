import SqlxSqlserver.Driver.TransactionDepth

/-! A flush that fails. It takes the statement out of the queue before it sends it, and nothing
puts the statement back. -/

namespace SqlxSqlserver.Driver
open Foundation Protocol

/-- Nothing is queued, and `sql` is not among what was sent behind `start`. -/
def Unsent (sql : String) (start : List Event) (world : World) : Prop :=
  world.conn.pendingRollbackSql = none ∧ ∃ events, world.link.trace = start ++ events ∧
    ∀ bytes, Event.request (.sqlBatch sql) bytes ∉ events

section runs
variable {sql : String} {start : List Event} {world after : World}

theorem Unsent.extend (unsent : Unsent sql start world) {events : List Event}
    (queue : after.conn.pendingRollbackSql = world.conn.pendingRollbackSql)
    (trace : after.link.trace = world.link.trace ++ events)
    (others : ∀ bytes, Event.request (.sqlBatch sql) bytes ∉ events) : Unsent sql start after := by
  obtain ⟨empty, front, recorded, absent⟩ := unsent
  refine ⟨queue.trans empty, front ++ events, ?_, fun bytes there => ?_⟩
  · rw [trace, recorded, List.append_assoc]
  · exact (List.mem_append.mp there).elim (absent bytes) (others bytes)

theorem not_mem_exchange {request : Request} (different : request ≠ .sqlBatch sql)
    (own : Bytes) (message : WireMessage) (bytes : Bytes) :
    Event.request (.sqlBatch sql) bytes ∉ [.request request own, .response message] := by
  simpa using fun same _ => different same.symm

theorem Unanswered.others {request : Request} {events : List Event}
    (unanswered : Unanswered request events) (different : request ≠ .sqlBatch sql) (bytes : Bytes) :
    Event.request (.sqlBatch sql) bytes ∉ events := by
  cases unanswered with
  | unsent => exact List.not_mem_nil
  | unread own => simpa using fun same _ => different same.symm
  | refused own refused => exact not_mem_exchange different own _ bytes

variable [ErrorDisplay]

theorem keeps_unsent_exchange {request : Request} (different : request ≠ .sqlBatch sql) :
    (exchange request).Keeps (Unsent sql start) := by
  intro world unsent
  refine (exchange_answers request world).weaken (fun _ same => same) ?_ ?_ world rfl
  · intro output after accepted
    obtain ⟨bytes, message, _, trace⟩ := accepted.events
    have queue := (applyEnvChanges_depth world.conn output.envChanges).2
    rw [← accepted.conn] at queue
    exact unsent.extend queue trace (not_mem_exchange different bytes message)
  · intro after failed
    obtain ⟨events, unanswered, trace⟩ := failed.events
    exact unsent.extend (congrArg _ failed.conn) trace (unanswered.others different)

theorem keeps_unsent_flush : flushPendingRollback.Keeps (Unsent sql start) := by
  apply Async.triple_inspect
  intro world unsent
  rw [unsent.1]
  exact Async.keeps_pure _

/-- With an empty queue no call sends the statement that does not ask for it. -/
theorem Unsent.run (unsent : Unsent sql start world) (calls : List Call)
    (others : ∀ call ∈ calls, call ≠ .startRollback ∧ ¬call.Sends (.sqlBatch sql)) :
    Unsent sql start (run calls world) := by
  induction calls generalizing world with
  | nil => exact unsent
  | cons call calls ih =>
    obtain ⟨direct, silent⟩ := others call List.mem_cons_self
    have kept : call.perform.Keeps (Unsent sql start) := by
      refine keeps_call call keeps_unsent_flush ?_ (fun _ _ holds => holds) fun queues =>
        absurd queues direct
      intro request sends
      apply keeps_unsent_exchange
      rintro rfl
      exact silent sends
    exact ih (kept.after unsent) fun other member => others other (List.mem_cons_of_mem _ member)

end runs

section failing
variable [ErrorDisplay] {world after : World}

theorem failed_flush {sql : String} {error : Error}
    (queued : world.conn.pendingRollbackSql = some sql)
    (failed : flushPendingRollback world = (.err error, after)) : Failed (.sqlBatch sql)
      (world.updateConn fun conn => { conn with pendingRollbackSql := none }) after := by
  have triple : flushPendingRollback.Triple (· = world) (fun _ _ => True) (Failed (.sqlBatch sql)
      (world.updateConn fun conn => { conn with pendingRollbackSql := none })) := by
    apply Async.triple_inspect
    rintro state rfl
    rw [queued]
    have cleared : (Async.modify (World.updateConn fun conn =>
        { conn with pendingRollbackSql := none }) : Task Unit).Triple (· = state)
        (fun _ => (· = state.updateConn fun conn => { conn with pendingRollbackSql := none }))
        (Failed (.sqlBatch sql)
          (state.updateConn fun conn => { conn with pendingRollbackSql := none })) := by
      rintro _ rfl
      rfl
    have answered := (exchange_answers (.sqlBatch sql)
      (state.updateConn fun conn => { conn with pendingRollbackSql := none })).post
        fun _ _ _ => trivial
    exact cleared.bind fun _ => answered.bind fun _ _ _ => trivial
  have ended := triple world rfl
  rwa [failed] at ended

/-- Whenever a flush fails, no response to the queued statement is accepted, the statement is gone
from the queue, and no later call sends it that neither queues a rollback nor asks for just that
statement. -/
theorem failed_flush_loses_rollback (world after : World) (sql : String) (error : Error)
    (queued : world.conn.pendingRollbackSql = some sql)
    (failed : flushPendingRollback world = (.err error, after)) :
    (∃ events, Unanswered (.sqlBatch sql) events ∧
        after.link.trace = world.link.trace ++ events) ∧
      after.conn.pendingRollbackSql ≠ some sql ∧
      ∀ calls, (∀ call ∈ calls, call ≠ .startRollback ∧ ¬call.Sends (.sqlBatch sql)) →
        ∃ events, (run calls after).link.trace = after.link.trace ++ events ∧
          ∀ bytes, Event.request (.sqlBatch sql) bytes ∉ events := by
  obtain ⟨answers, conn⟩ := failed_flush queued failed
  have empty : after.conn.pendingRollbackSql = none := congrArg _ conn
  have unsent : Unsent sql after.link.trace after :=
    ⟨empty, [], (List.append_nil _).symm, fun _ => List.not_mem_nil⟩
  refine ⟨answers, fun kept => ?_, fun calls others => (unsent.run calls others).2⟩
  rw [empty] at kept
  cases kept

end failing

section samples

def refusedBytes : Bytes :=
  [0xaa, 14, 0, 0x3f, 0x0f, 0, 0, 1, 16, 0, 0, 0, 0, 1, 0, 0, 0] ++ doneBytes

def refusedWorld : World :=
  run [.begin none, .startRollback] (.fresh [answer begunBytes, answer refusedBytes, answer doneBytes])

theorem refusedWorld_flush : ∃ after error,
    flushPendingRollback refusedWorld = (.err error, after) := by
  have refused : (flushPendingRollback refusedWorld).1 =
      .err (.protocol ("failed to parse SQL Server SQL batch response: " ++
        ErrorDisplay.display (.database ⟨3903, 1, 16, "", "", "", 1⟩))) := by
    decide +kernel
  obtain ⟨after, failed⟩ := Async.exists_of_fst refused
  exact ⟨after, _, failed⟩

theorem failed_flush_loses_rollback_dropped : ∃ after error,
    flushPendingRollback refusedWorld = (.err error, after) ∧
    after.conn.pendingRollbackSql ≠ some "ROLLBACK TRANSACTION" ∧
    ∃ events, (run [.runExecuteSql "x" none] after).link.trace = after.link.trace ++ events ∧
      ∀ bytes, Event.request (.sqlBatch "ROLLBACK TRANSACTION") bytes ∉ events := by
  have queued : refusedWorld.conn.pendingRollbackSql = some "ROLLBACK TRANSACTION" := by
    decide +kernel
  obtain ⟨after, error, failed⟩ := refusedWorld_flush
  obtain ⟨_, emptied, unsent⟩ := failed_flush_loses_rollback refusedWorld after _ error queued failed
  refine ⟨after, error, failed, emptied, unsent [.runExecuteSql "x" none] ?_⟩
  simp [Call.Sends, executeRequest]

/-- The server refuses the rollback of a transaction that stays open, and the next query is sent
into it. -/
theorem refused_rollback_not_kept : ∃ after error,
    refusedWorld.conn.pendingRollbackSql = some "ROLLBACK TRANSACTION" ∧
    flushPendingRollback refusedWorld = (.err error, after) ∧
    after.conn.pendingRollbackSql = none ∧ after.conn.transactionDescriptor = 5 ∧
    (run [.runExecuteSql "x" none] after).link.delivered =
      [.sqlBatch "BEGIN TRANSACTION", .sqlBatch "ROLLBACK TRANSACTION", .sqlBatch "x"] := by
  have queued : refusedWorld.conn.pendingRollbackSql = some "ROLLBACK TRANSACTION" := by
    decide +kernel
  have behind : (flushPendingRollback refusedWorld).2.conn.pendingRollbackSql = none ∧
      (flushPendingRollback refusedWorld).2.conn.transactionDescriptor = 5 ∧
      (run [.runExecuteSql "x" none] (flushPendingRollback refusedWorld).2).link.delivered =
        [.sqlBatch "BEGIN TRANSACTION", .sqlBatch "ROLLBACK TRANSACTION", .sqlBatch "x"] := by
    decide +kernel
  obtain ⟨after, error, failed⟩ := refusedWorld_flush
  rw [failed] at behind
  exact ⟨after, error, queued, failed, behind⟩

end samples
end SqlxSqlserver.Driver

import SqlxSqlserver.Driver.Transaction
import SqlxSqlserver.Foundation.Savepoints

/-! Nested transactions over whole runs: what a server makes of the statements of the transaction
manager, against levels that can each be undone. -/

namespace SqlxSqlserver.Driver
open Foundation Protocol

def Request.control : Request → Option (Control String)
  | .sqlBatch sql =>
    if sql = "BEGIN TRANSACTION" then some .begin
    else if sql = "COMMIT TRANSACTION" then some .commit
    else if sql = "ROLLBACK TRANSACTION" then some .rollback
    else match "SAVE TRANSACTION ".toList.isPrefixOf? sql.toList with
      | some name => some (.save (String.ofList name))
      | none => ("ROLLBACK TRANSACTION ".toList.isPrefixOf? sql.toList).map fun name =>
          .rollbackTo (String.ofList name)
  | _ => none

/-- The name that the transaction manager gives to every savepoint. -/
def savepoint : String := "sqlx_savepoint"

/-- The calls of explicit nesting. A write sends no statement of a transaction; without arguments it
is the batch that `run_sql_batch` sends. -/
inductive Explicit where
  | begin
  | commit
  | rollback
  | write (sql : String) (arguments : Option MssqlArguments)
      (plain : (executeRequest sql arguments).control = none)

namespace Explicit
variable {D : Type}

def call : Explicit → Call
  | .begin => .begin none
  | .commit => .commit
  | .rollback => .rollback
  | .write sql arguments _ => .runExecuteSql sql arguments

def step (effect : Request → D → D) : Explicit → Nested.Step D
  | .begin => .begin
  | .commit => .commit
  | .rollback => .rollback
  | .write sql arguments _ => .write (effect (executeRequest sql arguments))

def requests (depth : Nat) : Explicit → List Request
  | .begin =>
    [.sqlBatch (if depth = 0 then "BEGIN TRANSACTION" else "SAVE TRANSACTION sqlx_savepoint")]
  | .commit => if depth = 1 then [.sqlBatch "COMMIT TRANSACTION"] else []
  | .rollback =>
    if depth = 1 then [.sqlBatch "ROLLBACK TRANSACTION"]
    else if 1 < depth then [.sqlBatch "ROLLBACK TRANSACTION sqlx_savepoint"] else []
  | .write sql arguments _ => [executeRequest sql arguments]

def depthAfter (depth : Nat) : Explicit → Nat
  | .begin => depth + 1
  | .commit | .rollback => depth - 1
  | .write _ _ _ => depth

end Explicit

section standing
variable {delivered : List Request} {depth : Nat} {pending : Option String}

/-- What the server has received, and what the connection knows of its transactions. -/
def Standing (delivered : List Request) (depth : Nat) (pending : Option String) (world : World) :
    Prop :=
  world.link.delivered = delivered ∧ world.conn.transactionDepth = depth ∧
    world.conn.pendingRollbackSql = pending

theorem applyEnvChanges_depth (conn : MssqlConnection) (envChanges : List EnvChange) :
    (conn.applyEnvChanges envChanges).transactionDepth = conn.transactionDepth ∧
      (conn.applyEnvChanges envChanges).pendingRollbackSql = conn.pendingRollbackSql := by
  induction envChanges generalizing conn with
  | nil => exact ⟨rfl, rfl⟩
  | cons change envChanges ih =>
    have one : (conn.applyEnvChange change).transactionDepth = conn.transactionDepth ∧
        (conn.applyEnvChange change).pendingRollbackSql = conn.pendingRollbackSql := by
      cases change <;> exact ⟨rfl, rfl⟩
    obtain ⟨sameDepth, samePending⟩ := ih (conn.applyEnvChange change)
    exact ⟨sameDepth.trans one.1, samePending.trans one.2⟩

theorem standing_quiet {α : Type} {action : Task α} (quiet : Quiet action) :
    action.Triple (Standing delivered depth pending)
      (fun _ => Standing delivered depth pending) Anywhere := by
  have kept : action.Keeps (Standing delivered depth pending) := by
    apply quiet.keeps
    intro world after alike holds
    rwa [Standing, alike.delivered, alike.conn]
  exact kept.exits fun _ _ => trivial

variable [ErrorDisplay]

theorem standing_exchange (request : Request) :
    (exchange request).Triple (Standing delivered depth pending)
      (fun _ => Standing (delivered ++ [request]) depth pending) Anywhere := by
  have anywhere : ∀ {P : World → Prop} world, P world → Anywhere world := fun _ _ => trivial
  have sent : ∀ (self : MssqlWireStream) bytes, (self.writeAll request bytes).Triple
      (Standing delivered depth pending)
      (fun _ => Standing (delivered ++ [request]) depth pending) Anywhere := by
    intro self bytes
    refine triple_writeAll self (R := Standing delivered depth pending) (fun _ holds => holds)
      (fun fuel offset => standing_quiet (quiet_writePackets bytes fuel offset)) ?_
      (standing_quiet quiet_awaitWrite) anywhere
    rintro world ⟨rfl, rfl, rfl⟩
    exact ⟨rfl, rfl, rfl⟩
  refine triple_exchange request anywhere (fun world self bytes holds _ =>
    (sent self bytes).pre fun state same => same ▸ holds) ?_
  refine triple_readQueryResponse _ anywhere
    (R := fun _ => Standing (delivered ++ [request]) depth pending) (fun self => ?_)
    (fun _ _ _ _ => trivial) ?_
  · apply Async.triple_look.bind
    intro world
    exact (standing_quiet (quiet_readPackets self _ _ _ _)).bind fun message world holds => holds
  · rintro message output world ⟨sameDelivered, sameDepth, samePending⟩ _ _
    obtain ⟨depths, pendings⟩ := applyEnvChanges_depth world.conn output.envChanges
    exact ⟨sameDelivered, depths.trans sameDepth, pendings.trans samePending⟩

theorem standing_flush : flushPendingRollback.Triple (Standing delivered depth pending)
    (fun _ => Standing (delivered ++ (pending.map Request.sqlBatch).toList) depth none)
    Anywhere := by
  apply Async.triple_inspect
  intro world holds
  rw [holds.2.2]
  cases pending with
  | none =>
    rw [Option.map_none, Option.toList_none, List.append_nil]
    exact fun _ holds => holds
  | some sql =>
    have cleared : (Async.modify (World.updateConn fun conn =>
        { conn with pendingRollbackSql := none }) : Task Unit).Triple
        (Standing delivered depth (some sql)) (fun _ => Standing delivered depth none)
        Anywhere := fun world holds => ⟨holds.1, holds.2.1, rfl⟩
    exact cleared.bind fun _ => (standing_exchange (.sqlBatch sql)).bind fun _ _ holds => holds

theorem standing_batch (sql : String) : (runSqlBatch sql).Triple (Standing delivered depth none)
    (fun _ => Standing (delivered ++ [.sqlBatch sql]) depth none) Anywhere := by
  apply standing_flush.bind
  intro _
  rw [Option.map_none, Option.toList_none, List.append_nil]
  exact standing_exchange (.sqlBatch sql)

/-- A call that returns has delivered its requests, and the connection counts its levels. -/
theorem standing_call (call : Explicit) : call.call.perform.Triple (Standing delivered depth none)
    (fun _ => Standing (delivered ++ call.requests depth) (call.depthAfter depth) none)
    Anywhere := by
  have counted : ∀ {requests : List Request} {after : Nat} {update : MssqlConnection → MssqlConnection},
      (∀ conn, conn.transactionDepth = depth → (update conn).transactionDepth = after ∧
        (update conn).pendingRollbackSql = conn.pendingRollbackSql) →
      (Async.modify (World.updateConn update) : Task Unit).Triple (Standing requests depth none)
        (fun _ => Standing requests after none) Anywhere := by
    rintro requests after update counts world ⟨rfl, same, pending⟩
    obtain ⟨depths, pendings⟩ := counts world.conn same
    exact ⟨rfl, depths, pendings.trans pending⟩
  cases call with
  | write sql arguments plain =>
    refine (standing_flush.bind fun _ => ?_).bind fun _ _ holds => holds
    rw [Option.map_none, Option.toList_none, List.append_nil]
    exact standing_exchange _
  | begin =>
    apply Async.triple_inspect
    intro world holds
    rw [holds.2.1]
    exact (standing_batch _).bind fun _ => counted fun conn same => ⟨congrArg (· + 1) same, rfl⟩
  | commit =>
    apply Async.triple_inspect
    intro world holds
    rw [holds.2.1, Explicit.requests, Explicit.depthAfter]
    by_cases outermost : depth = 1
    · rw [if_pos outermost, if_pos outermost]
      exact (standing_batch _).bind fun _ => counted fun conn same => ⟨congrArg (· - 1) same, rfl⟩
    · rw [if_neg outermost, if_neg outermost, List.append_nil]
      by_cases inner : 1 < depth
      · rw [if_pos inner]
        exact counted fun conn same => ⟨congrArg (· - 1) same, rfl⟩
      · rw [if_neg inner]
        obtain rfl : depth = 0 := by omega
        exact fun _ holds => holds
  | rollback =>
    apply Async.triple_inspect
    intro world holds
    rw [holds.2.1, Explicit.requests, Explicit.depthAfter]
    by_cases outermost : depth = 1
    · obtain rfl := outermost
      exact (standing_batch _).bind fun _ => counted fun conn same => ⟨rfl, rfl⟩
    · rw [if_neg outermost, if_neg outermost]
      by_cases inner : 1 < depth
      · rw [if_pos inner, if_pos inner]
        exact (standing_batch _).bind fun _ => counted fun conn same => ⟨congrArg (· - 1) same, rfl⟩
      · rw [if_neg inner, if_neg inner, List.append_nil]
        obtain rfl : depth = 0 := by omega
        exact fun _ holds => holds

end standing

section server
variable {D : Type} (effect : Request → D → D) (keep : Bool)

def receive (session : Session String D) (request : Request) : Session String D :=
  match request.control with
  | some control => session.control keep control
  | none => session.write (effect request)

def serverSession (start : D) (delivered : List Request) : Session String D :=
  delivered.foldl (receive effect keep) { current := start, transaction := none }

/-- The server makes of the requests of a call what the call's step asks of it. -/
theorem receive_requests (call : Explicit) (depth : Nat) (session : Session String D) :
    (call.requests depth).foldl (receive effect keep) session =
      Nested.perform keep savepoint depth session (call.step effect) := by
  cases call with
  | write sql arguments plain =>
    change receive effect keep session (executeRequest sql arguments) = _
    rw [receive, plain]
    rfl
  | begin =>
    change receive effect keep session (.sqlBatch (if depth = 0 then _ else _)) =
      session.control keep (if depth = 0 then _ else _)
    by_cases outermost : depth = 0
    · rw [if_pos outermost, if_pos outermost]
      rfl
    · rw [if_neg outermost, if_neg outermost]
      rfl
  | commit =>
    rw [Explicit.requests, Explicit.step, Nested.perform]
    by_cases outermost : depth = 1
    · rw [if_pos outermost, if_pos outermost]
      rfl
    · rw [if_neg outermost, if_neg outermost]
      rfl
  | rollback =>
    rw [Explicit.requests, Explicit.step, Nested.perform]
    by_cases outermost : depth = 1
    · rw [if_pos outermost, if_pos outermost]
      rfl
    · rw [if_neg outermost, if_neg outermost]
      by_cases inner : 1 < depth
      · rw [if_pos inner, if_pos inner]
        rfl
      · rw [if_neg inner, if_neg inner]
        rfl

/-- The server's session and the connection's count are those of the reference. -/
structure Simulates (start : D) (nested : Nested D) (world : World) : Prop where
  session : serverSession effect keep start world.link.delivered = nested.session savepoint
  depth : world.conn.transactionDepth = nested.levels.length
  pending : world.conn.pendingRollbackSql = none

variable {effect keep} {start : D}

theorem simulates_fresh {world : World} (fresh : Standing [] 0 none world) :
    Simulates effect keep start ⟨start, []⟩ world := by
  obtain ⟨delivered, depth, pending⟩ := fresh
  exact ⟨by rw [delivered]; rfl, depth, pending⟩

variable [ErrorDisplay]

def Succeeds : List Call → World → Prop
  | [], _ => True
  | call :: calls, world =>
    (call.perform world).1 = .ok () ∧ Succeeds calls (call.perform world).2

instance decidableSucceeds : ∀ calls world, Decidable (Succeeds calls world)
  | [], _ => .isTrue trivial
  | call :: calls, world =>
    have := decidableSucceeds calls (call.perform world).2
    inferInstanceAs (Decidable (_ ∧ _))

/-- A call that returns follows its step, where the reference can undo it. -/
theorem Simulates.call {nested : Nested D} {world : World}
    (simulates : Simulates effect keep start nested world) (call : Explicit)
    (succeeded : (call.call.perform world).1 = .ok ())
    (undoable : nested.Undoable (call.step effect)) :
    Simulates effect keep start (nested.step keep (call.step effect)) (call.call.perform world).2 := by
  obtain ⟨after, returned⟩ := Async.exists_of_fst succeeded
  obtain ⟨delivered, depth, pending⟩ :=
    (standing_call call).ok ⟨rfl, simulates.depth, simulates.pending⟩ returned
  rw [returned]
  refine ⟨?_, depth.trans ?_, pending⟩
  · have behind := Nested.perform_session keep savepoint nested (call.step effect) undoable
    rw [← receive_requests, ← simulates.session] at behind
    rw [← behind, delivered, serverSession, List.foldl_append]
    rfl
  · rw [Nested.step_depth]
    cases call <;> rfl

theorem Simulates.run {nested : Nested D} {world : World}
    (simulates : Simulates effect keep start nested world) (calls : List Explicit)
    (succeeded : Succeeds (calls.map Explicit.call) world)
    (undoable : nested.AllUndoable keep (calls.map (Explicit.step effect))) :
    Simulates effect keep start (nested.run keep (calls.map (Explicit.step effect)))
      (Driver.run (calls.map Explicit.call) world) := by
  induction calls generalizing nested world with
  | nil => exact simulates
  | cons call calls ih =>
    exact ih (simulates.call call succeeded.1 undoable.1) succeeded.2 undoable.2

variable (effect keep start)

/-- In every run of explicit nesting from a fresh connection whose calls all return, and whose
rollbacks are all undoable, the database is in the state of the reference, and the depth is the
number of its open levels. -/
theorem nested_calls_simulate {world : World} (fresh : Standing [] 0 none world)
    (calls : List Explicit) (succeeded : Succeeds (calls.map Explicit.call) world)
    (undoable : Nested.AllUndoable keep ⟨start, []⟩ (calls.map (Explicit.step effect))) :
    (serverSession effect keep start
        (Driver.run (calls.map Explicit.call) world).link.delivered).current =
      (Nested.run keep ⟨start, []⟩ (calls.map (Explicit.step effect))).current ∧
    (Driver.run (calls.map Explicit.call) world).conn.transactionDepth =
      (Nested.run keep ⟨start, []⟩ (calls.map (Explicit.step effect))).levels.length := by
  have simulates := (simulates_fresh fresh).run calls succeeded undoable
  exact ⟨by rw [simulates.session]; rfl, simulates.depth⟩

end server

section samples

def countWrites (_ : Request) (count : Nat) : Nat := count + 1

def writeOnce : Explicit := .write "x" none (by decide)

def undoneInner : List Explicit := [.begin, writeOnce, .begin, writeOnce, .rollback, .commit]

theorem nested_calls_simulate_undoneInner :
    (serverSession countWrites false 0 (run (undoneInner.map Explicit.call)
        (.fresh (List.replicate 6 (answer doneBytes)))).link.delivered).current = 1 ∧
    (run (undoneInner.map Explicit.call)
        (.fresh (List.replicate 6 (answer doneBytes)))).conn.transactionDepth = 0 :=
  nested_calls_simulate countWrites false 0 ⟨rfl, rfl, rfl⟩ undoneInner (by decide +kernel)
    ⟨trivial, trivial, trivial, trivial, nofun, trivial, trivial⟩

def committedInner : List Explicit := [.begin, .begin, writeOnce, .begin, .commit, .rollback]

/-- The rollback finds the mark of the committed level, and leaves the write in place. -/
theorem committed_level_misleads_rollback :
    Succeeds (committedInner.map Explicit.call)
      (.fresh (List.replicate 5 (answer doneBytes))) ∧
    (∀ keep, (serverSession countWrites keep 0 (run (committedInner.map Explicit.call)
        (.fresh (List.replicate 5 (answer doneBytes)))).link.delivered).current = 1) ∧
    ∀ keep, (Nested.run keep ⟨0, []⟩
        (committedInner.map (Explicit.step countWrites))).current = 0 := by
  decide +kernel

end samples
end SqlxSqlserver.Driver

import SqlxSqlserver.Driver.Descriptor
import SqlxSqlserver.Driver.NestedTransaction
import SqlxSqlserver.Driver.Pairing

/-! The depth and the descriptor over whole runs. The calls move the depth, and the responses move
the descriptor, of which the driver applies those it can parse. -/

namespace SqlxSqlserver.Driver
open Foundation Protocol

section responses

def behindChanges (descriptor : UInt64) (envChanges : List EnvChange) : UInt64 :=
  envChanges.foldl (fun descriptor change => establish descriptor (.envChange change)) descriptor

theorem applyEnvChanges_behind (conn : MssqlConnection) (envChanges : List EnvChange) :
    (conn.applyEnvChanges envChanges).transactionDescriptor =
      behindChanges conn.transactionDescriptor envChanges := by
  induction envChanges generalizing conn with
  | nil => rfl
  | cons change envChanges ih =>
    have step : (conn.applyEnvChange change).transactionDescriptor =
        establish conn.transactionDescriptor (.envChange change) := by
      cases change <;> rfl
    rw [behindChanges, List.foldl_cons, ← step]
    exact ih (conn.applyEnvChange change)

def WireMessage.accepted (self : WireMessage) : Option (List EnvChange) :=
  if self.packetType = .tabularResult then
    match parseQueryResponse self.payload with
    | .ok output => some output.envChanges
    | _ => none
  else none

/-- An accepted response reports what its statement does: a transaction is open behind
`BEGIN TRANSACTION`, none is behind `COMMIT TRANSACTION` and `ROLLBACK TRANSACTION`, and one is
behind every other statement exactly when one was before it. -/
def Request.Reports (self : Request) (before after : UInt64) : Prop :=
  match self.control with
  | some .begin => after ≠ 0
  | some .commit | some .rollback => after = 0
  | _ => after = 0 ↔ before = 0

def holdEvent (descriptor : UInt64) : Event → UInt64
  | .request _ _ => descriptor
  | .response message => (message.accepted.map (behindChanges descriptor)).getD descriptor

def held (trace : List Event) : UInt64 := trace.foldl holdEvent 0

/-- Every accepted response, to the request right before it, reports what its statement does. -/
def AllReport (trace : List Event) : Prop :=
  ∀ before request bytes message after envChanges,
    trace = before ++ .request request bytes :: .response message :: after →
    message.accepted = some envChanges →
    request.Reports (held before) (behindChanges (held before) envChanges)

theorem AllReport.front {trace events : List Event} (report : AllReport (trace ++ events)) :
    AllReport trace := by
  rintro before request bytes message after envChanges rfl accepted
  refine report before request bytes message (after ++ events) envChanges ?_ accepted
  rw [List.append_assoc, List.cons_append, List.cons_append]

inductive Unanswered (request : Request) : List Event → Prop where
  | unsent : Unanswered request []
  | unread (bytes : Bytes) : Unanswered request [.request request bytes]
  | refused (bytes : Bytes) {message : WireMessage} (refused : message.accepted = none) :
      Unanswered request [.request request bytes, .response message]

theorem Unanswered.held {request : Request} {events : List Event}
    (unanswered : Unanswered request events) (trace : List Event) :
    held (trace ++ events) = held trace := by
  rw [Driver.held, List.foldl_append]
  cases unanswered with
  | unsent => rfl
  | unread bytes => rfl
  | @refused bytes message refused =>
    change (message.accepted.map (behindChanges (Driver.held trace))).getD (Driver.held trace) = _
    rw [refused]
    rfl

theorem held_accepted {message : WireMessage} {envChanges : List EnvChange}
    (accepted : message.accepted = some envChanges) (trace : List Event) (request : Request)
    (bytes : Bytes) : held (trace ++ [.request request bytes, .response message]) =
      behindChanges (held trace) envChanges := by
  rw [held, List.foldl_append]
  change (message.accepted.map (behindChanges (held trace))).getD (held trace) = _
  rw [accepted]
  rfl

end responses

section exchanges
variable {request : Request} {world after : World}

structure Accepted (request : Request) (world : World) (output : QueryOutput) (after : World) :
    Prop where
  events : ∃ bytes message, message.accepted = some output.envChanges ∧
    after.link.trace = world.link.trace ++ [.request request bytes, .response message]
  conn : after.conn = world.conn.applyEnvChanges output.envChanges

structure Failed (request : Request) (world after : World) : Prop where
  events : ∃ events, Unanswered request events ∧
    after.link.trace = world.link.trace ++ events
  conn : after.conn = world.conn

def At (conn : MssqlConnection) (trace : List Event) (world : World) : Prop :=
  world.conn = conn ∧ world.link.trace = trace

theorem keeps_at {α : Type} {action : Task α} (quiet : Quiet action) (conn : MssqlConnection)
    (trace : List Event) : action.Keeps (At conn trace) :=
  quiet.keeps fun _ _ alike holds => ⟨alike.conn.trans holds.1, alike.trace.trans holds.2⟩

theorem at_readMessage (self : MssqlWireStream) (conn : MssqlConnection) (trace : List Event) :
    self.readMessage.Triple (At conn trace)
      (fun message => At conn (trace ++ [.response message])) (At conn trace) := by
  apply Async.triple_look.bind
  intro _
  apply Async.Triple.bind (keeps_at (quiet_readPackets self _ _ _ _) conn trace)
  intro message world holds
  exact ⟨holds.1, congrArg (· ++ [Event.response message]) holds.2⟩

variable [ErrorDisplay]

theorem exchange_answers (request : Request) (world : World) :
    (exchange request).Triple (· = world) (Accepted request world) (Failed request world) := by
  have failed : ∀ {events after}, Unanswered request events →
      At world.conn (world.link.trace ++ events) after → Failed request world after :=
    fun unanswered holds => ⟨⟨_, unanswered, holds.2⟩, holds.1⟩
  have unsent : ∀ after, after = world → Failed request world after := by
    rintro after rfl
    exact failed .unsent ⟨rfl, (List.append_nil _).symm⟩
  apply triple_exchange (R := fun after => ∃ bytes,
    At world.conn (world.link.trace ++ [.request request bytes]) after) request unsent
  · rintro state self bytes rfl _
    have unread : ∀ after, At state.conn (state.link.trace ++ [.request request bytes]) after →
        Failed request state after := fun _ => failed (.unread bytes)
    have recorded : (Async.modify (World.record (.request request bytes)) : Task Unit).Triple
        (· = state) (fun _ => At state.conn (state.link.trace ++ [.request request bytes]))
        (Failed request state) := by
      rintro after rfl
      exact ⟨rfl, rfl⟩
    have delivered : (Async.modify (World.deliver request) : Task Unit).Triple
        (At state.conn (state.link.trace ++ [.request request bytes]))
        (fun _ => At state.conn (state.link.trace ++ [.request request bytes]))
        (Failed request state) := fun _ holds => holds
    exact (triple_writeAll self recorded
      (fun fuel offset => (keeps_at (quiet_writePackets bytes fuel offset) _ _).exits unread)
      delivered ((keeps_at quiet_awaitWrite _ _).exits unread) unsent).post
        fun _ _ holds => ⟨bytes, holds⟩
  · apply Async.triple_exists
    intro bytes
    apply triple_readQueryResponse (R := fun message => At world.conn
      (world.link.trace ++ [.request request bytes] ++ [.response message]))
    · exact fun _ => failed (.unread bytes)
    · exact fun self => (at_readMessage self _ _).exits fun _ => failed (.unread bytes)
    · intro message after holds refused
      rw [At, List.append_assoc] at holds
      refine failed (.refused bytes ?_) holds
      unfold WireMessage.accepted
      split
      next tabular =>
        split
        next output parsed => exact absurd parsed (refused tabular output)
        next => rfl
      next => rfl
    · intro message output after holds tabular parsed
      rw [At, List.append_assoc] at holds
      have accepted : message.accepted = some output.envChanges := by
        rw [WireMessage.accepted, if_pos tabular, parsed]
      exact ⟨⟨bytes, message, accepted, holds.2⟩,
        congrArg (MssqlConnection.applyEnvChanges · output.envChanges) holds.1⟩

end exchanges

section knowledge
variable {request : Request} {world after : World} {C C' : MssqlConnection → Prop}

/-- The connection holds what the accepted responses have established, and it is in `C` as long as
they report what their statements do. -/
def Knows (C : MssqlConnection → Prop) (world : World) : Prop :=
  world.conn.transactionDescriptor = held world.link.trace ∧
    (AllReport world.link.trace → C world.conn)

theorem Knows.weaken (knows : Knows C world) (weaker : ∀ conn, C conn → C' conn) : Knows C' world :=
  ⟨knows.1, fun report => weaker _ (knows.2 report)⟩

theorem Knows.accepted {output : QueryOutput} (knows : Knows C world)
    (accepted : Accepted request world output after)
    (step : C world.conn → request.Reports world.conn.transactionDescriptor
      after.conn.transactionDescriptor → C' after.conn) : Knows C' after := by
  obtain ⟨⟨bytes, message, changes, trace⟩, conn⟩ := accepted
  have behind : after.conn.transactionDescriptor =
      behindChanges (held world.link.trace) output.envChanges := by
    rw [conn, applyEnvChanges_behind, knows.1]
  rw [Knows, trace, held_accepted changes]
  refine ⟨behind, fun report => ?_⟩
  have reports := report world.link.trace request bytes message [] output.envChanges rfl changes
  rw [← behind, ← knows.1] at reports
  exact step (knows.2 report.front) reports

theorem Knows.failed (knows : Knows C world) (failed : Failed request world after) :
    Knows C after := by
  obtain ⟨⟨events, unanswered, trace⟩, conn⟩ := failed
  rw [Knows, conn, trace, unanswered.held]
  exact ⟨knows.1, fun report => knows.2 report.front⟩

theorem Knows.update (knows : Knows C world) {update : MssqlConnection → MssqlConnection}
    (same : (update world.conn).transactionDescriptor = world.conn.transactionDescriptor)
    (step : C world.conn → C' (update world.conn)) : Knows C' (world.updateConn update) :=
  ⟨same.trans knows.1, fun report => step (knows.2 report)⟩

variable [ErrorDisplay]

theorem knows_exchange (request : Request)
    (step : ∀ conn envChanges, C conn → request.Reports conn.transactionDescriptor
        (conn.applyEnvChanges envChanges).transactionDescriptor →
      C' (conn.applyEnvChanges envChanges)) :
    (exchange request).Triple (Knows C) (fun _ => Knows C') (Knows C) := by
  intro world knows
  refine (exchange_answers request world).weaken (fun _ same => same) ?_ ?_ world rfl
  · intro output after accepted
    apply knows.accepted accepted
    rw [accepted.conn]
    exact step world.conn output.envChanges
  · exact fun after failed => knows.failed failed

end knowledge

section tracking
variable {world after : World} {depth : Nat}

def Request.Ordinary (self : Request) : Prop :=
  match self.control with
  | some .begin | some .commit | some .rollback => False
  | _ => True

theorem Request.Ordinary.reports_iff {request : Request} (ordinary : request.Ordinary)
    {before after : UInt64} : request.Reports before after ↔ (after = 0 ↔ before = 0) := by
  unfold Request.Ordinary at ordinary
  unfold Request.Reports
  split at ordinary
  next => exact ordinary.elim
  next => exact ordinary.elim
  next => exact ordinary.elim
  next => exact Iff.rfl

/-- What may be queued at a depth and a descriptor. -/
inductive InTrack : Option String → Nat → UInt64 → Prop where
  | settled {depth : Nat} {descriptor : UInt64} (same : depth = 0 ↔ descriptor = 0) :
      InTrack none depth descriptor
  | whole {descriptor : UInt64} : InTrack (some "ROLLBACK TRANSACTION") 0 descriptor
  | inner {depth : Nat} {descriptor : UInt64} (inside : depth ≠ 0) (opened : descriptor ≠ 0) :
      InTrack (some "ROLLBACK TRANSACTION sqlx_savepoint") depth descriptor

theorem InTrack.outermost {sql : String} {depth : Nat} {descriptor : UInt64}
    (track : InTrack (some sql) depth descriptor) (whole : sql = "ROLLBACK TRANSACTION") :
    depth = 0 := by
  cases track with
  | whole => rfl
  | inner inside opened => exact absurd whole (by decide)

theorem InTrack.lower {pending : Option String} {depth : Nat} {descriptor : UInt64}
    (track : InTrack pending depth descriptor) (inner : 1 < depth) :
    InTrack pending (depth - 1) descriptor := by
  cases track with
  | settled same =>
    have opened := same.not.mp (by omega)
    exact .settled (iff_of_false (by omega) opened)
  | whole => omega
  | inner inside opened => exact .inner (by omega) opened

theorem InTrack.answered {sql : String} {depth : Nat} {before after : UInt64}
    (track : InTrack (some sql) depth before)
    (reports : (Request.sqlBatch sql).Reports before after) : depth = 0 ↔ after = 0 := by
  cases track with
  | whole => exact iff_of_true rfl reports
  | inner inside opened =>
    have ordinary : (Request.sqlBatch "ROLLBACK TRANSACTION sqlx_savepoint").Ordinary := trivial
    exact iff_of_false inside (opened ∘ (ordinary.reports_iff.mp reports).mp)

theorem InTrack.unanswered {sql : String} {depth : Nat} {descriptor : UInt64}
    (track : InTrack (some sql) depth descriptor) (inner : sql ≠ "ROLLBACK TRANSACTION") :
    depth = 0 ↔ descriptor = 0 := by
  cases track with
  | whole => exact absurd rfl inner
  | inner inside opened => exact iff_of_false inside opened

/-- The invariant between two calls. -/
def Tracked (conn : MssqlConnection) : Prop :=
  InTrack conn.pendingRollbackSql conn.transactionDepth conn.transactionDescriptor

structure Settled (depth : Nat) (conn : MssqlConnection) : Prop where
  pending : conn.pendingRollbackSql = none
  counts : conn.transactionDepth = depth
  same : depth = 0 ↔ conn.transactionDescriptor = 0

theorem Settled.tracked {conn : MssqlConnection} (settled : Settled depth conn) : Tracked conn := by
  rw [Tracked, settled.pending, settled.counts]
  exact .settled settled.same

/-- An ordinary exchange keeps the connection settled exactly when its response reports what the
statement does. -/
theorem Settled.ordinary_iff {request : Request} (ordinary : request.Ordinary)
    {conn : MssqlConnection} {envChanges : List EnvChange} (settled : Settled depth conn) :
    Settled depth (conn.applyEnvChanges envChanges) ↔ request.Reports conn.transactionDescriptor
      (conn.applyEnvChanges envChanges).transactionDescriptor := by
  rw [ordinary.reports_iff]
  constructor
  · exact fun after => after.same.symm.trans settled.same
  · intro reports
    have ⟨counts, pending⟩ := applyEnvChanges_depth conn envChanges
    exact ⟨pending.trans settled.pending, counts.trans settled.counts,
      settled.same.trans reports.symm⟩

def FlushFailed (world after : World) : Prop :=
  world.conn.pendingRollbackSql = some "ROLLBACK TRANSACTION" ∧
    Failed (.sqlBatch "ROLLBACK TRANSACTION")
      (world.updateConn fun conn => { conn with pendingRollbackSql := none }) after

theorem tracked_startRollback (knows : Knows Tracked world) :
    MssqlTransactionManager.startRollback.Triple (· = world) (fun _ => Knows Tracked)
      (Knows Tracked) := by
  rintro state rfl
  refine knows.update ?_ fun tracked => ?_
  · obtain ⟨depth, pending, changed⟩ := state.conn.queueRollback_changes
    rw [changed]
  · rw [MssqlConnection.queueRollback]
    split
    next => exact tracked
    next => exact .whole
    next depth counts =>
      rw [Tracked, counts] at tracked
      refine .inner (Nat.succ_ne_zero depth) ?_
      generalize state.conn.pendingRollbackSql = pending at tracked
      cases tracked with
      | settled same => exact same.not.mp (Nat.succ_ne_zero _)
      | inner inside opened => exact opened

theorem FlushFailed.untracked (lost : FlushFailed world after)
    (opened : world.conn.transactionDescriptor ≠ 0) (outside : world.conn.transactionDepth = 0) :
    ¬Tracked after.conn := by
  intro tracked
  rw [Tracked, lost.2.conn] at tracked
  change InTrack none world.conn.transactionDepth world.conn.transactionDescriptor at tracked
  cases tracked with
  | settled same => exact opened (same.mp outside)

theorem knows_modify {C : MssqlConnection → Prop} {E : World → Prop}
    {update : MssqlConnection → MssqlConnection}
    (same : ∀ conn, (update conn).transactionDescriptor = conn.transactionDescriptor)
    (step : ∀ conn, C conn → Tracked (update conn)) :
    (Async.modify (World.updateConn update) : Task Unit).Triple (Knows C) (fun _ => Knows Tracked) E :=
  fun world knows => knows.update (same world.conn) (step world.conn)

theorem FlushFailed.tracked (lost : FlushFailed world after) (knows : Knows Tracked world)
    (inside : world.conn.transactionDepth ≠ 0) : Knows Tracked after := by
  obtain ⟨queued, failed⟩ := lost
  have nothing : Knows (fun _ => False) world := by
    refine ⟨knows.1, fun report => ?_⟩
    have tracked := knows.2 report
    rw [Tracked, queued] at tracked
    exact inside (tracked.outermost rfl)
  have cleared : Knows (fun _ => False) (world.updateConn fun conn =>
      { conn with pendingRollbackSql := none }) := nothing.update rfl id
  exact (cleared.failed failed).weaken fun _ impossible => impossible.elim

theorem triple_inside {α : Type} {action : Task α} {Q : α → World → Prop}
    (triple : action.Triple (· = world) Q
      (fun after => Knows Tracked after ∨ FlushFailed world after))
    (knows : Knows Tracked world) (inside : world.conn.transactionDepth ≠ 0) :
    action.Triple (· = world) Q (Knows Tracked) := by
  apply triple.exits
  intro after ended
  rcases ended with kept | lost
  · exact kept
  · exact lost.tracked knows inside

variable [ErrorDisplay]

/-- A flush settles the connection, unless it loses the rollback of the whole transaction. -/
theorem flush_settles (knows : Knows Tracked world) :
    flushPendingRollback.Triple (· = world)
      (fun _ => Knows (Settled world.conn.transactionDepth))
      (fun after => Knows Tracked after ∨ FlushFailed world after) := by
  apply Async.triple_inspect
  rintro state rfl
  cases queued : state.conn.pendingRollbackSql with
  | none =>
    rintro after rfl
    refine ⟨knows.1, fun report => ⟨queued, rfl, ?_⟩⟩
    have tracked := knows.2 report
    rw [Tracked, queued] at tracked
    cases tracked with
    | settled same => exact same
  | some sql =>
    let cleared := state.updateConn fun conn => { conn with pendingRollbackSql := none }
    have taken : Knows (fun conn => conn.pendingRollbackSql = none ∧
        conn.transactionDepth = state.conn.transactionDepth ∧
        InTrack (some sql) conn.transactionDepth conn.transactionDescriptor) cleared :=
      knows.update rfl fun tracked => ⟨rfl, rfl, queued ▸ tracked⟩
    have clears : (Async.modify (World.updateConn fun conn =>
        { conn with pendingRollbackSql := none }) : Task Unit).Triple (· = state)
        (fun _ after => after = cleared)
        (fun after => Knows Tracked after ∨ FlushFailed state after) := by
      rintro _ rfl
      rfl
    refine clears.bind fun _ => ((exchange_answers (.sqlBatch sql) cleared).weaken
      (fun _ same => same) (fun output after accepted => ?_) fun after failed => ?_).bind
        fun output => fun _ holds => holds
    · apply taken.accepted accepted
      rintro ⟨pending, counts, track⟩ reports
      have ⟨sameCounts, samePending⟩ := applyEnvChanges_depth cleared.conn output.envChanges
      rw [← accepted.conn] at sameCounts samePending
      rw [counts] at track
      exact ⟨samePending.trans pending, sameCounts.trans counts, track.answered reports⟩
    · by_cases whole : sql = "ROLLBACK TRANSACTION"
      · exact .inr ⟨whole ▸ queued, whole ▸ failed⟩
      · refine .inl ((taken.failed failed).weaken ?_)
        rintro conn ⟨pending, _, track⟩
        rw [Tracked, pending]
        exact .settled (track.unanswered whole)

/-- A request behind a flush. -/
theorem flushed_exchange (knows : Knows Tracked world) {C : MssqlConnection → Prop}
    {request : Request}
    (step : ∀ conn envChanges, Settled world.conn.transactionDepth conn →
      request.Reports conn.transactionDescriptor
        (conn.applyEnvChanges envChanges).transactionDescriptor →
      C (conn.applyEnvChanges envChanges)) :
    (do flushPendingRollback; exchange request : Task QueryOutput).Triple (· = world)
      (fun _ => Knows C) (fun after => Knows Tracked after ∨ FlushFailed world after) :=
  (flush_settles knows).bind fun _ => (knows_exchange request step).exits fun _ holds =>
    .inl (holds.weaken fun _ settled => settled.tracked)

theorem flushed_ordinary (knows : Knows Tracked world) {request : Request}
    (ordinary : request.Ordinary) :
    (do flushPendingRollback; exchange request : Task QueryOutput).Triple (· = world)
      (fun _ => Knows (Settled world.conn.transactionDepth))
      (fun after => Knows Tracked after ∨ FlushFailed world after) :=
  flushed_exchange knows fun _ _ settled reports => (settled.ordinary_iff ordinary).mpr reports

end tracking

section calls
variable [ErrorDisplay] {world : World}

def Call.Ordinary : Call → Prop
  | .runSqlBatch sql => (Request.sqlBatch sql).Ordinary
  | .runExecuteSql sql arguments => (executeRequest sql arguments).Ordinary
  | .begin statement => statement = none
  | .runPrepare _ _ | .ping | .commit | .rollback | .startRollback => True

def Call.Flushes : Call → Prop
  | .commit | .rollback | .startRollback => False
  | _ => True

theorem tracked_begin (knows : Knows Tracked world) :
    (MssqlTransactionManager.begin none).Triple (· = world) (fun _ => Knows Tracked)
      (fun after => Knows Tracked after ∨ FlushFailed world after) := by
  apply Async.triple_inspect
  rintro state rfl
  refine (flushed_exchange (C := fun conn => conn.pendingRollbackSql = none ∧
    conn.transactionDescriptor ≠ 0) knows fun conn envChanges settled reports => ?_).bind fun _ =>
      knows_modify (fun _ => rfl) fun conn opened => ?_
  · refine ⟨(applyEnvChanges_depth conn envChanges).2.trans settled.pending, ?_⟩
    by_cases outermost : state.conn.transactionDepth = 0
    · rw [Option.getD_none, if_pos outermost] at reports
      exact reports
    · rw [Option.getD_none, if_neg outermost] at reports
      have ordinary : (Request.sqlBatch "SAVE TRANSACTION sqlx_savepoint").Ordinary := trivial
      exact ((settled.ordinary_iff ordinary).mpr reports).same.not.mp outermost
  · change InTrack conn.pendingRollbackSql (conn.transactionDepth + 1) conn.transactionDescriptor
    rw [opened.1]
    exact .settled (iff_of_false (Nat.succ_ne_zero _) opened.2)

theorem tracked_close {sql : String} {update : MssqlConnection → MssqlConnection}
    (knows : Knows Tracked world) (outermost : world.conn.transactionDepth = 1)
    (closes : ∀ before after, (Request.sqlBatch sql).Reports before after → after = 0)
    (updates : ∀ conn, conn.transactionDepth = 1 →
      update conn = { conn with transactionDepth := 0 })
    (same : ∀ conn, (update conn).transactionDescriptor = conn.transactionDescriptor) :
    (do let _ ← runSqlBatch sql
        Async.modify (World.updateConn update) : Task Unit).Triple (· = world)
      (fun _ => Knows Tracked) (Knows Tracked) := by
  refine triple_inside ((flushed_exchange (C := fun conn => conn.pendingRollbackSql = none ∧
    conn.transactionDepth = 1 ∧ conn.transactionDescriptor = 0) knows
      fun conn envChanges settled reports => ?_).bind fun _ =>
        knows_modify same fun conn closed => ?_) knows (by omega)
  · have ⟨counts, pending⟩ := applyEnvChanges_depth conn envChanges
    exact ⟨pending.trans settled.pending, counts.trans (settled.counts.trans outermost),
      closes _ _ reports⟩
  · rw [updates conn closed.2.1]
    change InTrack conn.pendingRollbackSql 0 conn.transactionDescriptor
    rw [closed.1, closed.2.2]
    exact .settled (iff_of_true rfl rfl)

theorem tracked_commit (knows : Knows Tracked world) :
    MssqlTransactionManager.commit.Triple (· = world) (fun _ => Knows Tracked) (Knows Tracked) := by
  apply Async.triple_inspect
  rintro state rfl
  by_cases outermost : state.conn.transactionDepth = 1
  · rw [if_pos outermost]
    exact tracked_close knows outermost (fun _ _ reports => reports)
      (fun conn one => by rw [MssqlConnection.decrementTransactionDepth, one]) fun _ => rfl
  · rw [if_neg outermost]
    by_cases inner : 1 < state.conn.transactionDepth
    · rw [if_pos inner]
      rintro _ rfl
      exact knows.update rfl fun tracked => InTrack.lower tracked inner
    · rw [if_neg inner]
      rintro _ rfl
      exact knows

theorem tracked_rollback (knows : Knows Tracked world) :
    MssqlTransactionManager.rollback.Triple (· = world) (fun _ => Knows Tracked)
      (Knows Tracked) := by
  apply Async.triple_inspect
  rintro state rfl
  by_cases outermost : state.conn.transactionDepth = 1
  · rw [if_pos outermost]
    exact tracked_close knows outermost (fun _ _ reports => reports) (fun _ _ => rfl) fun _ => rfl
  · rw [if_neg outermost]
    by_cases inner : 1 < state.conn.transactionDepth
    · rw [if_pos inner]
      have lowered : (Async.modify (World.updateConn (·.decrementTransactionDepth)) :
          Task Unit).Triple (Knows (Settled state.conn.transactionDepth))
          (fun _ => Knows Tracked) fun after => Knows Tracked after ∨ FlushFailed state after :=
        knows_modify (fun _ => rfl) fun conn settled =>
          InTrack.lower settled.tracked (settled.counts ▸ inner)
      have ordinary : (Request.sqlBatch "ROLLBACK TRANSACTION sqlx_savepoint").Ordinary := trivial
      exact triple_inside ((flushed_ordinary knows ordinary).bind fun _ => lowered) knows (by omega)
    · rw [if_neg inner]
      rintro _ rfl
      exact knows

theorem tracked_prepare (knows : Knows Tracked world) (sql : String)
    (parameters : List MssqlTypeInfo) :
    (runPrepare sql parameters).Triple (· = world)
      (fun _ => Knows (Settled world.conn.transactionDepth))
      (fun after => Knows Tracked after ∨ FlushFailed world after) := by
  have settled : ∀ {after : World}, Knows (Settled world.conn.transactionDepth) after →
      Knows Tracked after ∨ FlushFailed world after :=
    fun holds => .inl (holds.weaken fun _ settled => settled.tracked)
  have exchanged : ∀ request : Request, request.Ordinary → (exchange request).Triple
      (Knows (Settled world.conn.transactionDepth))
      (fun _ => Knows (Settled world.conn.transactionDepth))
      (fun after => Knows Tracked after ∨ FlushFailed world after) := fun request ordinary =>
    (knows_exchange request fun _ _ tracked reports =>
      (tracked.ordinary_iff ordinary).mpr reports).exits fun _ => settled
  refine (flush_settles knows).bind fun _ => (exchanged (.prepare _ _) trivial).bind fun output =>
    (Async.triple_ofOutcome _ fun _ => settled).bind fun found => Async.triple_known fun _ => ?_
  split
  · exact (exchanged (.unprepare _) trivial).bind fun _ => fun _ holds => holds
  · exact fun _ holds => holds

/-- A call keeps track, unless it loses the rollback of the whole transaction in its flush. -/
theorem tracked_call (knows : Knows Tracked world) {call : Call} (ordinary : call.Ordinary) :
    call.perform.Triple (· = world) (fun _ => Knows Tracked)
      (fun after => Knows Tracked after ∨ call.Flushes ∧ FlushFailed world after) := by
  have flushes : ∀ {after : World}, Knows Tracked after ∨ FlushFailed world after →
      Knows Tracked after ∨ True ∧ FlushFailed world after :=
    fun ended => ended.imp_right fun lost => ⟨trivial, lost⟩
  have settles : ∀ {α : Type} {action : Task α}, action.Triple (· = world)
        (fun _ => Knows (Settled world.conn.transactionDepth))
        (fun after => Knows Tracked after ∨ FlushFailed world after) →
      action.Triple (· = world) (fun _ => Knows Tracked)
        (fun after => Knows Tracked after ∨ True ∧ FlushFailed world after) := by
    intro α action settled
    apply settled.weaken (fun _ same => same)
    · exact fun _ _ holds => holds.weaken fun _ settled => settled.tracked
    · exact fun _ => flushes
  cases call with
  | runSqlBatch sql =>
    exact (settles (flushed_ordinary knows ordinary)).bind fun _ _ holds => holds
  | runExecuteSql sql arguments =>
    exact (settles (flushed_ordinary knows ordinary)).bind fun _ _ holds => holds
  | runPrepare sql parameters =>
    exact (settles (tracked_prepare knows sql parameters)).bind fun _ _ holds => holds
  | ping =>
    exact (settles (flush_settles knows)).bind fun _ =>
      (triple_stream fun _ => .inl).bind fun _ _ holds => holds
  | begin statement =>
    cases ordinary
    exact (tracked_begin knows).exits fun _ => flushes
  | commit => exact (tracked_commit knows).exits fun _ => .inl
  | rollback => exact (tracked_rollback knows).exits fun _ => .inl
  | startRollback => exact (tracked_startRollback knows).exits fun _ => .inl

/-- If the call flushes a queued `ROLLBACK TRANSACTION`, it sends the statement and reads a response
that the driver accepts. -/
def Call.FlushAnswered (self : Call) (world : World) : Prop :=
  world.conn.pendingRollbackSql = some "ROLLBACK TRANSACTION" → self.Flushes →
    ∃ bytes message envChanges rest, message.accepted = some envChanges ∧
      (self.perform world).2.link.trace = world.link.trace ++
        .request (.sqlBatch "ROLLBACK TRANSACTION") bytes :: .response message :: rest

theorem Call.FlushAnswered.not_failed {call : Call} (answered : call.FlushAnswered world)
    (flushes : call.Flushes) : ¬FlushFailed world (call.perform world).2 := by
  intro ⟨queued, ⟨events, unanswered, recorded⟩, _⟩
  obtain ⟨bytes, message, envChanges, rest, accepted, trace⟩ := answered queued flushes
  obtain rfl := List.append_cancel_left (recorded.symm.trans trace)
  cases unanswered with
  | refused bytes refused => exact nomatch refused.symm.trans accepted

def AllAnswered : List Call → World → Prop
  | [], _ => True
  | call :: calls, world =>
    call.FlushAnswered world ∧ AllAnswered calls (call.perform world).2

theorem run_tracks (calls : List Call) (knows : Knows Tracked world)
    (ordinary : ∀ call ∈ calls, call.Ordinary) (answered : AllAnswered calls world) :
    Knows Tracked (run calls world) := by
  induction calls generalizing world with
  | nil => exact knows
  | cons call calls ih =>
    have either : call.perform.Triple (· = world)
        (fun _ after => Knows Tracked after ∨ call.Flushes ∧ FlushFailed world after)
        (fun after => Knows Tracked after ∨ call.Flushes ∧ FlushFailed world after) :=
      (tracked_call knows (ordinary call List.mem_cons_self)).post fun _ _ => .inl
    have tracked := (either.after rfl).resolve_right fun lost =>
      answered.1.not_failed lost.1 lost.2
    exact ih tracked (fun other member => ordinary other (List.mem_cons_of_mem _ member)) answered.2

/-- In every run of ordinary calls whose accepted responses report what their statements do, and
whose flushes are all answered, the depth is 0 exactly when the descriptor is, as long as no
rollback is queued. -/
theorem depth_tracks_descriptor (start : world.link.trace = [])
    (depth : world.conn.transactionDepth = 0) (descriptor : world.conn.transactionDescriptor = 0)
    (empty : world.conn.pendingRollbackSql = none) (calls : List Call)
    (ordinary : ∀ call ∈ calls, call.Ordinary)
    (report : AllReport (run calls world).link.trace) (answered : AllAnswered calls world)
    (settled : (run calls world).conn.pendingRollbackSql = none) :
    (run calls world).conn.transactionDepth = 0 ↔
      (run calls world).conn.transactionDescriptor = 0 := by
  have initial : Knows Tracked world := by
    rw [Knows, Tracked, start, depth, descriptor, empty]
    exact ⟨rfl, fun _ => .settled (iff_of_true rfl rfl)⟩
  have tracked := (run_tracks calls initial ordinary answered).2 report
  rw [Tracked, settled] at tracked
  cases tracked with
  | settled same => exact same

end calls

section server

def ofTransaction : EnvChange → Bool
  | .beginTransaction _ | .commitTransaction _ | .rollbackTransaction _ => true
  | _ => false

def transactionChanges (tokens : List ResponseToken) : List EnvChange :=
  (envChangesOf tokens).filter ofTransaction

theorem behind_ofTransaction (envChanges : List EnvChange) (descriptor : UInt64) :
    behindChanges descriptor (envChanges.filter ofTransaction) =
      behindChanges descriptor envChanges := by
  induction envChanges generalizing descriptor with
  | nil => rfl
  | cons change envChanges ih => cases change <;> exact ih _

/-- What the server reports to a request while the descriptor of its transaction, 0 for none, is the
given one. At any time it may roll the transaction back by itself. -/
inductive ServerReports (request : Request) (failed : Prop) : UInt64 → List EnvChange → Prop where
  | opened {new : UInt64} (asked : request.control = some .begin) (nonzero : new ≠ 0) :
      ServerReports request failed 0 [.beginTransaction new]
  | committed {descriptor : UInt64} (old : UInt64) (asked : request.control = some .commit)
      (inside : descriptor ≠ 0) : ServerReports request failed descriptor [.commitTransaction old]
  | rolledBack {descriptor : UInt64} (old : UInt64) (inside : descriptor ≠ 0) :
      ServerReports request failed descriptor [.rollbackTransaction old]
  | openedInVain {new : UInt64} (old : UInt64) (asked : request.control = some .begin)
      (nonzero : new ≠ 0) :
      ServerReports request failed 0 [.beginTransaction new, .rollbackTransaction old]
  | nothing {descriptor : UInt64} (quiet : failed ∨ request.Ordinary ∨
      request.control = some .begin ∧ descriptor ≠ 0) : ServerReports request failed descriptor []

/-- The server rolled the transaction back without being asked to end it. -/
def ClosesByItself (request : Request) (envChanges : List EnvChange) : Prop :=
  request.control ≠ some .commit ∧ request.control ≠ some .rollback ∧
    ∃ old, .rollbackTransaction old ∈ envChanges

theorem ServerReports.reports_iff {request : Request} {failed : Prop} {descriptor : UInt64}
    {envChanges : List EnvChange} (server : ServerReports request failed descriptor envChanges)
    (succeeded : ¬failed) : request.Reports descriptor (behindChanges descriptor envChanges) ↔
      ¬ClosesByItself request envChanges := by
  unfold Request.Reports ClosesByItself
  cases server with
  | opened asked nonzero =>
    rw [asked]
    simpa [behindChanges, establish] using nonzero
  | committed old asked inside =>
    rw [asked]
    simp [behindChanges, establish]
  | rolledBack old inside => split <;> simp_all [behindChanges, establish]
  | openedInVain old asked nonzero =>
    rw [asked]
    simp [behindChanges, establish]
  | nothing quiet =>
    rcases quiet with impossible | ordinary | ⟨asked, inside⟩
    · exact absurd impossible succeeded
    · unfold Request.Ordinary at ordinary
      split <;> simp_all [behindChanges]
    · rw [asked]
      simpa [behindChanges] using inside

theorem WireMessage.of_accepted {message : WireMessage} {envChanges : List EnvChange}
    (accepted : message.accepted = some envChanges) :
    ∃ output, parseQueryResponse message.payload = .ok output ∧ output.envChanges = envChanges := by
  unfold WireMessage.accepted at accepted
  split at accepted
  · split at accepted
    next output parsed => exact ⟨output, parsed, Option.some.inj accepted⟩
    next => cases accepted
  · cases accepted

/-- A response of the server that is accepted, over the descriptor it answers, reports what its
statement does exactly when the server did not close the transaction by itself. -/
theorem accepted_reports_iff {message : WireMessage} {tokens : List ResponseToken}
    {request : Request} {descriptor : UInt64} {envChanges : List EnvChange}
    (stream : IsStream [] tokens message.payload) (accepted : message.accepted = some envChanges)
    (server : ServerReports request (∃ error, .error error ∈ tokens) descriptor
      (transactionChanges tokens)) :
    request.Reports descriptor (behindChanges descriptor envChanges) ↔
      ¬ClosesByItself request (transactionChanges tokens) := by
  obtain ⟨output, parsed, rfl⟩ := WireMessage.of_accepted accepted
  have ⟨supported, changes⟩ := parseQueryResponse_of_stream stream parsed
  rw [changes, ← behind_ofTransaction]
  exact server.reports_iff fun ⟨error, member⟩ => supported _ member

def Serves : UInt64 → List (Request × List ResponseToken) → Prop
  | _, [] => True
  | descriptor, (request, tokens) :: rest =>
    ServerReports request (∃ error, .error error ∈ tokens) descriptor
      (transactionChanges tokens) ∧
      Serves (behindChanges descriptor (transactionChanges tokens)) rest

/-- The script of a run: the requests that were delivered, each with the tokens of its reply. -/
structure Served [ErrorDisplay] (world : World) (calls : List Call)
    (script : List (Request × List ResponseToken)) : Prop where
  delivered : (run calls world).link.delivered = script.map Prod.fst
  replies : List.Forall₂ (fun reply exchange => ∃ payload, IsMessage reply payload ∧
    IsStream [] exchange.2 payload) world.link.replies script
  serves : Serves 0 script

end server

section samples

def closedBytes : Bytes := [0xe3, 11, 0, 10, 0, 8, 5, 0, 0, 0, 0, 0, 0, 0] ++ (doneBytes ++ [])

theorem closed_isStream :
    IsStream [] [.envChange (.rollbackTransaction 1288), doneToken] closedBytes :=
  .cons (.envChange (Read.local_readLenPrefixed.reads rfl) rfl) (done_isStream _)

theorem begun_accepted : (WireMessage.mk .tabularResult begunBytes).accepted =
    some [.beginTransaction 5] := by
  decide +kernel

theorem closed_accepted : (WireMessage.mk .tabularResult closedBytes).accepted =
    some [.rollbackTransaction 1288] := by
  decide +kernel

def begunAndDropped : List Call := [.begin none, .startRollback, .ping]

theorem dropped_trace :
    (run begunAndDropped (.fresh [answer begunBytes, answer closedBytes])).link.trace =
      [sent (.sqlBatch "BEGIN TRANSACTION") 0, responded begunBytes,
        sent (.sqlBatch "ROLLBACK TRANSACTION") 5, responded closedBytes] := by
  decide +kernel

theorem dropped_report : AllReport
    (run begunAndDropped (.fresh [answer begunBytes, answer closedBytes])).link.trace := by
  rw [dropped_trace]
  intro before request bytes message after envChanges split accepted
  rcases before with _ | ⟨first, _ | ⟨second, _ | ⟨third, before⟩⟩⟩
  · simp only [List.nil_append, List.cons.injEq, sent, responded, Event.request.injEq,
      Event.response.injEq] at split
    obtain ⟨⟨rfl, _⟩, rfl, _⟩ := split
    cases begun_accepted.symm.trans accepted
    exact (by decide : (5 : UInt64) ≠ 0)
  · simp [responded] at split
  · simp only [List.cons_append, List.nil_append, List.cons.injEq, sent, responded,
      Event.request.injEq, Event.response.injEq] at split
    obtain ⟨_, _, ⟨rfl, _⟩, rfl, _⟩ := split
    cases closed_accepted.symm.trans accepted
    rfl
  · have longer := congrArg List.length split
    simp only [List.length_append, List.length_cons, List.length_nil] at longer
    omega

theorem dropped_answered : AllAnswered begunAndDropped
    (.fresh [answer begunBytes, answer closedBytes]) := by
  have front : (run [.begin none, .startRollback]
      (.fresh [answer begunBytes, answer closedBytes])).link.trace =
      [sent (.sqlBatch "BEGIN TRANSACTION") 0, responded begunBytes] := by
    decide +kernel
  obtain ⟨bytes, same⟩ : ∃ bytes, sent (.sqlBatch "ROLLBACK TRANSACTION") 5 =
      .request (.sqlBatch "ROLLBACK TRANSACTION") bytes := ⟨_, rfl⟩
  refine And.intro (fun queued => nomatch queued) (And.intro (fun _ flushes => flushes.elim)
    (And.intro (fun _ _ => ⟨bytes, _, _, [], closed_accepted, ?_⟩) trivial))
  change (run begunAndDropped _).link.trace = (run [.begin none, .startRollback] _).link.trace ++ _
  rw [dropped_trace, front, same]
  rfl

theorem depth_tracks_descriptor_dropped :
    (run begunAndDropped (.fresh [answer begunBytes, answer closedBytes])).conn.transactionDepth =
        0 ↔
      (run begunAndDropped
        (.fresh [answer begunBytes, answer closedBytes])).conn.transactionDescriptor = 0 := by
  apply depth_tracks_descriptor rfl rfl rfl rfl begunAndDropped _ dropped_report dropped_answered
  · decide +kernel
  · intro call member
    simp only [begunAndDropped, List.mem_cons, List.not_mem_nil, or_false] at member
    rcases member with rfl | rfl | rfl
    · exact rfl
    · exact trivial
    · exact trivial

def begunAndClosed : List Call := [.begin none, .runExecuteSql "x" none]

def closingScript : List (Request × List ResponseToken) :=
  [(.sqlBatch "BEGIN TRANSACTION", [.envChange (.beginTransaction 5), doneToken]),
    (.sqlBatch "x", [.envChange (.rollbackTransaction 1288), doneToken])]

theorem closing_served : Served (.fresh [answer begunBytes, answer closedBytes]) begunAndClosed
    closingScript where
  delivered := by decide +kernel
  replies := .cons ⟨_, answer_isMessage (by decide), begun_isStream⟩
    (.cons ⟨_, answer_isMessage (by decide), closed_isStream⟩ .nil)
  serves := ⟨.opened rfl (by decide), .rolledBack 1288 (by decide), trivial⟩

/-- A run behind which the depth is 1 and the descriptor 0. -/
theorem closed_transaction_untracked :
    ¬∀ (world : World) (calls : List Call) (script : List (Request × List ResponseToken)),
      world.link.trace = [] → world.conn.transactionDepth = 0 →
      world.conn.transactionDescriptor = 0 → world.conn.pendingRollbackSql = none →
      (∀ call ∈ calls, call.Ordinary) → Served world calls script →
      (run calls world).conn.pendingRollbackSql = none →
      ((run calls world).conn.transactionDepth = 0 ↔
        (run calls world).conn.transactionDescriptor = 0) := by
  intro claim
  have ordinary : ∀ call ∈ begunAndClosed, call.Ordinary := by
    intro call member
    rcases List.mem_pair.mp member with rfl | rfl
    · exact rfl
    · exact trivial
  have depth : (run begunAndClosed
      (.fresh [answer begunBytes, answer closedBytes])).conn.transactionDepth = 1 := by
    decide +kernel
  have descriptor : (run begunAndClosed
      (.fresh [answer begunBytes, answer closedBytes])).conn.transactionDescriptor = 0 := by
    decide +kernel
  have same := claim (.fresh [answer begunBytes, answer closedBytes]) begunAndClosed closingScript
    rfl rfl rfl rfl ordinary closing_served (by decide +kernel)
  rw [depth, descriptor] at same
  exact absurd (same.mpr rfl) (by decide)

end samples

end SqlxSqlserver.Driver

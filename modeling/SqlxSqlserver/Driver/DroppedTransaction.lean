import SqlxSqlserver.Driver.NestedTransaction

/-! Transactions that are dropped: each queues a rollback, and the next operation flushes the
queue. The queue has room for one statement. -/

namespace SqlxSqlserver.Driver
open Foundation Protocol

/-- The statement that is queued when this many levels stay open. -/
def queuedSql (depth : Nat) : String :=
  if depth = 0 then "ROLLBACK TRANSACTION" else "ROLLBACK TRANSACTION sqlx_savepoint"

/-- The calls that open levels and write in them. -/
def Explicit.Opens : Explicit → Prop
  | .begin | .write _ _ _ => True
  | .commit | .rollback => False

def Explicit.isBegin : Explicit → Bool
  | .begin => true
  | _ => false

section levels
variable {D : Type} (effect : Request → D → D) (keep : Bool)

theorem opened_levels (nested : Nested D) (calls : List Explicit)
    (opens : ∀ call ∈ calls, call.Opens) (clean : ∀ level ∈ nested.levels, level.left = []) :
    nested.AllUndoable keep (calls.map (Explicit.step effect)) ∧
    (∀ level ∈ (nested.run keep (calls.map (Explicit.step effect))).levels, level.left = []) ∧
    (nested.run keep (calls.map (Explicit.step effect))).levels.length =
      nested.levels.length + calls.countP Explicit.isBegin := by
  induction calls generalizing nested with
  | nil => exact ⟨trivial, clean, rfl⟩
  | cons call calls ih =>
    have here := opens call List.mem_cons_self
    have behind := fun other there => opens other (List.mem_cons_of_mem call there)
    cases call with
    | commit => exact here.elim
    | rollback => exact here.elim
    | write sql arguments plain =>
      obtain ⟨undoable, cleans, length⟩ :=
        ih (nested.step keep (.write (effect (executeRequest sql arguments)))) behind clean
      exact ⟨⟨trivial, undoable⟩, cleans, length⟩
    | begin =>
      have opened : ∀ level ∈ (nested.step keep .begin).levels, level.left = [] := by
        intro level there
        rcases List.mem_cons.mp there with rfl | outer
        · rfl
        · exact clean level outer
      obtain ⟨undoable, cleans, length⟩ := ih (nested.step keep .begin) behind opened
      refine ⟨⟨trivial, undoable⟩, cleans, length.trans ?_⟩
      change nested.levels.length + 1 + calls.countP Explicit.isBegin = _
      rw [List.countP_cons_of_pos rfl, Nat.add_assoc, Nat.add_comm 1]

theorem receive_queued {nested : Nested D} {innermost outermost : Level D} (clean : innermost.left = [])
    (first : nested.levels.head? = some innermost)
    (last : nested.levels.getLast? = some outermost) (depth : Nat)
    (fewer : depth < nested.levels.length) :
    (receive effect keep (nested.session savepoint) (.sqlBatch (queuedSql depth))).current =
      if depth = 0 then outermost.base else innermost.base := by
  obtain ⟨current, levels⟩ := nested
  by_cases all : depth = 0
  · rw [queuedSql, if_pos all, if_pos all]
    obtain ⟨marks, transaction⟩ := Nested.transaction_start savepoint last
    change ((Session.mk current (Nested.transaction savepoint levels)).control keep
      .rollback).current = outermost.base
    rw [transaction]
    rfl
  · rw [queuedSql, if_neg all, if_neg all]
    match levels, first, fewer with
    | level :: next :: outer, first, _ =>
      obtain rfl : level = innermost := Option.some.inj first
      have undone := Nested.perform_session keep savepoint ⟨current, level :: next :: outer⟩
        .rollback (fun state newest => by rw [clean] at newest; cases newest)
      exact congrArg Session.current undone
    | [level], _, fewer => exact absurd (Nat.lt_one_iff.mp fewer) all

end levels

section dropping
variable [ErrorDisplay] {delivered : List Request}

/-- Every drop lowers the depth, and its statement replaces the one that was queued before. -/
theorem standing_dropped {depth drops : Nat} {pending : Option String} {world : World}
    (standing : Standing delivered (depth + drops + 1) pending world) :
    Standing delivered depth (some (queuedSql depth))
      (run (List.replicate (drops + 1) .startRollback) world) := by
  induction drops generalizing pending world with
  | zero =>
    obtain ⟨rfl, count, _⟩ := standing
    change Standing _ _ _ (world.updateConn (·.queueRollback))
    cases depth <;> rw [World.updateConn, MssqlConnection.queueRollback, count] <;>
      exact ⟨rfl, rfl, rfl⟩
  | succ drops ih =>
    obtain ⟨rfl, count, _⟩ := standing
    have lowered : Standing world.link.delivered (depth + drops + 1)
        (some "ROLLBACK TRANSACTION sqlx_savepoint") (world.updateConn (·.queueRollback)) := by
      rw [World.updateConn, MssqlConnection.queueRollback, count]
      exact ⟨rfl, rfl, rfl⟩
    exact ih lowered

theorem Simulates.flushed {D : Type} {effect : Request → D → D} {keep : Bool} {start : D}
    {nested : Nested D} {world after : World} {innermost outermost : Level D} {kept drops : Nat}
    (simulates : Simulates effect keep start nested world) (clean : innermost.left = [])
    (first : nested.levels.head? = some innermost)
    (last : nested.levels.getLast? = some outermost)
    (length : nested.levels.length = kept + drops + 1)
    (flushed : flushPendingRollback
      (Driver.run (List.replicate (drops + 1) .startRollback) world) = (.ok (), after)) :
    (serverSession effect keep start after.link.delivered).current =
        (if kept = 0 then outermost.base else innermost.base) ∧
      after.conn.transactionDepth = kept := by
  have standing : Standing world.link.delivered (kept + drops + 1) none world :=
    ⟨rfl, simulates.depth.trans length, simulates.pending⟩
  obtain ⟨delivered, depth, _⟩ := standing_flush.ok (standing_dropped standing) flushed
  have fewer : kept < nested.levels.length := by omega
  have restored := receive_queued effect keep clean first last kept fewer
  rw [← simulates.session, serverSession] at restored
  rw [delivered, serverSession, List.foldl_append]
  exact ⟨restored, depth⟩

/-- From a fresh connection, let calls that all return open `d` levels and write in them, and drop
the innermost `k`. Once the queue has been flushed, the depth is `d - k`; the database is back at
the begin of the outermost dropped level just when the whole transaction was dropped, or that level
began in the same state as the innermost one. -/
theorem dropped_levels_undone_iff {D : Type} (effect : Request → D → D) (keep : Bool) (start : D)
    {world after : World} (fresh : Standing [] 0 none world) (calls : List Explicit)
    (opens : ∀ call ∈ calls, call.Opens) (succeeded : Succeeds (calls.map Explicit.call) world)
    {k : Nat} (dropped : 1 ≤ k) (most : k ≤ calls.countP Explicit.isBegin)
    (flushed : flushPendingRollback (run (List.replicate k .startRollback)
      (run (calls.map Explicit.call) world)) = (.ok (), after)) :
    ∃ outermost innermost,
      (Nested.run keep ⟨start, []⟩ (calls.map (Explicit.step effect))).levels[k - 1]? =
        some outermost ∧
      (Nested.run keep ⟨start, []⟩ (calls.map (Explicit.step effect))).levels[0]? =
        some innermost ∧
      ((serverSession effect keep start after.link.delivered).current = outermost.base ∧
          after.conn.transactionDepth = calls.countP Explicit.isBegin - k ↔
        k = calls.countP Explicit.isBegin ∨ outermost.base = innermost.base) := by
  obtain ⟨undoable, clean, count⟩ := opened_levels effect keep ⟨start, []⟩ calls opens nofun
  have simulates := (simulates_fresh fresh).run calls succeeded undoable
  have length : (Nested.run keep ⟨start, []⟩ (calls.map (Explicit.step effect))).levels.length =
      calls.countP Explicit.isBegin := count.trans (Nat.zero_add _)
  generalize Nested.run keep ⟨start, []⟩ (calls.map (Explicit.step effect)) = nested at *
  generalize calls.countP Explicit.isBegin = d at *
  obtain ⟨drops, rfl⟩ : ∃ drops, k = drops + 1 := ⟨k - 1, by omega⟩
  obtain ⟨kept, rfl⟩ : ∃ kept, d = kept + drops + 1 := ⟨d - (drops + 1), by omega⟩
  have innermost := List.getElem?_eq_getElem (l := nested.levels) (i := 0) (by omega)
  have outermost := List.getElem?_eq_getElem (l := nested.levels) (i := drops) (by omega)
  have last := List.getElem?_eq_getElem (l := nested.levels) (i := kept + drops) (by omega)
  have behind : nested.levels.getLast? = nested.levels[kept + drops]? := by
    rw [List.getLast?_eq_getElem?, length, Nat.add_sub_cancel]
  refine ⟨_, _, outermost, innermost, ?_⟩
  obtain ⟨restored, depth⟩ := simulates.flushed (clean _ (List.getElem_mem _))
    (List.head?_eq_getElem?.trans innermost) (behind.trans last) length flushed
  rw [restored, depth]
  by_cases all : kept = 0
  · subst all
    simp
  · have fewer : drops + 1 ≠ kept + drops + 1 := by omega
    have left : kept = kept + drops + 1 - (drops + 1) := by omega
    rw [if_neg all, ← left]
    simp only [and_true, fewer, false_or]
    exact eq_comm

end dropping

section samples

def threeLevels : List Explicit := [.begin, .begin, writeOnce, .begin]

/-- All levels are dropped, and all are undone. -/
theorem dropped_levels_undone_iff_all : ∃ after,
    flushPendingRollback (run (List.replicate 3 .startRollback) (run (threeLevels.map Explicit.call)
      (.fresh (List.replicate 5 (answer doneBytes))))) = (.ok (), after) ∧
    (serverSession countWrites false 0 after.link.delivered).current = 0 ∧
    after.conn.transactionDepth = 0 := by
  have returned : (flushPendingRollback (run (List.replicate 3 .startRollback)
      (run (threeLevels.map Explicit.call)
        (.fresh (List.replicate 5 (answer doneBytes)))))).1 = .ok () := by
    decide +kernel
  obtain ⟨after, flushed⟩ := Async.exists_of_fst returned
  obtain ⟨outermost, innermost, first, _, undone⟩ :=
    dropped_levels_undone_iff countWrites false 0 ⟨rfl, rfl, rfl⟩ threeLevels
      (by simp [threeLevels, writeOnce, Explicit.Opens]) (by decide +kernel) (by decide)
      (by decide) flushed
  obtain ⟨restored, depth⟩ := undone.mpr (.inl rfl)
  cases first
  exact ⟨after, flushed, restored, depth⟩

/-- The two inner levels are dropped, and the write made in the outer one of them stays. -/
theorem dropped_levels_keep_write : ∃ after,
    Succeeds (threeLevels.map Explicit.call) (.fresh (List.replicate 5 (answer doneBytes))) ∧
    flushPendingRollback (run (List.replicate 2 .startRollback) (run (threeLevels.map Explicit.call)
      (.fresh (List.replicate 5 (answer doneBytes))))) = (.ok (), after) ∧
    ∀ keep, (serverSession countWrites keep 0 after.link.delivered).current = 1 ∧
      (Nested.run keep ⟨0, []⟩ (threeLevels.map (Explicit.step countWrites))).levels[1]? =
        some ⟨0, []⟩ := by
  have returned : (flushPendingRollback (run (List.replicate 2 .startRollback)
      (run (threeLevels.map Explicit.call)
        (.fresh (List.replicate 5 (answer doneBytes)))))).1 = .ok () := by
    decide +kernel
  have sent : (flushPendingRollback (run (List.replicate 2 .startRollback)
      (run (threeLevels.map Explicit.call)
        (.fresh (List.replicate 5 (answer doneBytes)))))).2.link.delivered =
      [.sqlBatch "BEGIN TRANSACTION", .sqlBatch "SAVE TRANSACTION sqlx_savepoint", .sqlBatch "x",
        .sqlBatch "SAVE TRANSACTION sqlx_savepoint",
        .sqlBatch "ROLLBACK TRANSACTION sqlx_savepoint"] := by
    decide +kernel
  obtain ⟨after, flushed⟩ := Async.exists_of_fst returned
  rw [flushed] at sent
  refine ⟨after, by decide +kernel, flushed, fun keep => ⟨?_, ?_⟩⟩
  · rw [sent]
    cases keep <;> decide +kernel
  · cases keep <;> rfl

end samples
end SqlxSqlserver.Driver

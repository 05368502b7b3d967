import SqlxSqlserver.Driver.Migrations

/-! What migrations leave in the database. A run stops between two of them, or where the one it
stopped in may stop. -/

namespace SqlxSqlserver.Driver
open Foundation Protocol

section server
variable {D : Type} (effect : Request → D → D) (keep : Bool) (start : D)

def effects (requests : List Request) (state : D) : D :=
  requests.foldl (fun state request => effect request state) state

theorem effects_append (first second : List Request) (state : D) :
    effects effect (first ++ second) state = effects effect second (effects effect first state) :=
  List.foldl_append ..

def Request.PlainStatement (self : Request) : Prop := self.control = none

instance (self : Request) : Decidable self.PlainStatement := inferInstanceAs (Decidable (_ = _))

theorem receive_plain {requests : List Request} (plain : ∀ request ∈ requests, request.PlainStatement)
    (session : Session String D) : requests.foldl (receive effect keep) session =
      { session with current := effects effect requests session.current } := by
  induction requests generalizing session with
  | nil => rfl
  | cons request requests ih =>
    have here : receive effect keep session request = session.write (effect request) := by
      rw [receive, plain request List.mem_cons_self]
    rw [List.foldl_cons, here, ih fun other there => plain other (List.mem_cons_of_mem _ there)]
    rfl

theorem serverSession_append (delivered more : List Request) :
    serverSession effect keep start (delivered ++ more) =
      more.foldl (receive effect keep) (serverSession effect keep start delivered) :=
  List.foldl_append ..

def Rests (state : D) (world : World) : Prop :=
  ∃ delivered, Standing delivered 0 none world ∧
    serverSession effect keep start delivered = ⟨state, none⟩

variable {effect keep start} {delivered : List Request} {before : D}

section change

/-- What a migration asks of the server: its text and its row, which belong together, and what
follows them. -/
structure Change where
  body : List Request
  after : List Request
  noTx : Bool
  plain : ∀ request ∈ body ++ after, request.PlainStatement

namespace Change
variable (change : Change)

def whole (effect : Request → D → D) (before : D) : D :=
  effects effect (change.body ++ change.after) before

/-- The states that the change can leave when it does not end: within a transaction all of the body
or nothing of it. -/
def Leaves (effect : Request → D → D) (before state : D) : Prop :=
  if change.noTx then
    ∃ sent, sent <+: change.body ++ change.after ∧ state = effects effect sent before
  else state = before ∨
    ∃ sent, sent <+: change.after ∧ state = effects effect (change.body ++ sent) before

theorem body_plain : ∀ request ∈ change.body, request.PlainStatement :=
  fun request there => change.plain request (List.mem_append_left _ there)

variable {change}

theorem served_plain (session : serverSession effect keep start delivered = ⟨before, none⟩)
    {sent : List Request} (plain : ∀ request ∈ sent, request.PlainStatement) :
    serverSession effect keep start (delivered ++ sent) = ⟨effects effect sent before, none⟩ := by
  rw [serverSession_append, session, receive_plain effect keep plain]

theorem served_begun (session : serverSession effect keep start delivered = ⟨before, none⟩)
    {sent : List Request} (plain : ∀ request ∈ sent, request.PlainStatement) :
    serverSession effect keep start (delivered ++ Request.begin :: sent) =
      ⟨effects effect sent before, some ⟨before, []⟩⟩ := by
  have opened : receive effect keep ⟨before, none⟩ .begin = ⟨before, some ⟨before, []⟩⟩ := rfl
  rw [serverSession_append, session, List.foldl_cons, opened, receive_plain effect keep plain]

theorem served_committed (session : serverSession effect keep start delivered = ⟨before, none⟩)
    {sent : List Request} (plain : ∀ request ∈ sent, request.PlainStatement) :
    serverSession effect keep start (delivered ++ Request.begin :: sent ++ [.commit]) =
      ⟨effects effect sent before, none⟩ := by
  rw [serverSession_append, served_begun session plain]
  rfl

/-- The queued rollback undoes what was begun and not committed, and finds nothing to undo behind a
commit. -/
theorem served_leftOpen (session : serverSession effect keep start delivered = ⟨before, none⟩)
    {requests sent : List Request} (plain : ∀ request ∈ requests, request.PlainStatement)
    (early : sent <+: requests ++ [.commit]) :
    let last := (serverSession effect keep start
      (delivered ++ Request.begin :: sent ++ [.rollback])).current
    last = before ∨ last = effects effect requests before := by
  intro last
  rcases List.prefix_concat_iff.mp early with rfl | inside
  · have behind := served_committed session plain
    have same : last = effects effect requests before := by
      change (serverSession effect keep start _).current = _
      rw [serverSession_append, ← List.cons_append, ← List.append_assoc, behind]
      rfl
    exact .inr same
  · have quiet : ∀ request ∈ sent, request.PlainStatement :=
      fun request there => plain request (inside.subset there)
    have same : last = before := by
      change (serverSession effect keep start _).current = _
      rw [serverSession_append, served_begun session quiet]
      rfl
    exact .inl same

end Change
end change

section runs
variable [ErrorDisplay]

/-- Once a queued rollback is flushed, the database is in one of these states. -/
def Settles (effect : Request → D → D) (keep : Bool) (start : D) (states : D → Prop) (world : World) : Prop :=
  ∀ last, flushPendingRollback world = (.ok (), last) →
    states (serverSession effect keep start last.link.delivered).current

theorem settles_of_standing {states : D → Prop} {depth : Nat} {pending : Option String}
    {world : World} (standing : Standing delivered depth pending world)
    (holds : states (serverSession effect keep start
      (delivered ++ (pending.map Request.sqlBatch).toList)).current) :
    Settles effect keep start states world := by
  intro last flushed
  obtain ⟨same, _⟩ := standing_flush.ok standing flushed
  rwa [same]

namespace Change
variable {change : Change} {α : Type}

def perform (change : Change) (body : Async MigrateError World Unit)
    (after : Async MigrateError World α) : Async MigrateError World α := do
  if change.noTx then body else Migrate.inTransaction body
  after

theorem perform_bare {body : Async MigrateError World Unit} {after : Async MigrateError World α}
    (bare : change.noTx = true) (delivers : Delivers change.body body)
    (follows : Delivers change.after after) :
    (change.perform body after).Triple (Rests effect keep start before)
      (fun _ => Rests effect keep start (change.whole effect before))
      (Settles effect keep start (change.Leaves effect before)) := by
  intro world rests
  obtain ⟨delivered, standing, session⟩ := rests
  rw [perform, if_pos bare]
  refine ((delivers.bind fun _ => follows) delivered 0).weaken (fun _ holds => holds) ?_ ?_ world
    standing
  · intro _ last standing
    exact ⟨_, standing, served_plain session change.plain⟩
  · intro last begun
    obtain ⟨sent, early, standing⟩ := begun
    refine settles_of_standing standing ?_
    have plain : ∀ request ∈ sent, request.PlainStatement :=
      fun request there => change.plain request (early.subset there)
    rw [Option.map_none, Option.toList_none, List.append_nil, served_plain session plain, Leaves,
      if_pos bare]
    exact ⟨sent, early, rfl⟩

theorem perform_transacted {body : Async MigrateError World Unit}
    {after : Async MigrateError World α} (transacted : change.noTx ≠ true)
    (delivers : Delivers change.body body) (follows : Delivers change.after after) :
    (change.perform body after).Triple (Rests effect keep start before)
      (fun _ => Rests effect keep start (change.whole effect before))
      (Settles effect keep start (change.Leaves effect before)) := by
  intro world rests
  obtain ⟨delivered, standing, session⟩ := rests
  rw [perform, if_neg transacted]
  have committed := served_committed session change.body_plain
  refine (((inTransaction_delivers delivers).exits ?_).bind fun _ =>
    (follows _ 0).weaken (fun _ holds => holds) ?_ ?_) world standing
  · intro last ended
    rcases ended with ⟨sent, early, standing⟩ | ⟨sent, early, standing⟩
    · refine settles_of_standing standing ?_
      rw [Option.map_none, Option.toList_none, List.append_nil, Leaves, if_neg transacted]
      rcases List.prefix_concat_iff.mp (show sent <+: [] ++ [.begin] from early) with rfl | none
      · have quiet : ∀ request ∈ ([] : List Request), request.PlainStatement := by simp
        exact .inl (congrArg Session.current (served_begun session quiet))
      · obtain rfl := List.prefix_nil.mp none
        rw [List.append_nil, session]
        exact .inl rfl
    · refine settles_of_standing standing ?_
      rw [Leaves, if_neg transacted]
      refine (served_leftOpen session change.body_plain early).imp_right fun same => ?_
      exact ⟨[], List.nil_prefix, by rwa [List.append_nil]⟩
  · intro _ last standing
    refine ⟨_, standing, ?_⟩
    rw [served_plain committed fun request there => change.plain request
      (List.mem_append_right _ there), whole, effects_append]
  · intro last begun
    obtain ⟨sent, early, standing⟩ := begun
    refine settles_of_standing standing ?_
    have plain : ∀ request ∈ sent, request.PlainStatement := fun request there =>
      change.plain request (List.mem_append_right _ (early.subset there))
    rw [Option.map_none, Option.toList_none, List.append_nil, served_plain committed plain, Leaves,
      if_neg transacted]
    exact .inr ⟨sent, early, (effects_append ..).symm⟩

/-- A change that ends with a value is there as a whole, and one that ends otherwise leaves what a
change of its kind can leave. -/
theorem perform_settles {body : Async MigrateError World Unit} {after : Async MigrateError World α}
    (delivers : Delivers change.body body) (follows : Delivers change.after after) :
    (change.perform body after).Triple (Rests effect keep start before)
      (fun _ => Rests effect keep start (change.whole effect before))
      (Settles effect keep start (change.Leaves effect before)) := by
  by_cases bare : change.noTx = true
  · exact perform_bare bare delivers follows
  · exact perform_transacted bare delivers follows

end Change
end runs
end server

section calls

def callOf (sql : String) (values : List EncodeValue) : Request :=
  executeRequest sql (bound values).toOption.join

structure Bindable (values : List EncodeValue) : Prop where
  sendable : ∀ value ∈ values, value.Sendable
  nonempty : values ≠ []
  few : values.length < 2 ^ 64

variable {values : List EncodeValue}

theorem Bindable.called (bindable : Bindable values) (sql : String) : ∃ arguments,
    bound values = .ok (some arguments) ∧ callOf sql values = .executeSql sql arguments := by
  obtain ⟨arguments, done, added⟩ := bound_ok bindable.sendable bindable.few
  have filled : arguments.isEmpty = false := by
    have positive := List.length_pos_iff.mpr bindable.nonempty
    simp only [MssqlArguments.isEmpty, added.length, beq_eq_false_iff_ne]
    omega
  refine ⟨arguments, done, ?_⟩
  rw [callOf, done]
  simp [Except.toOption, executeRequest, filled]

theorem Bindable.plain (bindable : Bindable values) (sql : String) : (callOf sql values).PlainStatement := by
  obtain ⟨arguments, _, called⟩ := bindable.called sql
  rw [called]
  rfl

theorem Bindable.delivers [ErrorDisplay] (bindable : Bindable values) (sql : String) :
    Delivers [callOf sql values] (Migrate.execute sql (bound values)) := by
  obtain ⟨arguments, done, _⟩ := bindable.called sql
  rw [callOf, done]
  exact Migrate.delivers_execute sql (some arguments)

namespace Migration
variable (self : Migration)

theorem row_bindable : Bindable self.row where
  sendable := by
    simp only [row, List.forall_mem_cons, List.not_mem_nil, false_implies, implies_true, and_true]
    exact ⟨scalar_sendable rfl, scalar_sendable rfl, scalar_sendable rfl⟩
  nonempty := by simp [row]
  few := by simp [row]

theorem timing_bindable (elapsed : Nat) : Bindable (self.timing elapsed) where
  sendable := by
    simp only [timing, List.forall_mem_cons, List.not_mem_nil, false_implies, implies_true, and_true]
    exact ⟨scalar_sendable rfl, scalar_sendable rfl⟩
  nonempty := by simp [timing]
  few := by simp [timing]

theorem key_bindable : Bindable self.key where
  sendable := by
    simp only [key, List.forall_mem_cons, List.not_mem_nil, false_implies, implies_true, and_true]
    exact scalar_sendable rfl
  nonempty := by simp [key]
  few := by simp [key]

variable {self} (tableName : String) (plain : (Request.sqlBatch self.sql).PlainStatement)

def applying (elapsed : Nat) : Change where
  body := [.sqlBatch self.sql, callOf (insertStatement tableName) self.row]
  after := [callOf (updateStatement tableName) (self.timing elapsed)]
  noTx := self.noTx
  plain := by
    simp only [List.cons_append, List.nil_append, List.forall_mem_cons, List.not_mem_nil,
      false_implies, implies_true, and_true]
    exact ⟨plain, self.row_bindable.plain _, (self.timing_bindable elapsed).plain _⟩

def reverting : Change where
  body := [.sqlBatch self.sql, callOf (deleteStatement tableName) self.key]
  after := []
  noTx := self.noTx
  plain := by
    simp only [List.append_nil, List.forall_mem_cons, List.not_mem_nil, false_implies,
      implies_true, and_true]
    exact ⟨plain, self.key_bindable.plain _⟩

def skipping (self : Migration) (tableName : String) : Change where
  body := []
  after := [callOf (skipStatement tableName) self.row]
  noTx := true
  plain := by
    simp only [List.nil_append, List.forall_mem_cons, List.not_mem_nil, false_implies,
      implies_true, and_true]
    exact self.row_bindable.plain _

end Migration

section settles
variable [ErrorDisplay] {D : Type} {effect : Request → D → D} {keep : Bool} {start before : D}
  {migration : Migration} (tableName : String) (plain : (Request.sqlBatch migration.sql).PlainStatement)
  (elapsed : Nat)

theorem apply_settles : (Migrate.apply tableName migration elapsed).Triple
    (Rests effect keep start before)
    (fun _ => Rests effect keep start
      ((Migration.applying tableName plain elapsed).whole effect before))
    (Settles effect keep start ((Migration.applying tableName plain elapsed).Leaves effect before)) := by
  have ran : Delivers [.sqlBatch migration.sql] (Migrate.execute migration.sql (.ok none)) :=
    Migrate.delivers_execute _ none
  have noted := migration.row_bindable.delivers (insertStatement tableName)
  have timed := (migration.timing_bindable elapsed).delivers (updateStatement tableName)
  have body : Delivers (Migration.applying tableName plain elapsed).body
      (Migrate.executeMigration tableName migration) :=
    (ran.mapErr _).bind fun _ => (noted.mapErr _).returns fun _ => delivers_pure ()
  exact Change.perform_settles body ((timed.mapErr _).returns fun _ => delivers_pure elapsed)

theorem revert_settles : (Migrate.revert tableName migration elapsed).Triple
    (Rests effect keep start before)
    (fun _ => Rests effect keep start ((Migration.reverting tableName plain).whole effect before))
    (Settles effect keep start ((Migration.reverting tableName plain).Leaves effect before)) := by
  have ran : Delivers [.sqlBatch migration.sql] (Migrate.execute migration.sql (.ok none)) :=
    Migrate.delivers_execute _ none
  have forgotten := migration.key_bindable.delivers (deleteStatement tableName)
  have body : Delivers (Migration.reverting tableName plain).body
      (Migrate.revertMigration tableName migration) :=
    (ran.mapErr _).bind fun _ => (forgotten.mapErr _).returns fun _ => delivers_pure ()
  exact Change.perform_settles body (delivers_pure elapsed)

theorem skip_settles (migration : Migration) : (Migrate.skip tableName migration).Triple
    (Rests effect keep start before)
    (fun _ => Rests effect keep start ((migration.skipping tableName).whole effect before))
    (Settles effect keep start ((migration.skipping tableName).Leaves effect before)) := by
  have noted := migration.row_bindable.delivers (skipStatement tableName)
  have follows : Delivers (migration.skipping tableName).after (Migrate.skip tableName migration) :=
    (noted.mapErr _).returns fun _ => delivers_pure ()
  have bare : (migration.skipping tableName).perform (pure ()) (Migrate.skip tableName migration) =
      Migrate.skip tableName migration := rfl
  rw [← bare]
  exact Change.perform_settles (delivers_pure ()) follows

end settles
end calls

section runs
variable (tableName : String)

inductive Direction where
  | apply
  | revert
  | skip
  deriving DecidableEq, Repr

structure MigrationStep where
  migration : Migration
  direction : Direction
  elapsed : Nat
  plain : (Request.sqlBatch migration.sql).PlainStatement

namespace MigrationStep

def perform [ErrorDisplay] (self : MigrationStep) : Async MigrateError World Unit :=
  match self.direction with
  | .apply => do let _ ← Migrate.apply tableName self.migration self.elapsed
  | .revert => do let _ ← Migrate.revert tableName self.migration self.elapsed
  | .skip => Migrate.skip tableName self.migration

def change (self : MigrationStep) : Change :=
  match self.direction with
  | .apply => Migration.applying tableName self.plain self.elapsed
  | .revert => Migration.reverting tableName self.plain
  | .skip => self.migration.skipping tableName

end MigrationStep

variable {D : Type} (effect : Request → D → D)

def migrated (steps : List MigrationStep) (before : D) : D :=
  steps.foldl (fun state step => (step.change tableName).whole effect state) before

/-- The state is one that a run of these steps can stop in: some of them are there as a whole, and
the next one has left what it can leave. -/
def StopsIn (steps : List MigrationStep) (before state : D) : Prop :=
  ∃ done step rest, steps = done ++ step :: rest ∧
    (step.change tableName).Leaves effect (migrated tableName effect done before) state

variable {tableName effect}

theorem StopsIn.cons {step : MigrationStep} {steps : List MigrationStep} {before state : D}
    (stops : StopsIn tableName effect steps ((step.change tableName).whole effect before) state) :
    StopsIn tableName effect (step :: steps) before state := by
  obtain ⟨done, last, rest, rfl, leaves⟩ := stops
  exact ⟨step :: done, last, rest, rfl, leaves⟩

variable [ErrorDisplay] {keep : Bool} {start : D}

theorem MigrationStep.settles (step : MigrationStep) (before : D) :
    (step.perform tableName).Triple (Rests effect keep start before)
      (fun _ => Rests effect keep start ((step.change tableName).whole effect before))
      (Settles effect keep start ((step.change tableName).Leaves effect before)) := by
  unfold MigrationStep.perform MigrationStep.change
  cases step.direction with
  | apply =>
    exact (apply_settles tableName step.plain step.elapsed).bind fun _ world rests => rests
  | revert =>
    exact (revert_settles tableName step.plain step.elapsed).bind fun _ world rests => rests
  | skip => exact skip_settles tableName step.migration

variable (tableName effect keep start)

end runs

section samples

end samples
end SqlxSqlserver.Driver

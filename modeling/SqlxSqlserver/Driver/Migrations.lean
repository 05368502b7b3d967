import SqlxSqlserver.Driver.NestedTransaction
import SqlxSqlserver.Driver.Binding
import SqlxSqlserver.Driver.Migrate

/-! Migrations: each runs its own text and then notes itself in a table, in a transaction or
without one. What a migration that does not end leaves behind is told by the requests that were
delivered. -/

namespace SqlxSqlserver.Driver
open Foundation Protocol

structure Migration where
  version : Int64
  description : String
  sql : String
  checksum : Bytes
  noTx : Bool
  deriving DecidableEq

inductive MigrateError where
  | execute (source : ExecutorError)
  | executeMigration (source : ExecutorError) (version : Int64)
  deriving DecidableEq

def MssqlQueryResult.default : MssqlQueryResult := ⟨0⟩

def MssqlQueryResult.extend (self : MssqlQueryResult) (results : List MssqlQueryResult) :
    MssqlQueryResult :=
  ⟨self.rowsAffected + (results.map MssqlQueryResult.rowsAffected).sum⟩

section statements
variable (tableName : String)

def insertStatement : String :=
  "\nINSERT INTO " ++ tableName ++ " ( version, description, success, checksum, execution_time )\n" ++
    "VALUES ( @p1, @p2, 1, @p3, -1 )\n        "

def skipStatement : String := insertStatement tableName ++ "        "

def updateStatement : String :=
  "\nUPDATE " ++ tableName ++ "\nSET execution_time = @p1\nWHERE version = @p2\n                "

def deleteStatement : String := "DELETE FROM " ++ tableName ++ " WHERE version = @p1"

end statements

namespace Migration
variable (self : Migration)

def row : List EncodeValue :=
  [.ofScalar (.i64 self.version), .ofScalar (.string self.description),
    .ofScalar (.bytes self.checksum)]

def timing (elapsed : Nat) : List EncodeValue :=
  [.ofScalar (.i64 (Int64.ofNat elapsed)), .ofScalar (.i64 self.version)]

def key : List EncodeValue := [.ofScalar (.i64 self.version)]

end Migration

namespace Migrate
variable [ErrorDisplay]

def execute (sql : String) (arguments : TakenArguments) :
    Async ExecutorError World MssqlQueryResult := do
  let output ← executeTaken runExecuteSql sql arguments
  return MssqlQueryResult.default.extend [output.result]

def errorText : ExecutorError → String
  | .encode source => "error occurred while encoding a value: " ++ source.display
  | .other error => ErrorDisplay.display error

/-- The text speaks of reverting, though it is `apply` that makes this error. -/
def revertExecutionError (error : ExecutorError) (version : Int64) : MigrateError :=
  .executeMigration (.other (.protocol
    (s!"while reverting migration {version}: " ++ errorText error))) version

def executeMigration (tableName : String) (migration : Migration) :
    Async MigrateError World Unit := do
  let _ ← (execute migration.sql (.ok none)).mapErr (revertExecutionError · migration.version)
  let _ ← (execute (insertStatement tableName) (bound migration.row)).mapErr .execute

def revertMigration (tableName : String) (migration : Migration) :
    Async MigrateError World Unit := do
  let _ ← (execute migration.sql (.ok none)).mapErr (.executeMigration · migration.version)
  let _ ← (execute (deleteStatement tableName) (bound migration.key)).mapErr .execute

/-- `begin`, the body and `commit`; an open `Transaction` that is dropped queues a rollback. -/
def inTransaction (body : Async MigrateError World Unit) : Async MigrateError World Unit := do
  (MssqlTransactionManager.begin none).mapErr (.execute ∘ .other)
  Async.guarded (World.updateConn (·.queueRollback)) do
    body
    MssqlTransactionManager.commit.mapErr (.execute ∘ .other)

def apply (tableName : String) (migration : Migration) (elapsed : Nat) :
    Async MigrateError World Nat := do
  if migration.noTx then executeMigration tableName migration
  else inTransaction (executeMigration tableName migration)
  let _ ← (execute (updateStatement tableName) (bound (migration.timing elapsed))).mapErr .execute
  return elapsed

def revert (tableName : String) (migration : Migration) (elapsed : Nat) :
    Async MigrateError World Nat := do
  if migration.noTx then revertMigration tableName migration
  else inTransaction (revertMigration tableName migration)
  return elapsed

def skip (tableName : String) (migration : Migration) : Async MigrateError World Unit := do
  let _ ← (execute (skipStatement tableName) (bound migration.row)).mapErr .execute

end Migrate

section delivery
variable {ε ε' α β : Type} {delivered : List Request} {depth : Nat}

/-- The computation has delivered some of the first of these requests, and queued nothing. -/
def Begun (delivered requests : List Request) (depth : Nat) (world : World) : Prop :=
  ∃ sent, sent <+: requests ∧ Standing (delivered ++ sent) depth none world

/-- A computation that ends with a value has delivered these requests in order, and one that ends
otherwise some of the first of them. -/
def Delivers (requests : List Request) (action : Async ε World α) : Prop :=
  ∀ delivered depth, action.Triple (Standing delivered depth none)
    (fun _ => Standing (delivered ++ requests) depth none) (Begun delivered requests depth)

theorem Begun.none {requests : List Request} {world : World}
    (standing : Standing delivered depth none world) : Begun delivered requests depth world :=
  ⟨[], List.nil_prefix, by rwa [List.append_nil]⟩

theorem delivers_of_keeps {action : Async ε World α}
    (keeps : ∀ delivered depth, action.Keeps (Standing delivered depth none)) :
    Delivers [] action := by
  intro delivered depth
  rw [List.append_nil]
  exact Async.Triple.exits (keeps delivered depth) fun world => Begun.none

theorem delivers_pure (value : α) : Delivers [] (pure value : Async ε World α) :=
  delivers_of_keeps fun _ _ => Async.keeps_pure value

theorem Begun.behind {first second : List Request} {world : World}
    (begun : Begun (delivered ++ first) second depth world) :
    Begun delivered (first ++ second) depth world := by
  obtain ⟨sent, early, standing⟩ := begun
  exact ⟨first ++ sent, (List.prefix_append_right_inj first).mpr early,
    by rwa [← List.append_assoc]⟩

theorem Begun.more {first : List Request} {world : World} (second : List Request)
    (begun : Begun delivered first depth world) : Begun delivered (first ++ second) depth world := by
  obtain ⟨sent, early, standing⟩ := begun
  exact ⟨sent, early.trans (List.prefix_append first second), standing⟩

theorem Delivers.bind {first second : List Request} {action : Async ε World α}
    {next : α → Async ε World β} (head : Delivers first action)
    (tail : ∀ value, Delivers second (next value)) : Delivers (first ++ second) (action >>= next) := by
  intro delivered depth
  refine ((head delivered depth).exits fun world => Begun.more second).bind fun value => ?_
  rw [← List.append_assoc]
  exact (tail value _ depth).exits fun world => Begun.behind

theorem Delivers.mapErr {requests : List Request} {action : Async ε World α}
    (delivers : Delivers requests action) (convert : ε → ε') :
    Delivers requests (action.mapErr convert) :=
  fun delivered depth => (delivers delivered depth).mapErr convert

theorem Delivers.returns {requests : List Request} {action : Async ε World α}
    {next : α → Async ε World β} (delivers : Delivers requests action)
    (tail : ∀ value, Delivers [] (next value)) : Delivers requests (action >>= next) := by
  have both := delivers.bind tail
  rwa [List.append_nil] at both

theorem standing_keeps {action : Task α} {pending : Option String} (quiet : Quiet action) :
    action.Keeps (Standing delivered depth pending) := by
  apply quiet.keeps
  intro world after alike holds
  rwa [Standing, alike.delivered, alike.conn]

variable [ErrorDisplay]

theorem delivers_exchange (request : Request) : Delivers [request] (exchange request) := by
  intro delivered depth
  have before : ∀ world, Standing delivered depth none world → Begun delivered [request] depth world :=
    fun world standing => .none standing
  have behind : ∀ world, Standing (delivered ++ [request]) depth none world →
      Begun delivered [request] depth world :=
    fun world standing => ⟨[request], List.prefix_refl _, standing⟩
  have sent : ∀ (self : MssqlWireStream) bytes, (self.writeAll request bytes).Triple
      (Standing delivered depth none) (fun _ => Standing (delivered ++ [request]) depth none)
      (Begun delivered [request] depth) := by
    intro self bytes
    refine triple_writeAll self (R := Standing delivered depth none) (fun _ holds => holds)
      (fun fuel offset => Async.Triple.exits
        (standing_keeps (quiet_writePackets bytes fuel offset)) before) ?_
      (Async.Triple.exits (standing_keeps quiet_awaitWrite) behind) before
    intro world standing
    exact ⟨congrArg (· ++ [request]) standing.1, standing.2.1, standing.2.2⟩
  refine triple_exchange request before (fun world self bytes holds _ =>
    (sent self bytes).pre fun state same => same ▸ holds) ?_
  refine triple_readQueryResponse _ behind
    (R := fun _ => Standing (delivered ++ [request]) depth none) (fun self => ?_)
    (fun _ world standing _ => behind world standing) ?_
  · apply Async.triple_look.bind
    intro world
    exact (Async.Triple.exits (standing_keeps (quiet_readPackets self _ _ _ _)) behind).bind
      fun message world holds => holds
  · intro message output world standing _ _
    obtain ⟨depths, pendings⟩ := applyEnvChanges_depth world.conn output.envChanges
    exact ⟨standing.1, depths.trans standing.2.1, pendings.trans standing.2.2⟩

theorem delivers_flush : Delivers [] flushPendingRollback := by
  intro delivered depth
  apply Async.triple_inspect
  intro world standing
  rw [standing.2.2]
  exact delivers_pure () delivered depth

theorem delivers_runExecuteSql (sql : String) (arguments : Option MssqlArguments) :
    Delivers [executeRequest sql arguments] (runExecuteSql sql arguments) :=
  delivers_flush.bind fun _ => delivers_exchange _

theorem delivers_runSqlBatch (sql : String) : Delivers [.sqlBatch sql] (runSqlBatch sql) :=
  delivers_flush.bind fun _ => delivers_exchange _

theorem Migrate.delivers_execute (sql : String) (arguments : Option MssqlArguments) :
    Delivers [executeRequest sql arguments] (Migrate.execute sql (.ok arguments)) :=
  ((delivers_runExecuteSql sql arguments).mapErr ExecutorError.other).returns
    fun _ => delivers_pure _

end delivery

section changes
variable [ErrorDisplay] {delivered : List Request}

def Request.begin : Request := .sqlBatch "BEGIN TRANSACTION"
def Request.commit : Request := .sqlBatch "COMMIT TRANSACTION"
def Request.rollback : Request := .sqlBatch "ROLLBACK TRANSACTION"

/-- A transaction was begun and not ended, and its rollback is queued. -/
def LeftOpen (delivered requests : List Request) (world : World) : Prop :=
  ∃ sent, sent <+: requests ++ [.commit] ∧
    Standing (delivered ++ .begin :: sent) 0 (some "ROLLBACK TRANSACTION") world

theorem begin_delivers : (MssqlTransactionManager.begin none).Triple (Standing delivered 0 none)
    (fun _ => Standing (delivered ++ [.begin]) 1 none) (Begun delivered [.begin] 0) := by
  apply Async.triple_inspect
  intro world standing
  rw [standing.2.1]
  refine (delivers_runSqlBatch _ delivered 0).bind fun _ => ?_
  intro world standing
  exact ⟨standing.1, congrArg (· + 1) standing.2.1, standing.2.2⟩

theorem commit_delivers : MssqlTransactionManager.commit.Triple (Standing delivered 1 none)
    (fun _ => Standing (delivered ++ [.commit]) 0 none) (Begun delivered [.commit] 1) := by
  apply Async.triple_inspect
  intro world standing
  rw [standing.2.1]
  refine (delivers_runSqlBatch _ delivered 1).bind fun _ => ?_
  intro world standing
  exact ⟨standing.1, congrArg (· - 1) standing.2.1, standing.2.2⟩

/-- A transaction that ends with a value is committed, and one that was begun and ends otherwise has
its rollback queued. -/
theorem inTransaction_delivers {body : Async MigrateError World Unit} {requests : List Request}
    (delivers : Delivers requests body) :
    (Migrate.inTransaction body).Triple (Standing delivered 0 none)
      (fun _ => Standing (delivered ++ .begin :: requests ++ [.commit]) 0 none)
      (fun world => Begun delivered [.begin] 0 world ∨ LeftOpen delivered requests world) := by
  refine ((begin_delivers.mapErr _).exits fun world => .inl).bind fun _ => ?_
  refine Async.Triple.guarded (F := Begun (delivered ++ [.begin]) (requests ++ [.commit]) 1) ?_ ?_
  · refine ((delivers _ 1).exits fun world => Begun.more [.commit]).bind fun _ => ?_
    refine (commit_delivers.mapErr _).weaken (fun _ holds => holds) ?_ fun world => Begun.behind
    intro _ world standing
    rwa [← List.append_cons] at standing
  · intro world begun
    obtain ⟨sent, early, standing⟩ := begun
    refine .inr ⟨sent, early, ?_⟩
    rw [List.append_cons]
    rw [World.updateConn, MssqlConnection.queueRollback, standing.2.1]
    exact ⟨standing.1, rfl, rfl⟩

end changes

end SqlxSqlserver.Driver

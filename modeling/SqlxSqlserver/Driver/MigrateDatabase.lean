import SqlxSqlserver.Driver.LoginPath
import SqlxSqlserver.Driver.Migrations
import SqlxSqlserver.Driver.Options

/-! Databases are created, looked for and dropped over a connection of their own, from its login to
its end. The login is one into `master`, and nothing else is asked of the server. -/

namespace SqlxSqlserver.Driver
open Foundation Protocol

/-- The other ends of such a connection: those of its login, and what answers its requests. The
transport of the session is the one that the login leaves. -/
structure CommandWorld (Certificate : Type) where
  login : LoginWorld Certificate
  session : World

inductive CommandError (ε υ : Type) where
  | configuration (source : MssqlInvalidOption ε υ)
  | query (source : ExecutorError)
  | rowNotFound

def MssqlConnectOptions.setDatabaseForMaintenance (self : MssqlConnectOptions) : MssqlConnectOptions :=
  { self with database := "master" }

section connection
variable [ErrorDisplay]

def MssqlWireStream.shutdown (self : MssqlWireStream) : Task Unit :=
  match self.stream with
  | .raw | .tls => awaitWrite
  | .taken => .fail takenStreamError

def closeHard : Task Unit := do
  match (← .get).conn.stream with
  | some stream =>
    .modify (World.updateConn fun conn => { conn with stream := none })
    stream.shutdown
  | none => pure ()

def close : Task Unit := do
  flushPendingRollback
  closeHard

end connection

section commands
variable {Certificate ε υ α : Type}

def overSession (action : Async ε World α) : Async ε (CommandWorld Certificate) α :=
  action.zoom CommandWorld.session fun session self => { self with session }

def CommandWorld.enter (conn : MssqlConnection) (self : CommandWorld Certificate) :
    CommandWorld Certificate :=
  { self with session := { conn, link := { self.session.link with
      fates := self.login.fates, incoming := self.login.incoming } } }

variable [ErrorDisplay] (tls : TlsLibrary Certificate) (library : UrlLibrary ε υ)

def MssqlConnectOptions.connect (self : MssqlConnectOptions) :
    Async Error (CommandWorld Certificate) Unit := do
  let conn ← (MssqlConnection.establish tls self).zoom CommandWorld.login
    fun login world => { world with login }
  .modify (CommandWorld.enter conn)

def parseForMaintenance (url : String) :
    Except (MssqlInvalidOption ε υ) (MssqlConnectOptions × String) := do
  let options ← parseUrl library url
  return (options.setDatabaseForMaintenance, options.database)

namespace MigrateDatabase

/-- What the three commands share: `body` is what they ask of the server. -/
def maintain (body : String → Async (CommandError ε υ) World α) (url : String) :
    Async (CommandError ε υ) (CommandWorld Certificate) α := do
  let (options, database) ← .ofOutcome
    (.ofExcept ((parseForMaintenance library url).mapError .configuration))
  (options.connect tls).mapErr (.query ∘ .other)
  let value ← overSession (body database)
  overSession (close.mapErr (.query ∘ .other))
  return value

def execute (sql : String) : Async (CommandError ε υ) World Unit := do
  let _ ← (Migrate.execute sql (.ok none)).mapErr .query

def createDatabase (url : String) : Async (CommandError ε υ) (CommandWorld Certificate) Unit :=
  maintain tls library (fun database => execute (Driver.createDatabase database)) url

def dropDatabase (url : String) : Async (CommandError ε υ) (CommandWorld Certificate) Unit :=
  maintain tls library (fun database => execute (Driver.dropDatabase database)) url

def existsQuery : String := "SELECT CONVERT(bit, CASE WHEN DB_ID(@p1) IS NULL THEN 0 ELSE 1 END)"

def databaseExists (fromRow : MssqlRow → Outcome Error Bool) (url : String) :
    Async (CommandError ε υ) (CommandWorld Certificate) Bool :=
  maintain tls library (fun database => do
    let row ← (fetchOptional runExecuteSql existsQuery
      (bound [.ofScalar (.string database)])).mapErr .query
    match row with
    | some row => .ofOutcome ((fromRow row).mapErr (.query ∘ .other))
    | none => .fail .rowNotFound) url

end MigrateDatabase
end commands

section rules
variable {Certificate ε α : Type} {R : LoginWorld Certificate → Prop}

theorem triple_overSession {action : Async ε World α} {P E : World → Prop} {Q : α → World → Prop}
    (inner : action.Triple P Q E) : (overSession action : Async ε (CommandWorld Certificate) α).Triple
      (fun world => R world.login ∧ P world.session)
      (fun value world => R world.login ∧ Q value world.session)
      (fun world => R world.login ∧ E world.session) := by
  apply Async.triple_zoom
  intro world holds
  refine inner.weaken (fun part same => ?_) (fun value part after => ⟨holds.1, after⟩)
    fun part after => ⟨holds.1, after⟩
  rw [same]
  exact holds.2

theorem keeps_closeHard {delivered : List Request} {depth : Nat} [ErrorDisplay] :
    closeHard.Keeps (Standing delivered depth none) := by
  apply Async.keeps_get.bind
  intro world
  cases world.conn.stream with
  | none => exact Async.keeps_pure ()
  | some stream =>
    have taken : (Async.modify (World.updateConn fun conn => { conn with stream := none }) :
        Task Unit).Keeps (Standing delivered depth none) :=
      Async.keeps_modify fun _ standing => standing
    refine taken.bind fun _ => ?_
    rw [MssqlWireStream.shutdown]
    cases stream.stream with
    | raw => exact standing_keeps quiet_awaitWrite
    | tls => exact standing_keeps quiet_awaitWrite
    | taken => exact Async.keeps_fail _

theorem delivers_close [ErrorDisplay] : Delivers [] close := by
  refine delivers_flush.bind fun _ => ?_
  exact delivers_of_keeps fun _ _ => keeps_closeHard

end rules

section login
variable {Certificate : Type} {tls : TlsLibrary Certificate} {options : MssqlConnectOptions}

structure CommandWorld.Fresh (world : CommandWorld Certificate) : Prop where
  unopened : world.login.trace = []
  unasked : world.session.link.delivered = []

theorem onPath_of_accepted {conn : MssqlConnection} {world : LoginWorld Certificate}
    (accepted : LoginAccepted tls options conn world) : OnPath tls options world := by
  obtain ⟨kind, message, _, _, reached, _⟩ := accepted
  exact ⟨.replied kind message, reached⟩

theorem login7_of_onPath {world : LoginWorld Certificate} (onPath : OnPath tls options world)
    {stream : MssqlStream} {bytes : Bytes} (sent : .sent .login7 stream bytes ∈ world.trace) :
    buildLogin7Packet options = .ok bytes := by
  obtain ⟨phase, path⟩ := onPath
  obtain ⟨before, after, split⟩ := List.append_of_mem sent
  rw [Reached, split] at path
  obtain ⟨middle, front, rest⟩ := path.split
  obtain ⟨_, step, _⟩ := Machine.path_cons_iff.mp rest
  exact (loginAllowed_of_path front step).1

variable [ErrorDisplay]

theorem triple_connect : (options.connect tls).Triple CommandWorld.Fresh
    (fun _ world => (∃ conn, LoginAccepted tls options conn world.login) ∧
      Standing [] 0 none world.session)
    (fun world => OnPath tls options world.login ∧ world.session.link.delivered = []) := by
  have established : ((MssqlConnection.establish tls options).zoom CommandWorld.login
      fun login world => { world with login }).Triple CommandWorld.Fresh
      (fun conn world => LoginAccepted tls options conn world.login ∧
        world.session.link.delivered = [])
      (fun world => OnPath tls options world.login ∧ world.session.link.delivered = []) := by
    apply Async.triple_zoom
    intro world fresh
    refine triple_establish.weaken (fun part same => ?_) (fun conn part accepted =>
      ⟨accepted, fresh.unasked⟩) fun part onPath => ⟨onPath, fresh.unasked⟩
    rw [same]
    exact reached_opened fresh.unopened
  refine established.bind fun conn world both => ⟨⟨conn, both.1⟩, both.2, ?_⟩
  obtain ⟨_, _, _, envChanges, _, _, _, same⟩ := both.1
  change conn.transactionDepth = 0 ∧ conn.pendingRollbackSql = none
  rw [same]
  exact applyEnvChanges_depth _ envChanges

end login

section maintenance
variable {Certificate ε υ α : Type} (tls : TlsLibrary Certificate) (library : UrlLibrary ε υ)

/-- How a command ends that may ask one of these requests: every login was one of the options, and
the request was delivered once the login was accepted, or nothing was, or the end is an early one. -/
structure Maintained (options : MssqlConnectOptions) (asks : Request → Prop)
    (ended : Completion (CommandError ε υ) α × CommandWorld Certificate) : Prop where
  login : ∀ stream bytes, .sent .login7 stream bytes ∈ ended.2.login.trace →
    buildLogin7Packet options = .ok bytes
  accepted : ended.2.session.link.delivered ≠ [] → ∃ conn, LoginAccepted tls options conn ended.2.login
  asked : ∃ request, asks request ∧ ended.2.session.link.delivered <+: [request] ∧
    ∀ value, ended.1 = .ok value → ended.2.session.link.delivered = [request]

variable [ErrorDisplay]

/-- A command ends as its URL and the rest of the run say. -/
def Maintains (asks : String → Request → Prop)
    (command : String → Async (CommandError ε υ) (CommandWorld Certificate) α) : Prop :=
  ∀ url world, world.Fresh →
    (∀ error, parseUrl library url = .error error →
      command url world = (.err (.configuration error), world)) ∧
    ∀ options, parseUrl library url = .ok options →
      Maintained tls options.setDatabaseForMaintenance (asks options.database) (command url world)

variable {tls library}

variable (tls) in
theorem triple_maintain (options : MssqlConnectOptions) {request : Request}
    {body : Async (CommandError ε υ) World α} (delivers : Delivers [request] body) :
    (do
      (options.connect tls).mapErr (.query ∘ .other)
      let value ← overSession body
      overSession (close.mapErr (.query ∘ .other))
      return value : Async (CommandError ε υ) (CommandWorld Certificate) α).Triple
      CommandWorld.Fresh
      (fun _ world => (∃ conn, LoginAccepted tls options conn world.login) ∧
        Standing [request] 0 none world.session)
      (fun world => OnPath tls options world.login ∧ world.session.link.delivered = [] ∨
        (∃ conn, LoginAccepted tls options conn world.login) ∧ Begun [] [request] 0 world.session) := by
  have asking := triple_overSession (R := fun login => ∃ conn, LoginAccepted tls options conn login)
    (delivers [] 0)
  have closing := triple_overSession (R := fun login => ∃ conn, LoginAccepted tls options conn login)
    ((delivers_close.mapErr (CommandError.query ∘ ExecutorError.other : Error → CommandError ε υ)) [request] 0)
  refine ((triple_connect.mapErr _).exits fun world => .inl).bind fun _ => ?_
  refine (asking.exits fun world => .inr).bind fun value => ?_
  refine (closing.exits fun world both => ?_).bind fun _ => fun world holds => ?_
  · have behind : Begun ([] ++ [request]) [] 0 world.session := both.2
    exact .inr ⟨both.1, behind.behind⟩
  · rw [List.append_nil] at holds
    exact holds

theorem maintain_eq {url : String} {options : MssqlConnectOptions} (parsed : parseUrl library url = .ok options)
    (body : String → Async (CommandError ε υ) World α) :
    MigrateDatabase.maintain tls library body url = (do
      (options.setDatabaseForMaintenance.connect tls).mapErr (.query ∘ .other)
      let value ← overSession (body options.database)
      overSession (close.mapErr (.query ∘ .other))
      return value) := by
  rw [MigrateDatabase.maintain, parseForMaintenance, parsed]
  rfl

theorem maintains {asks : String → Request → Prop} {body : String → Async (CommandError ε υ) World α}
    (delivers : ∀ database, ∃ request, asks database request ∧ Delivers [request] (body database)) :
    Maintains tls library asks (MigrateDatabase.maintain tls library body) := by
  intro url world fresh
  constructor
  · intro error refused
    rw [MigrateDatabase.maintain, parseForMaintenance, refused]
    rfl
  · intro options parsed
    obtain ⟨request, asked, delivers⟩ := delivers options.database
    have ended := triple_maintain tls options.setDatabaseForMaintenance delivers world fresh
    rw [← maintain_eq parsed] at ended
    split at ended
    next value last done =>
      obtain ⟨⟨conn, accepted⟩, delivered, _⟩ := ended
      rw [done]
      exact ⟨fun _ _ => login7_of_onPath (onPath_of_accepted accepted), fun _ => ⟨conn, accepted⟩,
        request, asked, delivered ▸ List.prefix_rfl, fun _ _ => delivered⟩
    next early last fails done =>
      rw [done]
      rcases ended with ⟨onPath, none⟩ | ⟨⟨conn, accepted⟩, sent, early, delivered, _⟩
      · refine ⟨fun _ _ => login7_of_onPath onPath, fun some => absurd none some, request, asked, ?_, ?_⟩
        · exact none ▸ List.nil_prefix
        · exact fun value same => absurd same (fails value)
      · refine ⟨fun _ _ => login7_of_onPath (onPath_of_accepted accepted), fun _ => ⟨conn, accepted⟩,
          request, asked, ?_, ?_⟩
        · exact delivered ▸ early
        · exact fun value same => absurd same (fails value)

theorem delivers_statement (sql : String) :
    Delivers [.sqlBatch sql] (MigrateDatabase.execute sql : Async (CommandError ε υ) World Unit) :=
  ((Migrate.delivers_execute sql none).mapErr CommandError.query).returns fun _ => delivers_pure _

omit [ErrorDisplay] in
theorem delivers_ofOutcome (outcome : Outcome ε α) :
    Delivers [] (Async.ofOutcome outcome : Async ε World α) :=
  delivers_of_keeps fun _ _ => Async.keeps_ofOutcome outcome

theorem delivers_question (database : String) : ∃ arguments,
    Added [.ofScalar (.string database)] arguments ∧
      Delivers [.executeSql MigrateDatabase.existsQuery arguments]
        (fetchOptional runExecuteSql MigrateDatabase.existsQuery
          (bound [.ofScalar (.string database)])) := by
  have sendable : ∀ value ∈ [EncodeValue.ofScalar (.string database)], value.Sendable := by
    intro value member
    rw [List.mem_singleton.mp member]
    exact scalar_sendable rfl
  obtain ⟨arguments, boundTo, added⟩ := bound_ok sendable (by simp)
  have asked : executeRequest MigrateDatabase.existsQuery (some arguments) =
      .executeSql MigrateDatabase.existsQuery arguments := by
    rw [executeRequest, MssqlArguments.isEmpty, added.length]
    rfl
  refine ⟨arguments, added, ?_⟩
  rw [boundTo, ← asked]
  exact ((delivers_runExecuteSql _ _).mapErr ExecutorError.other).returns fun _ => delivers_pure _

end maintenance

section requests

def CreatesDatabase (database : String) (request : Request) : Prop :=
  request = .sqlBatch (createDatabase database) ∧
    lexSql (createDatabase database) = some (sqlText "CREATE DATABASE " ++ [ident database])

def DropsDatabase (database : String) (request : Request) : Prop :=
  request = .sqlBatch (dropDatabase database) ∧
    lexSql (dropDatabase database) = some (sqlText "IF DB_ID(N" ++ (literal database ::
      (sqlText ") IS NOT NULL DROP DATABASE " ++ [ident database])))

def AsksForDatabase (database : String) (request : Request) : Prop :=
  ∃ arguments, Added [.ofScalar (.string database)] arguments ∧
    request = .executeSql MigrateDatabase.existsQuery arguments

end requests

section runs
variable {Certificate ε υ : Type} [ErrorDisplay] (tls : TlsLibrary Certificate)
  (library : UrlLibrary ε υ) (fromRow : MssqlRow → Outcome Error Bool)

theorem maintains_create : Maintains tls library CreatesDatabase
    (MigrateDatabase.createDatabase tls library) :=
  maintains fun database =>
    ⟨_, ⟨rfl, lexSql_createDatabase database⟩, delivers_statement (createDatabase database)⟩

theorem maintains_drop : Maintains tls library DropsDatabase (MigrateDatabase.dropDatabase tls library) :=
  maintains fun database =>
    ⟨_, ⟨rfl, lexSql_dropDatabase database⟩, delivers_statement (dropDatabase database)⟩

theorem maintains_exists : Maintains tls library AsksForDatabase
    (MigrateDatabase.databaseExists tls library fromRow) := by
  refine maintains fun database => ?_
  obtain ⟨arguments, added, delivers⟩ := delivers_question database
  refine ⟨_, ⟨arguments, added, rfl⟩, (delivers.mapErr _).returns fun row => ?_⟩
  cases row with
  | some row => exact delivers_ofOutcome _
  | none => exact delivers_ofOutcome (.err CommandError.rowNotFound)

/-- However a command about a database ends, whatever the URL library, the transport, the TLS library
and the server do: without options nothing is done; and with them every login is one into `master`,
whatever database the URL names, and the one request, which names that database, is delivered behind an
accepted login, and always when the command returns. -/
theorem databases_kept_from_master (url : String) (world : CommandWorld Certificate) (fresh : world.Fresh) :
    (∀ error, parseUrl library url = .error error →
      MigrateDatabase.createDatabase tls library url world = (.err (.configuration error), world) ∧
      MigrateDatabase.dropDatabase tls library url world = (.err (.configuration error), world) ∧
      MigrateDatabase.databaseExists tls library fromRow url world =
        (.err (.configuration error), world)) ∧
    ∀ options, parseUrl library url = .ok options →
      Maintained tls { options with database := "master" } (CreatesDatabase options.database)
        (MigrateDatabase.createDatabase tls library url world) ∧
      Maintained tls { options with database := "master" } (DropsDatabase options.database)
        (MigrateDatabase.dropDatabase tls library url world) ∧
      Maintained tls { options with database := "master" } (AsksForDatabase options.database)
        (MigrateDatabase.databaseExists tls library fromRow url world) := by
  have created := maintains_create tls library url world fresh
  have dropped := maintains_drop tls library url world fresh
  have found := maintains_exists tls library fromRow url world fresh
  constructor
  · intro error refused
    exact ⟨created.1 error refused, dropped.1 error refused, found.1 error refused⟩
  · intro options parsed
    exact ⟨created.2 options parsed, dropped.2 options parsed, found.2 options parsed⟩

end runs

section samples

def shopLibrary : UrlLibrary Unit Unit where
  parse _ := .ok { scheme := "mssql", path := "/a]b", queryPairs := [("encrypt", "not_supported")] }
  percentDecode text := .ok text

def shopWorld : CommandWorld Unit where
  login := clearWorld
  session := .fresh [answer doneBytes]

theorem databases_kept_from_master_shop :
    (MigrateDatabase.createDatabase bareLibrary shopLibrary "" shopWorld).2.session.link.delivered =
      [.sqlBatch "CREATE DATABASE [a]]b]"] ∧
    Maintained bareLibrary { clearOptions with database := "master" } (CreatesDatabase "a]b")
      (MigrateDatabase.createDatabase bareLibrary shopLibrary "" shopWorld) := by
  have parsed : parseUrl shopLibrary "" = .ok { clearOptions with database := "a]b" } := by
    decide +kernel
  have done : (MigrateDatabase.createDatabase bareLibrary shopLibrary "" shopWorld).2.session.link.delivered =
      [.sqlBatch "CREATE DATABASE [a]]b]"] := by
    decide +kernel
  have kept := (databases_kept_from_master bareLibrary shopLibrary (fun _ => .ok true) "" shopWorld
    ⟨rfl, rfl⟩).2 _ parsed
  exact ⟨done, kept.1⟩

end samples
end SqlxSqlserver.Driver

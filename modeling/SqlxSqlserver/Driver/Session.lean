import SqlxSqlserver.Driver.Served
import SqlxSqlserver.Foundation.Simulation

/-! A session in terms of requests and answers. Over a transport that serves, packets, bytes and
awaits do not show: the connection does what an ideal client does that hands over its requests whole
and is handed whole answers. -/

namespace SqlxSqlserver.Driver
open Foundation Protocol

section ports
variable {σ τ : Type}

/-- What a client of the server sees: its connection, and a way to have a request answered. -/
structure Port (σ : Type) where
  conn : σ → MssqlConnection
  update : (MssqlConnection → MssqlConnection) → σ → σ
  ask : Request → Async Error σ QueryOutput

namespace Port
variable (self : Port σ)

def flush : Async Error σ Unit := do
  match (self.conn (← .get)).pendingRollbackSql with
  | none => pure ()
  | some sql =>
    .modify (self.update fun conn => { conn with pendingRollbackSql := none })
    let _ ← self.ask (.sqlBatch sql)

def batch (sql : String) : Async Error σ QueryOutput := do
  self.flush
  self.ask (.sqlBatch sql)

def execute (sql : String) (arguments : Option MssqlArguments) : Async Error σ QueryOutput := do
  self.flush
  self.ask (executeRequest sql arguments)

def prepare (sql : String) (parameters : List MssqlTypeInfo) : Async Error σ QueryOutput := do
  self.flush
  let output ← self.ask (.prepare sql parameters)
  match ← .ofOutcome (firstI32ReturnValue output) with
  | some statementId =>
    let _ ← self.ask (.unprepare statementId)
    return output
  | none => return output

def stream : Async Error σ MssqlWireStream := do
  match (self.conn (← .get)).stream with
  | some stream => pure stream
  | none => .fail wireNotImplemented

def ping : Async Error σ Unit := do
  self.flush
  let _ ← self.stream

def begin (statement : Option String) : Async Error σ Unit := do
  let depth := (self.conn (← .get)).transactionDepth
  let _ ← self.batch (statement.getD
    (if depth = 0 then "BEGIN TRANSACTION" else "SAVE TRANSACTION sqlx_savepoint"))
  .modify (self.update (·.incrementTransactionDepth))

def commit : Async Error σ Unit := do
  let depth := (self.conn (← .get)).transactionDepth
  if depth = 1 then
    let _ ← self.batch "COMMIT TRANSACTION"
    .modify (self.update (·.decrementTransactionDepth))
  else if 1 < depth then
    .modify (self.update (·.decrementTransactionDepth))
  else pure ()

def rollback : Async Error σ Unit := do
  let depth := (self.conn (← .get)).transactionDepth
  if depth = 1 then
    let _ ← self.batch "ROLLBACK TRANSACTION"
    .modify (self.update (·.clearTransactionDepth))
  else if 1 < depth then
    let _ ← self.batch "ROLLBACK TRANSACTION sqlx_savepoint"
    .modify (self.update (·.decrementTransactionDepth))
  else pure ()

def call : Call → Async Error σ (Option QueryOutput)
  | .runSqlBatch sql => do return some (← self.batch sql)
  | .runExecuteSql sql arguments => do return some (← self.execute sql arguments)
  | .runPrepare sql parameters => do return some (← self.prepare sql parameters)
  | .ping => do self.ping; return none
  | .begin statement => do self.begin statement; return none
  | .commit => do self.commit; return none
  | .rollback => do self.rollback; return none
  | .startRollback => do .modify (self.update (·.queueRollback)); return none

end Port

structure Port.Refines (model : Port τ) (port : Port σ) (R : τ → σ → Prop) : Prop where
  conn : ∀ ideal state, R ideal state → port.conn state = model.conn ideal
  update : ∀ change ideal state, R ideal state → R (model.update change ideal) (port.update change state)
  ask : ∀ request, Async.Simulates R (model.ask request) (port.ask request)

namespace Port.Refines
variable {model : Port τ} {port : Port σ} {R : τ → σ → Prop} (refines : model.Refines port R)
include refines

theorem updates (change : MssqlConnection → MssqlConnection) :
    Async.Simulates R (.modify (model.update change) : Async Error τ Unit)
      (.modify (port.update change)) :=
  Async.simulates_modify (refines.update change)

theorem flush : Async.Simulates R model.flush port.flush := by
  apply Async.simulates_inspect
  intro ideal state related
  rw [refines.conn ideal state related]
  cases (model.conn ideal).pendingRollbackSql with
  | none => exact Async.simulates_pure ()
  | some sql =>
    exact (refines.updates _).bind fun _ => (refines.ask _).bind fun _ => Async.simulates_pure ()

theorem batch (sql : String) : Async.Simulates R (model.batch sql) (port.batch sql) :=
  refines.flush.bind fun _ => refines.ask _

theorem execute (sql : String) (arguments : Option MssqlArguments) :
    Async.Simulates R (model.execute sql arguments) (port.execute sql arguments) :=
  refines.flush.bind fun _ => refines.ask _

theorem prepare (sql : String) (parameters : List MssqlTypeInfo) :
    Async.Simulates R (model.prepare sql parameters) (port.prepare sql parameters) := by
  refine refines.flush.bind fun _ => (refines.ask _).bind fun output =>
    (Async.simulates_ofOutcome _).bind fun found => ?_
  cases found with
  | some statementId => exact (refines.ask _).bind fun _ => Async.simulates_pure output
  | none => exact Async.simulates_pure output

theorem stream : Async.Simulates R model.stream port.stream := by
  apply Async.simulates_inspect
  intro ideal state related
  rw [refines.conn ideal state related]
  cases (model.conn ideal).stream with
  | some stream => exact Async.simulates_pure stream
  | none => exact Async.simulates_fail _

theorem ping : Async.Simulates R model.ping port.ping :=
  refines.flush.bind fun _ => refines.stream.bind fun _ => Async.simulates_pure ()

theorem begin (statement : Option String) :
    Async.Simulates R (model.begin statement) (port.begin statement) := by
  apply Async.simulates_inspect
  intro ideal state related
  rw [refines.conn ideal state related]
  exact (refines.batch _).bind fun _ => refines.updates _

theorem commit : Async.Simulates R model.commit port.commit := by
  apply Async.simulates_inspect
  intro ideal state related
  rw [refines.conn ideal state related]
  dsimp only
  split_ifs
  · exact (refines.batch _).bind fun _ => refines.updates _
  · exact refines.updates _
  · exact Async.simulates_pure ()

theorem rollback : Async.Simulates R model.rollback port.rollback := by
  apply Async.simulates_inspect
  intro ideal state related
  rw [refines.conn ideal state related]
  dsimp only
  split_ifs
  · exact (refines.batch _).bind fun _ => refines.updates _
  · exact (refines.batch _).bind fun _ => refines.updates _
  · exact Async.simulates_pure ()

theorem call (call : Call) : Async.Simulates R (model.call call) (port.call call) := by
  cases call with
  | runSqlBatch sql => exact (refines.batch sql).bind fun _ => Async.simulates_pure _
  | runExecuteSql sql arguments =>
    exact (refines.execute sql arguments).bind fun _ => Async.simulates_pure _
  | runPrepare sql parameters =>
    exact (refines.prepare sql parameters).bind fun _ => Async.simulates_pure _
  | ping => exact refines.ping.bind fun _ => Async.simulates_pure _
  | begin statement => exact (refines.begin statement).bind fun _ => Async.simulates_pure _
  | commit => exact refines.commit.bind fun _ => Async.simulates_pure _
  | rollback => exact refines.rollback.bind fun _ => Async.simulates_pure _
  | startRollback => exact (refines.updates _).bind fun _ => Async.simulates_pure _

end Port.Refines
end ports

section wire
variable [ErrorDisplay]

def wirePort : Port World where
  conn := World.conn
  update := World.updateConn
  ask := exchange

def Call.output : Call → Task (Option QueryOutput)
  | .runSqlBatch sql => do return some (← Driver.runSqlBatch sql)
  | .runExecuteSql sql arguments => do return some (← Driver.runExecuteSql sql arguments)
  | .runPrepare sql parameters => do return some (← Driver.runPrepare sql parameters)
  | call => do call.perform; return none

theorem call_wirePort (call : Call) : wirePort.call call = call.output := by
  cases call <;> rfl

end wire

section dialogues

/-- The ideal other end, which is handed whole requests and hands over whole answers. -/
structure Dialogue where
  conn : MssqlConnection
  answers : List Answer
  asked : List Request

def Dialogue.update (change : MssqlConnection → MssqlConnection) (self : Dialogue) : Dialogue :=
  { self with conn := change self.conn }

instance (self : MssqlWireStream) (packets : List Packet) : Decidable (self.Admits packets) :=
  inferInstanceAs (Decidable (∀ packet ∈ packets, packet.header.length.toNat ≤ self.packetSize))

/-- The world is that of the dialogue: nothing is unread, and the server has its answers still to
give. -/
structure Tracks (dialogue : Dialogue) (world : World) : Prop where
  conn : world.conn = dialogue.conn
  serves : world.Serves
  drained : world.link.incoming = []
  delivered : world.link.delivered = dialogue.asked
  replies : world.link.replies.drop dialogue.asked.length = dialogue.answers.map Answer.bytes

theorem tracks_update (change : MssqlConnection → MssqlConnection) (dialogue : Dialogue)
    (world : World) (tracks : Tracks dialogue world) :
    Tracks (dialogue.update change) (world.updateConn change) :=
  ⟨congrArg change tracks.conn, tracks.serves, tracks.drained, tracks.delivered, tracks.replies⟩

theorem Tracks.reply {dialogue : Dialogue} {world : World} (tracks : Tracks dialogue world)
    {answer : Answer} {later : List Answer} (next : dialogue.answers = answer :: later) :
    world.link.replies[world.link.delivered.length]?.getD [] = answer.bytes ∧
      world.link.replies.drop (world.link.delivered.length + 1) = later.map Answer.bytes := by
  have replies := tracks.replies
  rw [next, List.map_cons, ← tracks.delivered] at replies
  constructor
  · rw [← List.head?_drop, replies]
    rfl
  · rw [← List.drop_drop, replies]
    rfl

theorem Tracks.exchanged {request : Request} {self : MssqlWireStream} {dialogue : Dialogue}
    {world : World} (tracks : Tracks dialogue world) {bytes : Bytes}
    (built : request.packet self.packetSize dialogue.conn.transactionDescriptor = .ok bytes)
    {answer : Answer} {later : List Answer} (next : dialogue.answers = answer :: later)
    (opened : self.stream ≠ .taken) (admitted : self.Admits answer.packets) :
    ∃ sent after, self.writeAll request bytes world = (.ok (), sent) ∧ sent.conn = dialogue.conn ∧
      self.readMessage sent = (.ok answer.message, after) ∧
      Tracks { dialogue with answers := later, asked := dialogue.asked ++ [request] } after := by
  obtain ⟨packetType, payload, encoded⟩ := encoded_of_packet built
  obtain ⟨sent, written, behind⟩ := writeAll_served opened request encoded tracks.serves
  obtain ⟨reply, replies⟩ := tracks.reply next
  have conn : sent.conn = world.conn := by rw [behind.same]; rfl
  have incoming : sent.link.incoming = answer.bytes := by
    rw [behind.same]
    change world.link.incoming ++ world.link.replies[world.link.delivered.length]?.getD [] = _
    rw [tracks.drained, reply, List.nil_append]
  have message : MessageAt answer.packetType none answer.packets sent.link.incoming [] :=
    ⟨by rw [incoming, List.append_nil, Answer.bytes], answer.terminated, answer.contiguous⟩
  obtain ⟨after, read, drained⟩ := readMessage_served opened admitted behind.serves message
  have alike := (triple_readMessage self sent).ok (.refl sent) read
  have serves := (serves_readMessage self).ok behind.serves read
  refine ⟨sent, after, written, conn.trans tracks.conn, read, ?_⟩
  have delivered : sent.link.delivered = world.link.delivered ++ [request] := by
    rw [behind.same]
    rfl
  have kept : sent.link.replies = world.link.replies := by
    rw [behind.same]
    rfl
  refine ⟨alike.conn.trans (conn.trans tracks.conn), serves, drained, ?_, ?_⟩
  · rw [alike.delivered]
    exact delivered.trans (by rw [tracks.delivered])
  · rw [alike.replies]
    change sent.link.replies.drop (dialogue.asked ++ [request]).length = later.map Answer.bytes
    rw [kept, List.length_append, ← tracks.delivered]
    exact replies

theorem stream_eq (world : World) : stream world = (match world.conn.stream with
    | some stream => pure stream
    | none => .fail wireNotImplemented : Task MssqlWireStream) world := rfl

variable [ErrorDisplay]

/-- The next answer is read, unless one of its packets is longer than the packet size: that is
outside of the model, like an answer that does not come. -/
def Dialogue.answered (request : Request) (stream : MssqlWireStream) :
    List Answer → Async Error Dialogue QueryOutput
  | [] => .drop
  | answer :: later =>
    if stream.stream ≠ .taken ∧ stream.Admits answer.packets then do
      .modify fun self => { self with answers := later, asked := self.asked ++ [request] }
      let output ← .ofOutcome (answer.message.outcome request.operation)
      .modify (Dialogue.update (·.applyEnvChanges output.envChanges))
      return output
    else .drop

def Dialogue.ask (request : Request) : Async Error Dialogue QueryOutput := do
  let self ← .get
  match self.conn.stream with
  | none => .fail wireNotImplemented
  | some stream => do
    let _ ← .ofOutcome (request.packet stream.packetSize self.conn.transactionDescriptor)
    Dialogue.answered request stream self.answers

def idealPort : Port Dialogue where
  conn := Dialogue.conn
  update := Dialogue.update
  ask := Dialogue.ask

theorem admitted_simulated {request : Request} {self : MssqlWireStream} {dialogue : Dialogue}
    {world : World} (tracks : Tracks dialogue world) (stream : dialogue.conn.stream = some self)
    {bytes : Bytes}
    (built : request.packet self.packetSize dialogue.conn.transactionDescriptor = .ok bytes)
    {answer : Answer} {later : List Answer} (next : dialogue.answers = answer :: later)
    (opened : self.stream ≠ .taken) (admitted : self.Admits answer.packets) :
    Async.SimulatesAt Tracks (do
      .modify fun self => { self with answers := later, asked := self.asked ++ [request] }
      let output ← .ofOutcome (answer.message.outcome request.operation)
      .modify (Dialogue.update (·.applyEnvChanges output.envChanges))
      return output : Async Error Dialogue QueryOutput) (do
      (self.writeAll request bytes).mapErr (contextError request.sendContext)
      readQueryResponse request.operation) dialogue world := by
  obtain ⟨sent, after, written, conn, read, tracked⟩ :=
    tracks.exchanged built next opened admitted
  have mapped : ((self.writeAll request bytes).mapErr (contextError request.sendContext)) world =
      (.ok (), sent) := by
    rw [Async.mapErr, written]
  have sentStream : sent.conn.stream = some self := by rw [conn, stream]
  have tail : Async.Simulates Tracks (do
      let output ← .ofOutcome (answer.message.outcome request.operation)
      .modify (Dialogue.update (·.applyEnvChanges output.envChanges))
      return output : Async Error Dialogue QueryOutput) (do
      let output ← .ofOutcome (answer.message.outcome request.operation)
      .modify (World.updateConn (·.applyEnvChanges output.envChanges))
      return output) :=
    (Async.simulates_ofOutcome _).bind fun output =>
      (Async.simulates_modify (tracks_update _)).bind fun _ => Async.simulates_pure output
  unfold Async.SimulatesAt
  rw [Async.bind_ok mapped, readQueryResponse_of_read sentStream read]
  exact tail _ after tracked

/-- An answer that is read to its end has its outcome, and the dialogue goes on behind it. -/
theorem answered_simulated {request : Request} {self : MssqlWireStream} {dialogue : Dialogue}
    {world : World} (tracks : Tracks dialogue world) (stream : dialogue.conn.stream = some self)
    {bytes : Bytes}
    (built : request.packet self.packetSize dialogue.conn.transactionDescriptor = .ok bytes) :
    Async.SimulatesAt Tracks (Dialogue.answered request self dialogue.answers) (do
      (self.writeAll request bytes).mapErr (contextError request.sendContext)
      readQueryResponse request.operation) dialogue world := by
  cases next : dialogue.answers with
  | nil => exact .inl rfl
  | cons answer later =>
    by_cases both : self.stream ≠ .taken ∧ self.Admits answer.packets
    · rw [Dialogue.answered, if_pos both]
      exact admitted_simulated tracks stream built next both.1 both.2
    · rw [Dialogue.answered, if_neg both]
      exact .inl rfl

theorem exchange_opened {request : Request} {self : MssqlWireStream} {world : World}
    (found : world.conn.stream = some self) : exchange request world = (do
      let packet ← .ofOutcome
        (request.packet self.packetSize world.conn.transactionDescriptor)
      (self.writeAll request packet).mapErr (contextError request.sendContext)
      readQueryResponse request.operation : Task QueryOutput) world := by
  have streamed : stream world = (.ok self, world) := by
    rw [stream_eq, found]
    rfl
  have looked : (Async.get : Task World) world = (.ok world, world) := rfl
  rw [exchange, Async.bind_ok looked, Async.bind_ok streamed]

theorem exchange_closed {request : Request} {world : World} (missing : world.conn.stream = none) :
    exchange request world = (.err wireNotImplemented, world) := by
  have streamed : stream world = (.err wireNotImplemented, world) := by
    rw [stream_eq, missing]
    rfl
  have looked : (Async.get : Task World) world = (.ok world, world) := rfl
  rw [exchange, Async.bind_ok looked, Async.bind_apply, streamed]

theorem ask_opened {request : Request} {self : MssqlWireStream} {dialogue : Dialogue}
    (found : dialogue.conn.stream = some self) : Dialogue.ask request dialogue = (do
      let _ ← .ofOutcome (request.packet self.packetSize dialogue.conn.transactionDescriptor)
      Dialogue.answered request self dialogue.answers : Async Error Dialogue QueryOutput)
        dialogue := by
  have looked : (Async.get : Async Error Dialogue Dialogue) dialogue = (.ok dialogue, dialogue) := rfl
  rw [Dialogue.ask, Async.bind_ok looked, found]

theorem ask_closed {request : Request} {dialogue : Dialogue} (missing : dialogue.conn.stream = none) :
    Dialogue.ask request dialogue = (.err wireNotImplemented, dialogue) := by
  have looked : (Async.get : Async Error Dialogue Dialogue) dialogue = (.ok dialogue, dialogue) := rfl
  rw [Dialogue.ask, Async.bind_ok looked, missing]
  rfl

theorem ask_simulated (request : Request) :
    Async.Simulates Tracks (Dialogue.ask request) (exchange request) := by
  intro dialogue world tracks
  unfold Async.SimulatesAt
  cases found : dialogue.conn.stream with
  | none =>
    rw [ask_closed found, exchange_closed (tracks.conn ▸ found)]
    exact .inr ⟨world, rfl, tracks⟩
  | some self =>
    rw [ask_opened found, exchange_opened (tracks.conn ▸ found), tracks.conn]
    cases built : request.packet self.packetSize dialogue.conn.transactionDescriptor with
    | ok bytes => exact answered_simulated tracks found built
    | err error => exact .inr ⟨world, rfl, tracks⟩
    | panic message => exact .inr ⟨world, rfl, tracks⟩

/-- The connection refines the ideal client. -/
theorem wirePort_refines : idealPort.Refines wirePort Tracks where
  conn _ _ tracks := tracks.conn
  update := tracks_update
  ask := ask_simulated

/-- A session over a transport that serves is the session of the ideal client, call by call: every
call ends as it does there, with what was answered to its own request, also where the answer is an
error of the server or the request cannot be built, and behind every call nothing is unread. -/
theorem session_refines (calls : List Call) {dialogue : Dialogue} {world : World}
    (tracks : Tracks dialogue world)
    (answered : ∀ completion ∈ (Async.each idealPort.call calls dialogue).1, completion ≠ .dropped) :
    (Async.each Call.output calls world).1 = (Async.each idealPort.call calls dialogue).1 ∧
      Tracks (Async.each idealPort.call calls dialogue).2 (Async.each Call.output calls world).2 := by
  rw [← funext call_wirePort]
  exact Async.Simulates.each wirePort_refines.call calls tracks answered

end dialogues

section samples

def Answer.single (payload : Bytes) (short : packetHeaderLen + payload.length < 65536) : Answer where
  packetType := .tabularResult
  packets := [⟨.new .tabularResult .endOfMessage (UInt16.ofNat (packetHeaderLen + payload.length)) 1,
    payload, by rw [PacketHeader.new, UInt16.toNat_ofNat', Nat.mod_eq_of_lt short]⟩]
  terminated := rfl
  contiguous := ⟨rfl, (fun _ same => by cases same), trivial⟩

def errorBytes : Bytes :=
  [0xaa, 18, 0, 0x50, 0xc3, 0, 0, 1, 16, 2, 0, 110, 0, 111, 0, 0, 0, 1, 0, 0, 0] ++ doneBytes

def doneAnswer : Answer := .single doneBytes (by decide)

def sampleDialogue : Dialogue where
  conn := (World.fresh []).conn
  answers := [.single countedBytes (by decide), .single errorBytes (by decide), doneAnswer]
  asked := []

def sampleWorld : World := .fresh [answer countedBytes, answer errorBytes, answer doneBytes]

theorem sample_tracks : Tracks sampleDialogue sampleWorld :=
  ⟨rfl, fun _ member => absurd member List.not_mem_nil, rfl, rfl, by decide⟩

def sampleCalls : List Call := [.runSqlBatch "x", .runSqlBatch "y", .begin none, .startRollback]

/-- The second batch is refused by the server, and the calls behind it go on. -/
theorem session_refines_sample :
    (Async.each Call.output sampleCalls sampleWorld).1 =
      [.ok (some (countedOutput 1)),
        .err (.protocol ("failed to parse SQL Server SQL batch response: " ++
          ErrorDisplay.display (.database ⟨50000, 1, 16, "no", "", "", 1⟩))),
        .ok none, .ok none] ∧
      (Async.each Call.output sampleCalls sampleWorld).2.link.incoming = [] := by
  have answered : ∀ completion ∈ (Async.each idealPort.call sampleCalls sampleDialogue).1,
      completion ≠ .dropped := by
    decide +kernel
  obtain ⟨same, tracks⟩ := session_refines sampleCalls sample_tracks answered
  rw [same]
  exact ⟨by decide +kernel, tracks.drained⟩

end samples
end SqlxSqlserver.Driver

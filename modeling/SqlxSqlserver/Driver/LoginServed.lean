import SqlxSqlserver.Driver.Establish
import SqlxSqlserver.Driver.LoginPath
import SqlxSqlserver.Driver.Session

/-! A login over a transport that serves. It ends as the two answers of the server say, together
with the datagram of the browser service and the end of the handshake, where they are asked for. -/

namespace SqlxSqlserver.Driver
open Foundation Protocol

structure LoginAnswers where
  datagram : Option Bytes
  handshake : Handshake
  answers : LoginMessage → Answer

section ideal

def LoginAnswers.awaitDatagram (server instanceName : String) : Async Error LoginAnswers Bytes := do
  match (← .get).datagram with
  | some datagram => return datagram.take 1024
  | none => .fail (.protocol s!"SSRP request to {server} for instance {instanceName} timed out")

def LoginAnswers.findPort (options : MssqlConnectOptions) : Async Error LoginAnswers UInt16 :=
  match options.port, options.instanceName with
  | some port, _ => pure port
  | none, some instanceName => do
    let datagram ← LoginAnswers.awaitDatagram options.host instanceName
    .ofOutcome (.ofExcept (parseSsrpResponse datagram instanceName))
  | none, none => pure 1433

/-- An answer with a packet longer than the packet size is outside of the model. -/
def LoginAnswers.ask (stream : MssqlWireStream) (message : LoginMessage)
    (packet : Outcome String Bytes) : Async Error LoginAnswers Bytes := do
  let _ ← .ofOutcome (packet.mapErr fun error =>
    .protocol ("failed to build SQL Server " ++ message.name ++ " packet: " ++ error))
  let self ← .get
  if stream.Admits (self.answers message).packets then
    .ofOutcome (.ofExcept (tabularPayload message (self.answers message).message))
  else .drop

variable {Certificate : Type} (library : TlsLibrary Certificate)

def LoginAnswers.awaitHandshake (options : MssqlConnectOptions) : Async Error LoginAnswers Unit := do
  match (← .get).handshake with
  | .done => return ()
  | .failed message => .fail (handshakeError options message)
  | .dropped => .drop

def LoginAnswers.upgrade (options : MssqlConnectOptions) (encrypted : Bool) :
    Async Error LoginAnswers MssqlWireStream :=
  if encrypted then do
    let _ ← .ofOutcome (.ofExcept (buildTlsConnector library options))
    LoginAnswers.awaitHandshake options
    return { MssqlWireStream.connect options with stream := .tls }
  else pure (MssqlWireStream.connect options)

def LoginAnswers.login (options : MssqlConnectOptions) : Async Error LoginAnswers MssqlConnection := do
  let _ ← LoginAnswers.findPort options
  let preLogin ← LoginAnswers.ask (MssqlWireStream.connect options) .preLogin
    ((buildPreLoginPacket options).mapErr (LoginPacketError.message PreLoginError.message))
  let encrypted ← .ofOutcome (.ofExcept (agreeOnEncryption options preLogin))
  let stream ← LoginAnswers.upgrade library options encrypted
  let login ← LoginAnswers.ask stream .login7
    ((buildLogin7Packet options).mapErr (LoginPacketError.message Login7Error.message))
  .ofOutcome (acceptLogin stream login)

end ideal

section serving
variable {Certificate : Type}

/-- The other ends answer so, the transport serves, and nothing is unread. -/
structure Serving (answers : LoginAnswers) (world : LoginWorld Certificate) : Prop where
  fates : ∀ fate ∈ world.fates, fate = .ready
  datagram : world.datagram = answers.datagram
  handshake : world.handshake = answers.handshake
  replies : ∀ message, world.replies message = (answers.answers message).bytes
  drained : world.incoming = []

variable {answers : LoginAnswers} {world : LoginWorld Certificate}

theorem Serving.link (serving : Serving answers world) : world.link.Serves := serving.fates

theorem Serving.record (serving : Serving answers world) (event : LoginEvent Certificate) :
    Serving answers (world.record event) :=
  ⟨serving.fates, serving.datagram, serving.handshake, serving.replies, serving.drained⟩

theorem overLink_later {α : Type} {action : Task α} {value : α}
    (done : ∀ inner : World, inner.Serves →
      ∃ after, action inner = (.ok value, after) ∧ inner.Later after)
    (served : world.link.Serves) : ∃ fates, (∀ fate ∈ fates, fate = Fate.ready) ∧
      (overLink action : Login Certificate α) world = (.ok value, { world with fates }) := by
  obtain ⟨after, ran, later⟩ := done world.link served
  refine ⟨after.link.fates, later.serves, ?_⟩
  rw [overLink, Async.zoom_ok ran, LoginWorld.withLink]
  have incoming : after.link.incoming = world.incoming := by
    rw [later.same]
    rfl
  rw [incoming]

theorem simulates_overLink {α : Type} {action : Task α} {value : α}
    (done : ∀ inner : World, inner.Serves →
      ∃ after, action inner = (.ok value, after) ∧ inner.Later after) :
    Async.Simulates Serving (pure value) (overLink action : Login Certificate α) := by
  intro answers world serving
  obtain ⟨fates, ready, ran⟩ := overLink_later done serving.link
  exact .inr ⟨_, ran, ready, serving.datagram, serving.handshake, serving.replies, serving.drained⟩

theorem simulates_record (event : LoginEvent Certificate) :
    Async.Simulates Serving (pure ()) (.modify (LoginWorld.record event) : Login Certificate Unit) :=
  fun _ world serving => .inr ⟨world.record event, rfl, serving.record event⟩

theorem simulates_awaitDatagram (server instanceName : String) :
    Async.Simulates Serving (LoginAnswers.awaitDatagram server instanceName)
      (awaitDatagram server instanceName : Login Certificate Bytes) := by
  apply (simulates_overLink fun _ serves => nextFate_served serves).behind
  apply Async.simulates_inspect
  intro answers world serving
  rw [serving.datagram]
  cases answers.datagram with
  | some datagram => exact Async.simulates_pure _
  | none => exact Async.simulates_fail _

theorem simulates_findPort (options : MssqlConnectOptions) :
    Async.Simulates Serving (LoginAnswers.findPort options)
      (findPort options : Login Certificate UInt16) := by
  unfold LoginAnswers.findPort findPort
  cases options.port with
  | some port => exact Async.simulates_pure port
  | none =>
    cases options.instanceName with
    | none => exact Async.simulates_pure 1433
    | some instanceName =>
      dsimp only [resolveInstancePort]
      apply (simulates_overLink fun _ serves => awaitWrite_served serves).behind
      apply (simulates_record _).behind
      apply (simulates_overLink fun _ serves => awaitWrite_served serves).behind
      exact (simulates_awaitDatagram _ _).bind fun _ => Async.simulates_ofOutcome _

theorem simulates_awaitConnect (options : MssqlConnectOptions) (port : UInt16) :
    Async.Simulates Serving (pure ()) (awaitConnect options port : Login Certificate Unit) :=
  (simulates_overLink fun _ serves => nextFate_served serves).behind (Async.simulates_pure ())

end serving

section messages
variable {Certificate : Type} {answers : LoginAnswers} {world : LoginWorld Certificate}

theorem send_opened {self : MssqlWireStream} (opened : self.stream ≠ .taken) (message : LoginMessage)
    (bytes : Bytes) : (self.send message bytes : Login Certificate Unit) = (do
      .modify (LoginWorld.record (.sent message self.stream bytes))
      overLink (writePackets bytes (bytes.length + 1) 0)
      .modify (LoginWorld.deliver message)
      overLink awaitWrite) := by
  unfold MssqlWireStream.send
  split
  · rfl
  · rfl
  next taken => exact absurd taken opened

theorem send_served (serving : Serving answers world) {self : MssqlWireStream}
    (opened : self.stream ≠ .taken) (message : LoginMessage) {packetType : PacketType}
    {payload bytes : Bytes} {packetSize : Nat}
    (encoded : encodeMessage packetType payload packetSize = .ok bytes) :
    ∃ fates trace, (∀ fate ∈ fates, fate = Fate.ready) ∧
      (self.send message bytes : Login Certificate Unit) world =
        (.ok (), { world with fates, trace, incoming := (answers.answers message).bytes }) := by
  let recorded := world.record (.sent message self.stream bytes)
  have served : recorded.link.Serves := serving.fates
  obtain ⟨fates, ready, written⟩ :=
    overLink_later (fun _ serves => writePackets_served encoded serves) served
  let delivered := LoginWorld.deliver message { recorded with fates }
  have behind : delivered.link.Serves := ready
  obtain ⟨last, lastReady, flushed⟩ :=
    overLink_later (fun _ serves => awaitWrite_served serves) behind
  refine ⟨last, recorded.trace, lastReady, ?_⟩
  have incoming : delivered.incoming = (answers.answers message).bytes := by
    change world.incoming ++ world.replies message = _
    rw [serving.drained, serving.replies, List.nil_append]
  rw [send_opened opened]
  have noted : (Async.modify (LoginWorld.record (.sent message self.stream bytes)) :
      Login Certificate Unit) world = (.ok (), recorded) := rfl
  have handed : (Async.modify (LoginWorld.deliver message) : Login Certificate Unit)
      { recorded with fates } = (.ok (), delivered) := rfl
  rw [Async.bind_ok noted, Async.bind_ok written, Async.bind_ok handed, flushed, ← incoming]
  rfl

theorem receive_served {self : MssqlWireStream} (opened : self.stream ≠ .taken) {answer : Answer}
    (admitted : self.Admits answer.packets) (served : world.link.Serves)
    (incoming : world.incoming = answer.bytes) :
    ∃ fates trace, (∀ fate ∈ fates, fate = Fate.ready) ∧
      (self.receive : Login Certificate WireMessage) world =
        (.ok answer.message, { world with fates, trace, incoming := [] }) := by
  have message : MessageAt answer.packetType none answer.packets world.link.link.incoming [] :=
    ⟨by rw [List.append_nil]; exact incoming, answer.terminated, answer.contiguous⟩
  obtain ⟨after, read, drained⟩ := readMessage_served opened admitted served message
  have ready := (serves_readMessage self).ok served read
  refine ⟨after.link.fates, world.trace ++ [.received answer.message], ready, ?_⟩
  have zoomed : (overLink self.readMessage : Login Certificate WireMessage) world =
      (.ok answer.message, { world with fates := after.link.fates, incoming := [] }) := by
    rw [overLink, Async.zoom_ok read, LoginWorld.withLink, drained]
    rfl
  rw [MssqlWireStream.receive, Async.bind_ok zoomed]
  rfl

variable [ErrorDisplay]

/-- A message that is written brings its answer. -/
theorem ask_served (serving : Serving answers world) {self : MssqlWireStream}
    (opened : self.stream ≠ .taken) {message : LoginMessage} {packetType : PacketType}
    {payload bytes : Bytes} {packetSize : Nat}
    (encoded : encodeMessage packetType payload packetSize = .ok bytes)
    (admitted : self.Admits (answers.answers message).packets) :
    ∃ after, Serving answers after ∧
      (self.ask message (.ok bytes) : Login Certificate Bytes) world =
        (ofResult (tabularPayload message (answers.answers message).message) :
          Login Certificate Bytes) after := by
  obtain ⟨fates, trace, ready, sent⟩ := send_served serving opened message encoded
  let middle : LoginWorld Certificate :=
    { world with fates, trace, incoming := (answers.answers message).bytes }
  have served : middle.link.Serves := ready
  obtain ⟨last, events, lastReady, read⟩ := receive_served opened admitted served rfl
  refine ⟨{ middle with fates := last, trace := events, incoming := [] },
    ⟨lastReady, serving.datagram, serving.handshake, serving.replies, rfl⟩, ?_⟩
  have mapped : ((self.send message bytes : Login Certificate Unit).mapErr
      (contextError ("failed to send SQL Server " ++ message.name ++ " packet"))) world =
        (.ok (), middle) := by
    rw [Async.mapErr, sent]
  have received : ((self.receive : Login Certificate WireMessage).mapErr
      (contextError ("failed to read SQL Server " ++ message.name ++ " response"))) middle =
        (.ok (answers.answers message).message,
          { middle with fates := last, trace := events, incoming := [] }) := by
    rw [Async.mapErr, read]
  have built : (Async.ofOutcome ((Outcome.ok bytes : Outcome String Bytes).mapErr fun error =>
      Error.protocol ("failed to build SQL Server " ++ message.name ++ " packet: " ++ error)) :
        Login Certificate Bytes) world = (.ok bytes, world) := rfl
  rw [MssqlWireStream.ask, Async.bind_ok built, Async.bind_ok mapped, Async.bind_ok received]

theorem simulates_ask {self : MssqlWireStream} (opened : self.stream ≠ .taken)
    (message : LoginMessage) (packet : Outcome String Bytes)
    (framed : ∀ bytes, packet = .ok bytes →
      ∃ packetType payload packetSize, encodeMessage packetType payload packetSize = .ok bytes) :
    Async.Simulates Serving (LoginAnswers.ask self message packet)
      (self.ask message packet : Login Certificate Bytes) := by
  intro answers world serving
  cases packet with
  | ok bytes =>
    obtain ⟨packetType, payload, packetSize, encoded⟩ := framed bytes rfl
    have looked : LoginAnswers.ask self message (.ok bytes) answers =
        (if self.Admits (answers.answers message).packets then
          .ofOutcome (.ofExcept (tabularPayload message (answers.answers message).message))
        else .drop : Async Error LoginAnswers Bytes) answers := rfl
    unfold Async.SimulatesAt
    rw [looked]
    by_cases admitted : self.Admits (answers.answers message).packets
    · obtain ⟨after, serves, asked⟩ := ask_served serving opened encoded admitted
      rw [if_pos admitted, asked]
      exact Async.simulates_ofOutcome _ answers after serves
    · rw [if_neg admitted]
      exact .inl rfl
  | err error => exact .inr ⟨world, rfl, serving⟩
  | panic text => exact .inr ⟨world, rfl, serving⟩

end messages

section login
variable {Certificate : Type} (library : TlsLibrary Certificate) (options : MssqlConnectOptions)

theorem simulates_awaitHandshake (connector : TlsConnector Certificate) :
    Async.Simulates Serving (LoginAnswers.awaitHandshake options)
      (awaitHandshake options connector : Login Certificate Unit) := by
  have emptied : Async.Simulates Serving (pure ())
      (.modify fun world => { world with incoming := [] } : Login Certificate Unit) :=
    fun _ world serving => .inr ⟨{ world with incoming := [] }, rfl,
      serving.fates, serving.datagram, serving.handshake, serving.replies, rfl⟩
  apply emptied.behind
  apply Async.simulates_inspect
  intro answers world serving
  rw [serving.handshake]
  cases answers.handshake with
  | done => exact simulates_record _
  | failed message => exact Async.simulates_fail _
  | dropped => exact Async.simulates_drop

/-- What follows the upgrade may count on a stream that is not taken. -/
theorem simulates_upgrade {α : Type} (encrypted : Bool)
    {modelNext : MssqlWireStream → Async Error LoginAnswers α}
    {next : MssqlWireStream → Login Certificate α}
    (tail : ∀ stream : MssqlWireStream, stream.stream ≠ .taken →
      Async.Simulates Serving (modelNext stream) (next stream)) :
    Async.Simulates Serving (LoginAnswers.upgrade library options encrypted >>= modelNext)
      ((MssqlWireStream.connect options).upgrade library options encrypted >>= next) := by
  cases encrypted with
  | false => exact tail _ (by simp [MssqlWireStream.connect])
  | true =>
    have secured := tail { MssqlWireStream.connect options with stream := .tls } (by simp)
    change Async.Simulates Serving
      ((Async.ofOutcome (.ofExcept (buildTlsConnector library options)) >>= fun _ =>
        LoginAnswers.awaitHandshake options >>= fun _ => pure _) >>= modelNext)
      ((ofResult (buildTlsConnector library options) >>= fun connector =>
        awaitHandshake options connector >>= fun _ => pure _) >>= next)
    simp only [Async.bind_assoc]
    apply (Async.simulates_ofOutcome _).bind
    intro connector
    exact (simulates_awaitHandshake options connector).bind fun _ => secured

variable [ErrorDisplay]

theorem simulates_establish : Async.Simulates Serving (LoginAnswers.login library options)
    (MssqlConnection.establish library options) := by
  have framed : ∀ {ε : Type} {packetType : PacketType} {payload : Except ε Bytes}
      (message : LoginPacketError ε → String) bytes,
      (frameLogin packetType payload options).mapErr message = .ok bytes →
      ∃ packetType payload packetSize, encodeMessage packetType payload packetSize = .ok bytes := by
    intro ε packetType payload message bytes built
    obtain ⟨body, _, encoded⟩ := encoded_of_frameLogin (Outcome.ok_of_mapErr built)
    exact ⟨_, _, _, encoded⟩
  have raw : (MssqlWireStream.connect options).stream ≠ .taken := by simp [MssqlWireStream.connect]
  simp only [LoginAnswers.login, MssqlConnection.establish, openStream, Async.bind_assoc]
  apply (simulates_findPort options).bind
  intro port
  apply (simulates_record _).behind
  apply (simulates_awaitConnect options port).behind
  apply (simulates_ask raw .preLogin _ (framed _)).bind
  intro preLogin
  apply (Async.simulates_ofOutcome _).bind
  intro encrypted
  apply simulates_upgrade
  intro stream upgraded
  exact (simulates_ask upgraded .login7 _ (framed _)).bind fun _ => Async.simulates_ofOutcome _

end login

section outcome
variable {Certificate : Type} (library : TlsLibrary Certificate) (options : MssqlConnectOptions)
  {answers : LoginAnswers}

/-- The packet size of the options admits both answers, and the handshake comes to an end. -/
structure LoginAnswers.Whole (answers : LoginAnswers) (options : MssqlConnectOptions) : Prop where
  admitted : ∀ message, (MssqlWireStream.connect options).Admits (answers.answers message).packets
  handshake : answers.handshake ≠ .dropped

theorem speaks_findPort : Async.Speaks (· = answers) (LoginAnswers.findPort options) := by
  unfold LoginAnswers.findPort
  split
  · exact Async.speaks_pure _
  · refine Async.Speaks.bind (Async.speaks_inspect fun self same => ?_) fun _ =>
      Async.speaks_ofOutcome _
    cases self.datagram with
    | some datagram => exact Async.speaks_pure _
    | none => exact Async.speaks_fail _
  · exact Async.speaks_pure _

theorem speaks_ask (whole : answers.Whole options) {stream : MssqlWireStream}
    (sized : stream.packetSize = (MssqlWireStream.connect options).packetSize)
    (message : LoginMessage) (packet : Outcome String Bytes) :
    Async.Speaks (· = answers) (LoginAnswers.ask stream message packet) := by
  apply (Async.speaks_ofOutcome _).bind
  intro _
  apply Async.speaks_inspect
  intro self same
  have admitted : stream.Admits (self.answers message).packets := by
    intro packet member
    rw [same] at member
    rw [sized]
    exact whole.admitted message packet member
  rw [if_pos admitted]
  exact Async.speaks_ofOutcome _

theorem speaks_upgrade (whole : answers.Whole options) {α : Type} (encrypted : Bool)
    {next : MssqlWireStream → Async Error LoginAnswers α}
    (tail : ∀ stream : MssqlWireStream,
      stream.packetSize = (MssqlWireStream.connect options).packetSize →
      Async.Speaks (· = answers) (next stream)) :
    Async.Speaks (· = answers) (LoginAnswers.upgrade library options encrypted >>= next) := by
  cases encrypted with
  | false => exact tail _ rfl
  | true =>
    have secured := tail { MssqlWireStream.connect options with stream := .tls } rfl
    change Async.Speaks _ ((Async.ofOutcome (.ofExcept (buildTlsConnector library options)) >>= fun _ =>
      LoginAnswers.awaitHandshake options >>= fun _ => pure _) >>= next)
    simp only [Async.bind_assoc]
    refine (Async.speaks_ofOutcome _).bind fun _ => Async.Speaks.bind ?_ fun _ => secured
    apply Async.speaks_inspect
    intro self same
    cases ended : self.handshake with
    | done => exact Async.speaks_pure _
    | failed message => exact Async.speaks_fail _
    | dropped => exact absurd (same ▸ ended) whole.handshake

theorem login_spoken (whole : answers.Whole options) :
    (LoginAnswers.login library options answers).1 ≠ .dropped := by
  have speaks : Async.Speaks (· = answers) (LoginAnswers.login library options) := by
    apply (speaks_findPort options).bind
    intro _
    apply (speaks_ask options whole rfl _ _).bind
    intro preLogin
    apply (Async.speaks_ofOutcome _).bind
    intro encrypted
    apply speaks_upgrade library options whole
    intro stream sized
    exact (speaks_ask options whole sized _ _).bind fun _ => Async.speaks_ofOutcome _
  exact (speaks answers rfl).1

end outcome

section success
variable {Certificate : Type} (library : TlsLibrary Certificate) (options : MssqlConnectOptions)
  {answers after : LoginAnswers}

/-- The port is known, or the browser service tells it in its datagram. -/
def LoginAnswers.Locates (self : LoginAnswers) (options : MssqlConnectOptions) (port : UInt16) : Prop :=
  DirectPort options port ∨ options.port = none ∧ ∃ instanceName datagram,
    options.instanceName = some instanceName ∧ self.datagram = some datagram ∧
      parseSsrpResponse (datagram.take 1024) instanceName = .ok port

theorem awaitDatagram_ok_iff (server instanceName : String) (bytes : Bytes) :
    LoginAnswers.awaitDatagram server instanceName answers = (.ok bytes, after) ↔
      (∃ datagram, answers.datagram = some datagram ∧ bytes = datagram.take 1024) ∧ after = answers := by
  have looked : LoginAnswers.awaitDatagram server instanceName answers = (match answers.datagram with
      | some datagram => pure (datagram.take 1024)
      | none => .fail (.protocol s!"SSRP request to {server} for instance {instanceName} timed out") :
        Async Error LoginAnswers Bytes) answers := rfl
  rw [looked]
  cases answers.datagram with
  | some datagram => simp [eq_comm]
  | none => simp [Async.fail]

theorem findPort_ok_iff (port : UInt16) :
    LoginAnswers.findPort options answers = (.ok port, after) ↔
      answers.Locates options port ∧ after = answers := by
  unfold LoginAnswers.findPort LoginAnswers.Locates DirectPort
  cases options.port with
  | some known => simp [eq_comm]
  | none =>
    cases options.instanceName with
    | none => simp [eq_comm]
    | some instanceName =>
      dsimp only
      rw [Async.bind_eq_ok_iff]
      simp only [awaitDatagram_ok_iff, Async.ofOutcome_ok_iff, Outcome.ofExcept_ok_iff]
      constructor
      · rintro ⟨bytes, middle, ⟨⟨datagram, answered, rfl⟩, rfl⟩, found, rfl⟩
        exact ⟨.inr ⟨trivial, instanceName, datagram, rfl, answered, found⟩, rfl⟩
      · rintro ⟨direct | ⟨_, _, datagram, same, answered, found⟩, rfl⟩
        · simp at direct
        · cases same
          exact ⟨_, _, ⟨⟨datagram, answered, rfl⟩, rfl⟩, found, rfl⟩

theorem tabularPayload_ok_iff {message : LoginMessage} {response : WireMessage} {payload : Bytes} :
    tabularPayload message response = .ok payload ↔
      response.packetType = .tabularResult ∧ payload = response.payload := by
  unfold tabularPayload
  by_cases tabular : response.packetType = .tabularResult
  · simp [tabular, eq_comm]
  · simp [tabular]

theorem ask_ok_iff {stream : MssqlWireStream} {message : LoginMessage}
    (admitted : stream.Admits (answers.answers message).packets) (packet : Outcome String Bytes)
    (payload : Bytes) :
    LoginAnswers.ask stream message packet answers = (.ok payload, after) ↔
      (∃ bytes, packet = .ok bytes) ∧ (answers.answers message).packetType = .tabularResult ∧
        payload = (answers.answers message).message.payload ∧ after = answers := by
  cases packet with
  | ok bytes =>
    have looked : LoginAnswers.ask stream message (.ok bytes) answers =
        (if stream.Admits (answers.answers message).packets then
          .ofOutcome (.ofExcept (tabularPayload message (answers.answers message).message))
        else .drop : Async Error LoginAnswers Bytes) answers := rfl
    rw [looked, if_pos admitted, Async.ofOutcome_ok_iff, Outcome.ofExcept_ok_iff,
      tabularPayload_ok_iff, Answer.message]
    simp [and_assoc]
  | err error =>
    refine iff_of_false (fun same => ?_) fun ⟨⟨bytes, same⟩, _⟩ => ?_
    · cases same
    · cases same
  | panic text =>
    refine iff_of_false (fun same => ?_) fun ⟨⟨bytes, same⟩, _⟩ => ?_
    · cases same
    · cases same

theorem upgrade_ok_iff (encrypted : Bool) (stream : MssqlWireStream) :
    LoginAnswers.upgrade library options encrypted answers = (.ok stream, after) ↔
      (encrypted = true → (∃ connector, buildTlsConnector library options = .ok connector) ∧
        answers.handshake = .done) ∧
      stream = { MssqlWireStream.connect options with stream := if encrypted then .tls else .raw } ∧
      after = answers := by
  cases encrypted with
  | false => simp [LoginAnswers.upgrade, MssqlWireStream.connect, eq_comm]
  | true =>
    have ended : ∀ last, LoginAnswers.awaitHandshake options answers = (.ok (), last) ↔
        answers.handshake = .done ∧ last = answers := by
      intro last
      have looked : LoginAnswers.awaitHandshake options answers = (match answers.handshake with
          | .done => pure ()
          | .failed message => .fail (handshakeError options message)
          | .dropped => .drop : Async Error LoginAnswers Unit) answers := rfl
      rw [looked]
      cases answers.handshake <;> simp [Async.fail, Async.drop, eq_comm]
    unfold LoginAnswers.upgrade
    rw [if_pos rfl, Async.bind_eq_ok_iff]
    simp only [Async.ofOutcome_ok_iff, Outcome.ofExcept_ok_iff, Async.bind_eq_ok_iff]
    constructor
    · rintro ⟨connector, _, ⟨built, rfl⟩, ⟨⟩, last, shaken, same⟩
      obtain ⟨done, rfl⟩ := (ended last).mp shaken
      cases same
      exact ⟨fun _ => ⟨⟨connector, built⟩, done⟩, rfl, rfl⟩
    · rintro ⟨secured, rfl, rfl⟩
      obtain ⟨⟨connector, built⟩, done⟩ := secured trivial
      exact ⟨connector, _, ⟨built, rfl⟩, (), _, (ended _).mpr ⟨done, rfl⟩, rfl⟩

structure LoginAnswers.Accepts (answers : LoginAnswers) (encrypted : Bool)
    (changes : List EnvChange) : Prop where
  located : ∃ port, answers.Locates options port
  preLogin : ∃ bytes, buildPreLoginPacket options = .ok bytes
  agreed : Agreed options (answers.answers .preLogin).message encrypted
  secured : encrypted = true →
    (∃ connector, buildTlsConnector library options = .ok connector) ∧ answers.handshake = .done
  login7 : ∃ bytes, buildLogin7Packet options = .ok bytes
  tabular : (answers.answers .login7).packetType = .tabularResult
  accepted : ∃ ack, parseLoginResponse (answers.answers .login7).message.payload =
    .ok (.success ack changes)

theorem acceptLogin_ok_iff (stream : MssqlWireStream) (payload : Bytes) (conn : MssqlConnection) :
    acceptLogin stream payload = .ok conn ↔
      ∃ ack changes, parseLoginResponse payload = .ok (.success ack changes) ∧
        conn = (MssqlConnection.established stream).applyEnvChanges changes := by
  unfold acceptLogin
  rw [Outcome.bind_ok_iff]
  simp only [Outcome.mapErr_ok_iff]
  constructor
  · rintro ⟨response, parsed, settled⟩
    cases response with
    | success ack changes => exact ⟨ack, changes, parsed, (Outcome.ok.inj settled).symm⟩
    | serverError error => cases settled
  · rintro ⟨ack, changes, parsed, rfl⟩
    exact ⟨_, parsed, rfl⟩

theorem agreeOnEncryption_ok_iff (payload : Bytes) (encrypted : Bool) :
    agreeOnEncryption options payload = .ok encrypted ↔
      ∃ server, parseServerEncrypt payload = .ok server ∧
        negotiateEncryption options.encrypt server = .ok encrypted := by
  unfold agreeOnEncryption
  rw [bind_ok_iff]
  simp only [mapError_ok_iff]

theorem login_ok_iff (whole : answers.Whole options) (conn : MssqlConnection) :
    (LoginAnswers.login library options answers).1 = .ok conn ↔
      ∃ encrypted changes, answers.Accepts library options encrypted changes ∧
        conn = (MssqlConnection.established { MssqlWireStream.connect options with
          stream := if encrypted then .tls else .raw }).applyEnvChanges changes := by
  have admitted : ∀ message kind, ({ MssqlWireStream.connect options with stream := kind } :
      MssqlWireStream).Admits (answers.answers message).packets := fun message _ => whole.admitted message
  have ran : (LoginAnswers.login library options answers).1 = .ok conn ↔
      ∃ last, LoginAnswers.login library options answers = (.ok conn, last) :=
    ⟨Async.exists_of_fst, fun ⟨last, same⟩ => by rw [same]⟩
  rw [ran]
  unfold LoginAnswers.login
  simp only [Async.bind_eq_ok_iff, findPort_ok_iff, upgrade_ok_iff, Async.ofOutcome_ok_iff,
    Outcome.ofExcept_ok_iff, agreeOnEncryption_ok_iff, acceptLogin_ok_iff]
  constructor
  · rintro ⟨_, port, _, ⟨located, rfl⟩, _, _, asked, encrypted, _, ⟨agreed, rfl⟩, _, _,
      ⟨secured, rfl, rfl⟩, _, _, sent, ⟨ack, changes, accepted, rfl⟩, rfl⟩
    obtain ⟨built, tabular, rfl, rfl⟩ := (ask_ok_iff (admitted .preLogin _) _ _).mp asked
    obtain ⟨login, response, rfl, rfl⟩ := (ask_ok_iff (admitted .login7 _) _ _).mp sent
    simp only [Outcome.mapErr_ok_iff] at built login
    exact ⟨encrypted, changes, ⟨⟨port, located⟩, built, ⟨tabular, agreed⟩, secured, login, response,
      ack, accepted⟩, rfl⟩
  · rintro ⟨encrypted, changes, accepts, rfl⟩
    obtain ⟨⟨port, located⟩, built, ⟨tabular, agreed⟩, secured, login, response, ack, accepted⟩ := accepts
    refine ⟨answers, port, answers, ⟨located, rfl⟩, _, answers,
      (ask_ok_iff (admitted .preLogin .raw) _ _).mpr ⟨?_, tabular, rfl, rfl⟩, encrypted, answers,
      ⟨agreed, rfl⟩, _, answers, ⟨secured, rfl, rfl⟩, _, answers,
      (ask_ok_iff (admitted .login7 _) _ _).mpr ⟨?_, response, rfl, rfl⟩, ⟨ack, changes, accepted, rfl⟩,
      rfl⟩
    · simpa only [Outcome.mapErr_ok_iff] using built
    · simpa only [Outcome.mapErr_ok_iff] using login

variable [ErrorDisplay]

/-- Over a transport that serves, in front of whole answers within the packet size, a login returns
a connection exactly when every step has what it needs: a port, both packets, an agreement on
encryption, the TLS session where it was agreed on, and a response that accepts the login. The
connection has the changes of that response, and nothing is left unread. -/
theorem establish_connects_iff {world : LoginWorld Certificate} (serving : Serving answers world)
    (whole : answers.Whole options) (conn : MssqlConnection) :
    ((MssqlConnection.establish library options world).1 = .ok conn ↔
      ∃ encrypted changes, answers.Accepts library options encrypted changes ∧
        conn = (MssqlConnection.established { MssqlWireStream.connect options with
          stream := if encrypted then .tls else .raw }).applyEnvChanges changes) ∧
      (MssqlConnection.establish library options world).2.incoming = [] := by
  obtain ⟨after, same, served⟩ := (simulates_establish library options answers world serving
    ).resolve_left (login_spoken library options whole)
  rw [same]
  exact ⟨login_ok_iff library options whole conn, served.drained⟩

end success

section samples

def clearAnswers : LoginAnswers where
  datagram := none
  handshake := .done
  answers
    | .preLogin => .single [1, 0, 6, 0, 1, 0xff, 2] (by decide)
    | .login7 => .single ([0xad, 10, 0, 1, 0x74, 0, 0, 4, 0, 16, 0, 0, 0] ++
      [0xe3, 15, 0, 4, 4, 49, 0, 48, 0, 48, 0, 48, 0, 2, 52, 0, 48, 0] ++ doneBytes) (by decide)

/-- A login without encryption, whose response sets the packet size. -/
theorem establish_connects_iff_clear : ∃ encrypted changes,
    clearAnswers.Accepts bareLibrary clearOptions encrypted changes ∧
      (⟨some ⟨.raw, 1000⟩, 0, 0, none⟩ : MssqlConnection) =
        (MssqlConnection.established { MssqlWireStream.connect clearOptions with
          stream := if encrypted then .tls else .raw }).applyEnvChanges changes := by
  have serving : Serving clearAnswers clearWorld := by
    refine ⟨fun _ member => absurd member List.not_mem_nil, rfl, rfl, fun message => ?_, rfl⟩
    cases message <;> decide
  have whole : clearAnswers.Whole clearOptions := by
    refine ⟨fun message => ?_, by decide⟩
    cases message <;> decide
  have done : (MssqlConnection.establish bareLibrary clearOptions clearWorld).1 =
      .ok ⟨some ⟨.raw, 1000⟩, 0, 0, none⟩ := by
    decide +kernel
  exact (establish_connects_iff bareLibrary clearOptions serving whole _).1.mp done

end samples
end SqlxSqlserver.Driver

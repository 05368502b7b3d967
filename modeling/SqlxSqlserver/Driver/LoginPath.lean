import SqlxSqlserver.Driver.Establish
import SqlxSqlserver.Driver.Transaction
import SqlxSqlserver.Foundation.Machine

/-! The login as a protocol: which events may follow which. Every run of `establish` is a path of
this machine, whatever the transport, the browser service, the TLS library and the server do. -/

namespace SqlxSqlserver.Driver
open Foundation Protocol

inductive LoginPhase where
  | opened
  | browsed
  | connected
  | asked
  | answered (message : WireMessage)
  | secured (message : WireMessage)
  | loggedIn (stream : MssqlStream)
  | replied (stream : MssqlStream) (message : WireMessage)
  deriving DecidableEq

section machine
variable {Certificate : Type} (library : TlsLibrary Certificate) (options : MssqlConnectOptions)

/-- The response to PRELOGIN settles whether the connection is encrypted. -/
def Agreed (message : WireMessage) (encrypted : Bool) : Prop :=
  message.packetType = .tabularResult ∧
    ∃ server, parseServerEncrypt message.payload = .ok server ∧
      negotiateEncryption options.encrypt server = .ok encrypted

def DirectPort (port : UInt16) : Prop :=
  options.port = some port ∨ options.port = none ∧ options.instanceName = none ∧ port = 1433

inductive LoginStep : LoginPhase → LoginEvent Certificate → LoginPhase → Prop where
  | browse {instanceName : String} (unknown : options.port = none)
      (named : options.instanceName = some instanceName) :
      LoginStep .opened
        (.browsed options.host ([0x04] ++ instanceName.toUTF8.data.toList ++ [0])) .browsed
  | connect {port : UInt16} (direct : DirectPort options port) :
      LoginStep .opened (.connected options.host port) .connected
  | connectFound {instanceName : String} {port : UInt16} {datagram : Bytes}
      (named : options.instanceName = some instanceName)
      (found : parseSsrpResponse datagram instanceName = .ok port) :
      LoginStep .browsed (.connected options.host port) .connected
  | ask {bytes : Bytes} (built : buildPreLoginPacket options = .ok bytes) :
      LoginStep .connected (.sent .preLogin .raw bytes) .asked
  | answer {message : WireMessage} : LoginStep .asked (.received message) (.answered message)
  | secure {message : WireMessage} {connector : TlsConnector Certificate}
      (agreed : Agreed options message true) (built : buildTlsConnector library options = .ok connector) :
      LoginStep (.answered message) (.secured connector (tlsDomain options)) (.secured message)
  | loginClear {message : WireMessage} {bytes : Bytes} (agreed : Agreed options message false)
      (built : buildLogin7Packet options = .ok bytes) :
      LoginStep (.answered message) (.sent .login7 .raw bytes) (.loggedIn .raw)
  | loginSecured {message : WireMessage} {bytes : Bytes}
      (built : buildLogin7Packet options = .ok bytes) :
      LoginStep (.secured message) (.sent .login7 .tls bytes) (.loggedIn .tls)
  | reply {stream : MssqlStream} {message : WireMessage} :
      LoginStep (.loggedIn stream) (.received message) (.replied stream message)

def loginMachine : Machine LoginPhase (LoginEvent Certificate) where
  step := LoginStep library options

/-- The events so far lead to the phase. -/
def Reached (phase : LoginPhase) (world : LoginWorld Certificate) : Prop :=
  (loginMachine library options).Path .opened world.trace phase

def OnPath (world : LoginWorld Certificate) : Prop := ∃ phase, Reached library options phase world

end machine

section rules
variable {Certificate α β : Type} {P Q : LoginWorld Certificate → Prop}

theorem keeps_overLink (action : Task α)
    (depends : ∀ world (self : LoginWorld Certificate), P self → P (self.withLink world)) :
    (overLink action : Login Certificate α).Keeps P := Async.keeps_zoom action depends

variable {library : TlsLibrary Certificate} {options : MssqlConnectOptions} {phase next : LoginPhase}

theorem reached_overLink (action : Task α) : (overLink action : Login Certificate α).Keeps
    (Reached library options phase) := keeps_overLink action fun _ _ reached => reached

theorem onPath_of_reached (world : LoginWorld Certificate) (reached : Reached library options phase world) :
    OnPath library options world := ⟨phase, reached⟩

theorem still {action : Login Certificate α} (keeps : action.Keeps (Reached library options phase)) :
    action.Triple (Reached library options phase) (fun _ => Reached library options phase)
      (OnPath library options) := Async.Triple.exits keeps onPath_of_reached

theorem triple_record (event : LoginEvent Certificate) (step : LoginStep library options phase event next) :
    (Async.modify (LoginWorld.record event) : Login Certificate Unit).Triple
      (Reached library options phase) (fun _ => Reached library options next)
      (OnPath library options) := fun _ reached => Machine.Path.snoc reached step

theorem triple_ofResult (result : Except Error α) :
    (ofResult result : Login Certificate α).Triple (Reached library options phase)
      (fun value world => result = .ok value ∧ Reached library options phase world)
      (OnPath library options) := by
  intro world reached
  cases result with
  | ok value => exact ⟨rfl, reached⟩
  | error error => exact ⟨phase, reached⟩

theorem triple_ofOutcomePath (outcome : Outcome Error α) :
    (Async.ofOutcome outcome : Login Certificate α).Triple (Reached library options phase)
      (fun value world => outcome = .ok value ∧ Reached library options phase world)
      (OnPath library options) := Async.triple_ofOutcome outcome onPath_of_reached

end rules

section simulation
variable {Certificate : Type} {library : TlsLibrary Certificate} {options : MssqlConnectOptions}
  {phase next : LoginPhase}

theorem keeps_awaitDatagram (server instanceName : String) :
    (awaitDatagram server instanceName : Login Certificate Bytes).Keeps
      (Reached library options phase) := by
  apply (reached_overLink _).bind
  intro fate
  cases fate with
  | ready =>
    apply Async.keeps_get.bind
    intro world
    cases world.datagram with
    | none => exact Async.keeps_fail _
    | some datagram => exact Async.keeps_pure _
  | failed error progress => exact Async.keeps_fail _
  | dropped progress => exact Async.keeps_drop

def Located (library : TlsLibrary Certificate) (options : MssqlConnectOptions) (port : UInt16)
    (world : LoginWorld Certificate) : Prop :=
  ∃ phase, Reached library options phase world ∧
    LoginStep library options phase (.connected options.host port) .connected

theorem triple_findPort : (findPort options : Login Certificate UInt16).Triple
    (Reached library options .opened) (Located library options) (OnPath library options) := by
  unfold findPort
  split
  next port _ known =>
    exact fun world reached => ⟨.opened, reached, .connect (.inl known)⟩
  next instanceName unknown named =>
    apply (still (reached_overLink _)).bind
    intro _
    apply (triple_record _ (LoginStep.browse unknown named)).bind
    intro _
    apply (still (reached_overLink _)).bind
    intro _
    apply (still (keeps_awaitDatagram _ _)).bind
    intro datagram
    apply (triple_ofResult _).post
    exact fun port world found => ⟨.browsed, found.2, .connectFound named found.1⟩
  next unknown nameless =>
    exact fun world reached => ⟨.opened, reached, .connect (.inr ⟨unknown, nameless, rfl⟩)⟩

theorem triple_openStream : (openStream options : Login Certificate MssqlWireStream).Triple
    (Reached library options .opened)
    (fun stream world => stream = .connect options ∧ Reached library options .connected world)
    (OnPath library options) := by
  apply triple_findPort.bind
  intro port
  apply Async.Triple.bind (R := fun _ => Reached library options .connected)
  · rintro world ⟨phase, reached, step⟩
    exact Machine.Path.snoc reached step
  intro _
  have kept : (awaitConnect options port : Login Certificate Unit).Keeps
      (Reached library options .connected) := by
    apply (reached_overLink _).bind
    intro fate
    cases fate with
    | ready => exact Async.keeps_pure _
    | failed error progress => exact Async.keeps_fail _
    | dropped progress => exact Async.keeps_drop
  apply (still kept).bind
  exact fun _ world reached => ⟨rfl, reached⟩

theorem keeps_deliver (message : LoginMessage) :
    (Async.modify (LoginWorld.deliver message) : Login Certificate Unit).Keeps
      (Reached library options phase) := fun _ reached => reached

theorem triple_send (stream : MssqlWireStream) (message : LoginMessage) (bytes : Bytes)
    (step : LoginStep library options phase (.sent message stream.stream bytes) next) :
    (stream.send message bytes : Login Certificate Unit).Triple (Reached library options phase)
      (fun _ => Reached library options next) (OnPath library options) := by
  have sent : (do
      .modify (LoginWorld.record (.sent message stream.stream bytes))
      overLink (writePackets bytes (bytes.length + 1) 0)
      .modify (LoginWorld.deliver message)
      overLink awaitWrite : Login Certificate Unit).Triple (Reached library options phase)
        (fun _ => Reached library options next) (OnPath library options) := by
    apply (triple_record _ step).bind
    intro _
    apply (still (reached_overLink _)).bind
    intro _
    apply (still (keeps_deliver message)).bind
    intro _
    exact still (reached_overLink _)
  unfold MssqlWireStream.send
  split
  · exact sent
  · exact sent
  · exact fun _ reached => ⟨_, reached⟩

theorem triple_receive (stream : MssqlWireStream) {after : WireMessage → LoginPhase}
    (step : ∀ message, LoginStep library options phase (.received message) (after message)) :
    (stream.receive : Login Certificate WireMessage).Triple (Reached library options phase)
      (fun message => Reached library options (after message)) (OnPath library options) := by
  apply (still (reached_overLink _)).bind
  intro message
  apply (triple_record _ (step message)).bind
  exact fun _ _ reached => reached

def Replied (library : TlsLibrary Certificate) (options : MssqlConnectOptions)
    (after : WireMessage → LoginPhase) (payload : Bytes) (world : LoginWorld Certificate) : Prop :=
  ∃ message, message.packetType = .tabularResult ∧ payload = message.payload ∧
    Reached library options (after message) world

theorem triple_ask [ErrorDisplay] (stream : MssqlWireStream) (message : LoginMessage)
    (packet : Outcome String Bytes) {after : WireMessage → LoginPhase}
    (sent : ∀ bytes, packet = .ok bytes →
      LoginStep library options phase (.sent message stream.stream bytes) next)
    (read : ∀ message, LoginStep library options next (.received message) (after message)) :
    (stream.ask message packet : Login Certificate Bytes).Triple (Reached library options phase)
      (Replied library options after) (OnPath library options) := by
  apply (triple_ofOutcomePath _).bind
  intro bytes
  apply Async.triple_known
  intro built
  apply ((triple_send stream message bytes (sent bytes (Outcome.ok_of_mapErr built))).mapErr _).bind
  intro _
  apply ((triple_receive stream read).mapErr _).bind
  intro response
  apply (triple_ofResult _).post
  rintro payload world ⟨tabular, reached⟩
  unfold tabularPayload at tabular
  by_cases kind : response.packetType = .tabularResult
  · rw [if_neg (not_not.mpr kind)] at tabular
    cases tabular
    exact ⟨response, kind, rfl, reached⟩
  · rw [if_pos kind] at tabular
    cases tabular

theorem agreed_of_ok {message : WireMessage} {encrypted : Bool}
    (tabular : message.packetType = .tabularResult)
    (agreed : agreeOnEncryption options message.payload = .ok encrypted) :
    Agreed options message encrypted := by
  obtain ⟨server, parsed, settled⟩ := bind_ok_iff.mp agreed
  exact ⟨tabular, server, mapError_ok_iff.mp parsed, settled⟩

def Ready (library : TlsLibrary Certificate) (options : MssqlConnectOptions)
    (stream : MssqlWireStream) (world : LoginWorld Certificate) : Prop :=
  ∃ phase, Reached library options phase world ∧
    stream = { MssqlWireStream.connect options with stream := stream.stream } ∧
    ∀ bytes, buildLogin7Packet options = .ok bytes →
      LoginStep library options phase (.sent .login7 stream.stream bytes) (.loggedIn stream.stream)

theorem triple_upgrade {message : WireMessage} {encrypted : Bool}
    (agreed : Agreed options message encrypted) :
    ((MssqlWireStream.connect options).upgrade library options encrypted :
        Login Certificate MssqlWireStream).Triple (Reached library options (.answered message))
      (Ready library options) (OnPath library options) := by
  cases encrypted with
  | false =>
    exact fun world reached => ⟨_, reached, rfl, fun _ built => .loginClear agreed built⟩
  | true =>
    apply (triple_ofResult _).bind
    intro connector
    apply Async.triple_known
    intro built
    have shaken : (awaitHandshake options connector : Login Certificate Unit).Triple
        (Reached library options (.answered message))
        (fun _ => Reached library options (.secured message)) (OnPath library options) := by
      apply Async.Triple.bind (R := fun _ => Reached library options (.answered message))
      · exact fun _ reached => reached
      intro _
      apply Async.triple_look.bind
      intro world
      cases world.handshake with
      | done => exact triple_record _ (.secure agreed built)
      | failed text => exact fun _ reached => ⟨_, reached⟩
      | dropped => exact fun _ reached => ⟨_, reached⟩
    apply shaken.bind
    exact fun _ world reached => ⟨_, reached, rfl, fun _ built => .loginSecured built⟩

/-- The connection is what an accepted login makes of the stream that LOGIN7 went out on. -/
def LoginAccepted (library : TlsLibrary Certificate) (options : MssqlConnectOptions)
    (conn : MssqlConnection) (world : LoginWorld Certificate) : Prop :=
  ∃ kind message ack envChanges, Reached library options (.replied kind message) world ∧
    message.packetType = .tabularResult ∧
    parseLoginResponse message.payload = .ok (.success ack envChanges) ∧
    conn = (MssqlConnection.established { MssqlWireStream.connect options with stream := kind
      }).applyEnvChanges envChanges

theorem triple_acceptLogin (stream : MssqlWireStream)
    (opened : stream = { MssqlWireStream.connect options with stream := stream.stream })
    (payload : Bytes) : (Async.ofOutcome (acceptLogin stream payload) :
        Login Certificate MssqlConnection).Triple
      (Replied library options (.replied stream.stream) payload) (LoginAccepted library options)
      (OnPath library options) := by
  have exits : ∀ world, Replied library options (.replied stream.stream) payload world →
      OnPath library options world := by
    rintro world ⟨message, _, _, reached⟩
    exact ⟨_, reached⟩
  apply (Async.triple_ofOutcome _ exits).post
  rintro conn world ⟨accepted, message, tabular, rfl, reached⟩
  obtain ⟨response, parsed, settled⟩ := Outcome.bind_ok_iff.mp accepted
  cases response with
  | success ack envChanges =>
    rw [opened] at settled
    exact ⟨stream.stream, message, ack, envChanges, reached, tabular, Outcome.ok_of_mapErr parsed,
      (Outcome.ok.inj settled).symm⟩
  | serverError error => cases settled

theorem reached_opened {world : LoginWorld Certificate} (start : world.trace = []) :
    Reached library options .opened world := by
  rw [Reached, start]
  exact .nil

theorem triple_establish [ErrorDisplay] : (MssqlConnection.establish library options :
      Login Certificate MssqlConnection).Triple (Reached library options .opened)
    (LoginAccepted library options) (OnPath library options) := by
  apply triple_openStream.bind
  intro stream
  apply Async.triple_known
  rintro rfl
  apply (triple_ask (MssqlWireStream.connect options) .preLogin _
    (fun bytes built => LoginStep.ask (Outcome.ok_of_mapErr built)) fun _ => .answer).bind
  intro payload
  apply Async.triple_exists
  intro message
  apply Async.triple_known
  intro tabular
  apply Async.triple_known
  rintro rfl
  apply (triple_ofResult _).bind
  intro encrypted
  apply Async.triple_known
  intro agreed
  apply (triple_upgrade (agreed_of_ok tabular agreed)).bind
  intro stream
  apply Async.triple_exists
  intro phase
  rintro world ⟨reached, opened, step⟩
  refine ((triple_ask stream .login7 _ (fun bytes built => ?_) fun _ => .reply).bind fun payload =>
    triple_acceptLogin stream opened payload) world reached
  exact step bytes (Outcome.ok_of_mapErr built)

end simulation

section shape
variable {Certificate : Type} {library : TlsLibrary Certificate} {options : MssqlConnectOptions}
  {events : List (LoginEvent Certificate)} {last : LoginPhase}

def LoginEvent.isOpening : LoginEvent Certificate → Bool
  | .browsed _ _ | .connected _ _ => true
  | _ => false

def LoginPhase.isOpening : LoginPhase → Bool
  | .opened | .browsed | .connected => true
  | _ => false

abbrev LoginPath (library : TlsLibrary Certificate) (options : MssqlConnectOptions) :=
  (loginMachine library options).Path

theorem path_opening (path : LoginPath library options .opened events last)
    (opening : last.isOpening = true) : ∀ event ∈ events, event.isOpening = true := by
  induction path with
  | nil => exact fun event member => absurd member List.not_mem_nil
  | @snoc events event middle last front step ih =>
    have both : middle.isOpening = true ∧ event.isOpening = true := by
      cases step with
      | browse | connect | connectFound => exact ⟨rfl, rfl⟩
      | _ => cases opening
    simpa only [List.mem_append, List.mem_singleton, or_imp, forall_and, forall_eq] using
      ⟨ih both.1, both.2⟩

/-- What has happened once PRELOGIN is answered. -/
theorem path_answered {message : WireMessage}
    (path : LoginPath library options .opened events (.answered message)) :
    ∃ front bytes, (∀ event ∈ front, event.isOpening = true) ∧
      events = front ++ [.sent .preLogin .raw bytes, .received message] := by
  rcases Machine.path_iff.mp path with ⟨_, same⟩ | ⟨asked, event, middle, rfl, one, step⟩
  · cases same
  cases step
  rcases Machine.path_iff.mp one with ⟨_, same⟩ | ⟨front, event, middle, rfl, two, step⟩
  · cases same
  cases step
  exact ⟨front, _, path_opening two rfl, by rw [List.append_assoc]; rfl⟩

theorem path_secured {message : WireMessage}
    (path : LoginPath library options .opened events (.secured message)) :
    ∃ front connector, events = front ++ [.secured connector (tlsDomain options)] ∧
      LoginPath library options .opened front (.answered message) ∧
      Agreed options message true ∧ buildTlsConnector library options = .ok connector := by
  rcases Machine.path_iff.mp path with ⟨_, same⟩ | ⟨front, event, middle, rfl, one, step⟩
  · cases same
  cases step with
  | secure agreed built => exact ⟨front, _, rfl, one, agreed, built⟩

/-- Behind LOGIN7 the client only reads one response. -/
theorem path_loggedIn {stream : MssqlStream}
    (path : LoginPath library options (.loggedIn stream) events last) :
    events = [] ∨ ∃ message, events = [.received message] := by
  cases events with
  | nil => exact .inl rfl
  | cons event events =>
    obtain ⟨second, step, rest⟩ := Machine.path_cons_iff.mp path
    cases step
    cases events with
    | nil => exact .inr ⟨_, rfl⟩
    | cons event events =>
      obtain ⟨_, step, _⟩ := Machine.path_cons_iff.mp rest
      cases step

theorem buildTlsConnector_settings {connector : TlsConnector Certificate}
    (built : buildTlsConnector library options = .ok connector) :
    connector.acceptInvalidCerts = options.trustServerCertificate ∧
      connector.acceptInvalidHostnames = options.hostnameInCertificate.isNone := by
  obtain ⟨certificate, _, built⟩ := bind_ok_iff.mp built
  dsimp only at built
  split at built
  · cases built
    exact ⟨rfl, rfl⟩
  · cases built

/-- What the two sides have said when LOGIN7 goes out on the stream, with `before` in front of it. -/
def LoginAllowed (library : TlsLibrary Certificate) (options : MssqlConnectOptions)
    (stream : MssqlStream) (before : List (LoginEvent Certificate)) : Prop :=
  ∃ front question message server, (∀ event ∈ front, event.isOpening = true) ∧
    message.packetType = .tabularResult ∧ parseServerEncrypt message.payload = .ok server ∧
    (stream = .raw ∧ (options.encrypt, server) ∈
        [(Encrypt.notSupported, Encrypt.notSupported), (.notSupported, .off), (.on, .notSupported)] ∧
      before = front ++ [.sent .preLogin .raw question, .received message] ∨
    stream = .tls ∧ options.encrypt ∈ [Encrypt.on, .required] ∧ server ∈ [Encrypt.on, .required] ∧
      ∃ connector, buildTlsConnector library options = .ok connector ∧
        connector.acceptInvalidCerts = options.trustServerCertificate ∧
        connector.acceptInvalidHostnames = options.hostnameInCertificate.isNone ∧
        before = front ++ [.sent .preLogin .raw question, .received message,
          .secured connector (tlsDomain options)])

theorem loginAllowed_of_path {before : List (LoginEvent Certificate)} {bytes : Bytes}
    {stream : MssqlStream} {phase : LoginPhase} (path : LoginPath library options .opened before phase)
    (step : LoginStep library options phase (.sent .login7 stream bytes) last) :
    buildLogin7Packet options = .ok bytes ∧ last = .loggedIn stream ∧
      LoginAllowed library options stream before := by
  cases step with
  | @loginClear message bytes agreed built =>
    obtain ⟨front, question, opening, rfl⟩ := path_answered path
    obtain ⟨tabular, server, parsed, settled⟩ := agreed
    have sides := (negotiateEncryption_ok_iff _ _ _).mp settled
    exact ⟨built, rfl, front, question, message, server, opening, tabular, parsed,
      .inl ⟨rfl, by simpa using sides, rfl⟩⟩
  | @loginSecured message bytes built =>
    obtain ⟨rest, connector, rfl, path, agreed, connects⟩ := path_secured path
    obtain ⟨front, question, opening, rfl⟩ := path_answered path
    obtain ⟨tabular, server, parsed, settled⟩ := agreed
    have sides : options.encrypt ∈ [Encrypt.on, .required] ∧ server ∈ [Encrypt.on, .required] := by
      simpa using (negotiateEncryption_ok_iff _ _ _).mp settled
    obtain ⟨certs, hostnames⟩ := buildTlsConnector_settings connects
    exact ⟨built, rfl, front, question, message, server, opening, tabular, parsed,
      .inr ⟨rfl, sides.1, sides.2, connector, connects, certs, hostnames, by
        rw [List.append_assoc]
        rfl⟩⟩

end shape

section samples

def bareLibrary : TlsLibrary Unit where
  readFile _ := .error ⟨.other, "no such file"⟩
  fromPem _ := .error "no certificate"
  fromDer _ := .error "no certificate"
  build _ := .ok ()

def clearOptions : MssqlConnectOptions := { MssqlConnectOptions.new with encrypt := .notSupported }

def clearReplies : LoginMessage → Bytes
  | .preLogin => answer [1, 0, 6, 0, 1, 0xff, 2]
  | .login7 => answer ([0xad, 10, 0, 1, 0x74, 0, 0, 4, 0, 16, 0, 0, 0] ++
      [0xe3, 15, 0, 4, 4, 49, 0, 48, 0, 48, 0, 48, 0, 2, 52, 0, 48, 0] ++ doneBytes)

def clearWorld : LoginWorld Unit where
  fates := []
  datagram := none
  handshake := .done
  replies := clearReplies
  incoming := []
  trace := []

end samples

section runs
variable {Certificate : Type} [ErrorDisplay] (library : TlsLibrary Certificate)
  (options : MssqlConnectOptions)

theorem establish_onPath (world : LoginWorld Certificate) (start : world.trace = []) :
    OnPath library options (MssqlConnection.establish library options world).2 := by
  have triple : (MssqlConnection.establish library options).Triple (Reached library options .opened)
      (fun _ => OnPath library options) (OnPath library options) := by
    apply triple_establish.post
    rintro conn after ⟨kind, message, _, _, reached, _⟩
    exact ⟨.replied kind message, reached⟩
  exact triple.after (reached_opened start)

/-- A login follows the protocol wherever it ends, and a connection comes of it only when the server
has accepted the login that was sent, with the changes of its response applied. -/
theorem establish_follows_protocol (world : LoginWorld Certificate) (start : world.trace = []) :
    OnPath library options (MssqlConnection.establish library options world).2 ∧
      ∀ conn, (MssqlConnection.establish library options world).1 = .ok conn →
        LoginAccepted library options conn (MssqlConnection.establish library options world).2 := by
  refine ⟨establish_onPath library options world start, fun conn done => ?_⟩
  obtain ⟨after, whole⟩ := Async.exists_of_fst done
  rw [whole]
  exact triple_establish.ok (reached_opened start) whole

end runs

/-- A login without encryption, whose response sets the packet size. -/
theorem establish_follows_protocol_clear :
    let conn : MssqlConnection := ⟨some ⟨.raw, 1000⟩, 0, 0, none⟩
    (MssqlConnection.establish bareLibrary clearOptions clearWorld).1 = .ok conn ∧
      LoginAccepted bareLibrary clearOptions conn
        (MssqlConnection.establish bareLibrary clearOptions clearWorld).2 := by
  have done : (MssqlConnection.establish bareLibrary clearOptions clearWorld).1 =
      .ok ⟨some ⟨.raw, 1000⟩, 0, 0, none⟩ := by
    decide +kernel
  exact ⟨done, (establish_follows_protocol bareLibrary clearOptions clearWorld rfl).2 _ done⟩

section credentials
variable {Certificate : Type} [ErrorDisplay] (library : TlsLibrary Certificate)
  (options : MssqlConnectOptions)

/-- The credentials are sent at most once, behind an answered PRELOGIN: in clear when neither side
wants encryption or the server has none, and else under a TLS session with the checks of the
options. -/
theorem credentials_follow_agreement (world : LoginWorld Certificate) (start : world.trace = [])
    (before after : List (LoginEvent Certificate)) (stream : MssqlStream) (bytes : Bytes)
    (sent : (MssqlConnection.establish library options world).2.trace = before ++ .sent .login7 stream bytes :: after) :
    buildLogin7Packet options = .ok bytes ∧ LoginAllowed library options stream before ∧
      (after = [] ∨ ∃ message, after = [.received message]) := by
  obtain ⟨phase, path⟩ := establish_onPath library options world start
  rw [Reached, sent] at path
  obtain ⟨middle, front, rest⟩ := path.split
  obtain ⟨second, step, back⟩ := Machine.path_cons_iff.mp rest
  obtain ⟨built, rfl, allowed⟩ := loginAllowed_of_path front step
  exact ⟨built, allowed, path_loggedIn back⟩

end credentials

def clearTrace : List (LoginEvent Unit) :=
  (MssqlConnection.establish bareLibrary clearOptions clearWorld).2.trace

def clearLogin : Bytes :=
  match buildLogin7Packet clearOptions with
  | .ok bytes => bytes
  | _ => []

/-- The login of the run is its fourth event. -/
theorem credentials_follow_agreement_clear :
    clearTrace = clearTrace.take 3 ++ .sent .login7 .raw clearLogin :: clearTrace.drop 4 ∧
      buildLogin7Packet clearOptions = .ok clearLogin ∧
      LoginAllowed bareLibrary clearOptions .raw (clearTrace.take 3) := by
  have sent : clearTrace =
      clearTrace.take 3 ++ .sent .login7 .raw clearLogin :: clearTrace.drop 4 := by
    decide +kernel
  obtain ⟨built, allowed, _⟩ :=
    credentials_follow_agreement bareLibrary clearOptions clearWorld rfl _ _ _ _ sent
  exact ⟨sent, built, allowed⟩

end SqlxSqlserver.Driver

import SqlxSqlserver.Driver.PacketSizes
import SqlxSqlserver.Driver.Ssrp
import SqlxSqlserver.Protocol.LoginResponse
import SqlxSqlserver.Protocol.Negotiation

/-! Establishing a connection: finding the port, PRELOGIN, the upgrade to TLS where both sides ask
for it, and LOGIN7. The transport answers every await from a script, as it does for a connection. -/

namespace SqlxSqlserver.Driver
open Foundation Protocol

structure TlsConnector (Certificate : Type) where
  acceptInvalidCerts : Bool
  acceptInvalidHostnames : Bool
  rootCertificate : Option Certificate
  deriving DecidableEq, Repr

/-- The file system and the TLS library, which belong to other crates. -/
structure TlsLibrary (Certificate : Type) where
  readFile : String → Except IoError Bytes
  fromPem : Bytes → Except String Certificate
  fromDer : Bytes → Except String Certificate
  build : TlsConnector Certificate → Except String Unit

inductive LoginMessage where
  | preLogin
  | login7
  deriving DecidableEq, Repr

inductive LoginEvent (Certificate : Type) where
  /-- The client asks the browser service of a host. -/
  | browsed (server : String) (request : Bytes)
  /-- The client opens a connection. -/
  | connected (host : String) (port : UInt16)
  /-- The client starts to write a message, in clear or not. -/
  | sent (message : LoginMessage) (stream : MssqlStream) (bytes : Bytes)
  /-- The client has read a message to its end. -/
  | received (message : WireMessage)
  /-- A handshake for the domain has ended well. -/
  | secured (connector : TlsConnector Certificate) (domain : String)
  deriving DecidableEq

inductive Handshake where
  | done
  | failed (message : String)
  | dropped
  deriving DecidableEq, Repr

/-- The other ends of a login: the answers of the transport, of the browser service, when it answers
in time, and of the server. -/
structure LoginWorld (Certificate : Type) where
  fates : List Fate
  datagram : Option Bytes
  handshake : Handshake
  replies : LoginMessage → Bytes
  incoming : Bytes
  trace : List (LoginEvent Certificate)

abbrev Login (Certificate α : Type) : Type := Async Error (LoginWorld Certificate) α

def clntUcastInst : UInt8 := 0x04

def Encrypt.debug : Encrypt → String
  | .notSupported => "NotSupported"
  | .off => "Off"
  | .on => "On"
  | .required => "Required"

section world
variable {Certificate : Type}

def LoginWorld.record (event : LoginEvent Certificate) (self : LoginWorld Certificate) :
    LoginWorld Certificate :=
  { self with trace := self.trace ++ [event] }

def LoginWorld.deliver (message : LoginMessage) (self : LoginWorld Certificate) :
    LoginWorld Certificate :=
  { self with incoming := self.incoming ++ self.replies message }

def LoginWorld.link (self : LoginWorld Certificate) : World where
  conn := { stream := none, transactionDepth := 0, transactionDescriptor := 0, pendingRollbackSql := none }
  link := { fates := self.fates, replies := [], delivered := [], incoming := self.incoming, trace := [] }

def LoginWorld.withLink (world : World) (self : LoginWorld Certificate) : LoginWorld Certificate :=
  { self with fates := world.link.fates, incoming := world.link.incoming }

def overLink {α : Type} (action : Task α) : Login Certificate α :=
  action.zoom LoginWorld.link LoginWorld.withLink

def ofResult {α : Type} (result : Except Error α) : Login Certificate α :=
  .ofOutcome (.ofExcept result)

end world

section connecting
variable {Certificate : Type}

/-- The await of the answer; a datagram is cut to the buffer. -/
def awaitDatagram (server instanceName : String) : Login Certificate Bytes := do
  let fate ← overLink nextFate
  match fate with
  | .ready =>
    match (← .get).datagram with
    | some datagram => return datagram.take 1024
    | none => .fail (.protocol s!"SSRP request to {server} for instance {instanceName} timed out")
  | .failed error _ => .fail (.io error)
  | .dropped _ => .drop

def resolveInstancePort (server instanceName : String) : Login Certificate UInt16 := do
  overLink awaitWrite
  .modify (LoginWorld.record
    (.browsed server ([clntUcastInst] ++ instanceName.toUTF8.data.toList ++ [0])))
  overLink awaitWrite
  let datagram ← awaitDatagram server instanceName
  ofResult (parseSsrpResponse datagram instanceName)

def findPort (options : MssqlConnectOptions) : Login Certificate UInt16 :=
  match options.port, options.instanceName with
  | some port, _ => pure port
  | none, some instanceName => resolveInstancePort options.host instanceName
  | none, none => pure 1433

def connectError (options : MssqlConnectOptions) (port : UInt16) (error : IoError) : Error :=
  let suffix := match options.instanceName with
    | some instanceName => s!" (instance={instanceName})"
    | none => ""
  let context := "failed to connect to SQL Server at " ++ options.host ++ ":" ++ toString port ++ suffix
  .io { error with message := context ++ ": " ++ error.message }

def awaitConnect (options : MssqlConnectOptions) (port : UInt16) : Login Certificate Unit := do
  let fate ← overLink nextFate
  match fate with
  | .ready => pure ()
  | .failed error _ => .fail (connectError options port error)
  | .dropped _ => .drop

def openStream (options : MssqlConnectOptions) : Login Certificate MssqlWireStream := do
  let port ← findPort options
  .modify (LoginWorld.record (.connected options.host port))
  awaitConnect options port
  return MssqlWireStream.connect options

end connecting

section messages
variable {Certificate : Type} [ErrorDisplay]

def MssqlWireStream.send (self : MssqlWireStream) (message : LoginMessage) (bytes : Bytes) :
    Login Certificate Unit :=
  match self.stream with
  | .raw | .tls => do
    .modify (LoginWorld.record (.sent message self.stream bytes))
    overLink (writePackets bytes (bytes.length + 1) 0)
    .modify (LoginWorld.deliver message)
    overLink awaitWrite
  | .taken => .fail takenStreamError

def MssqlWireStream.receive (self : MssqlWireStream) : Login Certificate WireMessage := do
  let message ← overLink self.readMessage
  .modify (LoginWorld.record (.received message))
  return message

def LoginMessage.name : LoginMessage → String
  | .preLogin => "PRELOGIN"
  | .login7 => "LOGIN7"

def tabularPayload (message : LoginMessage) (response : WireMessage) : Except Error Bytes :=
  if response.packetType ≠ .tabularResult then
    .error (.protocol ("expected SQL Server " ++ message.name ++
      " response as tabular result, got packet type 0x" ++ hexByte response.packetType.code))
  else .ok response.payload

def MssqlWireStream.ask (self : MssqlWireStream) (message : LoginMessage)
    (packet : Outcome String Bytes) : Login Certificate Bytes := do
  let bytes ← .ofOutcome (packet.mapErr fun error =>
    .protocol ("failed to build SQL Server " ++ message.name ++ " packet: " ++ error))
  (self.send message bytes).mapErr
    (contextError ("failed to send SQL Server " ++ message.name ++ " packet"))
  let response ← self.receive.mapErr
    (contextError ("failed to read SQL Server " ++ message.name ++ " response"))
  ofResult (tabularPayload message response)

end messages

section upgrade
variable {Certificate : Type} (library : TlsLibrary Certificate)

def rootCertificate (path : String) : Except Error Certificate :=
  match library.readFile path with
  | .error error => .error (.io { error with message :=
      "failed to read SQL Server ssl_root_cert `" ++ path ++ "`: " ++ error.message })
  | .ok cert =>
    match library.fromPem cert with
    | .ok certificate => .ok certificate
    | .error _ =>
      match library.fromDer cert with
      | .ok certificate => .ok certificate
      | .error error => .error (.tls ("failed to parse SQL Server ssl_root_cert `" ++ path ++
          "` as PEM or DER: " ++ error))

def rootCertificate? : Option String → Except Error (Option Certificate)
  | some path => (rootCertificate library path).map some
  | none => .ok none

def buildTlsConnector (options : MssqlConnectOptions) : Except Error (TlsConnector Certificate) := do
  let connector : TlsConnector Certificate := {
    acceptInvalidCerts := options.trustServerCertificate
    acceptInvalidHostnames := options.hostnameInCertificate.isNone
    rootCertificate := ← rootCertificate? library options.sslRootCert }
  match library.build connector with
  | .ok () => .ok connector
  | .error error => .error (.tls ("failed to build SQL Server TLS connector: " ++ error))

/-- The domain that the certificate is checked for. -/
def tlsDomain (options : MssqlConnectOptions) : String :=
  options.hostnameInCertificate.getD options.host

def handshakeError (options : MssqlConnectOptions) (message : String) : Error :=
  .tls ("SQL Server TLS handshake failed for host `" ++ tlsDomain options ++
    "` during the TDS PRELOGIN encryption upgrade (encrypt=" ++ options.encrypt.debug ++
    ", trust_server_certificate=" ++ toString options.trustServerCertificate ++
    ", hostname_in_certificate=" ++ options.hostnameInCertificate.getD "<not set>" ++
    ", ssl_root_cert=" ++ toString options.sslRootCert.isSome ++ "): " ++ message)

/-- The bytes that are under way belong to the handshake. -/
def awaitHandshake (options : MssqlConnectOptions) (connector : TlsConnector Certificate) :
    Login Certificate Unit := do
  .modify fun world => { world with incoming := [] }
  match (← .get).handshake with
  | .done => .modify (LoginWorld.record (.secured connector (tlsDomain options)))
  | .failed message => .fail (handshakeError options message)
  | .dropped => .drop

def MssqlWireStream.enableTls (self : MssqlWireStream) (options : MssqlConnectOptions) :
    Login Certificate MssqlWireStream :=
  match self.stream with
  | .raw => do
    let connector ← ofResult (buildTlsConnector library options)
    awaitHandshake options connector
    return { self with stream := .tls }
  | .tls | .taken => pure self

def MssqlWireStream.upgrade (self : MssqlWireStream) (options : MssqlConnectOptions)
    (encrypted : Bool) : Login Certificate MssqlWireStream :=
  if encrypted then self.enableTls library options else pure self

end upgrade

section establish
variable {Certificate : Type} [ErrorDisplay] (library : TlsLibrary Certificate)

def acceptLogin (stream : MssqlWireStream) (payload : Bytes) : Outcome Error MssqlConnection := do
  let response ← (parseLoginResponse payload).mapErr fun error =>
    .protocol ("failed to parse SQL Server LOGIN7 response: " ++ error.message)
  match response with
  | .success _ envChanges => .ok ((MssqlConnection.established stream).applyEnvChanges envChanges)
  | .serverError error => .err (serverError error)

def agreeOnEncryption (options : MssqlConnectOptions) (payload : Bytes) : Except Error Bool := do
  let server ← (parseServerEncrypt payload).mapError fun error =>
    .protocol ("failed to parse SQL Server PRELOGIN response: " ++ error.message)
  negotiateEncryption options.encrypt server

def MssqlConnection.establish (options : MssqlConnectOptions) : Login Certificate MssqlConnection := do
  let stream ← openStream options
  let preLogin ← stream.ask .preLogin ((buildPreLoginPacket options).mapErr
    (LoginPacketError.message PreLoginError.message))
  let encrypted ← ofResult (agreeOnEncryption options preLogin)
  let stream ← stream.upgrade library options encrypted
  let login ← stream.ask .login7 ((buildLogin7Packet options).mapErr
    (LoginPacketError.message Login7Error.message))
  .ofOutcome (acceptLogin stream login)

end establish
end SqlxSqlserver.Driver

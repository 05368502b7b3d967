import SqlxSqlserver.Foundation.Async
import SqlxSqlserver.Protocol.Rpc

/-! The connection's stream: sending a framed request and reading a message back. The transport
answers every await from a script, and the server answers every request it received whole. -/

namespace SqlxSqlserver.Driver
open Foundation Protocol

/-- How the transport answers an await. A read that fails or is dropped may have consumed some of
the bytes it wanted. -/
inductive Fate where
  | ready
  | failed (error : IoError) (progress : Nat)
  | dropped (progress : Nat)
  deriving DecidableEq, Repr

inductive MssqlStream where
  | raw
  | tls
  | taken
  deriving DecidableEq, Repr

structure MssqlWireStream where
  stream : MssqlStream
  packetSize : Nat
  deriving DecidableEq, Repr

structure MssqlConnection where
  stream : Option MssqlWireStream
  transactionDepth : Nat
  transactionDescriptor : UInt64
  pendingRollbackSql : Option String
  deriving DecidableEq, Repr

inductive Request where
  | sqlBatch (sql : String)
  | executeSql (sql : String) (arguments : MssqlArguments)
  | prepare (sql : String) (parameters : List MssqlTypeInfo)
  | unprepare (statementId : Int32)
  deriving DecidableEq

structure WireMessage where
  packetType : PacketType
  payload : Bytes
  deriving DecidableEq, Repr

inductive Event where
  /-- The client starts to write the bytes of a request. -/
  | request (request : Request) (bytes : Bytes)
  /-- The client has read a message to its end. -/
  | response (message : WireMessage)
  deriving DecidableEq

/-- The other end of the stream: `replies` answers the requests in the order of their delivery. -/
structure Link where
  fates : List Fate
  replies : List Bytes
  delivered : List Request
  incoming : Bytes
  trace : List Event
  deriving DecidableEq

structure World where
  conn : MssqlConnection
  link : Link
  deriving DecidableEq

/-- The `Display` texts of the error type, which belong to another crate. -/
class ErrorDisplay where
  display : Error → String

instance coreDisplay : ErrorDisplay where
  display
    | .protocol message => "encountered unexpected or invalid data: " ++ message
    | .io error => "error communicating with database: " ++ error.message
    | .tls message => "error occurred while attempting to establish a TLS connection: " ++ message
    | .database error => "error returned from database: " ++
        s!"SQL Server error {error.number} (state {error.state}, class {error.severity}): " ++
        error.message
    | .columnIndexOutOfBounds index len =>
        s!"column index out of bounds: the len is {len}, but the index is {index}"
    | .columnDecode index source =>
        s!"error occurred while decoding column {index}: " ++ source.display

abbrev Task (α : Type) : Type := Async Error World α

def World.record (event : Event) (self : World) : World :=
  { self with link := { self.link with trace := self.link.trace ++ [event] } }

def World.deliver (request : Request) (self : World) : World :=
  { self with link := { self.link with
      delivered := self.link.delivered ++ [request]
      incoming := self.link.incoming ++ self.link.replies[self.link.delivered.length]?.getD [] } }

def World.setIncoming (incoming : Bytes) (self : World) : World :=
  { self with link := { self.link with incoming } }

def nextFate : Task Fate := fun world =>
  (.ok (world.link.fates.headD .ready),
    { world with link := { world.link with fates := world.link.fates.tail } })

def takenStreamError : Error :=
  .protocol "SQL Server stream was used while TLS upgrade was in progress"

def packetError (error : PacketHeaderError) : Error := .protocol error.message

def frameError (error : PacketFrameError) : Error := .protocol error.message

def contextError [ErrorDisplay] (context : String) : Error → Error
  | .io error => .io { error with message := context ++ ": " ++ error.message }
  | .tls error => .tls (context ++ ": " ++ error)
  | .protocol message => .protocol (context ++ ": " ++ message)
  | error => .protocol (context ++ ": " ++ ErrorDisplay.display error)

section sending

def checkedAdd (left right : Nat) (overflow : Error) : Outcome Error Nat :=
  if left + right ≤ usizeMax then .ok (left + right) else .err overflow

def sliceOr (input : Bytes) (start stop : Nat) (missing : Error) : Outcome Error Bytes :=
  match slice input start stop with
  | some bytes => .ok bytes
  | none => .err missing

def tdsPacketSlice (bytes : Bytes) (offset : Nat) : Outcome Error Bytes := do
  let headerEnd ← checkedAdd offset packetHeaderLen
    (.protocol "SQL Server outbound packet offset overflow")
  let headerBytes ← sliceOr bytes offset headerEnd
    (.protocol "SQL Server outbound packet buffer ended inside a header")
  let header ← (Outcome.ofExcept (PacketHeader.decode headerBytes)).mapErr packetError
  let packetEnd ← checkedAdd offset header.length.toNat
    (.protocol "SQL Server outbound packet length overflow")
  sliceOr bytes offset packetEnd
    (.protocol "SQL Server outbound packet buffer ended inside a packet")

def awaitWrite : Task Unit := do
  match ← nextFate with
  | .ready => pure ()
  | .failed error _ => .fail (.io error)
  | .dropped _ => .drop

def writePackets (bytes : Bytes) : Nat → Nat → Task Unit
  | 0, _ => .panic "loop without progress"
  | fuel + 1, offset =>
    if offset < bytes.length then do
      let packet ← .ofOutcome (tdsPacketSlice bytes offset)
      awaitWrite
      writePackets bytes fuel (offset + packet.length)
    else pure ()

/-- The request is complete once its last packet is written; the flush comes behind. -/
def writeTdsPackets (request : Request) (bytes : Bytes) : Task Unit := do
  .modify (World.record (.request request bytes))
  writePackets bytes (bytes.length + 1) 0
  .modify (World.deliver request)
  awaitWrite

def MssqlWireStream.writeAll (self : MssqlWireStream) (request : Request) (bytes : Bytes) :
    Task Unit :=
  match self.stream with
  | .raw | .tls => writeTdsPackets request bytes
  | .taken => .fail takenStreamError

end sending

section receiving

/-- The await of `read_exact` for `count` bytes. A read that the stream cannot serve never ends, so
that its future can only be dropped. -/
def awaitRead (count : Nat) : Task Bytes := do
  let fate ← nextFate
  let incoming := (← .get).link.incoming
  match fate with
  | .ready =>
    if count ≤ incoming.length then
      .modify (World.setIncoming (incoming.drop count))
      return incoming.take count
    else
      .modify (World.setIncoming [])
      .drop
  | .failed error progress =>
    .modify (World.setIncoming (incoming.drop (min progress (count - 1))))
    .fail (.io error)
  | .dropped progress =>
    .modify (World.setIncoming (incoming.drop (min progress (count - 1))))
    .drop

def MssqlWireStream.readExact (self : MssqlWireStream) (count : Nat) : Task Bytes :=
  match self.stream with
  | .raw | .tls => awaitRead count
  | .taken => .fail takenStreamError

def MssqlWireStream.checkHeader (self : MssqlWireStream) (packetType : Option PacketType)
    (expectedPacketId : Option UInt8) (header : PacketHeader) : Outcome Error Nat :=
  let firstType := packetType.getD header.packetType
  let expected := expectedPacketId.getD header.packetId
  if header.packetType ≠ firstType then
    .err (.protocol ("mismatched SQL Server packet type: expected 0x" ++ hexByte firstType.code ++
      ", got 0x" ++ hexByte header.packetType.code))
  else if header.packetId ≠ expected then
    .err (.protocol
      s!"non-contiguous SQL Server packet id: expected {expected}, got {header.packetId}")
  else if self.packetSize < header.length.toNat then
    .err (.protocol (s!"SQL Server packet length {header.length} exceeds negotiated packet size " ++
      toString self.packetSize))
  else if header.length.toNat < packetHeaderLen then
    .err (.protocol "SQL Server packet header length underflow")
  else .ok (header.length.toNat - packetHeaderLen)

def MssqlWireStream.readPackets (self : MssqlWireStream) :
    Nat → Option PacketType → Option UInt8 → Bytes → Task WireMessage
  | 0, _, _, _ => .panic "loop without progress"
  | fuel + 1, packetType, expectedPacketId, payload => do
    let headerBytes ← self.readExact packetHeaderLen
    let header ← .ofOutcome ((Outcome.ofExcept (PacketHeader.decode headerBytes)).mapErr packetError)
    let payloadLen ← .ofOutcome (self.checkHeader packetType expectedPacketId header)
    let body ← self.readExact payloadLen
    let packetType := packetType.getD header.packetType
    if header.status = .endOfMessage then
      return { packetType, payload := payload ++ body }
    else
      self.readPackets fuel (some packetType) (some (header.packetId + 1)) (payload ++ body)

def MssqlWireStream.readMessage (self : MssqlWireStream) : Task WireMessage := do
  let rounds := (← .get).link.incoming.length + 1
  let message ← self.readPackets rounds none none []
  .modify (World.record (.response message))
  return message

end receiving

section quiet
variable {α β : Type}

def Anywhere (_ : World) : Prop := True

/-- The worlds differ in what is under way alone. -/
structure Alike (world after : World) : Prop where
  conn : after.conn = world.conn
  replies : after.link.replies = world.link.replies
  delivered : after.link.delivered = world.link.delivered
  trace : after.link.trace = world.link.trace

theorem Alike.refl (world : World) : Alike world world := ⟨rfl, rfl, rfl, rfl⟩

def Quiet (action : Task α) : Prop := ∀ world, action.Keeps (Alike world)

/-- What depends on nothing else survives a quiet computation. -/
theorem Quiet.keeps {action : Task α} {P : World → Prop} (quiet : Quiet action)
    (depends : ∀ world after, Alike world after → P world → P after) : action.Keeps P := by
  intro world holds
  have alike := quiet world world (.refl world)
  split at alike <;> exact depends world _ alike holds

theorem Quiet.bind {action : Task α} {next : α → Task β} (head : Quiet action)
    (tail : ∀ value, Quiet (next value)) : Quiet (action >>= next) :=
  fun world => (head world).bind fun value => tail value world

theorem quiet_pure (value : α) : Quiet (pure value) := fun _ => Async.keeps_pure value

theorem quiet_nextFate : Quiet nextFate :=
  fun _ _ alike => ⟨alike.conn, alike.replies, alike.delivered, alike.trace⟩

theorem quiet_ofOutcome (outcome : Outcome Error α) : Quiet (.ofOutcome outcome) :=
  fun _ => Async.keeps_ofOutcome outcome

theorem quiet_setIncoming (incoming : Bytes) :
    Quiet (.modify (World.setIncoming incoming)) :=
  fun _ _ alike => ⟨alike.conn, alike.replies, alike.delivered, alike.trace⟩

theorem quiet_awaitWrite : Quiet awaitWrite := by
  apply quiet_nextFate.bind
  intro fate
  cases fate with
  | ready => exact quiet_pure _
  | failed error progress => exact fun _ => Async.keeps_fail _
  | dropped progress => exact fun _ => Async.keeps_drop

theorem quiet_writePackets (bytes : Bytes) (fuel offset : Nat) :
    Quiet (writePackets bytes fuel offset) := by
  induction fuel generalizing offset with
  | zero => exact fun _ => Async.keeps_panic _
  | succ fuel ih =>
    unfold writePackets
    split
    · exact (quiet_ofOutcome _).bind fun packet => quiet_awaitWrite.bind fun _ => ih _
    · exact quiet_pure _

theorem quiet_awaitRead (count : Nat) : Quiet (awaitRead count) := by
  refine quiet_nextFate.bind fun fate => Quiet.bind (fun _ => Async.keeps_get) fun world => ?_
  cases fate with
  | ready =>
    dsimp only
    split
    · exact (quiet_setIncoming _).bind fun _ => quiet_pure _
    · exact (quiet_setIncoming _).bind fun _ => fun _ => Async.keeps_drop
  | failed error progress =>
    exact (quiet_setIncoming _).bind fun _ => fun _ => Async.keeps_fail _
  | dropped progress => exact (quiet_setIncoming _).bind fun _ => fun _ => Async.keeps_drop

theorem quiet_readExact (self : MssqlWireStream) (count : Nat) : Quiet (self.readExact count) := by
  unfold MssqlWireStream.readExact
  split
  · exact quiet_awaitRead count
  · exact quiet_awaitRead count
  · exact fun _ => Async.keeps_fail _

theorem quiet_readPackets (self : MssqlWireStream) (fuel : Nat) (packetType : Option PacketType)
    (expectedPacketId : Option UInt8) (payload : Bytes) :
    Quiet (self.readPackets fuel packetType expectedPacketId payload) := by
  induction fuel generalizing packetType expectedPacketId payload with
  | zero => exact fun _ => Async.keeps_panic _
  | succ fuel ih =>
    refine (quiet_readExact self _).bind fun headerBytes => (quiet_ofOutcome _).bind fun header =>
      (quiet_ofOutcome _).bind fun payloadLen => (quiet_readExact self _).bind fun body => ?_
    dsimp only
    split
    · exact quiet_pure _
    · exact ih _ _ _

theorem triple_readMessage (self : MssqlWireStream) (world : World) :
    self.readMessage.Triple (Alike world)
      (fun message after => Alike (world.record (.response message)) after) (Alike world) := by
  apply Async.triple_look.bind
  intro _
  refine Async.Triple.bind (quiet_readPackets self _ _ _ _ world) fun message => ?_
  exact fun after alike => ⟨alike.conn, alike.replies, alike.delivered,
    congrArg (· ++ [Event.response message]) alike.trace⟩

/-- How sending takes the world from `P` to `Q`: the request is recorded, its packets are written,
and it is delivered. -/
theorem triple_writeAll {P R Q E : World → Prop} (self : MssqlWireStream) {request : Request}
    {bytes : Bytes}
    (recorded : (Async.modify (World.record (.request request bytes)) : Task Unit).Triple P
      (fun _ => R) E)
    (written : ∀ fuel offset, (writePackets bytes fuel offset).Triple R (fun _ => R) E)
    (delivers : (Async.modify (World.deliver request) : Task Unit).Triple R (fun _ => Q) E)
    (flushed : awaitWrite.Triple Q (fun _ => Q) E) (taken : ∀ world, P world → E world) :
    (self.writeAll request bytes).Triple P (fun _ => Q) E := by
  have sent : (writeTdsPackets request bytes).Triple P (fun _ => Q) E :=
    recorded.bind fun _ => (written _ _).bind fun _ => delivers.bind fun _ => flushed
  unfold MssqlWireStream.writeAll
  split
  · exact sent
  · exact sent
  · exact taken

end quiet
end SqlxSqlserver.Driver

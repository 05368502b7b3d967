import SqlxSqlserver.Protocol.Read

/-! The stream adapter that wraps TLS handshake bytes in PRELOGIN packets. Polling is modelled
with its two answers, and the inner stream is generic over what it does with a poll. -/

namespace SqlxSqlserver.Driver
open Foundation Protocol

inductive Poll (α : Type) where
  | pending
  | ready (value : α)
  deriving DecidableEq, Repr

class AsyncWrite (S : Type) where
  pollWrite : S → Bytes → Poll (Except IoError Nat) × S
  pollFlush : S → Poll (Except IoError Unit) × S

class AsyncRead (S : Type) where
  pollRead : S → Nat → Poll (Except IoError Bytes) × S

structure TlsPreloginStream (S : Type) where
  stream : S
  handshake : Bool
  headerBuf : Bytes
  headerPos : Nat
  readRemaining : Nat
  writeBuf : Bytes

namespace TlsPreloginStream
variable {S : Type}

def new (stream : S) : TlsPreloginStream S :=
  { stream, handshake := false, headerBuf := List.replicate packetHeaderLen 0, headerPos := 0,
    readRemaining := 0, writeBuf := [] }

def startHandshake (self : TlsPreloginStream S) : TlsPreloginStream S :=
  { self with handshake := true }

def finishHandshake (self : TlsPreloginStream S) : TlsPreloginStream S :=
  { self with handshake := false }

end TlsPreloginStream

section reading
variable {S : Type} [AsyncRead S]

def headerEof (headerPos : Nat) : IoError where
  kind := .unexpectedEof
  message :=
    if headerPos = 0 then
      "SQL Server closed the connection before sending a TDS PRELOGIN packet during TLS handshake"
    else
      "SQL Server closed the connection in the middle of a TDS PRELOGIN packet header during TLS handshake"

def packetHeaderIoError (error : PacketHeaderError) : IoError where
  kind := .invalidData
  message := error.message

namespace TlsPreloginStream

def pushHeader (self : TlsPreloginStream S) (read : Bytes) : TlsPreloginStream S :=
  { self with
    headerBuf := self.headerBuf.take self.headerPos ++ read ++
      self.headerBuf.drop (self.headerPos + read.length)
    headerPos := self.headerPos + read.length }

/-- The `while` loop of `poll_read`; `none` means that it ran to its end. Every round that
continues adds a byte to the header. -/
def fillHeader : Nat → TlsPreloginStream S →
    Option (Poll (Outcome IoError Bytes)) × TlsPreloginStream S
  | 0, self => (none, self)
  | fuel + 1, self =>
    if self.headerPos < packetHeaderLen then
      let (answer, stream) := AsyncRead.pollRead self.stream (packetHeaderLen - self.headerPos)
      let polled := { self with stream }
      match answer with
      | .pending => (some .pending, polled)
      | .ready (.error error) => (some (.ready (.err error)), polled)
      | .ready (.ok read) =>
        if read.length = 0 then (some (.ready (.err (headerEof self.headerPos))), polled)
        else fillHeader fuel (polled.pushHeader read)
    else (none, self)

def takeHeader (self : TlsPreloginStream S) :
    Option (Poll (Outcome IoError Bytes)) × TlsPreloginStream S :=
  match PacketHeader.decode self.headerBuf with
  | .error error => (some (.ready (.err (packetHeaderIoError error))), self)
  | .ok header =>
    if header.packetType ≠ .preLogin then
      (some (.ready (.err ⟨.invalidData,
        "expected TLS handshake bytes in PRELOGIN packet, got packet type 0x" ++
          hexByte header.packetType.code⟩)), self)
    else if header.length.toNat < packetHeaderLen then
      (some (.ready (.err ⟨.invalidData, "invalid TDS packet length"⟩)), self)
    else
      (none, { self with readRemaining := header.length.toNat - packetHeaderLen, headerPos := 0 })

def readHeader (self : TlsPreloginStream S) :
    Option (Poll (Outcome IoError Bytes)) × TlsPreloginStream S :=
  match fillHeader packetHeaderLen self with
  | (some answer, filled) => (some answer, filled)
  | (none, filled) => filled.takeHeader

def readPayload (self : TlsPreloginStream S) (capacity : Nat) :
    Poll (Outcome IoError Bytes) × TlsPreloginStream S :=
  let (answer, stream) := AsyncRead.pollRead self.stream (min self.readRemaining capacity)
  let polled := { self with stream }
  match answer with
  | .pending => (.pending, polled)
  | .ready (.error error) => (.ready (.err error), polled)
  | .ready (.ok read) =>
    if read.length = 0 ∧ 0 < self.readRemaining then
      (.ready (.err ⟨.unexpectedEof,
        "SQL Server closed the connection in the middle of a TDS PRELOGIN TLS payload"⟩), polled)
    else (.ready (.ok read), { polled with readRemaining := self.readRemaining - read.length })

def readInner (self : TlsPreloginStream S) (capacity : Nat) :
    Poll (Outcome IoError Bytes) × TlsPreloginStream S :=
  let (answer, stream) := AsyncRead.pollRead self.stream capacity
  (match answer with
    | .pending => .pending
    | .ready result => .ready (.ofExcept result), { self with stream })

/-- A read into an initialised buffer with room for `capacity` bytes, which are advanced over. -/
def pollRead (self : TlsPreloginStream S) (capacity : Nat) :
    Poll (Outcome IoError Bytes) × TlsPreloginStream S :=
  if !self.handshake then self.readInner capacity
  else if capacity = 0 then (.ready (.ok []), self)
  else if self.readRemaining = 0 then
    match self.readHeader with
    | (some answer, headed) => (answer, headed)
    | (none, headed) => headed.readPayload capacity
  else self.readPayload capacity

end TlsPreloginStream
end reading

def wrapPreloginTlsPayload (payload : Bytes) (packetSize : Nat) : Outcome PacketFrameError Bytes :=
  encodeMessage .preLogin payload packetSize

def packetFrameIoError (error : PacketFrameError) : IoError where
  kind := .invalidData
  message := "failed to wrap TLS handshake bytes in a TDS PRELOGIN packet: " ++ error.message

namespace TlsPreloginStream
variable {S : Type} [AsyncWrite S]

def pollWrite (self : TlsPreloginStream S) (buf : Bytes) :
    Poll (Except IoError Nat) × TlsPreloginStream S :=
  if !self.handshake then
    let (answer, stream) := AsyncWrite.pollWrite self.stream buf
    (answer, { self with stream })
  else (.ready (.ok buf.length), { self with writeBuf := self.writeBuf ++ buf })

/-- The `while` loop of `poll_flush`; `none` means that it ran to its end. Every round takes the
buffer out of the stream before it polls, and puts back what was not written. -/
def drainWriteBuf : Nat → TlsPreloginStream S →
    Option (Poll (Outcome IoError Unit)) × TlsPreloginStream S
  | 0, self => (none, self)
  | fuel + 1, self =>
    if self.writeBuf.isEmpty then (none, self)
    else
      let writeBuf := self.writeBuf
      let (answer, stream) := AsyncWrite.pollWrite self.stream writeBuf
      let taken := { self with stream, writeBuf := [] }
      match answer with
      | .pending => (some .pending, taken)
      | .ready (.error error) => (some (.ready (.err error)), taken)
      | .ready (.ok written) =>
        if written = 0 then
          (some (.ready (.err ⟨.writeZero, "failed to write TLS handshake packet"⟩)), taken)
        else if written < writeBuf.length then
          drainWriteBuf fuel { taken with writeBuf := writeBuf.drop written }
        else drainWriteBuf fuel taken

def flushInner (self : TlsPreloginStream S) :
    Poll (Outcome IoError Unit) × TlsPreloginStream S :=
  let (answer, stream) := AsyncWrite.pollFlush self.stream
  (match answer with
    | .pending => .pending
    | .ready result => .ready (.ofExcept result), { self with stream })

def afterDrain : Option (Poll (Outcome IoError Unit)) × TlsPreloginStream S →
    Poll (Outcome IoError Unit) × TlsPreloginStream S
  | (some result, self) => (result, self)
  | (none, self) => self.flushInner

def pollFlush (self : TlsPreloginStream S) :
    Poll (Outcome IoError Unit) × TlsPreloginStream S :=
  if self.handshake && !self.writeBuf.isEmpty then
    let payload := self.writeBuf
    match wrapPreloginTlsPayload payload 4096 with
    | .err error => (.ready (.err (packetFrameIoError error)), { self with writeBuf := [] })
    | .panic message => (.ready (.panic message), { self with writeBuf := [] })
    | .ok framed => afterDrain (drainWriteBuf framed.length { self with writeBuf := framed })
  else self.flushInner

end TlsPreloginStream
end SqlxSqlserver.Driver

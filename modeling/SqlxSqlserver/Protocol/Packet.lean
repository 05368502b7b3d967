import SqlxSqlserver.Foundation.Reader
import SqlxSqlserver.Foundation.Chunks

/-! TDS packet framing: the 8-byte header, the encoder that cuts a payload into packets,
and the decoder that reassembles one message from the front of a buffer. -/

namespace SqlxSqlserver.Protocol
open Foundation

def packetHeaderLen : Nat := 8

def maxPacketLen : Nat := 0xffff

def usizeMax : Nat := 2 ^ 64 - 1

/-- `isize::MAX`, the limit on the length of every `Vec<u8>`. -/
def isizeMax : Nat := 2 ^ 63 - 1

structure PacketType where
  code : UInt8
  deriving DecidableEq, Repr

namespace PacketType
def sqlBatch : PacketType := ⟨0x01⟩
def rpc : PacketType := ⟨0x03⟩
def tabularResult : PacketType := ⟨0x04⟩
def login7 : PacketType := ⟨0x10⟩
def preLogin : PacketType := ⟨0x12⟩
end PacketType

structure PacketStatus where
  code : UInt8
  deriving DecidableEq, Repr

namespace PacketStatus
def normal : PacketStatus := ⟨0x00⟩
def endOfMessage : PacketStatus := ⟨0x01⟩
end PacketStatus

structure PacketHeader where
  packetType : PacketType
  status : PacketStatus
  /-- Full packet length including the header. -/
  length : UInt16
  serverProcessId : UInt16
  packetId : UInt8
  window : UInt8
  deriving DecidableEq, Repr

inductive PacketHeaderError where
  | wrongLength (length : Nat)
  | invalidPacketLength (length : UInt16)
  deriving DecidableEq, Repr

def PacketHeaderError.message : PacketHeaderError → String
  | .wrongLength length => s!"TDS packet header must be 8 bytes, got {length}"
  | .invalidPacketLength length =>
      s!"TDS packet length {length} is smaller than the 8-byte header"

inductive PacketFrameError where
  | header (error : PacketHeaderError)
  | invalidMaxPacketSize (size : Nat)
  | mismatchedPacketType (expected actual : PacketType)
  | unexpectedPacketId (expected actual : UInt8)
  | messageTooLarge
  deriving DecidableEq, Repr

def hexByte (byte : UInt8) : String :=
  String.ofList [Nat.digitChar (byte.toNat / 16), Nat.digitChar (byte.toNat % 16)]

def PacketFrameError.message : PacketFrameError → String
  | .header error => error.message
  | .invalidMaxPacketSize size => s!"invalid maximum TDS packet size {size}"
  | .mismatchedPacketType expected actual =>
      "TDS message packet type changed from 0x" ++ hexByte expected.code ++ " to 0x" ++
        hexByte actual.code
  | .unexpectedPacketId expected actual =>
      s!"unexpected TDS packet id {actual}, expected {expected}"
  | .messageTooLarge => "TDS message is too large"

namespace PacketHeader

def new (packetType : PacketType) (status : PacketStatus) (length : UInt16) (packetId : UInt8) :
    PacketHeader :=
  { packetType, status, length, serverProcessId := 0, packetId, window := 0 }

def encode (header : PacketHeader) : Bytes :=
  [header.packetType.code, header.status.code] ++ beBytes 2 header.length.toNat ++
    beBytes 2 header.serverProcessId.toNat ++ [header.packetId, header.window]

def decode : Bytes → Except PacketHeaderError PacketHeader
  | [packetType, status, lengthHigh, lengthLow, processHigh, processLow, packetId, window] =>
    let length := UInt16.ofNat (beNat [lengthHigh, lengthLow])
    if length.toNat < packetHeaderLen then .error (.invalidPacketLength length)
    else .ok {
      packetType := ⟨packetType⟩
      status := ⟨status⟩
      length
      serverProcessId := UInt16.ofNat (beNat [processHigh, processLow])
      packetId
      window }
  | input => .error (.wrongLength input.length)

@[simp] theorem encode_length (header : PacketHeader) : header.encode.length = packetHeaderLen := by
  simp [encode, packetHeaderLen]

end PacketHeader

theorem field_recovered (field : UInt16) :
    ∃ high low, beBytes 2 field.toNat = [high, low] ∧ UInt16.ofNat (beNat [high, low]) = field := by
  have bytes : beBytes 2 field.toNat =
      [UInt8.ofNat (field.toNat / 256), UInt8.ofNat field.toNat] := rfl
  refine ⟨_, _, bytes, ?_⟩
  rw [← bytes, beNat_beBytes_of_lt field.toNat_lt, UInt16.ofNat_toNat]

theorem PacketHeader.decode_encode (header : PacketHeader)
    (long : packetHeaderLen ≤ header.length.toNat) :
    PacketHeader.decode header.encode = .ok header := by
  obtain ⟨lengthHigh, lengthLow, lengthBytes, length⟩ := field_recovered header.length
  obtain ⟨processHigh, processLow, processBytes, process⟩ := field_recovered header.serverProcessId
  rw [PacketHeader.encode, lengthBytes, processBytes]
  simp only [List.cons_append, List.nil_append, PacketHeader.decode, length, process,
    if_neg (Nat.not_lt.mpr long)]

theorem PacketHeader.encode_of_decode {input : Bytes} {header : PacketHeader}
    (decoded : PacketHeader.decode input = .ok header) :
    input = header.encode ∧ packetHeaderLen ≤ header.length.toNat := by
  unfold PacketHeader.decode at decoded
  split at decoded
  next packetType status lengthHigh lengthLow processHigh processLow packetId window =>
    dsimp only at decoded
    split at decoded
    next => cases decoded
    next long =>
      cases decoded
      have small : ∀ high low : UInt8, beNat [high, low] < 65536 := by
        intro high low
        simpa using beNat_lt [high, low]
      have digits : ∀ high low : UInt8,
          beBytes 2 (UInt16.ofNat (beNat [high, low])).toNat = [high, low] := by
        intro high low
        rw [UInt16.toNat_ofNat', Nat.mod_eq_of_lt (small high low)]
        exact beBytes_beNat [high, low]
      exact ⟨by simp only [PacketHeader.encode, digits, List.cons_append, List.nil_append],
        Nat.not_lt.mp long⟩
  next => cases decoded

structure PacketMessage where
  packetType : PacketType
  payload : Bytes
  /-- Number of bytes consumed from the input buffer. -/
  consumed : Nat
  deriving DecidableEq, Repr

def encodeChunk (packetType : PacketType) (totalLen : Nat) (state : Bytes × UInt8)
    (chunk : Bytes) : Except PacketFrameError (Bytes × UInt8) :=
  let isLast := state.1.length + packetHeaderLen + chunk.length == totalLen
  let status := if isLast then PacketStatus.endOfMessage else PacketStatus.normal
  if packetHeaderLen + chunk.length ≤ 0xffff then
    let length := UInt16.ofNat (packetHeaderLen + chunk.length)
    let header := PacketHeader.new packetType status length state.2
    .ok (state.1 ++ header.encode ++ chunk, state.2 + 1)
  else .error .messageTooLarge

def packetCount (payload : Bytes) (maxPayloadLen : Nat) : Nat :=
  if payload.isEmpty then 1 else (payload.length + maxPayloadLen - 1) / maxPayloadLen

/-- `encode_message`. The product of the packet count and the header length is exact: it would
overflow only for 2^61 packets. -/
def encodeMessage (packetType : PacketType) (payload : Bytes) (packetSize : Nat) :
    Outcome PacketFrameError Bytes :=
  if packetSize ≤ packetHeaderLen then .err (.invalidMaxPacketSize packetSize)
  else if maxPacketLen < packetSize then .err (.invalidMaxPacketSize packetSize)
  else
    let maxPayloadLen := packetSize - packetHeaderLen
    let totalLen := payload.length + packetCount payload maxPayloadLen * packetHeaderLen
    if usizeMax < totalLen then .err .messageTooLarge
    else if isizeMax < totalLen then .panic "capacity overflow"
    else if payload.isEmpty then
      .ok (PacketHeader.new packetType .endOfMessage (UInt16.ofNat packetHeaderLen) 1).encode
    else .ofExcept do
      let state ← (chunks maxPayloadLen payload).foldlM (encodeChunk packetType totalLen) ([], 1)
      return state.1

def slice (input : Bytes) (start stop : Nat) : Option Bytes :=
  if start ≤ stop ∧ stop ≤ input.length then some ((input.drop start).take (stop - start))
  else none

/-- The loop of `try_decode_message`. A round that continues moves `offset` by at least the
header length, so `fuel` above the input length never runs out. -/
def tryDecodeLoop (input : Bytes) :
    Nat → Nat → Option PacketType → Option UInt8 → Bytes →
      Except PacketFrameError (Option PacketMessage)
  | 0, _, _, _, _ => .ok none
  | fuel + 1, offset, packetType, expectedPacketId, payload =>
    match slice input offset (offset + packetHeaderLen) with
    | none => .ok none
    | some headerBytes =>
      match PacketHeader.decode headerBytes with
      | .error error => .error (.header error)
      | .ok header =>
        let firstType := packetType.getD header.packetType
        if header.packetType ≠ firstType then
          .error (.mismatchedPacketType firstType header.packetType)
        else
          let expected := expectedPacketId.getD header.packetId
          if header.packetId ≠ expected then
            .error (.unexpectedPacketId expected header.packetId)
          else
            let packetEnd := offset + header.length.toNat
            match slice input (offset + packetHeaderLen) packetEnd with
            | none => .ok none
            | some packet =>
              if header.status = .endOfMessage then
                .ok (some ⟨firstType, payload ++ packet, packetEnd⟩)
              else
                tryDecodeLoop input fuel packetEnd (some firstType) (some (header.packetId + 1))
                  (payload ++ packet)

def tryDecodeMessage (input : Bytes) : Except PacketFrameError (Option PacketMessage) :=
  tryDecodeLoop input (input.length + 1) 0 none none []

end SqlxSqlserver.Protocol

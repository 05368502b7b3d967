import SqlxSqlserver.Driver.Connection
import SqlxSqlserver.Driver.OutboundPackets
import SqlxSqlserver.Driver.Options
import SqlxSqlserver.Protocol.Login7

/-! Which packet sizes a connection frames its messages with. The options give the first one, to
both messages of the login and to the stream; the server's changes are clamped. -/

namespace SqlxSqlserver.Driver
open Foundation Protocol

def MssqlWireStream.connect (options : MssqlConnectOptions) : MssqlWireStream where
  stream := .raw
  packetSize := options.requestedPacketSize.toNat

def MssqlConnection.established (stream : MssqlWireStream) : MssqlConnection where
  stream := some stream
  transactionDepth := 0
  transactionDescriptor := 0
  pendingRollbackSql := none

/-- The message is framed with a size that the encoder takes, is not refused for the size, and is
written in packets that the size allows. -/
structure Usable {ε : Type} (packetSize : Nat) (refusal : PacketFrameError → ε)
    (message : Outcome ε Bytes) : Prop where
  lower : 8 < packetSize
  upper : packetSize ≤ 65535
  taken : ∀ size, message ≠ .err (refusal (.invalidMaxPacketSize size))
  short : ∀ bytes, message = .ok bytes → ∃ packets : List Packet,
    outboundPackets bytes = (packets.map Packet.encode, .ok ()) ∧
      ∀ packet ∈ packets, packet.encode.length ≤ packetSize

def Request.Usable (self : Request) (packetSize : Nat) (transactionDescriptor : UInt64) : Prop :=
  match self with
  | .sqlBatch sql =>
    Driver.Usable packetSize id (buildSqlBatchPacket sql packetSize transactionDescriptor)
  | .executeSql sql arguments => Driver.Usable packetSize .frame
    (buildExecuteSqlPacket sql arguments packetSize transactionDescriptor)
  | .prepare sql parameters => Driver.Usable packetSize .frame
    (buildPreparePacket sql parameters packetSize transactionDescriptor)
  | .unprepare statementId => Driver.Usable packetSize .frame
    (buildUnpreparePacket statementId packetSize transactionDescriptor)

/-- Both messages of the login are usable, and behind the changes every request. -/
structure UsableSizes (options : MssqlConnectOptions) (changes : List EnvChange) : Prop where
  preLogin : Usable options.requestedPacketSize.toNat .packet (buildPreLoginPacket options)
  login7 : Usable options.requestedPacketSize.toNat .packet (buildLogin7Packet options)
  requests : ∀ kind stream,
    ((MssqlConnection.established { MssqlWireStream.connect options with stream := kind }
      ).applyEnvChanges changes).stream = some stream →
    ∀ (request : Request) transactionDescriptor,
      request.Usable stream.packetSize transactionDescriptor

/-- The last packet size of the URL, if there is one, fits the length field of a packet. -/
def Url.PacketSizeFits (self : Url) : Prop := ∀ value, LastValue self.queryPairs "packet_size" value →
  ∀ size, parseU32 value = some size → size.toNat ≤ 65535

section framing
variable {ε : Type} {packetSize : Nat}

theorem usable_encodeMessage {refusal : PacketFrameError → ε} (lower : 8 < packetSize)
    (upper : packetSize ≤ 65535) (injective : Function.Injective refusal)
    (packetType : PacketType) (payload : Bytes) :
    Usable packetSize refusal ((encodeMessage packetType payload packetSize).mapErr refusal) := by
  refine ⟨lower, upper, ?_, ?_⟩
  · intro size refused
    cases encoded : encodeMessage packetType payload packetSize with
    | ok bytes =>
      rw [encoded] at refused
      cases refused
    | err error =>
      rw [encoded] at refused
      have same := injective (Outcome.err.inj refused)
      rw [encodeMessage_err lower upper encoded] at same
      cases same
    | panic message =>
      rw [encoded] at refused
      cases refused
  · intro bytes built
    obtain ⟨packets, _, _, written, short⟩ := outboundPackets_encoded (Outcome.ok_of_mapErr built)
    exact ⟨packets, written, short⟩

theorem usable_err {refusal : PacketFrameError → ε} (lower : 8 < packetSize)
    (upper : packetSize ≤ 65535) {error : ε} (other : ∀ frame, error ≠ refusal frame) :
    Usable packetSize refusal (.err error) where
  lower := lower
  upper := upper
  taken size refused := other _ (Outcome.err.inj refused)
  short bytes built := by cases built

theorem usable_frameLogin {options : MssqlConnectOptions} (packetType : PacketType)
    (payload : Except ε Bytes) (lower : 8 < options.requestedPacketSize.toNat)
    (upper : options.requestedPacketSize.toNat ≤ 65535) :
    Usable options.requestedPacketSize.toNat .packet (frameLogin packetType payload options) := by
  cases payload with
  | ok bytes =>
    exact usable_encodeMessage lower upper (fun one two => LoginPacketError.packet.inj)
      packetType bytes
  | error error => exact usable_err lower upper fun frame same => by cases same

theorem usable_frameRpc (payload : Put BoxDynError Unit) (lower : 8 < packetSize)
    (upper : packetSize ≤ 65535) : Usable packetSize .frame (frameRpc payload packetSize) := by
  unfold frameRpc
  cases payload.result with
  | ok written =>
    exact usable_encodeMessage lower upper (fun one two => RpcPacketError.frame.inj) .rpc
      payload.written
  | error error => exact usable_err lower upper fun frame same => by cases same

theorem Request.usable (self : Request) (lower : 8 < packetSize) (upper : packetSize ≤ 65535)
    (transactionDescriptor : UInt64) : self.Usable packetSize transactionDescriptor := by
  cases self with
  | sqlBatch sql =>
    have framed := usable_encodeMessage lower upper Function.injective_id .sqlBatch
      (allHeaders transactionDescriptor ++ unitBytes (encodeUtf16 sql))
    rwa [Outcome.mapErr_id] at framed
  | executeSql sql arguments => exact usable_frameRpc _ lower upper
  | prepare sql parameters => exact usable_frameRpc _ lower upper
  | unprepare statementId => exact usable_frameRpc _ lower upper

end framing

section changes
variable {conn : MssqlConnection} {P : Nat → Prop}

theorem applyEnvChange_packetSize (clamped : ∀ size, 512 ≤ size → size ≤ 32767 → P size)
    (holds : ∀ stream, conn.stream = some stream → P stream.packetSize) (change : EnvChange) :
    ∀ stream, (conn.applyEnvChange change).stream = some stream → P stream.packetSize := by
  intro stream after
  cases change with
  | packetSize size =>
    obtain ⟨before, _, rfl⟩ := Option.map_eq_some_iff.mp after
    exact clamped _ (by dsimp only; omega) (by dsimp only; omega)
  | _ => exact holds stream after

theorem applyEnvChanges_packetSize (clamped : ∀ size, 512 ≤ size → size ≤ 32767 → P size)
    (holds : ∀ stream, conn.stream = some stream → P stream.packetSize) (changes : List EnvChange) :
    ∀ stream, (conn.applyEnvChanges changes).stream = some stream → P stream.packetSize := by
  induction changes generalizing conn with
  | nil => exact holds
  | cons change changes ih => exact ih (applyEnvChange_packetSize clamped holds change)

end changes

section options
variable {options : MssqlConnectOptions} {changes : List EnvChange}

theorem clampedSize_usable (size : Nat) (lower : 512 ≤ size) (upper : size ≤ 32767) :
    512 ≤ size ∧ size ≤ 65535 := ⟨lower, upper.trans (by decide)⟩

/-- The requested size decides: what comes behind it is clamped. -/
theorem usableSizes_iff (lower : 512 ≤ options.requestedPacketSize.toNat) :
    UsableSizes options changes ↔ options.requestedPacketSize.toNat ≤ 65535 := by
  constructor
  · intro usable
    exact usable.preLogin.upper
  · intro upper
    refine ⟨usable_frameLogin _ _ (by omega) upper, usable_frameLogin _ _ (by omega) upper, ?_⟩
    intro kind stream after request transactionDescriptor
    have size := applyEnvChanges_packetSize clampedSize_usable (fun stream first => by
      cases first
      exact ⟨lower, upper⟩) changes stream after
    exact request.usable (by omega) size.2 transactionDescriptor

end options

/-- Under an accepted URL every message is framed with a usable size exactly when the last packet
size of the URL fits the length field of a packet. -/
theorem packet_sizes_usable_iff {ε υ : Type} (library : UrlLibrary ε υ) (input : String) (url : Url)
    (options : MssqlConnectOptions) (changes : List EnvChange)
    (parsed : library.parse input = .ok url) (accepted : parseUrl library input = .ok options) :
    UsableSizes options changes ↔ url.PacketSizeFits := by
  obtain ⟨found, same, sizes⟩ := parseUrl_requestedPacketSize accepted
  obtain rfl : found = url := Except.ok.inj (same.symm.trans parsed)
  rcases sizes with ⟨absent, default⟩ | ⟨value, last, size, lower⟩
  · have small : options.requestedPacketSize.toNat = 4096 := by
      rw [default]
      rfl
    rw [usableSizes_iff (by omega), small]
    apply iff_of_true (by decide)
    rintro value ⟨before, after, split, _⟩
    exact absurd rfl (absent _ (split ▸ List.mem_append_right _ List.mem_cons_self))
  · rw [usableSizes_iff lower]
    constructor
    · intro upper other isLast otherSize number
      obtain rfl := last.unique isLast
      rw [size] at number
      cases number
      exact upper
    · intro fits
      exact fits value last _ size

section library

def sizedUrl (size : String) : Url where
  scheme := "mssql"
  hostStr := some "localhost"
  path := "/master"
  queryPairs := [("packet_size", size)]

def sizedLibrary : UrlLibrary String String where
  parse input :=
    if input = "mssql://localhost/master?packet_size=8192" then .ok (sizedUrl "8192")
    else if input = "mssql://localhost/master?packet_size=100000" then .ok (sizedUrl "100000")
    else .error "relative URL without a base"
  percentDecode component := .ok component

def sizedOptions (size : UInt32) : MssqlConnectOptions :=
  { MssqlConnectOptions.new with host := "localhost", database := "master", requestedPacketSize := size }

theorem packet_sizes_usable_8192 : UsableSizes (sizedOptions 8192) [.packetSize 100000] := by
  have parsed : sizedLibrary.parse "mssql://localhost/master?packet_size=8192" =
      .ok (sizedUrl "8192") := by decide
  have accepted : parseUrl sizedLibrary "mssql://localhost/master?packet_size=8192" =
      .ok (sizedOptions 8192) := by decide
  refine (packet_sizes_usable_iff _ _ _ _ [.packetSize 100000] parsed accepted).mpr ?_
  intro value last size number
  have only : LastValue (sizedUrl "8192").queryPairs "packet_size" "8192" := ⟨[], [], rfl, by simp⟩
  obtain rfl := only.unique last
  have parsed : parseU32 "8192" = some 8192 := by decide
  rw [parsed] at number
  cases number
  decide

/-- A packet size of 100000 is accepted, and the first message of the connection is refused. -/
theorem large_packet_size_refused :
    parseUrl sizedLibrary "mssql://localhost/master?packet_size=100000" = .ok (sizedOptions 100000) ∧
    buildPreLoginPacket (sizedOptions 100000) = .err (.packet (.invalidMaxPacketSize 100000)) ∧
    ¬∀ (library : UrlLibrary String String) input options changes,
      parseUrl library input = .ok options → UsableSizes options changes := by
  have accepted : parseUrl sizedLibrary "mssql://localhost/master?packet_size=100000" =
      .ok (sizedOptions 100000) := by decide
  refine ⟨accepted, by decide, ?_⟩
  intro always
  have usable := always _ _ _ [] accepted
  exact absurd usable.preLogin.upper (by decide)

end library

end SqlxSqlserver.Driver

import SqlxSqlserver.Protocol.Packet

/-! A message is a list of packets whose headers count their bodies. What the encoder writes
is such a list, and what the decoder accepts is one read back from the front of a buffer. -/

namespace SqlxSqlserver.Protocol
open Foundation

/-- A packet whose header length counts the body, so that it can be delimited. -/
structure Packet where
  header : PacketHeader
  body : Bytes
  framed : header.length.toNat = packetHeaderLen + body.length

namespace Packet

def encode (packet : Packet) : Bytes := packet.header.encode ++ packet.body

theorem encode_length (packet : Packet) : packet.encode.length = packet.header.length.toNat := by
  rw [encode, List.length_append, PacketHeader.encode_length, packet.framed]

theorem headerLen_le (packet : Packet) : packetHeaderLen ≤ packet.header.length.toNat := by
  rw [packet.framed]
  exact Nat.le_add_right _ _

def client (packetType : PacketType) (status : PacketStatus) (packetId : UInt8) (body : Bytes)
    (short : packetHeaderLen + body.length ≤ 0xffff) : Packet where
  header := .new packetType status (UInt16.ofNat (packetHeaderLen + body.length)) packetId
  body := body
  framed := by
    simp only [PacketHeader.new]
    rw [UInt16.toNat_ofNat', Nat.mod_eq_of_lt (by omega)]

end Packet

def encodeAll (packets : List Packet) : Bytes := packets.flatMap Packet.encode

def payloadOf (packets : List Packet) : Bytes := packets.flatMap Packet.body

@[simp] theorem encodeAll_nil : encodeAll [] = [] := rfl

@[simp] theorem encodeAll_cons (packet : Packet) (packets : List Packet) :
    encodeAll (packet :: packets) = packet.encode ++ encodeAll packets := rfl

@[simp] theorem payloadOf_nil : payloadOf [] = [] := rfl

@[simp] theorem payloadOf_cons (packet : Packet) (packets : List Packet) :
    payloadOf (packet :: packets) = packet.body ++ payloadOf packets := rfl

theorem encodeAll_length (packets : List Packet) : (encodeAll packets).length =
    packetHeaderLen * packets.length + (payloadOf packets).length := by
  induction packets with
  | nil => simp
  | cons packet packets ih =>
    rw [encodeAll_cons, payloadOf_cons, List.length_append, List.length_append, packet.encode_length,
      packet.framed, ih, List.length_cons, Nat.mul_succ]
    omega

theorem encodeAll_length_ge (packets : List Packet) :
    packetHeaderLen * packets.length ≤ (encodeAll packets).length := by
  rw [encodeAll_length]
  exact Nat.le_add_right _ _

def Terminated : List Packet → Prop
  | [] => False
  | [last] => last.header.status = .endOfMessage
  | packet :: rest => packet.header.status ≠ .endOfMessage ∧ Terminated rest

/-- One packet type throughout, and ids that count up from the expected one, modulo 256. -/
def Contiguous (packetType : PacketType) : Option UInt8 → List Packet → Prop
  | _, [] => True
  | expected, packet :: rest =>
    packet.header.packetType = packetType ∧
      (∀ id, expected = some id → packet.header.packetId = id) ∧
      Contiguous packetType (some (packet.header.packetId + 1)) rest

theorem Terminated.head_of_cons {packet next : Packet} {rest : List Packet}
    (terminated : Terminated (packet :: next :: rest)) :
    packet.header.status ≠ .endOfMessage ∧ Terminated (next :: rest) := terminated

theorem Terminated.status_iff {packets : List Packet} (terminated : Terminated packets)
    {i : Nat} (inside : i < packets.length) :
    packets[i].header.status = .endOfMessage ↔ i + 1 = packets.length := by
  induction packets generalizing i with
  | nil => exact terminated.elim
  | cons packet rest ih =>
    cases rest with
    | nil =>
      obtain rfl : i = 0 := by simpa using inside
      exact iff_of_true terminated rfl
    | cons next others =>
      cases i with
      | zero => exact iff_of_false terminated.1 (by simp)
      | succ i =>
        have tail := ih terminated.2 (by simpa using inside)
        simpa using tail

theorem Contiguous.packetId {packetType : PacketType} {first : UInt8} {packets : List Packet}
    (contiguous : Contiguous packetType (some first) packets) {i : Nat}
    (inside : i < packets.length) :
    packets[i].header.packetId = first + UInt8.ofNat i := by
  induction packets generalizing first i with
  | nil => simp at inside
  | cons packet rest ih =>
    obtain ⟨_, id, tail⟩ := contiguous
    have head := id first rfl
    cases i with
    | zero => simp [head]
    | succ i =>
      have step := ih tail (by simpa using inside)
      rw [List.getElem_cons_succ, step, head, UInt8.ofNat_add, UInt8.add_assoc,
        UInt8.add_comm 1]
      rfl

theorem Contiguous.weaken {packetType : PacketType} {expected : Option UInt8}
    {packets : List Packet} (contiguous : Contiguous packetType expected packets) :
    Contiguous packetType none packets := by
  cases packets with
  | nil => trivial
  | cons packet rest => exact ⟨contiguous.1, (fun id same => nomatch same), contiguous.2.2⟩

section decoding

theorem slice_middle (before middle after : Bytes) {start stop : Nat}
    (first : start = before.length) (last : stop = before.length + middle.length) :
    slice (before ++ middle ++ after) start stop = some middle := by
  subst first last
  rw [slice, if_pos (by simp)]
  simp

theorem slice_header (before after : Bytes) (packet : Packet) :
    slice (before ++ packet.encode ++ after) before.length (before.length + packetHeaderLen) =
      some packet.header.encode := by
  have split : before ++ packet.encode ++ after =
      before ++ packet.header.encode ++ (packet.body ++ after) := by simp [Packet.encode]
  rw [split]
  exact slice_middle _ _ _ rfl (by rw [PacketHeader.encode_length])

theorem tryDecodeLoop_packet (before after : Bytes) (packet : Packet) (fuel : Nat)
    (packetType : Option PacketType) (expected : Option UInt8) (payload : Bytes)
    (sameType : ∀ known, packetType = some known → packet.header.packetType = known)
    (sameId : ∀ id, expected = some id → packet.header.packetId = id) :
    tryDecodeLoop (before ++ packet.encode ++ after) (fuel + 1) before.length packetType expected
        payload =
      if packet.header.status = .endOfMessage then
        .ok (some ⟨packet.header.packetType, payload ++ packet.body,
          (before ++ packet.encode).length⟩)
      else
        tryDecodeLoop (before ++ packet.encode ++ after) fuel (before ++ packet.encode).length
          (some packet.header.packetType) (some (packet.header.packetId + 1))
          (payload ++ packet.body) := by
  have headerSlice := slice_header before after packet
  have packetEnd : before.length + packet.header.length.toNat =
      (before ++ packet.encode).length := by rw [List.length_append, packet.encode_length]
  have bodySlice : slice (before ++ packet.encode ++ after) (before.length + packetHeaderLen)
      (before ++ packet.encode).length = some packet.body := by
    have split : before ++ packet.encode ++ after =
        (before ++ packet.header.encode) ++ packet.body ++ after := by simp [Packet.encode]
    rw [split]
    exact slice_middle _ _ _ (by rw [List.length_append, PacketHeader.encode_length])
      (by rw [Packet.encode]; simp only [List.length_append]; omega)
  have typeKept : packetType.getD packet.header.packetType = packet.header.packetType := by
    cases packetType with
    | none => rfl
    | some known => exact (sameType known rfl).symm
  have idKept : expected.getD packet.header.packetId = packet.header.packetId := by
    cases expected with
    | none => rfl
    | some id => exact (sameId id rfl).symm
  rw [tryDecodeLoop]
  simp only [headerSlice, PacketHeader.decode_encode _ packet.headerLen_le, typeKept, idKept,
    packetEnd, bodySlice, ne_eq, not_true_eq_false, if_false]

/-- A terminated contiguous list of packets decodes to its payload, whatever follows it. -/
theorem tryDecodeLoop_packets {packetType : PacketType} {packets : List Packet}
    (terminated : Terminated packets) (before after : Bytes) (fuel : Nat)
    (enough : packets.length < fuel) (known : Option PacketType) (expected : Option UInt8)
    (sameType : ∀ first, known = some first → first = packetType)
    (contiguous : Contiguous packetType expected packets) (payload : Bytes) :
    tryDecodeLoop (before ++ encodeAll packets ++ after) fuel before.length known expected payload =
      .ok (some ⟨packetType, payload ++ payloadOf packets,
        (before ++ encodeAll packets).length⟩) := by
  induction packets generalizing before fuel known expected payload with
  | nil => exact terminated.elim
  | cons packet rest ih =>
    obtain ⟨fuel, rfl⟩ : ∃ fewer, fuel = fewer + 1 :=
      ⟨fuel - 1, by rw [List.length_cons] at enough; omega⟩
    obtain ⟨typeEq, idEq, tail⟩ := contiguous
    have split : before ++ encodeAll (packet :: rest) ++ after =
        before ++ packet.encode ++ (encodeAll rest ++ after) := by simp
    rw [split, tryDecodeLoop_packet before (encodeAll rest ++ after) packet fuel known expected
      payload (fun first found => typeEq.trans (sameType first found).symm) idEq, typeEq]
    cases rest with
    | nil =>
      rw [if_pos (show packet.header.status = .endOfMessage from terminated)]
      simp
    | cons next others =>
      rw [if_neg terminated.head_of_cons.1]
      have more := ih terminated.head_of_cons.2 (before ++ packet.encode) fuel
        (by rw [List.length_cons] at enough; omega) (some packetType) _
        (fun first found => (Option.some.inj found).symm) tail (payload ++ packet.body)
      rw [List.append_assoc (before ++ packet.encode)] at more
      rw [more]
      simp

theorem tryDecodeMessage_packets {packetType : PacketType} {packets : List Packet}
    (terminated : Terminated packets) (contiguous : Contiguous packetType none packets)
    (after : Bytes) :
    tryDecodeMessage (encodeAll packets ++ after) =
      .ok (some ⟨packetType, payloadOf packets, (encodeAll packets).length⟩) := by
  have enough : packets.length < (encodeAll packets ++ after).length + 1 := by
    have long := encodeAll_length_ge packets
    rw [packetHeaderLen] at long
    rw [List.length_append]
    omega
  have decoded := tryDecodeLoop_packets terminated [] after _ enough none none
    (fun first found => by cases found) contiguous []
  simpa only [tryDecodeMessage, List.nil_append, List.length_nil] using decoded

end decoding

section encoding
variable {packetType : PacketType}

theorem encodeChunk_short (totalLen : Nat) (out chunk : Bytes) (packetId : UInt8)
    (short : packetHeaderLen + chunk.length ≤ 0xffff) :
    encodeChunk packetType totalLen (out, packetId) chunk =
      .ok (out ++ (Packet.client packetType
        (if out.length + packetHeaderLen + chunk.length == totalLen then .endOfMessage else .normal)
        packetId chunk short).encode, packetId + 1) := by
  simp only [encodeChunk, if_pos short, Packet.encode, Packet.client, List.append_assoc]

/-- The rounds of the encoder write one packet for each block. The invariant is that `totalLen`
is what has been written plus what the remaining blocks take, so that only the last block
reaches it. -/
theorem encodeChunks (packetType : PacketType) (blocks : List Bytes) (some : blocks ≠ []) (out : Bytes) (packetId : UInt8)
    (totalLen : Nat) (short : ∀ block ∈ blocks, packetHeaderLen + block.length ≤ 0xffff)
    (nonempty : ∀ block ∈ blocks, block ≠ [])
    (total : totalLen = out.length + packetHeaderLen * blocks.length + blocks.flatten.length) :
    ∃ packets nextId,
      blocks.foldlM (encodeChunk packetType totalLen) (out, packetId) =
        .ok (out ++ encodeAll packets, nextId) ∧
      packets.map Packet.body = blocks ∧ Terminated packets ∧
      Contiguous packetType (Option.some packetId) packets := by
  induction blocks generalizing out packetId with
  | nil => exact absurd rfl some
  | cons block rest ih =>
    have blockShort := short block List.mem_cons_self
    rw [List.length_cons, List.flatten_cons, List.length_append, Nat.mul_succ] at total
    rw [List.foldlM_cons, encodeChunk_short totalLen out block packetId blockShort]
    cases rest with
    | nil =>
      have last : (out.length + packetHeaderLen + block.length == totalLen) = true := by
        simp only [List.length_nil, List.flatten_nil] at total
        rw [beq_iff_eq]
        omega
      rw [if_pos last]
      refine ⟨[Packet.client packetType .endOfMessage packetId block blockShort], packetId + 1,
        ?_, rfl, rfl, rfl, fun id same => Option.some.inj same, trivial⟩
      rw [encodeAll_cons, encodeAll_nil, List.append_nil]
      rfl
    | cons next others =>
      have later : ¬(out.length + packetHeaderLen + block.length == totalLen) = true := by
        rw [beq_iff_eq, total, List.length_cons, Nat.mul_succ, packetHeaderLen]
        omega
      rw [if_neg later]
      obtain ⟨packets, nextId, run, bodies, terminated, contiguous⟩ :=
        ih (List.cons_ne_nil _ _)
          (out ++ (Packet.client packetType .normal packetId block blockShort).encode) (packetId + 1)
          (fun other member => short other (List.mem_cons_of_mem _ member))
          (fun other member => nonempty other (List.mem_cons_of_mem _ member))
          (by
            rw [total, List.length_append, Packet.encode_length, Packet.framed]
            simp only [Packet.client]
            omega)
      refine ⟨Packet.client packetType .normal packetId block blockShort :: packets, nextId,
        ?_, ?_, ?_, rfl, fun id same => Option.some.inj same, contiguous⟩
      · change (next :: others).foldlM (encodeChunk packetType totalLen) _ = _
        rw [run, encodeAll_cons, List.append_assoc]
      · rw [List.map_cons, bodies]
        rfl
      · cases packets with
        | nil => exact terminated.elim
        | cons following more =>
          refine ⟨?_, terminated⟩
          change PacketStatus.normal ≠ .endOfMessage
          decide

def framedLength (payload : Bytes) (packetSize : Nat) : Nat :=
  payload.length + packetCount payload (packetSize - packetHeaderLen) * packetHeaderLen

theorem encodeMessage_written (packetType : PacketType) (payload : Bytes) {packetSize : Nat}
    (lower : packetHeaderLen < packetSize) (upper : packetSize ≤ maxPacketLen)
    (fits : framedLength payload packetSize ≤ isizeMax) :
    ∃ packets, encodeMessage packetType payload packetSize = .ok (encodeAll packets) ∧
      payloadOf packets = payload ∧ Terminated packets ∧
      Contiguous packetType (some 1) packets ∧
      ∀ packet ∈ packets, packet.header.length.toNat ≤ packetSize := by
  have positive : 0 < packetSize - packetHeaderLen := by omega
  have address : framedLength payload packetSize ≤ usizeMax := fits.trans (by decide)
  rw [framedLength] at fits address
  simp only [encodeMessage, if_neg (Nat.not_le.mpr lower), if_neg (Nat.not_lt.mpr upper),
    if_neg (Nat.not_lt.mpr fits), if_neg (Nat.not_lt.mpr address)]
  by_cases empty : payload.isEmpty = true
  · obtain rfl : payload = [] := List.isEmpty_iff.mp empty
    rw [if_pos empty]
    refine ⟨[Packet.client packetType .endOfMessage 1 [] (by decide)], ?_, rfl, rfl,
      ⟨rfl, fun id same => Option.some.inj same, trivial⟩, ?_⟩
    · rw [encodeAll_cons, encodeAll_nil, List.append_nil, Packet.encode]
      exact congrArg Outcome.ok (List.append_nil _).symm
    · intro packet member
      obtain rfl := List.mem_singleton.mp member
      rw [Packet.framed]
      exact lower.le
  · have nonempty : payload ≠ [] := fun same => empty (List.isEmpty_iff.mpr same)
    have blockShort : ∀ block ∈ chunks (packetSize - packetHeaderLen) payload,
        packetHeaderLen + block.length ≤ packetSize := by
      intro block member
      have bound := chunk_length_le member
      omega
    have total : payload.length + packetCount payload (packetSize - packetHeaderLen) *
        packetHeaderLen = ([] : Bytes).length +
          packetHeaderLen * (chunks (packetSize - packetHeaderLen) payload).length +
          (chunks (packetSize - packetHeaderLen) payload).flatten.length := by
      rw [chunks_flatten positive, chunks_length, packetCount, if_neg empty, List.length_nil,
        Nat.zero_add, Nat.mul_comm packetHeaderLen, Nat.add_comm]
    obtain ⟨packets, nextId, run, bodies, terminated, contiguous⟩ :=
      encodeChunks packetType (chunks (packetSize - packetHeaderLen) payload)
        (chunks_ne_nil positive nonempty) [] 1 _
        (fun block member => (blockShort block member).trans upper)
        (fun block member => chunk_ne_nil positive member) total
    refine ⟨packets, ?_, ?_, terminated, contiguous, ?_⟩
    · rw [if_neg empty, run]
      rfl
    · rw [payloadOf, List.flatMap_def, bodies, chunks_flatten positive]
    · intro packet member
      rw [Packet.framed]
      exact blockShort _ (bodies ▸ List.mem_map_of_mem member)

theorem encodeMessage_ok_iff (packetType : PacketType) (payload : Bytes) (packetSize : Nat) :
    (∃ bytes, encodeMessage packetType payload packetSize = .ok bytes) ↔
      packetHeaderLen < packetSize ∧ packetSize ≤ maxPacketLen ∧
        framedLength payload packetSize ≤ isizeMax := by
  constructor
  · rintro ⟨bytes, encoded⟩
    simp only [encodeMessage] at encoded
    split_ifs at encoded with lower upper address fits
    all_goals
      rw [framedLength]
      exact ⟨by omega, by omega, by omega⟩
  · rintro ⟨lower, upper, fits⟩
    obtain ⟨packets, encoded, _⟩ := encodeMessage_written packetType payload lower upper fits
    exact ⟨_, encoded⟩

theorem encodeMessage_err {payload : Bytes} {packetSize : Nat} {error : PacketFrameError}
    (lower : packetHeaderLen < packetSize) (upper : packetSize ≤ maxPacketLen)
    (refused : encodeMessage packetType payload packetSize = .err error) : error = .messageTooLarge := by
  by_cases fits : framedLength payload packetSize ≤ isizeMax
  · obtain ⟨packets, encoded, _⟩ := encodeMessage_written packetType payload lower upper fits
    rw [encoded] at refused
    cases refused
  · rw [framedLength] at fits
    simp only [encodeMessage, if_neg (Nat.not_le.mpr lower), if_neg (Nat.not_lt.mpr upper),
      if_pos (Nat.not_le.mp fits)] at refused
    split at refused
    next => exact (Outcome.err.inj refused).symm
    next => cases refused

theorem encodeMessage_packets {payload bytes : Bytes} {packetSize : Nat}
    (encoded : encodeMessage packetType payload packetSize = .ok bytes) :
    ∃ packets, bytes = encodeAll packets ∧ payloadOf packets = payload ∧ Terminated packets ∧
      Contiguous packetType (some 1) packets ∧
      ∀ packet ∈ packets, packet.header.length.toNat ≤ packetSize := by
  obtain ⟨lower, upper, fits⟩ := (encodeMessage_ok_iff packetType payload packetSize).mp ⟨bytes, encoded⟩
  obtain ⟨packets, written, rest⟩ := encodeMessage_written packetType payload
    lower upper fits
  rw [encoded] at written
  exact ⟨packets, Outcome.ok.inj written, rest⟩

theorem encodeChunks_length {totalLen : Nat} {blocks : List Bytes} {state result : Bytes × UInt8}
    (run : blocks.foldlM (encodeChunk packetType totalLen) state = .ok result) :
    result.1.length =
      state.1.length + packetHeaderLen * blocks.length + blocks.flatten.length := by
  induction blocks generalizing state with
  | nil =>
    cases run
    simp
  | cons block blocks ih =>
    rw [List.foldlM_cons] at run
    by_cases short : packetHeaderLen + block.length ≤ 0xffff
    · rw [encodeChunk_short totalLen state.1 block state.2 short] at run
      rw [ih run, List.length_append, Packet.encode_length, Packet.framed, List.length_cons,
        List.flatten_cons, List.length_append, Nat.mul_succ]
      simp only [Packet.client]
      omega
    · have refused : encodeChunk packetType totalLen state block = .error .messageTooLarge :=
        if_neg short
      rw [refused] at run
      cases run

/-- An encoded message has a header for every packet, and the payload. -/
theorem encodeMessage_length {payload bytes : Bytes} {packetSize : Nat}
    (encoded : encodeMessage packetType payload packetSize = .ok bytes) :
    bytes.length = framedLength payload packetSize := by
  obtain ⟨lower, upper, fits⟩ :=
    (encodeMessage_ok_iff packetType payload packetSize).mp ⟨bytes, encoded⟩
  have positive : 0 < packetSize - packetHeaderLen := by omega
  have address : framedLength payload packetSize ≤ usizeMax := fits.trans (by decide)
  rw [framedLength] at fits address ⊢
  simp only [encodeMessage, if_neg (Nat.not_le.mpr lower), if_neg (Nat.not_lt.mpr upper),
    if_neg (Nat.not_lt.mpr fits), if_neg (Nat.not_lt.mpr address)] at encoded
  by_cases empty : payload.isEmpty = true
  · obtain rfl : payload = [] := List.isEmpty_iff.mp empty
    rw [if_pos empty] at encoded
    cases encoded
    rfl
  · rw [if_neg empty] at encoded
    cases run : (chunks (packetSize - packetHeaderLen) payload).foldlM (encodeChunk packetType
        (payload.length + packetCount payload (packetSize - packetHeaderLen) * packetHeaderLen))
        ([], 1) with
    | error error =>
      rw [run] at encoded
      cases encoded
    | ok state =>
      rw [run] at encoded
      cases encoded
      rw [encodeChunks_length run, chunks_flatten positive, chunks_length, packetCount, if_neg empty,
        List.length_nil, Nat.zero_add, Nat.mul_comm packetHeaderLen, Nat.add_comm]

theorem tryDecodeMessage_encoded {payload bytes : Bytes} {packetSize : Nat}
    (encoded : encodeMessage packetType payload packetSize = .ok bytes) (rest : Bytes) :
    tryDecodeMessage (bytes ++ rest) = .ok (some ⟨packetType, payload, bytes.length⟩) := by
  obtain ⟨packets, rfl, rfl, terminated, contiguous, _⟩ := encodeMessage_packets encoded
  exact tryDecodeMessage_packets terminated contiguous.weaken rest

/-- Framing round trip: an encoded message decodes to its type and payload whatever bytes
follow, and its packets are numbered 1, 2, ... modulo 256, no longer than the packet size,
with the end marked on the last one alone. -/
theorem tryDecodeMessage_encodeMessage {payload bytes : Bytes} {packetSize : Nat}
    (encoded : encodeMessage packetType payload packetSize = .ok bytes) (rest : Bytes) :
    tryDecodeMessage (bytes ++ rest) = .ok (some ⟨packetType, payload, bytes.length⟩) ∧
      ∃ packets : List Packet, bytes = encodeAll packets ∧
        (∀ packet ∈ packets, packet.header.length.toNat ≤ packetSize) ∧
        ∀ (i : Nat) (inside : i < packets.length),
          packets[i].header.packetId = UInt8.ofNat (i + 1) ∧
            (packets[i].header.status = .endOfMessage ↔ i + 1 = packets.length) := by
  refine ⟨tryDecodeMessage_encoded encoded rest, ?_⟩
  obtain ⟨packets, rfl, rfl, terminated, contiguous, short⟩ := encodeMessage_packets encoded
  refine ⟨packets, rfl, short, ?_⟩
  intro i inside
  refine ⟨?_, terminated.status_iff inside⟩
  rw [contiguous.packetId inside, UInt8.ofNat_add, UInt8.add_comm]
  rfl

/-- Nine bytes in packets of twelve make three packets. -/
theorem tryDecodeMessage_encodeMessage_nine :
    ∃ bytes, encodeMessage .preLogin [97, 98, 99, 100, 101, 102, 103, 104, 105] 12 = .ok bytes ∧
      tryDecodeMessage (bytes ++ [7]) =
        .ok (some ⟨.preLogin, [97, 98, 99, 100, 101, 102, 103, 104, 105], 33⟩) := by
  have encoded : encodeMessage .preLogin [97, 98, 99, 100, 101, 102, 103, 104, 105] 12 =
      .ok [0x12, 0, 0, 12, 0, 0, 1, 0, 97, 98, 99, 100,
        0x12, 0, 0, 12, 0, 0, 2, 0, 101, 102, 103, 104,
        0x12, 1, 0, 9, 0, 0, 3, 0, 105] := by decide
  exact ⟨_, encoded, (tryDecodeMessage_encodeMessage encoded [7]).1⟩

end encoding

end SqlxSqlserver.Protocol

import SqlxSqlserver.Driver.WireStream
import SqlxSqlserver.Protocol.PacketSoundness

/-! What the write loop hands to its stream. The loop finds the packets again by the lengths in the
buffer that it walks over, and writes each of them whole. -/

namespace SqlxSqlserver.Driver
open Foundation Protocol

section loop
variable {σ : Type}

/-- The loop of `write_tds_packets` over any stream: `write` is `stream.write_all(packet).await`. -/
def writePacketsTo (write : Bytes → Async Error σ Unit) (bytes : Bytes) :
    Nat → Nat → Async Error σ Unit
  | 0, _ => .panic "loop without progress"
  | fuel + 1, offset =>
    if offset < bytes.length then do
      let packet ← .ofOutcome (tdsPacketSlice bytes offset)
      write packet
      writePacketsTo write bytes fuel (offset + packet.length)
    else pure ()

theorem writePackets_eq (bytes : Bytes) (fuel offset : Nat) :
    writePackets bytes fuel offset = writePacketsTo (fun _ => awaitWrite) bytes fuel offset := by
  induction fuel generalizing offset with
  | zero => rfl
  | succ fuel ih => simp only [writePackets, writePacketsTo, ih]

/-- The packets that the loop writes where no write fails, and how it ends then. -/
def outboundLoop (bytes : Bytes) : Nat → Nat → List Bytes × Outcome Error Unit
  | 0, _ => ([], .panic "loop without progress")
  | fuel + 1, offset =>
    if offset < bytes.length then
      match tdsPacketSlice bytes offset with
      | .ok packet =>
        let later := outboundLoop bytes fuel (offset + packet.length)
        (packet :: later.1, later.2)
      | .err error => ([], .err error)
      | .panic message => ([], .panic message)
    else ([], .ok ())

def outboundPackets (bytes : Bytes) : List Bytes × Outcome Error Unit :=
  outboundLoop bytes (bytes.length + 1) 0

theorem writePacketsTo_eq (write : Bytes → Async Error σ Unit) (bytes : Bytes) (fuel offset : Nat) :
    writePacketsTo write bytes fuel offset = (do
      (outboundLoop bytes fuel offset).1.forM write
      .ofOutcome (outboundLoop bytes fuel offset).2) := by
  induction fuel generalizing offset with
  | zero => rfl
  | succ fuel ih =>
    unfold writePacketsTo outboundLoop
    by_cases inside : offset < bytes.length
    · rw [if_pos inside, if_pos inside]
      cases cut : tdsPacketSlice bytes offset with
      | ok packet =>
        have others := ih (offset + packet.length)
        change (write packet >>= fun _ => writePacketsTo write bytes fuel (offset + packet.length)) =
          (write packet >>= fun _ => (outboundLoop bytes fuel (offset + packet.length)).1.forM write)
            >>= fun _ => .ofOutcome (outboundLoop bytes fuel (offset + packet.length)).2
        rw [Async.bind_assoc, others]
      | err error => rfl
      | panic message => rfl
    · rw [if_neg inside, if_neg inside]
      rfl

end loop
section slices
variable {bytes : Bytes} {offset : Nat}

theorem checkedAdd_ok_iff {left right sum : Nat} {overflow : Error} :
    checkedAdd left right overflow = .ok sum ↔ left + right ≤ usizeMax ∧ left + right = sum := by
  unfold checkedAdd
  by_cases fits : left + right ≤ usizeMax
  · simp [fits]
  · simp [fits]

theorem sliceOr_ok_iff {input written : Bytes} {start stop : Nat} {missing : Error} :
    sliceOr input start stop missing = .ok written ↔ slice input start stop = some written := by
  unfold sliceOr
  cases slice input start stop with
  | none => simp
  | some found => simp

theorem not_panics_tdsPacketSlice : ¬(tdsPacketSlice bytes offset).Panics := by
  have added : ∀ left right overflow, ¬(checkedAdd left right overflow).Panics := by
    intro left right overflow
    unfold checkedAdd
    split <;> simp
  have cut : ∀ start stop missing, ¬(sliceOr bytes start stop missing).Panics := by
    intro start stop missing
    unfold sliceOr
    split <;> simp
  have decoded : ∀ headerBytes,
      ¬((Outcome.ofExcept (PacketHeader.decode headerBytes)).mapErr packetError).Panics := by
    intro headerBytes
    cases PacketHeader.decode headerBytes with
    | ok header => exact Outcome.not_panics_ok header
    | error error => exact Outcome.not_panics_err (packetError error)
  refine Outcome.not_panics_bind (added _ _ _) fun headerEnd _ =>
    Outcome.not_panics_bind (cut _ _ _) fun headerBytes _ =>
      Outcome.not_panics_bind (decoded _) fun header _ =>
        Outcome.not_panics_bind (added _ _ _) fun packetEnd _ => cut _ _ _

theorem packet_of_tdsPacketSlice {written : Bytes}
    (cut : tdsPacketSlice bytes offset = .ok written) :
    ∃ packet : Packet, written = packet.encode ∧
      bytes.drop offset = packet.encode ++ bytes.drop (offset + written.length) := by
  obtain ⟨headerEnd, ends, cut⟩ := Outcome.bind_ok_iff.mp cut
  obtain ⟨headerBytes, headerCut, cut⟩ := Outcome.bind_ok_iff.mp cut
  obtain ⟨header, decoded, cut⟩ := Outcome.bind_ok_iff.mp cut
  obtain ⟨packetEnd, stops, cut⟩ := Outcome.bind_ok_iff.mp cut
  obtain ⟨_, rfl⟩ := checkedAdd_ok_iff.mp ends
  obtain ⟨_, rfl⟩ := checkedAdd_ok_iff.mp stops
  obtain ⟨headerAt, headerLength⟩ := drop_of_slice (sliceOr_ok_iff.mp headerCut)
  obtain ⟨packetAt, packetLength⟩ := drop_of_slice (sliceOr_ok_iff.mp cut)
  have known : PacketHeader.decode headerBytes = .ok header := by
    cases result : PacketHeader.decode headerBytes with
    | ok found =>
      rw [result] at decoded
      cases decoded
      rfl
    | error error =>
      rw [result] at decoded
      cases decoded
  obtain ⟨rfl, long⟩ := PacketHeader.encode_of_decode known
  rw [Nat.add_sub_cancel_left] at headerLength packetLength
  have front : written.take packetHeaderLen = header.encode := by
    have same := congrArg (List.take packetHeaderLen) (packetAt.symm.trans headerAt)
    rwa [List.take_append_of_le_length (by omega), ← headerLength, List.take_left,
      headerLength] at same
  have whole : written = header.encode ++ written.drop packetHeaderLen := by
    rw [← front, List.take_append_drop]
  have framed : header.length.toNat = packetHeaderLen + (written.drop packetHeaderLen).length := by
    rw [List.length_drop]
    omega
  refine ⟨⟨header, written.drop packetHeaderLen, framed⟩, whole, ?_⟩
  rw [packetAt, packetLength]
  exact congrArg (· ++ _) whole

theorem tdsPacketSlice_middle (before after : Bytes) (packet : Packet)
    (vector : (before ++ packet.encode ++ after).length ≤ usizeMax) :
    tdsPacketSlice (before ++ packet.encode ++ after) before.length = .ok packet.encode := by
  have long := packet.headerLen_le
  simp only [List.length_append, packet.encode_length] at vector
  have packetEnd : before.length + packet.header.length.toNat =
      before.length + packet.encode.length := by rw [packet.encode_length]
  have decoded := PacketHeader.decode_encode packet.header long
  refine Outcome.bind_ok_iff.mpr ⟨_, checkedAdd_ok_iff.mpr ⟨by omega, rfl⟩, ?_⟩
  refine Outcome.bind_ok_iff.mpr ⟨_, sliceOr_ok_iff.mpr (slice_header before after packet), ?_⟩
  rw [decoded]
  refine Outcome.bind_ok_iff.mpr ⟨packet.header, rfl, ?_⟩
  refine Outcome.bind_ok_iff.mpr ⟨_, checkedAdd_ok_iff.mpr ⟨by omega, rfl⟩, ?_⟩
  exact sliceOr_ok_iff.mpr (slice_middle before packet.encode after rfl packetEnd)

end slices
section runs

theorem outboundLoop_packets (bytes : Bytes) (fuel offset : Nat) (inside : offset ≤ bytes.length)
    (enough : bytes.length < offset + fuel) :
    ∃ packets rest, (outboundLoop bytes fuel offset).1 = packets.map Packet.encode ∧
      bytes.drop offset = encodeAll packets ++ rest ∧
      ((outboundLoop bytes fuel offset).2 = .ok () ∧ rest = [] ∨
        ∃ error, (outboundLoop bytes fuel offset).2 = .err error) := by
  induction fuel generalizing offset with
  | zero => omega
  | succ fuel ih =>
    unfold outboundLoop
    by_cases before : offset < bytes.length
    · rw [if_pos before]
      cases cut : tdsPacketSlice bytes offset with
      | ok written =>
        obtain ⟨packet, rfl, atOffset⟩ := packet_of_tdsPacketSlice cut
        have long := packet.headerLen_le
        rw [packetHeaderLen, ← packet.encode_length] at long
        have reached := congrArg List.length atOffset
        simp only [List.length_append, List.length_drop] at reached
        obtain ⟨packets, rest, others, behind, ending⟩ :=
          ih (offset + packet.encode.length) (by omega) (by omega)
        refine ⟨packet :: packets, rest, ?_, ?_, ending⟩
        · rw [List.map_cons]
          exact congrArg (packet.encode :: ·) others
        · rw [atOffset, behind, encodeAll_cons, List.append_assoc]
      | err error => exact ⟨[], bytes.drop offset, rfl, rfl, .inr ⟨error, rfl⟩⟩
      | panic message => exact absurd ⟨message, cut⟩ not_panics_tdsPacketSlice
    · rw [if_neg before]
      have empty : bytes.drop offset = [] := List.drop_eq_nil_of_le (Nat.not_lt.mp before)
      exact ⟨[], [], rfl, by rw [empty]; rfl, .inl ⟨rfl, rfl⟩⟩

theorem outboundLoop_encodeAll (packets : List Packet) (before : Bytes) {fuel : Nat}
    (vector : (before ++ encodeAll packets).length ≤ usizeMax) (enough : packets.length < fuel) :
    outboundLoop (before ++ encodeAll packets) fuel before.length =
      (packets.map Packet.encode, .ok ()) := by
  induction packets generalizing before fuel with
  | nil =>
    obtain ⟨fuel, rfl⟩ : ∃ fewer, fuel = fewer + 1 := ⟨fuel - 1, by omega⟩
    rw [encodeAll_nil, List.append_nil, outboundLoop, if_neg (Nat.lt_irrefl _)]
    rfl
  | cons packet packets ih =>
    obtain ⟨fuel, rfl⟩ : ∃ fewer, fuel = fewer + 1 :=
      ⟨fuel - 1, by rw [List.length_cons] at enough; omega⟩
    have long := packet.headerLen_le
    rw [packetHeaderLen, ← packet.encode_length] at long
    rw [encodeAll_cons, ← List.append_assoc] at vector ⊢
    have inside : before.length < (before ++ packet.encode ++ encodeAll packets).length := by
      simp only [List.length_append]
      omega
    have others := ih (before ++ packet.encode) vector
      (Nat.lt_of_succ_lt_succ (by rwa [List.length_cons] at enough))
    rw [List.length_append] at others
    rw [outboundLoop, if_pos inside, tdsPacketSlice_middle before _ packet vector]
    simp only [others, List.map_cons]

/-- An encoded message is written packet by packet, none of them longer than the packet size. -/
theorem outboundPackets_encoded {packetType : PacketType} {payload bytes : Bytes} {packetSize : Nat}
    (encoded : encodeMessage packetType payload packetSize = .ok bytes) :
    ∃ packets : List Packet, bytes = encodeAll packets ∧ payloadOf packets = payload ∧
      outboundPackets bytes = (packets.map Packet.encode, .ok ()) ∧
      ∀ packet ∈ packets, packet.encode.length ≤ packetSize := by
  have length := encodeMessage_length encoded
  obtain ⟨_, _, fits⟩ := (encodeMessage_ok_iff packetType payload packetSize).mp ⟨bytes, encoded⟩
  obtain ⟨packets, rfl, carried, _, _, short⟩ := encodeMessage_packets encoded
  have vector : ([] ++ encodeAll packets).length ≤ usizeMax := by
    rw [List.nil_append, length]
    exact fits.trans (by decide)
  have enough : packets.length < (encodeAll packets).length + 1 := by
    have long := encodeAll_length_ge packets
    rw [packetHeaderLen] at long
    omega
  refine ⟨packets, rfl, carried, outboundLoop_encodeAll packets [] vector enough, ?_⟩
  intro packet member
  rw [packet.encode_length]
  exact short packet member

end runs

/-- An encoded message is written in its packets, one write each; any buffer is written in whole
packets from its front on, up to its end or to the first bytes that are no packet; and every
stream is handed these writes in this order. -/
theorem outbound_packets_whole :
    (∀ packetType payload packetSize bytes,
      encodeMessage packetType payload packetSize = .ok bytes →
      ∃ packets : List Packet, outboundPackets bytes = (packets.map Packet.encode, .ok ()) ∧
        packets.length = packetCount payload (packetSize - packetHeaderLen) ∧
        payloadOf packets = payload ∧ (packets.map Packet.encode).flatten = bytes) ∧
    (∀ bytes, (∀ written ∈ (outboundPackets bytes).1, 8 ≤ written.length) ∧
      (outboundPackets bytes).1.flatten <+: bytes ∧
      (∃ packets : List Packet, (outboundPackets bytes).1 = packets.map Packet.encode) ∧
      ((outboundPackets bytes).2 = .ok () ∧ (outboundPackets bytes).1.flatten = bytes ∨
        ∃ error, (outboundPackets bytes).2 = .err error)) ∧
    ∀ (σ : Type) (write : Bytes → Async Error σ Unit) bytes,
      writePacketsTo write bytes (bytes.length + 1) 0 = (do
        (outboundPackets bytes).1.forM write
        .ofOutcome (outboundPackets bytes).2) := by
  refine ⟨?_, ?_, ?_⟩
  · intro packetType payload packetSize bytes encoded
    have length := encodeMessage_length encoded
    obtain ⟨packets, rfl, carried, written, _⟩ := outboundPackets_encoded encoded
    have counted := encodeAll_length packets
    rw [length, framedLength, carried, Nat.mul_comm packetHeaderLen] at counted
    refine ⟨packets, written, ?_, carried, ?_⟩
    · have positive : 0 < packetHeaderLen := by decide
      exact Nat.eq_of_mul_eq_mul_right positive (by omega)
    · rw [encodeAll, List.flatMap_def]
  · intro bytes
    obtain ⟨packets, rest, written, whole, ending⟩ :=
      outboundLoop_packets bytes (bytes.length + 1) 0 (Nat.zero_le _) (by omega)
    rw [List.drop_zero] at whole
    have joined : (outboundPackets bytes).1.flatten = encodeAll packets := by
      rw [outboundPackets, written, encodeAll, List.flatMap_def]
    refine ⟨?_, ⟨rest, by rw [joined, ← whole]⟩, ⟨packets, written⟩, ?_⟩
    · intro slice member
      rw [outboundPackets, written] at member
      obtain ⟨packet, _, rfl⟩ := List.mem_map.mp member
      rw [packet.encode_length]
      exact packet.headerLen_le
    · rcases ending with ⟨done, rfl⟩ | failed
      · rw [List.append_nil] at whole
        exact .inl ⟨done, joined.trans whole.symm⟩
      · exact .inr failed
  · intro σ write bytes
    exact writePacketsTo_eq write bytes (bytes.length + 1) 0

/-- Eleven bytes in packets of twelve are three writes. -/
theorem outbound_packets_whole_eleven :
    ∃ bytes, encodeMessage .rpc (List.replicate 11 0) 12 = .ok bytes ∧
      ∃ packets : List Packet, outboundPackets bytes = (packets.map Packet.encode, .ok ()) ∧
        packets.length = 3 := by
  have encoded : encodeMessage .rpc (List.replicate 11 0) 12 =
      .ok [3, 0, 0, 12, 0, 0, 1, 0, 0, 0, 0, 0, 3, 0, 0, 12, 0, 0, 2, 0, 0, 0, 0, 0,
        3, 1, 0, 11, 0, 0, 3, 0, 0, 0, 0] := by decide
  obtain ⟨packets, written, count, _⟩ := outbound_packets_whole.1 _ _ _ _ encoded
  exact ⟨_, encoded, packets, written, count⟩

end SqlxSqlserver.Driver

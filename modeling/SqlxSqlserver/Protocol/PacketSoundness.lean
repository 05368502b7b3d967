import SqlxSqlserver.Protocol.PacketRoundTrip

/-! What the buffer decoder accepts. A message at the front of a buffer is a list of packets, and
the bytes alone say which packets these are. -/

namespace SqlxSqlserver.Protocol
open Foundation

/-- The packets of a message at the front of the input, and the bytes behind them. -/
structure MessageAt (packetType : PacketType) (expected : Option UInt8) (packets : List Packet)
    (input rest : Bytes) : Prop where
  bytes : input = encodeAll packets ++ rest
  terminated : Terminated packets
  contiguous : Contiguous packetType expected packets

section grammar
variable {packetType : PacketType} {expected : Option UInt8} {packet : Packet}
  {packets : List Packet} {input rest : Bytes}

theorem MessageAt.last (bytes : input = packet.encode ++ rest)
    (sameType : packet.header.packetType = packetType)
    (sameId : ∀ id, expected = some id → packet.header.packetId = id)
    (ends : packet.header.status = .endOfMessage) :
    MessageAt packetType expected [packet] input rest where
  bytes := by simpa using bytes
  terminated := ends
  contiguous := ⟨sameType, sameId, trivial⟩

theorem MessageAt.cons (bytes : input = packet.encode ++ rest)
    (sameType : packet.header.packetType = packetType)
    (sameId : ∀ id, expected = some id → packet.header.packetId = id)
    (continues : packet.header.status ≠ .endOfMessage) {after : Bytes}
    (more : MessageAt packetType (some (packet.header.packetId + 1)) packets rest after) :
    MessageAt packetType expected (packet :: packets) input after where
  bytes := by rw [bytes, more.bytes, encodeAll_cons, List.append_assoc]
  terminated := by
    cases packets with
    | nil => exact more.terminated.elim
    | cons next others => exact ⟨continues, more.terminated⟩
  contiguous := ⟨sameType, sameId, more.contiguous⟩

theorem MessageAt.uncons (message : MessageAt packetType expected (packet :: packets) input rest) :
    input = packet.encode ++ (encodeAll packets ++ rest) ∧
      packet.header.packetType = packetType ∧
      (∀ id, expected = some id → packet.header.packetId = id) ∧
      (packet.header.status = .endOfMessage → packets = []) ∧
      (packet.header.status ≠ .endOfMessage →
        MessageAt packetType (some (packet.header.packetId + 1)) packets
          (encodeAll packets ++ rest) rest) := by
  have bytes := message.bytes
  rw [encodeAll_cons, List.append_assoc] at bytes
  have ⟨sameType, sameId, tail⟩ := message.contiguous
  have terminated := message.terminated
  cases packets with
  | nil => exact ⟨bytes, sameType, sameId, fun _ => rfl, fun continues => absurd terminated continues⟩
  | cons next others =>
    exact ⟨bytes, sameType, sameId, fun ends => absurd ends terminated.1,
      fun _ => ⟨rfl, terminated.2, tail⟩⟩

theorem Packet.eq_of_encode {left right : Packet} {leftRest rightRest : Bytes}
    (same : left.encode ++ leftRest = right.encode ++ rightRest) :
    left = right ∧ leftRest = rightRest := by
  simp only [Packet.encode, List.append_assoc] at same
  obtain ⟨headerBytes, tail⟩ := List.append_inj same (by simp only [PacketHeader.encode_length])
  have headers : left.header = right.header := by
    have decoded := PacketHeader.decode_encode left.header left.headerLen_le
    rw [headerBytes, PacketHeader.decode_encode right.header right.headerLen_le] at decoded
    exact (Except.ok.inj decoded).symm
  have lengths : left.body.length = right.body.length := by
    have counted := right.framed
    rw [← headers, left.framed] at counted
    exact Nat.add_left_cancel counted
  obtain ⟨bodies, rests⟩ := List.append_inj tail lengths
  cases left
  cases right
  cases headers
  cases bodies
  exact ⟨rfl, rests⟩

theorem encodeAll_injective : Function.Injective encodeAll := by
  have nonempty : ∀ packet : Packet, ∀ rest, packet.encode ++ rest ≠ [] := by
    intro packet rest empty
    have length := congrArg List.length empty
    have long := packet.headerLen_le
    rw [packetHeaderLen] at long
    simp only [List.length_append, packet.encode_length, List.length_nil] at length
    omega
  intro left
  induction left with
  | nil =>
    intro right same
    cases right with
    | nil => rfl
    | cons packet rest => exact absurd same.symm (nonempty packet _)
  | cons packet rest ih =>
    intro right same
    cases right with
    | nil => exact absurd same (nonempty packet _)
    | cons other others =>
      obtain ⟨packets, rests⟩ := Packet.eq_of_encode same
      rw [packets, ih rests]

end grammar

section decoding

theorem drop_of_slice {input bytes : Bytes} {start stop : Nat}
    (cut : slice input start stop = some bytes) :
    input.drop start = bytes ++ input.drop stop ∧ bytes.length = stop - start := by
  unfold slice at cut
  split at cut
  next inside =>
    cases cut
    constructor
    · have resumed : input.drop stop = (input.drop start).drop (stop - start) := by
        rw [List.drop_drop, Nat.add_sub_cancel' inside.1]
      rw [resumed, List.take_append_drop]
    · rw [List.length_take, List.length_drop]
      omega
  next => cases cut

theorem packet_of_slices {input headerBytes body : Bytes} {offset : Nat} {header : PacketHeader}
    (headerCut : slice input offset (offset + packetHeaderLen) = some headerBytes)
    (decoded : PacketHeader.decode headerBytes = .ok header)
    (bodyCut : slice input (offset + packetHeaderLen) (offset + header.length.toNat) = some body) :
    ∃ packet : Packet, packet.header = header ∧ packet.body = body ∧
      input.drop offset = packet.encode ++ input.drop (offset + header.length.toNat) := by
  have ⟨headerAt, _⟩ := drop_of_slice headerCut
  have ⟨bodyAt, bodyLength⟩ := drop_of_slice bodyCut
  have ⟨written, long⟩ := PacketHeader.encode_of_decode decoded
  exists ⟨header, body, by omega⟩
  simp only [Packet.encode, headerAt, bodyAt, written, List.append_assoc, and_self]

/-- What the decoder accepts from an offset on is a message there. -/
theorem tryDecodeLoop_sound {input : Bytes} {message : PacketMessage} {fuel offset : Nat}
    {known : Option PacketType} {expected : Option UInt8} {payload : Bytes}
    (decoded : tryDecodeLoop input fuel offset known expected payload = .ok (some message)) :
    ∃ packets, MessageAt message.packetType expected packets (input.drop offset)
        (input.drop message.consumed) ∧
      (∀ first, known = some first → first = message.packetType) ∧
      message.payload = payload ++ payloadOf packets ∧
      message.consumed = offset + (encodeAll packets).length := by
  induction fuel generalizing offset known expected payload with
  | zero => cases decoded
  | succ fuel ih =>
    unfold tryDecodeLoop at decoded
    split at decoded
    next => cases decoded
    next headerBytes headerCut =>
      split at decoded
      next => cases decoded
      next header headerDecoded =>
        dsimp only at decoded
        by_cases sameType : header.packetType = known.getD header.packetType
        · by_cases sameId : header.packetId = expected.getD header.packetId
          · rw [if_neg (not_not.mpr sameType), if_neg (not_not.mpr sameId)] at decoded
            split at decoded
            next => cases decoded
            next body bodyCut =>
              obtain ⟨packet, sameHeader, sameBody, bytes⟩ :=
                packet_of_slices headerCut headerDecoded bodyCut
              subst sameHeader sameBody
              have idKept : ∀ id, expected = some id → packet.header.packetId = id := by
                intro id found
                rw [sameId, found, Option.getD_some]
              by_cases ends : packet.header.status = .endOfMessage
              · rw [if_pos ends] at decoded
                cases decoded
                refine ⟨[packet], .last bytes sameType idKept ends, ?_, ?_, ?_⟩
                · intro first found
                  rw [found, Option.getD_some]
                · rw [payloadOf_cons, payloadOf_nil, List.append_nil]
                · rw [encodeAll_cons, encodeAll_nil, List.append_nil, packet.encode_length]
              · rw [if_neg ends] at decoded
                obtain ⟨packets, more, firstType, whole, consumed⟩ := ih decoded
                have typeKept := firstType _ rfl
                refine ⟨packet :: packets, .cons bytes (sameType.trans typeKept) idKept ends more,
                  ?_, ?_, ?_⟩
                · intro first found
                  rw [← typeKept, found, Option.getD_some]
                · rw [whole, payloadOf_cons, List.append_assoc]
                · rw [consumed, encodeAll_cons, List.length_append, packet.encode_length,
                    Nat.add_assoc]
          · rw [if_neg (not_not.mpr sameType), if_pos sameId] at decoded
            cases decoded
        · rw [if_pos sameType] at decoded
          cases decoded

/-- The decoder finds a message exactly where a list of packets is one. -/
theorem tryDecodeMessage_ok_iff (input : Bytes) (message : PacketMessage) :
    tryDecodeMessage input = .ok (some message) ↔
      ∃ packets rest, MessageAt message.packetType none packets input rest ∧
        message.payload = payloadOf packets ∧ message.consumed = (encodeAll packets).length := by
  constructor
  · intro decoded
    have ⟨packets, found, _, payload, consumed⟩ := tryDecodeLoop_sound decoded
    rw [Nat.zero_add] at consumed
    exact ⟨packets, _, found, payload, consumed⟩
  · intro ⟨packets, rest, found, payload, consumed⟩
    have decoded := tryDecodeMessage_packets found.terminated found.contiguous rest
    rw [← found.bytes, ← payload, ← consumed] at decoded
    exact decoded

end decoding
end SqlxSqlserver.Protocol

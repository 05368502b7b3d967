import SqlxSqlserver.Foundation.Framing
import SqlxSqlserver.Protocol.PacketSoundness

/-! The packet decoder over a stream. What it answers depends on bytes that have arrived, so a
longer buffer does not change it. -/

namespace SqlxSqlserver.Protocol
open Foundation

section growth

theorem slice_append {input bytes : Bytes} {start stop : Nat}
    (cut : slice input start stop = some bytes) (more : Bytes) :
    slice (input ++ more) start stop = some bytes := by
  unfold slice at cut ⊢
  split at cut
  next inside =>
    cases cut
    have further : start ≤ stop ∧ stop ≤ (input ++ more).length := by
      rw [List.length_append]
      omega
    rw [if_pos further, List.drop_append_of_le_length (by omega),
      List.take_append_of_le_length (by rw [List.length_drop]; omega)]
  next => cases cut

/-- The rounds of the decoder that lead to an answer lead to it in a longer buffer. -/
theorem tryDecodeLoop_append {input : Bytes} {answer : Except PacketFrameError (Option PacketMessage)}
    {fuel fuller offset : Nat} {packetType : Option PacketType} {expected : Option UInt8}
    {payload : Bytes} (decided : answer ≠ .ok none) (enough : fuel ≤ fuller)
    (decoded : tryDecodeLoop input fuel offset packetType expected payload = answer) (more : Bytes) :
    tryDecodeLoop (input ++ more) fuller offset packetType expected payload = answer := by
  induction fuel generalizing fuller offset packetType expected payload with
  | zero => exact absurd decoded.symm decided
  | succ fuel ih =>
    obtain ⟨fuller, rfl⟩ : ∃ fewer, fuller = fewer + 1 := ⟨fuller - 1, by omega⟩
    unfold tryDecodeLoop at decoded ⊢
    cases headerCut : slice input offset (offset + packetHeaderLen) with
    | none =>
      rw [headerCut] at decoded
      exact absurd decoded.symm decided
    | some headerBytes =>
      rw [headerCut] at decoded
      rw [slice_append headerCut more]
      dsimp only at decoded ⊢
      cases known : PacketHeader.decode headerBytes with
      | error error =>
        rw [known] at decoded
        exact decoded
      | ok header =>
        rw [known] at decoded
        dsimp only at decoded ⊢
        by_cases otherType : header.packetType ≠ packetType.getD header.packetType
        · rw [if_pos otherType] at decoded ⊢
          exact decoded
        · by_cases otherId : header.packetId ≠ expected.getD header.packetId
          · rw [if_neg otherType, if_pos otherId] at decoded ⊢
            exact decoded
          · rw [if_neg otherType, if_neg otherId] at decoded ⊢
            cases bodyCut : slice input (offset + packetHeaderLen)
                (offset + header.length.toNat) with
            | none =>
              rw [bodyCut] at decoded
              exact absurd decoded.symm decided
            | some body =>
              rw [bodyCut] at decoded
              rw [slice_append bodyCut more]
              dsimp only at decoded ⊢
              by_cases ends : header.status = .endOfMessage
              · rw [if_pos ends] at decoded ⊢
                exact decoded
              · rw [if_neg ends] at decoded ⊢
                exact ih (by omega) decoded

theorem tryDecodeMessage_append {input : Bytes}
    {answer : Except PacketFrameError (Option PacketMessage)} (decided : answer ≠ .ok none)
    (decoded : tryDecodeMessage input = answer) (more : Bytes) :
    tryDecodeMessage (input ++ more) = answer := by
  have enough : input.length + 1 ≤ (input ++ more).length + 1 := by
    rw [List.length_append]
    omega
  exact tryDecodeLoop_append decided enough decoded more

theorem tryDecodeMessage_consumes {input : Bytes} {message : PacketMessage}
    (decoded : tryDecodeMessage input = .ok (some message)) :
    0 < message.consumed ∧ message.consumed ≤ input.length := by
  obtain ⟨packets, rest, found, _, consumed⟩ := (tryDecodeMessage_ok_iff input message).mp decoded
  have long := encodeAll_length_ge packets
  have some : 0 < packets.length := by
    cases packets with
    | nil => exact found.terminated.elim
    | cons packet others => exact Nat.succ_pos _
  rw [packetHeaderLen] at long
  rw [consumed, found.bytes, List.length_append]
  omega

theorem tryDecodeMessage_stable :
    FrontDecoder.Stable tryDecodeMessage PacketMessage.consumed where
  silent := rfl
  message decoded more := tryDecodeMessage_append (by simp) decoded more
  error decoded more := tryDecodeMessage_append (by simp) decoded more
  consumes := tryDecodeMessage_consumes

/-- A message is found as soon as its last byte has arrived and not before, an error is final, and
the pieces in which a stream arrives change neither the messages nor the error. -/
theorem decoding_stable :
    (∀ input message, tryDecodeMessage input = .ok (some message) →
      (∀ more, tryDecodeMessage (input ++ more) = .ok (some message)) ∧
      ∀ front, front <+: input → front.length < message.consumed →
        tryDecodeMessage front = .ok none) ∧
    (∀ input error, tryDecodeMessage input = .error error →
      ∀ more, tryDecodeMessage (input ++ more) = .error error) ∧
    ∀ pieces, FrontDecoder.feedAll tryDecodeMessage PacketMessage.consumed pieces =
      FrontDecoder.drain tryDecodeMessage PacketMessage.consumed pieces.flatten := by
  refine ⟨?_, ?_, tryDecodeMessage_stable.feedAll_eq⟩
  · intro input message decoded
    exact ⟨tryDecodeMessage_stable.message decoded,
      fun front before short => tryDecodeMessage_stable.waits decoded before short⟩
  · intro input error decoded
    exact tryDecodeMessage_stable.error decoded

/-- One packet with the payload `[7]`. -/
theorem decoding_stable_one :
    tryDecodeMessage ([0x12, 1, 0, 9, 0, 0, 1, 0, 7] ++ [1, 2]) =
      .ok (some ⟨.preLogin, [7], 9⟩) ∧
    tryDecodeMessage [0x12, 1, 0, 9, 0, 0, 1, 0] = .ok none := by
  have decoded : tryDecodeMessage [0x12, 1, 0, 9, 0, 0, 1, 0, 7] =
      .ok (some ⟨.preLogin, [7], 9⟩) := by decide
  obtain ⟨behind, before⟩ := decoding_stable.1 _ _ decoded
  exact ⟨behind [1, 2], before _ ⟨[7], rfl⟩ (by decide)⟩

end growth
end SqlxSqlserver.Protocol

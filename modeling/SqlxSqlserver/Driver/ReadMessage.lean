import SqlxSqlserver.Driver.WireStream
import SqlxSqlserver.Protocol.PacketSoundness

/-! The reader of the stream and the decoder of a buffer accept the same messages, up to the
packet size that the reader enforces. Both are compared with the list of packets they read. -/

namespace SqlxSqlserver.Driver
open Foundation Protocol

/-- The transport serves every read that the bytes on the stream can fill. A read past their end
gives no bytes, whether it fails or waits for ever. -/
def World.Serves (world : World) : Prop := ∀ fate ∈ world.link.fates, fate = .ready

def MssqlWireStream.Admits (self : MssqlWireStream) (packets : List Packet) : Prop :=
  ∀ packet ∈ packets, packet.header.length.toNat ≤ self.packetSize

theorem checkHeader_ok_iff (self : MssqlWireStream) (known : Option PacketType)
    (expected : Option UInt8) (header : PacketHeader) (payloadLen : Nat) :
    self.checkHeader known expected header = .ok payloadLen ↔
      header.packetType = known.getD header.packetType ∧
      header.packetId = expected.getD header.packetId ∧
      header.length.toNat ≤ self.packetSize ∧
      header.length.toNat = packetHeaderLen + payloadLen := by
  unfold MssqlWireStream.checkHeader
  constructor
  · intro checked
    dsimp only at checked
    split_ifs at checked with otherType otherId oversize short
    have length := Outcome.ok.inj checked
    exact ⟨not_not.mp otherType, not_not.mp otherId, by omega, by omega⟩
  · intro ⟨sameType, sameId, fits, length⟩
    dsimp only
    rw [if_neg (not_not.mpr sameType), if_neg (not_not.mpr sameId), if_neg (by omega),
      if_neg (by omega), length, Nat.add_sub_cancel_left]

section soundness

theorem triple_awaitRead (count : Nat) (input front : Bytes) :
    (awaitRead count).Triple (fun world => input = front ++ world.link.incoming)
      (fun bytes after => bytes.length = count ∧ input = front ++ bytes ++ after.link.incoming)
      Anywhere := by
  have next : nextFate.Triple (fun world => input = front ++ world.link.incoming)
      (fun _ world => input = front ++ world.link.incoming) Anywhere := fun _ same => same
  apply next.bind
  intro fate
  apply Async.triple_inspect
  intro world same
  cases fate with
  | ready =>
    dsimp only
    split
    next enough =>
      intro _ _
      change (world.link.incoming.take count).length = count ∧
        input = front ++ world.link.incoming.take count ++ world.link.incoming.drop count
      rw [List.append_assoc, List.take_append_drop]
      exact ⟨List.length_take_of_le enough, same⟩
    next => exact fun _ _ => trivial
  | failed error progress => exact fun _ _ => trivial
  | dropped progress => exact fun _ _ => trivial

theorem triple_readExact (self : MssqlWireStream) (count : Nat) (input front : Bytes) :
    (self.readExact count).Triple (fun world => input = front ++ world.link.incoming)
      (fun bytes after => bytes.length = count ∧ input = front ++ bytes ++ after.link.incoming)
      Anywhere := by
  unfold MssqlWireStream.readExact
  split
  · exact triple_awaitRead count input front
  · exact triple_awaitRead count input front
  · exact fun _ _ => trivial

theorem triple_decode (headerBytes : Bytes) (P : World → Prop) :
    (Async.ofOutcome ((Outcome.ofExcept (PacketHeader.decode headerBytes)).mapErr packetError) :
        Task PacketHeader).Triple P
      (fun header world => headerBytes = header.encode ∧ P world) Anywhere := by
  intro world holds
  cases outcome : PacketHeader.decode headerBytes with
  | ok header => exact ⟨(PacketHeader.encode_of_decode outcome).1, holds⟩
  | error error => trivial

/-- The message was read as packets within the size, behind the payload that was there. -/
def MssqlWireStream.Received (self : MssqlWireStream) (known : Option PacketType)
    (expected : Option UInt8) (payload input : Bytes) (message : WireMessage) (rest : Bytes) : Prop :=
  ∃ packets, MessageAt message.packetType expected packets input rest ∧
    (∀ first, known = some first → first = message.packetType) ∧
    message.payload = payload ++ payloadOf packets ∧ self.Admits packets

section received
variable {self : MssqlWireStream} {known : Option PacketType} {expected : Option UInt8}
  {payload input rest : Bytes} {packet : Packet}

theorem MssqlWireStream.Received.last (bytes : input = packet.encode ++ rest)
    (sameType : packet.header.packetType = known.getD packet.header.packetType)
    (sameId : packet.header.packetId = expected.getD packet.header.packetId)
    (fits : packet.header.length.toNat ≤ self.packetSize)
    (ends : packet.header.status = .endOfMessage) :
    self.Received known expected payload input
      ⟨known.getD packet.header.packetType, payload ++ packet.body⟩ rest := by
  refine ⟨[packet], .last bytes sameType ?_ ends, ?_, ?_, ?_⟩
  · intro id found
    rw [sameId, found, Option.getD_some]
  · intro first found
    rw [found, Option.getD_some]
  · simp only [payloadOf_cons, payloadOf_nil, List.append_nil]
  · simpa only [MssqlWireStream.Admits, List.mem_singleton, forall_eq] using fits

theorem MssqlWireStream.Received.cons {message : WireMessage} {middle : Bytes}
    (bytes : input = packet.encode ++ middle)
    (sameType : packet.header.packetType = known.getD packet.header.packetType)
    (sameId : packet.header.packetId = expected.getD packet.header.packetId)
    (fits : packet.header.length.toNat ≤ self.packetSize)
    (continues : packet.header.status ≠ .endOfMessage)
    (more : self.Received (some (known.getD packet.header.packetType))
      (some (packet.header.packetId + 1)) (payload ++ packet.body) middle message rest) :
    self.Received known expected payload input message rest := by
  have ⟨packets, tail, firstType, whole, admitted⟩ := more
  have typeKept := firstType _ rfl
  refine ⟨packet :: packets, .cons bytes (sameType.trans typeKept) ?_ continues tail, ?_, ?_, ?_⟩
  · intro id found
    rw [sameId, found, Option.getD_some]
  · intro first found
    rw [← typeKept, found, Option.getD_some]
  · rw [whole, payloadOf_cons, List.append_assoc]
  · simpa only [MssqlWireStream.Admits, List.forall_mem_cons] using ⟨fits, admitted⟩

end received

/-- What the reader accepts is a message at the front of the stream. -/
theorem triple_readPackets (self : MssqlWireStream) (fuel : Nat) (known : Option PacketType)
    (expected : Option UInt8) (payload input : Bytes) :
    (self.readPackets fuel known expected payload).Triple
      (fun world => input = world.link.incoming)
      (fun message after => self.Received known expected payload input message after.link.incoming)
      Anywhere := by
  induction fuel generalizing known expected payload input with
  | zero => exact fun _ _ => trivial
  | succ fuel ih =>
    apply (triple_readExact self packetHeaderLen input []).bind
    intro headerBytes
    apply Async.triple_known
    intro _
    apply (triple_decode headerBytes _).bind
    intro header
    apply Async.triple_known
    intro written
    apply (Async.triple_ofOutcome _ fun _ _ => trivial).bind
    intro payloadLen
    apply Async.triple_known
    intro checked
    have ⟨sameType, sameId, fits, length⟩ := (checkHeader_ok_iff ..).mp checked
    apply (triple_readExact self payloadLen input _).bind
    intro body
    apply Async.triple_known
    intro bodyLength
    let packet : Packet := ⟨header, body, by rw [length, bodyLength]⟩
    have bytes : [] ++ headerBytes ++ body = packet.encode := by
      rw [List.nil_append, written, Packet.encode]
    rw [bytes]
    dsimp only
    split
    next ends => exact fun _ front => .last front sameType sameId fits ends
    next continues =>
      intro world front
      have tail := ih (some (known.getD header.packetType)) (some (header.packetId + 1))
        (payload ++ body) world.link.incoming
      apply tail.weaken (fun _ same => same) _ (fun _ _ => trivial) world rfl
      exact fun _ _ more => .cons front sameType sameId fits continues more

theorem triple_readMessage_received (self : MssqlWireStream) (input : Bytes) :
    self.readMessage.Triple (fun world => input = world.link.incoming)
      (fun message after => self.Received none none [] input message after.link.incoming)
      Anywhere := by
  apply Async.triple_look.bind
  intro _
  apply (triple_readPackets self _ none none [] input).bind
  exact fun _ _ received => received

end soundness

section completeness

theorem awaitRead_served {world : World} (serves : world.Serves) {bytes rest : Bytes}
    (front : world.link.incoming = bytes ++ rest) :
    ∃ after, awaitRead bytes.length world = (.ok bytes, after) ∧ after.link.incoming = rest ∧
      after.Serves := by
  have ready : world.link.fates.headD .ready = .ready := by
    cases fates : world.link.fates with
    | nil => rfl
    | cons fate later => exact serves fate (fates ▸ List.mem_cons_self)
  let after : World := { world with link := { world.link with
    fates := world.link.fates.tail, incoming := rest } }
  have enough : bytes.length ≤ (bytes ++ rest).length := by
    rw [List.length_append]
    exact Nat.le_add_right _ _
  have read : awaitRead bytes.length world = (.ok bytes, after) := by
    simp only [awaitRead, Async.bind_apply, nextFate, ready, Async.get, front, if_pos enough,
      List.drop_left, List.take_left]
    rfl
  exact ⟨after, read, rfl, fun fate member => serves fate (List.mem_of_mem_tail member)⟩

theorem readExact_opened {self : MssqlWireStream} (opened : self.stream ≠ .taken) (count : Nat) :
    self.readExact count = awaitRead count := by
  unfold MssqlWireStream.readExact
  split
  · rfl
  · rfl
  next taken => exact absurd taken opened

theorem readPackets_packet {self : MssqlWireStream} (opened : self.stream ≠ .taken) {world : World}
    (serves : world.Serves) {packet : Packet} {rest : Bytes}
    (front : world.link.incoming = packet.encode ++ rest) {known : Option PacketType}
    {expected : Option UInt8}
    (sameType : packet.header.packetType = known.getD packet.header.packetType)
    (sameId : packet.header.packetId = expected.getD packet.header.packetId)
    (fits : packet.header.length.toNat ≤ self.packetSize) (fuel : Nat) (payload : Bytes) :
    ∃ after, after.link.incoming = rest ∧ after.Serves ∧
      self.readPackets (fuel + 1) known expected payload world =
        if packet.header.status = .endOfMessage then
          (.ok ⟨packet.header.packetType, payload ++ packet.body⟩, after)
        else
          self.readPackets fuel (some packet.header.packetType)
            (some (packet.header.packetId + 1)) (payload ++ packet.body) after := by
  rw [Packet.encode, List.append_assoc] at front
  obtain ⟨middle, headerRead, bodyFront, middleServes⟩ := awaitRead_served serves front
  obtain ⟨after, bodyRead, restLeft, afterServes⟩ := awaitRead_served middleServes bodyFront
  have checked := (checkHeader_ok_iff self known expected packet.header packet.body.length).mpr
    ⟨sameType, sameId, fits, packet.framed⟩
  have decoded := PacketHeader.decode_encode packet.header packet.headerLen_le
  refine ⟨after, restLeft, afterServes, ?_⟩
  rw [← readExact_opened opened] at headerRead bodyRead
  rw [PacketHeader.encode_length] at headerRead
  rw [MssqlWireStream.readPackets, Async.bind_ok headerRead, decoded, Outcome.ofExcept,
    Outcome.mapErr, Async.ofOutcome, Async.bind_ok (Async.pure_apply _ _), checked,
    Async.ofOutcome, Async.bind_ok (Async.pure_apply _ _), Async.bind_ok bodyRead, ← sameType]
  by_cases ends : packet.header.status = .endOfMessage
  · rw [if_pos ends, if_pos ends, Async.pure_apply]
  · rw [if_neg ends, if_neg ends]

/-- The reader walks over a whole message that it admits. -/
theorem readPackets_served {self : MssqlWireStream} (opened : self.stream ≠ .taken)
    {packetType : PacketType} {packets : List Packet} (admitted : self.Admits packets)
    (fuel : Nat) (enough : packets.length ≤ fuel) {world : World} (serves : world.Serves)
    (known : Option PacketType) (sameType : ∀ first, known = some first → first = packetType)
    {expected : Option UInt8} {rest : Bytes}
    (message : MessageAt packetType expected packets world.link.incoming rest) (payload : Bytes) :
    ∃ after, self.readPackets fuel known expected payload world =
      (.ok ⟨packetType, payload ++ payloadOf packets⟩, after) ∧ after.link.incoming = rest := by
  induction packets generalizing fuel world known expected payload with
  | nil => exact message.terminated.elim
  | cons packet packets ih =>
    cases fuel with
    | zero => simp at enough
    | succ fuel =>
      have ⟨bytes, packetTyped, packetId, ends, continues⟩ := message.uncons
      have ⟨fits, others⟩ := List.forall_mem_cons.mp admitted
      have typeKept : packet.header.packetType = known.getD packet.header.packetType := by
        cases known with
        | none => rfl
        | some first => exact packetTyped.trans (sameType first rfl).symm
      have idKept : packet.header.packetId = expected.getD packet.header.packetId := by
        cases expected with
        | none => rfl
        | some id => exact packetId id rfl
      have ⟨after, left, afterServes, round⟩ :=
        readPackets_packet opened serves bytes typeKept idKept fits fuel payload
      rw [round, packetTyped]
      by_cases last : packet.header.status = .endOfMessage
      · cases ends last
        rw [if_pos last, payloadOf_cons, payloadOf_nil, List.append_nil]
        exact ⟨after, rfl, left⟩
      · have whole := ih others fuel (Nat.le_of_succ_le_succ enough) afterServes (some packetType)
          (fun first same => (Option.some.inj same).symm) (left ▸ continues last)
          (payload ++ packet.body)
        rw [if_neg last, payloadOf_cons, ← List.append_assoc]
        exact whole

end completeness

theorem readMessage_served {self : MssqlWireStream} (opened : self.stream ≠ .taken)
    {packetType : PacketType} {packets : List Packet} (admitted : self.Admits packets)
    {world : World} (serves : world.Serves) {rest : Bytes}
    (message : MessageAt packetType none packets world.link.incoming rest) :
    ∃ after, self.readMessage world = (.ok ⟨packetType, payloadOf packets⟩, after) ∧
      after.link.incoming = rest := by
  have enough : packets.length ≤ world.link.incoming.length + 1 := by
    have long := encodeAll_length_ge packets
    rw [packetHeaderLen] at long
    rw [message.bytes, List.length_append]
    omega
  obtain ⟨after, read, left⟩ := readPackets_served opened admitted _ enough serves none
    (fun first known => absurd known.symm (Option.some_ne_none first)) message []
  rw [List.nil_append] at read
  exists after.record (.response ⟨packetType, payloadOf packets⟩)
  constructor
  · change (self.readPackets _ none none [] >>= _) world = _
    rw [Async.bind_ok read]
    rfl
  · exact left

/-- The reader of the stream returns a message after some bytes exactly when the decoder finds it
in these bytes and no packet of it is longer than the packet size. -/
theorem readMessage_ok_iff_tryDecodeMessage (self : MssqlWireStream)
    (opened : self.stream ≠ .taken) (world : World) (serves : world.Serves)
    (message : WireMessage) (consumed : Nat) :
    (∃ after, self.readMessage world = (.ok message, after) ∧
        consumed ≤ world.link.incoming.length ∧
        after.link.incoming = world.link.incoming.drop consumed) ↔
      tryDecodeMessage world.link.incoming =
        .ok (some ⟨message.packetType, message.payload, consumed⟩) ∧
      ∃ packets, world.link.incoming.take consumed = encodeAll packets ∧ self.Admits packets := by
  rw [tryDecodeMessage_ok_iff]
  constructor
  · intro ⟨after, read, inside, left⟩
    have ⟨packets, found, _, payload, admitted⟩ :=
      (triple_readMessage_received self world.link.incoming).ok rfl read
    rw [left] at found
    have taken : world.link.incoming.take consumed = encodeAll packets := by
      have whole := (List.take_append_drop consumed world.link.incoming).trans found.bytes
      exact List.append_cancel_right whole
    have count : consumed = (encodeAll packets).length := by
      rw [← taken, List.length_take_of_le inside]
    exact ⟨⟨packets, _, found, payload, count⟩, packets, taken, admitted⟩
  · intro ⟨⟨packets, rest, found, payload, count⟩, others, taken, admitted⟩
    have same : others = packets := by
      apply encodeAll_injective
      rw [← taken, found.bytes, show consumed = _ from count, List.take_left]
    rw [same] at admitted
    have ⟨after, read, left⟩ := readMessage_served opened admitted serves found
    refine ⟨after, ?_, ?_, ?_⟩
    · rw [read, ← show message.payload = _ from payload]
    · rw [found.bytes, show consumed = _ from count, List.length_append]
      exact Nat.le_add_right _ _
    · rw [left, found.bytes, show consumed = _ from count, List.drop_left]

def twoPackets : Bytes := [4, 0, 0, 10, 0, 0, 1, 0, 7, 7] ++ ([4, 1, 0, 9, 0, 0, 2, 0, 8] ++ [4])

theorem readMessage_ok_iff_tryDecodeMessage_ten :
    ∃ after, (⟨.raw, 10⟩ : MssqlWireStream).readMessage
        ⟨⟨none, 0, 0, none⟩, ⟨[], [], [], twoPackets, []⟩⟩ =
          (.ok ⟨.tabularResult, [7, 7, 8]⟩, after) ∧
      19 ≤ 20 ∧ after.link.incoming = [4] := by
  apply (readMessage_ok_iff_tryDecodeMessage ⟨.raw, 10⟩ (by decide)
    ⟨⟨none, 0, 0, none⟩, ⟨[], [], [], twoPackets, []⟩⟩
    (fun fate none => nomatch none) ⟨.tabularResult, [7, 7, 8]⟩ 19).mpr
  refine ⟨by decide, [⟨⟨.tabularResult, .normal, 10, 0, 1, 0⟩, [7, 7], rfl⟩,
    ⟨⟨.tabularResult, .endOfMessage, 9, 0, 2, 0⟩, [8], rfl⟩], rfl, ?_⟩
  simp only [MssqlWireStream.Admits, List.mem_cons, List.not_mem_nil, or_false, forall_eq_or_imp,
    forall_eq]
  decide

end SqlxSqlserver.Driver

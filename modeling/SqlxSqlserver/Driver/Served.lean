import SqlxSqlserver.Driver.OutboundPackets
import SqlxSqlserver.Driver.Pairing
import SqlxSqlserver.Driver.ReadMessage
import SqlxSqlserver.Protocol.RpcRoundTrip

/-! Exchanges over a transport that serves every await. What such a transport does to a request
and to its answer is nothing: the request is delivered, and the answer is read to its end. -/

namespace SqlxSqlserver.Driver
open Foundation Protocol

section reading
variable {P : World → Prop}

theorem keeps_readPackets (fated : nextFate.Keeps P)
    (taken : ∀ incoming, (Async.modify (World.setIncoming incoming) : Task Unit).Keeps P)
    (self : MssqlWireStream) (fuel : Nat) (packetType : Option PacketType)
    (expectedPacketId : Option UInt8) (payload : Bytes) :
    (self.readPackets fuel packetType expectedPacketId payload).Keeps P := by
  have awaited : ∀ count, (awaitRead count).Keeps P := by
    intro count
    refine fated.bind fun fate => Async.keeps_get.bind fun world => ?_
    cases fate with
    | ready =>
      dsimp only
      split
      · exact (taken _).bind fun _ => Async.keeps_pure _
      · exact (taken _).bind fun _ => Async.keeps_drop
    | failed error progress => exact (taken _).bind fun _ => Async.keeps_fail _
    | dropped progress => exact (taken _).bind fun _ => Async.keeps_drop
  have read : ∀ count, (self.readExact count).Keeps P := by
    intro count
    unfold MssqlWireStream.readExact
    split
    · exact awaited count
    · exact awaited count
    · exact Async.keeps_fail _
  induction fuel generalizing packetType expectedPacketId payload with
  | zero => exact Async.keeps_panic _
  | succ fuel ih =>
    refine (read _).bind fun headerBytes => (Async.keeps_ofOutcome _).bind fun header =>
      (Async.keeps_ofOutcome _).bind fun payloadLen => (read _).bind fun body => ?_
    dsimp only
    split
    · exact Async.keeps_pure _
    · exact ih _ _ _

theorem keeps_readMessage (fated : nextFate.Keeps P)
    (taken : ∀ incoming, (Async.modify (World.setIncoming incoming) : Task Unit).Keeps P)
    (recorded : ∀ message, (Async.modify (World.record (.response message)) : Task Unit).Keeps P)
    (self : MssqlWireStream) : self.readMessage.Keeps P :=
  Async.keeps_get.bind fun _ => (keeps_readPackets fated taken self _ _ _ _).bind fun message =>
    (recorded message).bind fun _ => Async.keeps_pure _

theorem serves_nextFate : nextFate.Keeps World.Serves :=
  fun _ serves fate member => serves fate (List.mem_of_mem_tail member)

theorem serves_readMessage (self : MssqlWireStream) : self.readMessage.Keeps World.Serves :=
  keeps_readMessage serves_nextFate (fun _ _ serves => serves) (fun _ _ serves => serves) self

end reading

section sending

/-- The transport has answered some awaits, and nothing else has happened. -/
structure World.Later (world after : World) : Prop where
  same : after = { world with link := { world.link with fates := after.link.fates } }
  serves : after.Serves

theorem World.Later.refl {world : World} (serves : world.Serves) : world.Later world := ⟨rfl, serves⟩

theorem World.Later.trans {world middle after : World} (first : world.Later middle)
    (second : middle.Later after) : world.Later after := by
  refine ⟨?_, second.serves⟩
  rw [second.same, first.same]

theorem nextFate_served {world : World} (serves : world.Serves) :
    ∃ after, nextFate world = (.ok .ready, after) ∧ world.Later after := by
  have ready : world.link.fates.headD .ready = .ready := by
    cases fates : world.link.fates with
    | nil => rfl
    | cons fate later => exact serves fate (fates ▸ List.mem_cons_self)
  let after : World := { world with link := { world.link with fates := world.link.fates.tail } }
  have fated : nextFate world = (.ok .ready, after) := by
    rw [nextFate, ready]
  exact ⟨after, fated, rfl, fun fate member => serves fate (List.mem_of_mem_tail member)⟩

theorem awaitWrite_served {world : World} (serves : world.Serves) :
    ∃ after, awaitWrite world = (.ok (), after) ∧ world.Later after := by
  obtain ⟨after, fated, later⟩ := nextFate_served serves
  refine ⟨after, ?_, later⟩
  rw [awaitWrite, Async.bind_ok fated]
  rfl

theorem writes_served (writes : List Bytes) {world : World} (serves : world.Serves) :
    ∃ after, (writes.forM fun _ => awaitWrite : Task Unit) world = (.ok (), after) ∧
      world.Later after := by
  induction writes generalizing world with
  | nil => exact ⟨world, rfl, .refl serves⟩
  | cons write writes ih =>
    obtain ⟨middle, first, later⟩ := awaitWrite_served serves
    obtain ⟨after, others, last⟩ := ih later.serves
    refine ⟨after, ?_, later.trans last⟩
    change (awaitWrite >>= fun _ => writes.forM fun _ => awaitWrite) world = _
    rw [Async.bind_ok first, others]

theorem writePackets_served {packetType : PacketType} {payload bytes : Bytes} {packetSize : Nat}
    (encoded : encodeMessage packetType payload packetSize = .ok bytes) {world : World}
    (serves : world.Serves) :
    ∃ after, writePackets bytes (bytes.length + 1) 0 world = (.ok (), after) ∧ world.Later after := by
  obtain ⟨packets, _, _, written, _⟩ := outboundPackets_encoded encoded
  obtain ⟨after, done, later⟩ := writes_served (outboundPackets bytes).1 serves
  refine ⟨after, ?_, later⟩
  rw [writePackets_eq, writePacketsTo_eq]
  change ((outboundPackets bytes).1.forM (fun _ => awaitWrite) >>= fun _ =>
    Async.ofOutcome (outboundPackets bytes).2) world = _
  rw [Async.bind_ok done, written]
  rfl

theorem writeAll_opened {self : MssqlWireStream} (opened : self.stream ≠ .taken) (request : Request)
    (bytes : Bytes) : self.writeAll request bytes = writeTdsPackets request bytes := by
  unfold MssqlWireStream.writeAll
  split
  · rfl
  · rfl
  next taken => exact absurd taken opened

theorem writeAll_served {self : MssqlWireStream} (opened : self.stream ≠ .taken) (request : Request)
    {packetType : PacketType} {payload bytes : Bytes} {packetSize : Nat}
    (encoded : encodeMessage packetType payload packetSize = .ok bytes) {world : World}
    (serves : world.Serves) :
    ∃ after, self.writeAll request bytes world = (.ok (), after) ∧
      ((world.record (.request request bytes)).deliver request).Later after := by
  have recorded : (world.record (.request request bytes)).Serves := serves
  obtain ⟨middle, written, later⟩ := writePackets_served encoded recorded
  have delivered : (middle.deliver request).Serves := later.serves
  obtain ⟨after, flushed, last⟩ := awaitWrite_served delivered
  have whole : writeTdsPackets request bytes world = (.ok (), after) := by
    change (writePackets bytes (bytes.length + 1) 0 >>= fun _ =>
      Async.modify (World.deliver request) >>= fun _ => awaitWrite)
        (world.record (.request request bytes)) = _
    rw [Async.bind_ok written]
    exact flushed
  refine ⟨after, ?_, ?_⟩
  · rw [writeAll_opened opened, whole]
  · refine .trans ⟨?_, delivered⟩ last
    rw [later.same]
    rfl

end sending

section answers

structure Answer where
  packetType : PacketType
  packets : List Packet
  terminated : Terminated packets
  contiguous : Contiguous packetType none packets

def Answer.bytes (self : Answer) : Bytes := encodeAll self.packets

def Answer.message (self : Answer) : WireMessage := ⟨self.packetType, payloadOf self.packets⟩

def WireMessage.output? (self : WireMessage) : Option QueryOutput :=
  if self.packetType = .tabularResult then
    match parseQueryResponse self.payload with
    | .ok output => some output
    | _ => none
  else none

theorem encoded_of_packet {request : Request} {packetSize : Nat} {descriptor : UInt64} {bytes : Bytes}
    (built : request.packet packetSize descriptor = .ok bytes) :
    ∃ packetType payload, encodeMessage packetType payload packetSize = .ok bytes := by
  have framed : ∀ {payload : Put BoxDynError Unit}, frameRpc payload packetSize = .ok bytes →
      ∃ packetType payload, encodeMessage packetType payload packetSize = .ok bytes := by
    intro payload sent
    obtain ⟨written, _, encoded⟩ := frameRpc_ok_iff.mp sent
    exact ⟨.rpc, written, encoded⟩
  cases request with
  | sqlBatch sql => exact ⟨_, _, Outcome.ok_of_mapErr built⟩
  | executeSql sql arguments => exact framed (Outcome.ok_of_mapErr built)
  | prepare sql parameters => exact framed (Outcome.ok_of_mapErr built)
  | unprepare statementId => exact framed (Outcome.ok_of_mapErr built)

variable [ErrorDisplay]

def WireMessage.outcome (self : WireMessage) (operation : String) : Outcome Error QueryOutput :=
  if self.packetType ≠ .tabularResult then
    .err (.protocol ("expected SQL Server query response as tabular result, got packet type 0x" ++
      hexByte self.packetType.code))
  else (parseQueryResponse self.payload).mapErr fun error =>
    .protocol (s!"failed to parse SQL Server {operation} response: " ++ ErrorDisplay.display error)

theorem outcome_ok_iff (message : WireMessage) (operation : String)
    (output : QueryOutput) : message.outcome operation = .ok output ↔ message.output? = some output := by
  unfold WireMessage.outcome WireMessage.output?
  by_cases tabular : message.packetType = .tabularResult
  · rw [if_neg (not_not.mpr tabular), if_pos tabular]
    cases parseQueryResponse message.payload <;> simp [Outcome.mapErr]
  · rw [if_pos tabular, if_neg tabular]
    simp

/-- Behind a message that was read, its outcome decides. -/
theorem readQueryResponse_of_read {operation : String} {self : MssqlWireStream} {world after : World}
    {message : WireMessage} (stream : world.conn.stream = some self)
    (read : self.readMessage world = (.ok message, after)) :
    readQueryResponse operation world = (do
      let output ← Async.ofOutcome (message.outcome operation)
      .modify (World.updateConn (·.applyEnvChanges output.envChanges))
      return output : Task QueryOutput) after := by
  have found : Driver.stream world = (.ok self, world) := by
    have looked : (Async.get : Task World) world = (.ok world, world) := rfl
    rw [Driver.stream, Async.bind_ok looked, stream]
    rfl
  have mapped : (self.readMessage.mapErr
      (contextError s!"failed to read SQL Server {operation} response")) world = (.ok message, after) := by
    rw [Async.mapErr, read]
  rw [readQueryResponse, Async.bind_ok found, Async.bind_ok mapped, WireMessage.outcome]
  split
  · rfl
  · rfl

end answers
end SqlxSqlserver.Driver

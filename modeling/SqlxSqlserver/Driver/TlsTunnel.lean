import SqlxSqlserver.Driver.TlsDeframe
import SqlxSqlserver.Driver.TlsFlush
import SqlxSqlserver.Driver.TlsHalves

/-! A handshake between two ends that frame its bytes as this driver does. Both write, flush and
read as they like over a connection that cuts and delays what it carries; each end reads what the
other wrote. -/

namespace SqlxSqlserver.Driver.TlsTunnel
open Foundation Protocol TlsPreloginStream

section framing
variable {packets : List Packet} {size : Nat}

theorem payloadOf_length_le (short : ∀ packet ∈ packets, packet.header.length.toNat ≤ size) :
    (payloadOf packets).length ≤ packets.length * (size - packetHeaderLen) := by
  induction packets with
  | nil => simp
  | cons packet packets ih =>
    have here := short packet (.head packets)
    have rest := ih fun other member => short other (.tail packet member)
    rw [packet.framed] at here
    rw [payloadOf_cons, List.length_append, List.length_cons, Nat.succ_mul]
    omega

theorem packetType_of_contiguous {packetType : PacketType} {expected : Option UInt8}
    (contiguous : Contiguous packetType expected packets) :
    ∀ packet ∈ packets, packet.header.packetType = packetType := by
  induction packets generalizing expected with
  | nil => simp
  | cons packet packets ih => exact List.forall_mem_cons.mpr ⟨contiguous.1, ih contiguous.2.2⟩

/-- A message that carries something is cut into packets that do: with one packet less its bytes
would have no room. -/
theorem loaded_of_encodeMessage {payload piece : Bytes} (nonempty : payload ≠ [])
    (encoded : encodeMessage .preLogin payload size = .ok piece) :
    ∃ packets, piece = encodeAll packets ∧ payloadOf packets = payload ∧ TlsDeframe.Loaded packets := by
  obtain ⟨packets, rfl, rfl, _, contiguous, short⟩ := encodeMessage_packets encoded
  refine ⟨packets, rfl, rfl, fun packet member =>
    ⟨packetType_of_contiguous contiguous packet member, ?_⟩⟩
  intro empty
  obtain ⟨before, after, rfl⟩ := List.append_of_mem member
  have lower := ((encodeMessage_ok_iff .preLogin _ size).mp ⟨_, encoded⟩).1
  have length := encodeMessage_length encoded
  rw [encodeAll_length, framedLength, packetCount, if_neg (by simpa using nonempty)] at length
  have count : (before ++ packet :: after).length = before.length + after.length + 1 := by
    rw [List.length_append, List.length_cons, Nat.add_assoc]
  have room : (payloadOf (before ++ packet :: after)).length ≤
      (before.length + after.length) * (size - packetHeaderLen) := by
    have front := payloadOf_length_le fun other inside =>
      short other (List.mem_append_left _ inside)
    have back := payloadOf_length_le fun other inside =>
      short other (List.mem_append_right before (.tail packet inside))
    have split : payloadOf (before ++ packet :: after) = payloadOf before ++ payloadOf after := by
      simp [payloadOf, empty]
    rw [split, List.length_append, Nat.add_mul]
    exact Nat.add_le_add front back
  have enough : before.length + after.length + 1 =
      ((payloadOf (before ++ packet :: after)).length + (size - packetHeaderLen) - 1) /
        (size - packetHeaderLen) := by
    rw [← count]
    rw [packetHeaderLen] at length ⊢
    omega
  have positive : 0 < size - packetHeaderLen := by omega
  have least := Nat.div_mul_le_self
    ((payloadOf (before ++ packet :: after)).length + (size - packetHeaderLen) - 1)
    (size - packetHeaderLen)
  rw [← enough, Nat.succ_mul] at least
  omega

end framing
section model

inductive Side where
  | client
  | server
  deriving DecidableEq, Repr

def Side.other : Side → Side
  | .client => .server
  | .server => .client

structure End where
  tls : TlsPreloginStream (Duplex TlsDeframe.Transport TlsFlush.Transport)
  read : Bytes

inductive Action where
  | write (buf : Bytes)
  | flush
  | poll (capacity : Nat)
  deriving DecidableEq, Repr

def Action.bytes : Action → Bytes
  | .write buf => buf
  | .flush | .poll _ => []

def End.act (self : End) : Action → End
  | .write buf => { self with tls := (self.tls.pollWrite buf).2 }
  | .flush => { self with tls := self.tls.pollFlush.2 }
  | .poll capacity =>
    { tls := (self.tls.pollRead capacity).2
      read := self.read ++ TlsDeframe.bytesOf (self.tls.pollRead capacity).1 }

/-- Bytes on their way: the transport gives them once it has given what came before. -/
def extend (transport : TlsDeframe.Transport) (bytes : Bytes) : TlsDeframe.Transport :=
  { transport with incoming := transport.incoming ++ bytes }

def End.arrive (self : End) (bytes : Bytes) : End :=
  { self with
    tls := { self.tls with
      stream := { self.tls.stream with incoming := extend self.tls.stream.incoming bytes } } }

def End.sent (self next : End) : Bytes :=
  next.tls.stream.outgoing.accepted.drop self.tls.stream.outgoing.accepted.length

abbrev Link : Type := Side → End

def step (link : Link) (event : Side × Action) : Link :=
  let next := (link event.1).act event.2
  fun side => if side = event.1 then next else (link side).arrive ((link event.1).sent next)

def run (link : Link) (events : List (Side × Action)) : Link := events.foldl step link

structure Script where
  reads : Nat → TlsDeframe.ReadAnswer
  writes : Nat → TlsFlush.WriteAnswer
  flushes : Nat → Bool

def start (scripts : Side → Script) : Link := fun side =>
  { tls := (TlsPreloginStream.new ⟨⟨(scripts side).reads, false, 0, []⟩,
      ⟨(scripts side).writes, (scripts side).flushes, 0, 0, []⟩⟩).startHandshake
    read := [] }

def written (side : Side) (events : List (Side × Action)) : Bytes :=
  events.flatMap fun event => if event.1 = side then event.2.bytes else []

/-- What one end has to see of the bytes that the other wrote. -/
structure Carries (bytes : Bytes) (writer reader : End) : Prop where
  inOrder : reader.read <+: bytes
  complete : writer.tls.writeBuf = [] → reader.tls.stream.incoming.incoming = [] →
    reader.read = bytes
  goesOn : ∀ capacity, 0 < capacity → (reader.tls.pollRead capacity).1 = .pending ∨
    ∃ some, some ≠ [] ∧ (reader.tls.pollRead capacity).1 = .ready (.ok some)

end model

section reading
variable {tls : TlsPreloginStream TlsDeframe.Transport} {owed : Bytes} {packets : List Packet}

def ahead (tls : TlsPreloginStream TlsDeframe.Transport) (bytes : Bytes) :
    TlsPreloginStream TlsDeframe.Transport :=
  { tls with stream := extend tls.stream bytes }

theorem ahead_nil : ahead tls [] = tls := by
  simp [ahead, extend]

theorem encodeAll_append (front back : List Packet) :
    encodeAll (front ++ back) = encodeAll front ++ encodeAll back := by
  simp [encodeAll]

theorem payloadOf_append (front back : List Packet) :
    payloadOf (front ++ back) = payloadOf front ++ payloadOf back := by
  simp [payloadOf]

theorem owes_ahead (owes : TlsDeframe.Owes tls owed) (loaded : TlsDeframe.Loaded packets) :
    TlsDeframe.Owes (ahead tls (encodeAll packets)) (owed ++ payloadOf packets) := by
  obtain ⟨before, carries, ⟨inHeader, rfl⟩ | ⟨body, nonempty, inBody, rfl⟩⟩ := owes
  all_goals
    refine ⟨before ++ packets, fun packet member =>
      (List.mem_append.mp member).elim (carries packet) (loaded packet), ?_⟩
  · refine .inl ⟨⟨inHeader.handshake, inHeader.headerLen, inHeader.remaining, inHeader.position, ?_⟩,
      (payloadOf_append _ _).symm⟩
    rw [encodeAll_append, ← inHeader.input, List.append_assoc]
    rfl
  · refine .inr ⟨body, nonempty, ⟨inBody.handshake, inBody.headerLen, inBody.remaining,
      inBody.position, ?_⟩, by rw [payloadOf_append, List.append_assoc]⟩
    rw [encodeAll_append, ← List.append_assoc, ← inBody.input]
    rfl

end reading

section carrying
variable {answers : Nat → TlsFlush.WriteAnswer} {bytes read : Bytes}
  {writer : TlsPreloginStream TlsFlush.Transport} {reader : TlsPreloginStream TlsDeframe.Transport}

/-- What was written is what was read, then what is on its way, then what no flush has taken. -/
structure Carrying (answers : Nat → TlsFlush.WriteAnswer) (bytes read : Bytes)
    (writer : TlsPreloginStream TlsFlush.Transport)
    (reader : TlsPreloginStream TlsDeframe.Transport) : Prop where
  shakes : writer.handshake = true
  answers : writer.stream.answers = answers
  opened : reader.stream.closes = false
  split : ∃ owed, bytes = read ++ owed ++ writer.writeBuf ∧ TlsDeframe.Owes reader owed

theorem Carrying.write (carrying : Carrying answers bytes read writer reader) (buf : Bytes) :
    Carrying answers (bytes ++ buf) read (writer.pollWrite buf).2 reader ∧
      (writer.pollWrite buf).2.stream = writer.stream := by
  have buffered : (writer.pollWrite buf).2 = { writer with writeBuf := writer.writeBuf ++ buf } := by
    simp only [TlsPreloginStream.pollWrite, carrying.shakes, Bool.not_true, Bool.false_eq_true, if_false]
  obtain ⟨owed, rfl, owes⟩ := carrying.split
  rw [buffered]
  exact ⟨⟨carrying.shakes, carrying.answers, carrying.opened, owed, by simp, owes⟩, rfl⟩

theorem Carrying.flush (carrying : Carrying answers bytes read writer reader)
    (fits : framedLength writer.writeBuf 4096 ≤ isizeMax)
    (ready : ∀ n, n < writer.pollFlush.2.stream.polls → answers n ≠ .pending) :
    ∃ piece, writer.pollFlush.2.stream.accepted = writer.stream.accepted ++ piece ∧
      Carrying answers bytes read writer.pollFlush.2 (ahead reader piece) := by
  obtain ⟨piece, polls, flushes, after, sent⟩ := TlsFlush.pollFlush_complete writer carrying.shakes
    fits (carrying.answers ▸ ready)
  obtain ⟨owed, rfl, owes⟩ := carrying.split
  rw [after]
  refine ⟨piece, rfl, carrying.shakes, carrying.answers, carrying.opened, ?_⟩
  rcases sent with ⟨empty, rfl⟩ | ⟨encoded, nonempty⟩
  · rw [ahead_nil, empty]
    exact ⟨owed, rfl, owes⟩
  · obtain ⟨packets, rfl, payload, loaded⟩ := loaded_of_encodeMessage nonempty encoded
    exact ⟨_, by rw [payload, List.append_nil, List.append_assoc], owes_ahead owes loaded⟩

theorem pollRead_closes (reader : TlsPreloginStream TlsDeframe.Transport) (capacity : Nat) :
    (reader.pollRead capacity).2.stream.closes = reader.stream.closes := by
  have keeps : ∀ (transport : TlsDeframe.Transport) capacity,
      TlsDeframe.Transport.closes (AsyncRead.pollRead transport capacity).2 =
        TlsDeframe.Transport.closes transport := by
    intro transport capacity
    change (transport.pollRead capacity).2.closes = transport.closes
    rcases transport.pollRead_cases capacity with same | ⟨count, same, _⟩
    · rw [same]
      rfl
    · rw [same]
      rfl
  exact pollRead_keeps keeps reader capacity

theorem pollRead_zero (shakes : reader.handshake = true) : reader.pollRead 0 = (.ready (.ok []), reader) := by
  rw [pollRead, if_neg (by simp [shakes]), if_pos rfl]

theorem Carrying.answer (carrying : Carrying answers bytes read writer reader) {capacity : Nat}
    (room : 0 < capacity) : (reader.pollRead capacity).1 = .pending ∨
      ∃ some, some ≠ [] ∧ (reader.pollRead capacity).1 = .ready (.ok some) := by
  obtain ⟨owed, _, owes⟩ := carrying.split
  obtain ⟨rest, answered, _⟩ := TlsDeframe.pollRead_step owes room
  cases same : (reader.pollRead capacity).1 with
  | pending => exact .inl rfl
  | ready outcome =>
    rw [same] at answered
    cases answered with
    | bytes some _ => exact .inr ⟨_, some, rfl⟩
    | ended error atEof => exact absurd (atEof.1.symm.trans carrying.opened) (by decide)

theorem Carrying.poll (carrying : Carrying answers bytes read writer reader) (capacity : Nat) :
    Carrying answers bytes (read ++ TlsDeframe.bytesOf (reader.pollRead capacity).1) writer
      (reader.pollRead capacity).2 := by
  obtain ⟨owed, rfl, owes⟩ := carrying.split
  refine ⟨carrying.shakes, carrying.answers, (pollRead_closes reader capacity).trans carrying.opened, ?_⟩
  rcases Nat.eq_zero_or_pos capacity with rfl | room
  · rw [pollRead_zero owes.handshake]
    exact ⟨owed, by simp [TlsDeframe.bytesOf], owes⟩
  · obtain ⟨rest, answered, next⟩ := TlsDeframe.pollRead_step owes room
    exact ⟨rest, by rw [answered.owed_eq]; simp, next⟩

end carrying

section link
variable {scripts : Side → Script} {events : List (Side × Action)} {link : Link} {side : Side}

theorem other_ne (side : Side) : side.other ≠ side := by
  cases side <;> decide

theorem eq_other {actor : Side} (other : actor ≠ side) : actor = side.other := by
  cases actor <;> cases side <;> first | rfl | exact absurd rfl other

theorem written_snoc (side : Side) (events : List (Side × Action)) (event : Side × Action) :
    written side (events ++ [event]) =
      written side events ++ if event.1 = side then event.2.bytes else [] := by
  simp [written]

theorem run_snoc (link : Link) (events : List (Side × Action)) (event : Side × Action) :
    run link (events ++ [event]) = step (run link events) event := by
  simp [run]

def Flows (scripts : Side → Script) (events : List (Side × Action)) (link : Link) (side : Side) :
    Prop :=
  Carrying (scripts side).writes (written side events) (link side.other).read
    (link side).tls.writing (link side.other).tls.reading

theorem step_acting (link : Link) (side : Side) (action : Action) :
    step link (side, action) side = (link side).act action := if_pos rfl

theorem step_away (link : Link) {event : Side × Action} (away : side ≠ event.1) :
    step link event side =
      (link side).arrive ((link event.1).sent ((link event.1).act event.2)) := if_neg away

theorem sent_of_accepted {before after : End} {piece : Bytes}
    (accepted : after.tls.writing.stream.accepted = before.tls.writing.stream.accepted ++ piece) :
    before.sent after = piece := by
  change after.tls.stream.outgoing.accepted = before.tls.stream.outgoing.accepted ++ piece at accepted
  rw [End.sent, accepted, List.drop_left]

theorem sent_of_kept {before after : End}
    (kept : after.tls.writing.stream = before.tls.writing.stream) : before.sent after = [] := by
  apply sent_of_accepted
  rw [kept, List.append_nil]

theorem Flows.act (flows : Flows scripts events link side) (action : Action)
    (fits : framedLength (link side).tls.writeBuf 4096 ≤ isizeMax)
    (ready : ∀ n, n < ((link side).act action).tls.stream.outgoing.polls →
      (scripts side).writes n ≠ .pending) :
    Flows scripts (events ++ [(side, action)]) (step link (side, action)) side := by
  rw [Flows, step_acting, step_away link (other_ne side), written_snoc, if_pos rfl]
  change Carrying _ _ (link side.other).read _ (ahead (link side.other).tls.reading _)
  cases action with
  | write buf =>
    have alone := pollWrite_alone (link side).tls buf
    have ⟨next, kept⟩ := Carrying.write flows buf
    rw [alone.same] at next kept
    rw [sent_of_kept kept, ahead_nil]
    exact next
  | flush =>
    have alone := pollFlush_alone (link side).tls
    have ⟨piece, accepted, next⟩ := Carrying.flush flows fits (by
      rw [alone.same]
      exact ready)
    rw [alone.same] at accepted next
    rw [sent_of_accepted accepted, Action.bytes, List.append_nil]
    exact next
  | poll capacity =>
    have alone := pollRead_alone (link side).tls capacity
    have kept : ((link side).act (.poll capacity)).tls.writing = (link side).tls.writing := alone.writing
    rw [sent_of_kept (congrArg TlsPreloginStream.stream kept), ahead_nil, kept, Action.bytes,
      List.append_nil]
    exact flows

theorem Flows.answer (flows : Flows scripts events link side) (action : Action) :
    Flows scripts (events ++ [(side.other, action)]) (step link (side.other, action)) side := by
  have away : (step link (side.other, action) side).tls.writing = (link side).tls.writing := by
    rw [step_away link (show side ≠ (side.other, action).1 from (other_ne side).symm)]
    rfl
  rw [Flows, away, step_acting, written_snoc, if_neg (other_ne side), List.append_nil]
  cases action with
  | write buf =>
    have alone := pollWrite_alone (link side.other).tls buf
    change Carrying _ _ (link side.other).read _ ((link side.other).tls.pollWrite buf).2.reading
    rw [alone.reading]
    exact flows
  | flush =>
    have alone := pollFlush_alone (link side.other).tls
    change Carrying _ _ (link side.other).read _ (link side.other).tls.pollFlush.2.reading
    rw [alone.reading]
    exact flows
  | poll capacity =>
    have alone := pollRead_alone (link side.other).tls capacity
    have next := Carrying.poll flows capacity
    rw [alone.same] at next
    exact next

theorem start_flows (scripts : Side → Script) (side : Side) : Flows scripts [] (start scripts) side :=
  ⟨rfl, rfl, rfl, [], rfl, [], (fun _ member => nomatch member),
    .inl ⟨⟨rfl, rfl, rfl, Nat.zero_le _, rfl⟩, rfl⟩⟩

/-- Every poll of a transport is counted. -/
theorem act_polls_le (self : End) (action : Action) :
    self.tls.stream.outgoing.polls ≤ (self.act action).tls.stream.outgoing.polls := by
  change self.tls.writing.stream.polls ≤ (self.act action).tls.writing.stream.polls
  cases action with
  | write buf =>
    have alone := pollWrite_alone self.tls buf
    have grows := TlsFlush.run_polls_le self.tls.writing [.write buf]
    change _ ≤ (self.tls.writing.pollWrite buf).2.stream.polls at grows
    rw [alone.same] at grows
    exact grows
  | flush =>
    have alone := pollFlush_alone self.tls
    have grows := TlsFlush.pollFlush_polls_le self.tls.writing
    rw [alone.same] at grows
    exact grows
  | poll capacity =>
    have alone := pollRead_alone self.tls capacity
    exact (congrArg (·.stream.polls) alone.writing).ge

theorem step_polls_le (link : Link) (event : Side × Action) (side : Side) :
    (link side).tls.stream.outgoing.polls ≤ (step link event side).tls.stream.outgoing.polls := by
  by_cases same : side = event.1
  · rw [same]
    exact (act_polls_le (link event.1) event.2).trans_eq (by rw [step_acting])
  · rw [step_away link same]
    exact le_rfl

/-- In every run each end's bytes flow to the other. -/
theorem run_flows (scripts : Side → Script) (events : List (Side × Action))
    (fits : ∀ earlier, earlier <+: events → ∀ side,
      framedLength (run (start scripts) earlier side).tls.writeBuf 4096 ≤ isizeMax)
    (ready : ∀ side n, n < (run (start scripts) events side).tls.stream.outgoing.polls →
      (scripts side).writes n ≠ .pending) (side : Side) :
    Flows scripts events (run (start scripts) events) side := by
  induction events using List.reverseRecOn with
  | nil => exact start_flows scripts side
  | append_singleton events event ih =>
    rw [run_snoc] at ready ⊢
    have flows := ih (fun earlier inside => fits earlier (inside.trans (List.prefix_append _ _)))
      fun side n polled => ready side n (polled.trans_le (step_polls_le _ event side))
    obtain ⟨actor, action⟩ := event
    by_cases same : actor = side
    · subst same
      have acting := ready actor
      rw [step_acting] at acting
      exact flows.act action (fits events (List.prefix_append _ _) actor) acting
    · rw [eq_other same]
      exact flows.answer action

end link

/-- In every run of writes, flushes and reads at both ends, in any order and over transports that
cut and delay as they like, each end reads a beginning of what the other wrote; it has read all of
it once that is flushed and arrived, and until then a read neither fails nor looks like an end. A
transport that is not ready for a flush is left out. -/
theorem handshake_carries (scripts : Side → Script) (events : List (Side × Action))
    (fits : ∀ earlier, earlier <+: events → ∀ side,
      framedLength (run (start scripts) earlier side).tls.writeBuf 4096 ≤ isizeMax)
    (ready : ∀ side n, n < (run (start scripts) events side).tls.stream.outgoing.polls →
      (scripts side).writes n ≠ .pending) (side : Side) :
    Carries (written side events) (run (start scripts) events side)
      (run (start scripts) events side.other) := by
  have flows := run_flows scripts events fits ready side
  obtain ⟨owed, whole, owes⟩ := flows.split
  constructor
  · exact ⟨_, by rw [whole, List.append_assoc]⟩
  · intro flushed arrived
    have nothing : owed = [] := owes.eq_nil arrived
    have empty : (run (start scripts) events side).tls.writing.writeBuf = [] := flushed
    rw [whole, nothing, empty, List.append_nil, List.append_nil]
  · intro capacity room
    have alone := pollRead_alone (run (start scripts) events side.other).tls capacity
    have answered := Carrying.answer flows room
    rw [alone.same] at answered
    exact answered

def inPieces (_ : Side) : Script where
  reads _ := .deliver 2
  writes _ := .accept 3
  flushes _ := true

def crossing : List (Side × Action) :=
  [(.client, .write [22]), (.client, .write [3, 1]), (.client, .flush), (.server, .poll 2),
    (.server, .write [22, 3]), (.client, .poll 9), (.server, .flush), (.server, .poll 9),
    (.client, .poll 9)]

theorem handshake_carries_crossing :
    Carries (written .client crossing) (run (start inPieces) crossing .client)
      (run (start inPieces) crossing .server) :=
  handshake_carries inPieces crossing
    (by
      have small : ∀ earlier ∈ crossing.inits,
          framedLength (run (start inPieces) earlier .client).tls.writeBuf 4096 ≤ 11 ∧
            framedLength (run (start inPieces) earlier .server).tls.writeBuf 4096 ≤ 11 := by
        decide +kernel
      intro earlier inside side
      have both := small earlier ((List.mem_inits _ _).mpr inside)
      cases side with
      | client => exact both.1.trans (by decide)
      | server => exact both.2.trans (by decide))
    (fun _ _ _ same => nomatch same) .client

end SqlxSqlserver.Driver.TlsTunnel

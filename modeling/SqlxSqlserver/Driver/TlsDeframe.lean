import SqlxSqlserver.Driver.TlsPrelogin
import SqlxSqlserver.Protocol.PacketRoundTrip

/-! What a handshake stream delivers over any run of polls, from a transport that cuts the server's
packets into pieces of any size. A packet without a payload makes a poll end without a byte. -/

namespace SqlxSqlserver.Driver.TlsDeframe
open Foundation Protocol TlsPreloginStream

inductive ReadAnswer where
  | pending
  /-- Gives one byte and up to `more` further ones. -/
  | deliver (more : Nat)
  deriving DecidableEq, Repr

/-- A transport with its whole future behaviour and what it has not given yet. After that it stays
open, or `closes`. -/
structure Transport where
  answers : Nat → ReadAnswer
  closes : Bool
  polls : Nat
  incoming : Bytes

namespace Transport

def give (self : Transport) (count : Nat) : Transport :=
  { self with polls := self.polls + 1, incoming := self.incoming.drop count }

def AtEof (self : Transport) : Prop := self.closes = true ∧ self.incoming = []

def pollRead (self : Transport) (capacity : Nat) : Poll (Except IoError Bytes) × Transport :=
  match self.answers self.polls with
  | .pending => (.pending, self.give 0)
  | .deliver more =>
    if 0 < capacity ∧ self.incoming = [] ∧ self.closes = false then (.pending, self.give 0)
    else
      let count := min (more + 1) capacity
      (.ready (.ok (self.incoming.take count)), self.give count)

end Transport

instance : AsyncRead Transport where
  pollRead := Transport.pollRead

def run : List Nat → TlsPreloginStream Transport →
    List (Poll (Outcome IoError Bytes)) × TlsPreloginStream Transport
  | [], self => ([], self)
  | capacity :: capacities, self =>
    let (answer, next) := self.pollRead capacity
    let (answers, last) := run capacities next
    (answer :: answers, last)

def start (answers : Nat → ReadAnswer) (closes : Bool) (incoming : Bytes) :
    TlsPreloginStream Transport :=
  (TlsPreloginStream.new ⟨answers, closes, 0, incoming⟩).startHandshake

def bytesOf : Poll (Outcome IoError Bytes) → Bytes
  | .ready (.ok bytes) => bytes
  | _ => []

def delivered (answers : List (Poll (Outcome IoError Bytes))) : Bytes := answers.flatMap bytesOf

/-- What a run over `packets` has to end with. -/
structure Deframed (packets : List Packet)
    (ended : List (Poll (Outcome IoError Bytes)) × TlsPreloginStream Transport) : Prop where
  inOrder : delivered ended.1 <+: payloadOf packets
  complete : ended.2.stream.incoming = [] → delivered ended.1 = payloadOf packets
  noFalseEnd : ∀ capacity, 0 < capacity → ¬ended.2.stream.AtEof →
    (ended.2.pollRead capacity).1 ≠ .ready (.ok [])
  noError : ∀ capacity, 0 < capacity → ¬ended.2.stream.AtEof → ∀ error,
    (ended.2.pollRead capacity).1 ≠ .ready (.err error)

/-- Every run over the packets de-frames them, however the transport cuts them and whatever room
the polls have. -/
def Deframes (packets : List Packet) : Prop :=
  ∀ answers closes capacities, (∀ capacity ∈ capacities, 0 < capacity) →
    Deframed packets (run capacities (start answers closes (encodeAll packets)))

section phases
variable {self : TlsPreloginStream Transport} {packets : List Packet} {body : Bytes}

/-- Before a packet or inside its header: what was read of the header and what is coming make up
whole packets. -/
structure InHeader (tls : TlsPreloginStream Transport) (packets : List Packet) : Prop where
  handshake : tls.handshake = true
  headerLen : tls.headerBuf.length = packetHeaderLen
  remaining : tls.readRemaining = 0
  position : tls.headerPos ≤ packetHeaderLen
  input : tls.headerBuf.take tls.headerPos ++ tls.stream.incoming = encodeAll packets

structure InBody (tls : TlsPreloginStream Transport) (body : Bytes) (packets : List Packet) :
    Prop where
  handshake : tls.handshake = true
  headerLen : tls.headerBuf.length = packetHeaderLen
  remaining : tls.readRemaining = body.length
  position : tls.headerPos = 0
  input : tls.stream.incoming = body ++ encodeAll packets

theorem InBody.inHeader (inBody : InBody self [] packets) : InHeader self packets where
  handshake := inBody.handshake
  headerLen := inBody.headerLen
  remaining := inBody.remaining
  position := by rw [inBody.position]; exact Nat.zero_le _
  input := by rw [inBody.position, inBody.input]; rfl

theorem Transport.pollRead_cases (self : Transport) (capacity : Nat) :
    self.pollRead capacity = (.pending, self.give 0) ∨
      ∃ count, self.pollRead capacity = (.ready (.ok (self.incoming.take count)), self.give count) ∧
        count ≤ capacity ∧ (0 < capacity → self.incoming.take count = [] → self.AtEof) := by
  unfold pollRead
  cases self.answers self.polls with
  | pending => exact .inl rfl
  | deliver more =>
    by_cases silent : 0 < capacity ∧ self.incoming = [] ∧ self.closes = false
    · exact .inl (if_pos silent)
    · refine .inr ⟨min (more + 1) capacity, if_neg silent, Nat.min_le_right _ _, ?_⟩
      intro room none
      have empty : self.incoming = [] := by
        rcases List.take_eq_nil_iff.mp none with zero | empty
        · omega
        · exact empty
      exact ⟨by simpa [room, empty] using silent, empty⟩

theorem InHeader.push (inHeader : InHeader self packets) {count : Nat}
    (room : count ≤ packetHeaderLen - self.headerPos) :
    InHeader ({ self with stream := self.stream.give count }.pushHeader
      (self.stream.incoming.take count)) packets := by
  have short : (self.stream.incoming.take count).length ≤ count := List.length_take_le _ _
  have fits := inHeader.position
  have buffer := inHeader.headerLen
  have front : (self.headerBuf.take self.headerPos).length = self.headerPos := by
    rw [List.length_take, buffer, Nat.min_eq_left fits]
  constructor
  · exact inHeader.handshake
  · simp only [pushHeader, List.length_append, List.length_drop, front, buffer]
    omega
  · exact inHeader.remaining
  · show self.headerPos + (self.stream.incoming.take count).length ≤ packetHeaderLen
    omega
  · show (self.headerBuf.take self.headerPos ++ self.stream.incoming.take count ++
      self.headerBuf.drop (self.headerPos + (self.stream.incoming.take count).length)).take
        (self.headerPos + (self.stream.incoming.take count).length) ++
          self.stream.incoming.drop count = encodeAll packets
    have filled : (self.headerBuf.take self.headerPos ++ self.stream.incoming.take count).length =
        self.headerPos + (self.stream.incoming.take count).length := by
      rw [List.length_append, front]
    rw [List.take_left' filled, List.append_assoc, List.take_append_drop, inHeader.input]

theorem InHeader.give_zero (inHeader : InHeader self packets) :
    InHeader { self with stream := self.stream.give 0 } packets where
  handshake := inHeader.handshake
  headerLen := inHeader.headerLen
  remaining := inHeader.remaining
  position := inHeader.position
  input := inHeader.input

inductive HeaderAnswer (next : TlsPreloginStream Transport) :
    Option (Poll (Outcome IoError Bytes)) → Prop where
  | full : next.headerPos = packetHeaderLen → HeaderAnswer next none
  | pending : HeaderAnswer next (some .pending)
  | ended (error : IoError) : next.headerPos < packetHeaderLen → next.stream.AtEof →
      HeaderAnswer next (some (.ready (.err error)))

/-- The loop over the header keeps the packets in front, and fuel for every missing byte is
enough. -/
theorem fillHeader_step (fuel : Nat) (inHeader : InHeader self packets)
    (enough : packetHeaderLen - self.headerPos ≤ fuel) :
    InHeader (fillHeader fuel self).2 packets ∧
      (fillHeader fuel self).2.stream.closes = self.stream.closes ∧
        HeaderAnswer (fillHeader fuel self).2 (fillHeader fuel self).1 := by
  induction fuel generalizing self with
  | zero =>
    have fits := inHeader.position
    have full : self.headerPos = packetHeaderLen := by omega
    exact ⟨inHeader, rfl, .full full⟩
  | succ fuel ih =>
    rw [fillHeader]
    by_cases more : self.headerPos < packetHeaderLen
    · rw [if_pos more]
      simp only [AsyncRead.pollRead]
      rcases self.stream.pollRead_cases (packetHeaderLen - self.headerPos) with
        pending | ⟨count, given, room, eof⟩
      · rw [pending]
        exact ⟨inHeader.give_zero, rfl, .pending⟩
      · rw [given]
        dsimp only
        by_cases none : (self.stream.incoming.take count).length = 0
        · rw [if_pos none]
          have atEof := eof (by omega) (List.length_eq_zero_iff.mp none)
          have drained : self.stream.incoming.drop count = self.stream.incoming.drop 0 := by
            rw [atEof.2, List.drop_nil, List.drop_nil]
          have same : self.stream.give count = self.stream.give 0 := by
            rw [Transport.give, drained, Transport.give]
          rw [same]
          exact ⟨inHeader.give_zero, rfl, .ended _ more atEof⟩
        · rw [if_neg none]
          apply ih (inHeader.push room)
          show packetHeaderLen - (self.headerPos + (self.stream.incoming.take count).length) ≤ fuel
          omega
    · have fits := inHeader.position
      have full : self.headerPos = packetHeaderLen := by omega
      rw [if_neg more]
      exact ⟨inHeader, rfl, .full full⟩

theorem InHeader.eq_cons (inHeader : InHeader self packets)
    (full : self.headerPos = packetHeaderLen) : ∃ packet rest, packets = packet :: rest := by
  have input := inHeader.input
  rw [full, ← inHeader.headerLen, List.take_length] at input
  cases packets with
  | nil =>
    have long := inHeader.headerLen
    rw [(List.append_eq_nil_iff.mp input).1] at long
    exact absurd long (by decide)
  | cons packet rest => exact ⟨packet, rest, rfl⟩

theorem takeHeader_step {packet : Packet} {rest : List Packet}
    (inHeader : InHeader self (packet :: rest)) (full : self.headerPos = packetHeaderLen)
    (prelogin : packet.header.packetType = .preLogin) :
    ∃ next, self.takeHeader = (none, next) ∧ InBody next packet.body rest ∧
      next.stream = self.stream := by
  have input := inHeader.input
  rw [full, ← inHeader.headerLen, List.take_length, encodeAll_cons, Packet.encode,
    List.append_assoc] at input
  obtain ⟨header, behind⟩ := List.append_inj input
    (inHeader.headerLen.trans packet.header.encode_length.symm)
  have length : packet.header.length.toNat - packetHeaderLen = packet.body.length := by
    rw [packet.framed, Nat.add_sub_cancel_left]
  have taken : self.takeHeader =
      (none, { self with readRemaining := packet.body.length, headerPos := 0 }) := by
    rw [takeHeader, header, packet.header.decode_encode packet.headerLen_le]
    dsimp only
    rw [if_neg (not_not.mpr prelogin), if_neg (not_lt.mpr packet.headerLen_le), length]
  exact ⟨_, taken, ⟨inHeader.handshake, inHeader.headerLen, rfl, rfl, behind⟩, rfl⟩

end phases

section polls
variable {self : TlsPreloginStream Transport} {packets : List Packet} {body owed : Bytes}

def Loaded (packets : List Packet) : Prop :=
  ∀ packet ∈ packets, packet.header.packetType = .preLogin ∧ packet.body ≠ []

/-- The stream has still to deliver `owed`. -/
def Owes (self : TlsPreloginStream Transport) (owed : Bytes) : Prop :=
  ∃ packets, Loaded packets ∧ (InHeader self packets ∧ owed = payloadOf packets ∨
    ∃ body, body ≠ [] ∧ InBody self body packets ∧ owed = body ++ payloadOf packets)

inductive Answer (self : TlsPreloginStream Transport) (owed : Bytes) :
    Poll (Outcome IoError Bytes) → Bytes → Prop where
  | pending : Answer self owed .pending owed
  | bytes {read rest : Bytes} : read ≠ [] → owed = read ++ rest →
      Answer self owed (.ready (.ok read)) rest
  | ended (error : IoError) : self.stream.AtEof → Answer self owed (.ready (.err error)) owed

theorem readPayload_step (inBody : InBody self body packets) (nonempty : body ≠ [])
    (loaded : Loaded packets) {capacity : Nat} (room : 0 < capacity)
    (before : TlsPreloginStream Transport) :
    ∃ rest, Answer before (body ++ payloadOf packets) (self.readPayload capacity).1 rest ∧
      Owes (self.readPayload capacity).2 rest := by
  have length : 0 < body.length := List.length_pos_iff.mpr nonempty
  have remaining := inBody.remaining
  rw [readPayload]
  simp only [AsyncRead.pollRead]
  rcases self.stream.pollRead_cases (min self.readRemaining capacity) with
    pending | ⟨count, given, limit, eof⟩
  · rw [pending]
    exact ⟨_, .pending, packets, loaded, .inr ⟨body, nonempty,
      ⟨inBody.handshake, inBody.headerLen, inBody.remaining, inBody.position, inBody.input⟩, rfl⟩⟩
  · have inside : count ≤ body.length := by omega
    have taken : self.stream.incoming.take count = body.take count := by
      rw [inBody.input, List.take_append_of_le_length inside]
    have left : self.stream.incoming.drop count = body.drop count ++ encodeAll packets := by
      rw [inBody.input, List.drop_append_of_le_length inside]
    have read : self.stream.incoming.take count ≠ [] := by
      intro none
      have coming := (eof (by omega) none).2
      rw [inBody.input] at coming
      exact nonempty (List.append_eq_nil_iff.mp coming).1
    have someRead : ¬((self.stream.incoming.take count).length = 0 ∧ 0 < self.readRemaining) :=
      fun both => read (List.length_eq_zero_iff.mp both.1)
    rw [given]
    dsimp only
    rw [if_neg someRead]
    rw [taken] at read ⊢
    refine ⟨body.drop count ++ payloadOf packets, .bytes read ?_, packets, loaded, ?_⟩
    · rw [← List.append_assoc, List.take_append_drop]
    · have next : InBody { self with
          stream := self.stream.give count
          readRemaining := self.readRemaining - (body.take count).length }
            (body.drop count) packets := by
        refine ⟨inBody.handshake, inBody.headerLen, ?_, inBody.position, left⟩
        show self.readRemaining - (body.take count).length = (body.drop count).length
        rw [List.length_take, List.length_drop]
        omega
      by_cases rest : body.drop count = []
      · rw [rest] at next ⊢
        exact .inl ⟨next.inHeader, rfl⟩
      · exact .inr ⟨_, rest, next, rfl⟩

theorem Owes.handshake (owes : Owes self owed) : self.handshake = true := by
  obtain ⟨packets, _, inHeader | ⟨body, _, inBody, _⟩⟩ := owes
  · exact inHeader.1.handshake
  · exact inBody.handshake

theorem InHeader.atEof (inHeader : InHeader self packets) {next : TlsPreloginStream Transport}
    (behind : InHeader next packets) (closes : next.stream.closes = self.stream.closes)
    (short : next.headerPos < packetHeaderLen) (atEof : next.stream.AtEof) : self.stream.AtEof := by
  have input := behind.input
  rw [atEof.2, List.append_nil] at input
  have length : (encodeAll packets).length ≤ next.headerPos := by
    rw [← input]
    exact List.length_take_le _ _
  have long := encodeAll_length_ge packets
  have none : packets = [] := by
    apply List.length_eq_zero_iff.mp
    rw [packetHeaderLen] at *
    omega
  have coming := inHeader.input
  rw [none, encodeAll_nil] at coming
  exact ⟨closes.symm.trans atEof.1, (List.append_eq_nil_iff.mp coming).2⟩

/-- One poll of a stream in front of packets that carry something. -/
theorem pollRead_step (owes : Owes self owed) {capacity : Nat} (room : 0 < capacity) :
    ∃ rest, Answer self owed (self.pollRead capacity).1 rest ∧
      Owes (self.pollRead capacity).2 rest := by
  have handshake := owes.handshake
  obtain ⟨packets, loaded, ⟨inHeader, rfl⟩ | ⟨body, nonempty, inBody, rfl⟩⟩ := owes
  · have step := fillHeader_step packetHeaderLen inHeader (Nat.sub_le _ _)
    rw [pollRead, handshake, if_neg (by decide), if_neg (by omega), if_pos inHeader.remaining,
      readHeader]
    cases filled : fillHeader packetHeaderLen self with
    | mk answer next =>
      rw [filled] at step
      obtain ⟨behind, closes, answered⟩ := step
      cases answered with
      | full full =>
        obtain ⟨packet, rest, rfl⟩ := behind.eq_cons full
        have ⟨headed, taken, inBody, _⟩ :=
          takeHeader_step behind full (loaded packet (.head rest)).1
        dsimp only
        rw [taken]
        exact readPayload_step inBody (loaded packet (.head rest)).2
          (fun other member => loaded other (.tail packet member)) room self
      | pending => exact ⟨_, .pending, packets, loaded, .inl ⟨behind, rfl⟩⟩
      | ended error short atEof =>
        exact ⟨_, .ended error (inHeader.atEof behind closes short atEof), packets, loaded,
          .inl ⟨behind, rfl⟩⟩
  · have more : self.readRemaining ≠ 0 := by
      rw [inBody.remaining]
      exact fun none => nonempty (List.length_eq_zero_iff.mp none)
    rw [pollRead, handshake, if_neg (by decide), if_neg (by omega), if_neg more]
    exact readPayload_step inBody nonempty loaded room self

end polls
section runs
variable {packets : List Packet}

theorem start_owes (loaded : Loaded packets) (answers : Nat → ReadAnswer) (closes : Bool) :
    Owes (start answers closes (encodeAll packets)) (payloadOf packets) :=
  ⟨packets, loaded, .inl ⟨⟨rfl, rfl, rfl, Nat.zero_le _, rfl⟩, rfl⟩⟩

theorem Answer.owed_eq {self : TlsPreloginStream Transport} {owed rest : Bytes}
    {answer : Poll (Outcome IoError Bytes)} (answered : Answer self owed answer rest) :
    owed = bytesOf answer ++ rest := by
  cases answered with
  | pending => rfl
  | bytes read split => exact split
  | ended error atEof => rfl

theorem run_owes (capacities : List Nat) (room : ∀ capacity ∈ capacities, 0 < capacity)
    {self : TlsPreloginStream Transport} {owed : Bytes} (owes : Owes self owed) :
    ∃ rest, owed = delivered (run capacities self).1 ++ rest ∧ Owes (run capacities self).2 rest := by
  induction capacities generalizing self owed with
  | nil => exact ⟨owed, rfl, owes⟩
  | cons capacity capacities ih =>
    have ⟨middle, answered, next⟩ := pollRead_step owes (room capacity (.head _))
    have ⟨rest, split, last⟩ := ih (fun other member => room other (.tail _ member)) next
    refine ⟨rest, ?_, last⟩
    rw [answered.owed_eq, split, ← List.append_assoc]
    rfl

theorem Owes.eq_nil {self : TlsPreloginStream Transport} {owed : Bytes} (owes : Owes self owed)
    (none : self.stream.incoming = []) : owed = [] := by
  obtain ⟨packets, loaded, ⟨inHeader, rfl⟩ | ⟨body, nonempty, inBody, _⟩⟩ := owes
  · have input := inHeader.input
    rw [none, List.append_nil] at input
    cases packets with
    | nil => rfl
    | cons packet rest =>
      -- A whole packet is longer than what the header buffer can hold of it.
      have payload := List.length_pos_iff.mpr (loaded packet (.head rest)).2
      have fits := inHeader.position
      have held : (encodeAll (packet :: rest)).length ≤ self.headerPos := by
        rw [← input]
        exact List.length_take_le _ _
      rw [encodeAll_cons, List.length_append, packet.encode_length, packet.framed] at held
      omega
  · have input := inBody.input
    rw [none] at input
    exact absurd (List.append_eq_nil_iff.mp input.symm).1 nonempty

theorem deframes_of_loaded (loaded : Loaded packets) : Deframes packets := by
  intro answers closes capacities room
  have ⟨rest, split, owes⟩ := run_owes capacities room (start_owes loaded answers closes)
  constructor
  · exact ⟨rest, split.symm⟩
  · intro none
    rw [split, owes.eq_nil none, List.append_nil]
  · intro capacity positive open_ empty
    have ⟨_, answered, _⟩ := pollRead_step owes positive
    rw [empty] at answered
    cases answered with
    | bytes read split => exact read rfl
  · intro capacity positive open_ error failed
    have ⟨_, answered, _⟩ := pollRead_step owes positive
    rw [failed] at answered
    cases answered with
    | ended error atEof => exact open_ atEof

end runs

section greedy
variable {packets : List Packet}

def greedy : Nat → ReadAnswer := fun _ => .deliver maxPacketLen

structure Ahead (tls : TlsPreloginStream Transport) (packets : List Packet) : Prop where
  answers : tls.stream.answers = greedy
  stays : tls.stream.closes = false
  inBody : InBody tls [] packets

theorem pollRead_greedy {self : Transport} (answers : self.answers = greedy) {capacity : Nat}
    (small : capacity ≤ maxPacketLen + 1) (coming : capacity ≤ self.incoming.length) :
    self.pollRead capacity = (.ready (.ok (self.incoming.take capacity)), self.give capacity) := by
  have someLeft : ¬(0 < capacity ∧ self.incoming = [] ∧ self.closes = false) := by
    intro ⟨positive, drained, _⟩
    rw [drained] at coming
    exact absurd coming (Nat.not_le.mpr positive)
  rw [Transport.pollRead, answers]
  simp only [greedy, if_neg someLeft, Nat.min_eq_right small]

theorem fillHeader_full (fuel : Nat) {self : TlsPreloginStream Transport}
    (full : ¬self.headerPos < packetHeaderLen) : fillHeader fuel self = (none, self) := by
  cases fuel with
  | zero => rfl
  | succ fuel => rw [fillHeader, if_neg full]

theorem fillHeader_greedy {self : TlsPreloginStream Transport}
    (answers : self.stream.answers = greedy) (position : self.headerPos = 0)
    (inHeader : InHeader self packets) (coming : packetHeaderLen ≤ self.stream.incoming.length) :
    ∃ next, fillHeader packetHeaderLen self = (none, next) ∧ next.headerPos = packetHeaderLen ∧
      next.stream = self.stream.give packetHeaderLen ∧ InHeader next packets := by
  have length : (self.stream.incoming.take packetHeaderLen).length = packetHeaderLen := by
    rw [List.length_take, Nat.min_eq_left coming]
  have full : ({ self with stream := self.stream.give packetHeaderLen }.pushHeader
      (self.stream.incoming.take packetHeaderLen)).headerPos = packetHeaderLen := by
    rw [pushHeader, length, position, Nat.zero_add]
  have room : packetHeaderLen ≤ packetHeaderLen - self.headerPos := by
    rw [position]
    exact le_rfl
  have pushed := inHeader.push room
  have filled : fillHeader packetHeaderLen self = (none,
      { self with stream := self.stream.give packetHeaderLen }.pushHeader
        (self.stream.incoming.take packetHeaderLen)) := by
    rw [show fillHeader packetHeaderLen self = fillHeader (7 + 1) self from rfl, fillHeader,
      if_pos (by rw [position]; decide)]
    simp only [AsyncRead.pollRead, position, Nat.sub_zero,
      pollRead_greedy answers (by decide) coming]
    rw [if_neg (by rw [length]; decide), ← position]
    exact fillHeader_full 7 (by rw [full]; exact lt_irrefl _)
  exact ⟨_, filled, full, rfl, pushed⟩

theorem readPayload_greedy {self : TlsPreloginStream Transport} {body : Bytes}
    (answers : self.stream.answers = greedy) (inBody : InBody self body packets)
    (small : body.length ≤ maxPacketLen) :
    ∃ next, self.readPayload maxPacketLen = (.ready (.ok body), next) ∧
      next.stream = self.stream.give body.length ∧ InBody next [] packets := by
  have enough : body.length ≤ self.stream.incoming.length := by
    rw [inBody.input, List.length_append]
    omega
  have front : self.stream.incoming.take body.length = body := by
    rw [inBody.input, List.take_left]
  have behind : self.stream.incoming.drop body.length = encodeAll packets := by
    rw [inBody.input, List.drop_left]
  have delivers : self.readPayload maxPacketLen = (.ready (.ok body),
      { self with stream := self.stream.give body.length, readRemaining := 0 }) := by
    rw [readPayload, inBody.remaining, Nat.min_eq_left small]
    simp only [AsyncRead.pollRead, pollRead_greedy answers (small.trans (Nat.le_succ _)) enough, front]
    rw [if_neg (by omega), Nat.sub_self]
  exact ⟨_, delivers, rfl, inBody.handshake, inBody.headerLen, rfl, inBody.position, behind⟩

/-- A poll with room for any payload delivers that of the next packet, even when it is empty. -/
theorem pollRead_ahead {self : TlsPreloginStream Transport} {packet : Packet} {rest : List Packet}
    (ahead : Ahead self (packet :: rest)) (prelogin : packet.header.packetType = .preLogin) :
    ∃ next, self.pollRead maxPacketLen = (.ready (.ok packet.body), next) ∧ Ahead next rest := by
  have input : self.stream.incoming = packet.encode ++ encodeAll rest := ahead.inBody.input
  have coming : packetHeaderLen ≤ self.stream.incoming.length := by
    rw [input, List.length_append, packet.encode_length, packet.framed]
    omega
  have small : packet.body.length ≤ maxPacketLen := by
    have header := packet.header.length.toNat_lt
    have framed := packet.framed
    rw [maxPacketLen]
    omega
  have ⟨filled, fill, full, stream, inHeader⟩ :=
    fillHeader_greedy ahead.answers ahead.inBody.position ahead.inBody.inHeader coming
  have ⟨headed, taken, inBody, kept⟩ := takeHeader_step inHeader full prelogin
  have answers : headed.stream.answers = greedy := by
    rw [kept, stream]
    exact ahead.answers
  have stays : headed.stream.closes = false := by
    rw [kept, stream]
    exact ahead.stays
  have ⟨next, delivers, given, further⟩ := readPayload_greedy answers inBody small
  have polled : self.pollRead maxPacketLen = (.ready (.ok packet.body), next) := by
    rw [pollRead, ahead.inBody.handshake, if_neg (by decide), if_neg (by decide),
      if_pos ahead.inBody.inHeader.remaining, readHeader, fill]
    dsimp only
    rw [taken]
    exact delivers
  exact ⟨next, polled, by rw [given]; exact answers, by rw [given]; exact stays, further⟩

theorem run_ahead (packets : List Packet)
    (prelogin : ∀ packet ∈ packets, packet.header.packetType = .preLogin)
    {self : TlsPreloginStream Transport} {behind : List Packet} (ahead : Ahead self (packets ++ behind)) :
    Ahead (run (packets.map fun _ => maxPacketLen) self).2 behind := by
  induction packets generalizing self with
  | nil => exact ahead
  | cons packet packets ih =>
    have ⟨next, polled, further⟩ := pollRead_ahead ahead (prelogin packet (.head _))
    rw [List.map_cons, run, polled]
    exact ih (fun other member => prelogin other (.tail _ member)) further

/-- A packet without a payload makes the run up to it end in a false end of file. -/
theorem loaded_of_deframes (prelogin : ∀ packet ∈ packets, packet.header.packetType = .preLogin)
    (deframes : Deframes packets) : ∀ packet ∈ packets, packet.body ≠ [] := by
  intro packet member empty
  obtain ⟨before, behind, rfl⟩ := List.append_of_mem member
  have room : ∀ capacity ∈ before.map fun _ => maxPacketLen, 0 < capacity := by
    intro capacity member
    obtain ⟨_, _, rfl⟩ := List.mem_map.mp member
    decide
  have begun : Ahead (start greedy false (encodeAll (before ++ packet :: behind)))
      (before ++ packet :: behind) := ⟨rfl, rfl, rfl, rfl, rfl, rfl, rfl⟩
  have ahead := run_ahead before
    (fun other inside => prelogin other (List.mem_append_left _ inside)) begun
  have ⟨next, polled, _⟩ := pollRead_ahead ahead (prelogin packet member)
  have whole := deframes greedy false _ room
  apply whole.noFalseEnd maxPacketLen (by decide)
  · intro atEof
    exact absurd (ahead.stays.symm.trans atEof.1) (by decide)
  · rw [polled, empty]

end greedy

/-- Runs of polls de-frame PRELOGIN packets, whatever the transport and the buffers, exactly when no
packet has an empty payload. -/
theorem deframes_iff (packets : List Packet)
    (prelogin : ∀ packet ∈ packets, packet.header.packetType = .preLogin) :
    Deframes packets ↔ ∀ packet ∈ packets, packet.body ≠ [] := by
  constructor
  · exact loaded_of_deframes prelogin
  · intro loaded
    exact deframes_of_loaded fun packet member => ⟨prelogin packet member, loaded packet member⟩

/-- The first two bytes of a handshake record, in a packet each. -/
theorem deframes_iff_record :
    Deframes [.client .preLogin .normal 1 [22] (by decide),
      .client .preLogin .endOfMessage 2 [3] (by decide)] :=
  (deframes_iff _ (by simp [Packet.client, PacketHeader.new])).mpr (by simp [Packet.client])

/-- A packet that is only a header looks like the end of the stream. -/
theorem not_deframes :
    ¬∀ packets : List Packet, (∀ packet ∈ packets, packet.header.packetType = .preLogin) →
      Deframes packets := by
  intro always
  have prelogin : ∀ packet ∈ [Packet.client .preLogin .endOfMessage 1 [] (by decide)],
      packet.header.packetType = .preLogin := by simp [Packet.client, PacketHeader.new]
  exact loaded_of_deframes prelogin (always _ prelogin) _ (.head _) rfl

end SqlxSqlserver.Driver.TlsDeframe

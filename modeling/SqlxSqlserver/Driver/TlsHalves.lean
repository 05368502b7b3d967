import SqlxSqlserver.Driver.TlsPrelogin

/-! The halves of a handshake stream over a transport in two halves. A read is the same poll of the
reading half and leaves the writing half alone; a write or a flush the other way around. -/

namespace SqlxSqlserver.Driver
open Foundation Protocol TlsPreloginStream

structure Duplex (R W : Type) where
  incoming : R
  outgoing : W

section duplex
variable {R W : Type}

instance [AsyncRead R] : AsyncRead (Duplex R W) where
  pollRead self capacity :=
    let (answer, incoming) := AsyncRead.pollRead self.incoming capacity
    (answer, { self with incoming })

instance [AsyncWrite W] : AsyncWrite (Duplex R W) where
  pollWrite self buf :=
    let (answer, outgoing) := AsyncWrite.pollWrite self.outgoing buf
    (answer, { self with outgoing })
  pollFlush self :=
    let (answer, outgoing) := AsyncWrite.pollFlush self.outgoing
    (answer, { self with outgoing })

namespace TlsPreloginStream

def reading (self : TlsPreloginStream (Duplex R W)) : TlsPreloginStream R :=
  { self with stream := self.stream.incoming, writeBuf := [] }

def writing (self : TlsPreloginStream (Duplex R W)) : TlsPreloginStream W :=
  { new self.stream.outgoing with handshake := self.handshake, writeBuf := self.writeBuf }

end TlsPreloginStream

end duplex

section reads
variable {R W : Type} [AsyncRead R] {α : Type}

/-- A result over both halves, and the one over the reading half that it shows. -/
structure ReadsAlone (tls : TlsPreloginStream (Duplex R W))
    (result : α × TlsPreloginStream (Duplex R W)) (alone : α × TlsPreloginStream R) : Prop where
  same : alone = (result.1, result.2.reading)
  writing : result.2.writing = tls.writing

omit [AsyncRead R] in
theorem ReadsAlone.trans {self : TlsPreloginStream (Duplex R W)}
    {result : α × TlsPreloginStream (Duplex R W)} {alone : α × TlsPreloginStream R}
    {before : TlsPreloginStream (Duplex R W)} (reads : ReadsAlone self result alone)
    (kept : self.writing = before.writing) : ReadsAlone before result alone :=
  ⟨reads.same, reads.writing.trans kept⟩

theorem fillHeader_alone (fuel : Nat) (self : TlsPreloginStream (Duplex R W)) :
    ReadsAlone self (fillHeader fuel self) (fillHeader fuel self.reading) := by
  induction fuel generalizing self with
  | zero => exact ⟨rfl, rfl⟩
  | succ fuel ih =>
    rw [fillHeader, fillHeader]
    by_cases short : self.headerPos < packetHeaderLen
    · rw [if_pos short, if_pos (show self.reading.headerPos < packetHeaderLen from short)]
      simp only [AsyncRead.pollRead, reading]
      cases AsyncRead.pollRead self.stream.incoming (packetHeaderLen - self.headerPos) with
      | mk answer incoming =>
        match answer with
        | .pending => exact ⟨rfl, rfl⟩
        | .ready (.error error) => exact ⟨rfl, rfl⟩
        | .ready (.ok read) =>
          dsimp only
          by_cases ended : read.length = 0
          · rw [if_pos ended, if_pos ended]
            exact ⟨rfl, rfl⟩
          · rw [if_neg ended, if_neg ended]
            have pushed := ih (pushHeader { self with stream := { self.stream with incoming } } read)
            exact pushed.trans rfl
    · rw [if_neg short, if_neg (show ¬self.reading.headerPos < packetHeaderLen from short)]
      exact ⟨rfl, rfl⟩

omit [AsyncRead R] in
theorem takeHeader_alone (self : TlsPreloginStream (Duplex R W)) :
    ReadsAlone self self.takeHeader self.reading.takeHeader := by
  simp only [takeHeader, reading]
  cases PacketHeader.decode self.headerBuf with
  | error error => exact ⟨rfl, rfl⟩
  | ok header =>
    dsimp only
    split_ifs <;> exact ⟨rfl, rfl⟩

theorem readHeader_alone (self : TlsPreloginStream (Duplex R W)) :
    ReadsAlone self self.readHeader self.reading.readHeader := by
  have filled := fillHeader_alone packetHeaderLen self
  rw [readHeader, readHeader, filled.same]
  cases answered : fillHeader packetHeaderLen self with
  | mk answer next =>
    rw [answered] at filled
    cases answer with
    | some answer => exact ⟨rfl, filled.writing⟩
    | none => exact (takeHeader_alone next).trans filled.writing

theorem readPayload_alone (self : TlsPreloginStream (Duplex R W)) (capacity : Nat) :
    ReadsAlone self (self.readPayload capacity) (self.reading.readPayload capacity) := by
  simp only [readPayload, AsyncRead.pollRead, reading]
  cases AsyncRead.pollRead self.stream.incoming (min self.readRemaining capacity) with
  | mk answer incoming =>
    match answer with
    | .pending => exact ⟨rfl, rfl⟩
    | .ready (.error error) => exact ⟨rfl, rfl⟩
    | .ready (.ok read) =>
      dsimp only
      by_cases ended : read.length = 0 ∧ 0 < self.readRemaining
      · rw [if_pos ended]
        exact ⟨if_pos ended, rfl⟩
      · rw [if_neg ended]
        exact ⟨if_neg ended, rfl⟩

theorem pollRead_alone (self : TlsPreloginStream (Duplex R W)) (capacity : Nat) :
    ReadsAlone self (self.pollRead capacity) (self.reading.pollRead capacity) := by
  rw [pollRead, pollRead]
  cases shaken : self.handshake with
  | false =>
    simp only [readInner, AsyncRead.pollRead, reading, shaken, Bool.not_false, if_true]
    exact ⟨rfl, by simp only [writing, new, shaken]⟩
  | true =>
    have shakes : self.reading.handshake = true := shaken
    simp only [shakes, Bool.not_true, Bool.false_eq_true, if_false]
    by_cases none : capacity = 0
    · rw [if_pos none, if_pos none]
      exact ⟨rfl, rfl⟩
    · rw [if_neg none, if_neg none]
      by_cases front : self.readRemaining = 0
      · have headed := readHeader_alone self
        rw [if_pos front, if_pos (show self.reading.readRemaining = 0 from front), headed.same]
        cases answered : self.readHeader with
        | mk answer next =>
          rw [answered] at headed
          cases answer with
          | some answer => exact ⟨rfl, headed.writing⟩
          | none => exact (readPayload_alone next capacity).trans headed.writing
      · rw [if_neg front, if_neg (show ¬self.reading.readRemaining = 0 from front)]
        exact readPayload_alone self capacity

end reads

section keeps
variable {S β : Type} [AsyncRead S] {kept : S → β}
  (keeps : ∀ stream capacity, kept (AsyncRead.pollRead stream capacity).2 = kept stream)
include keeps

theorem fillHeader_keeps (fuel : Nat) (self : TlsPreloginStream S) :
    kept (fillHeader fuel self).2.stream = kept self.stream := by
  induction fuel generalizing self with
  | zero => rfl
  | succ fuel ih =>
    have polled := keeps self.stream (packetHeaderLen - self.headerPos)
    rw [fillHeader]
    split
    next =>
      split
      next answer stream answered =>
        rw [answered] at polled
        split
        · exact polled
        · exact polled
        · split
          · exact polled
          · exact (ih _).trans polled
    next => rfl

omit [AsyncRead S] keeps in
theorem takeHeader_stream (self : TlsPreloginStream S) : self.takeHeader.2.stream = self.stream := by
  rw [takeHeader]
  split
  · rfl
  · split_ifs <;> rfl

theorem readHeader_keeps (self : TlsPreloginStream S) :
    kept self.readHeader.2.stream = kept self.stream := by
  have filled := fillHeader_keeps keeps packetHeaderLen self
  rw [readHeader]
  split
  next answered =>
    rw [answered] at filled
    exact filled
  next answered =>
    rw [answered] at filled
    rw [takeHeader_stream]
    exact filled

theorem readPayload_keeps (self : TlsPreloginStream S) (capacity : Nat) :
    kept (self.readPayload capacity).2.stream = kept self.stream := by
  have polled := keeps self.stream (min self.readRemaining capacity)
  rw [readPayload]
  split
  next answer stream answered =>
    rw [answered] at polled
    split
    · exact polled
    · exact polled
    · split_ifs <;> exact polled

/-- What every poll of the transport keeps, a read keeps. -/
theorem pollRead_keeps (self : TlsPreloginStream S) (capacity : Nat) :
    kept (self.pollRead capacity).2.stream = kept self.stream := by
  rw [pollRead]
  split_ifs
  · exact keeps self.stream capacity
  · rfl
  · have headed := readHeader_keeps keeps self
    split
    next answered =>
      rw [answered] at headed
      exact headed
    next answered =>
      rw [answered] at headed
      exact (readPayload_keeps keeps _ capacity).trans headed
  · exact readPayload_keeps keeps self capacity

end keeps

section writes
variable {R W : Type} [AsyncWrite W] {α : Type}

structure WritesAlone (tls : TlsPreloginStream (Duplex R W))
    (result : α × TlsPreloginStream (Duplex R W)) (alone : α × TlsPreloginStream W) : Prop where
  same : alone = (result.1, result.2.writing)
  reading : result.2.reading = tls.reading

omit [AsyncWrite W] in
theorem WritesAlone.trans {self : TlsPreloginStream (Duplex R W)}
    {result : α × TlsPreloginStream (Duplex R W)} {alone : α × TlsPreloginStream W}
    {before : TlsPreloginStream (Duplex R W)} (writes : WritesAlone self result alone)
    (kept : self.reading = before.reading) : WritesAlone before result alone :=
  ⟨writes.same, writes.reading.trans kept⟩

theorem pollWrite_alone (self : TlsPreloginStream (Duplex R W)) (buf : Bytes) :
    WritesAlone self (self.pollWrite buf) (self.writing.pollWrite buf) := by
  rw [TlsPreloginStream.pollWrite, TlsPreloginStream.pollWrite]
  cases shaken : self.handshake with
  | false =>
    simp only [AsyncWrite.pollWrite, writing, new, shaken, Bool.not_false, if_true]
    exact ⟨rfl, by simp only [reading, shaken]⟩
  | true =>
    have shakes : self.writing.handshake = true := shaken
    simp only [shakes, Bool.not_true, Bool.false_eq_true, if_false]
    exact ⟨rfl, by simp only [reading, shaken]⟩

theorem drainWriteBuf_alone (fuel : Nat) (self : TlsPreloginStream (Duplex R W)) :
    WritesAlone self (drainWriteBuf fuel self) (drainWriteBuf fuel self.writing) := by
  induction fuel generalizing self with
  | zero => exact ⟨rfl, rfl⟩
  | succ fuel ih =>
    rw [drainWriteBuf, drainWriteBuf]
    by_cases empty : self.writeBuf.isEmpty = true
    · rw [if_pos empty, if_pos (show self.writing.writeBuf.isEmpty = true from empty)]
      exact ⟨rfl, rfl⟩
    · rw [if_neg empty, if_neg (show ¬self.writing.writeBuf.isEmpty = true from empty)]
      simp only [AsyncWrite.pollWrite, writing, new]
      cases AsyncWrite.pollWrite self.stream.outgoing self.writeBuf with
      | mk answer outgoing =>
        match answer with
        | .pending => exact ⟨rfl, rfl⟩
        | .ready (.error error) => exact ⟨rfl, rfl⟩
        | .ready (.ok written) =>
          dsimp only
          by_cases stuck : written = 0
          · rw [if_pos stuck, if_pos stuck]
            exact ⟨rfl, rfl⟩
          · rw [if_neg stuck, if_neg stuck]
            by_cases short : written < self.writeBuf.length
            · have rest := ih { self with
                stream := { self.stream with outgoing }, writeBuf := self.writeBuf.drop written }
              rw [if_pos short]
              exact ⟨(if_pos short).trans rest.same, rest.reading⟩
            · have rest := ih { self with stream := { self.stream with outgoing }, writeBuf := [] }
              rw [if_neg short]
              exact ⟨(if_neg short).trans rest.same, rest.reading⟩

theorem flushInner_alone (self : TlsPreloginStream (Duplex R W)) :
    WritesAlone self self.flushInner self.writing.flushInner := by
  simp only [flushInner, AsyncWrite.pollFlush, writing, new]
  exact ⟨rfl, rfl⟩

theorem pollFlush_alone (self : TlsPreloginStream (Duplex R W)) :
    WritesAlone self self.pollFlush self.writing.pollFlush := by
  rw [TlsPreloginStream.pollFlush, TlsPreloginStream.pollFlush]
  by_cases framing : (self.handshake && !self.writeBuf.isEmpty) = true
  · rw [if_pos framing, if_pos (show (self.writing.handshake && !self.writing.writeBuf.isEmpty) = true
      from framing)]
    simp only [writing, new]
    cases wrapPreloginTlsPayload self.writeBuf 4096 with
    | err error => exact ⟨rfl, rfl⟩
    | panic message => exact ⟨rfl, rfl⟩
    | ok framed =>
      dsimp only
      have drained := drainWriteBuf_alone framed.length { self with writeBuf := framed }
      simp only [writing, new] at drained
      rw [drained.same]
      cases answered : drainWriteBuf framed.length { self with writeBuf := framed } with
      | mk answer next =>
        rw [answered] at drained
        cases answer with
        | some answer => exact ⟨rfl, drained.reading⟩
        | none => exact (flushInner_alone next).trans drained.reading
  · rw [if_neg framing, if_neg (show ¬(self.writing.handshake && !self.writing.writeBuf.isEmpty) = true
      from framing)]
    exact flushInner_alone self

end writes

end SqlxSqlserver.Driver

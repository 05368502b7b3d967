import SqlxSqlserver.Driver.TlsPrelogin
import SqlxSqlserver.Protocol.PacketRoundTrip
import Mathlib.Data.List.Forall2
import Mathlib.Data.List.Induction
import Mathlib.Data.List.Infix

/-! What the transport receives from a handshake stream over any run of writes and flushes.
A flush takes the framed bytes out of the stream before it polls the transport, so a poll that
is not ready loses them; without such a poll every byte arrives once, in order and framed. -/

namespace SqlxSqlserver.Driver.TlsFlush
open Foundation Protocol TlsPreloginStream

inductive WriteAnswer where
  | pending
  /-- Takes one byte and up to `more` further ones. -/
  | accept (more : Nat)
  deriving DecidableEq, Repr

/-- A transport with its whole future behaviour, and what it has accepted so far. -/
structure Transport where
  answers : Nat → WriteAnswer
  flushAnswers : Nat → Bool
  polls : Nat
  flushes : Nat
  accepted : Bytes

namespace Transport

def take (self : Transport) (bytes : Bytes) : Transport :=
  { self with polls := self.polls + 1, accepted := self.accepted ++ bytes }

def pollWrite (self : Transport) (buf : Bytes) : Poll (Except IoError Nat) × Transport :=
  match self.answers self.polls with
  | .pending => (.pending, { self with polls := self.polls + 1 })
  | .accept more =>
    let count := min (more + 1) buf.length
    (.ready (.ok count), self.take (buf.take count))

def pollFlush (self : Transport) : Poll (Except IoError Unit) × Transport :=
  (if self.flushAnswers self.flushes then .ready (.ok ()) else .pending,
    { self with flushes := self.flushes + 1 })

end Transport

instance : AsyncWrite Transport where
  pollWrite := Transport.pollWrite
  pollFlush := Transport.pollFlush

inductive Call where
  | write (buf : Bytes)
  | flush

def step (self : TlsPreloginStream Transport) : Call → TlsPreloginStream Transport
  | .write buf => (self.pollWrite buf).2
  | .flush => self.pollFlush.2

def run (self : TlsPreloginStream Transport) (calls : List Call) : TlsPreloginStream Transport :=
  calls.foldl step self

def start (answers : Nat → WriteAnswer) (flushAnswers : Nat → Bool) :
    TlsPreloginStream Transport :=
  (TlsPreloginStream.new ⟨answers, flushAnswers, 0, 0, []⟩).startHandshake

def Call.bytes : Call → Bytes
  | .write buf => buf
  | .flush => []

def handed (calls : List Call) : Bytes := calls.flatMap Call.bytes

/-- `accepted` is the framing of consecutive non-empty blocks that make up `written`. -/
def WellFramed (accepted written : Bytes) : Prop :=
  ∃ blocks pieces : List Bytes, (∀ block ∈ blocks, block ≠ []) ∧ blocks.flatten = written ∧
    List.Forall₂ (fun block piece => encodeMessage .preLogin block 4096 = .ok piece) blocks pieces ∧
    accepted = pieces.flatten

theorem wellFramed_nil : WellFramed [] [] :=
  ⟨[], [], (fun _ member => nomatch member), rfl, .nil, rfl⟩

theorem WellFramed.snoc {accepted written block piece : Bytes} (framed : WellFramed accepted written)
    (nonempty : block ≠ []) (encoded : encodeMessage .preLogin block 4096 = .ok piece) :
    WellFramed (accepted ++ piece) (written ++ block) := by
  obtain ⟨blocks, pieces, all, rfl, each, rfl⟩ := framed
  refine ⟨blocks ++ [block], pieces ++ [piece], ?_, by simp, ?_, by simp⟩
  · intro other member
    rcases List.mem_append.mp member with earlier | last
    · exact all other earlier
    · exact List.mem_singleton.mp last ▸ nonempty
  · exact List.rel_append each (.cons encoded .nil)

section draining

theorem drainWriteBuf_polls_le (fuel : Nat) (self : TlsPreloginStream Transport) :
    self.stream.polls ≤ (drainWriteBuf fuel self).2.stream.polls := by
  induction fuel generalizing self with
  | zero => exact le_rfl
  | succ fuel ih =>
    rw [drainWriteBuf]
    split
    next => exact le_rfl
    next =>
      simp only [AsyncWrite.pollWrite, Transport.pollWrite]
      cases self.stream.answers self.stream.polls with
      | pending => exact Nat.le_succ _
      | accept more =>
        dsimp only
        split_ifs
        · exact Nat.le_succ _
        · exact Nat.le_of_succ_le (ih { self with
            stream := self.stream.take (self.writeBuf.take (min (more + 1) self.writeBuf.length))
            writeBuf := self.writeBuf.drop (min (more + 1) self.writeBuf.length) })
        · exact Nat.le_of_succ_le (ih { self with
            stream := self.stream.take (self.writeBuf.take (min (more + 1) self.writeBuf.length))
            writeBuf := [] })

theorem drainWriteBuf_complete (fuel : Nat) (self : TlsPreloginStream Transport)
    (enough : self.writeBuf.length ≤ fuel)
    (unblocked : ∀ n, n < (drainWriteBuf fuel self).2.stream.polls →
      self.stream.answers n ≠ .pending) :
    ∃ polls, drainWriteBuf fuel self =
      (none, { self with
        stream := { self.stream with polls, accepted := self.stream.accepted ++ self.writeBuf }
        writeBuf := [] }) := by
  induction fuel generalizing self with
  | zero =>
    have empty : self.writeBuf = [] := List.length_eq_zero_iff.mp (Nat.le_zero.mp enough)
    refine ⟨self.stream.polls, ?_⟩
    rw [drainWriteBuf, empty, List.append_nil]
    cases self
    cases empty
    rfl
  | succ fuel ih =>
    by_cases empty : self.writeBuf = []
    · refine ⟨self.stream.polls, ?_⟩
      rw [drainWriteBuf, if_pos (List.isEmpty_iff.mpr empty), empty, List.append_nil]
      cases self
      cases empty
      rfl
    · have notEmpty : ¬self.writeBuf.isEmpty = true := fun same => empty (List.isEmpty_iff.mp same)
      have positive : 0 < self.writeBuf.length := List.length_pos_iff.mpr empty
      rw [drainWriteBuf, if_neg notEmpty] at unblocked ⊢
      simp only [AsyncWrite.pollWrite, Transport.pollWrite] at unblocked ⊢
      cases answer : self.stream.answers self.stream.polls with
      | pending =>
        simp only [answer] at unblocked
        exact absurd answer (unblocked _ (Nat.lt_succ_self _))
      | accept more =>
        simp only [answer] at unblocked ⊢
        have some : ¬min (more + 1) self.writeBuf.length = 0 := by omega
        rw [if_neg some] at unblocked ⊢
        by_cases short : min (more + 1) self.writeBuf.length < self.writeBuf.length
        · rw [if_pos short] at unblocked ⊢
          obtain ⟨polls, drained⟩ := ih _ (by simp only [List.length_drop]; omega) unblocked
          refine ⟨polls, ?_⟩
          rw [drained]
          simp only [Transport.take, List.append_assoc, List.take_append_drop]
        · rw [if_neg short] at unblocked ⊢
          obtain ⟨polls, drained⟩ := ih _ (Nat.zero_le _) unblocked
          refine ⟨polls, ?_⟩
          rw [drained]
          have whole : min (more + 1) self.writeBuf.length = self.writeBuf.length := by omega
          simp only [Transport.take, whole, List.take_length, List.append_nil]

end draining

section flushing

theorem afterDrain_polls
    (drained : Option (Poll (Outcome IoError Unit)) × TlsPreloginStream Transport) :
    (afterDrain drained).2.stream.polls = drained.2.stream.polls := by
  rcases drained with ⟨_ | result, self⟩ <;> rfl

theorem pollFlush_polls_le (self : TlsPreloginStream Transport) :
    self.stream.polls ≤ self.pollFlush.2.stream.polls := by
  unfold TlsPreloginStream.pollFlush
  split
  next =>
    dsimp only
    cases wrapPreloginTlsPayload self.writeBuf 4096 with
    | err error => exact le_rfl
    | panic message => exact le_rfl
    | ok framed =>
      have grows := drainWriteBuf_polls_le framed.length { self with writeBuf := framed }
      rwa [← afterDrain_polls] at grows
  next => exact le_rfl

theorem run_polls_le (self : TlsPreloginStream Transport) (calls : List Call) :
    self.stream.polls ≤ (run self calls).stream.polls := by
  induction calls generalizing self with
  | nil => exact le_rfl
  | cons call calls ih =>
    refine le_trans ?_ (ih (step self call))
    cases call with
    | write buf =>
      simp only [step, TlsPreloginStream.pollWrite, AsyncWrite.pollWrite, Transport.pollWrite]
      split_ifs
      · cases self.stream.answers self.stream.polls <;> exact Nat.le_succ _
      · exact le_rfl
    | flush => exact pollFlush_polls_le self

theorem wrapPreloginTlsPayload_fits {payload : Bytes}
    (vec : framedLength payload 4096 ≤ isizeMax) :
    ∃ framed, encodeMessage .preLogin payload 4096 = .ok framed :=
  (encodeMessage_ok_iff .preLogin payload 4096).mpr ⟨by decide, by decide, vec⟩

/-- A flush whose polls are all ready sends the buffered bytes as one framed block. -/
theorem pollFlush_complete (self : TlsPreloginStream Transport) (handshake : self.handshake = true)
    (vec : framedLength self.writeBuf 4096 ≤ isizeMax)
    (unblocked : ∀ n, n < self.pollFlush.2.stream.polls → self.stream.answers n ≠ .pending) :
    ∃ piece polls flushes,
      self.pollFlush.2 = { self with
        stream := { self.stream with polls, flushes, accepted := self.stream.accepted ++ piece }
        writeBuf := [] } ∧
      (self.writeBuf = [] ∧ piece = [] ∨
        encodeMessage .preLogin self.writeBuf 4096 = .ok piece ∧ self.writeBuf ≠ []) := by
  by_cases empty : self.writeBuf = []
  · refine ⟨[], self.stream.polls, self.stream.flushes + 1, ?_, .inl ⟨empty, rfl⟩⟩
    simp only [TlsPreloginStream.pollFlush, empty, List.isEmpty_nil, Bool.not_true, Bool.and_false,
      Bool.false_eq_true, if_false, flushInner, AsyncWrite.pollFlush, Transport.pollFlush,
      List.append_nil]
  · obtain ⟨framed, encoded⟩ := wrapPreloginTlsPayload_fits vec
    have guard : (self.handshake && !self.writeBuf.isEmpty) = true := by
      simp [handshake, empty]
    have flush : self.pollFlush =
        afterDrain (drainWriteBuf framed.length { self with writeBuf := framed }) := by
      rw [TlsPreloginStream.pollFlush, if_pos guard]
      simp only [wrapPreloginTlsPayload, encoded]
    have drainUnblocked : ∀ n,
        n < (drainWriteBuf framed.length { self with writeBuf := framed }).2.stream.polls →
          self.stream.answers n ≠ .pending := by
      intro n polled
      apply unblocked n
      rwa [flush, afterDrain_polls]
    obtain ⟨polls, drained⟩ := drainWriteBuf_complete framed.length { self with writeBuf := framed }
      le_rfl drainUnblocked
    refine ⟨framed, polls, self.stream.flushes + 1, ?_, .inr ⟨encoded, empty⟩⟩
    rw [flush, drained]
    rfl

/-- Between calls the transport holds whole framed blocks, and the stream the bytes since. -/
structure Invariant (answers : Nat → WriteAnswer) (written : Bytes)
    (tls : TlsPreloginStream Transport) : Prop where
  handshake : tls.handshake = true
  answers : tls.stream.answers = answers
  split : ∃ sent, written = sent ++ tls.writeBuf ∧ WellFramed tls.stream.accepted sent

theorem Invariant.write {answers : Nat → WriteAnswer} {written : Bytes}
    {tls : TlsPreloginStream Transport} (inv : Invariant answers written tls) (buf : Bytes) :
    Invariant answers (written ++ buf) (step tls (.write buf)) := by
  obtain ⟨sent, rfl, framed⟩ := inv.split
  have buffered : step tls (.write buf) = { tls with writeBuf := tls.writeBuf ++ buf } := by
    simp only [step, TlsPreloginStream.pollWrite, inv.handshake, Bool.not_true,
      Bool.false_eq_true, if_false]
  rw [buffered]
  exact ⟨inv.handshake, inv.answers, sent, by rw [List.append_assoc], framed⟩

theorem Invariant.flush {answers : Nat → WriteAnswer} {written : Bytes}
    {tls : TlsPreloginStream Transport} (inv : Invariant answers written tls)
    (vec : framedLength tls.writeBuf 4096 ≤ isizeMax)
    (unblocked : ∀ n, n < tls.pollFlush.2.stream.polls → answers n ≠ .pending) :
    Invariant answers written tls.pollFlush.2 ∧
      WellFramed tls.pollFlush.2.stream.accepted written := by
  obtain ⟨piece, polls, flushes, after, sentBlock⟩ := pollFlush_complete tls inv.handshake vec
    (inv.answers ▸ unblocked)
  obtain ⟨sent, rfl, framed⟩ := inv.split
  have whole : WellFramed (tls.stream.accepted ++ piece) (sent ++ tls.writeBuf) := by
    rcases sentBlock with ⟨empty, rfl⟩ | ⟨encoded, nonempty⟩
    · rwa [empty, List.append_nil, List.append_nil]
    · exact framed.snoc nonempty encoded
  rw [after]
  exact ⟨⟨inv.handshake, inv.answers, _, (List.append_nil _).symm, whole⟩, whole⟩

theorem run_snoc (self : TlsPreloginStream Transport) (calls : List Call) (call : Call) :
    run self (calls ++ [call]) = step (run self calls) call := by
  rw [run, List.foldl_append]
  rfl

theorem handed_snoc (calls : List Call) (call : Call) :
    handed (calls ++ [call]) = handed calls ++ call.bytes := by
  rw [handed, List.flatMap_append]
  simp [handed]

/-- The invariant holds along every run whose polls are all ready. -/
theorem run_invariant (answers : Nat → WriteAnswer) (flushAnswers : Nat → Bool)
    (calls : List Call)
    (vec : ∀ earlier, earlier <+: calls →
      framedLength (run (start answers flushAnswers) earlier).writeBuf 4096 ≤ isizeMax)
    (unblocked : ∀ n, n < (run (start answers flushAnswers) calls).stream.polls →
      answers n ≠ .pending) :
    Invariant answers (handed calls) (run (start answers flushAnswers) calls) := by
  induction calls using List.reverseRecOn with
  | nil => exact ⟨rfl, rfl, [], rfl, wellFramed_nil⟩
  | append_singleton calls call ih =>
    have before := ih
      (fun earlier inside => vec earlier (inside.trans (List.prefix_append calls [call])))
      (fun n polled => unblocked n (by
        rw [run_snoc]
        exact polled.trans_le (run_polls_le (run (start answers flushAnswers) calls) [call])))
    rw [run_snoc] at unblocked ⊢
    rw [handed_snoc]
    cases call with
    | write buf => exact before.write buf
    | flush =>
      rw [Call.bytes, List.append_nil]
      exact (before.flush (vec calls (List.prefix_append calls [.flush])) unblocked).1

end flushing

/-- In a run whose polls of the transport are all ready, the transport has accepted exactly the
framing, in order, of everything written so far after every flush, and so whenever a flush
reports success. -/
theorem flushed_bytes_framed (answers : Nat → WriteAnswer) (flushAnswers : Nat → Bool)
    (calls : List Call)
    (vec : ∀ earlier, earlier <+: calls →
      framedLength (run (start answers flushAnswers) earlier).writeBuf 4096 ≤ isizeMax)
    (unblocked : ∀ n, n < (run (start answers flushAnswers) (calls ++ [.flush])).stream.polls →
      answers n ≠ .pending) :
    WellFramed (run (start answers flushAnswers) (calls ++ [.flush])).stream.accepted
      (handed calls) := by
  rw [run_snoc] at unblocked ⊢
  have before := run_invariant answers flushAnswers calls vec fun n polled =>
    unblocked n (polled.trans_le (pollFlush_polls_le _))
  exact (before.flush (vec calls List.prefix_rfl) unblocked).2

/-- Two ready polls of two bytes and more carry a two-byte block across. -/
theorem flushed_bytes_framed_hi :
    WellFramed (run (start (fun _ => .accept 6) (fun _ => true))
      ([.write [104], .write [105]] ++ [.flush])).stream.accepted [104, 105] :=
  flushed_bytes_framed (fun _ => .accept 6) (fun _ => true) [.write [104], .write [105]]
    (by
      intro earlier inside
      have small : ∀ calls ∈ List.inits [Call.write [104], .write [105]],
          framedLength (run (start (fun _ => .accept 6) (fun _ => true)) calls).writeBuf 4096 ≤
            10 := by
        decide
      exact (small earlier ((List.mem_inits _ _).mpr inside)).trans (by decide))
    (fun _ _ same => nomatch same)

/-- One poll that is not ready loses the block: the flush is retried, succeeds, and the
transport has received nothing. -/
theorem pending_flush_loses_bytes :
    let after := run (start (fun n => if n = 0 then .pending else .accept 15) (fun _ => true))
      [.write [22], .flush]
    after.pollFlush.1 = .ready (.ok ()) ∧ after.pollFlush.2.stream.accepted = [] ∧
      ¬WellFramed after.pollFlush.2.stream.accepted [22] := by
  refine ⟨by decide, by decide, ?_⟩
  rintro ⟨blocks, pieces, _, whole, each, nothing⟩
  cases each with
  | nil => cases whole
  | cons encoded _ =>
    obtain ⟨packets, rfl, _, terminated, _⟩ := encodeMessage_packets encoded
    have long := encodeAll_length_ge packets
    have none : ([] : Bytes) = encodeAll packets ++ _ := nothing
    cases packets with
    | nil => exact terminated
    | cons packet rest =>
      have short := congrArg List.length none
      rw [List.length_append, List.length_nil] at short
      rw [List.length_cons, packetHeaderLen] at long
      omega

end SqlxSqlserver.Driver.TlsFlush

import Mathlib.Data.List.Basic
import Mathlib.Data.Nat.Init

/-! Decoders that take one message at a time from the front of a growing buffer. If what a decoder
has answered stands when more input arrives, the pieces in which a stream arrives do not matter. -/

namespace SqlxSqlserver.Foundation
variable {α ε μ : Type}

/-- The message at the front of a buffer, or `none` where the buffer has to grow first. -/
abbrev FrontDecoder (α ε μ : Type) : Type := List α → Except ε (Option μ)

/-- What has come out of a stream so far. A stream that has failed gives no more messages. -/
structure Received (α ε μ : Type) where
  messages : List μ
  failure : Option ε
  buffer : List α
  deriving DecidableEq, Repr

def Received.push (message : μ) (received : Received α ε μ) : Received α ε μ :=
  { received with messages := message :: received.messages }

namespace FrontDecoder
variable (decode : FrontDecoder α ε μ) (consumed : μ → Nat)

/-- An answer other than `none` stands, and a message takes some of the bytes that were there. -/
structure Stable : Prop where
  silent : decode [] = .ok none
  message : ∀ {input : List α} {message : μ}, decode input = .ok (some message) →
    ∀ more, decode (input ++ more) = .ok (some message)
  error : ∀ {input : List α} {error : ε}, decode input = .error error →
    ∀ more, decode (input ++ more) = .error error
  consumes : ∀ {input : List α} {message : μ}, decode input = .ok (some message) →
    0 < consumed message ∧ consumed message ≤ input.length

/-- Decodes and removes messages; `fuel` above the length of the buffer never runs out. -/
def drainLoop : Nat → List α → Received α ε μ
  | 0, input => ⟨[], none, input⟩
  | fuel + 1, input =>
    match decode input with
    | .error error => ⟨[], some error, input⟩
    | .ok none => ⟨[], none, input⟩
    | .ok (some message) =>
      Received.push message (drainLoop fuel (input.drop (consumed message)))

def drain (input : List α) : Received α ε μ := drainLoop decode consumed (input.length + 1) input

def feed (received : Received α ε μ) (piece : List α) : Received α ε μ :=
  match received.failure with
  | some _ => { received with buffer := received.buffer ++ piece }
  | none =>
    let later := drain decode consumed (received.buffer ++ piece)
    { later with messages := received.messages ++ later.messages }

def feedAll (pieces : List (List α)) : Received α ε μ :=
  pieces.foldl (feed decode consumed) ⟨[], none, []⟩

variable {decode consumed}

theorem Stable.waits (stable : Stable decode consumed) {input front : List α} {message : μ}
    (decoded : decode input = .ok (some message)) (before : front <+: input)
    (short : front.length < consumed message) : decode front = .ok none := by
  obtain ⟨more, rfl⟩ := before
  cases early : decode front with
  | error error =>
    rw [stable.error early more] at decoded
    cases decoded
  | ok answer =>
    cases answer with
    | none => rfl
    | some other =>
      rw [stable.message early more] at decoded
      cases decoded
      have inside := (stable.consumes early).2
      omega

theorem Stable.drop_length (stable : Stable decode consumed) {input : List α} {message : μ}
    (decoded : decode input = .ok (some message)) :
    (input.drop (consumed message)).length < input.length := by
  obtain ⟨positive, inside⟩ := stable.consumes decoded
  rw [List.length_drop]
  omega

theorem Stable.drainLoop_enough (stable : Stable decode consumed) {fuel more : Nat} {input : List α}
    (enough : input.length < fuel) (alsoEnough : input.length < more) :
    drainLoop decode consumed fuel input = drainLoop decode consumed more input := by
  induction fuel generalizing more input with
  | zero => omega
  | succ fuel ih =>
    obtain ⟨more, rfl⟩ : ∃ fewer, more = fewer + 1 := ⟨more - 1, by omega⟩
    unfold drainLoop
    cases decoded : decode input with
    | error error => rfl
    | ok answer =>
      cases answer with
      | none => rfl
      | some message =>
        have shorter := stable.drop_length decoded
        exact congrArg (Received.push message) (ih (by omega) (by omega))

theorem Stable.drain_apply (stable : Stable decode consumed) (input : List α) :
    drain decode consumed input = match decode input with
      | .error error => ⟨[], some error, input⟩
      | .ok none => ⟨[], none, input⟩
      | .ok (some message) =>
        Received.push message (drain decode consumed (input.drop (consumed message))) := by
  unfold drain
  rw [drainLoop]
  cases decoded : decode input with
  | error error => rfl
  | ok answer =>
    cases answer with
    | none => rfl
    | some message =>
      have shorter := stable.drop_length decoded
      exact congrArg (Received.push message)
        (stable.drainLoop_enough (by omega) (Nat.lt_succ_self _))

theorem feed_push (message : μ) (received : Received α ε μ) (piece : List α) :
    feed decode consumed (Received.push message received) piece =
      Received.push message (feed decode consumed received piece) := by
  unfold feed Received.push
  cases received.failure with
  | none => rfl
  | some error => rfl

theorem Stable.drain_append (stable : Stable decode consumed) (input piece : List α) :
    drain decode consumed (input ++ piece) =
      feed decode consumed (drain decode consumed input) piece := by
  induction length : input.length using Nat.strong_induction_on generalizing input with
  | _ n ih =>
    rw [stable.drain_apply input]
    cases decoded : decode input with
    | error error => rw [stable.drain_apply, stable.error decoded piece, feed]
    | ok answer =>
      cases answer with
      | none => simp only [feed, List.nil_append]
      | some message =>
        have inside := (stable.consumes decoded).2
        have shorter := stable.drop_length decoded
        have others := ih _ (by omega) (input.drop (consumed message)) rfl
        have behind : (input ++ piece).drop (consumed message) =
            input.drop (consumed message) ++ piece := List.drop_append_of_le_length inside
        rw [stable.drain_apply, stable.message decoded piece]
        simp only [behind, others, feed_push]

/-- A stream gives the same messages and the same failure in whatever pieces it arrives. -/
theorem Stable.feedAll_eq (stable : Stable decode consumed) (pieces : List (List α)) :
    feedAll decode consumed pieces = drain decode consumed pieces.flatten := by
  have behind : ∀ input, pieces.foldl (feed decode consumed) (drain decode consumed input) =
      drain decode consumed (input ++ pieces.flatten) := by
    induction pieces with
    | nil => intro input; rw [List.flatten_nil, List.append_nil, List.foldl_nil]
    | cons piece pieces ih =>
      intro input
      rw [List.foldl_cons, ← stable.drain_append, ih, List.flatten_cons, List.append_assoc]
  have start : drain decode consumed [] = ⟨[], none, []⟩ := by
    rw [stable.drain_apply, stable.silent]
  have whole := behind []
  rwa [start] at whole

end FrontDecoder
end SqlxSqlserver.Foundation

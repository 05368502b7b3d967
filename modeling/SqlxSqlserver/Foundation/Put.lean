import SqlxSqlserver.Foundation.LittleEndian

/-! Writers that append to a byte buffer and may stop with an error. What was appended before
the error stays in the buffer, so it is part of the outcome. -/

namespace SqlxSqlserver.Foundation

structure Put (ε α : Type) where
  written : Bytes
  result : Except ε α
  deriving DecidableEq

namespace Put
variable {ε α β : Type}

instance : Monad (Put ε) where
  pure value := ⟨[], .ok value⟩
  bind put next :=
    match put.result with
    | .ok value => ⟨put.written ++ (next value).written, (next value).result⟩
    | .error error => ⟨put.written, .error error⟩

def emit (bytes : Bytes) : Put ε Unit := ⟨bytes, .ok ()⟩

def fail (error : ε) : Put ε α := ⟨[], .error error⟩

def lift (result : Except ε α) : Put ε α := ⟨[], result⟩

/-- The writer appends exactly `bytes` and succeeds with `value`. -/
def Writes (put : Put ε α) (bytes : Bytes) (value : α) : Prop := put = ⟨bytes, .ok value⟩

theorem writes_pure (value : α) : Writes (pure value : Put ε α) [] value := rfl

theorem writes_emit (bytes : Bytes) : Writes (emit bytes : Put ε Unit) bytes () := rfl

theorem Writes.bind {put : Put ε α} {next : α → Put ε β} {first second : Bytes} {value : α}
    {result : β} (head : put.Writes first value) (tail : (next value).Writes second result) :
    (put >>= next).Writes (first ++ second) result := by
  rw [Writes] at head tail
  subst head
  change Put.mk (first ++ (next value).written) (next value).result = _
  rw [tail]

/-- The parts of a successful composition. -/
theorem Writes.of_bind {put : Put ε α} {next : α → Put ε β} {bytes : Bytes} {result : β}
    (whole : (put >>= next).Writes bytes result) : ∃ first value second,
      bytes = first ++ second ∧ put.Writes first value ∧ (next value).Writes second result := by
  rcases put with ⟨written, error | value⟩
  · cases whole
  · have parts := Put.mk.inj whole
    exact ⟨written, value, (next value).written, parts.1.symm, rfl, by rw [Writes, ← parts.2]⟩

theorem result_bind_iff {put : Put ε α} {next : α → Put ε β} {result : β} :
    (put >>= next).result = .ok result ↔
      ∃ value, put.result = .ok value ∧ (next value).result = .ok result := by
  rcases put with ⟨written, error | value⟩
  · exact iff_of_false (fun same => nomatch same) fun ⟨_, same, _⟩ => nomatch same
  · change (next value).result = .ok result ↔ _
    simp only [Except.ok.injEq, exists_eq_left']

@[simp] theorem result_emit (bytes : Bytes) : (emit bytes : Put ε Unit).result = .ok () := rfl

@[simp] theorem result_pure (value : α) : (pure value : Put ε α).result = .ok value := rfl

@[simp] theorem result_lift (result : Except ε α) : (lift result).result = result := rfl

@[simp] theorem result_fail (error : ε) : (fail error : Put ε α).result = .error error := rfl

theorem result_seq_iff {put : Put ε Unit} {next : Unit → Put ε β} {result : β} :
    (put >>= next).result = .ok result ↔ put.result = .ok () ∧ (next ()).result = .ok result := by
  rw [result_bind_iff]
  exact ⟨fun ⟨_, parts⟩ => parts, fun parts => ⟨(), parts⟩⟩

theorem writes_iff {put : Put ε α} {bytes : Bytes} {value : α} :
    put.Writes bytes value ↔ put.written = bytes ∧ put.result = .ok value := by
  rcases put with ⟨written, result⟩
  exact ⟨Put.mk.inj, fun parts => congrArg₂ Put.mk parts.1 parts.2⟩

end Put
end SqlxSqlserver.Foundation

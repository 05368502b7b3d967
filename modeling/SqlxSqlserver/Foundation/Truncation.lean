import SqlxSqlserver.Foundation.Reader

/-! Readers over input that has been cut off. A reader starves on a format when every proper
beginning of it ends in the error for a missing byte, and never in a value. -/

namespace SqlxSqlserver.Foundation.Reader
variable {ε α β σ : Type} {eof : ε} {bytes : Bytes}

/-- Every proper beginning of `bytes` stops the reader with `eof`. -/
def Starves (eof : ε) (reader : Reader ε α) (bytes : Bytes) : Prop :=
  ∀ front missing, bytes = front ++ missing → missing ≠ [] → reader front = .err eof

theorem starves_take (bytes : Bytes) : Starves eof (take eof bytes.length) bytes := by
  intro front missing split some
  have length := List.length_pos_iff.mpr some
  have short : ¬bytes.length ≤ front.length := by
    rw [split, List.length_append]
    omega
  exact if_neg short

/-- A cut through two parts leaves the first one whole, or cuts it. -/
theorem cut_append {first second front missing : Bytes} (split : first ++ second = front ++ missing) :
    (∃ more, front = first ++ more ∧ second = more ++ missing) ∨
      ∃ cut, cut ≠ [] ∧ first = front ++ cut := by
  rcases List.append_eq_append_iff.mp split with ⟨more, reached, left⟩ | ⟨cut, parts, left⟩
  · exact .inl ⟨more, reached, left⟩
  · by_cases whole : cut = []
    · subst whole
      rw [List.append_nil] at parts
      rw [List.nil_append] at left
      exact .inl ⟨[], by rw [List.append_nil, parts], left.symm⟩
    · exact .inr ⟨cut, whole, parts⟩

theorem Starves.bind {reader : Reader ε α} {next : α → Reader ε β} {first second : Bytes} {value : α}
    (head : Starves eof reader first) (reads : Reads reader first value)
    (tail : Starves eof (next value) second) : Starves eof (reader >>= next) (first ++ second) := by
  intro front missing split some
  rcases cut_append split with ⟨more, reached, left⟩ | ⟨cut, inside, parts⟩
  · rw [reached, bind_ok (reads more)]
    exact tail more missing left some
  · rw [bind_apply, head front cut parts inside]

theorem Starves.bind_head {reader : Reader ε α} (head : Starves eof reader bytes)
    (next : α → Reader ε β) : Starves eof (reader >>= next) bytes := by
  intro front missing split some
  rw [bind_apply, head front missing split some]

theorem starves_le (eof : ε) (width value : Nat) :
    Starves eof (le eof width) (leBytes width value) := by
  have digits : Starves eof (take eof (leBytes width value).length) (leBytes width value) :=
    starves_take _
  rw [leBytes_length] at digits
  exact digits.bind_head _

section loop
variable {body : σ → Reader ε (σ ⊕ α)} {state next : σ} {first more : Bytes}

theorem Starves.loop_break (progress : Progress body) (last : Starves eof (body state) bytes) :
    Starves eof (loop body state) bytes := by
  intro front missing split some
  rw [loop_apply progress, last front missing split some]

theorem Starves.loop_step (progress : Progress body) (round : Starves eof (body state) first)
    (reads : Reads (body state) first (.inl next)) (others : Starves eof (loop body next) more) :
    Starves eof (loop body state) (first ++ more) := by
  intro front missing split some
  rcases cut_append split with ⟨tail, reached, left⟩ | ⟨cut, inside, parts⟩
  · rw [loop_apply progress, reached, reads tail]
    exact others tail missing left some
  · rw [loop_apply progress, round front cut parts inside]

end loop
end SqlxSqlserver.Foundation.Reader

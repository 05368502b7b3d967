import SqlxSqlserver.Foundation.Async

/-! One computation simulates another over related states. A model that drops the computation is
silent about it; wherever else the model ends, the computation ends in the same way. -/

namespace SqlxSqlserver.Foundation.Async
variable {ε σ τ α β γ : Type}

def SimulatesAt (R : τ → σ → Prop) (model : Async ε τ α) (action : Async ε σ α) (ideal : τ)
    (state : σ) : Prop :=
  (model ideal).1 = .dropped ∨
    ∃ after, action state = ((model ideal).1, after) ∧ R (model ideal).2 after

/-- From related states the computation ends as the model does, in related states. -/
def Simulates (R : τ → σ → Prop) (model : Async ε τ α) (action : Async ε σ α) : Prop :=
  ∀ ideal state, R ideal state → SimulatesAt R model action ideal state

section rules
variable {R : τ → σ → Prop} {ideal : τ} {state : σ}

theorem SimulatesAt.bind {model : Async ε τ α} {action : Async ε σ α} {modelNext : α → Async ε τ β}
    {next : α → Async ε σ β} (head : SimulatesAt R model action ideal state)
    (tail : ∀ value, Simulates R (modelNext value) (next value)) :
    SimulatesAt R (model >>= modelNext) (action >>= next) ideal state := by
  unfold SimulatesAt at head ⊢
  rw [bind_apply, bind_apply]
  generalize model ideal = outcome at head ⊢
  obtain ⟨completion, last⟩ := outcome
  rcases head with silent | ⟨after, same, related⟩
  · left
    cases silent
    rfl
  · rw [same]
    cases completion with
    | ok value => exact tail value last after related
    | err error => exact .inr ⟨after, rfl, related⟩
    | dropped => exact .inl rfl
    | panic message => exact .inr ⟨after, rfl, related⟩

theorem Simulates.bind {model : Async ε τ α} {action : Async ε σ α} {modelNext : α → Async ε τ β}
    {next : α → Async ε σ β} (head : Simulates R model action)
    (tail : ∀ value, Simulates R (modelNext value) (next value)) :
    Simulates R (model >>= modelNext) (action >>= next) :=
  fun ideal state related => (head ideal state related).bind tail

theorem simulates_pure (value : α) :
    Simulates R (pure value : Async ε τ α) (pure value) :=
  fun _ state related => .inr ⟨state, rfl, related⟩

/-- What the model has no counterpart for comes first. -/
theorem Simulates.behind {model : Async ε τ β} {action : Async ε σ α} {next : α → Async ε σ β}
    {value : α} (head : Simulates R (pure value) action) (tail : Simulates R model (next value)) :
    Simulates R model (action >>= next) := by
  intro ideal state related
  rcases head ideal state related with silent | ⟨after, same, held⟩
  · cases silent
  · unfold SimulatesAt
    rw [bind_ok same]
    exact tail ideal after held

theorem simulates_fail (error : ε) : Simulates R (fail error : Async ε τ α) (fail error) :=
  fun _ state related => .inr ⟨state, rfl, related⟩

theorem simulates_drop {action : Async ε σ α} : Simulates R (drop : Async ε τ α) action :=
  fun _ _ _ => .inl rfl

theorem simulates_ofOutcome (outcome : Outcome ε α) :
    Simulates R (ofOutcome outcome : Async ε τ α) (ofOutcome outcome) := by
  intro ideal state related
  cases outcome with
  | ok value => exact .inr ⟨state, rfl, related⟩
  | err error => exact .inr ⟨state, rfl, related⟩
  | panic message => exact .inr ⟨state, rfl, related⟩

theorem simulates_modify {modelUpdate : τ → τ} {update : σ → σ}
    (kept : ∀ ideal state, R ideal state → R (modelUpdate ideal) (update state)) :
    Simulates R (modify modelUpdate : Async ε τ Unit) (modify update) :=
  fun ideal state related => .inr ⟨update state, rfl, kept ideal state related⟩

theorem simulates_inspect {modelNext : τ → Async ε τ α} {next : σ → Async ε σ α}
    (seen : ∀ ideal state, R ideal state → Simulates R (modelNext ideal) (next state)) :
    Simulates R (get >>= modelNext) (get >>= next) :=
  fun ideal state related => seen ideal state related ideal state related

end rules

section sequences

def each (action : γ → Async ε σ α) : List γ → σ → List (Completion ε α) × σ
  | [], state => ([], state)
  | item :: items, state =>
    let later := each action items (action item state).2
    ((action item state).1 :: later.1, later.2)

theorem Simulates.each {R : τ → σ → Prop} {model : γ → Async ε τ α} {action : γ → Async ε σ α}
    (one : ∀ item, Simulates R (model item) (action item)) (items : List γ) {ideal : τ} {state : σ}
    (related : R ideal state)
    (spoken : ∀ completion ∈ (each model items ideal).1, completion ≠ .dropped) :
    (each action items state).1 = (each model items ideal).1 ∧
      R (each model items ideal).2 (each action items state).2 := by
  induction items generalizing ideal state with
  | nil => exact ⟨rfl, related⟩
  | cons item items ih =>
    obtain ⟨first, others⟩ := List.forall_mem_cons.mp spoken
    rcases one item ideal state related with silent | ⟨after, same, held⟩
    · exact absurd silent first
    · have ⟨ends, last⟩ := ih held others
      simp only [Async.each, same, ends]
      exact ⟨trivial, last⟩

end sequences

section undropped
variable {P : σ → Prop}

def Speaks (P : σ → Prop) (action : Async ε σ α) : Prop :=
  ∀ state, P state → (action state).1 ≠ .dropped ∧ P (action state).2

theorem Speaks.bind {action : Async ε σ α} {next : α → Async ε σ β} (head : Speaks P action)
    (tail : ∀ value, Speaks P (next value)) : Speaks P (action >>= next) := by
  intro state holds
  obtain ⟨spoken, kept⟩ := head state holds
  rw [bind_apply]
  generalize action state = outcome at spoken kept ⊢
  obtain ⟨completion, after⟩ := outcome
  cases completion with
  | ok value => exact tail value after kept
  | err error => exact ⟨by simp, kept⟩
  | dropped => exact absurd rfl spoken
  | panic message => exact ⟨by simp, kept⟩

theorem speaks_pure (value : α) : Speaks P (pure value : Async ε σ α) :=
  fun _ holds => ⟨by simp, holds⟩

theorem speaks_fail (error : ε) : Speaks P (fail error : Async ε σ α) :=
  fun _ holds => ⟨by simp [fail], holds⟩

theorem speaks_ofOutcome (outcome : Outcome ε α) : Speaks P (ofOutcome outcome : Async ε σ α) := by
  intro state holds
  cases outcome with
  | ok value => exact ⟨by simp [ofOutcome], holds⟩
  | err error => exact ⟨by simp [ofOutcome, fail], holds⟩
  | panic message => exact ⟨by simp [ofOutcome, panic], holds⟩

theorem speaks_inspect {next : σ → Async ε σ α} (seen : ∀ state, P state → Speaks P (next state)) :
    Speaks P (get >>= next) := fun state holds => seen state holds state holds

/-- From a state with `P`, a value leads to `Q` and every other end to `E`, except that nothing is
known where the computation is dropped. -/
def Undropped (P : σ → Prop) (action : Async ε σ α) (Q : α → σ → Prop) (E : σ → Prop) : Prop :=
  ∀ state, P state → match action state with
    | (.ok value, after) => Q value after
    | (.dropped, _) => True
    | (_, after) => E after

theorem Undropped.bind {action : Async ε σ α} {next : α → Async ε σ β} {R : α → σ → Prop}
    {Q : β → σ → Prop} {E : σ → Prop} (head : Undropped P action R E)
    (tail : ∀ value, Undropped (R value) (next value) Q E) : Undropped P (action >>= next) Q E := by
  intro state holds
  have middle := head state holds
  rw [bind_apply]
  generalize action state = outcome at middle ⊢
  obtain ⟨completion, after⟩ := outcome
  cases completion with
  | ok value => exact tail value after middle
  | err error => exact middle
  | dropped => trivial
  | panic message => exact middle

theorem Undropped.weaken {action : Async ε σ α} {Q Q' : α → σ → Prop} {E E' : σ → Prop}
    (inner : Undropped P action Q E) (post : ∀ value state, Q value state → Q' value state)
    (exit : ∀ state, E state → E' state) : Undropped P action Q' E' := by
  intro state holds
  have result := inner state holds
  generalize action state = outcome at result ⊢
  obtain ⟨completion, after⟩ := outcome
  cases completion with
  | ok value => exact post value after result
  | err error => exact exit after result
  | dropped => trivial
  | panic message => exact exit after result

theorem Undropped.each {action : γ → Async ε σ α}
    (one : ∀ item, Undropped P (action item) (fun _ => P) P) (items : List γ) {state : σ}
    (holds : P state) (spoken : ∀ completion ∈ (Async.each action items state).1, completion ≠ .dropped) :
    P (Async.each action items state).2 := by
  induction items generalizing state with
  | nil => exact holds
  | cons item items ih =>
    obtain ⟨first, others⟩ := List.forall_mem_cons.mp spoken
    have result := one item state holds
    have kept : P (action item state).2 := by
      generalize action item state = outcome at first result ⊢
      obtain ⟨completion, after⟩ := outcome
      cases completion with
      | ok value => exact result
      | err error => exact result
      | dropped => exact absurd rfl first
      | panic message => exact result
    exact ih kept others

end undropped
end SqlxSqlserver.Foundation.Async

import SqlxSqlserver.Foundation.Reader

/-! Cancellable computations over a state. One ends with a value or an error, is dropped at an
await, or panics; whatever it did to the state before stays done. -/

namespace SqlxSqlserver.Foundation

inductive Completion (ε α : Type) where
  | ok (value : α)
  | err (error : ε)
  | dropped
  | panic (message : String)
  deriving DecidableEq, Repr

def Async (ε σ α : Type) : Type := σ → Completion ε α × σ

namespace Async
variable {ε ε' σ α β : Type}

instance : Monad (Async ε σ) where
  pure value := fun state => (.ok value, state)
  bind action next := fun state =>
    match action state with
    | (.ok value, after) => next value after
    | (.err error, after) => (.err error, after)
    | (.dropped, after) => (.dropped, after)
    | (.panic message, after) => (.panic message, after)

def fail (error : ε) : Async ε σ α := fun state => (.err error, state)

def drop : Async ε σ α := fun state => (.dropped, state)

def panic (message : String) : Async ε σ α := fun state => (.panic message, state)

def get : Async ε σ σ := fun state => (.ok state, state)

def modify (update : σ → σ) : Async ε σ Unit := fun state => (.ok (), update state)

def mapErr (convert : ε → ε') (action : Async ε σ α) : Async ε' σ α := fun state =>
  match action state with
  | (.ok value, after) => (.ok value, after)
  | (.err error, after) => (.err (convert error), after)
  | (.dropped, after) => (.dropped, after)
  | (.panic message, after) => (.panic message, after)

def settle (action : Async ε σ α) : Async ε' σ (Except ε α) := fun state =>
  match action state with
  | (.ok value, after) => (.ok (.ok value), after)
  | (.err error, after) => (.ok (.error error), after)
  | (.dropped, after) => (.dropped, after)
  | (.panic message, after) => (.panic message, after)

/-- Every end but a value is followed by a change of the state: what the computation holds is
dropped with it. -/
def guarded (cleanup : σ → σ) (action : Async ε σ α) : Async ε σ α := fun state =>
  match action state with
  | (.ok value, after) => (.ok value, after)
  | (completion, after) => (completion, cleanup after)

def zoom {τ : Type} (view : τ → σ) (put : σ → τ → τ) (action : Async ε σ α) : Async ε τ α :=
  fun state => ((action (view state)).1, put (action (view state)).2 state)

def ofOutcome : Outcome ε α → Async ε σ α
  | .ok value => pure value
  | .err error => fail error
  | .panic message => panic message

theorem bind_apply (action : Async ε σ α) (next : α → Async ε σ β) (state : σ) :
    (action >>= next) state = match action state with
      | (.ok value, after) => next value after
      | (.err error, after) => (.err error, after)
      | (.dropped, after) => (.dropped, after)
      | (.panic message, after) => (.panic message, after) := rfl

@[simp] theorem pure_apply (value : α) (state : σ) :
    (pure value : Async ε σ α) state = (.ok value, state) := rfl

theorem bind_ok {action : Async ε σ α} {state after : σ} {value : α}
    (done : action state = (.ok value, after)) (next : α → Async ε σ β) :
    (action >>= next) state = next value after := by
  rw [bind_apply, done]

theorem settle_ok {action : Async ε σ α} {state after : σ} {value : α}
    (done : action state = (.ok value, after)) :
    (action.settle : Async ε' σ (Except ε α)) state = (.ok (.ok value), after) := by
  rw [settle, done]

theorem settle_err {action : Async ε σ α} {state after : σ} {error : ε}
    (failed : action state = (.err error, after)) :
    (action.settle : Async ε' σ (Except ε α)) state = (.ok (.error error), after) := by
  rw [settle, failed]

theorem bind_assoc {γ : Type} (action : Async ε σ α) (next : α → Async ε σ β)
    (last : β → Async ε σ γ) :
    (action >>= next) >>= last = action >>= fun value => next value >>= last := by
  funext state
  simp only [bind_apply]
  rcases action state with ⟨completion, after⟩
  cases completion <;> rfl

theorem bind_eq_ok_iff {action : Async ε σ α} {next : α → Async ε σ β} {state last : σ} {value : β} :
    (action >>= next) state = (.ok value, last) ↔
      ∃ middle after, action state = (.ok middle, after) ∧ next middle after = (.ok value, last) := by
  rw [bind_apply]
  generalize action state = outcome
  obtain ⟨completion, after⟩ := outcome
  cases completion <;> simp

theorem ofOutcome_ok_iff {outcome : Outcome ε α} {state after : σ} {value : α} :
    (ofOutcome outcome : Async ε σ α) state = (.ok value, after) ↔ outcome = .ok value ∧ after = state := by
  cases outcome <;> simp [ofOutcome, fail, panic, eq_comm]

theorem exists_of_fst {result : Completion ε α × σ} {completion : Completion ε α}
    (ended : result.1 = completion) : ∃ after, result = (completion, after) := by
  cases result with
  | mk found after => exact ⟨after, congrArg (·, after) ended⟩

/-- From a state with `P`, a value leads to `Q` and every other end to `E`. -/
def Triple (P : σ → Prop) (action : Async ε σ α) (Q : α → σ → Prop) (E : σ → Prop) : Prop :=
  ∀ state, P state → match action state with
    | (.ok value, after) => Q value after
    | (_, after) => E after

/-- `P` survives the computation, however it ends. -/
def Keeps (P : σ → Prop) (action : Async ε σ α) : Prop := Triple P action (fun _ => P) P

section rules
variable {P P' E E' : σ → Prop} {Q Q' : α → σ → Prop}

theorem Triple.ok {action : Async ε σ α} (triple : Triple P action Q E) {state last : σ} {value : α}
    (holds : P state) (done : action state = (.ok value, last)) : Q value last := by
  have result := triple state holds
  rwa [done] at result

/-- What holds at every end holds behind the computation. -/
theorem Triple.after {action : Async ε σ α} (triple : Triple P action (fun _ => E) E) {state : σ}
    (holds : P state) : E (action state).2 := by
  have result := triple state holds
  split at result <;> rename_i outcome <;> rw [outcome] <;> exact result

theorem Triple.weaken {action : Async ε σ α} (triple : Triple P action Q E)
    (pre : ∀ state, P' state → P state) (post : ∀ value state, Q value state → Q' value state)
    (exit : ∀ state, E state → E' state) : Triple P' action Q' E' := by
  intro state holds
  have result := triple state (pre state holds)
  split at result
  · exact post _ _ result
  · exact exit _ result

theorem Triple.pre {action : Async ε σ α} (triple : Triple P action Q E)
    (pre : ∀ state, P' state → P state) : Triple P' action Q E :=
  triple.weaken pre (fun _ _ holds => holds) fun _ holds => holds

theorem Triple.post {action : Async ε σ α} (triple : Triple P action Q E)
    (post : ∀ value state, Q value state → Q' value state) : Triple P action Q' E :=
  triple.weaken (fun _ holds => holds) post fun _ holds => holds

theorem Triple.exits {action : Async ε σ α} (triple : Triple P action Q E)
    (exit : ∀ state, E state → E' state) : Triple P action Q E' :=
  triple.weaken (fun _ holds => holds) (fun _ _ holds => holds) exit

theorem Triple.bind {R : α → σ → Prop} {S : β → σ → Prop} {action : Async ε σ α}
    {next : α → Async ε σ β} (head : Triple P action R E)
    (tail : ∀ value, Triple (R value) (next value) S E) : Triple P (action >>= next) S E := by
  intro state holds
  have middle := head state holds
  rw [bind_apply]
  cases outcome : action state with
  | mk completion after =>
    rw [outcome] at middle
    cases completion with
    | ok value => exact tail value after middle
    | err error => exact middle
    | dropped => exact middle
    | panic message => exact middle

theorem triple_look : Triple P (get : Async ε σ σ) (fun _ => P) E := fun _ holds => holds

theorem triple_inspect {next : σ → Async ε σ α}
    (known : ∀ state, P state → Triple P (next state) Q E) : Triple P (get >>= next) Q E :=
  fun state holds => known state holds state holds

theorem triple_ofOutcome (outcome : Outcome ε α) (exit : ∀ state, P state → E state) :
    Triple P (ofOutcome outcome : Async ε σ α) (fun value state => outcome = .ok value ∧ P state) E := by
  intro state holds
  cases outcome with
  | ok value => exact ⟨rfl, holds⟩
  | err error => exact exit state holds
  | panic message => exact exit state holds

theorem triple_known {fact : Prop} {action : Async ε σ α} (inner : fact → Triple P action Q E) :
    Triple (fun state => fact ∧ P state) action Q E :=
  fun state both => inner both.1 state both.2

theorem triple_exists {ι : Type} {P : ι → σ → Prop} {action : Async ε σ α}
    (inner : ∀ index, Triple (P index) action Q E) :
    Triple (fun state => ∃ index, P index state) action Q E :=
  fun state ⟨index, holds⟩ => inner index state holds

theorem Triple.mapErr {action : Async ε σ α} (inner : Triple P action Q E) (convert : ε → ε') :
    Triple P (action.mapErr convert) Q E := by
  intro state holds
  have result := inner state holds
  unfold Async.mapErr
  cases outcome : action state with
  | mk completion last =>
    rw [outcome] at result
    cases completion <;> exact result

theorem Triple.guarded {cleanup : σ → σ} {F : σ → Prop} {action : Async ε σ α}
    (inner : Triple P action Q F) (cleans : ∀ state, F state → E (cleanup state)) :
    Triple P (action.guarded cleanup) Q E := by
  intro state holds
  have result := inner state holds
  unfold Async.guarded
  cases outcome : action state with
  | mk completion last =>
    rw [outcome] at result
    cases completion with
    | ok value => exact result
    | err error => exact cleans last result
    | dropped => exact cleans last result
    | panic message => exact cleans last result

/-- On a part of the state a computation does what it does on that part. -/
theorem triple_zoom {τ : Type} {view : τ → σ} {put : σ → τ → τ} {action : Async ε σ α}
    {P E : τ → Prop} {Q : α → τ → Prop}
    (inner : ∀ state, P state → action.Triple (fun part => part = view state)
      (fun value part => Q value (put part state)) (fun part => E (put part state))) :
    (action.zoom view put).Triple P Q E := by
  intro state holds
  have result := inner state holds (view state) rfl
  unfold zoom
  cases outcome : action (view state) with
  | mk completion last =>
    rw [outcome] at result
    cases completion <;> exact result

theorem keeps_zoom {τ : Type} {view : τ → σ} {put : σ → τ → τ} (action : Async ε σ α)
    {P : τ → Prop} (kept : ∀ part state, P state → P (put part state)) :
    (action.zoom view put).Keeps P := by
  intro state holds
  unfold zoom
  cases (action (view state)).1 <;> exact kept _ _ holds

theorem zoom_ok {τ : Type} {view : τ → σ} {put : σ → τ → τ} {action : Async ε σ α} {state : τ}
    {part : σ} {value : α} (done : action (view state) = (.ok value, part)) :
    action.zoom view put state = (.ok value, put part state) := by
  rw [zoom, done]

theorem Keeps.after {action : Async ε σ α} (keeps : Keeps P action) {state : σ} (holds : P state) :
    P (action state).2 := Triple.after keeps holds

theorem Keeps.bind {action : Async ε σ α} {next : α → Async ε σ β} (head : Keeps P action)
    (tail : ∀ value, Keeps P (next value)) : Keeps P (action >>= next) := Triple.bind head tail

theorem keeps_pure (value : α) : Keeps P (pure value : Async ε σ α) := fun _ holds => holds

theorem keeps_fail (error : ε) : Keeps P (fail error : Async ε σ α) := fun _ holds => holds

theorem keeps_drop : Keeps P (drop : Async ε σ α) := fun _ holds => holds

theorem keeps_panic (message : String) : Keeps P (panic message : Async ε σ α) :=
  fun _ holds => holds

theorem keeps_modify {update : σ → σ} (keeps : ∀ state, P state → P (update state)) :
    Keeps P (modify update : Async ε σ Unit) := keeps

theorem keeps_get : Keeps P (get : Async ε σ σ) := fun _ holds => holds

theorem keeps_ofOutcome (outcome : Outcome ε α) : Keeps P (ofOutcome outcome : Async ε σ α) :=
  (triple_ofOutcome outcome fun _ holds => holds).weaken (fun _ holds => holds)
    (fun _ _ both => both.2) fun _ holds => holds

end rules
end Async
end SqlxSqlserver.Foundation

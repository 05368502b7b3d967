import Mathlib.Data.List.Basic

/-! Machines that allow events: from a phase an event leads to a phase. A list of events is a path
when each of them is allowed behind the ones before it. -/

namespace SqlxSqlserver.Foundation

structure Machine (φ ε : Type) where
  step : φ → ε → φ → Prop

namespace Machine
variable {φ ε : Type} {machine : Machine φ ε}

inductive Path (machine : Machine φ ε) (first : φ) : List ε → φ → Prop where
  | nil : Path machine first [] first
  | snoc {events : List ε} {event : ε} {middle last : φ} (front : Path machine first events middle)
      (step : machine.step middle event last) : Path machine first (events ++ [event]) last

theorem Path.cons {first second last : φ} {event : ε} {events : List ε}
    (step : machine.step first event second) (path : Path machine second events last) :
    Path machine first (event :: events) last := by
  induction path with
  | nil => exact (Path.nil.snoc step : Path machine first ([] ++ [event]) second)
  | snoc _ next ih => exact .snoc ih next

theorem Path.split {first last : φ} {before after : List ε}
    (path : Path machine first (before ++ after) last) :
    ∃ middle, Path machine first before middle ∧ Path machine middle after last := by
  generalize whole : before ++ after = events at path
  induction path generalizing after with
  | nil =>
    obtain ⟨rfl, rfl⟩ := List.append_eq_nil_iff.mp whole
    exact ⟨first, .nil, .nil⟩
  | @snoc events event middle last front step ih =>
    rcases List.eq_nil_or_concat after with rfl | ⟨most, final, rfl⟩
    · rw [List.append_nil] at whole
      exact ⟨last, whole ▸ .snoc front step, .nil⟩
    · rw [List.concat_eq_append, ← List.append_assoc] at whole
      obtain ⟨rfl, same⟩ := List.append_inj' whole rfl
      obtain ⟨found, one, two⟩ := ih rfl
      cases same
      rw [List.concat_eq_append]
      exact ⟨found, one, .snoc two step⟩

theorem path_nil_iff {first last : φ} : Path machine first [] last ↔ last = first := by
  constructor
  · intro path
    generalize none : ([] : List ε) = events at path
    cases path with
    | nil => rfl
    | snoc => exact absurd none.symm (List.append_ne_nil_of_right_ne_nil _ (List.cons_ne_nil _ _))
  · rintro rfl
    exact .nil

theorem path_snoc_iff {first last : φ} {event : ε} {events : List ε} :
    Path machine first (events ++ [event]) last ↔
      ∃ middle, Path machine first events middle ∧ machine.step middle event last := by
  constructor
  · intro path
    generalize whole : events ++ [event] = found at path
    cases path with
    | nil => exact absurd whole (List.append_ne_nil_of_right_ne_nil _ (List.cons_ne_nil _ _))
    | @snoc front last middle _ before step =>
      obtain ⟨rfl, same⟩ := List.append_inj' whole rfl
      cases same
      exact ⟨middle, before, step⟩
  · rintro ⟨middle, front, step⟩
    exact .snoc front step

/-- The last event of a path, when there is one. -/
theorem path_iff {first last : φ} {events : List ε} : Path machine first events last ↔
    events = [] ∧ last = first ∨ ∃ front event middle, events = front ++ [event] ∧
      Path machine first front middle ∧ machine.step middle event last := by
  constructor
  · intro path
    cases path with
    | nil => exact .inl ⟨rfl, rfl⟩
    | snoc front step => exact .inr ⟨_, _, _, rfl, front, step⟩
  · rintro (⟨rfl, rfl⟩ | ⟨front, event, middle, rfl, path, step⟩)
    · exact .nil
    · exact .snoc path step

theorem path_cons_iff {first last : φ} {event : ε} {events : List ε} :
    Path machine first (event :: events) last ↔
      ∃ second, machine.step first event second ∧ Path machine second events last := by
  constructor
  · intro path
    obtain ⟨second, one, rest⟩ := Path.split (show Path machine first ([event] ++ events) last from path)
    obtain ⟨middle, front, step⟩ := path_snoc_iff.mp (show Path machine first ([] ++ [event]) second from one)
    obtain rfl := path_nil_iff.mp front
    exact ⟨second, step, rest⟩
  · rintro ⟨second, step, path⟩
    exact .cons step path

end Machine
end SqlxSqlserver.Foundation

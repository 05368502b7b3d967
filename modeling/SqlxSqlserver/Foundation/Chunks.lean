import Mathlib.Data.List.Basic
import Mathlib.Data.Nat.Init

/-! Cutting a list into blocks of one size, the last block taking what is left. -/

namespace SqlxSqlserver.Foundation

/-- The consecutive blocks of `size` elements; the closed form keeps it computable. -/
def chunks {α : Type} (size : Nat) (items : List α) : List (List α) :=
  (List.range ((items.length + size - 1) / size)).map fun i => (items.drop (i * size)).take size

section
variable {α : Type} {size : Nat}

theorem chunks_length (items : List α) :
    (chunks size items).length = (items.length + size - 1) / size := by
  simp [chunks]

@[simp] theorem chunks_nil (positive : 0 < size) : chunks size ([] : List α) = [] := by
  have none : (0 + size - 1) / size = 0 := Nat.div_eq_of_lt (by omega)
  simp only [chunks, List.length_nil, none, List.range_zero, List.map_nil]

theorem chunks_step (positive : 0 < size) (items : List α) (nonempty : items ≠ []) :
    chunks size items = items.take size :: chunks size (items.drop size) := by
  have length : 0 < items.length := List.length_pos_iff.mpr nonempty
  have count : (items.length + size - 1) / size = (items.length - size + size - 1) / size + 1 := by
    by_cases short : items.length ≤ size
    · have one : (items.length + size - 1) / size = 1 := by
        rw [Nat.div_eq_iff positive]; omega
      have zero : (items.length - size + size - 1) / size = 0 := Nat.div_eq_of_lt (by omega)
      omega
    · have split : items.length + size - 1 = (items.length - size + size - 1) + size := by omega
      rw [split, Nat.add_div_right _ positive]
  simp only [chunks, count, List.range_succ_eq_map, List.map_cons, List.map_map, Nat.zero_mul,
    List.drop_zero, List.length_drop, List.cons.injEq, true_and]
  apply List.map_congr_left
  intro i _
  simp only [Function.comp_apply, Nat.succ_eq_add_one, Nat.add_mul, Nat.one_mul, List.drop_drop]
  rw [Nat.add_comm size]

/-- Induction along the blocks of a list. -/
theorem chunks_induction (positive : 0 < size) {motive : List α → Prop} (nil : motive [])
    (step : ∀ items, items ≠ [] → motive (items.drop size) → motive items) (items : List α) :
    motive items := by
  induction length : items.length using Nat.strong_induction_on generalizing items with
  | _ n ih =>
    by_cases empty : items = []
    · exact empty ▸ nil
    · have shorter : (items.drop size).length < n := by
        have := List.length_pos_iff.mpr empty
        rw [List.length_drop]
        omega
      exact step items empty (ih _ shorter _ rfl)

theorem chunks_flatten (positive : 0 < size) (items : List α) :
    (chunks size items).flatten = items := by
  induction items using chunks_induction positive with
  | nil => simp [positive]
  | step items nonempty ih =>
    rw [chunks_step positive items nonempty, List.flatten_cons, ih, List.take_append_drop]

theorem chunk_length_le {items block : List α} (member : block ∈ chunks size items) :
    block.length ≤ size := by
  obtain ⟨i, _, rfl⟩ := List.mem_map.mp member
  rw [List.length_take]
  exact Nat.min_le_left _ _

theorem chunk_ne_nil (positive : 0 < size) {items block : List α}
    (member : block ∈ chunks size items) : block ≠ [] := by
  induction items using chunks_induction positive with
  | nil => simp [positive] at member
  | step items nonempty ih =>
    rw [chunks_step positive items nonempty] at member
    rcases List.mem_cons.mp member with rfl | later
    · simp [nonempty, Nat.pos_iff_ne_zero.mp positive]
    · exact ih later

theorem chunks_ne_nil (positive : 0 < size) {items : List α} (nonempty : items ≠ []) :
    chunks size items ≠ [] := by
  rw [chunks_step positive items nonempty]
  exact List.cons_ne_nil _ _

end
end SqlxSqlserver.Foundation

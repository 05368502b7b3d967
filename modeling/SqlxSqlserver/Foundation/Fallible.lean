import Mathlib.Algebra.Order.Ring.Nat
import Mathlib.Data.List.Basic
import Mathlib.Data.List.Forall2
import Mathlib.Data.List.Induction

/-! Computations that fail with an error, and the checked arithmetic they are made of. A record is
filled in from a list of items: each item is read as a setting, which is put over what the record holds,
and the first item that cannot be read ends it. -/

namespace SqlxSqlserver.Foundation
variable {ε α β : Type}

/-- A checked operation or conversion: the exact value when it is at most the limit. -/
def checked (error : ε) (limit value : Nat) : Except ε Nat :=
  if value ≤ limit then .ok value else .error error

theorem bind_ok_iff {head : Except ε α} {next : α → Except ε β} {result : β} :
    (head >>= next) = .ok result ↔ ∃ value, head = .ok value ∧ next value = .ok result := by
  cases head with
  | ok value =>
    change next value = .ok result ↔ _
    simp only [Except.ok.injEq, exists_eq_left']
  | error error => exact iff_of_false (fun same => nomatch same) fun ⟨_, same, _⟩ => nomatch same

theorem checked_ok_iff {error : ε} {limit value found : Nat} :
    checked error limit value = .ok found ↔ value ≤ limit ∧ found = value := by
  unfold checked
  by_cases fits : value ≤ limit
  · rw [if_pos fits, Except.ok.injEq, eq_comm]
    simp only [fits, true_and]
  · rw [if_neg fits]
    exact iff_of_false (fun same => nomatch same) fun both => fits both.1

theorem foldlM_checked_ok_iff (error : ε) {limit : Nat} (size : α → Nat) (items : List α)
    {start total : Nat} (fits : start ≤ limit) :
    items.foldlM (fun sum item => checked error limit (sum + size item)) start = .ok total ↔
      start + (items.map size).sum ≤ limit ∧ total = start + (items.map size).sum := by
  induction items generalizing start with
  | nil =>
    change Except.ok start = .ok total ↔ _
    simp only [Except.ok.injEq, List.map_nil, List.sum_nil, Nat.add_zero, fits, true_and, eq_comm]
  | cons item items ih =>
    rw [List.foldlM_cons, bind_ok_iff, List.map_cons, List.sum_cons, ← Nat.add_assoc]
    constructor
    · rintro ⟨sum, first, rest⟩
      obtain ⟨inside, same⟩ := checked_ok_iff.mp first
      rw [same] at rest
      exact (ih inside).mp rest
    · rintro ⟨inside, same⟩
      have first : start + size item ≤ limit := by omega
      exact ⟨_, checked_ok_iff.mpr ⟨first, rfl⟩, (ih first).mpr ⟨inside, same⟩⟩

theorem mapError_ok_iff {δ : Type} {convert : ε → δ} {result : Except ε α} {value : α} :
    result.mapError convert = .ok value ↔ result = .ok value := by
  cases result with
  | ok found => simp [Except.mapError]
  | error error => exact iff_of_false (by simp [Except.mapError]) (by simp)

theorem foldlM_keeps {σ : Type} {step : σ → α → Except ε σ} {items : List α} (view : σ → β)
    (keeps : ∀ state, ∀ item ∈ items, ∀ next, step state item = .ok next → view next = view state)
    {state last : σ} (folded : items.foldlM step state = .ok last) : view last = view state := by
  induction items generalizing state with
  | nil =>
    cases folded
    rfl
  | cons item items ih =>
    rw [List.foldlM_cons, bind_ok_iff] at folded
    obtain ⟨middle, first, rest⟩ := folded
    have later := ih (fun state other member => keeps state other (List.mem_cons_of_mem _ member)) rest
    exact later.trans (keeps state item List.mem_cons_self middle first)

section settings
variable {ι σ ρ : Type}

def FirstError (read : ι → Except ε α) (items : List ι) (error : ε) : Prop :=
  ∃ before item after, items = before ++ item :: after ∧
    (∀ other ∈ before, ∃ value, read other = .ok value) ∧ read item = .error error

def AllRead (read : ι → Except ε α) (items : List ι) (values : List α) : Prop :=
  List.Forall₂ (fun item value => read item = .ok value) items values

section reading
variable {read : ι → Except ε α} {item : ι} {items : List ι} {error : ε}

@[simp] theorem firstError_nil : ¬FirstError read [] error := by
  rintro ⟨before, item, after, split, _⟩
  exact List.append_ne_nil_of_right_ne_nil _ (List.cons_ne_nil _ _) split.symm

@[simp] theorem firstError_cons : FirstError read (item :: items) error ↔
    read item = .error error ∨ (∃ value, read item = .ok value) ∧ FirstError read items error := by
  constructor
  · rintro ⟨_ | ⟨first, before⟩, failing, after, split, fine, fails⟩
    · cases split
      exact .inl fails
    · cases split
      have both := List.forall_mem_cons.mp fine
      exact .inr ⟨both.1, before, failing, after, rfl, both.2, fails⟩
  · rintro (fails | ⟨first, before, failing, after, rfl, fine, fails⟩)
    · exact ⟨[], item, items, rfl, fun _ member => absurd member List.not_mem_nil, fails⟩
    · exact ⟨item :: before, failing, after, rfl, List.forall_mem_cons.mpr ⟨first, fine⟩, fails⟩

theorem firstError_append {more : List ι} : FirstError read (items ++ more) error ↔
    FirstError read items error ∨
      (∀ item ∈ items, ∃ value, read item = .ok value) ∧ FirstError read more error := by
  induction items with
  | nil => simp
  | cons item items ih =>
    rw [List.cons_append, firstError_cons, firstError_cons, ih, List.forall_mem_cons]
    tauto

theorem forall_not_firstError_iff :
    (∀ error, ¬FirstError read items error) ↔ ∀ item ∈ items, ∃ value, read item = .ok value := by
  induction items with
  | nil => simp
  | cons item items ih =>
    rw [List.forall_mem_cons, ← ih]
    cases here : read item with
    | error error =>
      refine iff_of_false (fun none => none error ?_) fun both => ?_
      · exact firstError_cons.mpr (.inl here)
      · exact absurd both.1.choose_spec (by simp)
    | ok value => simp [here]

end reading

section failing
variable {δ γ : Type} {read : ι → Except ε α} {convert : ε → δ} {items more : List ι}
  {head : Except δ β}

/-- A computation that fails as the first of these items that cannot be read does. -/
def FailsAs (read : ι → Except ε α) (convert : ε → δ) (items : List ι) (head : Except δ β) : Prop :=
  ∀ error, head = .error error ↔ ∃ source, error = convert source ∧ FirstError read items source

theorem failsAs_ok (value : β) : FailsAs read convert [] (.ok value : Except δ β) := by
  intro error
  simp

theorem FailsAs.reads (fails : FailsAs read convert items head) :
    (∃ value, head = .ok value) ↔ ∀ item ∈ items, ∃ value, read item = .ok value := by
  rw [← forall_not_firstError_iff]
  cases head with
  | ok value =>
    refine iff_of_true ⟨value, rfl⟩ fun error first => ?_
    have refused := (fails (convert error)).mpr ⟨error, rfl, first⟩
    cases refused
  | error error =>
    obtain ⟨source, _, first⟩ := (fails error).mp rfl
    exact iff_of_false (by simp) fun none => none source first

theorem FailsAs.bind {next : β → Except δ γ} (fails : FailsAs read convert items head)
    (tail : ∀ value, FailsAs read convert more (next value)) :
    FailsAs read convert (items ++ more) (head >>= next) := by
  intro error
  simp only [firstError_append, ← fails.reads]
  cases head with
  | error other =>
    change Except.error other = .error error ↔ _
    simpa using fails error
  | ok value =>
    have none : ∀ source, ¬FirstError read items source := by
      intro source first
      have refused := (fails (convert source)).mpr ⟨source, rfl, first⟩
      cases refused
    change next value = .error error ↔ _
    simpa [none] using tail value error

end failing

section filling
variable {read : ι → Except ε σ} {apply : ρ → σ → ρ}

theorem map_ok (convert : σ → ρ) (setting : σ) :
    (Except.ok setting : Except ε σ).map convert = .ok (convert setting) := rfl

theorem map_error (convert : σ → ρ) (error : ε) :
    (Except.error error : Except ε σ).map convert = .error error := rfl

theorem foldlM_settings_ok_iff (items : List ι) (record result : ρ) :
    items.foldlM (fun record item => (read item).map (apply record)) record = .ok result ↔
      ∃ settings, AllRead read items settings ∧ result = settings.foldl apply record := by
  induction items generalizing record with
  | nil => simp [AllRead, pure, Except.pure, eq_comm]
  | cons item items ih =>
    rw [List.foldlM_cons, bind_ok_iff]
    cases here : read item with
    | error error => simp [map_error, AllRead, List.forall₂_cons_left_iff, here]
    | ok setting =>
      simp only [map_ok, Except.ok.injEq, exists_eq_left', ih, AllRead, List.forall₂_cons_left_iff, here]
      constructor
      · rintro ⟨settings, each, same⟩
        exact ⟨setting :: settings, ⟨setting, settings, rfl, each, rfl⟩, same⟩
      · rintro ⟨_, ⟨_, settings, rfl, each, rfl⟩, same⟩
        exact ⟨settings, each, same⟩

theorem foldlM_settings_error_iff (items : List ι) (record : ρ) (error : ε) :
    items.foldlM (fun record item => (read item).map (apply record)) record = .error error ↔
      FirstError read items error := by
  induction items generalizing record with
  | nil => simp [pure, Except.pure]
  | cons item items ih =>
    rw [List.foldlM_cons, firstError_cons]
    cases here : read item with
    | error other =>
      change Except.error other = .error error ↔ _
      simp
    | ok setting =>
      change (items.foldlM _ (apply record setting) : Except ε ρ) = .error error ↔ _
      simp [ih]

end filling

/-- What the last of the settings says that says anything, and else what was there. -/
def lastOr (saying : σ → Option α) (settings : List σ) (before : α) : α :=
  ((settings.filterMap saying).getLast?).getD before

/-- What a record shows of its settings is what the last of them says that says anything. -/
theorem foldl_settings {apply : ρ → σ → ρ} {saying : σ → Option α} {view : ρ → α}
    (sets : ∀ record setting, view (apply record setting) = (saying setting).getD (view record))
    (settings : List σ) (record : ρ) :
    view (settings.foldl apply record) = lastOr saying settings (view record) := by
  induction settings using List.reverseRecOn with
  | nil => rfl
  | append_singleton settings setting ih =>
    rw [List.foldl_append, List.foldl_cons, List.foldl_nil, sets, ih, lastOr, lastOr,
      List.filterMap_append]
    cases said : saying setting <;> simp [said]

end settings

end SqlxSqlserver.Foundation

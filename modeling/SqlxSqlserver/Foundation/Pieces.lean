import SqlxSqlserver.Foundation.Reader

/-! Loops that read one piece of the input for every item of a list, and computations and
buffers that leave the input alone. -/

namespace SqlxSqlserver.Foundation.Reader
variable {ε α β γ : Type}

/-- `bytes` is one piece for each item, in order; `P` relates an item, its piece and its value. -/
inductive Pieces (P : α → Bytes → β → Prop) : List α → Bytes → List β → Prop where
  | nil : Pieces P [] [] []
  | cons {item : α} {items : List α} {piece bytes : Bytes} {value : β} {values : List β}
      (head : P item piece value) (tail : Pieces P items bytes values) :
      Pieces P (item :: items) (piece ++ bytes) (value :: values)

namespace Pieces
variable {P Q : α → Bytes → β → Prop} {items : List α} {bytes : Bytes} {values : List β}

theorem length (pieces : Pieces P items bytes values) : values.length = items.length := by
  induction pieces with
  | nil => rfl
  | cons _ _ ih => rw [List.length_cons, List.length_cons, ih]

theorem imp (weaker : ∀ item piece value, P item piece value → Q item piece value)
    (pieces : Pieces P items bytes values) : Pieces Q items bytes values := by
  induction pieces with
  | nil => exact .nil
  | cons head _ ih => exact .cons (weaker _ _ _ head) ih

theorem exists_of_forall₂ {R : α → β → Prop}
    (one : ∀ item value, R item value → ∃ piece, P item piece value)
    (each : List.Forall₂ R items values) : ∃ bytes, Pieces P items bytes values := by
  induction each with
  | nil => exact ⟨[], .nil⟩
  | @cons item value items values head _ ih =>
    obtain ⟨piece, first⟩ := one item value head
    obtain ⟨bytes, others⟩ := ih
    exact ⟨piece ++ bytes, .cons first others⟩

theorem map_eq {ofValue : β → γ} {ofItem : α → γ}
    (same : ∀ item piece value, P item piece value → ofValue value = ofItem item)
    (pieces : Pieces P items bytes values) : values.map ofValue = items.map ofItem := by
  induction pieces with
  | nil => rfl
  | cons head _ ih => rw [List.map_cons, List.map_cons, same _ _ _ head, ih]

end Pieces

section loop
variable {read : α → Reader ε β}

theorem local_mapM' (each : ∀ item, Local (read item)) (items : List α) :
    Local (items.mapM' read) := by
  induction items with
  | nil => exact local_pure _
  | cons item items ih => exact (each item).bind fun _ => ih.bind fun _ => local_pure _

/-- What a loop reads is what its rounds read, one after the other. -/
theorem reads_mapM'_iff (each : ∀ item, Local (read item)) (items : List α) (bytes : Bytes)
    (values : List β) : Reads (items.mapM' read) bytes values ↔
      Pieces (fun item => Reads (read item)) items bytes values := by
  induction items generalizing bytes values with
  | nil =>
    constructor
    · intro reads
      have outcome : (pure [] : Reader ε (List β)) (bytes ++ []) = .ok (values, []) := reads []
      rw [pure_apply, List.append_nil] at outcome
      cases outcome
      exact .nil
    · intro pieces
      cases pieces
      exact reads_pure []
  | cons item items ih =>
    have tail : ∀ value, Local (do return value :: (← items.mapM' read) : Reader ε (List β)) :=
      fun value => (local_mapM' each items).bind fun _ => local_pure _
    constructor
    · intro reads
      obtain ⟨piece, value, others, rfl, head, rest⟩ :=
        (Reads.bind_iff (each item) tail bytes values).mp reads
      obtain ⟨middle, more, last, rfl, body, result⟩ :=
        (Reads.bind_iff (local_mapM' each items) (fun _ => local_pure _) _ _).mp rest
      have outcome := result []
      rw [pure_apply] at outcome
      obtain ⟨rfl, used⟩ := Prod.mk.inj (Outcome.ok.inj outcome)
      rw [List.append_nil] at used
      rw [used, List.append_nil]
      exact .cons head ((ih _ _).mp body)
    · intro pieces
      cases pieces with
      | @cons _ _ piece bytes value values head others =>
        have body : Reads (do return value :: (← items.mapM' read) : Reader ε (List β))
            (bytes ++ []) (value :: values) := Reads.bind ((ih _ _).mpr others) (reads_pure _)
        rw [List.append_nil] at body
        exact Reads.bind head body

theorem panics_mapM'_iff (each : ∀ item, Local (read item)) (items : List α) (input : Bytes) :
    Panics (items.mapM' read) input ↔ ∃ before item after bytes rest values,
      items = before ++ item :: after ∧ input = bytes ++ rest ∧
        Pieces (fun item => Reads (read item)) before bytes values ∧ Panics (read item) rest := by
  induction items generalizing input with
  | nil =>
    apply iff_of_false (calm_pure [] input)
    rintro ⟨before, item, after, _, _, _, split, _⟩
    cases before <;> cases split
  | cons item items ih =>
    rw [List.mapM'_cons, panics_bind_iff]
    constructor
    · rintro (now | ⟨value, rest, one, later⟩)
      · exact ⟨[], item, items, [], input, [], rfl, rfl, .nil, now⟩
      · obtain ⟨piece, rfl, head⟩ := each item _ _ _ one
        rcases panics_bind_iff.mp later with inner | ⟨_, _, _, ended⟩
        · obtain ⟨before, found, after, bytes, rest, values, rfl, rfl, pieces, panics⟩ :=
            (ih rest).mp inner
          exact ⟨item :: before, found, after, piece ++ bytes, rest, value :: values, rfl,
            (List.append_assoc ..).symm, .cons head pieces, panics⟩
        · exact absurd ended (calm_pure _ _)
    · rintro ⟨before, found, after, bytes, rest, values, split, rfl, pieces, panics⟩
      cases pieces with
      | nil =>
        cases split
        exact .inl panics
      | cons head others =>
        cases split
        rw [List.append_assoc]
        exact .inr ⟨_, _, head _, panics_bind_iff.mpr
          (.inl ((ih _).mpr ⟨_, found, after, _, rest, _, rfl, rfl, others, panics⟩))⟩

end loop

section still
variable {outcome : Outcome ε α} {reader : Reader ε α}

theorem ofOutcome_ok_iff {input rest : Bytes} {value : α} :
    ofOutcome outcome input = .ok (value, rest) ↔ outcome = .ok value ∧ rest = input := by
  cases outcome with
  | ok found => simp [ofOutcome, eq_comm]
  | err error => simp [ofOutcome]
  | panic message => simp [ofOutcome]

theorem local_ofOutcome (outcome : Outcome ε α) : Local (ofOutcome outcome) := by
  intro input value rest done
  obtain ⟨rfl, rfl⟩ := ofOutcome_ok_iff.mp done
  exact ⟨[], rfl, fun _ => rfl⟩

theorem reads_ofOutcome_iff {bytes : Bytes} {value : α} :
    Reads (ofOutcome outcome) bytes value ↔ bytes = [] ∧ outcome = .ok value := by
  constructor
  · intro reads
    obtain ⟨done, used⟩ := ofOutcome_ok_iff.mp (reads [])
    exact ⟨(List.append_nil bytes) ▸ used.symm, done⟩
  · rintro ⟨rfl, done⟩ rest
    exact ofOutcome_ok_iff.mpr ⟨done, rfl⟩

theorem panics_ofOutcome_iff {input : Bytes} :
    Panics (ofOutcome outcome) input ↔ ∃ message, outcome = .panic message := by
  unfold Panics ofOutcome
  cases outcome <;> simp

theorem within_ok_iff {buffer input rest : Bytes} {value : α} :
    within reader buffer input = .ok (value, rest) ↔
      rest = input ∧ ∃ unread, reader buffer = .ok (value, unread) := by
  unfold within
  cases reader buffer with
  | ok result => simp [Prod.ext_iff, eq_comm, and_comm]
  | err error => simp
  | panic message => simp

theorem local_within (buffer : Bytes) : Local (within reader buffer) := by
  intro input value rest done
  obtain ⟨rfl, unread, inner⟩ := within_ok_iff.mp done
  exact ⟨[], rfl, fun more => within_ok_iff.mpr ⟨rfl, unread, inner⟩⟩

theorem reads_within_iff {buffer bytes : Bytes} {value : α} :
    Reads (within reader buffer) bytes value ↔
      bytes = [] ∧ ∃ unread, reader buffer = .ok (value, unread) := by
  constructor
  · intro reads
    obtain ⟨used, inner⟩ := within_ok_iff.mp (reads [])
    exact ⟨(List.append_nil bytes) ▸ used.symm, inner⟩
  · rintro ⟨rfl, inner⟩ rest
    exact within_ok_iff.mpr ⟨rfl, inner⟩

theorem Calm.within (calm : Calm reader) (buffer : Bytes) : Calm (within reader buffer) := by
  rintro input ⟨message, panics⟩
  unfold Reader.within at panics
  cases inner : reader buffer with
  | ok result => rw [inner] at panics; cases panics
  | err error => rw [inner] at panics; cases panics
  | panic first => exact calm buffer ⟨first, inner⟩

end still
end SqlxSqlserver.Foundation.Reader

import Mathlib.Data.List.Basic

/-! Splitting at a separator of several characters. When the separator is a mark doubled, and the
mark alone stands between the fields of a record, no field may be empty: the marks around an empty
one would end the record. -/

namespace SqlxSqlserver.Foundation.Splitting

section pieces
variable {α : Type} [DecidableEq α]

/-- The pieces of the text between its separators, which are not empty and are searched from the
left; `skip` characters of the last one found are still to be dropped. -/
def piecesFrom (separator : List α) : Nat → List α → List (List α)
  | _, [] => [[]]
  | skip + 1, _ :: rest => piecesFrom separator skip rest
  | 0, char :: rest =>
    if separator.isPrefixOf (char :: rest) then [] :: piecesFrom separator (separator.length - 1) rest
    else (piecesFrom separator 0 rest).modifyHead (char :: ·)

def pieces (separator text : List α) : List (List α) := piecesFrom separator 0 text

theorem piecesFrom_append (separator front rest : List α) :
    piecesFrom separator front.length (front ++ rest) = pieces separator rest := by
  induction front with
  | nil => rfl
  | cons char front ih => exact ih

theorem pieces_separator {separator : List α} (some : separator ≠ []) (rest : List α) :
    pieces separator (separator ++ rest) = [] :: pieces separator rest := by
  obtain ⟨char, more, rfl⟩ := List.exists_cons_of_ne_nil some
  have found : (char :: more).isPrefixOf (char :: (more ++ rest)) = true :=
    List.isPrefixOf_iff_prefix.mpr ⟨rest, rfl⟩
  rw [pieces, List.cons_append, piecesFrom, if_pos found, List.length_cons, Nat.add_sub_cancel,
    piecesFrom_append]

theorem pieces_char {separator rest : List α} {char : α} (absent : ¬separator <+: char :: rest) :
    pieces separator (char :: rest) = (pieces separator rest).modifyHead (char :: ·) := by
  have missing : ¬separator.isPrefixOf (char :: rest) = true := by
    rwa [List.isPrefixOf_iff_prefix]
  rw [pieces, piecesFrom, if_neg missing, pieces]

end pieces

section records
variable {α : Type} {mark : α}

structure IsField (mark : α) (field : List α) : Prop where
  some : field ≠ []
  free : mark ∉ field

def record (mark : α) (fields : List (List α)) : List α := [mark].intercalate fields

def records (mark : α) (list : List (List (List α))) : List α :=
  list.flatMap fun fields => record mark fields ++ [mark, mark]

@[simp] theorem record_singleton (field : List α) : record mark [field] = field :=
  List.intercalate_singleton

theorem record_cons_cons (field next : List α) (fields : List (List α)) :
    record mark (field :: next :: fields) = field ++ mark :: record mark (next :: fields) := by
  rw [record, List.intercalate_cons_cons, List.append_assoc, List.singleton_append, record]

theorem mem_record {fields : List (List α)} {char : α} (member : char ∈ record mark fields) :
    char = mark ∨ ∃ field ∈ fields, char ∈ field := by
  induction fields with
  | nil => cases member
  | cons field fields ih =>
    cases fields with
    | nil =>
      rw [record_singleton] at member
      exact .inr ⟨field, List.mem_cons_self, member⟩
    | cons next fields =>
      rw [record_cons_cons, List.mem_append, List.mem_cons] at member
      rcases member with first | same | later
      · exact .inr ⟨field, List.mem_cons_self, first⟩
      · exact .inl same
      · rcases ih later with same | ⟨other, inside, here⟩
        · exact .inl same
        · exact .inr ⟨other, List.mem_cons_of_mem _ inside, here⟩

theorem mem_records {list : List (List (List α))} {char : α} (member : char ∈ records mark list) :
    char = mark ∨ ∃ fields ∈ list, ∃ field ∈ fields, char ∈ field := by
  obtain ⟨fields, listed, inside⟩ := List.mem_flatMap.mp member
  rcases List.mem_append.mp inside with within | doubled
  · exact (mem_record within).imp_right fun found => ⟨fields, listed, found⟩
  · exact .inl (or_self_iff.mp (List.mem_pair.mp doubled))

variable [DecidableEq α]

theorem splitOn_record {fields : List (List α)} (some : fields ≠ [])
    (each : ∀ field ∈ fields, IsField mark field) : (record mark fields).splitOn mark = fields :=
  List.splitOn_intercalate mark (fun field member => (each field member).free) some

/-- The doubled mark does not begin inside a field. -/
theorem pieces_field {field : List α} (free : mark ∉ field) (rest : List α) :
    pieces [mark, mark] (field ++ rest) = (pieces [mark, mark] rest).modifyHead (field ++ ·) := by
  induction field with
  | nil =>
    rw [List.nil_append]
    cases pieces [mark, mark] rest with
    | nil => rfl
    | cons piece others => rfl
  | cons char field ih =>
    have other : mark ≠ char := fun same => free (same ▸ List.mem_cons_self)
    have absent : ¬[mark, mark] <+: char :: (field ++ rest) := by
      intro found
      exact other (List.cons_prefix_cons.mp found).1
    rw [List.cons_append, pieces_char absent, ih fun member => free (List.mem_cons_of_mem _ member),
      List.modifyHead_modifyHead]
    rfl

theorem pieces_mark {field : List α} (is : IsField mark field) (rest : List α) :
    pieces [mark, mark] (mark :: (field ++ rest)) =
      (pieces [mark, mark] (field ++ rest)).modifyHead (mark :: ·) := by
  obtain ⟨char, more, rfl⟩ := List.exists_cons_of_ne_nil is.some
  have other : mark ≠ char := fun same => is.free (same ▸ List.mem_cons_self)
  have absent : ¬[mark, mark] <+: mark :: (char :: more ++ rest) := by
    intro found
    have second := (List.cons_prefix_cons.mp found).2
    exact other (List.cons_prefix_cons.mp second).1
  exact pieces_char absent

theorem pieces_record {fields : List (List α)} (each : ∀ field ∈ fields, IsField mark field)
    (rest : List α) : pieces [mark, mark] (record mark fields ++ rest) =
      (pieces [mark, mark] rest).modifyHead (record mark fields ++ ·) := by
  induction fields with
  | nil => exact pieces_field List.not_mem_nil rest
  | cons field fields ih =>
    have head := each field List.mem_cons_self
    have tail : ∀ other ∈ fields, IsField mark other := fun other member =>
      each other (List.mem_cons_of_mem _ member)
    cases fields with
    | nil =>
      rw [record_singleton]
      exact pieces_field head.free rest
    | cons next fields =>
      have front : ∃ more, record mark (next :: fields) ++ rest = next ++ more := by
        cases fields with
        | nil => exact ⟨rest, by rw [record_singleton]⟩
        | cons third fields => exact ⟨_, by rw [record_cons_cons, List.append_assoc]⟩
      obtain ⟨more, same⟩ := front
      have single := pieces_mark (tail next List.mem_cons_self) more
      rw [← same] at single
      rw [record_cons_cons, List.append_assoc, List.cons_append, pieces_field head.free, single,
        ih tail, List.modifyHead_modifyHead, List.modifyHead_modifyHead]
      congr 1
      funext piece
      simp only [Function.comp_apply, List.append_assoc, List.cons_append]

/-- Records are found whole, and an empty piece behind the last of them. -/
theorem pieces_records {list : List (List (List α))}
    (each : ∀ fields ∈ list, ∀ field ∈ fields, IsField mark field) :
    pieces [mark, mark] (records mark list) = list.map (record mark) ++ [[]] := by
  induction list with
  | nil => rfl
  | cons fields list ih =>
    have rest := ih fun others member => each others (List.mem_cons_of_mem _ member)
    have doubled : [mark, mark] ≠ [] := List.cons_ne_nil _ _
    rw [records, List.flatMap_cons, ← records, List.append_assoc,
      pieces_record (each fields List.mem_cons_self), pieces_separator doubled, rest,
      List.modifyHead_cons, List.append_nil, List.map_cons, List.cons_append]

theorem record_ne_nil {fields : List (List α)} (some : fields ≠ [])
    (each : ∀ field ∈ fields, IsField mark field) : record mark fields ≠ [] := by
  intro empty
  have split := splitOn_record some each
  rw [empty] at split
  exact (each [] (split ▸ List.mem_cons_self)).some rfl

end records

end SqlxSqlserver.Foundation.Splitting

import SqlxSqlserver.Protocol.QueryResponse

/-! Columns by name. A row of the driver looks a name up in its list of columns; the rows and
statements of `Any` look it up in a map that is built from the list. -/

namespace SqlxSqlserver.Driver
open Foundation Protocol

structure ColumnNotFound where
  name : String
  deriving DecidableEq, Repr

def MssqlRow.indexOf (self : MssqlRow) (name : String) : Except ColumnNotFound Nat :=
  match self.columns.findIdx? fun column => column.name == name with
  | some position => .ok position
  | none => .error ⟨name⟩

/-- `any::column_names`: the pairs are inserted one after the other. -/
def columnNames (columns : List MssqlColumn) : Std.HashMap String Nat :=
  columns.foldl (fun names column => names.insert column.name column.ordinal) ∅

structure OccursAt (columns : List MssqlColumn) (name : String) (before : List MssqlColumn)
    (column : MssqlColumn) (after : List MssqlColumn) : Prop where
  split : columns = before ++ column :: after
  named : column.name = name

def Free (name : String) (columns : List MssqlColumn) : Prop := ∀ column ∈ columns, column.name ≠ name

section lookup
variable {columns before after : List MssqlColumn} {column : MssqlColumn} {name : String}

theorem indexOf_ok_iff (values : List MssqlValue) (position : Nat) :
    MssqlRow.indexOf ⟨columns, values⟩ name = .ok position ↔ ∃ before column after,
      OccursAt columns name before column after ∧ Free name before ∧ before.length = position := by
  constructor
  · intro found
    unfold MssqlRow.indexOf at found
    split at found
    next first =>
      cases found
      obtain ⟨inside, here, earlier⟩ := List.findIdx?_eq_some_iff_getElem.mp first
      have split : columns = columns.take position ++ columns[position] :: columns.drop (position + 1) := by
        rw [← List.drop_eq_getElem_cons inside, List.take_append_drop]
      refine ⟨_, _, _, ⟨split, beq_iff_eq.mp here⟩, ?_, List.length_take_of_le inside.le⟩
      intro column member same
      obtain ⟨index, low, rfl⟩ := List.mem_take_iff_getElem.mp member
      exact earlier index (by omega) (beq_iff_eq.mpr same)
    next => cases found
  · rintro ⟨before, column, after, ⟨rfl, rfl⟩, free, rfl⟩
    have first : (before ++ column :: after).findIdx? (fun other => other.name == column.name) =
        some before.length := by
      refine List.findIdx?_eq_some_iff_getElem.mpr ⟨by simp, by simp, ?_⟩
      intro index low
      rw [List.getElem_append_left low, beq_iff_eq]
      exact free _ (List.getElem_mem low)
    simp only [MssqlRow.indexOf, first]

theorem split_concat {last : MssqlColumn} (split : columns ++ [last] = before ++ column :: after) :
    columns = before ∧ last = column ∧ after = [] ∨
      ∃ others, after = others ++ [last] ∧ columns = before ++ column :: others := by
  rcases List.eq_nil_or_concat' after with rfl | ⟨others, final, rfl⟩
  · obtain ⟨front, same⟩ := List.append_inj' split rfl
    exact .inl ⟨front, List.singleton_inj.mp same, rfl⟩
  · rw [← List.cons_append, ← List.append_assoc] at split
    obtain ⟨front, same⟩ := List.append_inj' split rfl
    exact .inr ⟨others, by rw [List.singleton_inj.mp same], front⟩

theorem columnNames_some_iff (ordinal : Nat) :
    (columnNames columns)[name]? = some ordinal ↔ ∃ before column after,
      OccursAt columns name before column after ∧ Free name after ∧ column.ordinal = ordinal := by
  induction columns using List.reverseRecOn with
  | nil =>
    constructor
    · intro found
      rw [columnNames, List.foldl_nil, Std.HashMap.getElem?_empty] at found
      cases found
    · rintro ⟨before, column, after, occurs, _⟩
      exact absurd occurs.split (by simp)
  | append_singleton columns last ih =>
    have inserted : (columnNames (columns ++ [last]))[name]? =
        if last.name == name then some last.ordinal else (columnNames columns)[name]? := by
      rw [columnNames, List.foldl_append]
      exact Std.HashMap.getElem?_insert
    rw [inserted]
    by_cases named : last.name = name
    · rw [if_pos (beq_iff_eq.mpr named)]
      constructor
      · intro same
        have free : Free name [] := fun other member => absurd member List.not_mem_nil
        exact ⟨columns, last, [], ⟨rfl, named⟩, free, Option.some.inj same⟩
      · rintro ⟨before, column, after, ⟨split, _⟩, free, rfl⟩
        rcases split_concat split with ⟨_, rfl, _⟩ | ⟨others, rfl, _⟩
        · rfl
        · exact absurd named (free last (by simp))
    · rw [if_neg (beq_iff_eq.not.mpr named), ih]
      constructor
      · rintro ⟨before, column, after, ⟨rfl, found⟩, free, ordinals⟩
        refine ⟨before, column, after ++ [last], ⟨by simp, found⟩, ?_, ordinals⟩
        intro other member
        rcases List.mem_append.mp member with earlier | final
        · exact free other earlier
        · rwa [List.mem_singleton.mp final]
      · rintro ⟨before, column, after, ⟨split, found⟩, free, ordinals⟩
        rcases split_concat split with ⟨_, rfl, _⟩ | ⟨others, rfl, front⟩
        · exact absurd found named
        · exact ⟨before, column, others, ⟨front, found⟩,
            fun other member => free other (List.mem_append_left _ member), ordinals⟩

theorem OccursAt.ordinal_eq (occurs : OccursAt columns name before column after)
    (numbered : Numbered columns) : column.ordinal = before.length := by
  have ordinals := congrArg (·[before.length]?) numbered
  rw [occurs.split] at ordinals
  simpa using ordinals

theorem OccursAt.count_eq (occurs : OccursAt columns name before column after) :
    (columns.map MssqlColumn.name).count name =
      (before.map MssqlColumn.name).count name + ((after.map MssqlColumn.name).count name + 1) := by
  rw [occurs.split, List.map_append, List.map_cons, List.count_append, occurs.named,
    List.count_cons_self]

theorem free_iff : Free name columns ↔ (columns.map MssqlColumn.name).count name = 0 := by
  rw [List.count_eq_zero, List.mem_map]
  constructor
  · rintro free ⟨column, member, same⟩
    exact free column member same
  · intro absent column member same
    exact absent ⟨column, member, same⟩

theorem exists_first (used : 0 < (columns.map MssqlColumn.name).count name) :
    ∃ before column after, OccursAt columns name before column after ∧ Free name before := by
  obtain ⟨column, member, same⟩ := List.mem_map.mp (List.count_pos_iff.mp used)
  have found : (columns.find? fun column => column.name == name).isSome :=
    List.find?_isSome.mpr ⟨column, member, beq_iff_eq.mpr same⟩
  obtain ⟨first, found⟩ := Option.isSome_iff_exists.mp found
  obtain ⟨named, before, after, split, free⟩ := List.find?_eq_some_iff_append.mp found
  refine ⟨before, first, after, ⟨split, beq_iff_eq.mp named⟩, ?_⟩
  intro other inside same
  have different := free other inside
  rw [same, beq_self_eq_true] at different
  cases different

end lookup

/-- The native row and the map of `Any` answer a name alike: with the same ordinal, or neither. -/
def ResolvesAlike (columns : List MssqlColumn) (name : String) : Prop :=
  ∀ values ordinal, MssqlRow.indexOf ⟨columns, values⟩ name = .ok ordinal ↔
    (columnNames columns)[name]? = some ordinal

/-- A name resolves alike exactly when no two columns have it. -/
theorem column_names_alike_iff (columns : List MssqlColumn) (numbered : Numbered columns)
    (name : String) : ResolvesAlike columns name ↔ (columns.map MssqlColumn.name).count name ≤ 1 := by
  constructor
  · intro alike
    by_contra several
    have used : 0 < (columns.map MssqlColumn.name).count name := by omega
    obtain ⟨before, column, after, first, free⟩ := exists_first used
    have native := (indexOf_ok_iff [] _).mpr ⟨before, column, after, first, free, rfl⟩
    obtain ⟨front, other, behind, last, freeBehind, ordinal⟩ :=
      (columnNames_some_iff _).mp ((alike [] _).mp native)
    have place := (last.ordinal_eq numbered).symm.trans ordinal
    obtain ⟨rfl, tail⟩ := List.append_inj (last.split.symm.trans first.split) place
    have count := last.count_eq
    rw [free_iff.mp free, free_iff.mp freeBehind] at count
    omega
  · intro once values ordinal
    rw [indexOf_ok_iff, columnNames_some_iff]
    constructor
    · rintro ⟨before, column, after, occurs, free, rfl⟩
      have count := occurs.count_eq
      exact ⟨before, column, after, occurs, free_iff.mpr (by omega), occurs.ordinal_eq numbered⟩
    · rintro ⟨before, column, after, occurs, free, rfl⟩
      have count := occurs.count_eq
      exact ⟨before, column, after, occurs, free_iff.mpr (by omega),
        (occurs.ordinal_eq numbered).symm⟩

def joinColumns : List MssqlColumn :=
  let int : MssqlTypeInfo := ⟨.int, false, some 4, some (.new .int 4)⟩
  [.new 0 "id" int, .new 1 "a" int, .new 2 "a" int]

def joinMetadata : Bytes :=
  [3, 0] ++ [0, 0, 0, 0, 0, 0, 0x38, 2, 105, 0, 100, 0] ++ [0, 0, 0, 0, 0, 0, 0x38, 1, 97, 0] ++
    [0, 0, 0, 0, 0, 0, 0x38, 1, 97, 0]

theorem get_joinMetadata : ColMetaData.get joinMetadata = .ok (joinColumns, []) := by
  decide +kernel

/-- A name that is used once resolves alike. -/
theorem column_names_alike_id : ResolvesAlike joinColumns "id" :=
  (column_names_alike_iff joinColumns (numbered_of_get get_joinMetadata) "id").mpr (by decide)

/-- The native row finds the first column `a`, and `Any` the last one. -/
theorem repeated_column_not_alike :
    ¬∀ columns, Numbered columns → ∀ name, ResolvesAlike columns name := by
  intro always
  have native : MssqlRow.indexOf ⟨joinColumns, []⟩ "a" = .ok 1 := by decide
  have last : (columnNames joinColumns)["a"]? = some 2 := Std.HashMap.getElem?_insert_self
  have alike := (always joinColumns (numbered_of_get get_joinMetadata) "a" [] 1).mp native
  rw [last] at alike
  cases alike

end SqlxSqlserver.Driver

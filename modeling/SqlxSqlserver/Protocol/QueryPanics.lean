import SqlxSqlserver.Protocol.QueryResponse

/-! The responses that make the parser panic: a type without a name, a chunked value whose header
announces more than a vector can hold, and row counts whose sum overflows. -/

namespace SqlxSqlserver.Protocol
open Foundation Reader Driver

/-- What stands behind a stream of complete tokens when the next token panics; `affected` is the
sum of the row counts so far. -/
inductive Hazard (columns : List MssqlColumn) (affected : Nat) : Bytes → Prop where
  | columnType {count ordinal : Nat} {list piece rest : Bytes} {found : List MssqlColumn}
      {data : ColumnData} (counted : count < 0xffff) (inside : ordinal < count)
      (complete : Pieces IsColumn (List.range ordinal) list found)
      (read : Reads ColumnData.get piece data) (nameless : data.typeInfo.Nameless) :
      Hazard columns affected (0x81 :: (leBytes 2 count ++ (list ++ (piece ++ rest))))
  | rowValue {nullable : Bool} {nulls body rest : Bytes} {before after : List (MssqlColumn × Nat)}
      {item : MssqlColumn × Nat} {values : List MssqlValue} {typeInfo : TypeInfo}
      (bitmap : nulls.length = Row.nullBytes nullable columns)
      (split : columns.zipIdx = before ++ item :: after)
      (complete : Pieces (IsValue nullable nulls) before body values)
      (present : nullAt nullable nulls item.2 = some false)
      (typed : item.1.typeInfo.protocolTypeInfo = some typeInfo)
      (oversized : typeInfo.OversizedPlp rest) :
      Hazard columns affected ((if nullable then 0xd2 else 0xd1) :: (nulls ++ (body ++ rest)))
  | returnValue {piece rest : Bytes} {header : ReturnValue}
      (read : Reads ReturnValue.getHeader piece header)
      (oversized : header.typeInfo.OversizedPlp rest) :
      Hazard columns affected (0xac :: (piece ++ rest))
  | returnType {piece rest : Bytes} {returnValue : ReturnValue}
      (read : Reads ReturnValue.get piece returnValue) (nameless : returnValue.typeInfo.Nameless) :
      Hazard columns affected (0xac :: (piece ++ rest))
  | rowCount {kind : UInt8} {piece rest : Bytes} {done : Done} (known : kind ∈ [0xfd, 0xfe, 0xff])
      (read : Reads Done.get piece done) (counted : done.status.contains .doneCount)
      (overflow : u64Max < affected + done.affectedRows) :
      Hazard columns affected (kind :: (piece ++ rest))

section records

theorem calm_columnData : Calm ColumnData.get :=
  (calm_le _ _).bind fun _ => (calm_le _ _).bind fun _ => (TypeInfo.calm_get.mapErr _).bind
    fun _ => Read.calm_readBVarchar.bind fun _ => calm_pure _

theorem calm_returnHeader : Calm ReturnValue.getHeader :=
  (calm_le _ _).bind fun _ => Read.calm_readBVarchar.bind fun _ => (calm_byte _).bind fun _ =>
    (calm_le _ _).bind fun _ => (calm_le _ _).bind fun _ =>
    (TypeInfo.calm_get.mapErr _).bind fun _ => calm_pure _

theorem calm_done : Calm Done.get :=
  (calm_le _ _).bind fun _ => (calm_le _ _).bind fun _ => (calm_le _ _).bind fun _ =>
    calm_pure _

theorem panics_behind {ε α β : Type} {reader : Reader ε α} {next : α → Reader ε β} {input : Bytes}
    (decides : Local reader) (calm : Calm reader) : Panics (reader >>= next) input ↔
      ∃ piece value rest, input = piece ++ rest ∧ Reads reader piece value ∧
        Panics (next value) rest := by
  rw [calm.panics_bind_iff]
  constructor
  · rintro ⟨value, rest, read, panics⟩
    obtain ⟨piece, rfl, reads⟩ := decides _ _ _ read
    exact ⟨piece, value, rest, rfl, reads, panics⟩
  · rintro ⟨piece, value, rest, rfl, reads, panics⟩
    exact ⟨value, rest, reads rest, panics⟩

theorem panics_map_iff {ε α β : Type} {reader : Reader ε α} {compute : α → β} {input : Bytes} :
    Panics (do return compute (← reader) : Reader ε β) input ↔ Panics reader input := by
  rw [panics_bind_iff]
  exact or_iff_left fun ⟨_, _, _, panics⟩ => calm_pure _ _ panics

theorem panics_getColumn_iff (ordinal : Nat) (input : Bytes) :
    Panics (ColMetaData.getColumn ordinal) input ↔ ∃ piece data rest, input = piece ++ rest ∧
      Reads ColumnData.get piece data ∧ data.typeInfo.Nameless := by
  unfold ColMetaData.getColumn
  rw [panics_behind local_columnData calm_columnData]
  simp only [panics_map_iff, panics_ofOutcome_iff, MssqlTypeInfo.fromProtocol_panics_iff]

theorem range_split {count item : Nat} {before after : List Nat}
    (split : List.range count = before ++ item :: after) : before = List.range item ∧ item < count := by
  have length := congrArg List.length split
  rw [List.length_range, List.length_append, List.length_cons] at length
  have here := congrArg (fun list => list[before.length]?) split
  have front := congrArg (List.take before.length) split
  simp only [List.getElem?_append_right le_rfl, Nat.sub_self, List.getElem?_cons_zero] at here
  rw [List.getElem?_range (by omega), Option.some_inj] at here
  rw [List.take_range, Nat.min_eq_left (by omega), List.take_left] at front
  exact ⟨here ▸ front.symm, by omega⟩

theorem range_at {count ordinal : Nat} (inside : ordinal < count) :
    List.range count = List.range ordinal ++ ordinal :: (List.range count).drop (ordinal + 1) := by
  have front : (List.range count).take ordinal = List.range ordinal := by
    rw [List.take_range, Nat.min_eq_left inside.le]
  have back : (List.range count).drop ordinal =
      ordinal :: (List.range count).drop (ordinal + 1) := by
    rw [List.drop_eq_getElem_cons (List.length_range ▸ inside), List.getElem_range]
  calc List.range count
      = (List.range count).take ordinal ++ (List.range count).drop ordinal :=
        (List.take_append_drop ..).symm
    _ = List.range ordinal ++ ordinal :: (List.range count).drop (ordinal + 1) := by
        rw [front, back]

theorem panics_colMetaData_iff (input : Bytes) : Panics ColMetaData.get input ↔
    ∃ count ordinal list found piece data rest, count < 0xffff ∧ ordinal < count ∧
      input = leBytes 2 count ++ (list ++ (piece ++ rest)) ∧
      Pieces IsColumn (List.range ordinal) list found ∧ Reads ColumnData.get piece data ∧
      data.typeInfo.Nameless := by
  have count : Local Read.readU16Le := local_le _ _
  have calm : Calm Read.readU16Le := calm_le _ _
  unfold ColMetaData.get
  rw [panics_behind count calm]
  constructor
  · rintro ⟨first, count, rest, rfl, head, panics⟩
    obtain ⟨rfl, fits⟩ := reads_le_iff.mp head
    split_ifs at panics with none
    · exact absurd panics (calm_pure _ _)
    · obtain ⟨before, ordinal, after, list, rest, found, split, rfl, pieces, panics⟩ :=
        (panics_mapM'_iff local_getColumn _ _).mp panics
      obtain ⟨rfl, inside⟩ := range_split split
      obtain ⟨piece, data, rest, rfl, read, nameless⟩ := (panics_getColumn_iff _ _).mp panics
      exact ⟨count, ordinal, list, found, piece, data, rest, by omega, inside, rfl,
        pieces.imp fun _ _ _ => (reads_getColumn_iff _ _ _).mp, read, nameless⟩
  · rintro ⟨count, ordinal, list, found, piece, data, rest, counted, inside, rfl, pieces, read,
      nameless⟩
    refine ⟨_, count, _, rfl, reads_le_iff.mpr ⟨rfl, by omega⟩, ?_⟩
    rw [if_neg counted.ne]
    exact (panics_mapM'_iff local_getColumn _ _).mpr ⟨_, ordinal, _, list, piece ++ rest, found,
      range_at inside, rfl, pieces.imp fun _ _ _ => (reads_getColumn_iff _ _ _).mpr,
      (panics_getColumn_iff _ _).mpr ⟨piece, data, rest, rfl, read, nameless⟩⟩

theorem panics_isNull_iff (nullable : Bool) (nulls : Bytes) (index : Nat) (input : Bytes) :
    Panics (Row.isNull nullable nulls index) input ↔ nullAt nullable nulls index = none := by
  unfold Row.isNull nullAt Row.nullBit
  cases nullable with
  | false => exact iff_of_false (calm_pure _ _) nofun
  | true =>
    rw [if_pos rfl, if_pos rfl]
    cases nulls[index / 8]? with
    | none => exact iff_of_true ⟨_, rfl⟩ rfl
    | some byte => exact iff_of_false (calm_pure _ _) nofun

theorem panics_getPresent_iff (typeInfo : MssqlTypeInfo) (input : Bytes) :
    Panics (Row.getPresent typeInfo) input ↔ ∃ protocolTypeInfo,
      typeInfo.protocolTypeInfo = some protocolTypeInfo ∧ protocolTypeInfo.OversizedPlp input := by
  unfold Row.getPresent
  cases typeInfo.protocolTypeInfo with
  | none =>
    apply iff_of_false (calm_fail _ _)
    rintro ⟨_, missing, _⟩
    cases missing
  | some found =>
    rw [panics_map_iff, panics_mapErr_iff, TypeInfo.getValue_panics_iff]
    simp only [Option.some_inj, exists_eq_left']

theorem panics_rowValue_iff (nullable : Bool) (nulls : Bytes) (item : MssqlColumn × Nat)
    (input : Bytes) : Panics (Row.getValue nullable nulls item) input ↔
      nullAt nullable nulls item.2 = none ∨ nullAt nullable nulls item.2 = some false ∧
        ∃ typeInfo, item.1.typeInfo.protocolTypeInfo = some typeInfo ∧
          typeInfo.OversizedPlp input := by
  unfold Row.getValue
  rw [panics_bind_iff, panics_isNull_iff]
  refine or_congr_right ⟨?_, ?_⟩
  · rintro ⟨bit, rest, read, panics⟩
    obtain ⟨piece, rfl, reads⟩ := local_isNull _ _ _ _ _ _ read
    obtain ⟨rfl, known⟩ := (reads_isNull_iff _ _ _ _ _).mp reads
    cases bit with
    | true => exact absurd panics (calm_pure _ _)
    | false => exact ⟨known, (panics_getPresent_iff _ _).mp panics⟩
  · rintro ⟨known, present⟩
    exact ⟨false, input, (reads_isNull_iff _ _ _ [] _).mpr ⟨rfl, known⟩ input,
      (panics_getPresent_iff _ _).mpr present⟩

theorem nullAt_isSome {nullable : Bool} {nulls : Bytes} {columns : List MssqlColumn}
    (bitmap : nulls.length = Row.nullBytes nullable columns) {item : MssqlColumn × Nat}
    (here : item ∈ columns.zipIdx) : nullAt nullable nulls item.2 ≠ none := by
  have inside := List.snd_lt_of_mem_zipIdx here
  unfold nullAt
  cases nullable with
  | false => exact nofun
  | true =>
    rw [Row.nullBytes, if_pos rfl] at bitmap
    have enough : item.2 / 8 < nulls.length := by omega
    rw [if_pos rfl, List.getElem?_eq_getElem enough]
    exact nofun

theorem panics_row_iff (nullable : Bool) (columns : List MssqlColumn) (input : Bytes) :
    Panics (Row.get nullable columns) input ↔
      ∃ nulls body rest before item after values typeInfo, input = nulls ++ (body ++ rest) ∧
        nulls.length = Row.nullBytes nullable columns ∧
        columns.zipIdx = before ++ item :: after ∧
        Pieces (IsValue nullable nulls) before body values ∧
        nullAt nullable nulls item.2 = some false ∧
        item.1.typeInfo.protocolTypeInfo = some typeInfo ∧ typeInfo.OversizedPlp rest := by
  have calm : Calm (if nullable then Read.take (Row.nullBytes nullable columns) else pure []) := by
    split
    · exact calm_take _ _
    · exact calm_pure _
  unfold Row.get
  rw [panics_behind (local_nulls _ _) calm]
  constructor
  · rintro ⟨first, nulls, rest, rfl, head, panics⟩
    obtain ⟨rfl, bitmap⟩ := (reads_nulls_iff _ _ _ _).mp head
    obtain ⟨before, item, after, body, rest, values, split, rfl, pieces, panics⟩ :=
      (panics_mapM'_iff (local_rowValue _ _) _ _).mp (panics_map_iff.mp panics)
    have here : item ∈ columns.zipIdx := split ▸ List.mem_append_right _ List.mem_cons_self
    rcases (panics_rowValue_iff _ _ _ _).mp panics with missing | ⟨present, typeInfo, typed, large⟩
    · exact absurd missing (nullAt_isSome bitmap here)
    · exact ⟨first, body, rest, before, item, after, values, typeInfo, rfl, bitmap, split,
        pieces.imp fun _ _ _ => (reads_rowValue_iff _ _ _ _ _).mp, present, typed, large⟩
  · rintro ⟨nulls, body, rest, before, item, after, values, typeInfo, rfl, bitmap, split, pieces,
      present, typed, large⟩
    exact ⟨nulls, nulls, _, rfl, (reads_nulls_iff _ _ _ _).mpr ⟨rfl, bitmap⟩,
      panics_map_iff.mpr ((panics_mapM'_iff (local_rowValue _ _) _ _).mpr
        ⟨before, item, after, body, rest, values, split, rfl,
          pieces.imp fun _ _ _ => (reads_rowValue_iff _ _ _ _ _).mpr,
          (panics_rowValue_iff _ _ _ _).mpr (.inr ⟨present, typeInfo, typed, large⟩)⟩)⟩

theorem panics_returnValue_iff (input : Bytes) : Panics ReturnValue.get input ↔
    ∃ piece header rest, input = piece ++ rest ∧ Reads ReturnValue.getHeader piece header ∧
      header.typeInfo.OversizedPlp rest := by
  unfold ReturnValue.get
  rw [panics_behind local_returnHeader calm_returnHeader]
  simp only [panics_map_iff, panics_mapErr_iff, TypeInfo.getValue_panics_iff]

theorem panics_addRows_iff (state : QueryState) (done : Done) (input : Bytes) :
    Panics (state.addRows done) input ↔
      done.status.contains .doneCount ∧ u64Max < state.rowsAffected + done.affectedRows := by
  unfold QueryState.addRows
  split_ifs with counted fits
  · exact iff_of_false (calm_pure _ _) fun both => absurd fits (Nat.not_le.mpr both.2)
  · exact iff_of_true ⟨_, rfl⟩ ⟨counted, Nat.not_le.mp fits⟩
  · exact iff_of_false (calm_pure _ _) fun both => counted both.1

end records

theorem panics_addDone_iff (state : QueryState) (input : Bytes) :
    Panics (do state.addRows (← Done.get)) input ↔
      ∃ piece done rest, input = piece ++ rest ∧ Reads Done.get piece done ∧
        done.status.contains .doneCount ∧ u64Max < state.rowsAffected + done.affectedRows := by
  rw [panics_behind local_done calm_done]
  simp only [panics_addRows_iff]

theorem hazard_of_panics {state : QueryState} {code : UInt8} {input : Bytes}
    (panics : Panics (state.readToken code) input) :
    Hazard state.columns state.rowsAffected (code :: input) := by
  have row : ∀ {nullable}, Panics (Row.get nullable state.columns) input →
      Hazard state.columns state.rowsAffected ((if nullable then 0xd2 else 0xd1) :: input) := by
    intro nullable inner
    obtain ⟨nulls, body, rest, before, item, after, values, typeInfo, rfl, bitmap, split, pieces,
      present, typed, large⟩ := (panics_row_iff _ _ _).mp inner
    exact .rowValue bitmap split pieces present typed large
  unfold QueryState.readToken at panics
  split at panics
  case h_1 byte =>
    obtain rfl : code = 0x81 := UInt8.toNat_inj.mp byte
    obtain ⟨count, ordinal, list, found, piece, data, rest, counted, inside, rfl, complete, read,
      nameless⟩ := (panics_colMetaData_iff _).mp (panics_map_iff.mp panics)
    exact .columnType counted inside complete read nameless
  case h_2 byte =>
    obtain rfl : code = 0xd1 := UInt8.toNat_inj.mp byte
    exact row (panics_map_iff.mp panics)
  case h_3 byte =>
    obtain rfl : code = 0xd2 := UInt8.toNat_inj.mp byte
    exact row (panics_map_iff.mp panics)
  case h_4 byte =>
    obtain rfl : code = 0xac := UInt8.toNat_inj.mp byte
    rcases panics_bind_iff.mp panics with early | ⟨returnValue, rest, read, later⟩
    · obtain ⟨piece, header, rest, rfl, read, large⟩ := (panics_returnValue_iff _).mp early
      exact .returnValue read large
    · obtain ⟨piece, rfl, reads⟩ := local_returnValue _ _ _ read
      exact .returnType reads ((ReturnValue.intoValue_panics_iff returnValue).mp
        (panics_ofOutcome_iff.mp (panics_map_iff.mp later)))
  case h_5 => exact absurd (panics_map_iff.mp panics) (calm_le _ _ _)
  case h_9 =>
    refine absurd panics (Read.calm_readLenPrefixed.bind (fun body => ?_) input)
    exact ((calm_parseError.within body).mapErr _).bind fun _ => calm_fail _
  case h_10 =>
    refine absurd panics (Read.calm_readLenPrefixed.bind (fun body => ?_) input)
    exact ((calm_parseEnvChange.within body).mapErr _).bind fun _ => calm_pure _
  case h_11 => exact absurd (panics_map_iff.mp panics) (Read.calm_readLenPrefixed _)
  case h_12 => exact absurd panics (calm_fail _ _)
  all_goals
    rename_i byte
    obtain ⟨piece, done, rest, rfl, read, counted, overflow⟩ :=
      (panics_addDone_iff _ _).mp panics
    exact .rowCount (by rw [← UInt8.ofNat_toNat (x := code), byte]; decide) read counted overflow

/-- A hazard leads to a panic behind its token byte. -/
theorem panics_of_hazard {state : QueryState} {code : UInt8} {input : Bytes}
    (hazard : Hazard state.columns state.rowsAffected (code :: input)) :
    Panics (state.readToken code) input := by
  cases hazard with
  | columnType counted inside complete read nameless =>
    exact panics_map_iff.mpr ((panics_colMetaData_iff _).mpr
      ⟨_, _, _, _, _, _, _, counted, inside, rfl, complete, read, nameless⟩)
  | @rowValue nullable _ _ _ _ _ _ _ _ bitmap split complete present typed oversized =>
    have inner := (panics_row_iff nullable state.columns _).mpr
      ⟨_, _, _, _, _, _, _, _, rfl, bitmap, split, complete, present, typed, oversized⟩
    cases nullable <;> exact panics_map_iff.mpr inner
  | returnValue read oversized =>
    exact panics_bind_iff.mpr (.inl ((panics_returnValue_iff _).mpr
      ⟨_, _, _, rfl, read, oversized⟩))
  | returnType read nameless =>
    exact panics_bind_iff.mpr (.inr ⟨_, _, read _, panics_map_iff.mpr
      (panics_ofOutcome_iff.mpr ((ReturnValue.intoValue_panics_iff _).mpr nameless))⟩)
  | @rowCount _ piece rest _ known read counted overflow =>
    have inner := (panics_addDone_iff state (piece ++ rest)).mpr
      ⟨_, _, _, rfl, read, counted, overflow⟩
    simp only [List.mem_cons, List.not_mem_nil, or_false] at known
    rcases known with rfl | rfl | rfl <;> exact inner

theorem panics_readToken_iff (state : QueryState) (code : UInt8) (input : Bytes) :
    Panics (state.readToken code) input ↔
      Hazard state.columns state.rowsAffected (code :: input) :=
  ⟨hazard_of_panics, panics_of_hazard⟩

/-- A step panics exactly in front of a hazard. -/
theorem panics_step_iff (state : QueryState) (input : Bytes) :
    Panics state.step input ↔ Hazard state.columns state.rowsAffected input := by
  have byte : Local Read.readU8 := local_byte _
  have calm : Calm Read.readU8 := calm_byte _
  unfold QueryState.step
  rw [panics_behind byte calm]
  constructor
  · rintro ⟨piece, code, rest, rfl, read, panics⟩
    obtain rfl := reads_byte_iff.mp read
    exact (panics_readToken_iff _ _ _).mp panics
  · intro hazard
    obtain ⟨code, rest, rfl⟩ : ∃ code rest, input = code :: rest := by
      cases hazard <;> exact ⟨_, _, rfl⟩
    exact ⟨[code], code, rest, rfl, reads_byte_iff.mpr rfl,
      (panics_readToken_iff _ _ _).mpr hazard⟩

def Hazardous (input : Bytes) : Prop :=
  ∃ tokens before rest, input = before ++ rest ∧ IsStream [] tokens before ∧
    (∀ token ∈ tokens, token.Supported) ∧ rowCountOf tokens ≤ u64Max ∧
    Hazard (lastColumns [] tokens) (rowCountOf tokens) rest

/-- The parser returns, with a value or an error, exactly on the inputs without a hazard. -/
theorem parseQueryResponse_returns_iff (input : Bytes) :
    (∀ message, parseQueryResponse input ≠ .panic message) ↔ ¬Hazardous input := by
  have runs : (∃ message, parseQueryResponse input = .panic message) ↔
      Panics (untilEmpty QueryState.step .empty) input := by
    unfold parseQueryResponse Panics
    cases untilEmpty QueryState.step .empty input <;> simp
  have sum : ∀ tokens, QueryState.empty.rowsAffected + rowCountOf tokens = rowCountOf tokens :=
    fun tokens => Nat.zero_add _
  rw [← not_exists, runs, untilEmpty_panics_iff consumes_step, not_iff_not]
  constructor
  · rintro ⟨last, rest, steps, _, panics⟩
    obtain ⟨tokens, before, rfl, stream, run⟩ := (steps_iff _ _ _ _).mp steps
    obtain ⟨all, total, rfl⟩ := (QueryState.foldlM_apply_iff (Nat.zero_le _) _ _).mp run
    have hazard := (panics_step_iff _ _).mp panics
    rw [sum] at total
    exact ⟨tokens, before, rest, rfl, stream, all, total, sum tokens ▸ hazard⟩
  · rintro ⟨tokens, before, rest, rfl, stream, all, total, hazard⟩
    have run := (QueryState.foldlM_apply_iff (Nat.zero_le _) tokens _).mpr
      ⟨all, (sum tokens).symm ▸ total, rfl⟩
    have left : rest ≠ [] := by
      rintro rfl
      cases hazard
    have behind : Hazard (QueryState.empty.after tokens).columns
        (QueryState.empty.rowsAffected + rowCountOf tokens) rest := (sum tokens).symm ▸ hazard
    exact ⟨_, rest, (steps_iff _ _ _ _).mpr ⟨tokens, before, rfl, stream, run⟩, left,
      (panics_step_iff _ _).mpr behind⟩

/-- An INTN column of three bytes. -/
theorem threeByteInt_panics :
    parseQueryResponse [0x81, 1, 0, 0, 0, 0, 0, 0, 0, 0x26, 3, 0] =
      .panic "internal error: entered unreachable code: invalid size 3 for int" := by
  decide

end SqlxSqlserver.Protocol

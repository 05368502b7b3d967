import SqlxSqlserver.Protocol.QueryTokens

/-! What the parser accepts, against the grammar: a step reads one supported token, and a run
that ends well reads a stream of them. -/

namespace SqlxSqlserver.Protocol
open Foundation Reader Driver

section records

theorem reads_getColumn_iff (ordinal : Nat) (bytes : Bytes) (column : MssqlColumn) :
    Reads (ColMetaData.getColumn ordinal) bytes column ↔ IsColumn ordinal bytes column := by
  unfold ColMetaData.getColumn
  rw [Reads.bind_iff local_columnData fun _ => (local_ofOutcome _).bind fun _ => local_pure _]
  constructor
  · rintro ⟨first, data, second, rfl, read, rest⟩
    obtain ⟨typeInfo, made, rfl⟩ := (Reads.map_iff (local_ofOutcome _)).mp rest
    obtain ⟨rfl, named⟩ := reads_ofOutcome_iff.mp made
    exact ⟨data, typeInfo, (List.append_nil first).symm ▸ read, named, rfl⟩
  · rintro ⟨data, typeInfo, read, named, rfl⟩
    exact ⟨bytes, data, [], (List.append_nil bytes).symm, read,
      (Reads.map_iff (local_ofOutcome _)).mpr
        ⟨typeInfo, reads_ofOutcome_iff.mpr ⟨rfl, named⟩, rfl⟩⟩

theorem reads_colMetaData_iff (bytes : Bytes) (found : List MssqlColumn) :
    Reads ColMetaData.get bytes found ↔ bytes = leBytes 2 0xffff ∧ found = [] ∨
      ∃ count body, count < 0xffff ∧ bytes = leBytes 2 count ++ body ∧
        Pieces IsColumn (List.range count) body found := by
  have columns : ∀ count body, Reads ((List.range count).mapM' ColMetaData.getColumn) body found ↔
      Pieces IsColumn (List.range count) body found := by
    intro count body
    rw [reads_mapM'_iff local_getColumn]
    exact ⟨Pieces.imp fun _ _ _ => (reads_getColumn_iff _ _ _).mp,
      Pieces.imp fun _ _ _ => (reads_getColumn_iff _ _ _).mpr⟩
  have body : ∀ count, Local (if count = 0xffff then pure []
      else (List.range count).mapM' ColMetaData.getColumn) := by
    intro count
    split
    · exact local_pure _
    · exact local_mapM' local_getColumn _
  have count : Local Read.readU16Le := local_le _ _
  unfold ColMetaData.get
  rw [Reads.bind_iff count body]
  constructor
  · rintro ⟨first, count, second, rfl, head, rest⟩
    obtain ⟨rfl, fits⟩ := reads_le_iff.mp head
    split_ifs at rest with none
    · obtain ⟨rfl, rfl⟩ := reads_pure_iff.mp rest
      exact .inl ⟨by rw [none, List.append_nil], rfl⟩
    · exact .inr ⟨count, second, by omega, rfl, (columns _ _).mp rest⟩
  · rintro (⟨rfl, rfl⟩ | ⟨count, second, counted, rfl, pieces⟩)
    · exact ⟨_, 0xffff, [], (List.append_nil _).symm, reads_le_iff.mpr ⟨rfl, by decide⟩,
        by rw [if_pos rfl]; exact reads_pure _⟩
    · refine ⟨_, count, second, rfl, reads_le_iff.mpr ⟨rfl, by omega⟩, ?_⟩
      rw [if_neg counted.ne]
      exact (columns _ _).mpr pieces

theorem reads_isNull_iff (nullable : Bool) (nulls : Bytes) (index : Nat) (bytes : Bytes)
    (bit : Bool) : Reads (Row.isNull nullable nulls index) bytes bit ↔
      bytes = [] ∧ nullAt nullable nulls index = some bit := by
  unfold Row.isNull nullAt Row.nullBit
  cases nullable with
  | false =>
    rw [if_neg Bool.false_ne_true, if_neg Bool.false_ne_true, reads_pure_iff, Option.some_inj]
    exact and_congr_right fun _ => eq_comm
  | true =>
    rw [if_pos rfl, if_pos rfl]
    cases nulls[index / 8]? with
    | none => exact iff_of_false not_reads_panic fun both => nomatch both.2
    | some byte =>
      rw [Option.map_some, Option.some_inj]
      exact reads_pure_iff.trans (and_congr_right fun _ => eq_comm)

theorem reads_getPresent_iff (typeInfo : MssqlTypeInfo) (bytes : Bytes) (value : MssqlValue) :
    Reads (Row.getPresent typeInfo) bytes value ↔ ∃ protocolTypeInfo data,
      typeInfo.protocolTypeInfo = some protocolTypeInfo ∧
      Reads protocolTypeInfo.getValue bytes data ∧ value = .new typeInfo data := by
  unfold Row.getPresent
  cases typeInfo.protocolTypeInfo with
  | none =>
    apply iff_of_false not_reads_fail
    rintro ⟨_, _, missing, _⟩
    cases missing
  | some found =>
    constructor
    · intro reads
      obtain ⟨data, read, rfl⟩ := (Reads.map_iff ((TypeInfo.local_getValue found).mapErr _)).mp reads
      exact ⟨found, data, rfl, reads_mapErr_iff.mp read, rfl⟩
    · rintro ⟨_, data, same, read, rfl⟩
      cases same
      exact (Reads.map_iff ((TypeInfo.local_getValue found).mapErr _)).mpr
        ⟨data, reads_mapErr_iff.mpr read, rfl⟩

theorem reads_rowValue_iff (nullable : Bool) (nulls : Bytes) (item : MssqlColumn × Nat)
    (bytes : Bytes) (value : MssqlValue) :
    Reads (Row.getValue nullable nulls item) bytes value ↔ IsValue nullable nulls item bytes value := by
  unfold Row.getValue IsValue
  rw [Reads.bind_iff (local_isNull _ _ _) (local_behindBit item.1.typeInfo)]
  constructor
  · rintro ⟨first, isNull, second, rfl, head, rest⟩
    obtain ⟨rfl, known⟩ := (reads_isNull_iff _ _ _ _ _).mp head
    cases isNull with
    | true =>
      obtain ⟨rfl, rfl⟩ := reads_pure_iff.mp rest
      exact .inl ⟨known, rfl, rfl⟩
    | false => exact .inr ⟨known, (reads_getPresent_iff _ _ _).mp rest⟩
  · rintro (⟨known, rfl, rfl⟩ | ⟨known, present⟩)
    · exact ⟨[], true, [], rfl, (reads_isNull_iff _ _ _ _ _).mpr ⟨rfl, known⟩, reads_pure _⟩
    · exact ⟨[], false, bytes, rfl, (reads_isNull_iff _ _ _ _ _).mpr ⟨rfl, known⟩,
        (reads_getPresent_iff _ _ _).mpr present⟩

theorem reads_nulls_iff (nullable : Bool) (columns : List MssqlColumn) (bytes nulls : Bytes) :
    Reads (if nullable then Read.take (Row.nullBytes nullable columns) else pure []) bytes nulls ↔
      bytes = nulls ∧ nulls.length = Row.nullBytes nullable columns := by
  cases nullable with
  | false =>
    rw [if_neg Bool.false_ne_true, reads_pure_iff]
    constructor
    · rintro ⟨rfl, rfl⟩
      exact ⟨rfl, rfl⟩
    · rintro ⟨rfl, length⟩
      exact ⟨List.eq_nil_of_length_eq_zero length, List.eq_nil_of_length_eq_zero length⟩
  | true =>
    rw [if_pos rfl]
    exact reads_take_iff

theorem reads_row_iff (nullable : Bool) (columns : List MssqlColumn) (bytes : Bytes)
    (row : MssqlRow) : Reads (Row.get nullable columns) bytes row ↔
      ∃ values, IsRowBody nullable columns bytes values ∧ row = .newShared columns values := by
  have values : ∀ nulls body found, Reads (columns.zipIdx.mapM' (Row.getValue nullable nulls))
      body found ↔ Pieces (IsValue nullable nulls) columns.zipIdx body found := by
    intro nulls body found
    rw [reads_mapM'_iff (local_rowValue nullable nulls)]
    exact ⟨Pieces.imp fun _ _ _ => (reads_rowValue_iff _ _ _ _ _).mp,
      Pieces.imp fun _ _ _ => (reads_rowValue_iff _ _ _ _ _).mpr⟩
  unfold Row.get
  rw [Reads.bind_iff (local_nulls _ _) fun nulls =>
    (local_mapM' (local_rowValue nullable nulls) _).bind fun _ => local_pure _]
  constructor
  · rintro ⟨first, nulls, second, rfl, head, rest⟩
    obtain ⟨rfl, length⟩ := (reads_nulls_iff _ _ _ _).mp head
    obtain ⟨found, read, rfl⟩ :=
      (Reads.map_iff (local_mapM' (local_rowValue nullable first) _)).mp rest
    exact ⟨found, ⟨first, second, rfl, length, (values _ _ _).mp read⟩, rfl⟩
  · rintro ⟨found, ⟨nulls, body, rfl, length, pieces⟩, rfl⟩
    exact ⟨nulls, nulls, body, rfl, (reads_nulls_iff _ _ _ _).mpr ⟨rfl, length⟩,
      (Reads.map_iff (local_mapM' (local_rowValue nullable nulls) _)).mpr
        ⟨found, (values _ _ _).mpr pieces, rfl⟩⟩

end records

section step

theorem reads_addRows_iff (state next : QueryState) (done : Done) (bytes : Bytes) :
    Reads (state.addRows done) bytes next ↔
      bytes = [] ∧ state.apply (.done done) = some next := by
  unfold QueryState.addRows
  dsimp only [QueryState.apply]
  split_ifs with counted fits
  · rw [reads_pure_iff, Option.some_inj, eq_comm (a := next)]
  · exact iff_of_false not_reads_panic fun both => nomatch both.2
  · rw [reads_pure_iff, Option.some_inj, eq_comm (a := next)]

theorem reads_addRow_iff (state next : QueryState) (nullable : Bool) (bytes : Bytes) :
    Reads (do return { state with rows := state.rows ++ [← Row.get nullable state.columns] })
        bytes next ↔
      ∃ values, IsRowBody nullable state.columns bytes values ∧
        state.apply (.row nullable values) = some next := by
  rw [Reads.map_iff (local_row _ _)]
  constructor
  · rintro ⟨row, read, rfl⟩
    obtain ⟨values, complete, rfl⟩ := (reads_row_iff _ _ _ _).mp read
    exact ⟨values, complete, rfl⟩
  · rintro ⟨values, complete, applied⟩
    cases applied
    exact ⟨_, (reads_row_iff _ _ _ _).mpr ⟨values, complete, rfl⟩, rfl⟩

theorem reads_addDone_iff (state next : QueryState) (bytes : Bytes) :
    Reads (do state.addRows (← Done.get)) bytes next ↔
      ∃ done, Reads Done.get bytes done ∧ state.apply (.done done) = some next := by
  rw [Reads.bind_iff local_done (local_addRows state)]
  constructor
  · rintro ⟨first, done, second, rfl, head, rest⟩
    obtain ⟨rfl, applied⟩ := (reads_addRows_iff _ _ _ _).mp rest
    exact ⟨done, (List.append_nil first).symm ▸ head, applied⟩
  · rintro ⟨done, read, applied⟩
    exact ⟨bytes, done, [], (List.append_nil bytes).symm, read,
      (reads_addRows_iff _ _ _ _).mpr ⟨rfl, applied⟩⟩

theorem isToken_of_reads {state next : QueryState} {code : UInt8} {bytes : Bytes}
    (reads : Reads (state.readToken code) bytes next) :
    ∃ token, IsToken state.columns token (code :: bytes) ∧ state.apply token = some next := by
  unfold QueryState.readToken at reads
  split at reads
  case h_1 byte =>
    obtain rfl : code = 0x81 := UInt8.toNat_inj.mp byte
    obtain ⟨found, read, rfl⟩ := (Reads.map_iff local_colMetaData).mp reads
    rcases (reads_colMetaData_iff _ _).mp read with ⟨rfl, rfl⟩ | ⟨count, body, counted, rfl, list⟩
    · exact ⟨_, .noMetaData, rfl⟩
    · exact ⟨_, .colMetaData counted list, rfl⟩
  case h_2 byte =>
    obtain rfl : code = 0xd1 := UInt8.toNat_inj.mp byte
    obtain ⟨values, body, applied⟩ := (reads_addRow_iff _ _ _ _).mp reads
    exact ⟨_, .row body, applied⟩
  case h_3 byte =>
    obtain rfl : code = 0xd2 := UInt8.toNat_inj.mp byte
    obtain ⟨values, body, applied⟩ := (reads_addRow_iff _ _ _ _).mp reads
    exact ⟨_, .row body, applied⟩
  case h_4 byte =>
    obtain rfl : code = 0xac := UInt8.toNat_inj.mp byte
    obtain ⟨first, returnValue, second, rfl, head, rest⟩ := (Reads.bind_iff local_returnValue
      (fun _ => (local_ofOutcome _).bind fun _ => local_pure _) _ _).mp reads
    obtain ⟨value, made, rfl⟩ := (Reads.map_iff (local_ofOutcome _)).mp rest
    obtain ⟨rfl, named⟩ := reads_ofOutcome_iff.mp made
    obtain ⟨typeInfo, known, rfl⟩ := ReturnValue.intoValue_ok named
    rw [List.append_nil]
    exact ⟨_, .returnValue head known, rfl⟩
  case h_5 byte =>
    obtain rfl : code = 0x79 := UInt8.toNat_inj.mp byte
    have number : Local Read.readU32Le := local_le _ _
    obtain ⟨status, read, rfl⟩ := (Reads.map_iff number).mp reads
    exact ⟨_, .returnStatus read, rfl⟩
  case h_9 byte =>
    obtain ⟨_, _, _, rest⟩ := of_bind_ok (reads [])
    obtain ⟨_, _, _, last⟩ := of_bind_ok rest
    cases last
  case h_10 byte =>
    obtain rfl : code = 0xe3 := UInt8.toNat_inj.mp byte
    obtain ⟨first, body, second, rfl, head, rest⟩ := (Reads.bind_iff Read.local_readLenPrefixed
      (fun _ => ((local_within _).mapErr _).bind fun _ => local_pure _) _ _).mp reads
    obtain ⟨change, parsed, rfl⟩ := (Reads.map_iff ((local_within body).mapErr _)).mp rest
    obtain ⟨rfl, unread, parsed⟩ := reads_within_iff.mp (reads_mapErr_iff.mp parsed)
    rw [List.append_nil]
    exact ⟨_, .envChange head parsed, rfl⟩
  case h_11 byte =>
    obtain rfl : code = 0xab := UInt8.toNat_inj.mp byte
    obtain ⟨body, read, rfl⟩ := (Reads.map_iff Read.local_readLenPrefixed).mp reads
    exact ⟨_, .info read, rfl⟩
  case h_12 => exact absurd reads not_reads_fail
  all_goals
    rename_i byte
    obtain ⟨counts, read, applied⟩ := (reads_addDone_iff _ _ _).mp reads
    exact ⟨_, .done (by rw [← UInt8.ofNat_toNat (x := code), byte]; decide) read, applied⟩

theorem reads_of_isToken {state next : QueryState} {token : ResponseToken} {code : UInt8}
    {bytes : Bytes} (is : IsToken state.columns token (code :: bytes))
    (applied : state.apply token = some next) : Reads (state.readToken code) bytes next := by
  cases is with
  | colMetaData counted list =>
    cases applied
    exact (Reads.map_iff local_colMetaData).mpr
      ⟨_, (reads_colMetaData_iff _ _).mpr (.inr ⟨_, _, counted, rfl, list⟩), rfl⟩
  | noMetaData =>
    cases applied
    exact (Reads.map_iff local_colMetaData).mpr
      ⟨_, (reads_colMetaData_iff _ _).mpr (.inl ⟨rfl, rfl⟩), rfl⟩
  | @row nullable _ values body =>
    have read := (reads_addRow_iff state next nullable bytes).mpr ⟨values, body, applied⟩
    cases nullable <;> exact read
  | @returnValue _ returnValue typeInfo read named =>
    cases applied
    have made : (returnValue.intoValue : Outcome Error MssqlValue) =
        .ok (.new typeInfo returnValue.value) := by
      rw [ReturnValue.intoValue, named]
      rfl
    rw [← List.append_nil bytes]
    exact read.bind ((Reads.map_iff (local_ofOutcome _)).mpr
      ⟨_, reads_ofOutcome_iff.mpr ⟨rfl, made⟩, rfl⟩)
  | returnStatus read =>
    cases applied
    have number : Local Read.readU32Le := local_le _ _
    exact (Reads.map_iff number).mpr ⟨_, read, rfl⟩
  | @done _ _ counts known read =>
    have body := (reads_addDone_iff state next bytes).mpr ⟨counts, read, applied⟩
    simp only [List.mem_cons, List.not_mem_nil, or_false] at known
    rcases known with rfl | rfl | rfl <;> exact body
  | @envChange _ body unread change read parsed =>
    cases applied
    rw [← List.append_nil bytes]
    exact read.bind ((Reads.map_iff ((local_within body).mapErr _)).mpr
      ⟨_, reads_mapErr_iff.mpr (reads_within_iff.mpr ⟨rfl, unread, parsed⟩), rfl⟩)
  | info read =>
    cases applied
    exact (Reads.map_iff Read.local_readLenPrefixed).mpr ⟨_, read, rfl⟩
  | error => cases applied
  | rejected => cases applied

/-- A step over a token byte reads the rest of a supported token, and only that. -/
theorem reads_readToken_iff (state next : QueryState) (code : UInt8) (bytes : Bytes) :
    Reads (state.readToken code) bytes next ↔
      ∃ token, IsToken state.columns token (code :: bytes) ∧ state.apply token = some next :=
  ⟨isToken_of_reads, fun ⟨_, is, applied⟩ => reads_of_isToken is applied⟩

end step
end SqlxSqlserver.Protocol

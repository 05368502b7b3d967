import SqlxSqlserver.Foundation.LittleEndian
import SqlxSqlserver.Protocol.QuerySoundness
import SqlxSqlserver.Protocol.WireForm

/-! The two encodings of a row: ROW spells every NULL out in the form of its type, NBCROW marks
them in a bitmap in front and leaves them out. Both stand for the same tuple of values. -/

namespace SqlxSqlserver.Protocol
open Foundation Reader Driver

/-- A tuple with a valid value for every column. -/
def IsTuple (columns : List MssqlColumn) (values : List (Option Bytes)) : Prop :=
  List.Forall₂ (fun column value => ∃ typeInfo,
    column.typeInfo.protocolTypeInfo = some typeInfo ∧ typeInfo.Admits value) columns values

def IsColumnValue (column : MssqlColumn) (bytes : Bytes) (value : Option Bytes) : Prop :=
  ∃ typeInfo, column.typeInfo.protocolTypeInfo = some typeInfo ∧ IsWireForm typeInfo value bytes

def IsPlainRow (columns : List MssqlColumn) (bytes : Bytes) (values : List (Option Bytes)) : Prop :=
  Pieces IsColumnValue columns bytes values

def IsPresentValue (column : MssqlColumn) (bytes : Bytes) : Option Bytes → Prop
  | none => bytes = []
  | some data => IsColumnValue column bytes (some data)

/-- The body of an NBCROW: a bit for every column, set for NULL, and the other values. -/
def IsBitmapRow (columns : List MssqlColumn) (bytes : Bytes) (values : List (Option Bytes)) : Prop :=
  ∃ present, bytes = packBits (values.map Option.isNone) ++ present ∧
    Pieces IsPresentValue columns present values

def tupleValues (columns : List MssqlColumn) (values : List (Option Bytes)) : List MssqlValue :=
  List.zipWith (fun column data => .new column.typeInfo data) columns values

section encodings
variable {columns : List MssqlColumn} {values : List (Option Bytes)}

theorem IsTuple.plainRow (tuple : IsTuple columns values) :
    ∃ bytes, IsPlainRow columns bytes values := by
  apply Pieces.exists_of_forall₂ _ tuple
  rintro column value ⟨typeInfo, known, admitted⟩
  cases value with
  | none =>
    obtain ⟨piece, form⟩ := exists_nullForm admitted
    exact ⟨piece, typeInfo, known, form⟩
  | some data =>
    obtain ⟨piece, form⟩ := exists_dataForm admitted
    exact ⟨piece, typeInfo, known, form⟩

theorem IsTuple.bitmapRow (tuple : IsTuple columns values) :
    ∃ bytes, IsBitmapRow columns bytes values := by
  have present : ∃ present, Pieces IsPresentValue columns present values := by
    apply Pieces.exists_of_forall₂ _ tuple
    rintro column value ⟨typeInfo, known, admitted⟩
    cases value with
    | none => exact ⟨[], rfl⟩
    | some data =>
      obtain ⟨piece, form⟩ := exists_dataForm admitted
      exact ⟨piece, typeInfo, known, form⟩
  obtain ⟨present, pieces⟩ := present
  exact ⟨_, present, rfl, pieces⟩

theorem pieces_zipIdx {P : MssqlColumn → Bytes → Option Bytes → Prop} {nullable : Bool}
    {nulls bytes : Bytes} {start : Nat} (pieces : Pieces P columns bytes values)
    (each : ∀ index column piece value, values[index]? = some value → P column piece value →
      IsValue nullable nulls (column, start + index) piece (.new column.typeInfo value)) :
    Pieces (IsValue nullable nulls) (columns.zipIdx start) bytes (tupleValues columns values) := by
  induction pieces generalizing start with
  | nil => exact .nil
  | @cons column columns piece bytes value values head _ ih =>
    rw [List.zipIdx_cons]
    apply Pieces.cons (each 0 column piece value rfl head)
    apply ih
    intro index column piece value found form
    have later := each (index + 1) column piece value found form
    rwa [← Nat.add_assoc, Nat.add_right_comm] at later

theorem isValue_of_columnValue {nullable : Bool} {nulls bytes : Bytes} {index : Nat}
    {column : MssqlColumn} {value : Option Bytes} (clear : nullAt nullable nulls index = some false)
    (form : IsColumnValue column bytes value) :
    IsValue nullable nulls (column, index) bytes (.new column.typeInfo value) := by
  obtain ⟨typeInfo, known, form⟩ := form
  exact .inr ⟨clear, typeInfo, value, known, reads_getValue form, rfl⟩

theorem IsPlainRow.isRowBody {bytes : Bytes} (plain : IsPlainRow columns bytes values) :
    IsRowBody false columns bytes (tupleValues columns values) := by
  refine ⟨[], bytes, rfl, rfl, pieces_zipIdx plain ?_⟩
  intro index column piece value _ form
  exact isValue_of_columnValue rfl form

theorem IsBitmapRow.isRowBody {bytes : Bytes} (bitmap : IsBitmapRow columns bytes values) :
    IsRowBody true columns bytes (tupleValues columns values) := by
  obtain ⟨present, rfl, pieces⟩ := bitmap
  have count := pieces.length
  refine ⟨_, present, rfl, ?_, pieces_zipIdx pieces ?_⟩
  · rw [packBits_length, List.length_map, count]
    rfl
  · intro index column piece value found form
    have inside : index < (values.map Option.isNone).length := by
      rw [List.length_map]
      exact (List.getElem?_eq_some_iff.mp found).1
    have bit : nullAt true (packBits (values.map Option.isNone)) (0 + index) =
        some value.isNone := by
      rw [nullAt, if_pos rfl, Nat.zero_add, packBits_bit _ inside, List.getElem?_map, found]
      rfl
    cases value with
    | none => exact .inl ⟨bit, form, rfl⟩
    | some data => exact isValue_of_columnValue bit form

/-- Every valid tuple has both encodings, and each of its encodings is read as the row of the
tuple, up to the bytes that follow. -/
theorem row_encodings_agree (columns : List MssqlColumn) (values : List (Option Bytes))
    (tuple : IsTuple columns values) :
    (∃ plain, IsPlainRow columns plain values) ∧ (∃ bitmap, IsBitmapRow columns bitmap values) ∧
    ∀ plain bitmap rest, IsPlainRow columns plain values → IsBitmapRow columns bitmap values →
      Row.get false columns (plain ++ rest) =
        .ok (.newShared columns (tupleValues columns values), rest) ∧
      Row.get true columns (bitmap ++ rest) =
        .ok (.newShared columns (tupleValues columns values), rest) := by
  refine ⟨tuple.plainRow, tuple.bitmapRow, ?_⟩
  intro plain bitmap rest isPlain isBitmap
  have plainReads := (reads_row_iff false columns plain _).mpr ⟨_, isPlain.isRowBody, rfl⟩
  have bitmapReads := (reads_row_iff true columns bitmap _).mpr ⟨_, isBitmap.isRowBody, rfl⟩
  exact ⟨plainReads rest, bitmapReads rest⟩

end encodings

def mixedColumns : List MssqlColumn := [
  .new 0 "id" {
    kind := .int, variableLength := false, size := some 4
    protocolTypeInfo := some (.new .int 4) },
  .new 1 "parent" {
    kind := .int, variableLength := true, size := some 4
    protocolTypeInfo := some (.new .intN 4) },
  .new 2 "content" {
    kind := .varBinary, variableLength := true, size := some 0xffff
    protocolTypeInfo := some (.new .bigVarBinary 0xffff) }]

theorem row_encodings_agree_mixed :
    Row.get false mixedColumns ([1, 0, 0, 0, 0,
        0xfe, 0xff, 0xff, 0xff, 0xff, 0xff, 0xff, 0xff, 1, 0, 0, 0, 5, 1, 0, 0, 0, 6, 0, 0, 0, 0] ++
        [7]) =
      .ok (.newShared mixedColumns
        (tupleValues mixedColumns [some [1, 0, 0, 0], none, some [5, 6]]), [7]) ∧
    Row.get true mixedColumns ([2, 1, 0, 0, 0,
        2, 0, 0, 0, 0, 0, 0, 0, 2, 0, 0, 0, 5, 6, 0, 0, 0, 0] ++ [7]) =
      .ok (.newShared mixedColumns
        (tupleValues mixedColumns [some [1, 0, 0, 0], none, some [5, 6]]), [7]) := by
  have tuple : IsTuple mixedColumns [some [1, 0, 0, 0], none, some [5, 6]] :=
    .cons ⟨_, rfl, rfl⟩ (.cons ⟨_, rfl, show ValueForm.byteLen ≠ .fixed by decide⟩
      (.cons ⟨_, rfl, .inl rfl⟩ .nil))
  have twoChunks : IsWireForm (.new .bigVarBinary 0xffff) (some ([[5], [6]] : List Bytes).flatten) _ :=
    .chunked rfl rfl (by decide) (by decide) (.inl rfl)
  have oneChunk : IsWireForm (.new .bigVarBinary 0xffff) (some ([[5, 6]] : List Bytes).flatten) _ :=
    .chunked rfl rfl (by decide) (by decide) (.inr ⟨rfl, by decide⟩)
  have plain : IsPlainRow mixedColumns _ [some [1, 0, 0, 0], none, some [5, 6]] :=
    .cons ⟨_, rfl, .fixed rfl rfl⟩ (.cons ⟨_, rfl, .byteLenNull rfl (.inl rfl)⟩
      (.cons ⟨_, rfl, twoChunks⟩ .nil))
  have present : Pieces IsPresentValue mixedColumns _ [some [1, 0, 0, 0], none, some [5, 6]] :=
    .cons ⟨_, rfl, .fixed rfl rfl⟩ (.cons rfl (.cons ⟨_, rfl, oneChunk⟩ .nil))
  exact (row_encodings_agree mixedColumns _ tuple).2.2 _ _ [7] plain ⟨_, rfl, present⟩

end SqlxSqlserver.Protocol

import SqlxSqlserver.Protocol.Query

/-! The grammar of a query response: the tokens, the bytes each stands for under the columns in
force, and what a step of the parser makes of a token. -/

namespace SqlxSqlserver.Protocol
open Foundation Reader Driver

inductive ResponseToken where
  | colMetaData (columns : List MssqlColumn)
  /-- ROW, or NBCROW when nullable. -/
  | row (nullable : Bool) (values : List MssqlValue)
  | returnValue (value : MssqlValue)
  | returnStatus (status : Nat)
  /-- DONE, DONEPROC or DONEINPROC -/
  | done (done : Done)
  | envChange (change : EnvChange)
  | info (body : Bytes)
  | error (error : ServerError)
  /-- A token the parser does not support. -/
  | rejected (bytes : Bytes)
  deriving DecidableEq

def IsColumn (ordinal : Nat) (bytes : Bytes) (column : MssqlColumn) : Prop :=
  ∃ data typeInfo, Reads ColumnData.get bytes data ∧
    (MssqlTypeInfo.fromProtocol data.typeInfo : Outcome Error _) = .ok typeInfo ∧
    column = .new ordinal data.colName typeInfo

def nullAt (nullable : Bool) (nulls : Bytes) (index : Nat) : Option Bool :=
  if nullable then nulls[index / 8]?.map (· &&& (1 <<< UInt8.ofNat (index % 8)) != 0)
  else some false

/-- No bytes for a NULL of the bitmap, and else a value in the form of the column's type. -/
def IsValue (nullable : Bool) (nulls : Bytes) (item : MssqlColumn × Nat) (bytes : Bytes)
    (value : MssqlValue) : Prop :=
  nullAt nullable nulls item.2 = some true ∧ bytes = [] ∧ value = .null item.1.typeInfo ∨
  nullAt nullable nulls item.2 = some false ∧ ∃ typeInfo data,
    item.1.typeInfo.protocolTypeInfo = some typeInfo ∧ Reads typeInfo.getValue bytes data ∧
    value = .new item.1.typeInfo data

def IsRowBody (nullable : Bool) (columns : List MssqlColumn) (bytes : Bytes)
    (values : List MssqlValue) : Prop :=
  ∃ nulls body, bytes = nulls ++ body ∧ nulls.length = Row.nullBytes nullable columns ∧
    Pieces (IsValue nullable nulls) columns.zipIdx body values

/-- `bytes` is the complete token, under the columns of the latest COLMETADATA. -/
inductive IsToken (columns : List MssqlColumn) : ResponseToken → Bytes → Prop where
  | colMetaData {count : Nat} {bytes : Bytes} {found : List MssqlColumn} (counted : count < 0xffff)
      (list : Pieces IsColumn (List.range count) bytes found) :
      IsToken columns (.colMetaData found) (0x81 :: (leBytes 2 count ++ bytes))
  | noMetaData : IsToken columns (.colMetaData []) (0x81 :: leBytes 2 0xffff)
  | row {nullable : Bool} {bytes : Bytes} {values : List MssqlValue}
      (body : IsRowBody nullable columns bytes values) :
      IsToken columns (.row nullable values) ((if nullable then 0xd2 else 0xd1) :: bytes)
  | returnValue {bytes : Bytes} {returnValue : ReturnValue} {typeInfo : MssqlTypeInfo}
      (read : Reads ReturnValue.get bytes returnValue)
      (named : (MssqlTypeInfo.fromProtocol returnValue.typeInfo : Outcome Error _) = .ok typeInfo) :
      IsToken columns (.returnValue (.new typeInfo returnValue.value)) (0xac :: bytes)
  | returnStatus {bytes : Bytes} {status : Nat} (read : Reads Read.readU32Le bytes status) :
      IsToken columns (.returnStatus status) (0x79 :: bytes)
  | done {kind : UInt8} {bytes : Bytes} {done : Done} (known : kind ∈ [0xfd, 0xfe, 0xff])
      (read : Reads Done.get bytes done) : IsToken columns (.done done) (kind :: bytes)
  | envChange {bytes body unread : Bytes} {change : EnvChange}
      (read : Reads Read.readLenPrefixed bytes body)
      (parsed : parseEnvChange body = .ok (change, unread)) :
      IsToken columns (.envChange change) (0xe3 :: bytes)
  | info {bytes body : Bytes} (read : Reads Read.readLenPrefixed bytes body) :
      IsToken columns (.info body) (0xab :: bytes)
  | error {bytes body unread : Bytes} {error : ServerError}
      (read : Reads Read.readLenPrefixed bytes body)
      (parsed : parseError body = .ok (error, unread)) :
      IsToken columns (.error error) (0xaa :: bytes)
  | rejected {bytes : Bytes} (nonempty : bytes ≠ [])
      (fails : ∀ (state : QueryState) (rest : Bytes), state.columns = columns →
        ∃ error, state.step (bytes ++ rest) = .err error) :
      IsToken columns (.rejected bytes) bytes

namespace ResponseToken

def Supported : ResponseToken → Prop
  | .error _ | .rejected _ => False
  | _ => True

def columnsAfter (columns : List MssqlColumn) : ResponseToken → List MssqlColumn
  | .colMetaData found => found
  | _ => columns

def rowCount : ResponseToken → Nat
  | .done counts => if counts.status.contains .doneCount then counts.affectedRows else 0
  | _ => 0

end ResponseToken

/-- What the parser makes of a token it supports, while the sum of the row counts fits. -/
def QueryState.apply (self : QueryState) : ResponseToken → Option QueryState
  | .colMetaData columns => some { self with columns }
  | .row _ values => some { self with rows := self.rows ++ [.newShared self.columns values] }
  | .returnValue value => some { self with returnValues := self.returnValues ++ [value] }
  | .returnStatus _ | .info _ => some self
  | .done counts =>
    if counts.status.contains .doneCount then
      if self.rowsAffected + counts.affectedRows ≤ u64Max then
        some { self with rowsAffected := self.rowsAffected + counts.affectedRows }
      else none
    else some self
  | .envChange change => some { self with envChanges := self.envChanges ++ [change] }
  | .error _ | .rejected _ => none

section locality

theorem local_columnData : Local ColumnData.get :=
  (local_le _ _).bind fun _ => (local_le _ _).bind fun _ => (TypeInfo.local_get.mapErr _).bind
    fun _ => Read.local_readBVarchar.bind fun _ => local_pure _

theorem local_getColumn (ordinal : Nat) : Local (ColMetaData.getColumn ordinal) :=
  local_columnData.bind fun _ => (local_ofOutcome _).bind fun _ => local_pure _

theorem local_colMetaData : Local ColMetaData.get := by
  apply (local_le _ _).bind
  intro count
  split
  · exact local_pure _
  · exact local_mapM' local_getColumn _

theorem local_nullBit (nulls : Bytes) (index : Nat) : Local (Row.nullBit nulls index) := by
  unfold Row.nullBit
  split
  · exact local_pure _
  · exact local_panic _

theorem local_isNull (nullable : Bool) (nulls : Bytes) (index : Nat) :
    Local (Row.isNull nullable nulls index) := by
  unfold Row.isNull
  split
  · exact local_nullBit _ _
  · exact local_pure _

theorem local_getPresent (typeInfo : MssqlTypeInfo) : Local (Row.getPresent typeInfo) := by
  unfold Row.getPresent
  split
  · exact local_fail _
  · exact ((TypeInfo.local_getValue _).mapErr _).bind fun _ => local_pure _

theorem local_behindBit (typeInfo : MssqlTypeInfo) (bit : Bool) :
    Local (if bit then pure (.null typeInfo) else Row.getPresent typeInfo) := by
  split
  · exact local_pure _
  · exact local_getPresent _

theorem local_rowValue (nullable : Bool) (nulls : Bytes) (item : MssqlColumn × Nat) :
    Local (Row.getValue nullable nulls item) :=
  (local_isNull _ _ _).bind (local_behindBit item.1.typeInfo)

theorem local_nulls (nullable : Bool) (count : Nat) :
    Local (if nullable then Read.take count else pure [] : Reader Error Bytes) := by
  split
  · exact local_take _ _
  · exact local_pure _

theorem local_row (nullable : Bool) (columns : List MssqlColumn) :
    Local (Row.get nullable columns) :=
  (local_nulls _ _).bind fun nulls => (local_mapM' (local_rowValue nullable nulls) _).bind
    fun _ => local_pure _

theorem local_returnHeader : Local ReturnValue.getHeader :=
  (local_le _ _).bind fun _ => Read.local_readBVarchar.bind fun _ => (local_byte _).bind fun _ =>
    (local_le _ _).bind fun _ => (local_le _ _).bind fun _ =>
    (TypeInfo.local_get.mapErr _).bind fun _ => local_pure _

theorem local_returnValue : Local ReturnValue.get :=
  local_returnHeader.bind fun _ => ((TypeInfo.local_getValue _).mapErr _).bind fun _ => local_pure _

theorem local_done : Local Done.get :=
  (local_le _ _).bind fun _ => (local_le _ _).bind fun _ => (local_le _ _).bind fun _ =>
    local_pure _

theorem local_addRows (state : QueryState) (done : Done) : Local (state.addRows done) := by
  unfold QueryState.addRows
  split
  · split
    · exact local_pure _
    · exact local_panic _
  · exact local_pure _

theorem local_readToken (state : QueryState) (token : UInt8) : Local (state.readToken token) := by
  unfold QueryState.readToken
  split
  case h_1 => exact local_colMetaData.bind fun _ => local_pure _
  case h_2 => exact (local_row _ _).bind fun _ => local_pure _
  case h_3 => exact (local_row _ _).bind fun _ => local_pure _
  case h_4 =>
    exact local_returnValue.bind fun _ => (local_ofOutcome _).bind fun _ => local_pure _
  case h_5 => exact (local_le _ _).bind fun _ => local_pure _
  case h_9 =>
    exact Read.local_readLenPrefixed.bind fun _ => ((local_within _).mapErr _).bind
      fun _ => local_fail _
  case h_10 =>
    exact Read.local_readLenPrefixed.bind fun _ => ((local_within _).mapErr _).bind
      fun _ => local_pure _
  case h_11 => exact Read.local_readLenPrefixed.bind fun _ => local_pure _
  case h_12 => exact local_fail _
  all_goals exact local_done.bind fun _ => local_addRows _ _

/-- The parser decides on the bytes of the token in front of it. -/
theorem local_step (state : QueryState) : Local state.step :=
  (local_byte _).bind (local_readToken state)

theorem consumes_step : Consumes QueryState.step := fun state =>
  (shrinks_byte _).bind (local_readToken state)

end locality
end SqlxSqlserver.Protocol

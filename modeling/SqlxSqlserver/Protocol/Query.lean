import SqlxSqlserver.Driver.Value
import SqlxSqlserver.Protocol.Token

/-! Parsing of a query response: column metadata, rows, return values and row counts, and the
loop over the tokens. -/

namespace SqlxSqlserver.Protocol
open Foundation Reader Driver

structure Flags where
  bits : UInt16
  deriving DecidableEq, Repr

def Flags.fromBitsTruncate (bits : UInt16) : Flags := ⟨bits &&& 0x3f3f⟩

def typeInfoError (error : TypeInfoError) : Error := .protocol error.message

structure ColumnData where
  userType : Nat
  flags : Flags
  typeInfo : TypeInfo
  colName : String
  deriving DecidableEq, Repr

def ColumnData.get : Reader Error ColumnData := do
  let userType ← Read.readU32Le
  let flags := Flags.fromBitsTruncate (UInt16.ofNat (← Read.readU16Le))
  let typeInfo ← TypeInfo.get.mapErr typeInfoError
  let colName ← Read.readBVarchar
  return { userType, flags, typeInfo, colName }

namespace ColMetaData

def getColumn (ordinal : Nat) : Reader Error MssqlColumn := do
  let column ← ColumnData.get
  let typeInfo ← ofOutcome (MssqlTypeInfo.fromProtocol column.typeInfo)
  return .new ordinal column.colName typeInfo

def get : Reader Error (List MssqlColumn) := do
  let count ← Read.readU16Le
  if count = 0xffff then return []
  else (List.range count).mapM' getColumn

end ColMetaData

namespace Row

def nullBit (nulls : Bytes) (index : Nat) : Reader Error Bool :=
  match nulls[index / 8]? with
  | some byte => pure (byte &&& (1 <<< UInt8.ofNat (index % 8)) != 0)
  | none => Reader.panic s!"index out of bounds: the len is {nulls.length} but the index is {index / 8}"

def isNull (nullable : Bool) (nulls : Bytes) (index : Nat) : Reader Error Bool :=
  if nullable then nullBit nulls index else pure false

def getPresent (typeInfo : MssqlTypeInfo) : Reader Error MssqlValue :=
  match typeInfo.protocolTypeInfo with
  | none => fail (.protocol ("missing protocol type info for " ++ typeInfo.name))
  | some protocolTypeInfo => do
    let data ← protocolTypeInfo.getValue.mapErr typeInfoError
    return .new typeInfo data

def getValue (nullable : Bool) (nulls : Bytes) (item : MssqlColumn × Nat) :
    Reader Error MssqlValue := do
  if ← isNull nullable nulls item.2 then
    return .null item.1.typeInfo
  else
    getPresent item.1.typeInfo

def nullBytes (nullable : Bool) (columns : List MssqlColumn) : Nat :=
  if nullable then (columns.length + 7) / 8 else 0

def get (nullable : Bool) (columns : List MssqlColumn) : Reader Error MssqlRow := do
  let nulls ← (if nullable then Read.take (nullBytes nullable columns) else pure [])
  let values ← columns.zipIdx.mapM' (getValue nullable nulls)
  return .newShared columns values

end Row

structure ReturnValueStatus where
  bits : UInt8
  deriving DecidableEq, Repr

def ReturnValueStatus.fromBitsTruncate (bits : UInt8) : ReturnValueStatus := ⟨bits &&& 0x03⟩

structure ReturnValue where
  paramOrdinal : Nat
  paramName : String
  status : ReturnValueStatus
  userType : Nat
  flags : Flags
  typeInfo : TypeInfo
  value : Option Bytes
  deriving DecidableEq, Repr

namespace ReturnValue

def getHeader : Reader Error ReturnValue := do
  let paramOrdinal ← Read.readU16Le
  let paramName ← Read.readBVarchar
  let status := ReturnValueStatus.fromBitsTruncate (← Read.readU8)
  let userType ← Read.readU32Le
  let flags := Flags.fromBitsTruncate (UInt16.ofNat (← Read.readU16Le))
  let typeInfo ← TypeInfo.get.mapErr typeInfoError
  return { paramOrdinal, paramName, status, userType, flags, typeInfo, value := none }

def get : Reader Error ReturnValue := do
  let header ← getHeader
  let value ← header.typeInfo.getValue.mapErr typeInfoError
  return { header with value }

def intoValue {ε : Type} (self : ReturnValue) : Outcome ε MssqlValue := do
  return .new (← MssqlTypeInfo.fromProtocol self.typeInfo) self.value

theorem intoValue_ok {ε : Type} {self : ReturnValue} {value : MssqlValue}
    (made : (self.intoValue : Outcome ε MssqlValue) = .ok value) : ∃ typeInfo,
    (MssqlTypeInfo.fromProtocol self.typeInfo : Outcome ε _) = .ok typeInfo ∧
      value = .new typeInfo self.value := by
  unfold intoValue at made
  cases named : (MssqlTypeInfo.fromProtocol self.typeInfo : Outcome ε MssqlTypeInfo) with
  | ok typeInfo =>
    rw [named] at made
    exact ⟨typeInfo, rfl, (Outcome.ok.inj made).symm⟩
  | err error => rw [named] at made; cases made
  | panic message => rw [named] at made; cases made

theorem intoValue_panics_iff {ε : Type} (self : ReturnValue) :
    (∃ message, (self.intoValue : Outcome ε MssqlValue) = .panic message) ↔
      self.typeInfo.Nameless := by
  rw [← MssqlTypeInfo.fromProtocol_panics_iff (ε := ε), intoValue]
  cases (MssqlTypeInfo.fromProtocol self.typeInfo : Outcome ε MssqlTypeInfo) with
  | ok typeInfo => exact iff_of_false nofun nofun
  | err error => exact iff_of_false nofun nofun
  | panic message => exact iff_of_true ⟨_, rfl⟩ ⟨_, rfl⟩

end ReturnValue

structure Status where
  bits : UInt16
  deriving DecidableEq, Repr

namespace Status

def doneCount : Status := ⟨0x0010⟩

def fromBitsTruncate (bits : UInt16) : Status := ⟨bits &&& 0x0117⟩

def contains (self other : Status) : Bool := self.bits &&& other.bits == other.bits

end Status

structure Done where
  status : Status
  cursorCommand : Nat
  affectedRows : Nat
  deriving DecidableEq, Repr

def Done.get : Reader Error Done := do
  let status := Status.fromBitsTruncate (UInt16.ofNat (← Read.readU16Le))
  let cursorCommand ← Read.readU16Le
  let affectedRows ← Read.readU64Le
  return { status, cursorCommand, affectedRows }

structure QueryOutput where
  columns : List MssqlColumn
  rows : List MssqlRow
  result : MssqlQueryResult
  returnValues : List MssqlValue
  envChanges : List EnvChange
  deriving DecidableEq, Repr

def tokenParseError (error : TokenParseError) : Error := .protocol error.message

def serverError (error : ServerError) : Error := .database error

structure QueryState where
  columns : List MssqlColumn
  rows : List MssqlRow
  returnValues : List MssqlValue
  envChanges : List EnvChange
  rowsAffected : Nat
  deriving DecidableEq, Repr

def u64Max : Nat := 2 ^ 64 - 1

namespace QueryState

def empty : QueryState :=
  { columns := [], rows := [], returnValues := [], envChanges := [], rowsAffected := 0 }

/-- `rows_affected += done.affected_rows`, with the overflow check of `u64`. -/
def addRows (self : QueryState) (done : Done) : Reader Error QueryState :=
  if done.status.contains .doneCount then
    if self.rowsAffected + done.affectedRows ≤ u64Max then
      pure { self with rowsAffected := self.rowsAffected + done.affectedRows }
    else Reader.panic "attempt to add with overflow"
  else pure self

def readToken (self : QueryState) (token : UInt8) : Reader Error QueryState :=
  match token.toNat with
  | 0x81 => do return { self with columns := ← ColMetaData.get }
  | 0xd1 => do return { self with rows := self.rows ++ [← Row.get false self.columns] }
  | 0xd2 => do return { self with rows := self.rows ++ [← Row.get true self.columns] }
  | 0xac => do
    let returnValue ← ReturnValue.get
    let value ← ofOutcome returnValue.intoValue
    return { self with returnValues := self.returnValues ++ [value] }
  | 0x79 => do
    let _ ← Read.readU32Le
    return self
  | 0xfd | 0xfe | 0xff => do self.addRows (← Done.get)
  | 0xaa => do
    let error ← (parseError.within (← Read.readLenPrefixed)).mapErr tokenParseError
    fail (serverError error)
  | 0xe3 => do
    let change ← (parseEnvChange.within (← Read.readLenPrefixed)).mapErr tokenParseError
    return { self with envChanges := self.envChanges ++ [change] }
  | 0xab => do
    let _ ← Read.readLenPrefixed
    return self
  | _ => fail (.protocol ("unsupported SQL Server query token 0x" ++ hexByte token))

def step (self : QueryState) : Reader Error QueryState := do
  self.readToken (← Read.readU8)

def output (self : QueryState) : QueryOutput :=
  { columns := self.columns, rows := self.rows, result := ⟨self.rowsAffected⟩
    returnValues := self.returnValues, envChanges := self.envChanges }

end QueryState

def parseQueryResponse (input : Bytes) : Outcome Error QueryOutput :=
  match untilEmpty QueryState.step .empty input with
  | .ok (state, _) => .ok state.output
  | .err error => .err error
  | .panic message => .panic message

end SqlxSqlserver.Protocol

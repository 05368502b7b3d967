import SqlxSqlserver.Protocol.TypeInfo

/-! The driver's type information and how it is made from a TYPE_INFO of the wire. -/

namespace SqlxSqlserver.Driver
open Foundation Protocol

inductive MssqlType where
  | null
  | bit
  | tinyInt
  | smallInt
  | int
  | bigInt
  | real
  | float
  | nVarChar
  | varChar
  | varBinary
  | decimal
  | money
  | date
  | time
  | dateTime
  | dateTime2
  | dateTimeOffset
  | uniqueIdentifier
  | other (name : String)
  deriving DecidableEq, Repr

def MssqlType.debug : MssqlType → String
  | .null => "Null"
  | .bit => "Bit"
  | .tinyInt => "TinyInt"
  | .smallInt => "SmallInt"
  | .int => "Int"
  | .bigInt => "BigInt"
  | .real => "Real"
  | .float => "Float"
  | .nVarChar => "NVarChar"
  | .varChar => "VarChar"
  | .varBinary => "VarBinary"
  | .decimal => "Decimal"
  | .money => "Money"
  | .date => "Date"
  | .time => "Time"
  | .dateTime => "DateTime"
  | .dateTime2 => "DateTime2"
  | .dateTimeOffset => "DateTimeOffset"
  | .uniqueIdentifier => "UniqueIdentifier"
  | .other name => "Other(" ++ name.quote ++ ")"

structure MssqlTypeInfo where
  kind : MssqlType
  variableLength : Bool
  size : Option UInt16
  protocolTypeInfo : Option TypeInfo
  deriving DecidableEq, Repr

namespace MssqlTypeInfo

def new (kind : MssqlType) : MssqlTypeInfo :=
  { kind, variableLength := false, size := none, protocolTypeInfo := none }

def withSize (kind : MssqlType) (size : UInt16) : MssqlTypeInfo :=
  { kind, variableLength := true, size := some size, protocolTypeInfo := none }

/-- The size is cast with `as u16`. -/
def withProtocol (kind : MssqlType) (protocolTypeInfo : TypeInfo) : MssqlTypeInfo where
  kind
  variableLength := true
  size := some (UInt16.ofNat protocolTypeInfo.size)
  protocolTypeInfo := some protocolTypeInfo

def scale (self : MssqlTypeInfo) : UInt8 :=
  match self.protocolTypeInfo with
  | some protocolTypeInfo => protocolTypeInfo.scale
  | none => 0

def precision (self : MssqlTypeInfo) : UInt8 :=
  match self.protocolTypeInfo with
  | some protocolTypeInfo => protocolTypeInfo.precision
  | none => 0

def bit : MssqlTypeInfo := new .bit
def tinyInt : MssqlTypeInfo := new .tinyInt
def smallInt : MssqlTypeInfo := new .smallInt
def int : MssqlTypeInfo := new .int
def bigInt : MssqlTypeInfo := new .bigInt
def real : MssqlTypeInfo := new .real
def float : MssqlTypeInfo := new .float
def nVarChar : MssqlTypeInfo := new .nVarChar
def varBinary : MssqlTypeInfo := new .varBinary

def date : MssqlTypeInfo := .withProtocol .date ⟨.dateN, 3, 0, 10, none⟩
def time : MssqlTypeInfo := .withProtocol .time ⟨.timeN, 5, 7, 0, none⟩
def dateTime2 : MssqlTypeInfo := .withProtocol .dateTime2 ⟨.dateTime2N, 8, 7, 0, none⟩
def dateTimeOffset : MssqlTypeInfo :=
  .withProtocol .dateTimeOffset ⟨.dateTimeOffsetN, 10, 7, 34, none⟩

def decimal : MssqlTypeInfo := .withProtocol .decimal ⟨.numericN, 17, 0, 38, none⟩
def uniqueIdentifier : MssqlTypeInfo := .withProtocol .uniqueIdentifier ⟨.guid, 16, 0, 0, none⟩

def decimalWithScale (scale : UInt8) : MssqlTypeInfo :=
  .withProtocol .decimal ⟨.numericN, 17, scale, 38, none⟩

def name (self : MssqlTypeInfo) : String :=
  match self.kind with
  | .null => "NULL"
  | .bit => "BIT"
  | .tinyInt => "TINYINT"
  | .smallInt => "SMALLINT"
  | .int => "INT"
  | .bigInt => "BIGINT"
  | .real => "REAL"
  | .float => "FLOAT"
  | .nVarChar => "NVARCHAR"
  | .varChar => "VARCHAR"
  | .varBinary => "VARBINARY"
  | .decimal => "DECIMAL"
  | .money => "MONEY"
  | .date => "DATE"
  | .time => "TIME"
  | .dateTime => "DATETIME"
  | .dateTime2 => "DATETIME2"
  | .dateTimeOffset => "DATETIMEOFFSET"
  | .uniqueIdentifier => "UNIQUEIDENTIFIER"
  | .other name => name

/-- The match of `from_protocol`. A size the type does not have falls to the name of the
TYPE_INFO. -/
def kindOf {ε : Type} (typeInfo : TypeInfo) : Outcome ε MssqlType :=
  match typeInfo.ty with
  | .null => .ok .null
  | .bit | .bitN => .ok .bit
  | .tinyInt => .ok .tinyInt
  | .smallInt => .ok .smallInt
  | .int => .ok .int
  | .bigInt => .ok .bigInt
  | .real => .ok .real
  | .float => .ok .float
  | .intN =>
    match typeInfo.size with
    | 1 => .ok .tinyInt
    | 2 => .ok .smallInt
    | 4 => .ok .int
    | 8 => .ok .bigInt
    | _ => do return .other (← typeInfo.name)
  | .floatN =>
    match typeInfo.size with
    | 4 => .ok .real
    | 8 => .ok .float
    | _ => do return .other (← typeInfo.name)
  | .nVarChar | .nChar => .ok .nVarChar
  | .varChar | .char | .bigVarChar | .bigChar => .ok .varChar
  | .varBinary | .binary | .bigVarBinary | .bigBinary => .ok .varBinary
  | .decimal | .decimalN | .numeric | .numericN => .ok .decimal
  | .money | .moneyN | .smallMoney => .ok .money
  | .dateN => .ok .date
  | .timeN => .ok .time
  | .dateTime | .dateTimeN | .smallDateTime => .ok .dateTime
  | .dateTime2N => .ok .dateTime2
  | .dateTimeOffsetN => .ok .dateTimeOffset
  | .guid => .ok .uniqueIdentifier
  | .xml | .userDefined | .text | .image | .nText | .variant => do
    return .other (← typeInfo.name)

def shortSize (size : Nat) : Option UInt16 :=
  if size < 65536 then some (UInt16.ofNat size) else none

def fromProtocol {ε : Type} (typeInfo : TypeInfo) : Outcome ε MssqlTypeInfo := do
  let kind ← kindOf typeInfo
  return {
    kind
    variableLength := typeInfo.isNullableOrVariableLength
    size := shortSize typeInfo.size
    protocolTypeInfo := some typeInfo }

theorem kindOf_of_named (ε : Type) {typeInfo : TypeInfo} (named : ¬typeInfo.Nameless) :
    ∃ kind, (kindOf typeInfo : Outcome ε MssqlType) = .ok kind := by
  rcases typeInfo with ⟨ty, size, scale, precision, collation⟩
  cases ty
  case intN =>
    have known : size ∈ [1, 2, 4, 8] := by
      by_contra unknown
      exact named (.inl ⟨rfl, unknown⟩)
    simp only [List.mem_cons, List.not_mem_nil, or_false] at known
    rcases known with rfl | rfl | rfl | rfl <;> exact ⟨_, rfl⟩
  case floatN =>
    have known : size ∈ [4, 8] := by
      by_contra unknown
      exact named (.inr ⟨rfl, unknown⟩)
    simp only [List.mem_cons, List.not_mem_nil, or_false] at known
    rcases known with rfl | rfl <;> exact ⟨_, rfl⟩
  all_goals exact ⟨_, rfl⟩

theorem kindOf_of_nameless (ε : Type) {typeInfo : TypeInfo} (nameless : typeInfo.Nameless) :
    ∃ message, (kindOf typeInfo : Outcome ε MssqlType) = .panic message := by
  rcases typeInfo with ⟨ty, size, scale, precision, collation⟩
  rcases nameless with ⟨sort, unknown⟩ | ⟨sort, unknown⟩ <;> cases sort <;>
    simp only [List.mem_cons, List.not_mem_nil, or_false, not_or] at unknown
  · obtain ⟨one, two, four, eight⟩ := unknown
    exact ⟨_, by simp only [kindOf, TypeInfo.name]; rfl⟩
  · obtain ⟨four, eight⟩ := unknown
    exact ⟨_, by simp only [kindOf, TypeInfo.name]; rfl⟩

/-- A TYPE_INFO becomes type information exactly when its type has a name; else the driver
panics. -/
theorem fromProtocol_panics_iff {ε : Type} (typeInfo : TypeInfo) :
    (∃ message, (fromProtocol typeInfo : Outcome ε MssqlTypeInfo) = .panic message) ↔
      typeInfo.Nameless := by
  by_cases nameless : typeInfo.Nameless
  · obtain ⟨message, kind⟩ := kindOf_of_nameless ε nameless
    exact iff_of_true ⟨message, by rw [fromProtocol, kind]; rfl⟩ nameless
  · obtain ⟨kind, found⟩ := kindOf_of_named ε nameless
    refine iff_of_false ?_ nameless
    rintro ⟨message, panics⟩
    rw [fromProtocol, found] at panics
    cases panics

end MssqlTypeInfo
end SqlxSqlserver.Driver

import SqlxSqlserver.Driver.MssqlTypeInfo

/-! Values of the driver, the scalar Rust types it encodes and decodes, and the rows that values stand
in. A scalar is a Rust value together with its type; a float is its bit pattern. -/

namespace SqlxSqlserver.Driver
open Foundation Protocol

structure MssqlValue where
  typeInfo : MssqlTypeInfo
  data : Option Bytes
  deriving DecidableEq, Repr

namespace MssqlValue

def new (typeInfo : MssqlTypeInfo) (data : Option Bytes) : MssqlValue := { typeInfo, data }

def null (typeInfo : MssqlTypeInfo) : MssqlValue := { typeInfo, data := none }

def isNull (self : MssqlValue) : Bool := self.data.isNone

end MssqlValue

inductive ScalarType where
  | bool | i8 | i16 | i32 | i64 | u8 | u16 | u32 | u64 | f32 | f64 | string | bytes
  deriving DecidableEq, Repr

inductive Scalar where
  | bool (value : Bool)
  | i8 (value : Int8)
  | i16 (value : Int16)
  | i32 (value : Int32)
  | i64 (value : Int64)
  | u8 (value : UInt8)
  | u16 (value : UInt16)
  | u32 (value : UInt32)
  | u64 (value : UInt64)
  | f32 (bits : UInt32)
  | f64 (bits : UInt64)
  /-- `str` and `String` -/
  | string (value : String)
  /-- `[u8]` and `Vec<u8>` -/
  | bytes (value : Bytes)
  deriving DecidableEq

def Scalar.type : Scalar → ScalarType
  | .bool _ => .bool
  | .i8 _ => .i8
  | .i16 _ => .i16
  | .i32 _ => .i32
  | .i64 _ => .i64
  | .u8 _ => .u8
  | .u16 _ => .u16
  | .u32 _ => .u32
  | .u64 _ => .u64
  | .f32 _ => .f32
  | .f64 _ => .f64
  | .string _ => .string
  | .bytes _ => .bytes

def ScalarType.typeInfo : ScalarType → MssqlTypeInfo
  | .bool => .bit
  | .i8 => .smallInt
  | .i16 => .smallInt
  | .i32 => .int
  | .i64 => .bigInt
  | .u8 => .tinyInt
  | .u16 => .int
  | .u32 => .bigInt
  | .u64 => .bigInt
  | .f32 => .real
  | .f64 => .float
  | .string => .nVarChar
  | .bytes => .varBinary

def isIntegerCompatible (typeInfo : MssqlTypeInfo) : Bool :=
  typeInfo.kind ∈ [.tinyInt, .smallInt, .int, .bigInt, .decimal]

def ScalarType.compatible (type : ScalarType) (typeInfo : MssqlTypeInfo) : Bool :=
  match type with
  | .bool => typeInfo.kind = .bit
  | .i8 | .i16 | .i32 | .i64 | .u8 | .u16 | .u32 | .u64 => isIntegerCompatible typeInfo
  | .f32 | .f64 => typeInfo.kind ∈ [.real, .float, .decimal, .money]
  | .string => typeInfo.kind ∈ [.nVarChar, .varChar]
  | .bytes => typeInfo.kind = .varBinary

theorem ScalarType.compatible_of_kind {type : ScalarType} {typeInfo : MssqlTypeInfo}
    (kind : typeInfo.kind = type.typeInfo.kind) : type.compatible typeInfo = true := by
  cases type <;> simp only [compatible, isIntegerCompatible, kind] <;> decide

def nvarcharParameterSize (value : String) : UInt16 :=
  let bytes := min ((encodeUtf16 value).length * 2) usizeMax
  if 8000 < bytes then 0xffff else UInt16.ofNat (max 2 bytes)

def varbinaryParameterSize (len : Nat) : UInt16 :=
  if 8000 < len then 0xffff else UInt16.ofNat (max 1 len)

def Scalar.produces : Scalar → Option MssqlTypeInfo
  | .string value => some (.withSize .nVarChar (nvarcharParameterSize value))
  | .bytes value => some (.withSize .varBinary (varbinaryParameterSize value.length))
  | _ => none

inductive IsNull where
  | yes
  | no
  deriving DecidableEq, Repr

/-- `Encode::encode_by_ref`: the bytes it appends to the buffer. Every scalar is `IsNull::No`. -/
def Scalar.encode : Scalar → Except BoxDynError Bytes
  | .bool value => .ok [if value then 1 else 0]
  | .i8 value => .ok (intBytes 2 value.toInt)
  | .i16 value => .ok (intBytes 2 value.toInt)
  | .i32 value => .ok (intBytes 4 value.toInt)
  | .i64 value => .ok (intBytes 8 value.toInt)
  | .u8 value => .ok [value]
  | .u16 value => .ok (intBytes 4 value.toNat)
  | .u32 value => .ok (intBytes 8 value.toNat)
  | .u64 value =>
    if value.toNat < 2 ^ 63 then .ok (intBytes 8 value.toNat) else .error .tryFromInt
  | .f32 bits => .ok (leBytes 4 bits.toNat)
  | .f64 bits => .ok (leBytes 8 bits.toNat)
  | .string value => .ok (unitBytes (encodeUtf16 value))
  | .bytes value => .ok value

section decoding

def decodeMoneyBytes (bytes : Bytes) : Except BoxDynError Int :=
  if bytes.length = 4 then .ok (leInt bytes)
  else if bytes.length = 8 then
    .ok (leInt (bytes.take 4) * 2 ^ 32 + leNat (bytes.drop 4))
  else .error (.message s!"expected 8/4 bytes for Money, got {bytes.length}")

def decodeNumericBytes : Bytes → Except BoxDynError (Int × Nat)
  | [] => .error (.message "numeric bytes cannot be empty")
  | sign :: rest => do
    let sign : Int ← match sign.toNat with
      | 0 => pure (-1)
      | 1 => pure 1
      | _ => throw (.message ("invalid sign byte: 0x" ++ hexByte sign))
    if 16 < rest.length then throw (.message "numeric value exceeds 16 bytes")
    else return (sign, leNat rest)

def nonNullBytes (value : MssqlValue) (rustType : String) : Except BoxDynError Bytes :=
  match value.data with
  | some bytes => .ok bytes
  | none => .error (.message ("cannot decode SQL Server NULL as " ++ rustType))

def dropTrailingZeros : Nat → Nat → Nat × Nat
  | 0, numerator => (0, numerator)
  | scale + 1, numerator =>
    if numerator % 10 = 0 then dropTrailingZeros scale (numerator / 10)
    else (scale + 1, numerator)

def pow10 {ε : Type} (scale : Nat) : Outcome ε Nat :=
  if 10 ^ scale < 2 ^ 128 then .ok (10 ^ scale)
  else .panic "attempt to multiply with overflow"

def i64TryFrom (value : Int) : Except BoxDynError Int :=
  if -2 ^ 63 ≤ value ∧ value < 2 ^ 63 then .ok value else .error .tryFromInt

def divideByScale (scale numerator : Nat) : Outcome BoxDynError Nat :=
  if 0 < scale then (numerator / ·) <$> pow10 scale else pure numerator

def decodeNumericInteger (bytes : Bytes) (scale : UInt8) : Outcome BoxDynError Int := do
  let (sign, numerator) ← .ofExcept (decodeNumericBytes bytes)
  let (scale, numerator) := dropTrailingZeros scale.toNat numerator
  let numerator ← divideByScale scale numerator
  let value ← .ofExcept (i64TryFrom numerator)
  return value * sign

def decodeNumericF64 (bytes : Bytes) (scale : UInt8) : Outcome BoxDynError Float := do
  let (sign, numerator) ← .ofExcept (decodeNumericBytes bytes)
  let (scale, numerator) := dropTrailingZeros scale.toNat numerator
  let denominator ← pow10 scale
  let integerPart := Float.ofNat (numerator / denominator)
  let fractionalPart := Float.ofNat (numerator % denominator) / Float.ofNat denominator
  let absolute := integerPart + fractionalPart
  return if sign = 1 then absolute else -absolute

def decodeMoneyF64 (bytes : Bytes) : Outcome BoxDynError Float := do
  let numerator ← .ofExcept (decodeMoneyBytes bytes)
  let integerPart := Float.ofInt (numerator.tdiv 10000)
  let fractionalPart := Float.ofInt (numerator.tmod 10000) / Float.ofNat 10000
  return integerPart + fractionalPart

def decodeInteger (value : MssqlValue) (rustType : String) : Outcome BoxDynError Int := do
  let bytes ← .ofExcept (nonNullBytes value rustType)
  if value.typeInfo.kind = .decimal then
    decodeNumericInteger bytes value.typeInfo.scale
  else
    match bytes.length with
    | 1 => return (leNat bytes : Int)
    | 2 | 4 | 8 => return leInt bytes
    | len => .err (.message s!"cannot decode {len}-byte SQL Server integer as {rustType}")

def tryFrom (lower upper value : Int) : Except BoxDynError Int :=
  if lower ≤ value ∧ value ≤ upper then .ok value else .error .tryFromInt

def decodeF64 (value : MssqlValue) : Outcome BoxDynError UInt64 :=
  if value.typeInfo.kind = .decimal then do
    let bytes ← .ofExcept (nonNullBytes value "f64")
    return (← decodeNumericF64 bytes value.typeInfo.scale).toBits
  else if value.typeInfo.kind = .money then do
    return (← decodeMoneyF64 (← .ofExcept (nonNullBytes value "f64"))).toBits
  else do
    let bytes ← .ofExcept (nonNullBytes value "f64")
    match bytes.length with
    | 4 => return (Float32.ofBits (UInt32.ofNat (leNat bytes))).toFloat.toBits
    | 8 => return UInt64.ofNat (leNat bytes)
    | _ => .err (.message "cannot decode SQL Server float as f64")

def decodeF32 (value : MssqlValue) : Outcome BoxDynError UInt32 :=
  if value.typeInfo.kind ≠ .real then do
    return (Float.ofBits (← decodeF64 value)).toFloat32.toBits
  else do
    let bytes ← .ofExcept (nonNullBytes value "f32")
    if bytes.length = 4 then return UInt32.ofNat (leNat bytes)
    else .err (.message "cannot decode SQL Server real as f32")

def decodeBool (value : MssqlValue) : Outcome BoxDynError Bool := do
  match ← .ofExcept (nonNullBytes value "bool") with
  | [0] => return false
  | [1] => return true
  | _ => .err (.message "cannot decode SQL Server bit as bool")

def decodeString (value : MssqlValue) : Outcome BoxDynError String := do
  let bytes ← .ofExcept (nonNullBytes value "String")
  if value.typeInfo.kind = .varChar then
    match String.fromUTF8? (ByteArray.mk bytes.toArray) with
    | some text => return text
    | none => .err .utf8
  else if bytes.length % 2 ≠ 0 then
    .err (.message "cannot decode odd-length SQL Server UTF-16 text")
  else
    match decodeUtf16 (bytesToUnits bytes) with
    | some text => return text
    | none => .err .utf16

def ScalarType.decode (type : ScalarType) (value : MssqlValue) : Outcome BoxDynError Scalar :=
  match type with
  | .bool => do return .bool (← decodeBool value)
  | .i8 => do
    return .i8 (.ofInt (← .ofExcept (tryFrom (-128) 127 (← decodeInteger value "i8"))))
  | .i16 => do
    return .i16 (.ofInt (← .ofExcept (tryFrom (-32768) 32767 (← decodeInteger value "i16"))))
  | .i32 => do
    return .i32 (.ofInt (← .ofExcept
      (tryFrom (-2147483648) 2147483647 (← decodeInteger value "i32"))))
  | .i64 => do return .i64 (.ofInt (← decodeInteger value "i64"))
  | .u8 => do
    return .u8 (.ofNat (← .ofExcept (tryFrom 0 255 (← decodeInteger value "u8"))).toNat)
  | .u16 => do
    return .u16 (.ofNat (← .ofExcept (tryFrom 0 65535 (← decodeInteger value "u16"))).toNat)
  | .u32 => do
    return .u32 (.ofNat (← .ofExcept (tryFrom 0 4294967295 (← decodeInteger value "u32"))).toNat)
  | .u64 => do
    return .u64 (.ofNat (← .ofExcept
      (tryFrom 0 18446744073709551615 (← decodeInteger value "u64"))).toNat)
  | .f32 => do return .f32 (← decodeF32 value)
  | .f64 => do return .f64 (← decodeF64 value)
  | .string => do return .string (← decodeString value)
  | .bytes => do return .bytes (← .ofExcept (nonNullBytes value "bytes"))

end decoding

section rows

structure MssqlColumn where
  ordinal : Nat
  name : String
  typeInfo : MssqlTypeInfo
  deriving DecidableEq, Repr

def MssqlColumn.new (ordinal : Nat) (name : String) (typeInfo : MssqlTypeInfo) : MssqlColumn :=
  { ordinal, name, typeInfo }

structure MssqlRow where
  columns : List MssqlColumn
  values : List MssqlValue
  deriving DecidableEq, Repr

structure MssqlQueryResult where
  rowsAffected : Nat
  deriving DecidableEq, Repr

namespace MssqlRow

def newShared (columns : List MssqlColumn) (values : List MssqlValue) : MssqlRow :=
  { columns, values }

def index (self : MssqlRow) (position : Nat) : Outcome Error Nat :=
  if self.columns.length ≤ position then
    .err (.columnIndexOutOfBounds position self.columns.length)
  else .ok position

def tryGetRaw (self : MssqlRow) (position : Nat) : Outcome Error MssqlValue := do
  let index ← self.index position
  match self.values[index]? with
  | some value => .ok value
  | none => .panic s!"index out of bounds: the len is {self.values.length} but the index is {index}"

theorem tryGetRaw_ok {self : MssqlRow} (full : self.values.length = self.columns.length)
    {position : Nat} (inside : position < self.columns.length) :
    ∃ value, self.values[position]? = some value ∧ self.tryGetRaw position = .ok value := by
  obtain ⟨value, found⟩ : ∃ value, self.values[position]? = some value :=
    ⟨_, List.getElem?_eq_getElem (full ▸ inside)⟩
  refine ⟨value, found, ?_⟩
  have here : self.index position = .ok position := if_neg (Nat.not_le.mpr inside)
  rw [tryGetRaw, here]
  change (match self.values[position]? with
    | some value => Outcome.ok value
    | none => _) = Outcome.ok value
  rw [found]

end MssqlRow

end rows

end SqlxSqlserver.Driver

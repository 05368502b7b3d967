import SqlxSqlserver.Foundation.Put
import SqlxSqlserver.Foundation.Chunks
import SqlxSqlserver.Driver.Value

/-! The argument buffer: the declarations text and the bytes of the RPC parameters. A parameter
is a counted name, a status byte, a TYPE_INFO and a length-prefixed or chunked value. -/

namespace SqlxSqlserver.Driver
open Foundation Protocol

def dataTypeIntN : UInt8 := 0x26
def dataTypeBitN : UInt8 := 0x68
def dataTypeFloatN : UInt8 := 0x6d
def dataTypeGuid : UInt8 := 0x24
def dataTypeNumericN : UInt8 := 0x6c
def dataTypeDateN : UInt8 := 0x28
def dataTypeTimeN : UInt8 := 0x29
def dataTypeDateTime2N : UInt8 := 0x2a
def dataTypeDateTimeOffsetN : UInt8 := 0x2b
def dataTypeBigVarBinary : UInt8 := 0xa5
def dataTypeBigVarChar : UInt8 := 0xa7
def dataTypeNVarChar : UInt8 := 0xe7
def defaultCollation : Bytes := [0x81, 0x04, 0xd0, 0x00, 0x34]
def plpNull : Nat := 0xffffffffffffffff
def plpChunkSize : Nat := 8192
def statusByRefValue : UInt8 := 0x01

def u8TryFrom (value : Nat) : Except BoxDynError UInt8 :=
  if value < 256 then .ok (UInt8.ofNat value) else .error .tryFromInt

def u16TryFrom (value : Nat) : Except BoxDynError UInt16 :=
  if value < 65536 then .ok (UInt16.ofNat value) else .error .tryFromInt

def u32TryFrom (value : Nat) : Except BoxDynError UInt32 :=
  if value < 4294967296 then .ok (UInt32.ofNat value) else .error .tryFromInt

def u16Max : UInt16 := 0xffff

def unsupportedType (kind : MssqlType) : BoxDynError :=
  .message ("SQL Server arguments do not support type " ++ kind.debug)

def writeUtf16 (value : String) : Put BoxDynError Unit := .emit (unitBytes (encodeUtf16 value))

def writeBVarchar (value : String) : Put BoxDynError Unit := do
  let charLen ← .lift (u8TryFrom (encodeUtf16 value).length)
  .emit [charLen]
  writeUtf16 value

def writePlpChunks : List Bytes → Put BoxDynError Unit
  | [] => pure ()
  | chunk :: rest => do
    let len ← .lift (u32TryFrom chunk.length)
    .emit (leBytes 4 len.toNat)
    .emit chunk
    writePlpChunks rest

def writePlpValue (encoded : Bytes) (isNull : Bool) : Put BoxDynError Unit :=
  if isNull then .emit (leBytes 8 plpNull)
  else do
    .emit (leBytes 8 encoded.length)
    writePlpChunks (chunks plpChunkSize encoded)
    .emit (leBytes 4 0)

def nvarcharTypeSize (typeInfo : MssqlTypeInfo) (encodedLen : Nat) (isNull : Bool) :
    Except BoxDynError UInt16 :=
  match typeInfo.size with
  | some size => .ok size
  | none => u16TryFrom (if isNull then 2 else max 2 encodedLen)

def boundedShortLen (typeInfo : MssqlTypeInfo) (encodedLen : Nat) (isNull : Bool) :
    Except BoxDynError UInt16 :=
  match typeInfo.size with
  | some size => .ok size
  | none => u16TryFrom (if isNull then 1 else max 1 encodedLen)

def nvarcharDeclaration (typeInfo : MssqlTypeInfo) (encodedLen : Nat) (isNull : Bool) :
    Except BoxDynError String := do
  let size ← nvarcharTypeSize typeInfo encodedLen isNull
  if size = u16Max then return "nvarchar(max)"
  else return "nvarchar(" ++ toString (size.toNat / 2) ++ ")"

def varcharDeclaration (typeInfo : MssqlTypeInfo) (encodedLen : Nat) (isNull : Bool) :
    Except BoxDynError String := do
  let size ← boundedShortLen typeInfo encodedLen isNull
  if size = u16Max then return "varchar(max)"
  else return "varchar(" ++ toString size.toNat ++ ")"

def varbinaryDeclaration (typeInfo : MssqlTypeInfo) (encodedLen : Nat) (isNull : Bool) :
    Except BoxDynError String := do
  let size ← boundedShortLen typeInfo encodedLen isNull
  if size = u16Max then return "varbinary(max)"
  else return "varbinary(" ++ toString size.toNat ++ ")"

def declaration (typeInfo : MssqlTypeInfo) (encodedLen : Nat) (isNull : Bool) :
    Except BoxDynError String :=
  match typeInfo.kind with
  | .bit => .ok "bit"
  | .tinyInt => .ok "tinyint"
  | .smallInt => .ok "smallint"
  | .int => .ok "int"
  | .bigInt => .ok "bigint"
  | .real => .ok "real"
  | .float => .ok "float"
  | .nVarChar => nvarcharDeclaration typeInfo encodedLen isNull
  | .varChar => varcharDeclaration typeInfo encodedLen isNull
  | .varBinary => varbinaryDeclaration typeInfo encodedLen isNull
  | .decimal =>
    .ok ("decimal(" ++ toString (max typeInfo.precision 1).toNat ++ "," ++
      toString typeInfo.scale.toNat ++ ")")
  | .date => .ok "date"
  | .time => .ok ("time(" ++ toString typeInfo.scale.toNat ++ ")")
  | .dateTime2 => .ok ("datetime2(" ++ toString typeInfo.scale.toNat ++ ")")
  | .dateTimeOffset => .ok ("datetimeoffset(" ++ toString typeInfo.scale.toNat ++ ")")
  | .uniqueIdentifier => .ok "uniqueidentifier"
  | other => .error (unsupportedType other)

def typeDeclaration (typeInfo : MssqlTypeInfo) : Except BoxDynError String :=
  match typeInfo.kind with
  | .bit => .ok "bit"
  | .tinyInt => .ok "tinyint"
  | .smallInt => .ok "smallint"
  | .int => .ok "int"
  | .bigInt => .ok "bigint"
  | .real => .ok "real"
  | .float => .ok "float"
  | .nVarChar => .ok "nvarchar(max)"
  | .varChar => .ok "varchar(max)"
  | .varBinary => .ok "varbinary(max)"
  | .decimal => .ok "decimal(38, 0)"
  | .date => .ok "date"
  | .time => .ok "time(7)"
  | .dateTime2 => .ok "datetime2(7)"
  | .dateTimeOffset => .ok "datetimeoffset(7)"
  | .uniqueIdentifier => .ok "uniqueidentifier"
  | other => .error (unsupportedType other)

def writeTypeInfo (typeInfo : MssqlTypeInfo) (encodedLen : Nat) (isNull : Bool) :
    Put BoxDynError Unit :=
  match typeInfo.kind with
  | .bit => .emit [dataTypeBitN, 1]
  | .tinyInt => .emit [dataTypeIntN, 1]
  | .smallInt => .emit [dataTypeIntN, 2]
  | .int => .emit [dataTypeIntN, 4]
  | .bigInt => .emit [dataTypeIntN, 8]
  | .real => .emit [dataTypeFloatN, 4]
  | .float => .emit [dataTypeFloatN, 8]
  | .nVarChar => do
    .emit [dataTypeNVarChar]
    let size ← .lift (nvarcharTypeSize typeInfo encodedLen isNull)
    .emit (leBytes 2 size.toNat)
    .emit defaultCollation
  | .varChar => do
    .emit [dataTypeBigVarChar]
    let size ← .lift (boundedShortLen typeInfo encodedLen isNull)
    .emit (leBytes 2 size.toNat)
    .emit defaultCollation
  | .varBinary => do
    .emit [dataTypeBigVarBinary]
    let size ← .lift (boundedShortLen typeInfo encodedLen isNull)
    .emit (leBytes 2 size.toNat)
  | .decimal => do
    .emit [dataTypeNumericN]
    let size ← .lift (u8TryFrom (typeInfo.size.getD 17).toNat)
    .emit [size, max typeInfo.precision 1, typeInfo.scale]
  | .date => .emit [dataTypeDateN]
  | .time => .emit [dataTypeTimeN, typeInfo.scale]
  | .dateTime2 => .emit [dataTypeDateTime2N, typeInfo.scale]
  | .dateTimeOffset => .emit [dataTypeDateTimeOffsetN, typeInfo.scale]
  | .uniqueIdentifier => .emit [dataTypeGuid, 16]
  | other => .fail (unsupportedType other)

def writeParamLen (typeInfo : MssqlTypeInfo) (encoded : Bytes) (isNull : Bool) :
    Put BoxDynError Unit :=
  match typeInfo.kind with
  | .bit | .tinyInt | .smallInt | .int | .bigInt | .real | .float | .decimal | .date | .time
  | .dateTime2 | .dateTimeOffset | .uniqueIdentifier => do
    let len ← if isNull then pure 0 else .lift (u8TryFrom encoded.length)
    .emit [len]
  | .nVarChar | .varChar | .varBinary =>
    if typeInfo.size = some u16Max then writePlpValue encoded isNull
    else do
      let len ← if isNull then pure u16Max else .lift (u16TryFrom encoded.length)
      .emit (leBytes 2 len.toNat)
  | other => .fail (unsupportedType other)

def writeParamLenData (typeInfo : MssqlTypeInfo) (encoded : Bytes) (isNull : Bool) :
    Put BoxDynError Unit := do
  writeParamLen typeInfo encoded isNull
  if !isNull ∧ typeInfo.size ≠ some u16Max then .emit encoded else pure ()

def writeParameterWithStatus (name : String) (status : UInt8) (typeInfo : MssqlTypeInfo)
    (encoded : Bytes) (isNull : Bool) : Put BoxDynError Unit := do
  writeBVarchar name
  .emit [status]
  writeTypeInfo typeInfo encoded.length isNull
  writeParamLenData typeInfo encoded isNull

def writeParameter (name : String) (typeInfo : MssqlTypeInfo) (encoded : Bytes) (isNull : Bool) :
    Put BoxDynError Unit :=
  writeParameterWithStatus name 0 typeInfo encoded isNull

def writeOutputI32Parameter (name : String) (value : Int32) : Put BoxDynError Unit :=
  writeParameterWithStatus name statusByRefValue .int (intBytes 4 value.toInt) false

def writeNvarcharParameter (name value : String) : Put BoxDynError Unit :=
  writeParameter name .nVarChar (unitBytes (encodeUtf16 value)) false

def writeNullNvarcharParameter (name : String) : Put BoxDynError Unit :=
  writeParameter name .nVarChar [] true

structure MssqlArguments where
  len : Nat
  data : Bytes
  declarations : String
  deriving DecidableEq

def MssqlArguments.default : MssqlArguments := { len := 0, data := [], declarations := "" }

namespace MssqlArguments

def isEmpty (self : MssqlArguments) : Bool := self.len == 0

/-- What was changed before an error stays changed. -/
def addParameter (self : MssqlArguments) (typeInfo : MssqlTypeInfo) (encoded : Bytes)
    (isNull : Bool) : Except BoxDynError Unit × MssqlArguments :=
  let len := self.len + 1
  let name := "@p" ++ toString len
  let declarations :=
    if self.declarations.isEmpty then self.declarations else self.declarations ++ ","
  match declaration typeInfo encoded.length isNull with
  | .error error => (.error error, { self with len, declarations })
  | .ok text =>
    let declarations := declarations ++ (name ++ " " ++ text)
    let parameter := writeParameter name typeInfo encoded isNull
    (parameter.result, { len, data := self.data ++ parameter.written, declarations })

end MssqlArguments

/-- What sqlx-core generates for `None::<T>`: it produces either no type information or that of
`T`, and it encodes as `IsNull::Yes` without bytes. -/
class NoneEncoding where
  produces : ScalarType → Option MssqlTypeInfo
  typeOf : ∀ type, produces type = none ∨ produces type = some type.typeInfo

@[reducible] def typedNone : NoneEncoding where
  produces type := some type.typeInfo
  typeOf _ := .inr rfl

/-- A value an argument is added from: a scalar or `Some` of it, which encode alike, or
`None` of a scalar type. -/
inductive Argument where
  | scalar (value : Scalar)
  | none (type : ScalarType)
  deriving DecidableEq

namespace Argument
variable [NoneEncoding]

def type : Argument → ScalarType
  | .scalar value => value.type
  | .none type => type

def produces : Argument → Option MssqlTypeInfo
  | .scalar value => value.produces
  | .none type => NoneEncoding.produces type

def encode : Argument → Except BoxDynError (Bytes × IsNull)
  | .scalar value => do return (← value.encode, .no)
  | .none _ => .ok ([], .yes)

def typeInfo (value : Argument) : MssqlTypeInfo := value.produces.getD value.type.typeInfo

end Argument

def MssqlArguments.add [NoneEncoding] (self : MssqlArguments) (value : Argument) :
    Except BoxDynError Unit × MssqlArguments :=
  match value.encode with
  | .error error => (.error error, self)
  | .ok (encoded, isNull) => self.addParameter value.typeInfo encoded (isNull == .yes)

/-- `Built values arguments`: adding the values in order to an empty buffer, each with success,
gives `arguments`. -/
inductive Built [NoneEncoding] : List Argument → MssqlArguments → Prop where
  | empty : Built [] .default
  | add {values : List Argument} {arguments next : MssqlArguments} {value : Argument}
      (earlier : Built values arguments) (added : arguments.add value = (.ok (), next)) :
      Built (values ++ [value]) next

end SqlxSqlserver.Driver

import SqlxSqlserver.Protocol.Read

/-! TYPE_INFO: the data types of the wire, how a TYPE_INFO and a value of its type are read, and
the type names, which exist for some sizes only. -/

namespace SqlxSqlserver.Protocol
open Foundation Reader

structure CollationFlags where
  bits : UInt8
  deriving DecidableEq, Repr

def CollationFlags.fromBitsTruncate (bits : UInt8) : CollationFlags := ⟨bits &&& 0x3f⟩

structure Collation where
  locale : Nat
  flags : CollationFlags
  sort : UInt8
  version : UInt8
  deriving DecidableEq, Repr

inductive DataType where
  | null | tinyInt | bit | smallInt | int | smallDateTime | real | money | dateTime | float
  | smallMoney | bigInt | guid | intN | decimal | numeric | bitN | decimalN | numericN | floatN
  | moneyN | dateTimeN | dateN | timeN | dateTime2N | dateTimeOffsetN | char | varChar | binary
  | varBinary | bigVarBinary | bigVarChar | bigBinary | bigChar | nVarChar | nChar | xml
  | userDefined | text | image | nText | variant
  deriving DecidableEq, Repr

namespace DataType

def code : DataType → UInt8
  | .null => 0x1f
  | .tinyInt => 0x30
  | .bit => 0x32
  | .smallInt => 0x34
  | .int => 0x38
  | .smallDateTime => 0x3a
  | .real => 0x3b
  | .money => 0x3c
  | .dateTime => 0x3d
  | .float => 0x3e
  | .smallMoney => 0x7a
  | .bigInt => 0x7f
  | .guid => 0x24
  | .intN => 0x26
  | .decimal => 0x37
  | .numeric => 0x3f
  | .bitN => 0x68
  | .decimalN => 0x6a
  | .numericN => 0x6c
  | .floatN => 0x6d
  | .moneyN => 0x6e
  | .dateTimeN => 0x6f
  | .dateN => 0x28
  | .timeN => 0x29
  | .dateTime2N => 0x2a
  | .dateTimeOffsetN => 0x2b
  | .char => 0x2f
  | .varChar => 0x27
  | .binary => 0x2d
  | .varBinary => 0x25
  | .bigVarBinary => 0xa5
  | .bigVarChar => 0xa7
  | .bigBinary => 0xad
  | .bigChar => 0xaf
  | .nVarChar => 0xe7
  | .nChar => 0xef
  | .xml => 0xf1
  | .userDefined => 0xf0
  | .text => 0x23
  | .image => 0x22
  | .nText => 0x63
  | .variant => 0x62

def ofCode (code : UInt8) : Option DataType :=
  match code.toNat with
  | 0x1f => some .null
  | 0x30 => some .tinyInt
  | 0x32 => some .bit
  | 0x34 => some .smallInt
  | 0x38 => some .int
  | 0x3a => some .smallDateTime
  | 0x3b => some .real
  | 0x3c => some .money
  | 0x3d => some .dateTime
  | 0x3e => some .float
  | 0x7a => some .smallMoney
  | 0x7f => some .bigInt
  | 0x24 => some .guid
  | 0x26 => some .intN
  | 0x37 => some .decimal
  | 0x3f => some .numeric
  | 0x68 => some .bitN
  | 0x6a => some .decimalN
  | 0x6c => some .numericN
  | 0x6d => some .floatN
  | 0x6e => some .moneyN
  | 0x6f => some .dateTimeN
  | 0x28 => some .dateN
  | 0x29 => some .timeN
  | 0x2a => some .dateTime2N
  | 0x2b => some .dateTimeOffsetN
  | 0x2f => some .char
  | 0x27 => some .varChar
  | 0x2d => some .binary
  | 0x25 => some .varBinary
  | 0xa5 => some .bigVarBinary
  | 0xa7 => some .bigVarChar
  | 0xad => some .bigBinary
  | 0xaf => some .bigChar
  | 0xe7 => some .nVarChar
  | 0xef => some .nChar
  | 0xf1 => some .xml
  | 0xf0 => some .userDefined
  | 0x23 => some .text
  | 0x22 => some .image
  | 0x63 => some .nText
  | 0x62 => some .variant
  | _ => none

def debug : DataType → String
  | .null => "Null"
  | .tinyInt => "TinyInt"
  | .bit => "Bit"
  | .smallInt => "SmallInt"
  | .int => "Int"
  | .smallDateTime => "SmallDateTime"
  | .real => "Real"
  | .money => "Money"
  | .dateTime => "DateTime"
  | .float => "Float"
  | .smallMoney => "SmallMoney"
  | .bigInt => "BigInt"
  | .guid => "Guid"
  | .intN => "IntN"
  | .decimal => "Decimal"
  | .numeric => "Numeric"
  | .bitN => "BitN"
  | .decimalN => "DecimalN"
  | .numericN => "NumericN"
  | .floatN => "FloatN"
  | .moneyN => "MoneyN"
  | .dateTimeN => "DateTimeN"
  | .dateN => "DateN"
  | .timeN => "TimeN"
  | .dateTime2N => "DateTime2N"
  | .dateTimeOffsetN => "DateTimeOffsetN"
  | .char => "Char"
  | .varChar => "VarChar"
  | .binary => "Binary"
  | .varBinary => "VarBinary"
  | .bigVarBinary => "BigVarBinary"
  | .bigVarChar => "BigVarChar"
  | .bigBinary => "BigBinary"
  | .bigChar => "BigChar"
  | .nVarChar => "NVarChar"
  | .nChar => "NChar"
  | .xml => "Xml"
  | .userDefined => "UserDefined"
  | .text => "Text"
  | .image => "Image"
  | .nText => "NText"
  | .variant => "Variant"

end DataType

/-- How the values of a type are delimited: the groups of the match in `get_value`. -/
inductive ValueForm where
  | absent
  | fixed
  /-- One length byte, with both 0 and 0xff for NULL. -/
  | byteLen
  /-- One length byte, with 0xff for NULL. -/
  | charLen
  /-- Two length bytes, or chunks when the type has the size 0xffff. -/
  | shortLen
  | longLen
  deriving DecidableEq, Repr

def DataType.valueForm : DataType → ValueForm
  | .null => .absent
  | .tinyInt | .bit | .smallInt | .int | .smallDateTime | .real | .money | .dateTime | .float
  | .smallMoney | .bigInt => .fixed
  | .guid | .intN | .decimal | .numeric | .bitN | .decimalN | .numericN | .floatN | .moneyN
  | .dateN | .dateTimeN | .timeN | .dateTime2N | .dateTimeOffsetN => .byteLen
  | .char | .varChar | .binary | .varBinary => .charLen
  | .bigVarBinary | .bigVarChar | .bigBinary | .bigChar | .nVarChar | .nChar | .xml
  | .userDefined => .shortLen
  | .text | .image | .nText | .variant => .longLen

structure TypeInfo where
  ty : DataType
  size : Nat
  scale : UInt8
  precision : UInt8
  collation : Option Collation
  deriving DecidableEq, Repr

inductive TypeInfoError where
  | unexpectedEof
  | unknownDataType (code : UInt8)
  | unsupportedDataType (ty : DataType)
  | invalidScale (ty : DataType) (scale : UInt8)
  deriving DecidableEq, Repr

def TypeInfoError.message : TypeInfoError → String
  | .unexpectedEof => "TDS TYPE_INFO ended unexpectedly"
  | .unknownDataType code => "unknown TDS data type 0x" ++ hexByte code
  | .unsupportedDataType ty => "unsupported TDS data type " ++ ty.debug
  | .invalidScale ty scale => s!"invalid scale {scale} for type {ty.debug}"

namespace TypeInfo

def take (len : Nat) : Reader TypeInfoError Bytes := Reader.take .unexpectedEof len

def readU8 : Reader TypeInfoError UInt8 := Reader.byte .unexpectedEof

def readU16Le : Reader TypeInfoError Nat := Reader.le .unexpectedEof 2

def readU32Le : Reader TypeInfoError Nat := Reader.le .unexpectedEof 4

def readU64Le : Reader TypeInfoError Nat := Reader.le .unexpectedEof 8

end TypeInfo

def DataType.get : Reader TypeInfoError DataType := do
  let code ← TypeInfo.readU8
  match DataType.ofCode code with
  | some ty => pure ty
  | none => fail (.unknownDataType code)

def Collation.get : Reader TypeInfoError Collation := do
  let localeSortVersion ← TypeInfo.readU32Le
  let locale := localeSortVersion % 0x100000
  let flags := CollationFlags.fromBitsTruncate (UInt8.ofNat (localeSortVersion / 0x100000))
  let version := UInt8.ofNat (localeSortVersion / 0x10000000)
  let sort ← TypeInfo.readU8
  return { locale, flags, sort, version }

namespace TypeInfo

def new (ty : DataType) (size : Nat) : TypeInfo :=
  { ty, size, scale := 0, precision := 0, collation := none }

def scaledSize (scale : UInt8) : Option Nat :=
  if scale ≤ 2 then some 3
  else if scale ≤ 4 then some 4
  else if scale ≤ 7 then some 5
  else none

def getScaled (ty : DataType) : Reader TypeInfoError TypeInfo := do
  let scale ← readU8
  match scaledSize scale with
  | none => fail (.invalidScale ty scale)
  | some size =>
    let date := match ty with
      | .dateTime2N => 3
      | .dateTimeOffsetN => 5
      | _ => 0
    return { ty, size := size + date, scale, precision := 0, collation := none }

def getByteSized (ty : DataType) : Reader TypeInfoError TypeInfo := do
  return new ty (← readU8).toNat

def getDecimal (ty : DataType) : Reader TypeInfoError TypeInfo := do
  let size ← readU8
  let precision ← readU8
  let scale ← readU8
  return { ty, size := size.toNat, scale, precision, collation := none }

def getShortSized (ty : DataType) : Reader TypeInfoError TypeInfo := do
  return new ty (← readU16Le)

def getCollated (ty : DataType) : Reader TypeInfoError TypeInfo := do
  let size ← readU16Le
  let collation ← Collation.get
  return { ty, size, scale := 0, precision := 0, collation := some collation }

def getBody (ty : DataType) : Reader TypeInfoError TypeInfo :=
  match ty with
  | .null => pure (new ty 0)
  | .tinyInt | .bit => pure (new ty 1)
  | .smallInt => pure (new ty 2)
  | .int | .smallDateTime | .real | .smallMoney => pure (new ty 4)
  | .bigInt | .money | .dateTime | .float => pure (new ty 8)
  | .dateN => pure (new ty 3)
  | .timeN | .dateTime2N | .dateTimeOffsetN => getScaled ty
  | .guid | .intN | .bitN | .floatN | .moneyN | .dateTimeN | .char | .varChar | .binary
  | .varBinary => getByteSized ty
  | .decimal | .numeric | .decimalN | .numericN => getDecimal ty
  | .bigVarBinary | .bigBinary => getShortSized ty
  | .bigVarChar | .bigChar | .nVarChar | .nChar => getCollated ty
  | .xml | .userDefined | .text | .image | .nText | .variant => fail (.unsupportedDataType ty)

def get : Reader TypeInfoError TypeInfo := do
  let ty ← DataType.get
  getBody ty

def isNullableOrVariableLength (self : TypeInfo) : Bool :=
  match self.ty with
  | .null | .tinyInt | .bit | .smallInt | .int | .smallDateTime | .real | .money | .dateTime
  | .float | .smallMoney | .bigInt => false
  | _ => true

def plpNull : Nat := 0xffffffffffffffff

def plpUnknown : Nat := 0xfffffffffffffffe

/-- One round of the loop of `get_big_blob`: a chunk, or the empty chunk that ends the value. -/
def blobChunk (data : Bytes) : Reader TypeInfoError (Bytes ⊕ Bytes) := do
  let chunkSize ← readU32Le
  if chunkSize = 0 then
    return .inr data
  else
    let chunk ← take chunkSize
    return .inl (data ++ chunk)

/-- `Vec::with_capacity` refuses a capacity above `isize::MAX` with a panic. -/
def getBigBlob : Reader TypeInfoError (Option Bytes) := do
  let len ← readU64Le
  if len = plpNull then
    return none
  else if len ≠ plpUnknown ∧ isizeMax < len then
    Reader.panic "capacity overflow"
  else
    return some (← Reader.loop blobChunk [])

def getValue (self : TypeInfo) : Reader TypeInfoError (Option Bytes) :=
  match self.ty.valueForm with
  | .absent => pure none
  | .fixed => do
    return some (← take self.size)
  | .byteLen => do
    let size ← readU8
    if size = 0 ∨ size = 0xff then return none
    else return some (← take size.toNat)
  | .charLen => do
    let size ← readU8
    if size = 0xff then return none
    else return some (← take size.toNat)
  | .shortLen =>
    if self.size = 0xffff then getBigBlob
    else do
      let size ← readU16Le
      if size = 0xffff then return none
      else return some (← take size)
  | .longLen => do
    let size ← readU32Le
    if size = 0xffffffff then return none
    else return some (← take size)

end TypeInfo

def TypeInfo.name {ε : Type} (self : TypeInfo) : Outcome ε String :=
  match self.ty with
  | .null => .ok "NULL"
  | .tinyInt => .ok "TINYINT"
  | .smallInt => .ok "SMALLINT"
  | .int => .ok "INT"
  | .bigInt => .ok "BIGINT"
  | .real => .ok "REAL"
  | .float => .ok "FLOAT"
  | .intN =>
    match self.size with
    | 1 => .ok "TINYINT"
    | 2 => .ok "SMALLINT"
    | 4 => .ok "INT"
    | 8 => .ok "BIGINT"
    | n => .panic s!"internal error: entered unreachable code: invalid size {n} for int"
  | .floatN =>
    match self.size with
    | 4 => .ok "REAL"
    | 8 => .ok "FLOAT"
    | n => .panic s!"internal error: entered unreachable code: invalid size {n} for float"
  | .varChar => .ok "VARCHAR"
  | .nVarChar => .ok "NVARCHAR"
  | .bigVarChar => .ok "BIGVARCHAR"
  | .char => .ok "CHAR"
  | .bigChar => .ok "BIGCHAR"
  | .nChar => .ok "NCHAR"
  | .varBinary => .ok "VARBINARY"
  | .bigVarBinary => .ok "BIGVARBINARY"
  | .binary => .ok "BINARY"
  | .bigBinary => .ok "BIGBINARY"
  | .dateN => .ok "DATE"
  | .dateTimeN => .ok "DATETIME"
  | .dateTime2N => .ok "DATETIME2"
  | .dateTimeOffsetN => .ok "DATETIMEOFFSET"
  | .bit => .ok "BIT"
  | .smallDateTime => .ok "SMALLDATETIME"
  | .money => .ok "MONEY"
  | .dateTime => .ok "DATETIME"
  | .smallMoney => .ok "SMALLMONEY"
  | .guid => .ok "UNIQUEIDENTIFIER"
  | .decimal => .ok "DECIMAL"
  | .numeric => .ok "NUMERIC"
  | .bitN => .ok "BIT"
  | .decimalN => .ok "DECIMAL"
  | .numericN => .ok "NUMERIC"
  | .moneyN => .ok "MONEY"
  | .timeN => .ok "TIME"
  | .xml => .ok "XML"
  | .userDefined => .ok "USER_DEFINED_TYPE"
  | .text => .ok "TEXT"
  | .image => .ok "IMAGE"
  | .nText => .ok "NTEXT"
  | .variant => .ok "SQL_VARIANT"

section formats

theorem TypeInfo.scaledSize_cases {scale : UInt8} {width : Nat}
    (sized : TypeInfo.scaledSize scale = some width) :
    width = 3 ∧ scale.toNat ≤ 2 ∨ width = 4 ∧ 3 ≤ scale.toNat ∧ scale.toNat ≤ 4 ∨
      width = 5 ∧ 5 ≤ scale.toNat ∧ scale.toNat ≤ 7 := by
  have two : scale ≤ 2 ↔ scale.toNat ≤ 2 := UInt8.le_iff_toNat_le
  have four : scale ≤ 4 ↔ scale.toNat ≤ 4 := UInt8.le_iff_toNat_le
  have seven : scale ≤ 7 ↔ scale.toNat ≤ 7 := UInt8.le_iff_toNat_le
  unfold TypeInfo.scaledSize at sized
  simp only [two, four, seven] at sized
  split_ifs at sized
  · cases sized
    omega
  · cases sized
    omega
  · cases sized
    omega

theorem DataType.local_get : Local DataType.get := by
  apply (local_byte _).bind
  intro code
  split
  · exact local_pure _
  · exact local_fail _

theorem DataType.ofCode_ok {code : UInt8} {ty : DataType} (found : DataType.ofCode code = some ty) :
    ty.code = code := by
  unfold DataType.ofCode at found
  split at found
  all_goals first
    | (cases found; apply UInt8.toNat_inj.mp; symm; assumption)
    | cases found

theorem DataType.ofCode_code (ty : DataType) : DataType.ofCode ty.code = some ty := by
  cases ty <;> rfl

theorem DataType.reads_get_iff {bytes : Bytes} {ty : DataType} :
    Reads DataType.get bytes ty ↔ bytes = [ty.code] := by
  apply (Reads.bind_iff (local_byte _) _ bytes ty).trans
  swap
  · intro code
    split
    · exact local_pure _
    · exact local_fail _
  constructor
  · rintro ⟨first, code, second, rfl, head, rest⟩
    rw [reads_byte_iff.mp head]
    split at rest
    next found table =>
      obtain ⟨rfl, rfl⟩ := reads_pure_iff.mp rest
      rw [DataType.ofCode_ok table]
      rfl
    next => exact absurd rest not_reads_fail
  · rintro rfl
    refine ⟨[ty.code], ty.code, [], rfl, reads_byte _ _, ?_⟩
    rw [DataType.ofCode_code]
    exact reads_pure ty

theorem DataType.calm_get : Calm DataType.get := by
  apply (calm_byte _).bind
  intro code
  split
  · exact calm_pure _
  · exact calm_fail _

theorem Collation.local_get : Local Collation.get :=
  (local_le _ _).bind fun _ => (local_byte _).bind fun _ => local_pure _

theorem Collation.calm_get : Calm Collation.get :=
  (calm_le _ _).bind fun _ => (calm_byte _).bind fun _ => calm_pure _

namespace TypeInfo

theorem local_getScaled (ty : DataType) : Local (getScaled ty) := by
  apply (local_byte _).bind
  intro scale
  split
  · exact local_fail _
  · exact local_pure _

theorem calm_getScaled (ty : DataType) : Calm (getScaled ty) := by
  apply (calm_byte _).bind
  intro scale
  split
  · exact calm_fail _
  · exact calm_pure _

theorem local_getBody (ty : DataType) : Local (getBody ty) := by
  have byteSized : Local (getByteSized ty) := (local_byte _).bind fun _ => local_pure _
  have decimal : Local (getDecimal ty) :=
    (local_byte _).bind fun _ => (local_byte _).bind fun _ => (local_byte _).bind fun _ =>
      local_pure _
  have shortSized : Local (getShortSized ty) := (local_le _ _).bind fun _ => local_pure _
  have collated : Local (getCollated ty) :=
    (local_le _ _).bind fun _ => Collation.local_get.bind fun _ => local_pure _
  cases ty <;> first
    | exact local_pure _
    | exact local_fail _
    | exact local_getScaled _
    | exact byteSized
    | exact decimal
    | exact shortSized
    | exact collated

theorem calm_getBody (ty : DataType) : Calm (getBody ty) := by
  have byteSized : Calm (getByteSized ty) := (calm_byte _).bind fun _ => calm_pure _
  have decimal : Calm (getDecimal ty) :=
    (calm_byte _).bind fun _ => (calm_byte _).bind fun _ => (calm_byte _).bind fun _ =>
      calm_pure _
  have shortSized : Calm (getShortSized ty) := (calm_le _ _).bind fun _ => calm_pure _
  have collated : Calm (getCollated ty) :=
    (calm_le _ _).bind fun _ => Collation.calm_get.bind fun _ => calm_pure _
  cases ty <;> first
    | exact calm_pure _
    | exact calm_fail _
    | exact calm_getScaled _
    | exact byteSized
    | exact decimal
    | exact shortSized
    | exact collated

theorem local_get : Local TypeInfo.get := DataType.local_get.bind local_getBody

theorem reads_get_iff {bytes : Bytes} {typeInfo : TypeInfo} :
    Reads TypeInfo.get bytes typeInfo ↔ ∃ ty body,
      bytes = DataType.code ty :: body ∧ Reads (getBody ty) body typeInfo := by
  rw [TypeInfo.get, Reads.bind_iff DataType.local_get local_getBody]
  constructor
  · rintro ⟨first, ty, body, rfl, head, rest⟩
    rw [DataType.reads_get_iff.mp head]
    exact ⟨ty, body, rfl, rest⟩
  · rintro ⟨ty, body, rfl, rest⟩
    exact ⟨[ty.code], ty, body, rfl, DataType.reads_get_iff.mpr rfl, rest⟩

theorem calm_get : Calm TypeInfo.get := DataType.calm_get.bind calm_getBody

theorem progress_blobChunk : Progress blobChunk := by
  intro data input next rest round
  obtain ⟨chunkSize, middle, size, rest⟩ := of_bind_ok round
  obtain ⟨bytes, rfl, length, _⟩ := le_ok size
  split at rest
  · cases rest
  · obtain ⟨chunk, after, taken, result⟩ := of_bind_ok rest
    obtain ⟨rfl, _⟩ := take_ok taken
    cases result
    rw [List.length_append, List.length_append]
    omega

theorem local_blobChunk (data : Bytes) : Local (blobChunk data) := by
  apply (local_le _ _).bind
  intro chunkSize
  split
  · exact local_pure _
  · exact (local_take _ _).bind fun chunk => local_pure _

theorem calm_blobChunk (data : Bytes) : Calm (blobChunk data) := by
  apply (calm_le _ _).bind
  intro chunkSize
  split
  · exact calm_pure _
  · exact (calm_take _ _).bind fun chunk => calm_pure _

theorem local_getBigBlob : Local getBigBlob := by
  apply (local_le _ _).bind
  intro len
  split
  · exact local_pure _
  · split
    · exact local_panic _
    · exact (local_loop progress_blobChunk local_blobChunk []).bind fun data => local_pure _

theorem local_getValue (self : TypeInfo) : Local self.getValue := by
  unfold getValue
  split
  case h_1 => exact local_pure _
  case h_2 => exact (local_take _ _).bind fun data => local_pure _
  case h_5 =>
    split
    · exact local_getBigBlob
    · apply (local_le _ _).bind
      intro size
      split
      · exact local_pure _
      · exact (local_take _ _).bind fun data => local_pure _
  case h_6 =>
    apply (local_le _ _).bind
    intro size
    split
    · exact local_pure _
    · exact (local_take _ _).bind fun data => local_pure _
  all_goals
    apply (local_byte _).bind
    intro size
    split
    · exact local_pure _
    · exact (local_take _ _).bind fun data => local_pure _

/-- A chunked value whose header announces a capacity no vector can have. -/
def OversizedPlp (self : TypeInfo) (input : Bytes) : Prop :=
  self.ty.valueForm = .shortLen ∧ self.size = 0xffff ∧ 8 ≤ input.length ∧
    isizeMax < leNat (input.take 8) ∧ leNat (input.take 8) < plpUnknown

theorem getBigBlob_panics_iff (input : Bytes) : Panics getBigBlob input ↔
    8 ≤ input.length ∧ isizeMax < leNat (input.take 8) ∧ leNat (input.take 8) < plpUnknown := by
  have blob : Calm (Reader.loop blobChunk []) := calm_loop progress_blobChunk calm_blobChunk []
  have header : Calm readU64Le := calm_le _ _
  rw [getBigBlob, header.panics_bind_iff]
  constructor
  · rintro ⟨len, rest, read, panics⟩
    obtain ⟨bytes, rfl, length, rfl⟩ := le_ok read
    have header : (bytes ++ rest).take 8 = bytes := by rw [← length, List.take_left]
    have bound := leNat_lt bytes
    rw [header, List.length_append]
    split_ifs at panics with null large
    · exact absurd panics (calm_pure _ _)
    · rw [length] at bound
      simp only [plpNull, plpUnknown] at null large ⊢
      exact ⟨by omega, large.2, by omega⟩
    · exact absurd panics (blob.bind (fun data => calm_pure _) _)
  · rintro ⟨long, large, known⟩
    refine ⟨leNat (input.take 8), input.drop 8, ?_, ?_⟩
    · have read := reads_le TypeInfoError.unexpectedEof (input.take 8) (input.drop 8)
      rwa [List.take_append_drop, List.length_take, Nat.min_eq_left long] at read
    · have null : leNat (input.take 8) ≠ plpNull := by simp only [plpNull, plpUnknown] at *; omega
      rw [if_neg null, if_pos ⟨known.ne, large⟩]
      exact ⟨_, rfl⟩

/-- Reading a value panics on nothing but an oversized chunked value. -/
theorem getValue_panics_iff (self : TypeInfo) (input : Bytes) :
    Panics self.getValue input ↔ self.OversizedPlp input := by
  unfold OversizedPlp getValue
  have never : ∀ {reader : Reader TypeInfoError (Option Bytes)}, Calm reader →
      ∀ form, form ≠ ValueForm.shortLen → (Panics reader input ↔ form = .shortLen ∧
        self.size = 0xffff ∧ 8 ≤ input.length ∧ isizeMax < leNat (input.take 8) ∧
        leNat (input.take 8) < plpUnknown) := by
    intro reader calm form other
    exact iff_of_false (calm input) fun oversized => other oversized.1
  split
  case h_1 form => rw [form]; exact never (calm_pure _) _ (by decide)
  case h_2 form =>
    rw [form]
    exact never ((calm_take _ _).bind fun data => calm_pure _) _ (by decide)
  case h_5 form =>
    rw [form]
    split_ifs with size
    · rw [getBigBlob_panics_iff]
      simp only [size, true_and]
    · refine iff_of_false (fun panics => ?_) fun oversized => size oversized.2.1
      refine Calm.bind (calm_le _ _) (fun len => ?_) input panics
      split
      · exact calm_pure _
      · exact (calm_take _ _).bind fun data => calm_pure _
  case h_6 form =>
    rw [form]
    refine never ((calm_le _ _).bind fun size => ?_) _ (by decide)
    split
    · exact calm_pure _
    · exact (calm_take _ _).bind fun data => calm_pure _
  all_goals
    rename_i form
    rw [form]
    refine never ((calm_byte _).bind fun size => ?_) _ (by decide)
    split
    · exact calm_pure _
    · exact (calm_take _ _).bind fun data => calm_pure _

/-- The types that have no name: an integer or a float of a size no type has. -/
def Nameless (self : TypeInfo) : Prop :=
  self.ty = .intN ∧ self.size ∉ [1, 2, 4, 8] ∨ self.ty = .floatN ∧ self.size ∉ [4, 8]

instance (self : TypeInfo) : Decidable self.Nameless := inferInstanceAs (Decidable (_ ∨ _))

end TypeInfo
end formats

end SqlxSqlserver.Protocol

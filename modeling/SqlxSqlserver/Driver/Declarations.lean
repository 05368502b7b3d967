import SqlxSqlserver.Foundation.Fallible
import SqlxSqlserver.Protocol.RpcRoundTrip

/-! The declarations text and the parameter data say the same. Both derive the size of a text or
binary parameter on their own, and only the writer of the value looks at the declared size. -/

namespace SqlxSqlserver.Driver
open Foundation Protocol

section values

/-- What `add` uses of a value: `Encode::produces`, `Type::type_info`, and `Encode::encode` with
the bytes it appends. Any type may choose them. -/
structure EncodeValue where
  produces : Option MssqlTypeInfo
  ofType : MssqlTypeInfo
  encode : Except BoxDynError (Bytes × IsNull)

namespace EncodeValue

def typeInfo (value : EncodeValue) : MssqlTypeInfo := value.produces.getD value.ofType

def ofArgument [NoneEncoding] (argument : Argument) : EncodeValue where
  produces := argument.produces
  ofType := argument.type.typeInfo
  encode := argument.encode

def ofScalar (value : Scalar) : EncodeValue where
  produces := value.produces
  ofType := value.type.typeInfo
  encode := do return (← value.encode, .no)

def json (text : Bytes) : EncodeValue where
  produces := some (.withSize .varBinary u16Max)
  ofType := .varBinary
  encode := .ok (text, .no)

inductive BuiltInText : EncodeValue → Prop where
  | string (value : String) : BuiltInText (ofScalar (.string value))
  | bytes (value : Bytes) : BuiltInText (ofScalar (.bytes value))
  | json (text : Bytes) : BuiltInText (json text)

end EncodeValue

def MssqlArguments.addValue (self : MssqlArguments) (value : EncodeValue) :
    Except BoxDynError Unit × MssqlArguments :=
  match value.encode with
  | .error error => (.error error, self)
  | .ok (encoded, isNull) => self.addParameter value.typeInfo encoded (isNull == .yes)

theorem MssqlArguments.add_eq_addValue [NoneEncoding] (self : MssqlArguments)
    (argument : Argument) : self.add argument = self.addValue (.ofArgument argument) := rfl

/-- `Added values arguments`: adding the values in order to an empty buffer, each with success,
gives `arguments`. -/
inductive Added : List EncodeValue → MssqlArguments → Prop where
  | empty : Added [] .default
  | add {values : List EncodeValue} {arguments next : MssqlArguments} {value : EncodeValue}
      (earlier : Added values arguments) (added : arguments.addValue value = (.ok (), next)) :
      Added (values ++ [value]) next

end values

section types

inductive SqlType where
  | bit | tinyInt | smallInt | int | bigInt | real | float | date | uniqueIdentifier
  | nVarChar (size : Option Nat)
  | varChar (size : Option Nat)
  | varBinary (size : Option Nat)
  | decimal (precision scale : UInt8)
  | time (scale : UInt8)
  | dateTime2 (scale : UInt8)
  | dateTimeOffset (scale : UInt8)
  deriving DecidableEq, Repr

namespace SqlType

def renderSize : Option Nat → String
  | none => "max"
  | some size => toString size

def render : SqlType → String
  | .bit => "bit"
  | .tinyInt => "tinyint"
  | .smallInt => "smallint"
  | .int => "int"
  | .bigInt => "bigint"
  | .real => "real"
  | .float => "float"
  | .date => "date"
  | .uniqueIdentifier => "uniqueidentifier"
  | .nVarChar size => "nvarchar(" ++ renderSize size ++ ")"
  | .varChar size => "varchar(" ++ renderSize size ++ ")"
  | .varBinary size => "varbinary(" ++ renderSize size ++ ")"
  | .decimal precision scale =>
    "decimal(" ++ toString precision.toNat ++ "," ++ toString scale.toNat ++ ")"
  | .time scale => "time(" ++ toString scale.toNat ++ ")"
  | .dateTime2 scale => "datetime2(" ++ toString scale.toNat ++ ")"
  | .dateTimeOffset scale => "datetimeoffset(" ++ toString scale.toNat ++ ")"

/-- The size of a TYPE_INFO whose units have `width` bytes: 0xffff exactly for `(max)`. -/
def SizeIs (width : Nat) (size : Option Nat) (field : UInt16) : Prop :=
  match size with
  | none => field = u16Max
  | some units => field ≠ u16Max ∧ field.toNat = width * units

def Describes : SqlType → Bytes → Prop
  | .bit, info => info = [dataTypeBitN, 1]
  | .tinyInt, info => info = [dataTypeIntN, 1]
  | .smallInt, info => info = [dataTypeIntN, 2]
  | .int, info => info = [dataTypeIntN, 4]
  | .bigInt, info => info = [dataTypeIntN, 8]
  | .real, info => info = [dataTypeFloatN, 4]
  | .float, info => info = [dataTypeFloatN, 8]
  | .date, info => info = [dataTypeDateN]
  | .uniqueIdentifier, info => info = [dataTypeGuid, 16]
  | .nVarChar size, info => ∃ field, SizeIs 2 size field ∧
      info = [dataTypeNVarChar] ++ (leBytes 2 field.toNat ++ defaultCollation)
  | .varChar size, info => ∃ field, SizeIs 1 size field ∧
      info = [dataTypeBigVarChar] ++ (leBytes 2 field.toNat ++ defaultCollation)
  | .varBinary size, info => ∃ field, SizeIs 1 size field ∧
      info = [dataTypeBigVarBinary] ++ leBytes 2 field.toNat
  | .decimal precision scale, info => ∃ size, info = [dataTypeNumericN, size, precision, scale]
  | .time scale, info => info = [dataTypeTimeN, scale]
  | .dateTime2 scale, info => info = [dataTypeDateTime2N, scale]
  | .dateTimeOffset scale, info => info = [dataTypeDateTimeOffsetN, scale]

def limit : SqlType → Option Nat
  | .nVarChar (some chars) => some (2 * chars)
  | .varChar (some bytes) => some bytes
  | .varBinary (some bytes) => some bytes
  | _ => none

inductive ValueForm where
  | byteLen
  | shortLen
  | chunked
  deriving DecidableEq, Repr

def sizedForm : Option Nat → ValueForm
  | none => .chunked
  | some _ => .shortLen

def form : SqlType → ValueForm
  | .nVarChar size | .varChar size | .varBinary size => sizedForm size
  | _ => .byteLen

def Contains (type : SqlType) (value : Option Bytes) (content : Bytes) : Prop :=
  match type.form, value with
  | .byteLen, none => content = [0]
  | .byteLen, some bytes => ∃ len : UInt8, len.toNat = bytes.length ∧ content = [len] ++ bytes
  | .shortLen, none => content = leBytes 2 u16Max.toNat
  | .shortLen, some bytes =>
    ∃ len : UInt16, len.toNat = bytes.length ∧ content = leBytes 2 len.toNat ++ bytes
  | .chunked, none => content = leBytes 8 plpNull
  | .chunked, some bytes => content = leBytes 8 bytes.length ++
      (plpChunkBytes (chunks plpChunkSize bytes) ++ leBytes 4 0)

end SqlType

end types

section agreement

def countedName (name : String) : Bytes :=
  UInt8.ofNat (encodeUtf16 name).length :: unitBytes (encodeUtf16 name)

def parameterName (number : Nat) : String := "@p" ++ toString number

/-- The declared type `text` of a parameter and its bytes `piece` say the same, and a value of a
built-in text or binary type has room in the declared size. -/
def Agrees (number : Nat) (value : EncodeValue) (text : String) (piece : Bytes) : Prop :=
  ∃ (type : SqlType) (info content encoded : Bytes) (isNull : IsNull),
    value.encode = .ok (encoded, isNull) ∧ text = type.render ∧ type.Describes info ∧
      type.Contains (if isNull == .yes then none else some encoded) content ∧
      piece = countedName (parameterName number) ++ ([0] ++ (info ++ content)) ∧
      (value.BuiltInText → isNull = .no → ∀ limit, type.limit = some limit →
        encoded.length ≤ limit)

def declared (texts : List String) : String :=
  ",".intercalate (texts.zipIdx.map fun (text, index) => parameterName (index + 1) ++ " " ++ text)

/-- The buffer counts the values, and its declarations and its data agree on each. -/
def AllAgree (values : List EncodeValue) (arguments : MssqlArguments) : Prop :=
  arguments.len = values.length ∧ ∃ (texts : List String) (pieces : List Bytes),
    arguments.declarations = declared texts ∧ arguments.data = pieces.flatten ∧
      texts.length = values.length ∧ pieces.length = values.length ∧
      ∀ (index : Nat) (value : EncodeValue) (text : String) (piece : Bytes),
        values[index]? = some value → texts[index]? = some text → pieces[index]? = some piece →
          Agrees (index + 1) value text piece

/-- A value whose size the two writers see alike: an NVARCHAR has no odd size, a VARCHAR or
VARBINARY without a size has not exactly 65535 bytes, and a value of another kind that has bytes is
not of the size 0xffff. -/
def EncodeValue.Fits (value : EncodeValue) : Prop :=
  ∀ encoded isNull, value.encode = .ok (encoded, isNull) →
    match value.typeInfo.kind with
    | .nVarChar => ∀ size, value.typeInfo.size = some size → size = u16Max ∨ size.toNat % 2 = 0
    | .varChar | .varBinary =>
      value.typeInfo.size = none → isNull = .no → encoded.length ≠ 65535
    | _ => value.typeInfo.size = some u16Max → isNull = .no → encoded = []

def EncodeValue.EvenText (value : EncodeValue) : Prop :=
  value.typeInfo.kind = .nVarChar → ∀ encoded isNull, value.encode = .ok (encoded, isNull) →
    encoded.length % 2 = 0

end agreement

section kinds
variable {typeInfo : MssqlTypeInfo} {type : SqlType} {size : UInt16}

def plainType (typeInfo : MssqlTypeInfo) : Option SqlType :=
  match typeInfo.kind with
  | .bit => some .bit
  | .tinyInt => some .tinyInt
  | .smallInt => some .smallInt
  | .int => some .int
  | .bigInt => some .bigInt
  | .real => some .real
  | .float => some .float
  | .date => some .date
  | .uniqueIdentifier => some .uniqueIdentifier
  | .decimal => some (.decimal (max typeInfo.precision 1) typeInfo.scale)
  | .time => some (.time typeInfo.scale)
  | .dateTime2 => some (.dateTime2 typeInfo.scale)
  | .dateTimeOffset => some (.dateTimeOffset typeInfo.scale)
  | _ => none

def unitsOf (width : Nat) (size : UInt16) : Option Nat :=
  if size = u16Max then none else some (size.toNat / width)

def sizedSqlType (kind : MssqlType) (size : UInt16) : Option SqlType :=
  match kind with
  | .nVarChar => some (.nVarChar (unitsOf 2 size))
  | .varChar => some (.varChar (unitsOf 1 size))
  | .varBinary => some (.varBinary (unitsOf 1 size))
  | _ => none

theorem declaration_cases {len : Nat} {isNull : Bool} {text : String}
    (made : declaration typeInfo len isNull = .ok text) :
    (∃ type, plainType typeInfo = some type) ∨
      ∃ size type, parameterSize typeInfo len isNull = .ok size ∧
        sizedSqlType typeInfo.kind size = some type := by
  rcases typeInfo with ⟨kind, variableLength, limit, protocolTypeInfo⟩
  cases kind
  case nVarChar =>
    have ⟨size, found, _⟩ := bind_ok_iff.mp made
    exact .inr ⟨size, _, found, rfl⟩
  case varChar =>
    have ⟨size, found, _⟩ := bind_ok_iff.mp made
    exact .inr ⟨size, _, found, rfl⟩
  case varBinary =>
    have ⟨size, found, _⟩ := bind_ok_iff.mp made
    exact .inr ⟨size, _, found, rfl⟩
  case null => cases made
  case money => cases made
  case dateTime => cases made
  case other name => cases made
  all_goals exact .inl ⟨_, rfl⟩

theorem plainType_spec (plain : plainType typeInfo = some type) (encoded : Bytes) (isNull : Bool) :
    declaration typeInfo encoded.length isNull = .ok type.render ∧ type.form = .byteLen ∧
      type.limit = none ∧
      (∀ info, (writeTypeInfo typeInfo encoded.length isNull).Writes info () →
        type.Describes info) ∧
      writeParamLen typeInfo encoded isNull = (do
        let len ← if isNull then pure 0 else .lift (u8TryFrom encoded.length)
        .emit [len]) := by
  rcases typeInfo with ⟨kind, variableLength, limit, protocolTypeInfo⟩
  cases kind <;> cases plain <;> refine ⟨rfl, rfl, rfl, ?_, rfl⟩ <;> intro info written
  case decimal =>
    obtain ⟨_, _, _, rfl, code, rest⟩ := Put.Writes.of_bind written
    obtain ⟨_, size, _, rfl, sized, numbers⟩ := Put.Writes.of_bind rest
    cases code
    cases numbers
    cases (Put.mk.inj sized).1
    exact ⟨size, rfl⟩
  all_goals
    cases written
    rfl

theorem unitsOf_one {field : UInt16} : SqlType.SizeIs 1 (unitsOf 1 field) field := by
  unfold unitsOf SqlType.SizeIs
  by_cases max : field = u16Max
  · rw [if_pos max]
    exact max
  · rw [if_neg max, Nat.div_one]
    exact ⟨max, (Nat.one_mul _).symm⟩

theorem unitsOf_two {field : UInt16} (even : field = u16Max ∨ field.toNat % 2 = 0) :
    SqlType.SizeIs 2 (unitsOf 2 field) field := by
  unfold unitsOf SqlType.SizeIs
  by_cases max : field = u16Max
  · rw [if_pos max]
    exact max
  · rw [if_neg max]
    exact ⟨max, by have whole := even.resolve_left max; omega⟩

theorem form_unitsOf (width : Nat) :
    SqlType.sizedForm (unitsOf width size) = if size = u16Max then .chunked else .shortLen := by
  unfold unitsOf
  by_cases max : size = u16Max
  · rw [if_pos max, if_pos max]
    rfl
  · rw [if_neg max, if_neg max]
    rfl

theorem sized_text (width : Nat) (size : UInt16) {front whole : String}
    (maxText : whole = front ++ "max" ++ ")") :
    (if size = u16Max then .ok whole
      else .ok (front ++ toString (size.toNat / width) ++ ")") : Except BoxDynError String) =
      .ok (front ++ SqlType.renderSize (unitsOf width size) ++ ")") := by
  unfold unitsOf
  by_cases max : size = u16Max
  · rw [if_pos max, if_pos max, maxText]
    rfl
  · rw [if_neg max, if_neg max]
    rfl

theorem declaration_sized (sized : sizedSqlType typeInfo.kind size = some type) {len : Nat}
    {isNull : Bool} (written : parameterSize typeInfo len isNull = .ok size) :
    declaration typeInfo len isNull = .ok type.render := by
  rcases typeInfo with ⟨kind, variableLength, limit, protocolTypeInfo⟩
  cases kind <;> cases sized
  case nVarChar =>
    change nvarcharTypeSize _ _ _ = _ at written
    rw [declaration, nvarcharDeclaration, written]
    exact sized_text 2 size (by decide)
  case varChar =>
    have maxText : "varchar(max)" = "varchar(" ++ "max" ++ ")" := by decide
    change boundedShortLen _ _ _ = _ at written
    have rendered := sized_text 1 size maxText
    rw [Nat.div_one] at rendered
    rw [declaration, varcharDeclaration, written]
    exact rendered
  case varBinary =>
    have maxText : "varbinary(max)" = "varbinary(" ++ "max" ++ ")" := by decide
    change boundedShortLen _ _ _ = _ at written
    have rendered := sized_text 1 size maxText
    rw [Nat.div_one] at rendered
    rw [declaration, varbinaryDeclaration, written]
    exact rendered

theorem describes_sized (sized : sizedSqlType typeInfo.kind size = some type) {len : Nat}
    {isNull : Bool} (written : parameterSize typeInfo len isNull = .ok size)
    (even : typeInfo.kind = .nVarChar → size = u16Max ∨ size.toNat % 2 = 0) {info : Bytes}
    (typed : (writeTypeInfo typeInfo len isNull).Writes info ()) : type.Describes info := by
  rcases typeInfo with ⟨kind, variableLength, limit, protocolTypeInfo⟩
  cases kind <;> cases sized
  case nVarChar =>
    change nvarcharTypeSize _ _ _ = _ at written
    rw [writeTypeInfo, written] at typed
    cases typed
    exact ⟨size, unitsOf_two (even rfl), rfl⟩
  case varChar =>
    change boundedShortLen _ _ _ = _ at written
    rw [writeTypeInfo, written] at typed
    cases typed
    exact ⟨size, unitsOf_one, rfl⟩
  case varBinary =>
    change boundedShortLen _ _ _ = _ at written
    rw [writeTypeInfo, written] at typed
    cases typed
    exact ⟨size, unitsOf_one, rfl⟩

theorem form_sized (sized : sizedSqlType typeInfo.kind size = some type) :
    type.form = if size = u16Max then .chunked else .shortLen := by
  rcases typeInfo with ⟨kind, variableLength, limit, protocolTypeInfo⟩
  cases kind <;> cases sized
  all_goals exact form_unitsOf _

theorem limit_sized (sized : sizedSqlType typeInfo.kind size = some type)
    (even : typeInfo.kind = .nVarChar → size = u16Max ∨ size.toNat % 2 = 0) {limit : Nat}
    (limited : type.limit = some limit) : size ≠ u16Max ∧ limit = size.toNat := by
  rcases typeInfo with ⟨kind, variableLength, bound, protocolTypeInfo⟩
  have short : ∀ width, ∀ units, unitsOf width size = some units →
      size ≠ u16Max ∧ units = size.toNat / width := by
    intro width units found
    unfold unitsOf at found
    split at found
    next => cases found
    next max => exact ⟨max, (Option.some.inj found).symm⟩
  cases kind <;> cases sized
  case nVarChar =>
    cases units : unitsOf 2 size with
    | none => rw [units] at limited; cases limited
    | some chars =>
      have ⟨max, count⟩ := short 2 chars units
      rw [units] at limited
      have whole := (even rfl).resolve_left max
      have same : 2 * chars = limit := Option.some.inj limited
      exact ⟨max, by omega⟩
  all_goals
    cases units : unitsOf 1 size with
    | none => rw [units] at limited; cases limited
    | some bytes =>
      have ⟨max, count⟩ := short 1 bytes units
      rw [units] at limited
      have same : bytes = limit := Option.some.inj limited
      exact ⟨max, by omega⟩

end kinds

section contents
variable {typeInfo : MssqlTypeInfo} {type : SqlType} {size : UInt16} {encoded content : Bytes}
  {isNull : Bool}

theorem u8TryFrom_ok {value : Nat} {len : UInt8} (fits : u8TryFrom value = .ok len) :
    len.toNat = value := by
  unfold u8TryFrom at fits
  split at fits
  next small => rw [← Except.ok.inj fits, UInt8.toNat_ofNat_of_lt' small]
  next => cases fits

theorem u16TryFrom_ok {value : Nat} {len : UInt16} (fits : u16TryFrom value = .ok len) :
    len.toNat = value := by
  unfold u16TryFrom at fits
  split at fits
  next small => rw [← Except.ok.inj fits, UInt16.toNat_ofNat_of_lt' small]
  next => cases fits

theorem contains_plain (form : type.form = .byteLen)
    (writer : writeParamLen typeInfo encoded isNull = (do
      let len ← if isNull then pure 0 else .lift (u8TryFrom encoded.length)
      .emit [len]))
    (fits : typeInfo.size = some u16Max → isNull = false → encoded = [])
    (written : (writeParamLenData typeInfo encoded isNull).Writes content ()) :
    type.Contains (if isNull then none else some encoded) content := by
  unfold SqlType.Contains
  rw [form]
  rw [writeParamLenData, writer] at written
  cases isNull with
  | true =>
    cases written
    rfl
  | false =>
    obtain ⟨_, _, rest, rfl, length, data⟩ := Put.Writes.of_bind written
    obtain ⟨_, len, _, rfl, count, byte⟩ := Put.Writes.of_bind length
    cases byte
    cases (Put.mk.inj count).1
    have found := u8TryFrom_ok (Put.mk.inj count).2
    by_cases max : typeInfo.size = some u16Max
    · have empty := fits max rfl
      rw [if_neg fun both => both.2 max] at data
      cases data
      exact ⟨len, found, by rw [empty]; rfl⟩
    · rw [if_pos ⟨rfl, max⟩] at data
      cases data
      exact ⟨len, found, rfl⟩

theorem writeParamLen_sized (sized : sizedSqlType typeInfo.kind size = some type) :
    writeParamLen typeInfo encoded isNull =
      if typeInfo.size = some u16Max then writePlpValue encoded isNull
      else (do
        let len ← if isNull then pure u16Max else .lift (u16TryFrom encoded.length)
        .emit (leBytes 2 len.toNat)) := by
  rcases typeInfo with ⟨kind, variableLength, limit, protocolTypeInfo⟩
  cases kind <;> cases sized <;> rfl

theorem contains_sized (sized : sizedSqlType typeInfo.kind size = some type)
    (alike : typeInfo.size = some u16Max ↔ size = u16Max)
    (written : (writeParamLenData typeInfo encoded isNull).Writes content ()) :
    type.Contains (if isNull then none else some encoded) content := by
  unfold SqlType.Contains
  rw [form_sized sized]
  rw [writeParamLenData, writeParamLen_sized sized] at written
  obtain ⟨front, _, rest, rfl, length, data⟩ := Put.Writes.of_bind written
  by_cases max : typeInfo.size = some u16Max
  · rw [if_pos (alike.mp max)]
    rw [if_pos max] at length
    rw [if_neg fun both => both.2 max] at data
    cases data
    have same := (Put.mk.inj (length.symm.trans (writes_plpValue encoded isNull))).1
    rw [same, List.append_nil]
    cases isNull with
    | true => rfl
    | false => rfl
  · rw [if_neg (max ∘ alike.mpr)]
    rw [if_neg max] at length
    cases isNull with
    | true =>
      cases length
      cases data
      rfl
    | false =>
      obtain ⟨_, len, _, rfl, count, bytes⟩ := Put.Writes.of_bind length
      cases bytes
      cases (Put.mk.inj count).1
      rw [if_pos ⟨rfl, max⟩] at data
      cases data
      exact ⟨len, u16TryFrom_ok (Put.mk.inj count).2, rfl⟩

end contents

section steps
variable {value : EncodeValue} {type : SqlType} {size : UInt16} {encoded : Bytes} {isNull : IsNull}

theorem parameterSize_some {typeInfo : MssqlTypeInfo} {limit : UInt16}
    (declared : typeInfo.size = some limit) (len : Nat) (isNull : Bool) :
    parameterSize typeInfo len isNull = .ok limit := by
  unfold parameterSize
  split
  next => rw [nvarcharTypeSize, declared]
  next => rw [boundedShortLen, declared]

theorem parameterSize_none {typeInfo : MssqlTypeInfo} (declared : typeInfo.size = none) {len : Nat}
    {isNull : Bool} (written : parameterSize typeInfo len isNull = .ok size) :
    (size.toNat = 1 ∨ size.toNat = 2 ∨ isNull = false ∧ size.toNat = len) ∧
      (typeInfo.kind = .nVarChar → len % 2 = 0 → size.toNat % 2 = 0) := by
  unfold parameterSize at written
  split at written
  next text =>
    rw [nvarcharTypeSize, declared] at written
    have field := u16TryFrom_ok written
    cases isNull with
    | true =>
      rw [if_pos rfl] at field
      exact ⟨.inr (.inl field), fun _ _ => by omega⟩
    | false =>
      rw [if_neg (by decide)] at field
      refine ⟨?_, fun _ whole => by omega⟩
      rcases Nat.le_total len 2 with short | long
      · exact .inr (.inl (by omega))
      · exact .inr (.inr ⟨rfl, by omega⟩)
  next other =>
    rw [boundedShortLen, declared] at written
    have field := u16TryFrom_ok written
    refine ⟨?_, fun text => absurd text other⟩
    cases isNull with
    | true => exact .inl field
    | false =>
      rw [if_neg (by decide)] at field
      rcases Nat.le_total len 1 with short | long
      · exact .inl (by omega)
      · exact .inr (.inr ⟨rfl, by omega⟩)

theorem even_of_fits (fits : value.Fits) (even : value.EvenText)
    (encodes : value.encode = .ok (encoded, isNull))
    (written : parameterSize value.typeInfo encoded.length (isNull == .yes) = .ok size)
    (text : value.typeInfo.kind = .nVarChar) : size = u16Max ∨ size.toNat % 2 = 0 := by
  have allowed := fits encoded isNull encodes
  simp only [text] at allowed
  cases declared : value.typeInfo.size with
  | some limit =>
    rw [parameterSize_some declared] at written
    rw [← Except.ok.inj written]
    exact allowed limit declared
  | none => exact .inr ((parameterSize_none declared written).2 text (even text encoded isNull encodes))

theorem alike_of_fits (fits : value.Fits) (even : value.EvenText)
    (encodes : value.encode = .ok (encoded, isNull))
    (sized : sizedSqlType value.typeInfo.kind size = some type)
    (written : parameterSize value.typeInfo encoded.length (isNull == .yes) = .ok size) :
    value.typeInfo.size = some u16Max ↔ size = u16Max := by
  cases declared : value.typeInfo.size with
  | some limit =>
    rw [parameterSize_some declared] at written
    rw [← Except.ok.inj written, Option.some.injEq]
  | none =>
    apply iff_of_false (fun same => nomatch same)
    intro max
    have largest : size.toNat = 65535 := congrArg UInt16.toNat max
    have allowed := fits encoded isNull encodes
    rcases (parameterSize_none declared written).1 with one | two | ⟨present, full⟩
    · omega
    · omega
    · have long : encoded.length = 65535 := full.symm.trans largest
      have no : isNull = .no := by
        cases isNull with
        | yes => exact absurd present (by decide)
        | no => rfl
      cases kind : value.typeInfo.kind <;> simp only [kind] at sized allowed
      case nVarChar =>
        have whole := even kind encoded isNull encodes
        omega
      case varChar => exact allowed declared no long
      case varBinary => exact allowed declared no long
      all_goals cases sized

theorem builtIn_room (builtIn : value.BuiltInText) (encodes : value.encode = .ok (encoded, .no)) :
    value.typeInfo.size = some u16Max ∨
      ∃ size, value.typeInfo.size = some size ∧ encoded.length ≤ size.toNat := by
  cases builtIn with
  | string text =>
    cases encodes
    rcases nvarcharParameterSize_cases text with ⟨_, max⟩ | ⟨_, size⟩
    · exact .inl (congrArg some max)
    · exact .inr ⟨_, rfl, by omega⟩
  | bytes bytes =>
    cases encodes
    rcases varbinaryParameterSize_cases encoded.length with ⟨_, max⟩ | ⟨_, size⟩
    · exact .inl (congrArg some max)
    · exact .inr ⟨_, rfl, by omega⟩
  | json text => exact .inl rfl

theorem plain_fits (fits : value.Fits) (encodes : value.encode = .ok (encoded, isNull))
    (plain : plainType value.typeInfo = some type) (max : value.typeInfo.size = some u16Max)
    (present : (isNull == .yes) = false) : encoded = [] := by
  have allowed := fits encoded isNull encodes
  have no : isNull = .no := by
    cases isNull with
    | yes => exact absurd present (by decide)
    | no => rfl
  unfold plainType at plain
  cases kind : value.typeInfo.kind <;> simp only [kind] at plain allowed <;>
    first | exact allowed max no | cases plain

theorem agrees_of_fits (number : Nat) (fits : value.Fits) (even : value.EvenText)
    (encodes : value.encode = .ok (encoded, isNull)) {text : String} {piece : Bytes}
    (declares : declaration value.typeInfo encoded.length (isNull == .yes) = .ok text)
    (written : (writeParameter (parameterName number) value.typeInfo encoded
      (isNull == .yes)).Writes piece ()) : Agrees number value text piece := by
  obtain ⟨name, _, _, rfl, named, behind⟩ := Put.Writes.of_bind written
  obtain ⟨status, _, _, rfl, plain, behind⟩ := Put.Writes.of_bind behind
  obtain ⟨info, _, content, rfl, typed, valued⟩ := Put.Writes.of_bind behind
  cases plain
  have counted := (Put.mk.inj (named.symm.trans (writes_bVarchar (short_of_writes named)))).1
  rw [counted]
  rcases declaration_cases declares with ⟨type, plain⟩ | ⟨size, type, field, sized⟩
  · have ⟨sameText, form, unlimited, describes, writer⟩ :=
      plainType_spec plain encoded (isNull == .yes)
    rw [declares] at sameText
    refine ⟨type, info, content, encoded, isNull, encodes, Except.ok.inj sameText,
      describes info typed, contains_plain form writer (plain_fits fits encodes plain) valued,
      rfl, ?_⟩
    intro _ _ limit limited
    rw [unlimited] at limited
    cases limited
  · have whole := even_of_fits fits even encodes field
    have sameText := declaration_sized sized field
    rw [declares] at sameText
    refine ⟨type, info, content, encoded, isNull, encodes, Except.ok.inj sameText,
      describes_sized sized field whole typed,
      contains_sized sized (alike_of_fits fits even encodes sized field) valued, rfl, ?_⟩
    rintro builtIn rfl limit limited
    have ⟨below, same⟩ := limit_sized sized whole limited
    rcases builtIn_room builtIn encodes with max | ⟨declared, found, room⟩
    · rw [parameterSize_some max] at field
      exact absurd (Except.ok.inj field).symm below
    · rw [parameterSize_some found] at field
      rw [same, ← Except.ok.inj field]
      exact room

theorem MssqlArguments.addValue_eq_ok {arguments : MssqlArguments} {value : EncodeValue}
    {encoded bytes : Bytes} {isNull : IsNull} {text : String}
    (encodes : value.encode = .ok (encoded, isNull))
    (declares : declaration value.typeInfo encoded.length (isNull == .yes) = .ok text)
    (written : (writeParameter (parameterName (arguments.len + 1)) value.typeInfo encoded
      (isNull == .yes)).Writes bytes ()) :
    arguments.addValue value = (.ok (), {
      len := arguments.len + 1
      data := arguments.data ++ bytes
      declarations := (if arguments.declarations.isEmpty then arguments.declarations
        else arguments.declarations ++ ",") ++
          (parameterName (arguments.len + 1) ++ " " ++ text) }) := by
  have ⟨wrote, succeeded⟩ := Put.writes_iff.mp written
  rw [addValue, encodes]
  dsimp only
  rw [addParameter, declares]
  dsimp only
  rw [← parameterName, wrote, succeeded]

/-- A successful `add` appends one declaration and one parameter. -/
theorem addValue_agrees {arguments next : MssqlArguments} (fits : value.Fits)
    (even : value.EvenText) (added : arguments.addValue value = (.ok (), next)) :
    next.len = arguments.len + 1 ∧ ∃ text piece, next.declarations =
        (if arguments.declarations.isEmpty then arguments.declarations
          else arguments.declarations ++ ",") ++
            (parameterName (arguments.len + 1) ++ " " ++ text) ∧
      next.data = arguments.data ++ piece ∧ Agrees (arguments.len + 1) value text piece := by
  rw [MssqlArguments.addValue] at added
  split at added
  next => cases added
  next encoded isNull encodes =>
    rw [MssqlArguments.addParameter] at added
    dsimp only at added
    split at added
    next => cases added
    next text declares =>
      obtain ⟨succeeded, rfl⟩ := Prod.mk.inj added
      exact ⟨rfl, text, _, rfl, rfl, agrees_of_fits _ fits even encodes declares
        (Put.writes_iff.mpr ⟨rfl, succeeded⟩)⟩

end steps

section runs
variable {texts : List String} {values : List EncodeValue} {arguments : MssqlArguments}

theorem parameterName_ne_empty (number : Nat) (rest : String) :
    parameterName number ++ rest ≠ "" := by
  intro same
  have letters := congrArg String.toList same
  simp only [parameterName, String.toList_append] at letters
  exact absurd letters (by simp)

theorem declared_isEmpty (texts : List String) : (declared texts).isEmpty = texts.isEmpty := by
  cases texts with
  | nil => rfl
  | cons text texts =>
    rw [declared, List.zipIdx_cons, List.map_cons]
    dsimp only
    rw [String.append_assoc, String.intercalate_cons_append, List.isEmpty_cons, Bool.eq_false_iff]
    intro empty
    exact parameterName_ne_empty _ _ (String.isEmpty_iff.mp empty)

theorem declared_snoc (texts : List String) (text : String) : declared (texts ++ [text]) =
    (if (declared texts).isEmpty then declared texts else declared texts ++ ",") ++
      (parameterName (texts.length + 1) ++ " " ++ text) := by
  rw [declared_isEmpty]
  by_cases empty : texts = []
  · rw [empty]
    exact String.intercalate_singleton
  · have earlier : texts.zipIdx.map (fun (text, index) =>
        parameterName (index + 1) ++ " " ++ text) ≠ [] := by simpa using empty
    rw [if_neg (by simpa using empty), declared, List.zipIdx_append, List.map_append,
      String.intercalate_append_of_ne_nil earlier (by simp)]
    simp [declared]

theorem AllAgree.add {value : EncodeValue} {next : MssqlArguments}
    (before : AllAgree values arguments) (even : value.EvenText) (fits : value.Fits)
    (added : arguments.addValue value = (.ok (), next)) : AllAgree (values ++ [value]) next := by
  have ⟨count, texts, pieces, declarations, data, textCount, pieceCount, each⟩ := before
  have ⟨len, text, piece, appended, extended, agrees⟩ := addValue_agrees fits even added
  refine ⟨by rw [len, count, List.length_append, List.length_singleton], texts ++ [text],
    pieces ++ [piece], ?_, ?_, by simpa using textCount, by simpa using pieceCount, ?_⟩
  · rw [appended, declarations, declared_snoc, count, textCount]
  · rw [extended, data, List.flatten_append, List.flatten_singleton]
  · intro index other written bytes found named sent
    rcases Nat.lt_trichotomy index values.length with earlier | last | after
    · rw [List.getElem?_append_left earlier] at found
      rw [List.getElem?_append_left (textCount ▸ earlier)] at named
      rw [List.getElem?_append_left (pieceCount ▸ earlier)] at sent
      exact each index other written bytes found named sent
    · subst last
      rw [List.getElem?_concat_length] at found
      rw [← textCount, List.getElem?_concat_length] at named
      rw [← pieceCount, List.getElem?_concat_length] at sent
      cases found
      cases named
      cases sent
      rw [← count]
      exact agrees
    · have outside : (values ++ [value]).length ≤ index := by
        rw [List.length_append, List.length_singleton]
        omega
      rw [List.getElem?_eq_none_iff.mpr outside] at found
      cases found

theorem allAgree_default : AllAgree [] .default :=
  ⟨rfl, [], [], rfl, rfl, rfl, rfl, fun _ _ _ _ found => nomatch found⟩

/-- After any successful adds of values that fit, the declarations and the data agree. -/
theorem Added.allAgree (added : Added values arguments) (even : ∀ value ∈ values, value.EvenText)
    (fits : ∀ value ∈ values, value.Fits) : AllAgree values arguments := by
  induction added with
  | empty => exact allAgree_default
  | add earlier added ih =>
    simp only [List.forall_mem_append, List.forall_mem_singleton] at even fits
    exact (ih even.1 fits.1).add even.2 fits.2 added

def recorded : List EncodeValue := [.ofScalar (.i32 7), .ofScalar (.string "hi")]

def recordedArguments : MssqlArguments :=
  ((MssqlArguments.default.addValue (.ofScalar (.i32 7))).2.addValue
    (.ofScalar (.string "hi"))).2

theorem recorded_allAgree : recordedArguments.declarations = "@p1 int,@p2 nvarchar(2)" ∧
    AllAgree recorded recordedArguments := by
  have first : Added [.ofScalar (.i32 7)] _ := Added.add .empty rfl
  have added : Added recorded recordedArguments := Added.add first rfl
  have even : ∀ value ∈ recorded, value.EvenText := by
    intro value member
    rcases List.mem_pair.mp member with rfl | rfl
    · exact fun text => nomatch text
    · intro _ encoded isNull encodes
      cases encodes
      decide
  have fits : ∀ value ∈ recorded, value.Fits := by
    intro value member
    rcases List.mem_pair.mp member with rfl | rfl
    · exact fun _ _ _ sized => nomatch sized
    · intro _ _ _ size sized
      cases sized
      decide
  exact ⟨rfl, added.allAgree even fits⟩

end runs

section largest
variable {encoded : Bytes}

def unsizedBinary (encoded : Bytes) : EncodeValue where
  produces := none
  ofType := .varBinary
  encode := .ok (encoded, .no)

def largestPiece (encoded : Bytes) : Bytes := countedName (parameterName 1) ++
  ([0] ++ ([0xa5, 0xff, 0xff] ++ ([0xff, 0xff] ++ encoded)))

/-- At 65535 bytes the types say `(max)`, and the value stands behind a 16-bit length. -/
theorem unsizedBinary_added (length : encoded.length = 65535) :
    Added [unsizedBinary encoded] ⟨1, largestPiece encoded, "@p1 varbinary(max)"⟩ := by
  have declares : declaration .varBinary encoded.length false = .ok "varbinary(max)" := by
    rw [length]
    rfl
  have typed : (writeTypeInfo .varBinary encoded.length false).Writes [0xa5, 0xff, 0xff] () := by
    rw [length]
    rfl
  have counted : (Put.lift (u16TryFrom encoded.length)).Writes [] 65535 := by
    rw [length]
    rfl
  have sized : (writeParamLen .varBinary encoded false).Writes [0xff, 0xff] () :=
    Put.Writes.bind counted (Put.writes_emit _)
  have valued : (writeParamLenData .varBinary encoded false).Writes ([0xff, 0xff] ++ encoded) () :=
    Put.Writes.bind sized (Put.writes_emit _)
  have written : (writeParameter (parameterName 1) .varBinary encoded false).Writes
      (largestPiece encoded) () :=
    Put.Writes.bind (writes_bVarchar (by decide)) (Put.Writes.bind (Put.writes_emit _)
      (Put.Writes.bind typed valued))
  exact .add .empty (MssqlArguments.addValue_eq_ok (rfl : (unsizedBinary encoded).encode = _)
    declares written)

theorem unsizedBinary_not_agrees (length : encoded.length = 65535) (text : String) :
    ¬Agrees 1 (unsizedBinary encoded) text (largestPiece encoded) := by
  intro ⟨type, info, content, value, isNull, encodes, _, describes, contains, split, _⟩
  cases encodes
  have same := List.append_cancel_left (List.append_cancel_left split)
  have code : info.head? = some 0xa5 := by
    have first := congrArg List.head? same
    cases info with
    | nil => cases type <;> simp [SqlType.Describes] at describes
    | cons code rest => exact first.symm
  cases type with
  | varBinary size =>
    obtain ⟨field, sized, rfl⟩ := describes
    have bytes := List.append_inj same rfl
    have largest : leBytes 2 field.toNat = [0xff, 0xff] := (List.cons_inj_right _).mp bytes.1.symm
    cases size with
    | none =>
      have long := congrArg List.length (bytes.2.trans contains)
      have chunked := plpChunkBytes_length_ge (chunks plpChunkSize encoded)
      rw [chunks_flatten (by decide)] at chunked
      simp only [List.length_append, leBytes_length, List.length_cons, List.length_nil] at long
      omega
    | some units =>
      have back := congrArg leNat largest
      rw [leNat_leBytes_of_lt field.toNat_lt] at back
      exact absurd (UInt16.toNat_inj.mp back) sized.1
  | decimal precision scale =>
    obtain ⟨size, rfl⟩ := describes
    cases code
  | nVarChar size =>
    obtain ⟨field, _, rfl⟩ := describes
    cases code
  | varChar size =>
    obtain ⟨field, _, rfl⟩ := describes
    cases code
  | _ =>
    cases describes
    cases code

/-- A run whose declarations and data do not agree. -/
theorem largestBinary_not_agrees :
    ¬∀ (values : List EncodeValue) (arguments : MssqlArguments), Added values arguments →
      (∀ value ∈ values, value.EvenText) → AllAgree values arguments := by
  intro claim
  have length : (List.replicate 65535 (0 : UInt8)).length = 65535 := List.length_replicate
  have even : ∀ value ∈ [unsizedBinary (List.replicate 65535 0)], value.EvenText := by
    intro value member
    cases List.mem_singleton.mp member
    exact fun text => nomatch text
  have ⟨_, texts, pieces, _, data, textCount, pieceCount, each⟩ :=
    claim _ _ (unsizedBinary_added length) even
  obtain ⟨text, rfl⟩ := List.length_eq_one_iff.mp textCount
  obtain ⟨piece, rfl⟩ := List.length_eq_one_iff.mp pieceCount
  rw [List.flatten_singleton] at data
  subst data
  exact unsizedBinary_not_agrees length text (each 0 _ text _ rfl rfl rfl)
end largest

section builtIn
variable [NoneEncoding]

theorem EncodeValue.ofArgument_typeInfo (argument : Argument) :
    (ofArgument argument).typeInfo = argument.typeInfo := rfl

theorem EncodeValue.ofArgument_fits (argument : Argument) : (ofArgument argument).Fits := by
  intro encoded isNull encodes
  rw [ofArgument_typeInfo]
  cases argument with
  | none type =>
    cases encodes
    rw [Argument.typeInfo_none]
    cases type with
    | string => exact fun size sized => nomatch sized
    | bytes => exact fun _ present => nomatch present
    | _ => exact fun _ present => nomatch present
  | scalar value =>
    cases value with
    | string text =>
      intro size sized
      cases sized
      rcases nvarcharParameterSize_cases text with ⟨_, max⟩ | ⟨_, size⟩
      · exact .inl max
      · have whole := unitBytes_length (encodeUtf16 text)
        exact .inr (by omega)
    | bytes bytes => exact fun sized => nomatch sized
    | _ => exact fun sized => nomatch sized

theorem EncodeValue.ofArgument_evenText (argument : Argument) :
    (ofArgument argument).EvenText := by
  intro text encoded isNull encodes
  rw [ofArgument_typeInfo, Argument.typeInfo_kind] at text
  cases argument with
  | none type =>
    cases encodes
    rfl
  | scalar value =>
    cases value with
    | string value =>
      cases encodes
      rw [unitBytes_length]
      exact Nat.mul_mod_right ..
    | _ => cases text

/-- The declarations of built-in values always agree with the data. -/
theorem Built.declarations_agree {values : List Argument} {arguments : MssqlArguments}
    (built : Built values arguments) : AllAgree (values.map .ofArgument) arguments := by
  induction built with
  | empty => exact allAgree_default
  | add earlier added ih =>
    rw [List.map_append]
    exact ih.add (EncodeValue.ofArgument_evenText _) (EncodeValue.ofArgument_fits _) added

end builtIn

end SqlxSqlserver.Driver

import SqlxSqlserver.Driver.BigDecimal
import SqlxSqlserver.Driver.Decimal
import SqlxSqlserver.Driver.PlainTypes
import SqlxSqlserver.Driver.TemporalPanics
import SqlxSqlserver.Driver.TimeRoundTrip

/-! The values of all types that the driver comes with, bound in any mixture: what the server is sent
of each of them, and what the driver reads of that again. -/

namespace SqlxSqlserver.Driver
open Foundation Protocol Reader

section uuid

/-- What the encoder and the decoder rely on in the crate `uuid`: a UUID has sixteen bytes in the order
of the wire, and is made of them again. -/
class UuidCrate where
  Uuid : Type
  toBytesLe : Uuid → Bytes
  fromBytesLe (bytes : Bytes) (sixteen : bytes.length = 16) : Uuid
  sixteen : ∀ uuid, (toBytesLe uuid).length = 16
  fromBytesLe_toBytesLe : ∀ uuid, fromBytesLe (toBytesLe uuid) (sixteen uuid) = uuid

namespace UuidCrate
variable [UuidCrate]

def decode (value : MssqlValue) : Outcome BoxDynError Uuid := do
  let bytes ← .ofExcept (nonNullBytes value "Uuid")
  if sixteen : bytes.length = 16 then return fromBytesLe bytes sixteen
  else .err .tryFromSlice

theorem decode_toBytesLe (self : Uuid) (typeInfo : MssqlTypeInfo) :
    decode { typeInfo, data := some (toBytesLe self) } = .ok self := by
  rw [decode, nonNullBytes, Outcome.ofExcept, Outcome.ok_bind, dif_pos (sixteen self)]
  exact congrArg Outcome.ok (fromBytesLe_toBytesLe self)

end UuidCrate
end uuid

section decimals

/-- What the encoder uses of a `rust_decimal::Decimal`: its sign, its scale and its mantissa, a number
of 96 bits. The sign of a zero may be negative. -/
class DecimalParts extends RustDecimal where
  isSignNegative : Decimal → Bool
  scale : Decimal → Nat
  mantissa : Decimal → Int
  scale_le : ∀ decimal, scale decimal ≤ 28
  mantissa_lt : ∀ decimal, (mantissa decimal).natAbs < 2 ^ 96
  signed : ∀ decimal,
    if isSignNegative decimal then mantissa decimal ≤ 0 else 0 ≤ mantissa decimal
  toRat_eq : ∀ decimal, toRat decimal = mantissa decimal / 10 ^ scale decimal

namespace RustDecimal
variable [DecimalParts]

def producedScale (self : Decimal) : UInt8 :=
  if DecimalParts.scale self < 256 then UInt8.ofNat (DecimalParts.scale self) else 255

def produces (self : Decimal) : MssqlTypeInfo := .decimalWithScale (producedScale self)

def encode (self : Decimal) : Bytes :=
  let sign := if DecimalParts.isSignNegative self then 0 else 1
  let mantissa := if DecimalParts.scale self ≤ 255 then (DecimalParts.mantissa self).natAbs else 0
  sign :: leBytes 16 mantissa

theorem producedScale_toNat (self : Decimal) :
    (producedScale self).toNat = DecimalParts.scale self := by
  have low := DecimalParts.scale_le self
  rw [producedScale, if_pos (by omega), UInt8.toNat_ofNat', Nat.mod_eq_of_lt (by omega)]

theorem encode_numeric (self : Decimal) : ∃ sign mantissa, IsNumeric (encode self) sign mantissa ∧
    mantissa < 2 ^ 96 ∧ mantissa * sign = DecimalParts.mantissa self := by
  have low := DecimalParts.scale_le self
  have small := DecimalParts.mantissa_lt self
  have signed := DecimalParts.signed self
  have number : leNat (leBytes 16 (DecimalParts.mantissa self).natAbs) =
      (DecimalParts.mantissa self).natAbs := leNat_leBytes_of_lt (small.trans (by decide))
  have sixteen := (leBytes_length 16 (DecimalParts.mantissa self).natAbs).le
  unfold encode
  rw [if_pos (show DecimalParts.scale self ≤ 255 by omega)]
  by_cases negative : DecimalParts.isSignNegative self = true
  · rw [if_pos negative] at signed ⊢
    refine ⟨-1, _, .negative sixteen, ?_, ?_⟩
    · rwa [number]
    · rw [number]
      omega
  · rw [if_neg negative] at signed ⊢
    refine ⟨1, _, .positive sixteen, ?_, ?_⟩
    · rwa [number]
    · rw [number]
      omega

theorem decode_encode (self : Decimal) {typeInfo : MssqlTypeInfo} (kind : typeInfo.kind = .decimal)
    (scale : typeInfo.scale = producedScale self) : ∃ other,
      decode { typeInfo, data := some (encode self) } = .ok other ∧ toRat other = toRat self := by
  obtain ⟨sign, mantissa, numeric, small, product⟩ := encode_numeric self
  have low := DecimalParts.scale_le self
  have scaled : typeInfo.scale.toNat = DecimalParts.scale self := by
    rw [scale, producedScale_toNat]
  obtain ⟨other, decoded, exact⟩ := decode_fits kind numeric small (by omega)
  refine ⟨other, decoded, ?_⟩
  rw [exact, DecimalParts.toRat_eq, decimalNumber, product, scaled]

end RustDecimal
end decimals

section chrono

theorem ChronoType.decode_congr (type : ChronoType) {typeInfo other : MssqlTypeInfo}
    (kind : typeInfo.kind = other.kind) (scale : typeInfo.scale = other.scale) (data : Option Bytes) :
    type.decode { typeInfo, data } = type.decode { typeInfo := other, data } := by
  have zoned : DateTime.decode { typeInfo, data } = DateTime.decode { typeInfo := other, data } := by
    simp only [DateTime.decode, nonNullBytes, kind, scale]
  cases type with
  | naiveDateTime =>
    simp only [decode, NaiveDateTime.decode, nonNullBytes, zoned, kind, scale]
  | naiveDate => rfl
  | naiveTime => simp only [decode, NaiveTime.decode, nonNullBytes, scale]
  | dateTime => simp only [decode, zoned]

theorem BigDecimal.decode_congr {typeInfo other : MssqlTypeInfo}
    (kind : typeInfo.kind = other.kind) (scale : typeInfo.scale = other.scale) (data : Option Bytes) :
    BigDecimal.decode { typeInfo, data } = BigDecimal.decode { typeInfo := other, data } := by
  simp only [BigDecimal.decode, nonNullBytes, kind, scale]

def ChronoType.temporal : ChronoType → TemporalType
  | .naiveDateTime => .naiveDateTime
  | .naiveDate => .naiveDate
  | .naiveTime => .naiveTime
  | .dateTime => .dateTimeFixedOffset

def TimeCrate.TimeType.temporal : TimeCrate.TimeType → TemporalType
  | .date => .timeDate
  | .time => .timeTime
  | .primitiveDateTime => .primitiveDateTime
  | .offsetDateTime => .offsetDateTime

theorem ChronoType.compatible_of_kind {type : ChronoType} {typeInfo : MssqlTypeInfo}
    (kind : typeInfo.kind = type.typeInfo.kind) : type.temporal.compatible typeInfo = true := by
  cases type <;> simp only [temporal, TemporalType.compatible, kind] <;> decide

theorem TimeCrate.TimeType.compatible_of_kind {type : TimeCrate.TimeType} {typeInfo : MssqlTypeInfo}
    (kind : typeInfo.kind = type.typeInfo.kind) : type.temporal.compatible typeInfo = true := by
  cases type <;> simp only [temporal, TemporalType.compatible, kind] <;> decide

def ChronoType.plain : ChronoType → PlainType
  | .naiveDateTime => .dateTime2
  | .naiveDate => .date
  | .naiveTime => .time
  | .dateTime => .dateTimeOffset

theorem ChronoType.plain_typeInfo (type : ChronoType) : type.plain.typeInfo = type.typeInfo := by
  cases type <;> rfl

def TimeCrate.TimeType.plain : TimeCrate.TimeType → PlainType
  | .date => .date
  | .time => .time
  | .primitiveDateTime => .dateTime2
  | .offsetDateTime => .dateTimeOffset

theorem TimeCrate.TimeType.plain_typeInfo (type : TimeCrate.TimeType) :
    type.plain.typeInfo = type.typeInfo := by
  cases type <;> rfl

theorem ChronoValue.countable {value : ChronoValue} {encoded : Bytes}
    (encodes : value.encode = .ok encoded) : Countable encoded := by
  apply countable_of_length
  cases value with
  | naiveDateTime value =>
    obtain rfl := Except.ok.inj encodes
    simp [encodeChronoDatetime2, encodeChronoTime_eq, encodeChronoDate]
  | naiveDate value =>
    obtain rfl := Except.ok.inj encodes
    simp [encodeChronoDate]
  | naiveTime value =>
    obtain rfl := Except.ok.inj encodes
    simp [encodeChronoTime_eq]
  | dateTime value =>
    obtain rfl := Except.ok.inj (value.encode_ok.symm.trans encodes)
    simp [encodeChronoDatetime2, encodeChronoTime_eq, encodeChronoDate]

theorem TimeCrate.TimeValue.countable {value : TimeCrate.TimeValue} {encoded : Bytes}
    (encodes : value.encode = .ok encoded) : Countable encoded := by
  apply countable_of_length
  cases value with
  | date value =>
    obtain rfl := Except.ok.inj encodes
    simp [encodeTimeDate]
  | time value =>
    obtain rfl := Except.ok.inj encodes
    simp [encodeTimeTime_eq]
  | primitiveDateTime value =>
    obtain rfl := Except.ok.inj encodes
    simp [encodeTimeDatetime2, encodeTimeTime_eq, encodeTimeDate]
  | offsetDateTime value =>
    obtain rfl := Except.ok.inj encodes
    simp [encodeTimeDatetime2, encodeTimeTime_eq, encodeTimeDate]

end chrono

/-- `Some(value)` and `value` of the driver's types, a `None` of theirs, and the text of a `Json<T>`.
A big decimal comes with its bytes: its encoder may panic. -/
inductive DriverValue [DecimalParts] [NumBigint] [UuidCrate] where
  | argument (value : Argument)
  | null (type : PlainType)
  | json (text : Bytes)
  | uuid (value : UuidCrate.Uuid)
  | decimal (value : RustDecimal.Decimal)
  | bigDecimal (value : BigDecimal) (bytes : Bytes) (encodes : value.encode = .ok bytes)
  | chrono (value : ChronoValue)
  | time (value : TimeCrate.TimeValue)

namespace DriverValue
variable [DecimalParts] [NumBigint] [UuidCrate]

def encodeValue [NoneEncoding] : DriverValue → EncodeValue
  | .argument value => .ofArgument value
  | .null type => { produces := none, ofType := type.typeInfo, encode := .ok ([], .yes) }
  | .json text => .json text
  | .uuid value =>
    { produces := none, ofType := .uniqueIdentifier, encode := .ok (UuidCrate.toBytesLe value, .no) }
  | .decimal value =>
    { produces := some (RustDecimal.produces value)
      ofType := .decimal
      encode := .ok (RustDecimal.encode value, .no) }
  | .bigDecimal value bytes _ =>
    { produces := some value.produces, ofType := .decimal, encode := .ok (bytes, .no) }
  | .chrono value =>
    { produces := none, ofType := value.type.typeInfo, encode := do return (← value.encode, .no) }
  | .time value =>
    { produces := none, ofType := value.type.typeInfo, encode := do return (← value.encode, .no) }

/-- The wire has room for the value: a date of `chrono` in three bytes and no leap second, and a big
decimal of at most 128 bits. -/
def Fits : DriverValue → Prop
  | .chrono value => value.Fits
  | .bigDecimal value _ _ => value.Storable
  | _ => True

def compatible (value : DriverValue) (typeInfo : MssqlTypeInfo) : Bool :=
  match value with
  | .argument value => value.type.compatible typeInfo
  | .null _ => true
  | .json _ => typeInfo.kind ∈ [.varBinary, .varChar]
  | .uuid _ => typeInfo.kind = .uniqueIdentifier
  | .decimal _ | .bigDecimal _ _ _ => typeInfo.kind ∈ [.decimal, .money]
  | .chrono value => value.type.temporal.compatible typeInfo
  | .time value => value.type.temporal.compatible typeInfo

/-- What is received is decoded to the value, up to the precision of the wire. -/
def DecodedFrom (value : DriverValue) (received : MssqlValue) : Prop :=
  match value with
  | .argument value => IsData received.typeInfo received.data value
  | .null type => received.data = none ∧ received.typeInfo = type.back
  | .json text => received.data = some text
  | .uuid value => UuidCrate.decode received = .ok value
  | .decimal value => ∃ other, RustDecimal.decode received = .ok other ∧
      RustDecimal.toRat other = RustDecimal.toRat value
  | .bigDecimal value _ _ => ∃ other, BigDecimal.decode received = .ok other ∧
      other.toRat = value.toRat
  | .chrono value => value.type.decode received = .ok value.cut
  | .time value => value.type.decode received = .ok value.cut

/-- What `try_get` does with what is received: the type is one that it accepts, and the value is the
one that was sent. -/
def ReadFrom (value : DriverValue) (received : MssqlValue) : Prop :=
  value.compatible received.typeInfo = true ∧ value.DecodedFrom received

end DriverValue

section arriving
variable [NumBigint]

theorem BigDecimal.decode_written {value : BigDecimal} {bytes : Bytes}
    (encodes : value.encode = .ok bytes) (storable : value.Storable) {typeInfo : MssqlTypeInfo}
    (kind : typeInfo.kind = .decimal) (scale : typeInfo.scale = value.producedScale) :
    ∃ other, BigDecimal.decode { typeInfo, data := some bytes } = .ok other ∧
      other.toRat = value.toRat := by
  have negatable : value.exponent.toInt ≠ -2 ^ 63 := by
    intro lowest
    rw [encode, scaledUp, if_pos (by omega), if_pos lowest] at encodes
    cases encodes
  obtain ⟨bigint, scaled, sameSign⟩ := scaledUp_ok negatable
  obtain ⟨written, encoded, decoded⟩ := decode_encode scaled sameSign
  obtain rfl := Outcome.ok.inj (encoded.symm.trans encodes)
  have alike : BigDecimal.decode { typeInfo, data := some written } =
      BigDecimal.decode { typeInfo := value.produces, data := some written } :=
    decode_congr kind scale _
  exact ⟨_, alike.trans decoded, (toRat_eq_iff value scaled).mpr storable⟩

theorem BigDecimal.countable {value : BigDecimal} {bytes : Bytes}
    (encodes : value.encode = .ok bytes) : Countable bytes := by
  rw [encode] at encodes
  obtain ⟨bigint, _, same⟩ := Outcome.bind_ok_iff.mp encodes
  obtain rfl := Outcome.ok.inj same
  apply countable_of_length
  simp

variable [DecimalParts] [UuidCrate]

theorem argument_readsAs [NoneEncoding] (value : Argument) : (EncodeValue.ofArgument value).ReadsAs
    (Receives (DriverValue.argument value).ReadFrom) := by
  intro name encoded isNull bytes encodes written
  obtain ⟨parameter, reads, ⟨named, status, typeInfo, back, carried⟩, other, again, kind⟩ :=
    argument_typed value name encoded isNull bytes encodes written
  obtain rfl := Outcome.ok.inj (back.symm.trans again)
  refine ⟨parameter, reads, named, status, typeInfo, back, ScalarType.compatible_of_kind kind, ?_⟩
  cases value with
  | scalar value => exact carried
  | none type => exact carried

theorem json_readsAs (text : Bytes) : (EncodeValue.json text).ReadsAs
    (Receives (DriverValue.json text).ReadFrom) := by
  intro name encoded isNull bytes encodes written
  obtain ⟨rfl, rfl⟩ := Prod.mk.inj (Except.ok.inj encodes)
  obtain ⟨_, _, _, _, named, _⟩ := Put.Writes.of_bind written
  have typed : sizedType .varBinary u16Max = some _ := rfl
  obtain ⟨_, typeInfo, back, kind⟩ := sizedType_wire typed
  have travels : Travels name 0 (.withSize .varBinary u16Max) text false _ :=
    travels_chunked (short_of_writes named) 0 typed rfl
  obtain ⟨travelled, writes, reads⟩ := travels
  obtain ⟨rfl, _⟩ := Put.mk.inj (written.symm.trans writes)
  have accepted : (DriverValue.json text).compatible typeInfo = true := by
    simp only [DriverValue.compatible, kind]
    decide
  exact ⟨_, reads, rfl, rfl, typeInfo, back, accepted, rfl⟩

theorem DriverValue.readsAs [NoneEncoding] {value : DriverValue} (fits : value.Fits) :
    value.encodeValue.ReadsAs (Receives value.ReadFrom) := by
  cases value with
  | argument value => exact argument_readsAs value
  | null type => exact type.readsAs_null rfl rfl ⟨rfl, rfl, rfl⟩
  | json text => exact json_readsAs text
  | uuid value =>
    have counted : Countable (UuidCrate.toBytesLe value) :=
      countable_of_length (by rw [UuidCrate.sixteen]; decide)
    apply PlainType.uniqueIdentifier.readsAs_value rfl rfl counted
    exact ⟨rfl, UuidCrate.decode_toBytesLe value _⟩
  | decimal value =>
    have counted : Countable (RustDecimal.encode value) :=
      countable_of_length (by simp [RustDecimal.encode])
    apply (PlainType.decimal (RustDecimal.producedScale value)).readsAs_value rfl rfl counted
    exact ⟨rfl, RustDecimal.decode_encode value rfl rfl⟩
  | bigDecimal value bytes encodes =>
    apply (PlainType.decimal value.producedScale).readsAs_value rfl rfl
      (BigDecimal.countable encodes)
    exact ⟨rfl, BigDecimal.decode_written encodes fits rfl rfl⟩
  | chrono value =>
    obtain ⟨encoded, encodes⟩ := value.encode_ok
    apply value.type.plain.readsAs_ofType value.type.plain_typeInfo encodes
      (ChronoValue.countable encodes)
    intro typeInfo kind scale
    have read := (ChronoValue.decode_eq_iff encodes).mpr fits
    exact ⟨ChronoType.compatible_of_kind kind, (value.type.decode_congr kind scale _).trans read⟩
  | time value =>
    obtain ⟨encoded, encodes⟩ : ∃ encoded, value.encode = .ok encoded := by
      cases value <;> exact ⟨_, rfl⟩
    apply value.type.plain.readsAs_ofType value.type.plain_typeInfo encodes
      (TimeCrate.TimeValue.countable encodes)
    intro typeInfo kind scale
    exact ⟨TimeCrate.TimeType.compatible_of_kind kind, value.decode_encode kind scale encodes⟩

/-- A call with values of any of the driver's types arrives whole: behind the text and the
declarations there is one parameter for each value, in order, and the driver reads the value from
it again. -/
theorem driver_values_arrive [NoneEncoding] {sql : String} {values : List DriverValue}
    {arguments : MssqlArguments} {packetSize : Nat} {transactionDescriptor : UInt64} {bytes : Bytes}
    (fits : ∀ value ∈ values, value.Fits)
    (added : Added (values.map DriverValue.encodeValue) arguments) (nonempty : values ≠ [])
    (sent : buildExecuteSqlPacket sql arguments packetSize transactionDescriptor = .ok bytes) :
    ∃ body text declared parameters,
      tryDecodeMessage bytes = .ok (some ⟨.rpc,
        allHeaders transactionDescriptor ++ rpcHeader 10 ++ body, bytes.length⟩) ∧
      RpcParameter.getAll body = .ok (text :: declared :: parameters, []) ∧
      Carries text ("", .scalar (.string sql)) ∧
      Carries declared ("", .scalar (.string arguments.declarations)) ∧
      CarryAll (fun value => Receives (DriverValue.ReadFrom value)) values parameters :=
  call_arrives (fun value there => DriverValue.readsAs (fits value there)) added nonempty sent

end arriving

section samples

@[ext] structure Uuid128 where
  bytes : Bytes
  sixteen : bytes.length = 16

def swapFields : Bytes → Bytes
  | a :: b :: c :: d :: e :: f :: g :: h :: rest => d :: c :: b :: a :: f :: e :: h :: g :: rest
  | short => short

theorem swapFields_length (bytes : Bytes) : (swapFields bytes).length = bytes.length := by
  unfold swapFields
  split
  next => rfl
  next => rfl

theorem swapFields_swapFields (bytes : Bytes) : swapFields (swapFields bytes) = bytes := by
  rcases bytes with _ | ⟨a, _ | ⟨b, _ | ⟨c, _ | ⟨d, _ | ⟨e, _ | ⟨f, _ | ⟨g, _ | ⟨h, rest⟩⟩⟩⟩⟩⟩⟩⟩ <;> rfl

@[reducible] def documentedUuids : UuidCrate where
  Uuid := Uuid128
  toBytesLe uuid := swapFields uuid.bytes
  fromBytesLe bytes sixteen := ⟨swapFields bytes, (swapFields_length bytes).trans sixteen⟩
  sixteen uuid := (swapFields_length uuid.bytes).trans uuid.sixteen
  fromBytesLe_toBytesLe uuid := Uuid128.ext (swapFields_swapFields uuid.bytes)

@[reducible] def documentedParts : DecimalParts where
  toRustDecimal := documentedDecimal
  isSignNegative decimal := decide (decimal.number < 0)
  scale decimal := decimal.scale
  mantissa decimal := decimal.number
  scale_le decimal := decimal.scaled
  mantissa_lt decimal := decimal.fits
  signed decimal := by
    by_cases negative : decimal.number < 0
    · rw [decide_eq_true negative, if_pos rfl]
      omega
    · rw [decide_eq_false negative, if_neg (by decide)]
      omega
  toRat_eq _ := rfl

def dayAndCents : List (@DriverValue documentedParts BigDecimal.documentedBytes documentedUuids) :=
  let _ := documentedParts
  let _ := documentedUuids
  [.chrono (.naiveDate .year1900), .decimal (⟨-1230, 2, by decide, by decide⟩ : Decimal96)]

def dayAndCentsArguments : MssqlArguments where
  len := 2
  data := [3, 64, 0, 112, 0, 49, 0, 0, 40, 3, 91, 149, 10, 3, 64, 0, 112, 0, 50, 0, 0, 108, 17, 38, 2,
    17, 0, 206, 4, 0, 0, 0, 0, 0, 0, 0, 0, 0, 0, 0, 0, 0, 0]
  declarations := "@p1 date,@p2 decimal(38,2)"

set_option maxRecDepth 4000 in
theorem driver_values_arrive_dayAndCents : ∃ bytes body text declared parameters,
    buildExecuteSqlPacket "x" dayAndCentsArguments 512 9 = .ok bytes ∧
    tryDecodeMessage bytes =
      .ok (some ⟨.rpc, allHeaders 9 ++ rpcHeader 10 ++ body, bytes.length⟩) ∧
    RpcParameter.getAll body = .ok (text :: declared :: parameters, []) ∧
    Carries text ("", .scalar (.string "x")) ∧
    Carries declared ("", .scalar (.string "@p1 date,@p2 decimal(38,2)")) ∧
    CarryAll (fun value => Receives (@DriverValue.ReadFrom documentedParts _ documentedUuids value))
      dayAndCents parameters := by
  let _ := documentedParts
  let _ := documentedUuids
  let _ := typedNone
  have fits : ∀ value ∈ dayAndCents, value.Fits := by
    intro value there
    rw [dayAndCents, List.mem_cons, List.mem_singleton] at there
    rcases there with rfl | rfl
    · exact (by decide : NaiveDate.year1900.Fits)
    · exact trivial
  have day : MssqlArguments.default.addValue (DriverValue.chrono (.naiveDate .year1900)).encodeValue =
      (.ok (), ⟨1, [3, 64, 0, 112, 0, 49, 0, 0, 40, 3, 91, 149, 10], "@p1 date"⟩) := by decide
  have added : Added (dayAndCents.map DriverValue.encodeValue) dayAndCentsArguments :=
    .add (.add .empty day) (by decide)
  obtain ⟨bytes, sent⟩ : ∃ bytes, buildExecuteSqlPacket "x" dayAndCentsArguments 512 9 = .ok bytes := by
    apply Exists.imp fun bytes sent => frameRpc_ok_iff.mpr ⟨_, rfl, sent⟩
    exact (encodeMessage_ok_iff _ _ _).mpr (by decide)
  obtain ⟨body, text, declared, parameters, whole⟩ :=
    driver_values_arrive fits added (List.cons_ne_nil _ _) sent
  exact ⟨bytes, body, text, declared, parameters, sent, whole⟩

end samples
end SqlxSqlserver.Driver

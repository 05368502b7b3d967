import SqlxSqlserver.Driver.DateTimeOffset

/-! The values of the `time` crate come back from their bytes. Its years fit three bytes and it has no
leap seconds, so that nothing but the precision is lost. -/

namespace SqlxSqlserver.Driver.TimeCrate
open Foundation Protocol

inductive TimeType where
  | date | time | primitiveDateTime | offsetDateTime
  deriving DecidableEq, Repr

def TimeType.typeInfo : TimeType → MssqlTypeInfo
  | .date => .date
  | .time => .time
  | .primitiveDateTime => .dateTime2
  | .offsetDateTime => .dateTimeOffset

inductive TimeValue where
  | date (value : Date)
  | time (value : Time)
  | primitiveDateTime (value : PrimitiveDateTime)
  | offsetDateTime (value : OffsetDateTime)
  deriving DecidableEq

namespace TimeValue

def type : TimeValue → TimeType
  | .date _ => .date
  | .time _ => .time
  | .primitiveDateTime _ => .primitiveDateTime
  | .offsetDateTime _ => .offsetDateTime

def encode : TimeValue → Except BoxDynError Bytes
  | .date value => .ok (encodeTimeDate value)
  | .time value => .ok (encodeTimeTime value)
  | .primitiveDateTime value => .ok (encodeTimeDatetime2 value)
  | .offsetDateTime value => value.encode

end TimeValue

def TimeType.decode (type : TimeType) (value : MssqlValue) : Outcome BoxDynError TimeValue :=
  match type with
  | .date => do return .date (← Date.decode value)
  | .time => do return .time (← Time.decode value)
  | .primitiveDateTime => do return .primitiveDateTime (← PrimitiveDateTime.decode value)
  | .offsetDateTime => do return .offsetDateTime (← OffsetDateTime.decode value)

section precision

def Time.cut (self : Time) : Time :=
  { self with
    nanosecond := self.nanosecond / 100 * 100
    nanosecond_lt := (Nat.div_mul_le_self self.nanosecond 100).trans_lt self.nanosecond_lt }

def PrimitiveDateTime.cut (self : PrimitiveDateTime) : PrimitiveDateTime :=
  { self with time := self.time.cut }

def UtcOffset.cut (self : UtcOffset) : UtcOffset where
  wholeSeconds := self.wholeMinutes * 60
  lower := by
    have low := self.lower
    have minutes := tdiv_sixty self.wholeSeconds
    unfold wholeMinutes
    omega
  upper := by
    have high := self.upper
    have minutes := tdiv_sixty self.wholeSeconds
    unfold wholeMinutes
    omega

def OffsetDateTime.cut (self : OffsetDateTime) : OffsetDateTime :=
  { localDateTime := self.localDateTime.cut, offset := self.offset.cut }

def TimeValue.cut : TimeValue → TimeValue
  | .date value => .date value
  | .time value => .time value.cut
  | .primitiveDateTime value => .primitiveDateTime value.cut
  | .offsetDateTime value => .offsetDateTime value.cut

end precision

section bytes

theorem decodeTimeDate_encode (date : Date) : decodeTimeDate (encodeTimeDate date) = .ok date := by
  have low := date.lower
  have high := date.upper
  have first : firstOfYear (-9999) = -3652424 := by decide
  have last : firstOfYear 10000 = 3652060 := by decide
  have one : dateOneCeJulianDay = 1721426 := by decide
  have kept := Int.bmod_eq_of_le (n := date.julianDay - dateOneCeJulianDay) (m := 2 ^ 24)
    (by omega) (by omega)
  have back : dateOneCeJulianDay + (date.julianDay - dateOneCeJulianDay) = date.julianDay := by omega
  rw [decodeTimeDate, encodeTimeDate, readI24Le_writeI24Le, kept, Outcome.ok_bind, back,
    Date.fromJulianDay, dif_pos ⟨low, high⟩]
  rfl

theorem Time.ext_clock {time other : Time} (seconds : time.secondOfDay = other.secondOfDay)
    (nanos : time.nanosecond = other.nanosecond) : time = other := by
  have minutes := time.minute_lt
  have otherMinutes := other.minute_lt
  have small := time.second_lt
  have otherSmall := other.second_lt
  unfold secondOfDay at seconds
  apply Time.ext
  · omega
  · omega
  · omega
  · exact nanos

theorem decodeTimeTime_encode (time : Time) :
    decodeTimeTime 7 (encodeTimeTime time) = .ok time.cut := by
  have seconds := time.secondOfDay_lt
  have nanos := time.nanosecond_lt
  have hundred : (10 : Nat) ^ (9 - UInt8.toNat 7) = 100 := by decide
  have inside : time.ticks * 10 ^ (9 - UInt8.toNat 7) < 86400 * 1000000000 := by
    rw [hundred, Time.ticks]
    omega
  obtain ⟨read, decoded, total⟩ := decodeTimeTime_ok (by decide) (by decide) time.ticks_lt inside
  rw [hundred, Time.ticks] at total
  have below := read.nanosecond_lt
  have whole : read.secondOfDay = time.cut.secondOfDay := by
    change read.secondOfDay = time.secondOfDay
    omega
  have rest : read.nanosecond = time.cut.nanosecond := by
    change read.nanosecond = time.nanosecond / 100 * 100
    omega
  rw [encodeTimeTime_eq, decoded, Time.ext_clock whole rest]

theorem decodeTimeDatetime2_encode (datetime : PrimitiveDateTime) :
    decodeTimeDatetime2 7 (encodeTimeDatetime2 datetime) = .ok datetime.cut := by
  have three : (encodeTimeDate datetime.date).length = 3 := by
    rw [encodeTimeDate, writeI24Le_eq, intBytes_length]
  rw [decodeTimeDatetime2, encodeTimeDatetime2, lenMinus_append _ three, Outcome.ok_bind,
    List.drop_left, List.take_left, decodeTimeDate_encode, Outcome.ok_bind, decodeTimeTime_encode]
  rfl

end bytes

section values
variable {typeInfo : MssqlTypeInfo}

theorem OffsetDateTime.decode_encode (self : OffsetDateTime)
    (kind : typeInfo.kind = .dateTimeOffset) (scale : typeInfo.scale = 7) {bytes : Bytes}
    (encodes : self.encode = .ok bytes) :
    OffsetDateTime.decode { typeInfo, data := some bytes } = .ok self.cut := by
  obtain rfl := Except.ok.inj encodes
  have low := self.offset.lower
  have high := self.offset.upper
  have minutes := tdiv_sixty self.offset.wholeSeconds
  have read : leInt (intBytes 2 self.offset.wholeMinutes) = self.offset.wholeMinutes :=
    leInt_intBytes (by unfold UtcOffset.wholeMinutes; omega) (by unfold UtcOffset.wholeMinutes; omega)
  have offset : UtcOffset.fromWholeSeconds (self.offset.wholeMinutes * 60) = .ok self.offset.cut :=
    dif_pos ⟨self.offset.cut.lower, self.offset.cut.upper⟩
  rw [OffsetDateTime.decode, nonNullBytes, Outcome.ofExcept, Outcome.ok_bind,
    if_neg (not_not.mpr kind), scale, lenMinus_append _ (intBytes_length 2 _), Outcome.ok_bind,
    List.take_left, List.drop_left, decodeTimeDatetime2_encode, Outcome.ok_bind, read, offset]
  rfl

theorem TimeValue.decode_encode (value : TimeValue) (kind : typeInfo.kind = value.type.typeInfo.kind)
    (scale : typeInfo.scale = value.type.typeInfo.scale) {bytes : Bytes}
    (encodes : value.encode = .ok bytes) :
    value.type.decode { typeInfo, data := some bytes } = .ok value.cut := by
  cases value with
  | date value =>
    obtain rfl := Except.ok.inj encodes
    simp only [type, TimeType.decode, Date.decode, nonNullBytes, Outcome.ofExcept, Outcome.ok_bind,
      decodeTimeDate_encode]
    rfl
  | time value =>
    obtain rfl := Except.ok.inj encodes
    have seven : typeInfo.scale = 7 := scale
    simp only [type, TimeType.decode, Time.decode, nonNullBytes, Outcome.ofExcept, Outcome.ok_bind,
      seven, decodeTimeTime_encode]
    rfl
  | primitiveDateTime value =>
    obtain rfl := Except.ok.inj encodes
    have sort : typeInfo.kind = .dateTime2 := kind
    have seven : typeInfo.scale = 7 := scale
    simp only [type, TimeType.decode, PrimitiveDateTime.decode, nonNullBytes, Outcome.ofExcept,
      Outcome.ok_bind, sort, seven, decodeTimeDatetime2_encode]
    rfl
  | offsetDateTime value =>
    rw [type, TimeType.decode, value.decode_encode kind scale encodes]
    rfl

end values
end SqlxSqlserver.Driver.TimeCrate

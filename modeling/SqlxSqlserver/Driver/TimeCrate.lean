import SqlxSqlserver.Driver.Chrono

/-! The date and time types of the `time` crate and how the driver encodes and decodes them. The
structures stand for what the crate documents of its types. A `Date` is a day of the proleptic Gregorian
calendar from the year -9999 to the year 9999, here by its Julian day; a `Time` has no leap seconds; a
`UtcOffset` is less than 26 hours in either direction; an `OffsetDateTime` is a date-time in local time
with its offset. Out of these ranges the constructors answer `ComponentRange`. -/

namespace SqlxSqlserver.Driver.TimeCrate
open Foundation Protocol

/-- A date by its Julian day, from the year -9999 to the year 9999. Day 1 of the calendar is the
Julian day 1721426. -/
@[ext] structure Date where
  julianDay : Int
  lower : firstOfYear (-9999) + 1721425 ≤ julianDay
  upper : julianDay < firstOfYear 10000 + 1721425
  deriving DecidableEq

@[ext] structure Time where
  hour : Nat
  minute : Nat
  second : Nat
  nanosecond : Nat
  hour_lt : hour < 24
  minute_lt : minute < 60
  second_lt : second < 60
  nanosecond_lt : nanosecond < 1000000000
  deriving DecidableEq

structure PrimitiveDateTime where
  date : Date
  time : Time
  deriving DecidableEq

/-- Less than 26 hours in either direction. -/
@[ext] structure UtcOffset where
  wholeSeconds : Int
  lower : -93600 < wholeSeconds
  upper : wholeSeconds < 93600
  deriving DecidableEq

/-- A local date-time and the offset it is local to. -/
structure OffsetDateTime where
  localDateTime : PrimitiveDateTime
  offset : UtcOffset
  deriving DecidableEq

def OffsetDateTime.date (self : OffsetDateTime) : Date := self.localDateTime.date

def OffsetDateTime.time (self : OffsetDateTime) : Time := self.localDateTime.time

def PrimitiveDateTime.assumeOffset (self : PrimitiveDateTime) (offset : UtcOffset) :
    OffsetDateTime := { localDateTime := self, offset }

def Date.fromJulianDay (julianDay : Int) : Except BoxDynError Date :=
  if inside : firstOfYear (-9999) + 1721425 ≤ julianDay ∧
      julianDay < firstOfYear 10000 + 1721425 then
    .ok ⟨julianDay, inside.1, inside.2⟩
  else .error (.componentRange "julian_day")

def Time.fromHmsNano (hour minute second nanosecond : Nat) : Except BoxDynError Time :=
  if hour_lt : hour < 24 then
    if minute_lt : minute < 60 then
      if second_lt : second < 60 then
        if nanosecond_lt : nanosecond < 1000000000 then
          .ok ⟨hour, minute, second, nanosecond, hour_lt, minute_lt, second_lt, nanosecond_lt⟩
        else .error (.componentRange "nanosecond")
      else .error (.componentRange "second")
    else .error (.componentRange "minute")
  else .error (.componentRange "hour")

def UtcOffset.fromWholeSeconds (seconds : Int) : Except BoxDynError UtcOffset :=
  if inside : -93600 < seconds ∧ seconds < 93600 then .ok ⟨seconds, inside.1, inside.2⟩
  else .error (.componentRange "seconds")

def UtcOffset.wholeMinutes (self : UtcOffset) : Int := self.wholeSeconds.tdiv 60

def dateOneCeJulianDay : Int := firstOfYear 1 + 1721425

section encoding

def encodeTimeDate (date : Date) : Bytes := writeI24Le (date.julianDay - dateOneCeJulianDay)

def encodeTimeTime (time : Time) : Bytes :=
  (leBytes 8 (time.hour * 36000000000 + time.minute * 600000000 + time.second * 10000000 +
    time.nanosecond / 100)).take 5

def encodeTimeDatetime2 (datetime : PrimitiveDateTime) : Bytes :=
  encodeTimeTime datetime.time ++ encodeTimeDate datetime.date

def OffsetDateTime.encode (self : OffsetDateTime) : Except BoxDynError Bytes :=
  .ok (encodeTimeDatetime2 { date := self.date, time := self.time } ++
    intBytes 2 self.offset.wholeMinutes)

end encoding

section decoding

def decodeTimeDate (bytes : Bytes) : Outcome BoxDynError Date := do
  let days ← readI24Le bytes
  .ofExcept (Date.fromJulianDay (dateOneCeJulianDay + days))

def decodeTimeTime (scale : UInt8) (data : Bytes) : Outcome BoxDynError Time := do
  let acc ← scaleTicks scale (accumulate data)
  let seconds := acc / 1000000000
  let nanos ← .ofExcept (unsignedTryFrom 32 (acc % 1000000000))
  let hour ← .ofExcept (unsignedTryFrom 8 (seconds / 3600))
  let minute ← .ofExcept (unsignedTryFrom 8 (seconds % 3600 / 60))
  let second ← .ofExcept (unsignedTryFrom 8 (seconds % 60))
  .ofExcept (Time.fromHmsNano hour minute second nanos)

def decodeTimeDatetime2 (scale : UInt8) (bytes : Bytes) :
    Outcome BoxDynError PrimitiveDateTime := do
  let timeSize ← lenMinus bytes 3
  let date ← decodeTimeDate (bytes.drop timeSize)
  let time ← decodeTimeTime scale (bytes.take timeSize)
  return { date, time }

def Date.decode (value : MssqlValue) : Outcome BoxDynError Date := do
  decodeTimeDate (← .ofExcept (nonNullBytes value "time::Date"))

def Time.decode (value : MssqlValue) : Outcome BoxDynError Time := do
  decodeTimeTime value.typeInfo.scale (← .ofExcept (nonNullBytes value "time::Time"))

def PrimitiveDateTime.decode (value : MssqlValue) : Outcome BoxDynError PrimitiveDateTime := do
  let bytes ← .ofExcept (nonNullBytes value "time::PrimitiveDateTime")
  match value.typeInfo.kind with
  | .dateTime2 => decodeTimeDatetime2 value.typeInfo.scale bytes
  | .dateTimeOffset =>
    let size ← lenMinus bytes 2
    decodeTimeDatetime2 value.typeInfo.scale (bytes.take size)
  | other => .err (.message ("unsupported SQL Server datetime type " ++ other.debug))

def OffsetDateTime.decode (value : MssqlValue) : Outcome BoxDynError OffsetDateTime := do
  let bytes ← .ofExcept (nonNullBytes value "time::OffsetDateTime")
  if value.typeInfo.kind ≠ .dateTimeOffset then
    .err (.message "unsupported SQL Server datetimeoffset type")
  else
    let size ← lenMinus bytes 2
    let naive ← decodeTimeDatetime2 value.typeInfo.scale (bytes.take size)
    let offset ← .ofExcept (UtcOffset.fromWholeSeconds (leInt (bytes.drop size) * 60))
    return naive.assumeOffset offset

end decoding

section times

def Time.secondOfDay (self : Time) : Nat := self.hour * 3600 + self.minute * 60 + self.second

def Time.ticks (self : Time) : Nat := self.secondOfDay * 10000000 + self.nanosecond / 100

theorem Time.secondOfDay_lt (self : Time) : self.secondOfDay < 86400 := by
  have hour := self.hour_lt
  have minute := self.minute_lt
  have second := self.second_lt
  unfold secondOfDay
  omega

theorem encodeTimeTime_eq (time : Time) : encodeTimeTime time = leBytes 5 time.ticks := by
  have written : time.hour * 36000000000 + time.minute * 600000000 + time.second * 10000000 +
      time.nanosecond / 100 = time.ticks := by
    unfold Time.ticks Time.secondOfDay
    omega
  rw [encodeTimeTime, written]
  exact leBytes_take 5 3 time.ticks

theorem seconds_of_parts (seconds : Nat) :
    seconds / 3600 * 3600 + seconds % 3600 / 60 * 60 + seconds % 60 = seconds := by omega

theorem decodeTimeTime_ok {scale : UInt8} (low : scale.toNat ≤ 9) {width ticks : Nat}
    (narrow : width ≤ 8) (fits : ticks < 256 ^ width)
    (inside : ticks * 10 ^ (9 - scale.toNat) < 86400 * 1000000000) :
    ∃ time, decodeTimeTime scale (leBytes width ticks) = .ok time ∧
      time.secondOfDay * 1000000000 + time.nanosecond = ticks * 10 ^ (9 - scale.toNat) := by
  have small : ticks * 10 ^ (9 - scale.toNat) < 2 ^ 64 := by omega
  have scaled := scaleTicks_ok low small
  rw [decodeTimeTime, accumulate_leBytes narrow fits, scaled, Outcome.ok_bind]
  generalize ticks * 10 ^ (9 - scale.toNat) = nanos at *
  have seconds : nanos / 1000000000 < 86400 := by omega
  have total : nanos / 1000000000 * 1000000000 + nanos % 1000000000 = nanos :=
    Nat.div_add_mod' nanos 1000000000
  have small : nanos % 1000000000 < 1000000000 := Nat.mod_lt _ (by decide)
  rw [unsignedTryFrom_ok (show nanos % 1000000000 < 2 ^ 32 by omega), Outcome.ofExcept,
    Outcome.ok_bind]
  generalize nanos / 1000000000 = whole at *
  generalize nanos % 1000000000 = rest at *
  have hour : whole / 3600 < 24 := by omega
  have minute : whole % 3600 / 60 < 60 := by omega
  have second : whole % 60 < 60 := by omega
  have made : Time.fromHmsNano (whole / 3600) (whole % 3600 / 60) (whole % 60) rest =
      .ok ⟨whole / 3600, whole % 3600 / 60, whole % 60, rest, hour, minute, second, small⟩ := by
    rw [Time.fromHmsNano, dif_pos hour, dif_pos minute, dif_pos second, dif_pos small]
  rw [unsignedTryFrom_ok (show whole / 3600 < 2 ^ 8 by omega), Outcome.ofExcept, Outcome.ok_bind,
    unsignedTryFrom_ok (show whole % 3600 / 60 < 2 ^ 8 by omega), Outcome.ofExcept,
    Outcome.ok_bind, unsignedTryFrom_ok (show whole % 60 < 2 ^ 8 by omega), Outcome.ofExcept,
    Outcome.ok_bind, made]
  refine ⟨⟨whole / 3600, whole % 3600 / 60, whole % 60, rest, hour, minute, second, small⟩, rfl, ?_⟩
  rw [Time.secondOfDay, seconds_of_parts, total]

end times
end SqlxSqlserver.Driver.TimeCrate

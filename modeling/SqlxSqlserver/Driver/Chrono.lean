import SqlxSqlserver.Driver.Temporal

/-! The date and time types of `chrono` and how the driver encodes and decodes them. The structures
stand for what the crate documents of its types. A `NaiveDate` is a day of the proleptic Gregorian
calendar from the year -262143 to the year 262142, here by its `num_days_from_ce`; a `NaiveTime` is a
second of the day with a fraction, which passes a second in a leap second; a `FixedOffset` is less than
a day in either direction; a `DateTime` is a date-time in UTC with an offset. Out of these ranges the
constructors answer `None`, and additions panic. -/

namespace SqlxSqlserver.Driver
open Foundation Protocol

/-- A date by its `num_days_from_ce`, from the year -262143 to the year 262142. -/
@[ext] structure NaiveDate where
  numDaysFromCe : Int
  lower : firstOfYear (-262143) ≤ numDaysFromCe
  upper : numDaysFromCe < firstOfYear 262143
  deriving DecidableEq

/-- `num_seconds_from_midnight` and `nanosecond`, which passes a second in a leap second. -/
@[ext] structure NaiveTime where
  secs : Nat
  frac : Nat
  secs_lt : secs < 86400
  frac_lt : frac < 2000000000
  deriving DecidableEq

structure NaiveDateTime where
  date : NaiveDate
  time : NaiveTime
  deriving DecidableEq

@[ext] structure FixedOffset where
  localMinusUtc : Int
  lower : -86400 < localMinusUtc
  upper : localMinusUtc < 86400
  deriving DecidableEq

/-- `DateTime<FixedOffset>`, and every `DateTime<T>` with its offset fixed. -/
structure DateTime where
  naiveUtc : NaiveDateTime
  offset : FixedOffset
  deriving DecidableEq

namespace NaiveDate

def fromNumDaysFromCeOpt (days : Int) : Option NaiveDate :=
  if inside : firstOfYear (-262143) ≤ days ∧ days < firstOfYear 262143 then
    some ⟨days, inside.1, inside.2⟩
  else none

def year1900 : NaiveDate := ⟨firstOfYear 1900, by decide, by decide⟩

def addDays (self : NaiveDate) (days : Int) : Outcome BoxDynError NaiveDate :=
  match fromNumDaysFromCeOpt (self.numDaysFromCe + days) with
  | some date => .ok date
  | none => .panic "`NaiveDate + TimeDelta` overflowed"

end NaiveDate

namespace NaiveTime

def fromNumSecondsFromMidnightOpt (secs nano : Nat) : Option NaiveTime :=
  if inside : secs < 86400 ∧ nano < 2000000000 ∧ (nano < 1000000000 ∨ secs % 60 = 59) then
    some ⟨secs, nano, inside.1, inside.2.1⟩
  else none

end NaiveTime

def NaiveDate.addMilliseconds (date : NaiveDate) (milliseconds : Nat) :
    Outcome BoxDynError NaiveDateTime :=
  match fromNumDaysFromCeOpt (date.numDaysFromCe + milliseconds / 86400000) with
  | some date => .ok { date, time := {
      secs := milliseconds % 86400000 / 1000
      frac := milliseconds % 1000 * 1000000
      secs_lt := by omega
      frac_lt := by omega } }
  | none => .panic "`NaiveDateTime + TimeDelta` overflowed"

namespace FixedOffset

def eastOpt (secs : Int) : Option FixedOffset :=
  if inside : -86400 < secs ∧ secs < 86400 then some ⟨secs, inside.1, inside.2⟩ else none

def utc : FixedOffset := ⟨0, by decide, by decide⟩

end FixedOffset

/-- The seconds are carried over midnight; a leap second stays one. -/
def DateTime.naiveLocal (self : DateTime) : Outcome BoxDynError NaiveDateTime :=
  let moved := carry self.naiveUtc.date.numDaysFromCe
    (self.naiveUtc.time.secs + self.offset.localMinusUtc)
  match NaiveDate.fromNumDaysFromCeOpt moved.1 with
  | some date => .ok { date, time := {
      secs := moved.2
      frac := self.naiveUtc.time.frac
      secs_lt := carry_second_lt _ _
      frac_lt := self.naiveUtc.time.frac_lt } }
  | none => .panic "Local time out of range for `NaiveDateTime`"

section encoding

def encodeChronoDate (date : NaiveDate) : Bytes := writeI24Le (date.numDaysFromCe - 1)

def encodeChronoTime (time : NaiveTime) : Bytes :=
  (leBytes 8 (time.secs * 10000000 + time.frac / 100)).take 5

def encodeChronoDatetime2 (datetime : NaiveDateTime) : Bytes :=
  encodeChronoTime datetime.time ++ encodeChronoDate datetime.date

def i16TryFrom (value : Int) : Except BoxDynError Int :=
  if -32768 ≤ value ∧ value < 32768 then .ok value else .error .tryFromInt

def DateTime.encode (self : DateTime) : Except BoxDynError Bytes := do
  let offsetMinutes ← i16TryFrom (self.offset.localMinusUtc.tdiv 60)
  return encodeChronoDatetime2 self.naiveUtc ++ intBytes 2 offsetMinutes

end encoding

section decoding

def decodeChronoTime (scale : UInt8) (data : Bytes) : Outcome BoxDynError NaiveTime := do
  let acc ← scaleTicks scale (accumulate data)
  let seconds ← .ofExcept (unsignedTryFrom 32 (acc / 1000000000))
  let nanos ← .ofExcept (unsignedTryFrom 32 (acc % 1000000000))
  match NaiveTime.fromNumSecondsFromMidnightOpt seconds nanos with
  | some time => return time
  | none => .err (.message s!"invalid time: seconds={seconds} nanoseconds={nanos}")

def decodeChronoDate (bytes : Bytes) : Outcome BoxDynError NaiveDate := do
  let daysFromCe ← readI24Le bytes
  match NaiveDate.fromNumDaysFromCeOpt (daysFromCe + 1) with
  | some date => return date
  | none => .err (.message s!"invalid days offset in date: {daysFromCe}")

def decodeChronoDatetime2 (scale : UInt8) (bytes : Bytes) : Outcome BoxDynError NaiveDateTime := do
  let timeSize ← lenMinus bytes 3
  let date ← decodeChronoDate (bytes.drop timeSize)
  let time ← decodeChronoTime scale (bytes.take timeSize)
  return { date, time }

def splitArrays (bytes : Bytes) (first second : Nat) : Outcome BoxDynError (Bytes × Bytes) :=
  if bytes.length < first then
    .panic s!"range end index {first} out of range for slice of length {bytes.length}"
  else if bytes.length = first + second then .ok (bytes.take first, bytes.drop first)
  else .err .tryFromSlice

def decodeChronoDatetime (bytes : Bytes) : Outcome BoxDynError DateTime := do
  let (days, ticks) ← splitArrays bytes 4 4
  let date ← NaiveDate.year1900.addDays (leInt days)
  let datetime ← date.addMilliseconds (leNat ticks * 1000 / 300)
  return { naiveUtc := datetime, offset := .utc }

def decodeChronoSmalldatetime (bytes : Bytes) : Outcome BoxDynError DateTime := do
  let (days, minutes) ← splitArrays bytes 2 2
  let date ← NaiveDate.year1900.addDays (leNat days)
  let datetime ← date.addMilliseconds (leNat minutes * 60000)
  return { naiveUtc := datetime, offset := .utc }

def decodeChronoDatetimeoffset (scale : UInt8) (bytes : Bytes) : Outcome BoxDynError DateTime := do
  let size ← lenMinus bytes 2
  let naive ← decodeChronoDatetime2 scale (bytes.take size)
  let offsetMinutes := leInt (bytes.drop size)
  match FixedOffset.eastOpt (offsetMinutes * 60) with
  | some offset => return { naiveUtc := naive, offset }
  | none => .err (.message s!"invalid offset {offsetMinutes} in DateTimeOffset")

def NaiveDate.decode (value : MssqlValue) : Outcome BoxDynError NaiveDate := do
  decodeChronoDate (← .ofExcept (nonNullBytes value "NaiveDate"))

def NaiveTime.decode (value : MssqlValue) : Outcome BoxDynError NaiveTime := do
  decodeChronoTime value.typeInfo.scale (← .ofExcept (nonNullBytes value "NaiveTime"))

def DateTime.decode (value : MssqlValue) : Outcome BoxDynError DateTime := do
  let bytes ← .ofExcept (nonNullBytes value "DateTime<FixedOffset>")
  match value.typeInfo.kind, bytes.length with
  | .dateTime, 4 => decodeChronoSmalldatetime bytes
  | .dateTime, 8 => decodeChronoDatetime bytes
  | .dateTimeOffset, _ => decodeChronoDatetimeoffset value.typeInfo.scale bytes
  | other, _ => .err (.message ("unsupported SQL Server datetime type " ++ other.debug))

def DateTime.decodeUtc (value : MssqlValue) : Outcome BoxDynError DateTime := do
  return { ← DateTime.decode value with offset := .utc }

def NaiveDateTime.decode (value : MssqlValue) : Outcome BoxDynError NaiveDateTime := do
  let bytes ← .ofExcept (nonNullBytes value "NaiveDateTime")
  match value.typeInfo.kind with
  | .dateTime2 => decodeChronoDatetime2 value.typeInfo.scale bytes
  | _ => (← DateTime.decode value).naiveLocal

theorem decodeChronoTime_eq {scale : UInt8} (low : scale.toNat ≤ 9) {width ticks : Nat}
    (narrow : width ≤ 8) (fits : ticks < 256 ^ width)
    (bounded : ticks * 10 ^ (9 - scale.toNat) < 2 ^ 32 * 1000000000) :
    decodeChronoTime scale (leBytes width ticks) =
      match NaiveTime.fromNumSecondsFromMidnightOpt (ticks * 10 ^ (9 - scale.toNat) / 1000000000)
        (ticks * 10 ^ (9 - scale.toNat) % 1000000000) with
      | some time => .ok time
      | none => .err (.message s!"invalid time: seconds={
          ticks * 10 ^ (9 - scale.toNat) / 1000000000} nanoseconds={
          ticks * 10 ^ (9 - scale.toNat) % 1000000000}") := by
  have small : ticks * 10 ^ (9 - scale.toNat) < 2 ^ 64 := by omega
  have scaled := scaleTicks_ok low small
  rw [decodeChronoTime, accumulate_leBytes narrow fits, scaled, Outcome.ok_bind]
  generalize ticks * 10 ^ (9 - scale.toNat) = nanos at *
  rw [unsignedTryFrom_ok (show nanos / 1000000000 < 2 ^ 32 by omega), Outcome.ofExcept,
    Outcome.ok_bind, unsignedTryFrom_ok (show nanos % 1000000000 < 2 ^ 32 by omega),
    Outcome.ofExcept, Outcome.ok_bind]
  rfl

theorem decodeChronoTime_ok {scale : UInt8} (low : scale.toNat ≤ 9) {width ticks : Nat}
    (narrow : width ≤ 8) (fits : ticks < 256 ^ width)
    (inside : ticks * 10 ^ (9 - scale.toNat) < 86400 * 1000000000) :
    ∃ time, decodeChronoTime scale (leBytes width ticks) = .ok time ∧
      time.secs * 1000000000 + time.frac = ticks * 10 ^ (9 - scale.toNat) ∧
      time.frac < 1000000000 := by
  rw [decodeChronoTime_eq low narrow fits (by omega)]
  generalize ticks * 10 ^ (9 - scale.toNat) = nanos at *
  have parts : nanos / 1000000000 < 86400 ∧ nanos % 1000000000 < 2000000000 ∧
      (nanos % 1000000000 < 1000000000 ∨ nanos / 1000000000 % 60 = 59) := by omega
  have found : NaiveTime.fromNumSecondsFromMidnightOpt (nanos / 1000000000) (nanos % 1000000000) =
      some ⟨nanos / 1000000000, nanos % 1000000000, parts.1, parts.2.1⟩ := dif_pos parts
  rw [found]
  exact ⟨_, rfl, Nat.div_add_mod' nanos 1000000000, Nat.mod_lt _ (by decide)⟩

theorem decodeChronoTime_err {scale : UInt8} (low : scale.toNat ≤ 9) {width ticks : Nat}
    (narrow : width ≤ 8) (fits : ticks < 256 ^ width)
    (outside : 86400 * 1000000000 ≤ ticks * 10 ^ (9 - scale.toNat))
    (bounded : ticks * 10 ^ (9 - scale.toNat) < 2 ^ 32 * 1000000000) :
    ∃ message, decodeChronoTime scale (leBytes width ticks) = .err (.message message) := by
  rw [decodeChronoTime_eq low narrow fits bounded]
  generalize ticks * 10 ^ (9 - scale.toNat) = nanos at *
  have none : NaiveTime.fromNumSecondsFromMidnightOpt (nanos / 1000000000) (nanos % 1000000000) =
      none := dif_neg (by omega)
  rw [none]
  exact ⟨_, rfl⟩

end decoding

inductive ChronoType where
  | naiveDateTime | naiveDate | naiveTime | dateTime
  deriving DecidableEq, Repr

def ChronoType.typeInfo : ChronoType → MssqlTypeInfo
  | .naiveDateTime => .dateTime2
  | .naiveDate => .date
  | .naiveTime => .time
  | .dateTime => .dateTimeOffset

inductive ChronoValue where
  | naiveDateTime (value : NaiveDateTime)
  | naiveDate (value : NaiveDate)
  | naiveTime (value : NaiveTime)
  | dateTime (value : DateTime)
  deriving DecidableEq

namespace ChronoValue

def type : ChronoValue → ChronoType
  | .naiveDateTime _ => .naiveDateTime
  | .naiveDate _ => .naiveDate
  | .naiveTime _ => .naiveTime
  | .dateTime _ => .dateTime

def encode : ChronoValue → Except BoxDynError Bytes
  | .naiveDateTime value => .ok (encodeChronoDatetime2 value)
  | .naiveDate value => .ok (encodeChronoDate value)
  | .naiveTime value => .ok (encodeChronoTime value)
  | .dateTime value => value.encode

end ChronoValue

def ChronoType.decode (type : ChronoType) (value : MssqlValue) : Outcome BoxDynError ChronoValue :=
  match type with
  | .naiveDateTime => do return .naiveDateTime (← NaiveDateTime.decode value)
  | .naiveDate => do return .naiveDate (← NaiveDate.decode value)
  | .naiveTime => do return .naiveTime (← NaiveTime.decode value)
  | .dateTime => do return .dateTime (← DateTime.decode value)

end SqlxSqlserver.Driver

import SqlxSqlserver.Driver.ChronoRoundTrip
import SqlxSqlserver.Driver.TimeCrate

/-! DATETIMEOFFSET through both date libraries. For `chrono` the stored date-time is in UTC, for the
`time` crate it is local, so they agree at a zero offset only. -/

namespace SqlxSqlserver.Driver
open Foundation Protocol

section meaning

def NaiveDateTime.clock (self : NaiveDateTime) : Int × Nat × Nat :=
  (self.date.numDaysFromCe, self.time.secs, self.time.frac)

def TimeCrate.PrimitiveDateTime.clock (self : TimeCrate.PrimitiveDateTime) : Int × Nat × Nat :=
  (self.date.julianDay - 1721425, self.time.secondOfDay, self.time.nanosecond)

def DateTime.instant (self : DateTime) : Int × Nat :=
  (self.naiveUtc.date.numDaysFromCe * 86400 + self.naiveUtc.time.secs, self.naiveUtc.time.frac)

def TimeCrate.OffsetDateTime.instant (self : TimeCrate.OffsetDateTime) : Int × Nat :=
  ((self.date.julianDay - 1721425) * 86400 + self.time.secondOfDay - self.offset.wholeSeconds,
    self.time.nanosecond)

def SameMoment (chrono : DateTime) (time : TimeCrate.OffsetDateTime) : Prop :=
  chrono.instant = time.instant ∧ chrono.offset.localMinusUtc = time.offset.wholeSeconds

def InYears (day : Int) : Prop := firstOfYear 1 ≤ day ∧ day < firstOfYear 10000

instance (day : Int) : Decidable (InYears day) := inferInstanceAs (Decidable (_ ∧ _))

theorem inYears_iff (day : Int) : InYears day ↔ 1 ≤ day ∧ day < 3652060 := by
  rw [InYears, show firstOfYear 1 = 1 by decide, show firstOfYear 10000 = 3652060 by decide]

/-- One moment in both libraries, inside the range of the column type. -/
structure Comparable (chrono : DateTime) (time : TimeCrate.OffsetDateTime) : Prop where
  same : SameMoment chrono time
  utcInYears : InYears chrono.naiveUtc.date.numDaysFromCe
  localInYears : InYears (time.date.julianDay - 1721425)
  minutes : chrono.offset.localMinusUtc % 60 = 0
  hours : -50400 ≤ chrono.offset.localMinusUtc ∧ chrono.offset.localMinusUtc ≤ 50400

structure StoredDateTimeOffset where
  scale : UInt8
  width : Nat
  ticks : Nat
  day : Nat
  minutes : Int
  sized : TypeInfo.scaledSize scale = some width
  ticks_lt : ticks < 86400 * 10 ^ scale.toNat
  day_lt : day < 3652059
  minutes_le : -840 ≤ minutes ∧ minutes ≤ 840

namespace StoredDateTimeOffset

def datetime2 (self : StoredDateTimeOffset) : Bytes :=
  leBytes self.width self.ticks ++ leBytes 3 self.day

def bytes (self : StoredDateTimeOffset) : Bytes := self.datetime2 ++ intBytes 2 self.minutes

end StoredDateTimeOffset

/-- Both libraries write the same bytes. -/
def EncodeAlike (chrono : DateTime) (time : TimeCrate.OffsetDateTime) : Prop :=
  ∃ bytes, chrono.encode = .ok bytes ∧ time.encode = .ok bytes

/-- Both libraries read the same moment, and the same date and time where the offset is dropped. -/
def DecodeAlike (value : MssqlValue) : Prop :=
  (∃ chrono time, DateTime.decode value = .ok chrono ∧
    TimeCrate.OffsetDateTime.decode value = .ok time ∧ SameMoment chrono time) ∧
  ∃ naive primitive, NaiveDateTime.decode value = .ok naive ∧
    TimeCrate.PrimitiveDateTime.decode value = .ok primitive ∧ naive.clock = primitive.clock

end meaning
section encoding

def written (ticks : Nat) (day minutes : Int) : Bytes :=
  leBytes 5 ticks ++ intBytes 3 (day - 1) ++ intBytes 2 minutes

theorem DateTime.encode_eq_written (self : DateTime) :
    self.encode = .ok (written self.naiveUtc.time.ticks self.naiveUtc.date.numDaysFromCe
      (self.offset.localMinusUtc.tdiv 60)) := by
  rw [self.encode_ok, encodeChronoDatetime2, encodeChronoTime_eq, encodeChronoDate, writeI24Le_eq,
    written]

theorem TimeCrate.OffsetDateTime.encode_eq_written (self : TimeCrate.OffsetDateTime) :
    self.encode = .ok (written self.time.ticks (self.date.julianDay - 1721425)
      (self.offset.wholeSeconds.tdiv 60)) := by
  have day : self.date.julianDay - dateOneCeJulianDay = self.date.julianDay - 1721425 - 1 := by
    rw [dateOneCeJulianDay, show firstOfYear 1 = 1 by decide]
    omega
  rw [encode, encodeTimeDatetime2, encodeTimeTime_eq, encodeTimeDate, day, writeI24Le_eq, written,
    UtcOffset.wholeMinutes]

theorem written_injective {ticks otherTicks : Nat} {day otherDay minutes otherMinutes : Int}
    (fits : ticks < 256 ^ 5) (otherFits : otherTicks < 256 ^ 5) (inYears : InYears day)
    (otherInYears : InYears otherDay)
    (same : written ticks day minutes = written otherTicks otherDay otherMinutes) :
    ticks = otherTicks ∧ day = otherDay := by
  rw [inYears_iff] at inYears otherInYears
  have ⟨front, _⟩ := List.append_inj same (by simp)
  have ⟨times, days⟩ := List.append_inj front (by simp)
  have read : (leInt (intBytes 3 (day - 1)) : Int) = leInt (intBytes 3 (otherDay - 1)) :=
    congrArg leInt days
  rw [leInt_intBytes (by omega) (by omega), leInt_intBytes (by omega) (by omega)] at read
  exact ⟨leBytes_injective fits otherFits times, by omega⟩

theorem TimeCrate.Time.ticks_lt (time : TimeCrate.Time) : time.ticks < 256 ^ 5 := by
  have seconds := time.secondOfDay_lt
  have nanos := time.nanosecond_lt
  unfold ticks
  omega

theorem encodeAlike_iff {chrono : DateTime} {time : TimeCrate.OffsetDateTime}
    (comparable : Comparable chrono time) :
    EncodeAlike chrono time ↔ chrono.offset.localMinusUtc = 0 := by
  have instants := comparable.same.1
  have offsets := comparable.same.2
  rw [DateTime.instant, TimeCrate.OffsetDateTime.instant, Prod.mk.injEq, ← offsets] at instants
  have seconds := chrono.naiveUtc.time.secs_lt
  have otherSeconds := time.time.secondOfDay_lt
  have plain := time.time.nanosecond_lt
  unfold EncodeAlike
  rw [chrono.encode_eq_written, time.encode_eq_written, ← offsets]
  constructor
  · intro ⟨bytes, chronoWritten, timeWritten⟩
    have ⟨ticks, days⟩ := written_injective chrono.naiveUtc.time.ticks_lt time.time.ticks_lt
      comparable.utcInYears comparable.localInYears
      (Except.ok.inj (chronoWritten.trans timeWritten.symm))
    rw [NaiveTime.ticks, TimeCrate.Time.ticks] at ticks
    omega
  · intro zero
    have days : chrono.naiveUtc.date.numDaysFromCe = time.date.julianDay - 1721425 := by omega
    have ticks : chrono.naiveUtc.time.ticks = time.time.ticks := by
      rw [NaiveTime.ticks, TimeCrate.Time.ticks]
      omega
    exact ⟨_, rfl, by rw [days, ticks]⟩

end encoding

section decoding

theorem decodeChronoDate_leBytes {day : Nat} (small : day < 3652059) :
    ∃ date, decodeChronoDate (leBytes 3 day) = .ok date ∧ date.numDaysFromCe = day + 1 := by
  have low : -2 ^ 23 ≤ (day : Int) := by omega
  have high : (day : Int) < 2 ^ 23 := by omega
  have ⟨date, found, days⟩ := fromNumDaysFromCeOpt_day low high
  have decoded : decodeChronoDate (leBytes 3 day) = .ok date := by
    rw [decodeChronoDate, readI24Le_leBytes (by omega), Outcome.ok_bind]
    simp only [found]
    rfl
  exact ⟨date, decoded, days⟩

theorem TimeCrate.decodeTimeDate_leBytes {day : Nat} (small : day < 3652059) :
    ∃ date, decodeTimeDate (leBytes 3 day) = .ok date ∧ date.julianDay - 1721425 = day + 1 := by
  have first : firstOfYear (-9999) + 1721425 = -1930999 := by decide
  have last : firstOfYear 10000 + 1721425 = 5373485 := by decide
  have one : dateOneCeJulianDay = 1721426 := by decide
  have inside : firstOfYear (-9999) + 1721425 ≤ dateOneCeJulianDay + day ∧
      dateOneCeJulianDay + day < firstOfYear 10000 + 1721425 := by
    rw [first, last, one]
    omega
  have made : Date.fromJulianDay (dateOneCeJulianDay + day) = .ok ⟨_, inside.1, inside.2⟩ :=
    dif_pos inside
  refine ⟨⟨_, inside.1, inside.2⟩, ?_, ?_⟩
  · rw [decodeTimeDate, readI24Le_leBytes (by omega), Outcome.ok_bind, made, Outcome.ofExcept]
  · show dateOneCeJulianDay + day - 1721425 = (day : Int) + 1
    omega

def clockOf (day nanos : Nat) : Int × Nat × Nat :=
  (firstOfYear 1 + day, nanos / 1000000000, nanos % 1000000000)

def scaledBytes (width ticks day : Nat) : Bytes := leBytes width ticks ++ leBytes 3 day

section scaled
variable {scale : UInt8} {width ticks day : Nat}

theorem lenMinus_scaledBytes : lenMinus (scaledBytes width ticks day) 3 =
    .ok (leBytes width ticks).length := lenMinus_append _ (leBytes_length 3 day)

theorem decodeChronoDatetime2_scaledBytes :
    decodeChronoDatetime2 scale (scaledBytes width ticks day) = (do
      let date ← decodeChronoDate (leBytes 3 day)
      let time ← decodeChronoTime scale (leBytes width ticks)
      return { date, time }) := by
  rw [decodeChronoDatetime2, lenMinus_scaledBytes, Outcome.ok_bind, scaledBytes, List.drop_left,
    List.take_left]

theorem TimeCrate.decodeTimeDatetime2_scaledBytes :
    decodeTimeDatetime2 scale (scaledBytes width ticks day) = (do
      let date ← decodeTimeDate (leBytes 3 day)
      let time ← decodeTimeTime scale (leBytes width ticks)
      return { date, time }) := by
  rw [decodeTimeDatetime2, lenMinus_scaledBytes, Outcome.ok_bind, scaledBytes, List.drop_left,
    List.take_left]

end scaled

/-- The date and the time of a DATETIME2 are read exactly by both libraries, together and on their
own, as one and the same clock. -/
def ReadsClock (scale : UInt8) (width ticks day : Nat) (clock : Int × Nat × Nat) : Prop :=
  ∃ naive primitive,
    decodeChronoDatetime2 scale (scaledBytes width ticks day) = .ok naive ∧
    TimeCrate.decodeTimeDatetime2 scale (scaledBytes width ticks day) = .ok primitive ∧
    decodeChronoDate (leBytes 3 day) = .ok naive.date ∧
    TimeCrate.decodeTimeDate (leBytes 3 day) = .ok primitive.date ∧
    decodeChronoTime scale (leBytes width ticks) = .ok naive.time ∧
    TimeCrate.decodeTimeTime scale (leBytes width ticks) = .ok primitive.time ∧
    naive.clock = clock ∧ primitive.clock = clock

theorem readsClock_of_lt {scale : UInt8} {width ticks day : Nat} (low : scale.toNat ≤ 9)
    (narrow : width ≤ 8) (fits : ticks < 256 ^ width)
    (inside : ticks * 10 ^ (9 - scale.toNat) < 86400 * 1000000000) (day_lt : day < 3652059) :
    ReadsClock scale width ticks day (clockOf day (ticks * 10 ^ (9 - scale.toNat))) := by
  obtain ⟨date, dated, days⟩ := decodeChronoDate_leBytes day_lt
  obtain ⟨otherDate, otherDated, otherDays⟩ := TimeCrate.decodeTimeDate_leBytes day_lt
  obtain ⟨time, timed, total, plain⟩ := decodeChronoTime_ok low narrow fits inside
  obtain ⟨otherTime, otherTimed, otherTotal⟩ := TimeCrate.decodeTimeTime_ok low narrow fits inside
  have first : firstOfYear 1 = 1 := by decide
  have small := otherTime.nanosecond_lt
  refine ⟨⟨date, time⟩, ⟨otherDate, otherTime⟩, ?_, ?_, dated, otherDated, timed, otherTimed,
    ?_, ?_⟩
  · rw [decodeChronoDatetime2_scaledBytes, dated, Outcome.ok_bind, timed]
    rfl
  · rw [TimeCrate.decodeTimeDatetime2_scaledBytes, otherDated, Outcome.ok_bind, otherTimed]
    rfl
  · rw [NaiveDateTime.clock, clockOf, days, first, ← total]
    ext <;> dsimp only <;> omega
  · rw [TimeCrate.PrimitiveDateTime.clock, clockOf, otherDays, first, ← otherTotal]
    ext <;> dsimp only <;> omega

namespace StoredDateTimeOffset
variable (stored : StoredDateTimeOffset)

theorem width_le : stored.width ≤ 5 ∧ stored.scale.toNat ≤ 7 ∧
    86400 * 10 ^ stored.scale.toNat ≤ 256 ^ stored.width := by
  have powers : ∀ bound, stored.scale.toNat ≤ bound → 10 ^ stored.scale.toNat ≤ 10 ^ bound :=
    fun bound small => Nat.pow_le_pow_right (by decide) small
  rcases TypeInfo.scaledSize_cases stored.sized with ⟨width, two⟩ | ⟨width, _, four⟩ | ⟨width, _, seven⟩
  · have ticks := powers 2 two
    rw [width]
    omega
  · have ticks := powers 4 four
    rw [width]
    omega
  · have ticks := powers 7 seven
    rw [width]
    omega

theorem ticks_fit : stored.ticks < 256 ^ stored.width :=
  stored.ticks_lt.trans_le stored.width_le.2.2

theorem nanos_lt : stored.ticks * 10 ^ (9 - stored.scale.toNat) < 86400 * 1000000000 := by
  have scale := stored.width_le.2.1
  exact (nanos_lt_iff (by omega) stored.ticks).mpr stored.ticks_lt

theorem decodeDatetime2_alike : ∃ naive primitive,
    decodeChronoDatetime2 stored.scale stored.datetime2 = .ok naive ∧
      TimeCrate.decodeTimeDatetime2 stored.scale stored.datetime2 = .ok primitive ∧
        naive.clock = primitive.clock ∧ InYears naive.date.numDaysFromCe := by
  obtain ⟨width, scale, _⟩ := stored.width_le
  have last := stored.day_lt
  obtain ⟨naive, primitive, read, otherRead, _, _, _, _, clock, otherClock⟩ :=
    readsClock_of_lt (by omega) (by omega) stored.ticks_fit stored.nanos_lt last
  refine ⟨naive, primitive, read, otherRead, clock.trans otherClock.symm, ?_⟩
  have days : naive.date.numDaysFromCe = firstOfYear 1 + stored.day := congrArg Prod.fst clock
  rw [inYears_iff, days, show firstOfYear 1 = 1 by decide]
  omega

variable {typeInfo : MssqlTypeInfo}

theorem lenMinus_bytes : lenMinus stored.bytes 2 = .ok stored.datetime2.length :=
  lenMinus_append _ (intBytes_length 2 stored.minutes)

theorem bytes_take : stored.bytes.take stored.datetime2.length = stored.datetime2 := List.take_left

theorem bytes_drop : leInt (stored.bytes.drop stored.datetime2.length) = stored.minutes := by
  have bounds := stored.minutes_le
  rw [bytes, List.drop_left, leInt_intBytes (by omega) (by omega)]

/-- `chrono` takes what is stored as UTC. -/
theorem chrono_decode (kind : typeInfo.kind = .dateTimeOffset) (scale : typeInfo.scale = stored.scale)
    {naive : NaiveDateTime} (read : decodeChronoDatetime2 stored.scale stored.datetime2 = .ok naive) :
    ∃ chrono, DateTime.decode { typeInfo, data := some stored.bytes } = .ok chrono ∧
      chrono.naiveUtc = naive ∧ chrono.offset.localMinusUtc = stored.minutes * 60 := by
  have bounds := stored.minutes_le
  have inside : -86400 < stored.minutes * 60 ∧ stored.minutes * 60 < 86400 := by omega
  have made : FixedOffset.eastOpt (stored.minutes * 60) = some ⟨_, inside.1, inside.2⟩ := dif_pos inside
  have decoder : decodeChronoDatetimeoffset stored.scale stored.bytes =
      .ok { naiveUtc := naive, offset := ⟨_, inside.1, inside.2⟩ } := by
    rw [decodeChronoDatetimeoffset, stored.lenMinus_bytes, Outcome.ok_bind, stored.bytes_take, read,
      Outcome.ok_bind, stored.bytes_drop]
    simp only [made]
    rfl
  refine ⟨⟨naive, ⟨_, inside.1, inside.2⟩⟩, ?_, rfl, rfl⟩
  rw [DateTime.decode, nonNullBytes, Outcome.ofExcept, Outcome.ok_bind]
  simp only [kind, scale, decoder]

/-- The `time` crate takes what is stored as local. -/
theorem time_decode (kind : typeInfo.kind = .dateTimeOffset) (scale : typeInfo.scale = stored.scale)
    {primitive : TimeCrate.PrimitiveDateTime}
    (read : TimeCrate.decodeTimeDatetime2 stored.scale stored.datetime2 = .ok primitive) :
    TimeCrate.PrimitiveDateTime.decode { typeInfo, data := some stored.bytes } = .ok primitive ∧
      ∃ time, TimeCrate.OffsetDateTime.decode { typeInfo, data := some stored.bytes } = .ok time ∧
        time.localDateTime = primitive ∧ time.offset.wholeSeconds = stored.minutes * 60 := by
  have bounds := stored.minutes_le
  have inside : -93600 < stored.minutes * 60 ∧ stored.minutes * 60 < 93600 := by omega
  have made : TimeCrate.UtcOffset.fromWholeSeconds (stored.minutes * 60) =
      .ok ⟨_, inside.1, inside.2⟩ := dif_pos inside
  constructor
  · rw [TimeCrate.PrimitiveDateTime.decode, nonNullBytes, Outcome.ofExcept, Outcome.ok_bind]
    simp only [kind, scale, stored.lenMinus_bytes, Outcome.ok_bind, stored.bytes_take, read]
  · refine ⟨primitive.assumeOffset ⟨_, inside.1, inside.2⟩, ?_, rfl, rfl⟩
    rw [TimeCrate.OffsetDateTime.decode, nonNullBytes, Outcome.ofExcept, Outcome.ok_bind,
      if_neg (not_not.mpr kind), scale, stored.lenMinus_bytes, Outcome.ok_bind,
      stored.bytes_take, read, Outcome.ok_bind, stored.bytes_drop, made]
    rfl

end StoredDateTimeOffset

theorem naiveLocal_ok (self : DateTime)
    (near : self.offset = .utc ∨ -2 ^ 23 ≤ self.naiveUtc.date.numDaysFromCe - 1 ∧
      self.naiveUtc.date.numDaysFromCe - 1 < 2 ^ 23) :
    ∃ naive, self.naiveLocal = .ok naive ∧
      naive.date.numDaysFromCe * 86400 + naive.time.secs =
        self.naiveUtc.date.numDaysFromCe * 86400 + self.naiveUtc.time.secs +
          self.offset.localMinusUtc ∧
      naive.time.frac = self.naiveUtc.time.frac := by
  have seconds := self.naiveUtc.time.secs_lt
  have lower := self.naiveUtc.date.lower
  have upper := self.naiveUtc.date.upper
  have west := self.offset.lower
  have east := self.offset.upper
  have last : firstOfYear 262143 = 95745400 := by decide
  have first : firstOfYear (-262143) = -95746129 := by decide
  have total := carry_total self.naiveUtc.date.numDaysFromCe
    (self.naiveUtc.time.secs + self.offset.localMinusUtc)
  have inside : firstOfYear (-262143) ≤ (carry self.naiveUtc.date.numDaysFromCe
      (self.naiveUtc.time.secs + self.offset.localMinusUtc)).1 ∧
      (carry self.naiveUtc.date.numDaysFromCe
        (self.naiveUtc.time.secs + self.offset.localMinusUtc)).1 < firstOfYear 262143 := by
    unfold carry
    rcases near with utc | near
    · have zero : self.offset.localMinusUtc = 0 := by rw [utc]; rfl
      rw [zero]
      omega
    · omega
  have found : NaiveDate.fromNumDaysFromCeOpt (carry self.naiveUtc.date.numDaysFromCe
      (self.naiveUtc.time.secs + self.offset.localMinusUtc)).1 = some ⟨_, inside.1, inside.2⟩ :=
    dif_pos inside
  unfold DateTime.naiveLocal
  simp only [found]
  exact ⟨_, rfl, total.trans (by omega), rfl⟩

theorem decodeAlike_iff (stored : StoredDateTimeOffset) {typeInfo : MssqlTypeInfo}
    (kind : typeInfo.kind = .dateTimeOffset) (scale : typeInfo.scale = stored.scale) :
    DecodeAlike { typeInfo, data := some stored.bytes } ↔ stored.minutes = 0 := by
  obtain ⟨naive, primitive, naiveRead, primitiveRead, clocks, inYears⟩ := stored.decodeDatetime2_alike
  obtain ⟨chrono, chronoRead, utc, east⟩ := stored.chrono_decode kind scale naiveRead
  obtain ⟨dropped, time, timeRead, atPrimitive, offset⟩ := stored.time_decode kind scale primitiveRead
  rw [NaiveDateTime.clock, TimeCrate.PrimitiveDateTime.clock, Prod.mk.injEq, Prod.mk.injEq] at clocks
  obtain ⟨days, seconds, nanos⟩ := clocks
  have instants : chrono.instant = time.instant ↔ stored.minutes = 0 := by
    rw [DateTime.instant, TimeCrate.OffsetDateTime.instant, TimeCrate.OffsetDateTime.date,
      TimeCrate.OffsetDateTime.time, utc, atPrimitive, offset, Prod.mk.injEq, days, seconds, nanos]
    omega
  rw [← utc] at inYears
  rw [inYears_iff] at inYears
  obtain ⟨moved, movedRead, total, frac⟩ := naiveLocal_ok chrono (.inr (by omega))
  have naiveDecoded : NaiveDateTime.decode { typeInfo, data := some stored.bytes } = .ok moved := by
    rw [NaiveDateTime.decode, nonNullBytes, Outcome.ofExcept, Outcome.ok_bind]
    simp only [kind, chronoRead, Outcome.ok_bind, movedRead]
  constructor
  · rintro ⟨⟨found, other, foundRead, otherRead, same⟩, _⟩
    cases chronoRead.symm.trans foundRead
    cases timeRead.symm.trans otherRead
    exact instants.mp same.1
  · intro zero
    refine ⟨⟨chrono, time, chronoRead, timeRead, instants.mpr zero, by rw [east, offset]⟩,
      moved, primitive, naiveDecoded, dropped, ?_⟩
    have small := moved.time.secs_lt
    have otherSmall := primitive.time.secondOfDay_lt
    rw [utc, east] at total
    rw [utc] at frac
    rw [NaiveDateTime.clock, TimeCrate.PrimitiveDateTime.clock, Prod.mk.injEq, Prod.mk.injEq]
    omega

end decoding

/-- The libraries write and read DATETIMEOFFSET alike exactly at a zero offset. -/
theorem dateTimeOffset_alike_iff {chrono : DateTime} {time : TimeCrate.OffsetDateTime}
    (comparable : Comparable chrono time) {typeInfo : MssqlTypeInfo}
    (stored : StoredDateTimeOffset) (kind : typeInfo.kind = .dateTimeOffset)
    (scale : typeInfo.scale = stored.scale) :
    (EncodeAlike chrono time ↔ chrono.offset.localMinusUtc = 0) ∧
      (DecodeAlike { typeInfo, data := some stored.bytes } ↔ stored.minutes = 0) :=
  ⟨encodeAlike_iff comparable, decodeAlike_iff stored kind scale⟩

section moments

def lateChrono (offset : FixedOffset) : DateTime where
  naiveUtc := {
    date := ⟨firstOfYear 2000, by decide, by decide⟩
    time := ⟨84600, 0, by decide, by decide⟩ }
  offset

def lateInLondon : TimeCrate.OffsetDateTime where
  localDateTime := {
    date := ⟨firstOfYear 2000 + 1721425, by decide, by decide⟩
    time := ⟨23, 30, 0, 0, by decide, by decide, by decide, by decide⟩ }
  offset := ⟨0, by decide, by decide⟩

def earlyInParis : TimeCrate.OffsetDateTime where
  localDateTime := {
    date := ⟨firstOfYear 2000 + 1 + 1721425, by decide, by decide⟩
    time := ⟨0, 30, 0, 0, by decide, by decide, by decide, by decide⟩ }
  offset := ⟨3600, by decide, by decide⟩

def firstMidnight : StoredDateTimeOffset where
  scale := 7
  width := 5
  ticks := 863999999999
  day := 0
  minutes := 0
  sized := rfl
  ticks_lt := by decide
  day_lt := by decide
  minutes_le := by decide

/-- The libraries agree in London, and on what is stored without an offset. -/
theorem dateTimeOffset_alike_london :
    EncodeAlike (lateChrono .utc) lateInLondon ∧
      DecodeAlike { typeInfo := .dateTimeOffset, data := some firstMidnight.bytes } := by
  have comparable : Comparable (lateChrono .utc) lateInLondon := {
    same := ⟨by decide +kernel, rfl⟩
    utcInYears := by decide
    localInYears := by decide
    minutes := rfl
    hours := by decide }
  have kind : MssqlTypeInfo.dateTimeOffset.kind = .dateTimeOffset := rfl
  have alike := dateTimeOffset_alike_iff comparable firstMidnight kind rfl
  exact ⟨alike.1.mpr rfl, alike.2.mpr rfl⟩

/-- In Paris the day has changed, and they write different bytes. -/
theorem dateTimeOffset_not_alike :
    ¬((∀ chrono time, Comparable chrono time → EncodeAlike chrono time) ∧
      ∀ (typeInfo : MssqlTypeInfo) (stored : StoredDateTimeOffset),
        typeInfo.kind = .dateTimeOffset → typeInfo.scale = stored.scale →
          DecodeAlike { typeInfo, data := some stored.bytes }) := by
  intro ⟨always, _⟩
  have comparable : Comparable (lateChrono ⟨3600, by decide, by decide⟩) earlyInParis := {
    same := ⟨by decide +kernel, rfl⟩
    utcInYears := by decide
    localInYears := by decide
    minutes := rfl
    hours := by decide }
  have zero := (encodeAlike_iff comparable).mp (always _ _ comparable)
  exact absurd zero (by decide : ¬(3600 : Int) = 0)

end moments
end SqlxSqlserver.Driver

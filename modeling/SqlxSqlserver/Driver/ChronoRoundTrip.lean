import SqlxSqlserver.Driver.Chrono

/-! Which date and time values come back from their bytes. Nothing is refused: a day count beyond
three bytes wraps around, and a leap second is carried into the next second. -/

namespace SqlxSqlserver.Driver
open Foundation Protocol

section precision

theorem tdiv_sixty (number : Int) :
    number.tdiv 60 = if 0 ≤ number then number / 60 else -(-number / 60) := by
  split
  next positive => exact Int.tdiv_eq_ediv_of_nonneg positive
  next negative =>
    have plain : (-number).tdiv 60 = -number / 60 := Int.tdiv_eq_ediv_of_nonneg (by omega)
    rw [← plain, Int.neg_tdiv, neg_neg]

def NaiveTime.cut (self : NaiveTime) : NaiveTime where
  secs := self.secs
  frac := self.frac / 100 * 100
  secs_lt := self.secs_lt
  frac_lt := (Nat.div_mul_le_self self.frac 100).trans_lt self.frac_lt

def FixedOffset.cut (self : FixedOffset) : FixedOffset where
  localMinusUtc := self.localMinusUtc.tdiv 60 * 60
  lower := by
    have low := self.lower
    have minutes := tdiv_sixty self.localMinusUtc
    omega
  upper := by
    have high := self.upper
    have minutes := tdiv_sixty self.localMinusUtc
    omega

def NaiveDateTime.cut (self : NaiveDateTime) : NaiveDateTime := { self with time := self.time.cut }

def DateTime.cut (self : DateTime) : DateTime :=
  { naiveUtc := self.naiveUtc.cut, offset := self.offset.cut }

def ChronoValue.cut : ChronoValue → ChronoValue
  | .naiveDateTime value => .naiveDateTime value.cut
  | .naiveDate value => .naiveDate value
  | .naiveTime value => .naiveTime value.cut
  | .dateTime value => .dateTime value.cut

end precision

/-- The value is refused, or its bytes decode under the declared type to the value cut to the
precision of the wire. -/
def ChronoValue.Survives (value : ChronoValue) : Prop :=
  (∃ error, value.encode = .error error) ∨
    ∃ bytes, value.encode = .ok bytes ∧
      value.type.decode { typeInfo := value.type.typeInfo, data := some bytes } = .ok value.cut

def NaiveDate.Fits (self : NaiveDate) : Prop :=
  -2 ^ 23 ≤ self.numDaysFromCe - 1 ∧ self.numDaysFromCe - 1 < 2 ^ 23

instance (self : NaiveDate) : Decidable self.Fits := inferInstanceAs (Decidable (_ ∧ _))

def NaiveTime.Plain (self : NaiveTime) : Prop := self.frac < 1000000000

instance (self : NaiveTime) : Decidable self.Plain := inferInstanceAs (Decidable (_ < _))

/-- What the bytes have room for. -/
def ChronoValue.Fits : ChronoValue → Prop
  | .naiveDateTime value => value.date.Fits ∧ value.time.Plain
  | .naiveDate value => value.Fits
  | .naiveTime value => value.Plain
  | .dateTime value => value.naiveUtc.date.Fits ∧ value.naiveUtc.time.Plain

section dates

theorem fromNumDaysFromCeOpt_day {day : Int} (low : -2 ^ 23 ≤ day) (high : day < 2 ^ 23) :
    ∃ date, NaiveDate.fromNumDaysFromCeOpt (day + 1) = some date ∧ date.numDaysFromCe = day + 1 := by
  have inside : firstOfYear (-262143) ≤ day + 1 ∧ day + 1 < firstOfYear 262143 := by
    rw [show firstOfYear (-262143) = -95746129 by decide, show firstOfYear 262143 = 95745400 by decide]
    omega
  exact ⟨⟨day + 1, inside.1, inside.2⟩, dif_pos inside, rfl⟩

theorem bmod_bounds (day : Int) : -2 ^ 23 ≤ day.bmod (2 ^ 24) ∧ day.bmod (2 ^ 24) < 2 ^ 23 :=
  ⟨Int.le_bmod (by decide), Int.bmod_lt (by decide)⟩

/-- A date is read back as it was, or as the date whose day count wraps to it. -/
theorem decodeChronoDate_encodeChronoDate (date : NaiveDate) :
    ∃ read, decodeChronoDate (encodeChronoDate date) = .ok read ∧
      read.numDaysFromCe = (date.numDaysFromCe - 1).bmod (2 ^ 24) + 1 := by
  have ⟨low, high⟩ := bmod_bounds (date.numDaysFromCe - 1)
  have ⟨read, found, days⟩ := fromNumDaysFromCeOpt_day low high
  have decoded : decodeChronoDate (encodeChronoDate date) = .ok read := by
    rw [decodeChronoDate, encodeChronoDate, readI24Le_writeI24Le, Outcome.ok_bind]
    simp only [found]
    rfl
  exact ⟨read, decoded, days⟩

theorem decodeChronoDate_eq_iff (date : NaiveDate) :
    decodeChronoDate (encodeChronoDate date) = .ok date ↔ date.Fits := by
  have ⟨read, decoded, days⟩ := decodeChronoDate_encodeChronoDate date
  rw [decoded, Outcome.ok.injEq]
  constructor
  · intro same
    have bounds := bmod_bounds (date.numDaysFromCe - 1)
    have kept : date.numDaysFromCe - 1 = (date.numDaysFromCe - 1).bmod (2 ^ 24) := by
      rw [same] at days
      omega
    rwa [← kept] at bounds
  · intro fits
    have kept := Int.bmod_eq_of_le (m := 2 ^ 24) fits.1 fits.2
    rw [kept, Int.sub_add_cancel] at days
    exact NaiveDate.ext days

end dates

section times

def NaiveTime.ticks (self : NaiveTime) : Nat := self.secs * 10000000 + self.frac / 100

theorem encodeChronoTime_eq (time : NaiveTime) : encodeChronoTime time = leBytes 5 time.ticks :=
  leBytes_take 5 3 time.ticks

theorem NaiveTime.ticks_lt (time : NaiveTime) : time.ticks < 256 ^ 5 := by
  have seconds := time.secs_lt
  have nanos := time.frac_lt
  unfold ticks
  omega

theorem NaiveTime.ticks_scaled_lt (time : NaiveTime) :
    time.ticks * 10 ^ (9 - UInt8.toNat 7) < 2 ^ 32 * 1000000000 := by
  have wide := time.ticks_lt
  rw [show (10 : Nat) ^ (9 - UInt8.toNat 7) = 100 by decide]
  omega

/-- A time is read back, cut to ticks, unless it is in a leap second: that one is read as the next
second or, at the end of the day, refused. -/
theorem decodeChronoTime_eq_iff (time : NaiveTime) :
    decodeChronoTime 7 (encodeChronoTime time) = .ok time.cut ↔ time.Plain := by
  rw [encodeChronoTime_eq]
  have hundred : (10 : Nat) ^ (9 - UInt8.toNat 7) = 100 := by decide
  by_cases inside : time.ticks * 10 ^ (9 - UInt8.toNat 7) < 86400 * 1000000000
  · have ⟨read, decoded, total, plain⟩ := decodeChronoTime_ok (by decide) (by decide) time.ticks_lt inside
    rw [decoded, Outcome.ok.injEq, NaiveTime.Plain]
    rw [hundred, NaiveTime.ticks] at total
    constructor
    · intro same
      have frac : read.frac = time.frac / 100 * 100 := congrArg NaiveTime.frac same
      omega
    · intro small
      apply NaiveTime.ext
      · show read.secs = time.secs
        omega
      · show read.frac = time.frac / 100 * 100
        omega
  · have ⟨message, refused⟩ := decodeChronoTime_err (by decide) (by decide) time.ticks_lt
      (not_lt.mp inside) time.ticks_scaled_lt
    rw [refused]
    apply iff_of_false
    · exact fun same => nomatch same
    · have seconds := time.secs_lt
      rw [hundred, NaiveTime.ticks] at inside
      unfold NaiveTime.Plain
      omega

end times

theorem decodeChronoDatetime2_encodeChronoDatetime2 (datetime : NaiveDateTime) :
    decodeChronoDatetime2 7 (encodeChronoDatetime2 datetime) = do
      let date ← decodeChronoDate (encodeChronoDate datetime.date)
      let time ← decodeChronoTime 7 (encodeChronoTime datetime.time)
      return { date, time } := by
  have three : (encodeChronoDate datetime.date).length = 3 := by
    rw [encodeChronoDate, writeI24Le_eq, intBytes_length]
  rw [decodeChronoDatetime2, encodeChronoDatetime2, lenMinus_append _ three, Outcome.ok_bind,
    List.drop_left, List.take_left]

theorem decodeChronoDatetime2_eq_iff (datetime : NaiveDateTime) :
    decodeChronoDatetime2 7 (encodeChronoDatetime2 datetime) = .ok datetime.cut ↔
      datetime.date.Fits ∧ datetime.time.Plain := by
  rw [decodeChronoDatetime2_encodeChronoDatetime2, ← decodeChronoDate_eq_iff,
    ← decodeChronoTime_eq_iff]
  simp only [Outcome.bind_ok_iff]
  constructor
  · intro ⟨date, dateRead, time, timeRead, same⟩
    cases Outcome.ok.inj same
    exact ⟨dateRead, timeRead⟩
  · intro ⟨dateRead, timeRead⟩
    exact ⟨_, dateRead, _, timeRead, rfl⟩

section offsets

theorem DateTime.encode_ok (self : DateTime) :
    self.encode = .ok (encodeChronoDatetime2 self.naiveUtc ++
      intBytes 2 (self.offset.localMinusUtc.tdiv 60)) := by
  have low := self.offset.lower
  have high := self.offset.upper
  have minutes := tdiv_sixty self.offset.localMinusUtc
  rw [DateTime.encode, i16TryFrom, if_pos (by omega)]
  rfl

theorem eastOpt_minutes (offset : FixedOffset) :
    FixedOffset.eastOpt (offset.localMinusUtc.tdiv 60 * 60) = some offset.cut :=
  dif_pos ⟨offset.cut.lower, offset.cut.upper⟩

theorem decodeChronoDatetimeoffset_encode (self : DateTime) :
    decodeChronoDatetimeoffset 7 (encodeChronoDatetime2 self.naiveUtc ++
        intBytes 2 (self.offset.localMinusUtc.tdiv 60)) = do
      let naive ← decodeChronoDatetime2 7 (encodeChronoDatetime2 self.naiveUtc)
      return { naiveUtc := naive, offset := self.offset.cut } := by
  have low := self.offset.lower
  have high := self.offset.upper
  have minutes := tdiv_sixty self.offset.localMinusUtc
  have read : leInt (intBytes 2 (self.offset.localMinusUtc.tdiv 60)) =
      self.offset.localMinusUtc.tdiv 60 := leInt_intBytes (by omega) (by omega)
  rw [decodeChronoDatetimeoffset, lenMinus_append _ (intBytes_length 2 _), Outcome.ok_bind]
  simp only [List.take_left, List.drop_left, read, eastOpt_minutes]

theorem DateTime.decode_eq_iff (self : DateTime) {bytes : Bytes}
    (encoded : self.encode = .ok bytes) :
    DateTime.decode { typeInfo := .dateTimeOffset, data := some bytes } = .ok self.cut ↔
      self.naiveUtc.date.Fits ∧ self.naiveUtc.time.Plain := by
  have written := Except.ok.inj (self.encode_ok.symm.trans encoded)
  have decoder : DateTime.decode { typeInfo := .dateTimeOffset, data := some bytes } =
      decodeChronoDatetimeoffset 7 bytes := rfl
  rw [decoder, ← written, decodeChronoDatetimeoffset_encode, ← decodeChronoDatetime2_eq_iff]
  apply Outcome.return_ok_iff
  exact fun naive same => congrArg DateTime.naiveUtc same

end offsets

namespace ChronoValue

theorem encode_ok (value : ChronoValue) : ∃ bytes, value.encode = .ok bytes := by
  cases value with
  | naiveDateTime value => exact ⟨_, rfl⟩
  | naiveDate value => exact ⟨_, rfl⟩
  | naiveTime value => exact ⟨_, rfl⟩
  | dateTime value => exact ⟨_, value.encode_ok⟩

theorem decode_naiveDateTime (bytes : Bytes) :
    ChronoType.naiveDateTime.decode { typeInfo := .dateTime2, data := some bytes } = do
      return naiveDateTime (← decodeChronoDatetime2 7 bytes) := rfl

theorem decode_naiveDate (bytes : Bytes) :
    ChronoType.naiveDate.decode { typeInfo := .date, data := some bytes } = do
      return naiveDate (← decodeChronoDate bytes) := rfl

theorem decode_naiveTime (bytes : Bytes) :
    ChronoType.naiveTime.decode { typeInfo := .time, data := some bytes } = do
      return naiveTime (← decodeChronoTime 7 bytes) := rfl

theorem decode_dateTime (value : MssqlValue) :
    ChronoType.dateTime.decode value = do return dateTime (← DateTime.decode value) := rfl

theorem decode_eq_iff {value : ChronoValue} {bytes : Bytes} (encoded : value.encode = .ok bytes) :
    value.type.decode { typeInfo := value.type.typeInfo, data := some bytes } = .ok value.cut ↔
      value.Fits := by
  cases value with
  | naiveDateTime value =>
    cases encoded
    rw [type, ChronoType.typeInfo, decode_naiveDateTime, Fits, ← decodeChronoDatetime2_eq_iff]
    exact Outcome.return_ok_iff fun found same => naiveDateTime.inj same
  | naiveDate value =>
    cases encoded
    rw [type, ChronoType.typeInfo, decode_naiveDate, Fits, ← decodeChronoDate_eq_iff]
    exact Outcome.return_ok_iff fun found same => naiveDate.inj same
  | naiveTime value =>
    cases encoded
    rw [type, ChronoType.typeInfo, decode_naiveTime, Fits, ← decodeChronoTime_eq_iff]
    exact Outcome.return_ok_iff fun found same => naiveTime.inj same
  | dateTime value =>
    rw [type, ChronoType.typeInfo, decode_dateTime, Fits, ← value.decode_eq_iff encoded]
    exact Outcome.return_ok_iff fun found same => dateTime.inj same

/-- A value survives exactly when its day count fits three signed bytes and its time is not in a
leap second. -/
theorem survives_iff_fits (value : ChronoValue) : value.Survives ↔ value.Fits := by
  have ⟨bytes, encoded⟩ := value.encode_ok
  rw [← decode_eq_iff encoded]
  constructor
  · intro survives
    rcases survives with ⟨error, refused⟩ | ⟨other, written, read⟩
    · cases encoded.symm.trans refused
    · cases encoded.symm.trans written
      exact read
  · intro read
    exact .inr ⟨bytes, encoded, read⟩

/-- A leap second at the end of the day is written without an error and cannot be read. -/
theorem leap_second_not_survives : ¬∀ value : ChronoValue, value.Survives := by
  intro always
  have leap : ¬(⟨86399, 1000000000, by decide, by decide⟩ : NaiveTime).Plain := by decide
  rcases always (.naiveTime ⟨86399, 1000000000, by decide, by decide⟩) with
    ⟨error, refused⟩ | ⟨bytes, written, read⟩
  · cases refused
  · exact leap ((decode_eq_iff written).mp read)

end ChronoValue
end SqlxSqlserver.Driver

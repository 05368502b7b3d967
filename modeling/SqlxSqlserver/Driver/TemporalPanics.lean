import SqlxSqlserver.Driver.DateTimeOffset
import SqlxSqlserver.Protocol.TypeInfoRoundTrip

/-! Where the date and time decoders panic. The row parser takes the length of a value from its own
length byte and never compares it with the column, so the decoders meet values of every length. -/

namespace SqlxSqlserver.Driver
open Foundation Protocol

inductive TemporalType where
  | naiveDateTime | naiveDate | naiveTime | dateTimeFixedOffset | dateTimeUtc
  | primitiveDateTime | timeDate | timeTime | offsetDateTime
  deriving DecidableEq, Repr

namespace TemporalType

def compatible (type : TemporalType) (typeInfo : MssqlTypeInfo) : Bool :=
  match type with
  | .naiveDateTime => typeInfo.kind ∈ [.dateTime, .dateTime2, .dateTimeOffset]
  | .naiveDate | .timeDate => typeInfo.kind = .date
  | .naiveTime | .timeTime => typeInfo.kind = .time
  | .dateTimeFixedOffset | .dateTimeUtc => typeInfo.kind ∈ [.dateTime, .dateTimeOffset]
  | .primitiveDateTime => typeInfo.kind ∈ [.dateTime2, .dateTimeOffset]
  | .offsetDateTime => typeInfo.kind = .dateTimeOffset

def Value : TemporalType → Type
  | .naiveDateTime => NaiveDateTime
  | .naiveDate => NaiveDate
  | .naiveTime => NaiveTime
  | .dateTimeFixedOffset | .dateTimeUtc => DateTime
  | .primitiveDateTime => TimeCrate.PrimitiveDateTime
  | .timeDate => TimeCrate.Date
  | .timeTime => TimeCrate.Time
  | .offsetDateTime => TimeCrate.OffsetDateTime

def decode : (type : TemporalType) → MssqlValue → Outcome BoxDynError type.Value
  | .naiveDateTime => NaiveDateTime.decode
  | .naiveDate => NaiveDate.decode
  | .naiveTime => NaiveTime.decode
  | .dateTimeFixedOffset => DateTime.decode
  | .dateTimeUtc => DateTime.decodeUtc
  | .primitiveDateTime => TimeCrate.PrimitiveDateTime.decode
  | .timeDate => TimeCrate.Date.decode
  | .timeTime => TimeCrate.Time.decode
  | .offsetDateTime => TimeCrate.OffsetDateTime.decode

end TemporalType

section conditions

/-- The lowest eight bytes of the ticks, in nanoseconds, are a `u64`. -/
def TicksFit (scale : UInt8) (ticks : Bytes) : Prop :=
  leNat ticks % 2 ^ 64 * 10 ^ (9 - scale.toNat) < 2 ^ 64

/-- Days from the first of January 1900 that stay in the calendar of `chrono`, with the ticks. -/
def DatetimeFits (bytes : Bytes) : Prop :=
  firstOfYear (-262143) ≤ firstOfYear 1900 + leInt (bytes.take 4) ∧
    firstOfYear 1900 + leInt (bytes.take 4) +
      (leNat (bytes.drop 4) * 1000 / 300 / 86400000 : Nat) < firstOfYear 262143

def ChronoDatetime2Fits (scale : UInt8) (bytes : Bytes) : Prop :=
  3 ≤ bytes.length ∧ TicksFit scale (bytes.take (bytes.length - 3))

def TimeDayFits (date : Bytes) : Prop :=
  firstOfYear (-9999) ≤ leInt date + 1 ∧ leInt date + 1 < firstOfYear 10000

def TimeDatetime2Fits (scale : UInt8) (bytes : Bytes) : Prop :=
  3 ≤ bytes.length ∧
    (TimeDayFits (bytes.drop (bytes.length - 3)) → TicksFit scale (bytes.take (bytes.length - 3)))

def WithOffset (fits : Bytes → Prop) (bytes : Bytes) : Prop :=
  2 ≤ bytes.length ∧ fits (bytes.take (bytes.length - 2))

/-- The values on which no decoder panics. -/
def TemporalType.Fits (type : TemporalType) (typeInfo : MssqlTypeInfo) (bytes : Bytes) : Prop :=
  match type with
  | .naiveDate | .timeDate => 3 ≤ bytes.length
  | .naiveTime | .timeTime => TicksFit typeInfo.scale bytes
  | .naiveDateTime | .dateTimeFixedOffset | .dateTimeUtc =>
    match typeInfo.kind with
    | .dateTime2 => ChronoDatetime2Fits typeInfo.scale bytes
    | .dateTimeOffset => WithOffset (ChronoDatetime2Fits typeInfo.scale) bytes
    | _ => bytes.length = 8 → DatetimeFits bytes
  | .primitiveDateTime | .offsetDateTime =>
    match typeInfo.kind with
    | .dateTime2 => TimeDatetime2Fits typeInfo.scale bytes
    | _ => WithOffset (TimeDatetime2Fits typeInfo.scale) bytes

instance (scale : UInt8) (ticks : Bytes) : Decidable (TicksFit scale ticks) :=
  inferInstanceAs (Decidable (_ < _))

instance (scale : UInt8) (bytes : Bytes) : Decidable (ChronoDatetime2Fits scale bytes) :=
  inferInstanceAs (Decidable (_ ∧ _))

end conditions

section primitives

theorem readI24Le_ok {bytes : Bytes} (enough : 3 ≤ bytes.length) :
    readI24Le bytes = .ok (leInt (bytes.take 3)) := by
  obtain _ | ⟨low, _ | ⟨middle, _ | ⟨high, rest⟩⟩⟩ := bytes
  · contradiction
  · contradiction
  · contradiction
  · rfl

theorem readI24Le_panics_iff (bytes : Bytes) : (readI24Le bytes).Panics ↔ ¬3 ≤ bytes.length := by
  by_cases enough : 3 ≤ bytes.length
  · rw [readI24Le_ok enough]
    exact iff_of_false (Outcome.not_panics_ok _) (not_not.mpr enough)
  · apply iff_of_true _ enough
    obtain _ | ⟨low, _ | ⟨middle, _ | ⟨high, rest⟩⟩⟩ := bytes
    · exact ⟨_, rfl⟩
    · exact ⟨_, rfl⟩
    · exact ⟨_, rfl⟩
    · exact absurd (Nat.le_add_left 3 rest.length) enough

theorem lenMinus_panics_iff (bytes : Bytes) (count : Nat) :
    (lenMinus bytes count).Panics ↔ ¬count ≤ bytes.length := by
  unfold lenMinus
  by_cases enough : count ≤ bytes.length
  · rw [if_pos enough]
    exact iff_of_false (Outcome.not_panics_ok _) (not_not.mpr enough)
  · rw [if_neg enough]
    exact iff_of_true (Outcome.panics_panic _) enough

theorem lenMinus_bind_panics_iff {α : Type} (bytes : Bytes) (count : Nat)
    (next : Nat → Outcome BoxDynError α) :
    (lenMinus bytes count >>= next).Panics ↔
      ¬(count ≤ bytes.length ∧ ¬(next (bytes.length - count)).Panics) := by
  by_cases enough : count ≤ bytes.length
  · rw [lenMinus, if_pos enough, Outcome.ok_bind]
    simp only [enough, true_and, not_not]
  · apply iff_of_true
    · exact Outcome.panics_bind_iff.mpr (.inl ((lenMinus_panics_iff bytes count).mpr enough))
    · exact fun both => enough both.1

theorem scaleTicks_panics_iff {scale : UInt8} (low : scale.toNat ≤ 9) (data : Bytes) :
    (scaleTicks scale (accumulate data)).Panics ↔ ¬TicksFit scale data := by
  rw [accumulate_eq, scaleTicks, if_neg (Nat.not_lt.mpr low)]
  by_cases fits : leNat data % 2 ^ 64 * 10 ^ (9 - scale.toNat) < 2 ^ 64
  · rw [if_pos fits]
    exact iff_of_false (Outcome.not_panics_ok _) (not_not.mpr fits)
  · rw [if_neg fits]
    exact iff_of_true (Outcome.panics_panic _) fits

theorem leInt_day_bounds {bytes : Bytes} (three : bytes.length = 3) :
    -2 ^ 23 ≤ leInt bytes ∧ leInt bytes < 2 ^ 23 := by
  have digits := leNat_lt bytes
  rw [three] at digits
  unfold leInt
  rw [three]
  split <;> omega

end primitives

section chrono

theorem decodeChronoTime_panics_iff {scale : UInt8} (low : scale.toNat ≤ 9) (data : Bytes) :
    (decodeChronoTime scale data).Panics ↔ ¬TicksFit scale data := by
  rw [decodeChronoTime, Outcome.panics_bind_calm, scaleTicks_panics_iff low]
  intro acc _
  apply Outcome.not_panics_bind (Outcome.not_panics_ofExcept _)
  intro seconds _
  apply Outcome.not_panics_bind (Outcome.not_panics_ofExcept _)
  intro nanos _
  split
  · exact Outcome.not_panics_ok _
  · exact Outcome.not_panics_err _

theorem decodeChronoDate_ok {bytes : Bytes} (enough : 3 ≤ bytes.length) :
    ∃ date, decodeChronoDate bytes = .ok date ∧ date.numDaysFromCe = leInt (bytes.take 3) + 1 := by
  obtain ⟨low, high⟩ := leInt_day_bounds (List.length_take_of_le enough)
  obtain ⟨date, found, days⟩ := fromNumDaysFromCeOpt_day low high
  refine ⟨date, ?_, days⟩
  rw [decodeChronoDate, readI24Le_ok enough, Outcome.ok_bind]
  simp only [found]
  rfl

theorem decodeChronoDate_panics_iff (bytes : Bytes) :
    (decodeChronoDate bytes).Panics ↔ ¬3 ≤ bytes.length := by
  by_cases enough : 3 ≤ bytes.length
  · obtain ⟨date, decoded, _⟩ := decodeChronoDate_ok enough
    rw [decoded]
    exact iff_of_false (Outcome.not_panics_ok _) (not_not.mpr enough)
  · have index := (readI24Le_panics_iff bytes).mpr enough
    exact iff_of_true (Outcome.panics_bind_iff.mpr (.inl index)) enough

theorem drop_length_sub {bytes : Bytes} {count : Nat} (enough : count ≤ bytes.length) :
    (bytes.drop (bytes.length - count)).length = count := by
  rw [List.length_drop]
  omega

theorem decodeChronoDatetime2_panics_iff {scale : UInt8} (low : scale.toNat ≤ 9) (bytes : Bytes) :
    (decodeChronoDatetime2 scale bytes).Panics ↔ ¬ChronoDatetime2Fits scale bytes := by
  rw [decodeChronoDatetime2, lenMinus_bind_panics_iff, ChronoDatetime2Fits, not_iff_not]
  apply and_congr_right
  intro enough
  obtain ⟨date, decoded, _⟩ := decodeChronoDate_ok (drop_length_sub enough).ge
  rw [decoded, Outcome.ok_bind, Outcome.panics_return_iff, decodeChronoTime_panics_iff low, not_not]

/-- The date of a DATETIME2 lies near the year 1. -/
theorem decodeChronoDatetime2_day {scale : UInt8} {bytes : Bytes} {datetime : NaiveDateTime}
    (decoded : decodeChronoDatetime2 scale bytes = .ok datetime) :
    -2 ^ 23 ≤ datetime.date.numDaysFromCe - 1 ∧ datetime.date.numDaysFromCe - 1 < 2 ^ 23 := by
  obtain ⟨size, subtracted, rest⟩ := Outcome.bind_ok_iff.mp decoded
  obtain ⟨date, dated, timed⟩ := Outcome.bind_ok_iff.mp rest
  obtain ⟨time, _, made⟩ := Outcome.bind_ok_iff.mp timed
  cases made
  have enough : 3 ≤ (bytes.drop size).length := by
    by_contra short
    obtain ⟨message, panics⟩ := (decodeChronoDate_panics_iff _).mpr short
    cases dated.symm.trans panics
  obtain ⟨found, again, days⟩ := decodeChronoDate_ok enough
  cases dated.symm.trans again
  have bounds := leInt_day_bounds (List.length_take_of_le enough)
  dsimp only
  omega

theorem decodeChronoDatetimeoffset_panics_iff {scale : UInt8} (low : scale.toNat ≤ 9)
    (bytes : Bytes) : (decodeChronoDatetimeoffset scale bytes).Panics ↔
      ¬WithOffset (ChronoDatetime2Fits scale) bytes := by
  rw [decodeChronoDatetimeoffset, lenMinus_bind_panics_iff, WithOffset, not_iff_not]
  apply and_congr_right
  intro _
  rw [Outcome.panics_bind_calm, decodeChronoDatetime2_panics_iff low, not_not]
  intro naive _
  dsimp only
  split
  · exact Outcome.not_panics_ok _
  · exact Outcome.not_panics_err _

theorem addDays_panics_iff (date : NaiveDate) (days : Int) : (date.addDays days).Panics ↔
    ¬(firstOfYear (-262143) ≤ date.numDaysFromCe + days ∧
      date.numDaysFromCe + days < firstOfYear 262143) := by
  unfold NaiveDate.addDays NaiveDate.fromNumDaysFromCeOpt
  split_ifs with inside
  · exact iff_of_false (Outcome.not_panics_ok _) (not_not.mpr inside)
  · exact iff_of_true (Outcome.panics_panic _) inside

theorem addDays_ok {date moved : NaiveDate} {days : Int} (added : date.addDays days = .ok moved) :
    moved.numDaysFromCe = date.numDaysFromCe + days := by
  unfold NaiveDate.addDays NaiveDate.fromNumDaysFromCeOpt at added
  split_ifs at added with inside
  cases added
  rfl

theorem addMilliseconds_panics_iff (date : NaiveDate) (milliseconds : Nat) :
    (date.addMilliseconds milliseconds).Panics ↔
      ¬date.numDaysFromCe + (milliseconds / 86400000 : Nat) < firstOfYear 262143 := by
  have lower := date.lower
  unfold NaiveDate.addMilliseconds NaiveDate.fromNumDaysFromCeOpt
  push_cast
  split_ifs with inside
  · exact iff_of_false (Outcome.not_panics_ok _) (not_not.mpr inside.2)
  · exact iff_of_true (Outcome.panics_panic _) (by omega)

theorem splitArrays_of_length {bytes : Bytes} {first second : Nat}
    (length : bytes.length = first + second) :
    splitArrays bytes first second = .ok (bytes.take first, bytes.drop first) := by
  rw [splitArrays, if_neg (by omega), if_pos length]

/-- A DATETIME panics exactly when its days leave the calendar. -/
theorem decodeChronoDatetime_panics_iff {bytes : Bytes} (eight : bytes.length = 8) :
    (decodeChronoDatetime bytes).Panics ↔ ¬DatetimeFits bytes := by
  have start : NaiveDate.year1900.numDaysFromCe = firstOfYear 1900 := rfl
  have split : splitArrays bytes 4 4 = .ok (bytes.take 4, bytes.drop 4) :=
    splitArrays_of_length eight
  rw [decodeChronoDatetime, split, Outcome.ok_bind]
  dsimp only
  rw [Outcome.panics_bind_iff, addDays_panics_iff, start, DatetimeFits]
  constructor
  · rintro (outside | ⟨date, added, later⟩)
    · omega
    · rw [Outcome.panics_return_iff, addMilliseconds_panics_iff, addDays_ok added, start] at later
      exact fun inside => later inside.2
  · intro outside
    by_cases inside : firstOfYear (-262143) ≤ firstOfYear 1900 + leInt (bytes.take 4) ∧
        firstOfYear 1900 + leInt (bytes.take 4) < firstOfYear 262143
    · right
      have found : NaiveDate.year1900.addDays (leInt (bytes.take 4)) =
          .ok ⟨firstOfYear 1900 + leInt (bytes.take 4), inside.1, inside.2⟩ := by
        unfold NaiveDate.addDays NaiveDate.fromNumDaysFromCeOpt
        rw [start, dif_pos inside]
      refine ⟨_, found, ?_⟩
      rw [Outcome.panics_return_iff, addMilliseconds_panics_iff]
      exact fun below => outside ⟨inside.1, below⟩
    · exact .inl inside

theorem decodeChronoSmalldatetime_calm {bytes : Bytes} (four : bytes.length = 4) :
    ¬(decodeChronoSmalldatetime bytes).Panics := by
  have start : NaiveDate.year1900.numDaysFromCe = 693596 := by decide
  have last : firstOfYear 262143 = 95745400 := by decide
  have first : firstOfYear (-262143) = -95746129 := by decide
  have days := leNat_lt (bytes.take 2)
  have minutes := leNat_lt (bytes.drop 2)
  rw [List.length_take_of_le (by omega)] at days
  rw [List.length_drop, four] at minutes
  have split : splitArrays bytes 2 2 = .ok (bytes.take 2, bytes.drop 2) :=
    splitArrays_of_length four
  -- As a variable the addition is not computed with when the pair is taken apart.
  obtain ⟨addDays, addition⟩ : ∃ addDays, NaiveDate.year1900.addDays = addDays := ⟨_, rfl⟩
  rw [decodeChronoSmalldatetime, split, Outcome.ok_bind, addition]
  dsimp only
  rw [← addition]
  apply Outcome.not_panics_bind
  · rw [addDays_panics_iff, start, first, last]
    omega
  · intro date added
    have later : leNat (bytes.drop 2) * 60000 / 86400000 < 46 := by omega
    rw [Outcome.panics_return_iff, addMilliseconds_panics_iff, addDays_ok added, start, last]
    omega

theorem naiveLocal_calm {self : DateTime}
    (near : self.offset = .utc ∨ -2 ^ 23 ≤ self.naiveUtc.date.numDaysFromCe - 1 ∧
      self.naiveUtc.date.numDaysFromCe - 1 < 2 ^ 23) : ¬self.naiveLocal.Panics := by
  obtain ⟨naive, moved, _⟩ := naiveLocal_ok self near
  rw [moved]
  exact Outcome.not_panics_ok naive

end chrono

section timeCrate
open TimeCrate

theorem decodeTimeTime_panics_iff {scale : UInt8} (low : scale.toNat ≤ 9) (data : Bytes) :
    (decodeTimeTime scale data).Panics ↔ ¬TicksFit scale data := by
  rw [decodeTimeTime, Outcome.panics_bind_calm, scaleTicks_panics_iff low]
  intro acc _
  apply Outcome.not_panics_bind (Outcome.not_panics_ofExcept _)
  intro nanos _
  apply Outcome.not_panics_bind (Outcome.not_panics_ofExcept _)
  intro hour _
  apply Outcome.not_panics_bind (Outcome.not_panics_ofExcept _)
  intro minute _
  apply Outcome.not_panics_bind (Outcome.not_panics_ofExcept _)
  intro second _
  exact Outcome.not_panics_ofExcept _

theorem decodeTimeDate_panics_iff (bytes : Bytes) :
    (decodeTimeDate bytes).Panics ↔ ¬3 ≤ bytes.length := by
  rw [decodeTimeDate, Outcome.panics_bind_calm, readI24Le_panics_iff]
  exact fun days _ => Outcome.not_panics_ofExcept _

theorem decodeTimeDate_ok_iff {bytes : Bytes} (three : bytes.length = 3) :
    (∃ date, decodeTimeDate bytes = .ok date) ↔ TimeDayFits bytes := by
  have start : dateOneCeJulianDay = 1 + 1721425 := by decide
  rw [decodeTimeDate, readI24Le_of_length three, Outcome.ok_bind, Date.fromJulianDay, start,
    TimeDayFits]
  split_ifs with inside
  · exact iff_of_true ⟨_, rfl⟩ (by omega)
  · apply iff_of_false
    · rintro ⟨date, decoded⟩
      cases decoded
    · omega

theorem decodeTimeDatetime2_panics_iff {scale : UInt8} (low : scale.toNat ≤ 9) (bytes : Bytes) :
    (decodeTimeDatetime2 scale bytes).Panics ↔ ¬TimeDatetime2Fits scale bytes := by
  rw [decodeTimeDatetime2, lenMinus_bind_panics_iff, TimeDatetime2Fits, not_iff_not]
  apply and_congr_right
  intro enough
  have three := drop_length_sub enough
  have calm : ¬(decodeTimeDate (bytes.drop (bytes.length - 3))).Panics := by
    rw [decodeTimeDate_panics_iff, not_not, three]
  have timed : ∀ date : Date, (do
      let time ← decodeTimeTime scale (bytes.take (bytes.length - 3))
      return { date, time } : Outcome BoxDynError PrimitiveDateTime).Panics ↔
        ¬TicksFit scale (bytes.take (bytes.length - 3)) := by
    intro date
    rw [Outcome.panics_return_iff, decodeTimeTime_panics_iff low]
  rw [Outcome.panics_bind_of_calm calm]
  simp only [timed]
  rw [← decodeTimeDate_ok_iff three, exists_and_right, not_and, not_not]

end timeCrate

section types

theorem scaled_of_kindOf {ε : Type} {typeInfo : TypeInfo} {kind : MssqlType}
    (found : (MssqlTypeInfo.kindOf typeInfo : Outcome ε MssqlType) = .ok kind)
    (ticks : kind ∈ [.time, .dateTime2, .dateTimeOffset]) :
    typeInfo.ty ∈ [.timeN, .dateTime2N, .dateTimeOffsetN] := by
  have known : ∀ other ∉ [MssqlType.time, .dateTime2, .dateTimeOffset],
      (Outcome.ok other : Outcome ε MssqlType) ≠ .ok kind := by
    rintro other unscaled same
    cases same
    exact unscaled ticks
  have named : ∀ name : Outcome ε String, (do return MssqlType.other (← name)) ≠ .ok kind := by
    intro name same
    obtain ⟨text, _, made⟩ := Outcome.bind_ok_iff.mp same
    exact known (.other text) (by simp) made
  obtain ⟨ty, size, scale, precision, collation⟩ := typeInfo
  unfold MssqlTypeInfo.kindOf at found
  cases ty
  case timeN | dateTime2N | dateTimeOffsetN => simp only [List.mem_cons, true_or, or_true]
  case intN | floatN =>
    dsimp only at found
    split at found
    all_goals first
      | exact absurd found (known _ (by decide))
      | exact absurd found (named _)
  all_goals exact absurd found (known _ (by decide))

theorem scale_le_of_fromProtocol {input rest : Bytes} {typeInfo : TypeInfo} {info : MssqlTypeInfo}
    (got : TypeInfo.get input = .ok (typeInfo, rest))
    (made : (MssqlTypeInfo.fromProtocol typeInfo : Outcome BoxDynError MssqlTypeInfo) = .ok info)
    (ticks : info.kind ∈ [.time, .dateTime2, .dateTimeOffset]) : info.scale.toNat ≤ 9 := by
  obtain ⟨kind, found, same⟩ := Outcome.bind_ok_iff.mp made
  cases same
  have low := scale_le_of_get got (scaled_of_kindOf found ticks)
  exact low.trans (by decide)

end types

section decoders
variable {typeInfo : MssqlTypeInfo} {bytes : Bytes}

theorem dateTime_decode_panics_iff
    (low : typeInfo.kind = .dateTimeOffset → typeInfo.scale.toNat ≤ 9)
    (accepted : typeInfo.kind = .dateTime ∨ typeInfo.kind = .dateTimeOffset) :
    (DateTime.decode { typeInfo, data := some bytes }).Panics ↔
      ¬TemporalType.Fits .dateTimeFixedOffset typeInfo bytes := by
  rw [DateTime.decode, nonNullBytes, Outcome.ofExcept, Outcome.ok_bind, TemporalType.Fits]
  rcases accepted with kind | kind
  · simp only [kind]
    split
    next four =>
      apply iff_of_false (decodeChronoSmalldatetime_calm four)
      exact not_not.mpr fun eight => by omega
    next eight =>
      rw [decodeChronoDatetime_panics_iff eight]
      simp only [eight, true_imp_iff]
    next other => cases other
    next four eight =>
      apply iff_of_false (Outcome.not_panics_err _)
      exact not_not.mpr fun length => absurd length (eight rfl)
  · simp only [kind]
    exact decodeChronoDatetimeoffset_panics_iff (low kind) bytes

theorem decodeChronoDatetime_utc {datetime : DateTime}
    (decoded : decodeChronoDatetime bytes = .ok datetime) : datetime.offset = .utc := by
  obtain ⟨arrays, _, dated⟩ := Outcome.bind_ok_iff.mp decoded
  obtain ⟨date, _, timed⟩ := Outcome.bind_ok_iff.mp dated
  obtain ⟨naive, _, made⟩ := Outcome.bind_ok_iff.mp timed
  cases made
  rfl

theorem decodeChronoSmalldatetime_utc {datetime : DateTime}
    (decoded : decodeChronoSmalldatetime bytes = .ok datetime) : datetime.offset = .utc := by
  obtain ⟨addDays, addition⟩ : ∃ addDays, NaiveDate.year1900.addDays = addDays := ⟨_, rfl⟩
  rw [decodeChronoSmalldatetime, addition] at decoded
  obtain ⟨arrays, _, dated⟩ := Outcome.bind_ok_iff.mp decoded
  obtain ⟨date, _, timed⟩ := Outcome.bind_ok_iff.mp dated
  obtain ⟨naive, _, made⟩ := Outcome.bind_ok_iff.mp timed
  cases made
  rfl

theorem dateTime_decode_near {value : MssqlValue} {datetime : DateTime}
    (decoded : DateTime.decode value = .ok datetime) :
    datetime.offset = .utc ∨ -2 ^ 23 ≤ datetime.naiveUtc.date.numDaysFromCe - 1 ∧
      datetime.naiveUtc.date.numDaysFromCe - 1 < 2 ^ 23 := by
  obtain ⟨found, _, rest⟩ := Outcome.bind_ok_iff.mp decoded
  split at rest
  · exact .inl (decodeChronoSmalldatetime_utc rest)
  · exact .inl (decodeChronoDatetime_utc rest)
  · right
    obtain ⟨size, _, dated⟩ := Outcome.bind_ok_iff.mp rest
    obtain ⟨naive, near, made⟩ := Outcome.bind_ok_iff.mp dated
    dsimp only at made
    split at made
    next offset _ =>
      cases made
      exact decodeChronoDatetime2_day near
    next => cases made
  · cases rest

theorem naiveDateTime_decode_panics_iff
    (low : typeInfo.kind ∈ [.time, .dateTime2, .dateTimeOffset] → typeInfo.scale.toNat ≤ 9)
    (accepted : typeInfo.kind ∈ [.dateTime, .dateTime2, .dateTimeOffset]) :
    (NaiveDateTime.decode { typeInfo, data := some bytes }).Panics ↔
      ¬TemporalType.Fits .naiveDateTime typeInfo bytes := by
  rw [NaiveDateTime.decode, nonNullBytes, Outcome.ofExcept, Outcome.ok_bind]
  by_cases kind : typeInfo.kind = .dateTime2
  · rw [TemporalType.Fits]
    simp only [kind]
    exact decodeChronoDatetime2_panics_iff (low (by simp [kind])) bytes
  · have others : typeInfo.kind = .dateTime ∨ typeInfo.kind = .dateTimeOffset := by
      simpa [kind] using accepted
    have decoder : (DateTime.decode { typeInfo, data := some bytes }).Panics ↔
        ¬TemporalType.Fits .dateTimeFixedOffset typeInfo bytes :=
      dateTime_decode_panics_iff (fun offset => low (by simp [offset])) others
    have shifted : (do (← DateTime.decode { typeInfo, data := some bytes }).naiveLocal :
        Outcome BoxDynError NaiveDateTime).Panics ↔
        (DateTime.decode { typeInfo, data := some bytes }).Panics :=
      Outcome.panics_bind_calm fun datetime decoded =>
        naiveLocal_calm (dateTime_decode_near decoded)
    rcases others with kind | kind
    · simp only [kind]
      exact shifted.trans decoder
    · simp only [kind]
      exact shifted.trans decoder

theorem primitiveDateTime_decode_panics_iff
    (low : typeInfo.kind ∈ [.time, .dateTime2, .dateTimeOffset] → typeInfo.scale.toNat ≤ 9)
    (accepted : typeInfo.kind = .dateTime2 ∨ typeInfo.kind = .dateTimeOffset) :
    (TimeCrate.PrimitiveDateTime.decode { typeInfo, data := some bytes }).Panics ↔
      ¬TemporalType.Fits .primitiveDateTime typeInfo bytes := by
  rw [TimeCrate.PrimitiveDateTime.decode, nonNullBytes, Outcome.ofExcept, Outcome.ok_bind,
    TemporalType.Fits]
  have scale : typeInfo.scale.toNat ≤ 9 := by
    rcases accepted with kind | kind
    · exact low (by simp [kind])
    · exact low (by simp [kind])
  rcases accepted with kind | kind
  · simp only [kind]
    exact decodeTimeDatetime2_panics_iff scale bytes
  · simp only [kind]
    rw [lenMinus_bind_panics_iff, WithOffset, decodeTimeDatetime2_panics_iff scale, not_not]

theorem offsetDateTime_decode_panics_iff
    (low : typeInfo.kind ∈ [.time, .dateTime2, .dateTimeOffset] → typeInfo.scale.toNat ≤ 9)
    (kind : typeInfo.kind = .dateTimeOffset) :
    (TimeCrate.OffsetDateTime.decode { typeInfo, data := some bytes }).Panics ↔
      ¬TemporalType.Fits .offsetDateTime typeInfo bytes := by
  rw [TimeCrate.OffsetDateTime.decode, nonNullBytes, Outcome.ofExcept, Outcome.ok_bind,
    TemporalType.Fits, if_neg (not_not.mpr kind)]
  simp only [kind]
  rw [lenMinus_bind_panics_iff, WithOffset, not_iff_not]
  apply and_congr_right
  intro _
  rw [Outcome.panics_bind_calm, decodeTimeDatetime2_panics_iff (low (by simp [kind])), not_not]
  intro naive _
  rw [Outcome.panics_return_iff]
  exact Outcome.not_panics_ofExcept _

end decoders

/-- The decoders answer exactly the values that fit: those with enough bytes, ticks that are a `u64`
in nanoseconds, and, for DATETIME, days inside the calendar. -/
theorem decode_answers_iff (type : TemporalType) (input rest : Bytes) (typeInfo : TypeInfo)
    (info : MssqlTypeInfo) (got : TypeInfo.get input = .ok (typeInfo, rest))
    (made : (MssqlTypeInfo.fromProtocol typeInfo : Outcome BoxDynError MssqlTypeInfo) = .ok info)
    (accepted : type.compatible info = true) (bytes : Bytes) :
    ((∃ value, type.decode { typeInfo := info, data := some bytes } = .ok value) ∨
      ∃ error, type.decode { typeInfo := info, data := some bytes } = .err error) ↔
      type.Fits info bytes := by
  have low := scale_le_of_fromProtocol got made
  rw [Outcome.answers_iff, not_iff_comm, iff_comm]
  cases type with
  | naiveDateTime => exact naiveDateTime_decode_panics_iff low (of_decide_eq_true accepted)
  | naiveDate => exact decodeChronoDate_panics_iff bytes
  | naiveTime =>
    have kind : info.kind = .time := of_decide_eq_true accepted
    exact decodeChronoTime_panics_iff (low (by simp [kind])) bytes
  | dateTimeFixedOffset =>
    have kinds : info.kind ∈ [.dateTime, .dateTimeOffset] := of_decide_eq_true accepted
    exact dateTime_decode_panics_iff (fun kind => low (by simp [kind])) (by simpa using kinds)
  | dateTimeUtc =>
    have kinds : info.kind ∈ [.dateTime, .dateTimeOffset] := of_decide_eq_true accepted
    apply (Outcome.panics_return_iff _).trans
    exact dateTime_decode_panics_iff (fun kind => low (by simp [kind])) (by simpa using kinds)
  | primitiveDateTime =>
    have kinds : info.kind ∈ [.dateTime2, .dateTimeOffset] := of_decide_eq_true accepted
    exact primitiveDateTime_decode_panics_iff low (by simpa using kinds)
  | timeDate => exact decodeTimeDate_panics_iff bytes
  | timeTime =>
    have kind : info.kind = .time := of_decide_eq_true accepted
    exact decodeTimeTime_panics_iff (low (by simp [kind])) bytes
  | offsetDateTime => exact offsetDateTime_decode_panics_iff low (of_decide_eq_true accepted)

/-- A DATETIME2(7) of eight bytes is answered. -/
theorem decode_answers_iff_noon :
    (∃ value, TemporalType.decode .naiveDateTime
      { typeInfo := .dateTime2, data := some (leBytes 5 432000000000 ++ leBytes 3 730119) } =
        .ok value) ∨
      ∃ error, TemporalType.decode .naiveDateTime
        { typeInfo := .dateTime2, data := some (leBytes 5 432000000000 ++ leBytes 3 730119) } =
          .err error := by
  apply (decode_answers_iff .naiveDateTime [0x2a, 7] [] ⟨.dateTime2N, 8, 7, 0, none⟩ .dateTime2
    (by decide +kernel) rfl rfl _).mpr
  show ChronoDatetime2Fits 7 _
  decide +kernel

/-- A DATE of two bytes makes the decoder index out of bounds. -/
theorem not_decode_answers :
    ¬∀ (type : TemporalType) (input typeRest : Bytes) (typeInfo : TypeInfo) (info : MssqlTypeInfo)
      (valueInput rest bytes : Bytes), TypeInfo.get input = .ok (typeInfo, typeRest) →
      (MssqlTypeInfo.fromProtocol typeInfo : Outcome BoxDynError MssqlTypeInfo) = .ok info →
      type.compatible info = true → typeInfo.getValue valueInput = .ok (some bytes, rest) →
      (∃ value, type.decode { typeInfo := info, data := some bytes } = .ok value) ∨
        ∃ error, type.decode { typeInfo := info, data := some bytes } = .err error := by
  intro always
  have answers := always .naiveDate [0x28] [] (.new .dateN 3) _ [2, 1, 0] [] [1, 0] (by decide +kernel)
    rfl rfl (by decide +kernel)
  apply Outcome.answers_iff.mp answers
  exact (decodeChronoDate_panics_iff [1, 0]).mpr (by decide)

end SqlxSqlserver.Driver

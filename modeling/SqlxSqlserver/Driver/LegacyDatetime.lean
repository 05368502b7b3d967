import Mathlib.Algebra.Order.Field.Rat
import Mathlib.Tactic.Linarith
import Mathlib.Tactic.FieldSimp
import SqlxSqlserver.Driver.TemporalPanics

/-! The DATETIME of old: days from the first of January 1900 and ticks of 1/300 s. A tick is ten
thirds of a millisecond, and the decoder drops the thirds. -/

namespace SqlxSqlserver.Driver
open Foundation Protocol

section moments

def NaiveDateTime.moment (self : NaiveDateTime) : ℚ :=
  self.date.numDaysFromCe * 86400 + self.time.secs + self.time.frac / 1000000000

/-- The moment that a DATETIME stands for. -/
def storedMoment (day : Int) (ticks : Nat) : ℚ := (firstOfYear 1900 + day : Int) * 86400 + ticks / 300

def datetimeBytes (day : Int) (ticks : Nat) : Bytes := intBytes 4 day ++ leBytes 4 ticks

structure IsDatetime (day : Int) (ticks : Nat) : Prop where
  lower : firstOfYear 1753 ≤ firstOfYear 1900 + day
  upper : firstOfYear 1900 + day < firstOfYear 10000
  ticks_lt : ticks < 86400 * 300

/-- All three types of `chrono` decode the value, and to this moment. -/
structure DecodesTo (typeInfo : MssqlTypeInfo) (day : Int) (ticks : Nat) (moment : ℚ) : Prop where
  fixedOffset : ∃ datetime,
    DateTime.decode (.new typeInfo (some (datetimeBytes day ticks))) = .ok datetime ∧
      datetime.naiveUtc.moment = moment
  utc : ∃ datetime,
    DateTime.decodeUtc (.new typeInfo (some (datetimeBytes day ticks))) = .ok datetime ∧
      datetime.naiveUtc.moment = moment
  naive : ∃ datetime,
    NaiveDateTime.decode (.new typeInfo (some (datetimeBytes day ticks))) = .ok datetime ∧
      datetime.moment = moment

/-- The value decodes to a moment at most half a millisecond off. -/
def DecodesNearest (typeInfo : MssqlTypeInfo) (day : Int) (ticks : Nat) : Prop :=
  ∃ moment, DecodesTo typeInfo day ticks moment ∧ |moment - storedMoment day ticks| ≤ 1 / 2000

end moments

section decoding
variable {typeInfo : MssqlTypeInfo} {day : Int} {ticks : Nat}

theorem addMilliseconds_ok (date : NaiveDate) {milliseconds : Nat}
    (inside : milliseconds < 86400000) :
    ∃ time, date.addMilliseconds milliseconds = .ok ⟨date, time⟩ ∧
      time.secs * 1000000000 + time.frac = milliseconds * 1000000 := by
  have same : date.numDaysFromCe + ((milliseconds / 86400000 : Nat) : Int) = date.numDaysFromCe := by
    omega
  have found : NaiveDate.fromNumDaysFromCeOpt
      (date.numDaysFromCe + (milliseconds : Int) / 86400000) = some date := by
    push_cast at same
    rw [same, NaiveDate.fromNumDaysFromCeOpt, dif_pos ⟨date.lower, date.upper⟩]
  unfold NaiveDate.addMilliseconds
  rw [found]
  refine ⟨_, rfl, ?_⟩
  dsimp only
  omega

theorem addDays_year1900 (lower : firstOfYear (-262143) ≤ firstOfYear 1900 + day)
    (upper : firstOfYear 1900 + day < firstOfYear 262143) :
    NaiveDate.year1900.addDays day = .ok ⟨firstOfYear 1900 + day, lower, upper⟩ := by
  have start : NaiveDate.year1900.numDaysFromCe = firstOfYear 1900 := rfl
  unfold NaiveDate.addDays NaiveDate.fromNumDaysFromCeOpt
  rw [start, dif_pos ⟨lower, upper⟩]

/-- The days keep their count, and the ticks are cut to whole milliseconds. -/
theorem decodeChronoDatetime_ok (valid : IsDatetime day ticks) :
    ∃ datetime, decodeChronoDatetime (datetimeBytes day ticks) = .ok datetime ∧
      datetime.offset = .utc ∧
      datetime.naiveUtc.date.numDaysFromCe = firstOfYear 1900 + day ∧
      datetime.naiveUtc.time.secs * 1000000000 + datetime.naiveUtc.time.frac =
        ticks * 1000 / 300 * 1000000 := by
  have lower := valid.lower
  have upper := valid.upper
  have ticksLt := valid.ticks_lt
  have start : firstOfYear 1900 = 693596 := by decide
  have early : firstOfYear 1753 = 639906 := by decide
  have late : firstOfYear 10000 = 3652060 := by decide
  have first : firstOfYear (-262143) = -95746129 := by decide
  have last : firstOfYear 262143 = 95745400 := by decide
  have width : (intBytes 4 day).length = 4 := intBytes_length 4 day
  have length : (datetimeBytes day ticks).length = 4 + 4 := by
    rw [datetimeBytes, List.length_append, width, leBytes_length]
  have split : splitArrays (datetimeBytes day ticks) 4 4 = .ok (intBytes 4 day, leBytes 4 ticks) := by
    rw [splitArrays_of_length length, datetimeBytes, List.take_left' width, List.drop_left' width]
  have days : leInt (intBytes 4 day) = day := leInt_intBytes (by omega) (by omega)
  have count : leNat (leBytes 4 ticks) = ticks := leNat_leBytes_of_lt (by omega)
  have added := addDays_year1900 (show firstOfYear (-262143) ≤ firstOfYear 1900 + day by omega)
    (show firstOfYear 1900 + day < firstOfYear 262143 by omega)
  obtain ⟨time, timed, total⟩ := addMilliseconds_ok
    ⟨firstOfYear 1900 + day, by omega, by omega⟩
    (show ticks * 1000 / 300 < 86400000 by omega)
  -- As a variable the addition is not computed with when the pair is taken apart.
  obtain ⟨addDays, addition⟩ : ∃ addDays, NaiveDate.year1900.addDays = addDays := ⟨_, rfl⟩
  rw [decodeChronoDatetime, split, Outcome.ok_bind, addition]
  dsimp only
  rw [← addition, days, count, added, Outcome.ok_bind, timed, Outcome.ok_bind]
  exact ⟨_, rfl, rfl, rfl, total⟩

theorem moment_eq (datetime : NaiveDateTime) {second : Int} {nanos : Nat}
    (seconds : datetime.date.numDaysFromCe * 86400 + datetime.time.secs = second)
    (frac : datetime.time.frac = nanos) : datetime.moment = second + nanos / 1000000000 := by
  rw [NaiveDateTime.moment, ← seconds, frac]
  push_cast
  ring

theorem moment_of_total {datetime : NaiveDateTime}
    (date : datetime.date.numDaysFromCe = firstOfYear 1900 + day)
    (total : datetime.time.secs * 1000000000 + datetime.time.frac =
      ticks * 1000 / 300 * 1000000) :
    datetime.moment = storedMoment day ticks - (ticks % 3 : Nat) / 3000 := by
  have thirds : ticks * 1000 / 300 * 3 + ticks % 3 = ticks * 10 := by omega
  have exactTotal : (datetime.time.secs : ℚ) * 1000000000 + datetime.time.frac =
      (ticks * 1000 / 300 : Nat) * 1000000 := by exact_mod_cast total
  have exactThirds : ((ticks * 1000 / 300 : Nat) : ℚ) * 3 + (ticks % 3 : Nat) = ticks * 10 := by
    exact_mod_cast thirds
  rw [NaiveDateTime.moment, storedMoment, date]
  linarith

theorem decodesTo (kind : typeInfo.kind = .dateTime) (valid : IsDatetime day ticks) :
    DecodesTo typeInfo day ticks (storedMoment day ticks - (ticks % 3 : Nat) / 3000) := by
  obtain ⟨datetime, decoded, utc, date, total⟩ := decodeChronoDatetime_ok valid
  have moment := moment_of_total date total
  have eight : (datetimeBytes day ticks).length = 8 := by
    rw [datetimeBytes, List.length_append, intBytes_length, leBytes_length]
  have fixedOffset : DateTime.decode (.new typeInfo (some (datetimeBytes day ticks))) =
      .ok datetime := by
    simp only [DateTime.decode, MssqlValue.new, nonNullBytes, Outcome.ofExcept, Outcome.ok_bind, kind,
      eight, decoded]
  obtain ⟨naive, isLocal, seconds, frac⟩ := naiveLocal_ok datetime (.inl utc)
  refine ⟨⟨datetime, fixedOffset, moment⟩, ⟨{ datetime with offset := .utc }, ?_, moment⟩,
    ⟨naive, ?_, ?_⟩⟩
  · rw [DateTime.decodeUtc, fixedOffset]
    rfl
  · have taken : NaiveDateTime.decode (.new typeInfo (some (datetimeBytes day ticks))) =
        DateTime.decode (.new typeInfo (some (datetimeBytes day ticks))) >>= DateTime.naiveLocal := by
      simp only [NaiveDateTime.decode, MssqlValue.new, nonNullBytes, Outcome.ofExcept,
        Outcome.ok_bind, kind]
    rw [taken, fixedOffset, Outcome.ok_bind, isLocal]
  · have zero : datetime.offset.localMinusUtc = 0 := by rw [utc]; rfl
    rw [zero, Int.add_zero] at seconds
    rw [moment_eq naive seconds frac, ← moment, moment_eq datetime.naiveUtc rfl rfl]

theorem DecodesTo.unique {moment other : ℚ} (one : DecodesTo typeInfo day ticks moment)
    (two : DecodesTo typeInfo day ticks other) : moment = other := by
  obtain ⟨datetime, decoded, rfl⟩ := one.naive
  obtain ⟨again, decodedAgain, rfl⟩ := two.naive
  rw [decoded] at decodedAgain
  rw [Outcome.ok.inj decodedAgain]

theorem near_iff (ticks : Nat) (moment : ℚ) :
    |moment - (ticks % 3 : Nat) / 3000 - moment| ≤ 1 / 2000 ↔ ticks % 3 ≠ 2 := by
  have distance : |moment - (ticks % 3 : Nat) / 3000 - moment| = ((ticks % 3 : Nat) : ℚ) / 3000 := by
    have thirds : (0 : ℚ) ≤ ((ticks % 3 : Nat) : ℚ) / 3000 := by positivity
    rw [sub_sub_cancel_left, abs_neg, abs_of_nonneg thirds]
  have small := Nat.mod_lt ticks (show 0 < 3 by decide)
  rw [distance]
  generalize ticks % 3 = thirds at *
  have cases : thirds = 0 ∨ thirds = 1 ∨ thirds = 2 := by omega
  rcases cases with rfl | rfl | rfl
  · norm_num
  · norm_num
  · norm_num

theorem storedMoment_lt {nextDay : Int} {nextTicks : Nat} (valid : IsDatetime day ticks)
    (later : day < nextDay ∨ day = nextDay ∧ ticks < nextTicks) :
    storedMoment day ticks + 1 / 300 ≤ storedMoment nextDay nextTicks := by
  have inside : (ticks : ℚ) + 1 ≤ 86400 * 300 := by exact_mod_cast valid.ticks_lt
  rw [storedMoment, storedMoment]
  rcases later with days | ⟨rfl, more⟩
  · have whole : ((firstOfYear 1900 + day : Int) : ℚ) + 1 ≤ (firstOfYear 1900 + nextDay : Int) := by
      exact_mod_cast (by omega : firstOfYear 1900 + day + 1 ≤ firstOfYear 1900 + nextDay)
    have positive : (0 : ℚ) ≤ nextTicks := by positivity
    linarith
  · have whole : (ticks : ℚ) + 1 ≤ nextTicks := by exact_mod_cast more
    linarith

end decoding

/-- A DATETIME decodes to the nearest millisecond exactly when its tick is not two thirds of a
millisecond past one; the order of the values is kept always. -/
theorem legacy_datetime_nearest_iff (typeInfo : MssqlTypeInfo) (kind : typeInfo.kind = .dateTime) :
    (∀ day ticks, IsDatetime day ticks → (DecodesNearest typeInfo day ticks ↔ ticks % 3 ≠ 2)) ∧
    ∀ day ticks nextDay nextTicks, IsDatetime day ticks → IsDatetime nextDay nextTicks →
      (day < nextDay ∨ day = nextDay ∧ ticks < nextTicks) →
      ∃ moment next, DecodesTo typeInfo day ticks moment ∧
        DecodesTo typeInfo nextDay nextTicks next ∧ moment < next := by
  constructor
  · intro day ticks valid
    rw [← near_iff ticks (storedMoment day ticks)]
    constructor
    · rintro ⟨moment, decodes, near⟩
      rwa [decodes.unique (decodesTo kind valid)] at near
    · intro near
      exact ⟨_, decodesTo kind valid, near⟩
  · intro day ticks nextDay nextTicks valid nextValid later
    refine ⟨_, _, decodesTo kind valid, decodesTo kind nextValid, ?_⟩
    have ahead := storedMoment_lt valid later
    have behind : (0 : ℚ) ≤ (ticks % 3 : Nat) := by positivity
    have missing : ((nextTicks % 3 : Nat) : ℚ) ≤ 2 := by
      exact_mod_cast Nat.le_of_lt_succ (Nat.mod_lt nextTicks (by decide))
    linarith

def datetimeColumn : MssqlTypeInfo := .withProtocol .dateTime (.new .dateTimeN 8)

/-- The tick of 3.333 ms. -/
theorem legacy_datetime_nearest_one : DecodesNearest datetimeColumn 0 1 := by
  have valid : IsDatetime 0 1 := ⟨by decide, by decide, by decide⟩
  exact ((legacy_datetime_nearest_iff datetimeColumn rfl).1 0 1 valid).mpr (by decide)

/-- The tick of 6.667 ms is decoded as 6 ms. -/
theorem legacy_datetime_truncates : ¬∀ typeInfo : MssqlTypeInfo, typeInfo.kind = .dateTime →
    ∀ day ticks, IsDatetime day ticks → DecodesNearest typeInfo day ticks := by
  intro always
  have valid : IsDatetime 0 2 := ⟨by decide, by decide, by decide⟩
  obtain ⟨moment, decodes, near⟩ := always datetimeColumn rfl 0 2 valid
  rw [decodes.unique (decodesTo rfl valid), near_iff] at near
  exact near rfl

end SqlxSqlserver.Driver

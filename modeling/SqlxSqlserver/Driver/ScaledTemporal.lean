import SqlxSqlserver.Driver.DateTimeOffset

/-! Dates and times of every scale, read exactly and alike by both date libraries. -/

namespace SqlxSqlserver.Driver
open Foundation Protocol

section times
variable {scale : UInt8} {width ticks : Nat}

theorem TimeCrate.decodeTimeTime_err (low : scale.toNat ≤ 9) (narrow : width ≤ 8)
    (fits : ticks < 256 ^ width) (outside : 86400 * 1000000000 ≤ ticks * 10 ^ (9 - scale.toNat))
    (bounded : ticks * 10 ^ (9 - scale.toNat) < 2 ^ 32 * 1000000000) :
    ∃ error, decodeTimeTime scale (leBytes width ticks) = .err error := by
  have scaled := scaleTicks_ok low (show ticks * 10 ^ (9 - scale.toNat) < 2 ^ 64 by omega)
  rw [decodeTimeTime, accumulate_leBytes narrow fits, scaled, Outcome.ok_bind]
  generalize ticks * 10 ^ (9 - scale.toNat) = nanos at *
  have hours : ¬nanos / 1000000000 / 3600 < 24 := by omega
  have minutes : nanos / 1000000000 % 3600 / 60 < 2 ^ 8 := by omega
  have seconds : nanos / 1000000000 % 60 < 2 ^ 8 := by omega
  rw [unsignedTryFrom_ok (show nanos % 1000000000 < 2 ^ 32 by omega), Outcome.ofExcept,
    Outcome.ok_bind]
  by_cases byte : nanos / 1000000000 / 3600 < 2 ^ 8
  · rw [unsignedTryFrom_ok byte, Outcome.ofExcept, Outcome.ok_bind, unsignedTryFrom_ok minutes,
      Outcome.ofExcept, Outcome.ok_bind, unsignedTryFrom_ok seconds, Outcome.ofExcept,
      Outcome.ok_bind, Time.fromHmsNano, dif_neg hours]
    exact ⟨_, rfl⟩
  · rw [unsignedTryFrom, if_neg byte]
    exact ⟨_, rfl⟩

end times

/-- The time is refused by both libraries, also behind a date. -/
def RefusesTicks (scale : UInt8) (width ticks day : Nat) : Prop :=
  (∃ error, decodeChronoDatetime2 scale (scaledBytes width ticks day) = .err error) ∧
  (∃ error, TimeCrate.decodeTimeDatetime2 scale (scaledBytes width ticks day) = .err error) ∧
  (∃ error, decodeChronoTime scale (leBytes width ticks) = .err error) ∧
  ∃ error, TimeCrate.decodeTimeTime scale (leBytes width ticks) = .err error

/-- Scaled dates and times are exact in both libraries below a day of ticks, and refused by both from
a day on. -/
theorem decodeDatetime2_exact (scale : UInt8) (width : Nat)
    (sized : TypeInfo.scaledSize scale = some width) (ticks : Nat) (fits : ticks < 256 ^ width)
    (day : Nat) (day_lt : day < 3652059) :
    (ticks < 86400 * 10 ^ scale.toNat →
      ReadsClock scale width ticks day (clockOf day (ticks * 10 ^ (9 - scale.toNat)))) ∧
    (86400 * 10 ^ scale.toNat ≤ ticks → RefusesTicks scale width ticks day) := by
  have widths := TypeInfo.scaledSize_cases sized
  have low : scale.toNat ≤ 9 := by omega
  have narrow : width ≤ 8 := by omega
  constructor
  · exact fun inside =>
      readsClock_of_lt low narrow fits ((nanos_lt_iff low ticks).mpr inside) day_lt
  · intro outside
    have nanos : 86400 * 1000000000 ≤ ticks * 10 ^ (9 - scale.toNat) := by
      rwa [← not_lt, nanos_lt_iff low, not_lt]
    have bounded := nanos_bounded sized fits
    obtain ⟨date, dated, _⟩ := decodeChronoDate_leBytes day_lt
    obtain ⟨otherDate, otherDated, _⟩ := TimeCrate.decodeTimeDate_leBytes day_lt
    obtain ⟨message, refused⟩ := decodeChronoTime_err low narrow fits nanos bounded
    obtain ⟨error, otherRefused⟩ := TimeCrate.decodeTimeTime_err low narrow fits nanos bounded
    refine ⟨⟨.message message, ?_⟩, ⟨error, ?_⟩, ⟨_, refused⟩, ⟨_, otherRefused⟩⟩
    · rw [decodeChronoDatetime2_scaledBytes, dated, Outcome.ok_bind, refused]
      rfl
    · rw [TimeCrate.decodeTimeDatetime2_scaledBytes, otherDated, Outcome.ok_bind, otherRefused]
      rfl

theorem decodeDatetime2_exact_midnight :
    ReadsClock 3 4 86399999 0 (clockOf 0 (86399999 * 10 ^ 6)) ∧ RefusesTicks 3 4 86400000 0 :=
  ⟨(decodeDatetime2_exact 3 4 rfl 86399999 (by decide) 0 (by decide)).1 (by decide),
    (decodeDatetime2_exact 3 4 rfl 86400000 (by decide) 0 (by decide)).2 (by decide)⟩

end SqlxSqlserver.Driver

import SqlxSqlserver.Driver.Value

/-! Dates and times as bytes, for both date libraries: days in three bytes, the ticks of a day and
an offset in minutes. Days count in the proleptic Gregorian calendar, in which the first of January of
the year 1 is day 1, and seconds carry over midnight. -/

namespace SqlxSqlserver.Driver
open Foundation Protocol

section calendar

def firstOfYear (year : Int) : Int :=
  365 * (year - 1) + (year - 1) / 4 - (year - 1) / 100 + (year - 1) / 400 + 1

example : firstOfYear 1 = 1 := by decide
example : firstOfYear 1970 = 719163 := by decide

def carry (day second : Int) : Int × Nat := (day + second / 86400, (second % 86400).toNat)

theorem carry_second_lt (day second : Int) : (carry day second).2 < 86400 := by
  unfold carry
  dsimp only
  omega

theorem carry_total (day second : Int) :
    (carry day second).1 * 86400 + (carry day second).2 = day * 86400 + second := by
  unfold carry
  dsimp only
  omega

end calendar

def readI24Le : Bytes → Outcome BoxDynError Int
  | low :: middle :: high :: _ => .ok (leInt [low, middle, high])
  | bytes => .panic s!"index out of bounds: the len is {bytes.length} but the index is {bytes.length}"

def writeI24Le (value : Int) : Bytes := (intBytes 4 value).take 3

/-- The loop over the reversed bytes: the shift drops what leaves the `u64`. -/
def accumulate (data : Bytes) : Nat :=
  data.foldr (fun byte acc => acc * 2 ^ 8 % 2 ^ 64 + byte.toNat) 0

/-- `acc *= 10_u64.pow(9 - u32::from(scale))`: the ticks in nanoseconds. -/
def scaleTicks (scale : UInt8) (acc : Nat) : Outcome BoxDynError Nat :=
  if 9 < scale.toNat then .panic "attempt to subtract with overflow"
  else if acc * 10 ^ (9 - scale.toNat) < 2 ^ 64 then .ok (acc * 10 ^ (9 - scale.toNat))
  else .panic "attempt to multiply with overflow"

def lenMinus (bytes : Bytes) (count : Nat) : Outcome BoxDynError Nat :=
  if count ≤ bytes.length then .ok (bytes.length - count)
  else .panic "attempt to subtract with overflow"

def unsignedTryFrom (bits value : Nat) : Except BoxDynError Nat :=
  if value < 2 ^ bits then .ok value else .error .tryFromInt

section days

@[simp] theorem writeI24Le_eq (value : Int) : writeI24Le value = intBytes 3 value :=
  intBytes_take 3 1 value

theorem readI24Le_of_length {bytes : Bytes} (three : bytes.length = 3) :
    readI24Le bytes = .ok (leInt bytes) := by
  match bytes, three with
  | [low, middle, high], _ => rfl

/-- A day count is read back modulo 2^24, around zero. -/
theorem readI24Le_writeI24Le (value : Int) :
    readI24Le (writeI24Le value) = .ok (value.bmod (2 ^ 24)) := by
  rw [writeI24Le_eq, readI24Le_of_length (intBytes_length 3 value), leInt_intBytes_bmod]
  rfl

theorem readI24Le_leBytes {day : Nat} (small : day < 2 ^ 23) :
    readI24Le (leBytes 3 day) = .ok day := by
  rw [readI24Le_of_length (leBytes_length 3 day), leInt_leBytes (by omega)]

end days

section ticks

theorem accumulate_eq (data : Bytes) : accumulate data = leNat data % 2 ^ 64 := by
  induction data with
  | nil => rfl
  | cons byte data ih =>
    have step : accumulate (byte :: data) = accumulate data * 2 ^ 8 % 2 ^ 64 + byte.toNat := rfl
    have small := byte.toNat_lt
    rw [step, ih, leNat]
    omega

theorem accumulate_leBytes {width value : Nat} (narrow : width ≤ 8) (fits : value < 256 ^ width) :
    accumulate (leBytes width value) = value := by
  have wide : 256 ^ width ≤ 256 ^ 8 := Nat.pow_le_pow_right (by decide) narrow
  rw [accumulate_eq, leNat_leBytes_of_lt fits]
  exact Nat.mod_eq_of_lt (by omega)

theorem scaleTicks_ok {scale : UInt8} (low : scale.toNat ≤ 9) {acc : Nat}
    (fits : acc * 10 ^ (9 - scale.toNat) < 2 ^ 64) :
    scaleTicks scale acc = .ok (acc * 10 ^ (9 - scale.toNat)) := by
  rw [scaleTicks, if_neg (by omega), if_pos fits]

theorem nanos_lt_iff {scale : UInt8} (low : scale.toNat ≤ 9) (ticks : Nat) :
    ticks * 10 ^ (9 - scale.toNat) < 86400 * 1000000000 ↔ ticks < 86400 * 10 ^ scale.toNat := by
  have positive : 0 < 10 ^ (9 - scale.toNat) := by positivity
  have whole : 10 ^ scale.toNat * 10 ^ (9 - scale.toNat) = 1000000000 := by
    rw [← pow_add, Nat.add_sub_of_le low]
    rfl
  rw [← whole, ← mul_assoc, Nat.mul_lt_mul_right positive]

theorem nanos_bounded {scale : UInt8} {width : Nat} (sized : TypeInfo.scaledSize scale = some width)
    {ticks : Nat} (fits : ticks < 256 ^ width) :
    ticks * 10 ^ (9 - scale.toNat) < 2 ^ 32 * 1000000000 := by
  have power : ∀ bound, 9 - scale.toNat ≤ bound → 10 ^ (9 - scale.toNat) ≤ 10 ^ bound :=
    fun bound => Nat.pow_le_pow_right (by decide)
  have product : ∀ bound, 9 - scale.toNat ≤ bound →
      ticks * 10 ^ (9 - scale.toNat) < 256 ^ width * 10 ^ bound :=
    fun bound small => Nat.mul_lt_mul_of_lt_of_le fits (power bound small) (by positivity)
  rcases TypeInfo.scaledSize_cases sized with ⟨rfl, _⟩ | ⟨rfl, three, _⟩ | ⟨rfl, five, _⟩
  · exact (product 9 (by omega)).trans (by decide)
  · exact (product 6 (by omega)).trans (by decide)
  · exact (product 4 (by omega)).trans (by decide)

theorem lenMinus_append (front : Bytes) {back : Bytes} {count : Nat} (length : back.length = count) :
    lenMinus (front ++ back) count = .ok front.length := by
  have enough : count ≤ (front ++ back).length := by
    rw [List.length_append]
    omega
  rw [lenMinus, if_pos enough, List.length_append, length, Nat.add_sub_cancel]

theorem unsignedTryFrom_ok {bits value : Nat} (fits : value < 2 ^ bits) :
    unsignedTryFrom bits value = .ok value := if_pos fits

end ticks

end SqlxSqlserver.Driver

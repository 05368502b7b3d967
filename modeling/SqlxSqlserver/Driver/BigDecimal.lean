import Mathlib.Algebra.Field.Rat
import Mathlib.Algebra.Order.Field.Power
import Mathlib.Algebra.Order.Ring.Rat
import Mathlib.Data.Nat.Log
import SqlxSqlserver.Driver.DecimalInteger

/-! Big decimals as parameters: an integer of any size and a 64-bit scale, written as sixteen bytes
under a type with a scale of one byte. -/

namespace SqlxSqlserver.Driver
open Foundation Protocol

/-- What the encoder relies on in the integers of `num_bigint`: the bytes of a magnitude are
little-endian and as few as possible, but at least one. -/
class NumBigint where
  toBytesLe : Int → Bytes
  value : ∀ number, leNat (toBytesLe number) = number.natAbs
  shortest : ∀ number len, 0 < len →
    ((toBytesLe number).length ≤ len ↔ number.natAbs < 256 ^ len)

/-- `bigdecimal::BigDecimal`: the integer and the exponent of `as_bigint_and_exponent`. -/
structure BigDecimal where
  bigint : Int
  exponent : Int64
  deriving DecidableEq

namespace BigDecimal

def producedScale (self : BigDecimal) : UInt8 :=
  if 0 ≤ self.exponent.toInt ∧ self.exponent.toInt ≤ 255 then
    UInt8.ofNat self.exponent.toInt.toNat
  else 0

def produces (self : BigDecimal) : MssqlTypeInfo := .decimalWithScale self.producedScale

/-- The integer after a negative exponent was multiplied in. The negation is checked in debug
builds. -/
def scaledUp (self : BigDecimal) : Outcome BoxDynError Int :=
  if self.exponent.toInt < 0 then
    if self.exponent.toInt = -2 ^ 63 then .panic "attempt to negate with overflow"
    else if -self.exponent.toInt < 2 ^ 32 then
      .ok (self.bigint * 10 ^ (-self.exponent.toInt).toNat)
    else .ok self.bigint
  else .ok self.bigint

/-- The array of sixteen bytes, which stays zero when the bytes are not copied into it. -/
def mantissa (exponent : Int64) (bytes : Bytes) : Bytes :=
  if exponent.toInt ≤ 255 ∧ bytes.length ≤ 16 then
    bytes ++ List.replicate (16 - bytes.length) 0
  else List.replicate 16 0

def encode [NumBigint] (self : BigDecimal) : Outcome BoxDynError Bytes := do
  let sign : UInt8 := if self.bigint < 0 then 0 else 1
  let bigint ← self.scaledUp
  return sign :: mantissa self.exponent (NumBigint.toBytesLe bigint)

def decode (value : MssqlValue) : Outcome BoxDynError BigDecimal := do
  let bytes ← .ofExcept (nonNullBytes value "BigDecimal")
  match value.typeInfo.kind with
  | .decimal =>
    let (sign, numerator) ← .ofExcept (decodeNumericBytes bytes)
    let numerator : Int := if sign < 0 then -numerator else numerator
    return ⟨numerator, Int64.ofNat value.typeInfo.scale.toNat⟩
  | .money => return ⟨← .ofExcept (decodeMoneyBytes bytes), 4⟩
  | other => .err (.message ("expected SQL Server numeric type, got " ++ other.debug))

def toRat (self : BigDecimal) : ℚ := self.bigint * 10 ^ (-self.exponent.toInt)

def Survives [NumBigint] (self : BigDecimal) : Prop :=
  (∃ error, self.encode = .err error) ∨
    ∃ bytes decoded, self.encode = .ok bytes ∧
      decode { typeInfo := self.produces, data := some bytes } = .ok decoded ∧
      decoded.toRat = self.toRat

section mantissa

theorem leNat_padded (bytes : Bytes) (count : Nat) :
    leNat (bytes ++ List.replicate count 0) = leNat bytes := by
  have zeros : leNat (List.replicate count 0) = 0 := by
    induction count with
    | zero => rfl
    | succ count ih => rw [List.replicate_succ, leNat, ih]; rfl
  induction bytes with
  | nil => exact zeros
  | cons byte bytes ih => rw [List.cons_append, leNat, ih, leNat]

@[simp] theorem mantissa_length (exponent : Int64) (bytes : Bytes) :
    (mantissa exponent bytes).length = 16 := by
  unfold mantissa
  split
  next both =>
    rw [List.length_append, List.length_replicate]
    omega
  next => rw [List.length_replicate]

def stored (exponent : Int64) (bigint : Int) : Int :=
  if exponent.toInt ≤ 255 ∧ bigint.natAbs < 2 ^ 128 then bigint else 0

theorem leNat_mantissa [NumBigint] (exponent : Int64) (bigint : Int) :
    leNat (mantissa exponent (NumBigint.toBytesLe bigint)) = (stored exponent bigint).natAbs := by
  have room : (NumBigint.toBytesLe bigint).length ≤ 16 ↔ bigint.natAbs < 2 ^ 128 :=
    NumBigint.shortest bigint 16 (by decide)
  simp only [mantissa, stored, room]
  split
  · rw [leNat_padded, NumBigint.value]
  · exact leNat_padded [] 16

end mantissa

section survival
variable {self : BigDecimal}

theorem decode_numeric {sign : UInt8} (signed : sign = 0 ∨ sign = 1) {bytes : Bytes}
    (short : bytes.length ≤ 16) (scale : UInt8) :
    decode { typeInfo := .decimalWithScale scale, data := some (sign :: bytes) } =
      .ok ⟨signOf sign * leNat bytes, Int64.ofNat scale.toNat⟩ := by
  have numeric := decodeNumericBytes_ok signed short
  have negated : (if signOf sign < 0 then -(leNat bytes : Int) else leNat bytes) =
      signOf sign * leNat bytes := by
    rcases signed with rfl | rfl
    · exact (neg_one_mul _).symm
    · exact (one_mul _).symm
  rw [← negated]
  simp only [decode, nonNullBytes, Outcome.ofExcept, Outcome.ok_bind, numeric]
  rfl

theorem decode_encode [NumBigint] {bigint : Int} (scaled : self.scaledUp = .ok bigint)
    (sameSign : bigint < 0 ↔ self.bigint < 0) :
    ∃ bytes, self.encode = .ok bytes ∧
      decode { typeInfo := self.produces, data := some bytes } =
        .ok ⟨stored self.exponent bigint, Int64.ofNat self.producedScale.toNat⟩ := by
  have encoded : self.encode = .ok ((if self.bigint < 0 then 0 else 1) ::
      mantissa self.exponent (NumBigint.toBytesLe bigint)) := by
    rw [encode, scaled]
    rfl
  have signed : (if self.bigint < 0 then 0 else 1 : UInt8) = 0 ∨
      (if self.bigint < 0 then 0 else 1 : UInt8) = 1 := by
    split
    · exact .inl rfl
    · exact .inr rfl
  have decoded := decode_numeric signed
    (mantissa_length self.exponent (NumBigint.toBytesLe bigint)).le self.producedScale
  rw [leNat_mantissa] at decoded
  have whole : signOf (if self.bigint < 0 then 0 else 1) * (stored self.exponent bigint).natAbs =
      stored self.exponent bigint := by
    have kept : stored self.exponent bigint = 0 ∨ stored self.exponent bigint = bigint := by
      unfold stored
      split
      · exact .inr rfl
      · exact .inl rfl
    by_cases negative : self.bigint < 0
    · rw [if_pos negative, show signOf 0 = -1 from rfl]
      omega
    · rw [if_neg negative, show signOf 1 = 1 from rfl]
      omega
  rw [whole] at decoded
  exact ⟨_, encoded, decoded⟩

theorem encode_ne_err [NumBigint] (error : BoxDynError) : self.encode ≠ .err error := by
  intro failed
  unfold encode scaledUp at failed
  split_ifs at failed

theorem producedScale_eq : Int64.ofNat self.producedScale.toNat =
    if 0 ≤ self.exponent.toInt ∧ self.exponent.toInt ≤ 255 then self.exponent else 0 := by
  unfold producedScale
  split
  next byte =>
    have small : self.exponent.toInt.toNat < 256 := by omega
    apply Int64.toInt_inj.mp
    rw [UInt8.toNat_ofNat_of_lt' small, Int64.toInt_ofNat_of_lt (by omega),
      Int.toNat_of_nonneg byte.1]
  next => rfl

/-- The numbers that are stored as they are: zero, and those whose integer at a scale of one byte
has at most 128 bits. -/
def Storable (self : BigDecimal) : Prop :=
  self.bigint = 0 ∨
  (0 ≤ self.exponent.toInt ∧ self.exponent.toInt ≤ 255 ∧ self.bigint.natAbs < 2 ^ 128) ∨
  (-2 ^ 32 < self.exponent.toInt ∧ self.exponent.toInt < 0 ∧
    self.bigint.natAbs * 10 ^ (-self.exponent.toInt).toNat < 2 ^ 128)

theorem toRat_ne_zero (nonzero : self.bigint ≠ 0) : self.toRat ≠ 0 :=
  mul_ne_zero (Int.cast_ne_zero.mpr nonzero) (zpow_ne_zero _ (by norm_num))

theorem toRat_zero (exponent : Int64) : (⟨0, exponent⟩ : BigDecimal).toRat = 0 := by
  rw [toRat, Int.cast_zero, zero_mul]

theorem toRat_written (bigint : Int) {count : Nat} {exponent : Int64}
    (negated : -exponent.toInt = count) :
    (⟨bigint * 10 ^ count, 0⟩ : BigDecimal).toRat = (⟨bigint, exponent⟩ : BigDecimal).toRat := by
  simp only [toRat, negated, Int64.toInt_zero, neg_zero, zpow_zero, mul_one, zpow_natCast]
  norm_cast

theorem stored_of_fits {exponent : Int64} {bigint : Int} (low : exponent.toInt ≤ 255)
    (fits : bigint.natAbs < 2 ^ 128) : stored exponent bigint = bigint := if_pos ⟨low, fits⟩

theorem stored_of_not {exponent : Int64} {bigint : Int}
    (lost : ¬(exponent.toInt ≤ 255 ∧ bigint.natAbs < 2 ^ 128)) : stored exponent bigint = 0 :=
  if_neg lost

section cases
variable {bigint : Int}

theorem toRat_eq_iff_near (zero : self.bigint ≠ 0) (negative : self.exponent.toInt < 0)
    (near : -self.exponent.toInt < 2 ^ 32) (scaled : self.scaledUp = .ok bigint) :
    (⟨stored self.exponent bigint, 0⟩ : BigDecimal).toRat = self.toRat ↔ self.Storable := by
  have written : bigint = self.bigint * 10 ^ (-self.exponent.toInt).toNat := by
    rw [scaledUp, if_pos negative, if_neg (by omega), if_pos near] at scaled
    exact (Outcome.ok.inj scaled).symm
  have size : bigint.natAbs = self.bigint.natAbs * 10 ^ (-self.exponent.toInt).toNat := by
    rw [written, Int.natAbs_mul, Int.natAbs_pow]
    rfl
  unfold Storable
  rw [← size]
  by_cases fits : bigint.natAbs < 2 ^ 128
  · apply iff_of_true
    · rw [stored_of_fits (by omega) fits, written]
      exact toRat_written self.bigint (Int.toNat_of_nonneg (by omega)).symm
    · exact .inr (.inr ⟨by omega, negative, fits⟩)
  · rw [stored_of_not fun both => fits both.2, toRat_zero]
    exact iff_of_false (toRat_ne_zero zero).symm (by omega)

/-- Beyond 32 bits the exponent is dropped. -/
theorem toRat_eq_iff_far (zero : self.bigint ≠ 0) (far : ¬-self.exponent.toInt < 2 ^ 32)
    (scaled : self.scaledUp = .ok bigint) :
    (⟨stored self.exponent bigint, 0⟩ : BigDecimal).toRat = self.toRat ↔ self.Storable := by
  have unscaled : bigint = self.bigint := by
    rw [scaledUp, if_pos (by omega)] at scaled
    split at scaled
    next => cases scaled
    next => exact (Outcome.ok.inj scaled).symm
  have wrong : (⟨self.bigint, 0⟩ : BigDecimal).toRat ≠ self.toRat := by
    intro equal
    have ten : (1 : ℚ) < 10 := by norm_num
    have large : (1 : ℚ) < 10 ^ (-self.exponent.toInt) := one_lt_zpow₀ ten (by omega)
    simp only [toRat, Int64.toInt_zero, neg_zero, zpow_zero, mul_one] at equal
    have one := mul_left_cancel₀ (Int.cast_ne_zero.mpr zero)
      ((mul_one (self.bigint : ℚ)).trans equal)
    exact large.ne one
  unfold Storable
  rw [unscaled]
  apply iff_of_false _ (by omega)
  by_cases fits : self.bigint.natAbs < 2 ^ 128
  · rwa [stored_of_fits (by omega) fits]
  · rw [stored_of_not fun both => fits both.2, toRat_zero]
    exact (toRat_ne_zero zero).symm

theorem toRat_eq_iff_positive (zero : self.bigint ≠ 0) (negative : ¬self.exponent.toInt < 0)
    (scaled : self.scaledUp = .ok bigint) :
    (⟨stored self.exponent bigint, if 0 ≤ self.exponent.toInt ∧ self.exponent.toInt ≤ 255 then
      self.exponent else 0⟩ : BigDecimal).toRat = self.toRat ↔ self.Storable := by
  have unscaled : bigint = self.bigint := by
    rw [scaledUp, if_neg negative] at scaled
    exact (Outcome.ok.inj scaled).symm
  unfold Storable
  rw [unscaled]
  by_cases storable : self.exponent.toInt ≤ 255 ∧ self.bigint.natAbs < 2 ^ 128
  · rw [if_pos ⟨by omega, storable.1⟩, stored_of_fits storable.1 storable.2]
    exact iff_of_true rfl (.inr (.inl ⟨by omega, storable⟩))
  · rw [stored_of_not storable, toRat_zero]
    exact iff_of_false (toRat_ne_zero zero).symm (by omega)

end cases

theorem toRat_eq_iff (self : BigDecimal) {bigint : Int} (scaled : self.scaledUp = .ok bigint) :
    (⟨stored self.exponent bigint, Int64.ofNat self.producedScale.toNat⟩ : BigDecimal).toRat =
      self.toRat ↔ self.Storable := by
  rw [producedScale_eq]
  by_cases zero : self.bigint = 0
  · have none : bigint = 0 := by
      unfold scaledUp at scaled
      rw [zero, Int.zero_mul] at scaled
      split_ifs at scaled <;> exact (Outcome.ok.inj scaled).symm
    have lost : stored self.exponent 0 = 0 := by
      unfold stored
      split <;> rfl
    have value : self.toRat = 0 := by rw [toRat, zero, Int.cast_zero, zero_mul]
    rw [none, lost, toRat_zero, value]
    exact iff_of_true rfl (.inl zero)
  · by_cases negative : self.exponent.toInt < 0
    · rw [if_neg (by omega)]
      by_cases near : -self.exponent.toInt < 2 ^ 32
      · exact toRat_eq_iff_near zero negative near scaled
      · exact toRat_eq_iff_far zero near scaled
    · exact toRat_eq_iff_positive zero negative scaled

/-- The numbers that the encoder handles: all but those with the lowest exponent. -/
theorem scaledUp_ok (negatable : self.exponent.toInt ≠ -2 ^ 63) :
    ∃ bigint, self.scaledUp = .ok bigint ∧ (bigint < 0 ↔ self.bigint < 0) := by
  unfold scaledUp
  split_ifs with negative near
  · refine ⟨_, rfl, ?_⟩
    have positive : (0 : Int) < 10 ^ (-self.exponent.toInt).toNat := by positivity
    rw [← not_le, ← not_le, mul_nonneg_iff_of_pos_right positive]
  · exact ⟨_, rfl, .rfl⟩
  · exact ⟨_, rfl, .rfl⟩

/-- A number that is written survives exactly when it is storable. -/
theorem survives_iff_storable [NumBigint] {bigint : Int} (scaled : self.scaledUp = .ok bigint)
    (sameSign : bigint < 0 ↔ self.bigint < 0) : self.Survives ↔ self.Storable := by
  have ⟨bytes, encoded, decoded⟩ := decode_encode scaled sameSign
  rw [← toRat_eq_iff self scaled]
  constructor
  · intro survives
    rcases survives with ⟨error, refused⟩ | ⟨other, result, written, read, equal⟩
    · exact absurd refused (encode_ne_err error)
    · cases encoded.symm.trans written
      cases decoded.symm.trans read
      exact equal
  · exact fun equal => .inr ⟨bytes, _, encoded, decoded, equal⟩

end survival

/-- A big decimal survives exactly when its exponent can be negated and it is storable. The
encoder refuses nothing: what is not storable becomes another number. -/
theorem survives_iff [NumBigint] (self : BigDecimal) :
    self.Survives ↔ self.exponent.toInt ≠ -2 ^ 63 ∧ self.Storable := by
  by_cases negatable : self.exponent.toInt = -2 ^ 63
  · have panics : self.encode = .panic "attempt to negate with overflow" := by
      rw [encode, scaledUp, if_pos (by omega), if_pos negatable]
      rfl
    apply iff_of_false
    · intro survives
      rcases survives with ⟨error, refused⟩ | ⟨bytes, decoded, encoded, _⟩
      · exact encode_ne_err error refused
      · cases panics.symm.trans encoded
    · exact fun both => both.1 negatable
  · have ⟨bigint, scaled, sameSign⟩ := scaledUp_ok negatable
    rw [survives_iff_storable scaled sameSign]
    exact (and_iff_right negatable).symm

instance documentedBytes : NumBigint where
  toBytesLe number := leBytes (Nat.log 256 number.natAbs + 1) number.natAbs
  value number := leNat_leBytes_of_lt (Nat.lt_pow_succ_log_self (by decide) _)
  shortest number len positive := by
    rw [leBytes_length]
    by_cases zero : number.natAbs = 0
    · rw [zero, Nat.log_zero_right]
      exact iff_of_true positive (by positivity)
    · rw [Nat.succ_le_iff, Nat.log_lt_iff_lt_pow (by decide) zero]

/-- 12.30, as the integer 1230 with the exponent 2, survives. -/
theorem survives_iff_cents : (⟨1230, 2⟩ : BigDecimal).Survives :=
  (survives_iff ⟨1230, 2⟩).mpr ⟨by decide, .inr (.inl (by decide))⟩

/-- The number 2^128 does not survive: it is stored as zero. -/
theorem not_survives : ¬∀ self : BigDecimal, self.Survives := by
  intro always
  have scaled : scaledUp ⟨2 ^ 128, 0⟩ = .ok (2 ^ 128) := rfl
  have storable := (survives_iff_storable scaled .rfl).mp (always ⟨2 ^ 128, 0⟩)
  have lost : ¬Storable ⟨2 ^ 128, 0⟩ := by
    unfold Storable
    decide
  exact lost storable

end BigDecimal
end SqlxSqlserver.Driver

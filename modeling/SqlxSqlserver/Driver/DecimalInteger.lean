import SqlxSqlserver.Driver.ScalarRoundTrip

/-! Integers read from decimal columns. The magnitude is narrowed before the sign is applied, so
that the types which reach beyond the signed 64-bit range lose the numbers out there. -/

namespace SqlxSqlserver.Driver
open Foundation Protocol

inductive IntegerType where
  | i8 | i16 | i32 | i64 | u8 | u16 | u32 | u64
  deriving DecidableEq, Repr

namespace IntegerType

def scalarType : IntegerType → ScalarType
  | .i8 => .i8
  | .i16 => .i16
  | .i32 => .i32
  | .i64 => .i64
  | .u8 => .u8
  | .u16 => .u16
  | .u32 => .u32
  | .u64 => .u64

def lower : IntegerType → Int
  | .i8 => -128
  | .i16 => -32768
  | .i32 => -2147483648
  | .i64 => -9223372036854775808
  | _ => 0

def upper : IntegerType → Int
  | .i8 => 127
  | .i16 => 32767
  | .i32 => 2147483647
  | .i64 => 9223372036854775807
  | .u8 => 255
  | .u16 => 65535
  | .u32 => 4294967295
  | .u64 => 18446744073709551615

end IntegerType

def Scalar.toInt : Scalar → Option Int
  | .i8 value => some value.toInt
  | .i16 value => some value.toInt
  | .i32 value => some value.toInt
  | .i64 value => some value.toInt
  | .u8 value => some value.toNat
  | .u16 value => some value.toNat
  | .u32 value => some value.toNat
  | .u64 value => some value.toNat
  | _ => none

def signOf (sign : UInt8) : Int := if sign = 0 then -1 else 1

def wholePart (mantissa : Bytes) (scale : UInt8) : Nat := leNat mantissa / 10 ^ scale.toNat

/-- A decimal truncated toward zero. -/
def truncated (sign : UInt8) (mantissa : Bytes) (scale : UInt8) : Int :=
  (signOf sign * leNat mantissa).tdiv (10 ^ scale.toNat)

/-- The value is read as the number when the type holds it, and refused otherwise. -/
def ReadsExactly (type : IntegerType) (value : MssqlValue) (number : Int) : Prop :=
  (type.lower ≤ number ∧ number ≤ type.upper → ∃ scalar,
    type.scalarType.decode value = .ok scalar ∧ scalar.type = type.scalarType ∧
      scalar.toInt = some number) ∧
  (¬(type.lower ≤ number ∧ number ≤ type.upper) → ∃ error,
    type.scalarType.decode value = .err error)

section numerator

theorem dropTrailingZeros_div (scale numerator : Nat) :
    (dropTrailingZeros scale numerator).1 ≤ scale ∧
      (dropTrailingZeros scale numerator).2 / 10 ^ (dropTrailingZeros scale numerator).1 =
        numerator / 10 ^ scale := by
  induction scale generalizing numerator with
  | zero => exact ⟨le_refl _, rfl⟩
  | succ scale ih =>
    rw [dropTrailingZeros]
    by_cases zero : numerator % 10 = 0
    · have ⟨smaller, quotient⟩ := ih (numerator / 10)
      rw [if_pos zero]
      constructor
      · omega
      · rw [quotient, Nat.div_div_eq_div_mul, pow_succ']
    · rw [if_neg zero]
      exact ⟨le_refl _, rfl⟩

theorem decodeNumericBytes_ok {sign : UInt8} (signed : sign = 0 ∨ sign = 1) {mantissa : Bytes}
    (short : mantissa.length ≤ 16) :
    decodeNumericBytes (sign :: mantissa) = .ok (signOf sign, leNat mantissa) := by
  rcases signed with rfl | rfl
  · simp only [decodeNumericBytes, if_neg (Nat.not_lt.mpr short)]
    rfl
  · simp only [decodeNumericBytes, if_neg (Nat.not_lt.mpr short)]
    rfl

theorem pow10_ok {scale : Nat} (small : scale ≤ 38) :
    (pow10 scale : Outcome BoxDynError Nat) = .ok (10 ^ scale) := by
  have bound : 10 ^ scale ≤ 10 ^ 38 := Nat.pow_le_pow_right (by decide) small
  have room : 10 ^ 38 < 2 ^ 128 := by decide
  exact if_pos (Nat.lt_of_le_of_lt bound room)

theorem narrow_signed (magnitude : Nat) (sign : Int) :
    (do
      let value ← Outcome.ofExcept (i64TryFrom magnitude)
      return value * sign : Outcome BoxDynError Int) =
      if magnitude < 2 ^ 63 then .ok (magnitude * sign) else .err .tryFromInt := by
  rw [i64TryFrom]
  by_cases fits : magnitude < 2 ^ 63
  · rw [if_pos fits, if_pos (by omega)]
    rfl
  · rw [if_neg fits, if_neg (by omega)]
    rfl

theorem divideByScale_ok {scale : Nat} (small : scale ≤ 38) (numerator : Nat) :
    divideByScale scale numerator = .ok (numerator / 10 ^ scale) := by
  rw [divideByScale]
  by_cases positive : 0 < scale
  · rw [if_pos positive, pow10_ok small, Outcome.map_ok]
  · have none : scale = 0 := by omega
    rw [if_neg positive, none, pow_zero, Nat.div_one]
    rfl

/-- The whole part is narrowed, and then the sign is applied. The power of ten does not overflow. -/
theorem decodeNumericInteger_eq {sign : UInt8} (signed : sign = 0 ∨ sign = 1) {mantissa : Bytes}
    (short : mantissa.length ≤ 16) {scale : UInt8} (scaled : scale.toNat ≤ 38) :
    decodeNumericInteger (sign :: mantissa) scale =
      if wholePart mantissa scale < 2 ^ 63 then .ok (wholePart mantissa scale * signOf sign)
      else .err .tryFromInt := by
  have ⟨smaller, quotient⟩ := dropTrailingZeros_div scale.toNat (leNat mantissa)
  have divided := divideByScale_ok (smaller.trans scaled)
    (dropTrailingZeros scale.toNat (leNat mantissa)).2
  rw [quotient] at divided
  rw [← narrow_signed, wholePart, decodeNumericInteger, decodeNumericBytes_ok signed short,
    Outcome.ofExcept, Outcome.ok_bind]
  dsimp only
  rw [divided, Outcome.ok_bind]

theorem truncated_eq (sign : UInt8) (mantissa : Bytes) (scale : UInt8) :
    truncated sign mantissa scale = wholePart mantissa scale * signOf sign := by
  have cast : ((10 : Int) ^ scale.toNat) = ((10 ^ scale.toNat : Nat) : Int) := by norm_cast
  have divided : (leNat mantissa : Int).tdiv (10 ^ scale.toNat) = wholePart mantissa scale := by
    rw [wholePart, cast]
    rfl
  unfold truncated signOf
  split
  · rw [neg_one_mul, mul_neg_one, Int.neg_tdiv, divided]
  · rw [one_mul, mul_one, divided]

end numerator

section exactness

theorem tryFrom_refused {lower upper value : Int} (outside : ¬(lower ≤ value ∧ value ≤ upper)) :
    tryFrom lower upper value = .error .tryFromInt := if_neg outside

theorem readsExactly_narrowed (type : IntegerType) {value : MssqlValue} {number : Int}
    {rustType : String} (make : Int → Scalar) (read : decodeInteger value rustType = .ok number)
    (decoder : type.scalarType.decode value = do
      return make (← .ofExcept (tryFrom type.lower type.upper (← decodeInteger value rustType))))
    (kept : type.lower ≤ number → number ≤ type.upper →
      (make number).type = type.scalarType ∧ (make number).toInt = some number) :
    ReadsExactly type value number := by
  rw [read, Outcome.ok_bind] at decoder
  constructor
  · intro inside
    rw [tryFrom_ok inside.1 inside.2] at decoder
    exact ⟨make number, decoder, kept inside.1 inside.2⟩
  · intro outside
    rw [tryFrom_refused outside] at decoder
    exact ⟨_, decoder⟩

theorem readsExactly_of_read (type : IntegerType) {value : MssqlValue} {number : Int}
    (wide : -2 ^ 63 ≤ number ∧ number < 2 ^ 63)
    (read : ∀ rustType, decodeInteger value rustType = .ok number) :
    ReadsExactly type value number := by
  have natural : ∀ bound : Nat, 0 ≤ number → number ≤ bound →
      number.toNat < bound + 1 ∧ (number.toNat : Int) = number := by
    intro bound low high
    exact ⟨by omega, Int.toNat_of_nonneg low⟩
  cases type with
  | i8 =>
    apply readsExactly_narrowed .i8 (fun n => .i8 (.ofInt n)) (read "i8") rfl
    intro low high
    exact ⟨rfl, congrArg some (Int8.toInt_ofInt_of_le low (Int.lt_add_one_of_le high))⟩
  | i16 =>
    apply readsExactly_narrowed .i16 (fun n => .i16 (.ofInt n)) (read "i16") rfl
    intro low high
    exact ⟨rfl, congrArg some (Int16.toInt_ofInt_of_le low (Int.lt_add_one_of_le high))⟩
  | i32 =>
    apply readsExactly_narrowed .i32 (fun n => .i32 (.ofInt n)) (read "i32") rfl
    intro low high
    exact ⟨rfl, congrArg some (Int32.toInt_ofInt_of_le low (Int.lt_add_one_of_le high))⟩
  | i64 =>
    have decoded : ScalarType.decode .i64 value = .ok (.i64 (.ofInt number)) := by
      rw [ScalarType.decode, read]
      rfl
    constructor
    · exact fun _ => ⟨_, decoded, rfl, congrArg some (Int64.toInt_ofInt_of_le wide.1 wide.2)⟩
    · exact fun outside => absurd ⟨wide.1, Int.le_of_lt_add_one wide.2⟩ outside
  | u8 =>
    apply readsExactly_narrowed .u8 (fun n => .u8 (.ofNat n.toNat)) (read "u8") rfl
    intro low high
    obtain ⟨small, same⟩ := natural 255 low high
    exact ⟨rfl, congrArg some (by rw [UInt8.toNat_ofNat_of_lt' small, same])⟩
  | u16 =>
    apply readsExactly_narrowed .u16 (fun n => .u16 (.ofNat n.toNat)) (read "u16") rfl
    intro low high
    obtain ⟨small, same⟩ := natural 65535 low high
    exact ⟨rfl, congrArg some (by rw [UInt16.toNat_ofNat_of_lt' small, same])⟩
  | u32 =>
    apply readsExactly_narrowed .u32 (fun n => .u32 (.ofNat n.toNat)) (read "u32") rfl
    intro low high
    obtain ⟨small, same⟩ := natural 4294967295 low high
    exact ⟨rfl, congrArg some (by rw [UInt32.toNat_ofNat_of_lt' small, same])⟩
  | u64 =>
    apply readsExactly_narrowed .u64 (fun n => .u64 (.ofNat n.toNat)) (read "u64") rfl
    intro low high
    obtain ⟨small, same⟩ := natural 18446744073709551615 low high
    exact ⟨rfl, congrArg some (by rw [UInt64.toNat_ofNat_of_lt' small, same])⟩

theorem decode_integer_err (type : IntegerType) {value : MssqlValue} {error : BoxDynError}
    (failed : ∀ rustType, decodeInteger value rustType = .err error) :
    type.scalarType.decode value = .err error := by
  cases type <;> simp only [IntegerType.scalarType, ScalarType.decode, failed, bind]

theorem readsExactly_iff_of_err {type : IntegerType} {value : MssqlValue} {error : BoxDynError}
    (failed : type.scalarType.decode value = .err error) (number : Int) :
    ReadsExactly type value number ↔ ¬(type.lower ≤ number ∧ number ≤ type.upper) := by
  constructor
  · intro exact inside
    have ⟨scalar, decoded, _⟩ := exact.1 inside
    rw [failed] at decoded
    cases decoded
  · intro outside
    exact ⟨fun inside => absurd inside outside, fun _ => ⟨error, failed⟩⟩

end exactness

/-- Integers of decimal columns are exact, except that the lowest number of `i64` and the upper
half of `u64` are refused: their magnitudes do not fit the signed type they pass through. -/
theorem decode_decimal_exact_iff (type : IntegerType) (typeInfo : MssqlTypeInfo)
    (decimal : typeInfo.kind = .decimal) (scaled : typeInfo.scale.toNat ≤ 38) (sign : UInt8)
    (signed : sign = 0 ∨ sign = 1) (mantissa : Bytes) (short : mantissa.length ≤ 16) :
    ReadsExactly type { typeInfo, data := some (sign :: mantissa) }
        (truncated sign mantissa typeInfo.scale) ↔
      ¬(type = .i64 ∧ sign = 0 ∧ wholePart mantissa typeInfo.scale = 2 ^ 63) ∧
      ¬(type = .u64 ∧ sign = 1 ∧ 2 ^ 63 ≤ wholePart mantissa typeInfo.scale ∧
        wholePart mantissa typeInfo.scale < 2 ^ 64) := by
  have read : ∀ rustType, decodeInteger { typeInfo, data := some (sign :: mantissa) } rustType =
      decodeNumericInteger (sign :: mantissa) typeInfo.scale := by
    intro rustType
    simp only [decodeInteger, nonNullBytes, Outcome.ofExcept, Outcome.ok_bind, if_pos decimal]
  have numeric := decodeNumericInteger_eq signed short scaled
  rw [truncated_eq]
  generalize wholePart mantissa typeInfo.scale = whole at *
  have signs : signOf sign = -1 ∧ sign = 0 ∨ signOf sign = 1 ∧ sign = 1 := by
    rcases signed with rfl | rfl
    · exact .inl ⟨rfl, rfl⟩
    · exact .inr ⟨rfl, rfl⟩
  by_cases fits : whole < 2 ^ 63
  · rw [if_pos fits] at numeric
    apply iff_of_true
    · apply readsExactly_of_read type
      · rcases signs with ⟨negative, _⟩ | ⟨positive, _⟩
        · rw [negative]
          omega
        · rw [positive]
          omega
      · exact fun rustType => (read rustType).trans numeric
    · exact ⟨fun lowest => by omega, fun upper => by omega⟩
  · rw [if_neg fits] at numeric
    have failed := decode_integer_err type fun rustType => (read rustType).trans numeric
    rw [readsExactly_iff_of_err failed]
    -- Beyond the signed range, only these two types can hold the number.
    rcases signs with ⟨negative, zero⟩ | ⟨positive, one⟩
    · rw [negative, zero]
      cases type <;> simp [IntegerType.lower, IntegerType.upper] <;> omega
    · rw [positive, one]
      cases type <;> simp [IntegerType.lower, IntegerType.upper] <;> omega

/-- 12.30 is read as 12. -/
theorem decode_decimal_exact_iff_twelve :
    ReadsExactly .u8 { typeInfo := .decimalWithScale 2, data := some [1, 0xce, 0x04] } 12 :=
  (decode_decimal_exact_iff .u8 (.decimalWithScale 2) rfl (by decide) 1 (.inr rfl) [0xce, 0x04]
    (by decide)).mpr (by decide)

/-- The lowest number of `i64` is not read from `decimal(38, 0)`. -/
theorem decode_decimal_not_exact :
    ¬∀ (type : IntegerType) (typeInfo : MssqlTypeInfo) (sign : UInt8) (mantissa : Bytes),
      typeInfo.kind = .decimal → typeInfo.scale.toNat ≤ 38 → sign = 0 ∨ sign = 1 →
      mantissa.length ≤ 16 →
      ReadsExactly type { typeInfo, data := some (sign :: mantissa) }
        (truncated sign mantissa typeInfo.scale) := by
  intro always
  have ⟨scalar, decoded, _⟩ := (always .i64 (.decimalWithScale 0) 0 [0, 0, 0, 0, 0, 0, 0, 0x80] rfl
    (by decide) (.inl rfl) (by decide)).1 (by decide +kernel)
  have refused : ScalarType.decode .i64
      { typeInfo := .decimalWithScale 0, data := some [0, 0, 0, 0, 0, 0, 0, 0, 0x80] } =
        .err .tryFromInt := by decide +kernel
  cases decoded.symm.trans refused

end SqlxSqlserver.Driver

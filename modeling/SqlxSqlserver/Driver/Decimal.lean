import Mathlib.Algebra.Field.Rat
import Mathlib.Algebra.Order.Field.Power
import Mathlib.Algebra.Order.Ring.Rat
import SqlxSqlserver.Driver.DecimalInteger

/-! Decimal columns read as `rust_decimal::Decimal`, which has 96 bits and at most 28 digits behind
the point, while the columns have up to 38 digits. -/

namespace SqlxSqlserver.Driver
open Foundation Protocol

/-- What the decoder relies on in `rust_decimal`: the constructor is exact on 96 bits and a scale of
at most 28, and panics on everything else. -/
class RustDecimal where
  Decimal : Type
  toRat : Decimal → ℚ
  new : Int → Nat → Outcome BoxDynError Decimal
  fromI128WithScale : Int → Nat → Outcome BoxDynError Decimal
  exact : ∀ number scale, number.natAbs < 2 ^ 96 → scale ≤ 28 →
    ∃ decimal, fromI128WithScale number scale = .ok decimal ∧ toRat decimal = number / 10 ^ scale
  refused : ∀ number scale, ¬(number.natAbs < 2 ^ 96 ∧ scale ≤ 28) →
    ∃ message, fromI128WithScale number scale = .panic message

namespace RustDecimal
variable [RustDecimal]

def i128TryFrom (value : Nat) : Except BoxDynError Int :=
  if value < 2 ^ 127 then .ok value else .error .tryFromInt

def decode (value : MssqlValue) : Outcome BoxDynError Decimal := do
  let bytes ← .ofExcept (nonNullBytes value "Decimal")
  match value.typeInfo.kind with
  | .decimal =>
    let (sign, numerator) ← .ofExcept (decodeNumericBytes bytes)
    let numerator ← .ofExcept (i128TryFrom numerator)
    fromI128WithScale (numerator * sign) value.typeInfo.scale.toNat
  | .money => new (← .ofExcept (decodeMoneyBytes bytes)) 4
  | other => .err (.message ("expected SQL Server numeric type, got " ++ other.debug))

end RustDecimal

structure DecimalColumn where
  typeInfo : TypeInfo
  numeric : typeInfo.ty ∈ [.decimal, .numeric, .decimalN, .numericN]
  precision_le : typeInfo.precision.toNat ≤ 38
  scale_le : typeInfo.scale.toNat ≤ 38

inductive IsNumeric : Bytes → Int → Nat → Prop where
  | negative {mantissa : Bytes} (short : mantissa.length ≤ 16) :
      IsNumeric (0 :: mantissa) (-1) (leNat mantissa)
  | positive {mantissa : Bytes} (short : mantissa.length ≤ 16) :
      IsNumeric (1 :: mantissa) 1 (leNat mantissa)

/-- The number that a numeric value stands for. -/
def decimalNumber (sign : Int) (mantissa : Nat) (scale : UInt8) : ℚ :=
  (mantissa * sign : Int) / 10 ^ scale.toNat

/-- A value is read as its exact number or refused, and it is read where a `Decimal` has room. -/
def DecodesExactly [RustDecimal] (value : MssqlValue) : Prop :=
  (∀ bytes sign mantissa, value.data = some bytes → IsNumeric bytes sign mantissa →
    mantissa < 2 ^ 96 → value.typeInfo.scale.toNat ≤ 28 →
    ∃ decimal, RustDecimal.decode value = .ok decimal ∧
      RustDecimal.toRat decimal = decimalNumber sign mantissa value.typeInfo.scale) ∧
  ((∃ error, RustDecimal.decode value = .err error) ∨
    ∃ bytes sign mantissa decimal, value.data = some bytes ∧ IsNumeric bytes sign mantissa ∧
      RustDecimal.decode value = .ok decimal ∧
        RustDecimal.toRat decimal = decimalNumber sign mantissa value.typeInfo.scale)

section numeric

theorem decodeNumericBytes_of_numeric {bytes : Bytes} {sign : Int} {mantissa : Nat}
    (numeric : IsNumeric bytes sign mantissa) :
    decodeNumericBytes bytes = .ok (sign, mantissa) := by
  cases numeric with
  | negative short => exact decodeNumericBytes_ok (.inl rfl) short
  | positive short => exact decodeNumericBytes_ok (.inr rfl) short

theorem numeric_or_refused (bytes : Bytes) :
    (∃ sign mantissa, IsNumeric bytes sign mantissa) ∨
      ∃ error, decodeNumericBytes bytes = .error error := by
  cases bytes with
  | nil => exact .inr ⟨_, rfl⟩
  | cons sign mantissa =>
    by_cases short : mantissa.length ≤ 16
    · by_cases negative : sign = 0
      · rw [negative]
        exact .inl ⟨_, _, .negative short⟩
      by_cases positive : sign = 1
      · rw [positive]
        exact .inl ⟨_, _, .positive short⟩
      have notZero : sign.toNat ≠ 0 := fun zero => negative (UInt8.toNat_inj.mp zero)
      have notOne : sign.toNat ≠ 1 := fun one => positive (UInt8.toNat_inj.mp one)
      right
      refine ⟨.message ("invalid sign byte: 0x" ++ hexByte sign), ?_⟩
      simp only [decodeNumericBytes]
      split
      · rfl
      · rfl
    · right
      simp only [decodeNumericBytes, if_pos (Nat.lt_of_not_le short)]
      split
      · exact ⟨_, rfl⟩
      · exact ⟨_, rfl⟩
      · exact ⟨_, rfl⟩

theorem IsNumeric.sign_natAbs {bytes : Bytes} {sign : Int} {mantissa : Nat}
    (numeric : IsNumeric bytes sign mantissa) : sign.natAbs = 1 := by
  cases numeric <;> rfl

theorem IsNumeric.unique {bytes : Bytes} {sign other : Int} {mantissa number : Nat}
    (numeric : IsNumeric bytes sign mantissa) (again : IsNumeric bytes other number) :
    sign = other ∧ mantissa = number := by
  have same := (decodeNumericBytes_of_numeric numeric).symm.trans
    (decodeNumericBytes_of_numeric again)
  simpa only [Except.ok.injEq, Prod.mk.injEq] using same

end numeric

section decoding
variable [RustDecimal] {typeInfo : MssqlTypeInfo} {bytes : Bytes} {sign : Int} {mantissa : Nat}

theorem decode_null (typeInfo : MssqlTypeInfo) : ∃ error,
    RustDecimal.decode { typeInfo, data := none } = .err error := ⟨_, rfl⟩

theorem decode_malformed (decimal : typeInfo.kind = .decimal) {error : BoxDynError}
    (refused : decodeNumericBytes bytes = .error error) :
    RustDecimal.decode { typeInfo, data := some bytes } = .err error := by
  simp only [RustDecimal.decode, nonNullBytes, Outcome.ofExcept, Outcome.ok_bind, decimal, refused]
  rfl

theorem decode_numeric (decimal : typeInfo.kind = .decimal)
    (numeric : IsNumeric bytes sign mantissa) (signed : mantissa < 2 ^ 127) :
    RustDecimal.decode { typeInfo, data := some bytes } =
      RustDecimal.fromI128WithScale (mantissa * sign) typeInfo.scale.toNat := by
  have narrowed : RustDecimal.i128TryFrom mantissa = .ok mantissa := if_pos signed
  simp only [RustDecimal.decode, nonNullBytes, Outcome.ofExcept, Outcome.ok_bind, decimal,
    decodeNumericBytes_of_numeric numeric, narrowed]

theorem decode_wide (decimal : typeInfo.kind = .decimal)
    (numeric : IsNumeric bytes sign mantissa) (wide : ¬mantissa < 2 ^ 127) :
    RustDecimal.decode { typeInfo, data := some bytes } = .err .tryFromInt := by
  have refused : RustDecimal.i128TryFrom mantissa = .error .tryFromInt := if_neg wide
  simp only [RustDecimal.decode, nonNullBytes, Outcome.ofExcept, Outcome.ok_bind, decimal,
    decodeNumericBytes_of_numeric numeric, refused]
  rfl

theorem decode_fits (decimal : typeInfo.kind = .decimal)
    (numeric : IsNumeric bytes sign mantissa) (fits : mantissa < 2 ^ 96)
    (scaled : typeInfo.scale.toNat ≤ 28) :
    ∃ number, RustDecimal.decode { typeInfo, data := some bytes } = .ok number ∧
      RustDecimal.toRat number = decimalNumber sign mantissa typeInfo.scale := by
  have magnitude : ((mantissa : Int) * sign).natAbs < 2 ^ 96 := by
    rw [Int.natAbs_mul, numeric.sign_natAbs, Nat.mul_one]
    exact fits
  rw [decode_numeric decimal numeric (fits.trans (by decide))]
  exact RustDecimal.exact _ _ magnitude scaled

/-- Without room the constructor panics. -/
theorem decode_panics (decimal : typeInfo.kind = .decimal)
    (numeric : IsNumeric bytes sign mantissa) (signed : mantissa < 2 ^ 127)
    (crowded : ¬(mantissa < 2 ^ 96 ∧ typeInfo.scale.toNat ≤ 28)) :
    ∃ message, RustDecimal.decode { typeInfo, data := some bytes } = .panic message := by
  rw [decode_numeric decimal numeric signed]
  apply RustDecimal.refused
  rwa [Int.natAbs_mul, numeric.sign_natAbs, Nat.mul_one]

end decoding

theorem DecimalColumn.fromProtocol (column : DecimalColumn) {typeInfo : MssqlTypeInfo}
    (made : (MssqlTypeInfo.fromProtocol column.typeInfo : Outcome BoxDynError MssqlTypeInfo) =
      .ok typeInfo) :
    typeInfo.kind = .decimal ∧ typeInfo.scale = column.typeInfo.scale := by
  have kind : (MssqlTypeInfo.kindOf column.typeInfo : Outcome BoxDynError MssqlType) =
      .ok .decimal := by
    have numeric := column.numeric
    simp only [List.mem_cons, List.not_mem_nil, or_false] at numeric
    rcases numeric with sort | sort | sort | sort <;> rw [MssqlTypeInfo.kindOf, sort]
  rw [MssqlTypeInfo.fromProtocol, kind] at made
  cases made
  exact ⟨rfl, rfl⟩

/-- A decimal is read exactly or refused unless it lies between what a `Decimal` holds and what an
`i128` holds: there the constructor panics. -/
theorem decodesExactly_iff [RustDecimal] (column : DecimalColumn) (typeInfo : MssqlTypeInfo)
    (made : (MssqlTypeInfo.fromProtocol column.typeInfo : Outcome BoxDynError MssqlTypeInfo) =
      .ok typeInfo) (data : Option Bytes) :
    DecodesExactly { typeInfo, data } ↔
      ∀ bytes sign mantissa, data = some bytes → IsNumeric bytes sign mantissa →
        mantissa < 2 ^ 127 → mantissa < 2 ^ 96 ∧ column.typeInfo.scale.toNat ≤ 28 := by
  obtain ⟨decimal, scale⟩ := column.fromProtocol made
  rw [← scale]
  constructor
  · rintro ⟨_, handled⟩ bytes sign mantissa rfl numeric signed
    by_contra crowded
    obtain ⟨message, panics⟩ := decode_panics decimal numeric signed crowded
    rcases handled with ⟨error, refused⟩ | ⟨_, _, _, number, _, _, decoded, _⟩
    · cases panics.symm.trans refused
    · cases panics.symm.trans decoded
  · intro room
    constructor
    · rintro bytes sign mantissa rfl numeric fits scaled
      exact decode_fits decimal numeric fits scaled
    · cases data with
      | none => exact .inl (decode_null typeInfo)
      | some bytes =>
        rcases numeric_or_refused bytes with ⟨sign, mantissa, numeric⟩ | ⟨error, refused⟩
        · by_cases signed : mantissa < 2 ^ 127
          · obtain ⟨fits, scaled⟩ := room bytes sign mantissa rfl numeric signed
            obtain ⟨number, decoded, exact⟩ := decode_fits decimal numeric fits scaled
            exact .inr ⟨bytes, sign, mantissa, number, rfl, numeric, decoded, exact⟩
          · exact .inl ⟨_, decode_wide decimal numeric signed⟩
        · exact .inl ⟨error, decode_malformed decimal refused⟩

section documented

structure Decimal96 where
  number : Int
  scale : Nat
  fits : number.natAbs < 2 ^ 96
  scaled : scale ≤ 28

def Decimal96.fromI128WithScale (number : Int) (scale : Nat) : Outcome BoxDynError Decimal96 :=
  if scaled : scale ≤ 28 then
    if fits : number.natAbs < 2 ^ 96 then .ok { number, scale, fits, scaled }
    else if number < 0 then .panic "Number less than minimum value that can be represented."
    else .panic "Number exceeds maximum value that can be represented."
  else .panic s!"Scale exceeds the maximum precision allowed: {scale} > 28"

@[reducible] def documentedDecimal : RustDecimal where
  Decimal := Decimal96
  toRat decimal := decimal.number / 10 ^ decimal.scale
  new := Decimal96.fromI128WithScale
  fromI128WithScale := Decimal96.fromI128WithScale
  exact number scale fits scaled := by
    refine ⟨{ number, scale, fits, scaled }, ?_, rfl⟩
    rw [Decimal96.fromI128WithScale, dif_pos scaled, dif_pos fits]
  refused number scale crowded := by
    unfold Decimal96.fromI128WithScale
    split_ifs with scaled fits
    · exact absurd ⟨fits, scaled⟩ crowded
    · exact ⟨_, rfl⟩
    · exact ⟨_, rfl⟩
    · exact ⟨_, rfl⟩

def widestDecimal (scale : UInt8) (scale_le : scale.toNat ≤ 38) : DecimalColumn where
  typeInfo := ⟨.decimalN, 17, scale, 38, none⟩
  numeric := by simp only [List.mem_cons, true_or, or_true]
  precision_le := le_refl 38
  scale_le := scale_le

end documented

/-- 12.30 is read exactly. -/
theorem decodesExactly_iff_cents :
    @DecodesExactly documentedDecimal
      { typeInfo := ⟨.decimal, true, some 17, some ⟨.decimalN, 17, 2, 38, none⟩⟩,
        data := some [1, 0xce, 0x04] } := by
  apply (@decodesExactly_iff documentedDecimal (widestDecimal 2 (by decide)) _ rfl _).mpr
  rintro bytes sign mantissa same numeric _
  cases same
  have cents : IsNumeric [1, 0xce, 0x04] 1 1230 := IsNumeric.positive (by decide)
  rw [(numeric.unique cents).2]
  decide

/-- Reading 2^96 from `decimal(38, 0)` panics. -/
theorem not_decodesExactly :
    ¬∀ [RustDecimal] (column : DecimalColumn) (typeInfo : MssqlTypeInfo)
      (input bytes rest : Bytes),
      (MssqlTypeInfo.fromProtocol column.typeInfo : Outcome BoxDynError MssqlTypeInfo) =
        .ok typeInfo →
      column.typeInfo.getValue input = .ok (some bytes, rest) →
      DecodesExactly { typeInfo, data := some bytes } := by
  intro always
  have handled := (@always documentedDecimal (widestDecimal 0 (by decide))
    ⟨.decimal, true, some 17, some ⟨.decimalN, 17, 0, 38, none⟩⟩ (17 :: 1 :: leBytes 16 (2 ^ 96)) _ []
    rfl rfl).2
  have numeric : IsNumeric (1 :: leBytes 16 (2 ^ 96)) 1 (2 ^ 96) := IsNumeric.positive (by decide)
  obtain ⟨message, panics⟩ := @decode_panics documentedDecimal
    ⟨.decimal, true, some 17, some ⟨.decimalN, 17, 0, 38, none⟩⟩ _ _ _ rfl numeric
    (by decide) (by decide)
  rcases handled with ⟨error, refused⟩ | ⟨_, _, _, number, _, _, decoded, _⟩
  · cases panics.symm.trans refused
  · cases panics.symm.trans decoded

end SqlxSqlserver.Driver

import SqlxSqlserver.Driver.Value

/-! Every scalar decodes from the bytes it encodes to, under any type information of its kind.
Integers are widened before they are encoded, so decoding narrows them back. -/

namespace SqlxSqlserver.Driver
open Foundation Protocol

section integers
variable {typeInfo : MssqlTypeInfo}

theorem decodeInteger_intBytes (whole : typeInfo.kind ≠ .decimal) (rustType : String) {width : Nat}
    (wide : width = 2 ∨ width = 4 ∨ width = 8) (value : Int)
    (lower : -(256 ^ width : Int) ≤ 2 * value) (upper : 2 * value < 256 ^ width) :
    decodeInteger { typeInfo, data := some (intBytes width value) } rustType = .ok value := by
  have digits := leInt_intBytes lower upper
  rcases wide with rfl | rfl | rfl <;>
    simp [decodeInteger, nonNullBytes, whole, digits, Outcome.ofExcept, bind, pure]

theorem decodeInteger_byte (whole : typeInfo.kind ≠ .decimal) (byte : UInt8) (rustType : String) :
    decodeInteger { typeInfo, data := some [byte] } rustType = .ok (byte.toNat : Int) := by
  simp [decodeInteger, nonNullBytes, whole, leNat, Outcome.ofExcept, bind, pure]

theorem tryFrom_ok {lower upper value : Int} (low : lower ≤ value) (high : value ≤ upper) :
    tryFrom lower upper value = .ok value := if_pos ⟨low, high⟩

theorem narrowed {data : Option Bytes} {rustType : String} {lower upper value : Int}
    (make : Int → Scalar) (read : decodeInteger { typeInfo, data } rustType = .ok value)
    (low : lower ≤ value) (high : value ≤ upper) :
    (do return make (← .ofExcept (tryFrom lower upper
      (← decodeInteger { typeInfo, data } rustType))) : Outcome BoxDynError Scalar) =
        .ok (make value) := by
  rw [read]
  simp only [bind, tryFrom_ok low high, Outcome.ofExcept, pure]

end integers

theorem ScalarType.kind_ne_decimal (type : ScalarType) : type.typeInfo.kind ≠ .decimal := by
  cases type <;> decide

/-- What a scalar encodes to decodes to that scalar. -/
theorem ScalarType.decode_encode {value : Scalar} {bytes : Bytes}
    (encoded : value.encode = .ok bytes) {typeInfo : MssqlTypeInfo}
    (kind : typeInfo.kind = value.type.typeInfo.kind) :
    value.type.decode { typeInfo, data := some bytes } = .ok value := by
  have whole : typeInfo.kind ≠ .decimal := kind ▸ value.type.kind_ne_decimal
  cases value with
  | bool value =>
    cases encoded
    cases value <;> rfl
  | i8 value =>
    cases encoded
    have low := value.le_toInt
    have high := value.toInt_lt
    have read := decodeInteger_intBytes whole "i8" (.inl rfl) value.toInt (by omega) (by omega)
    calc ScalarType.decode .i8 _
      _ = .ok (.i8 (.ofInt value.toInt)) :=
        narrowed (fun number => .i8 (.ofInt number)) read (by omega) (by omega)
      _ = .ok (.i8 value) := by rw [Int8.ofInt_toInt]
  | i16 value =>
    cases encoded
    have low := value.le_toInt
    have high := value.toInt_lt
    have read := decodeInteger_intBytes whole "i16" (.inl rfl) value.toInt (by omega) (by omega)
    calc ScalarType.decode .i16 _
      _ = .ok (.i16 (.ofInt value.toInt)) :=
        narrowed (fun number => .i16 (.ofInt number)) read (by omega) (by omega)
      _ = .ok (.i16 value) := by rw [Int16.ofInt_toInt]
  | i32 value =>
    cases encoded
    have low := value.le_toInt
    have high := value.toInt_lt
    have read := decodeInteger_intBytes whole "i32" (.inr (.inl rfl)) value.toInt (by omega) (by omega)
    calc ScalarType.decode .i32 _
      _ = .ok (.i32 (.ofInt value.toInt)) :=
        narrowed (fun number => .i32 (.ofInt number)) read (by omega) (by omega)
      _ = .ok (.i32 value) := by rw [Int32.ofInt_toInt]
  | i64 value =>
    cases encoded
    have low := value.le_toInt
    have high := value.toInt_lt
    have read := decodeInteger_intBytes whole "i64" (.inr (.inr rfl)) value.toInt
      (by omega) (by omega)
    simp only [Scalar.type, decode, read, bind, pure, Int64.ofInt_toInt]
  | u8 value =>
    cases encoded
    have high := value.toNat_lt
    have read := decodeInteger_byte whole value "u8"
    calc ScalarType.decode .u8 _
      _ = .ok (.u8 (.ofNat (value.toNat : Int).toNat)) :=
        narrowed (fun number => .u8 (.ofNat number.toNat)) read (by omega) (by omega)
      _ = .ok (.u8 value) := by rw [Int.toNat_natCast, UInt8.ofNat_toNat]
  | u16 value =>
    cases encoded
    have high := value.toNat_lt
    have read := decodeInteger_intBytes whole "u16" (.inr (.inl rfl)) value.toNat (by omega) (by omega)
    calc ScalarType.decode .u16 _
      _ = .ok (.u16 (.ofNat (value.toNat : Int).toNat)) :=
        narrowed (fun number => .u16 (.ofNat number.toNat)) read (by omega) (by omega)
      _ = .ok (.u16 value) := by rw [Int.toNat_natCast, UInt16.ofNat_toNat]
  | u32 value =>
    cases encoded
    have high := value.toNat_lt
    have read := decodeInteger_intBytes whole "u32" (.inr (.inr rfl)) value.toNat (by omega) (by omega)
    calc ScalarType.decode .u32 _
      _ = .ok (.u32 (.ofNat (value.toNat : Int).toNat)) :=
        narrowed (fun number => .u32 (.ofNat number.toNat)) read (by omega) (by omega)
      _ = .ok (.u32 value) := by rw [Int.toNat_natCast, UInt32.ofNat_toNat]
  | u64 value =>
    simp only [Scalar.encode] at encoded
    split at encoded
    next high =>
      cases encoded
      have read := decodeInteger_intBytes whole "u64" (.inr (.inr rfl)) value.toNat
        (by omega) (by omega)
      calc ScalarType.decode .u64 _
        _ = .ok (.u64 (.ofNat (value.toNat : Int).toNat)) :=
          narrowed (fun number => .u64 (.ofNat number.toNat)) read (by omega) (by omega)
        _ = .ok (.u64 value) := by rw [Int.toNat_natCast, UInt64.ofNat_toNat]
    next => cases encoded
  | f32 bits =>
    cases encoded
    have fits : bits.toNat < 256 ^ 4 := bits.toNat_lt
    have real : typeInfo.kind = .real := kind
    simp [Scalar.type, decode, decodeF32, real, nonNullBytes, Outcome.ofExcept, bind, pure,
      leNat_leBytes_of_lt fits]
  | f64 bits =>
    cases encoded
    have fits : bits.toNat < 256 ^ 8 := bits.toNat_lt
    have float : typeInfo.kind = .float := kind
    simp [Scalar.type, decode, decodeF64, float, nonNullBytes, Outcome.ofExcept, bind, pure,
      leNat_leBytes_of_lt fits]
  | string value =>
    cases encoded
    have text : typeInfo.kind = .nVarChar := kind
    simp [Scalar.type, decode, decodeString, text, nonNullBytes, Outcome.ofExcept, bind, pure,
      bytesToUnits_unitBytes, decodeUtf16_encodeUtf16]
  | bytes value =>
    cases encoded
    rfl

end SqlxSqlserver.Driver

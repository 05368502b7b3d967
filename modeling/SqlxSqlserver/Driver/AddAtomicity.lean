import SqlxSqlserver.Driver.Declarations

/-! Adding an argument that cannot be written. The counter and the declarations are changed in
front of the checks that can stop the call. -/

namespace SqlxSqlserver.Driver
open Foundation Protocol

def Atomic (arguments : MssqlArguments) (value : EncodeValue) : Prop :=
  ∀ error next, arguments.addValue value = (.error error, next) → next = arguments

/-- A parameter of the type has room for the length. -/
def HasRoom (typeInfo : MssqlTypeInfo) (len : Nat) (isNull : Bool) : Prop :=
  match typeInfo.kind with
  | .null | .money | .dateTime | .other _ => False
  | .nVarChar | .varChar | .varBinary =>
    typeInfo.size = some u16Max ∨ isNull = true ∨ len < 65536
  | .decimal => (typeInfo.size.getD 17).toNat < 256 ∧ (isNull = true ∨ len < 256)
  | _ => isNull = true ∨ len < 256

/-- The name of the next parameter can be counted by a byte, and the value is encoded as something
that a parameter of its type has room for. -/
def Addable (arguments : MssqlArguments) (value : EncodeValue) : Prop :=
  (encodeUtf16 (parameterName (arguments.len + 1))).length < 256 ∧
    ∃ encoded isNull, value.encode = .ok (encoded, isNull) ∧
      HasRoom value.typeInfo encoded.length (isNull == .yes)

section writers
variable {typeInfo : MssqlTypeInfo} {encoded : Bytes} {isNull : Bool}

theorem u8TryFrom_ok_iff (value : Nat) : (∃ len, u8TryFrom value = .ok len) ↔ value < 256 := by
  unfold u8TryFrom
  by_cases fits : value < 256
  · simp [fits]
  · simp [fits]

theorem u16TryFrom_ok_iff (value : Nat) : (∃ len, u16TryFrom value = .ok len) ↔ value < 65536 := by
  unfold u16TryFrom
  by_cases fits : value < 65536
  · simp [fits]
  · simp [fits]

theorem counted_ok_iff {α : Type} (unset : α) (conversion : Except BoxDynError α)
    (bytes : α → Bytes) :
    (do let len ← if isNull then pure unset else .lift conversion
        .emit (bytes len) : Put BoxDynError Unit).result = .ok () ↔
      isNull = true ∨ ∃ len, conversion = .ok len := by
  cases isNull with
  | true => exact iff_of_true rfl (.inl rfl)
  | false =>
    change (Put.lift conversion >>= fun len => Put.emit (bytes len)).result = .ok () ↔ _
    rw [Put.result_bind_iff]
    simp

theorem writeParamLenData_ok_iff : (writeParamLenData typeInfo encoded isNull).result = .ok () ↔
    (writeParamLen typeInfo encoded isNull).result = .ok () := by
  unfold writeParamLenData
  rw [Put.result_seq_iff]
  apply and_iff_left
  by_cases present : isNull = false ∧ typeInfo.size ≠ some u16Max
  · simp [present]
  · simp [present]

theorem byteLen_ok_iff (writer : writeParamLen typeInfo encoded isNull = (do
      let len ← if isNull then pure 0 else .lift (u8TryFrom encoded.length)
      .emit [len])) : (writeParamLenData typeInfo encoded isNull).result = .ok () ↔
    isNull = true ∨ encoded.length < 256 := by
  rw [writeParamLenData_ok_iff, writer, counted_ok_iff 0 _ fun len => [len], u8TryFrom_ok_iff]

theorem shortLen_ok_iff {type : SqlType} {size : UInt16}
    (sized : sizedSqlType typeInfo.kind size = some type) :
    (writeParamLenData typeInfo encoded isNull).result = .ok () ↔
      typeInfo.size = some u16Max ∨ isNull = true ∨ encoded.length < 65536 := by
  rw [writeParamLenData_ok_iff, writeParamLen_sized sized]
  by_cases max : typeInfo.size = some u16Max
  · rw [if_pos max]
    exact iff_of_true (Put.writes_iff.mp (writes_plpValue encoded isNull)).2 (.inl max)
  · rw [if_neg max, counted_ok_iff u16Max _ fun len => leBytes 2 len.toNat, u16TryFrom_ok_iff,
      or_iff_right max]

theorem parameterSize_ok_iff (len : Nat) :
    (∃ size, parameterSize typeInfo len isNull = .ok size) ↔
      typeInfo.size ≠ none ∨ isNull = true ∨ len < 65536 := by
  have room : ∀ least < 65536, (∃ size, u16TryFrom (if isNull then least else max least len) =
      .ok size) ↔ isNull = true ∨ len < 65536 := by
    intro least small
    rw [u16TryFrom_ok_iff]
    cases isNull with
    | true => simpa using small
    | false => simpa using fun _ => small
  unfold parameterSize nvarcharTypeSize boundedShortLen
  cases typeInfo.size with
  | some size => split <;> simp
  | none =>
    simp only [ne_eq, not_true_eq_false, false_or]
    split
    · exact room 2 (by decide)
    · exact room 1 (by decide)

theorem sizedText_ok_iff (size : Except BoxDynError UInt16) (max : String)
    (text : UInt16 → String) : (∃ declared, (do
        let field ← size
        if field = u16Max then return max else return text field : Except BoxDynError String) =
      .ok declared) ↔ ∃ field, size = .ok field := by
  cases size with
  | error error => exact iff_of_false (fun ⟨_, same⟩ => nomatch same) fun ⟨_, same⟩ => nomatch same
  | ok field =>
    refine iff_of_true ?_ ⟨field, rfl⟩
    by_cases largest : field = u16Max
    · exact ⟨max, if_pos largest⟩
    · exact ⟨text field, if_neg largest⟩

theorem sizedInfo_ok_iff (size : Except BoxDynError UInt16) (bytes : UInt16 → Put BoxDynError Unit)
    (writes : ∀ field, (bytes field).result = .ok ()) (code : Bytes) :
    (do Put.emit code; bytes (← Put.lift size) : Put BoxDynError Unit).result = .ok () ↔
      ∃ field, size = .ok field := by
  rw [Put.result_seq_iff, Put.result_bind_iff]
  simp [writes]

theorem sized_ok_iff {type : SqlType} {size : UInt16}
    (sized : sizedSqlType typeInfo.kind size = some type) (len : Nat) (isNull : Bool) :
    ((∃ text, declaration typeInfo len isNull = .ok text) ↔
        ∃ field, parameterSize typeInfo len isNull = .ok field) ∧
      ((writeTypeInfo typeInfo len isNull).result = .ok () ↔
        ∃ field, parameterSize typeInfo len isNull = .ok field) := by
  rcases typeInfo with ⟨kind, variableLength, limit, protocolTypeInfo⟩
  cases kind <;> cases sized
  case nVarChar => exact ⟨sizedText_ok_iff _ _ _, sizedInfo_ok_iff _ _ (fun _ => rfl) _⟩
  case varChar => exact ⟨sizedText_ok_iff _ _ _, sizedInfo_ok_iff _ _ (fun _ => rfl) _⟩
  case varBinary => exact ⟨sizedText_ok_iff _ _ _, sizedInfo_ok_iff _ _ (fun _ => rfl) _⟩

theorem sized_canWrite_iff {type : SqlType} {size : UInt16}
    (sized : sizedSqlType typeInfo.kind size = some type) :
    ((∃ text, declaration typeInfo encoded.length isNull = .ok text) ∧
      (writeTypeInfo typeInfo encoded.length isNull).result = .ok () ∧
      (writeParamLenData typeInfo encoded isNull).result = .ok ()) ↔
      typeInfo.size = some u16Max ∨ isNull = true ∨ encoded.length < 65536 := by
  have ⟨declares, types⟩ := sized_ok_iff sized encoded.length isNull
  rw [declares, types, shortLen_ok_iff sized, parameterSize_ok_iff]
  constructor
  · exact fun parts => parts.2.2
  · intro room
    have field : typeInfo.size ≠ none ∨ isNull = true ∨ encoded.length < 65536 := by
      refine room.imp_left fun max => ?_
      rw [max]
      exact Option.some_ne_none _
    exact ⟨field, field, room⟩

theorem decimal_writeTypeInfo_ok_iff (decimal : typeInfo.kind = .decimal) (len : Nat) :
    (writeTypeInfo typeInfo len isNull).result = .ok () ↔
      (typeInfo.size.getD 17).toNat < 256 := by
  unfold writeTypeInfo
  rw [decimal]
  dsimp only
  rw [Put.result_seq_iff, Put.result_bind_iff, ← u8TryFrom_ok_iff]
  simp

theorem canWrite_iff :
    ((∃ text, declaration typeInfo encoded.length isNull = .ok text) ∧
      (writeTypeInfo typeInfo encoded.length isNull).result = .ok () ∧
      (writeParamLenData typeInfo encoded isNull).result = .ok ()) ↔
      HasRoom typeInfo encoded.length isNull := by
  rcases typeInfo with ⟨kind, variableLength, size, protocolTypeInfo⟩
  cases kind
  case nVarChar => exact sized_canWrite_iff (show sizedSqlType .nVarChar 0 = some _ from rfl)
  case varChar => exact sized_canWrite_iff (show sizedSqlType .varChar 0 = some _ from rfl)
  case varBinary => exact sized_canWrite_iff (show sizedSqlType .varBinary 0 = some _ from rfl)
  case decimal =>
    rw [byteLen_ok_iff rfl, decimal_writeTypeInfo_ok_iff rfl]
    simp [declaration, HasRoom]
  case null => simp [declaration, HasRoom]
  case money => simp [declaration, HasRoom]
  case dateTime => simp [declaration, HasRoom]
  case other name => simp [declaration, HasRoom]
  all_goals
    rw [byteLen_ok_iff rfl]
    simp [declaration, writeTypeInfo, HasRoom]

theorem writeBVarchar_ok_iff (name : String) : (writeBVarchar name).result = .ok () ↔
    (encodeUtf16 name).length < 256 := by
  unfold writeBVarchar
  rw [Put.result_bind_iff, ← u8TryFrom_ok_iff]
  simp [Put.result_seq_iff, writeUtf16]

theorem writeParameter_ok_iff (name : String) :
    (writeParameter name typeInfo encoded isNull).result = .ok () ↔
      (encodeUtf16 name).length < 256 ∧
        (writeTypeInfo typeInfo encoded.length isNull).result = .ok () ∧
        (writeParamLenData typeInfo encoded isNull).result = .ok () := by
  unfold writeParameter writeParameterWithStatus
  simp only [Put.result_seq_iff, Put.result_emit, true_and, writeBVarchar_ok_iff]

end writers

section adding
variable {arguments : MssqlArguments} {value : EncodeValue}

/-- Behind the encoding every `add` counts its parameter, whether it succeeds or not. -/
theorem addValue_counts (arguments : MssqlArguments) {encoded : Bytes} {isNull : IsNull}
    (encodes : value.encode = .ok (encoded, isNull)) :
    (arguments.addValue value).2.len = arguments.len + 1 := by
  rw [MssqlArguments.addValue, encodes]
  dsimp only [MssqlArguments.addParameter]
  split <;> rfl

theorem addValue_ok_iff : (arguments.addValue value).1 = .ok () ↔ Addable arguments value := by
  unfold Addable MssqlArguments.addValue
  cases encodes : value.encode with
  | error error => simp
  | ok result =>
    obtain ⟨encoded, isNull⟩ := result
    dsimp only [MssqlArguments.addParameter]
    simp only [Except.ok.injEq, Prod.mk.injEq, ← canWrite_iff]
    cases declares : declaration value.typeInfo encoded.length (isNull == .yes) with
    | error error => simp [declares]
    | ok text =>
      dsimp only
      rw [writeParameter_ok_iff]
      simp [parameterName, declares]

/-- The name of a counter that a `usize` can hold is always short enough. -/
theorem parameterName_short {number : Nat} (fits : number < 2 ^ 64) :
    (encodeUtf16 (parameterName number)).length < 256 := by
  have digits : (toString number).length ≤ 20 :=
    (Nat.length_repr_le_iff (by decide)).mpr (fits.trans (by decide))
  have units := encodeUtf16_length_le (parameterName number)
  have split : (parameterName number).length = 2 + (toString number).length := by
    rw [parameterName, String.length_append]
    rfl
  omega

end adding

/-- An `add` is atomic exactly when the value cannot be encoded, or when it can be added. -/
theorem atomic_iff (arguments : MssqlArguments) (value : EncodeValue) :
    Atomic arguments value ↔
      (∃ error, value.encode = .error error) ∨ Addable arguments value := by
  cases encodes : value.encode with
  | error error =>
    refine iff_of_true ?_ (.inl ⟨error, rfl⟩)
    intro found next failed
    rw [MssqlArguments.addValue, encodes] at failed
    cases failed
    rfl
  | ok result =>
    have counts := addValue_counts arguments encodes
    rw [← addValue_ok_iff, or_iff_right (by simp)]
    unfold Atomic
    generalize arguments.addValue value = ended at counts ⊢
    obtain ⟨outcome, next⟩ := ended
    cases outcome with
    | ok success =>
      refine iff_of_true ?_ rfl
      intro error next same
      cases same
    | error error =>
      have refused : Except.error error ≠ (.ok () : Except BoxDynError Unit) := by simp
      refine iff_of_false ?_ refused
      intro atomic
      obtain rfl := atomic error next rfl
      exact absurd counts (by simp)

def moneyValue : EncodeValue where
  produces := none
  ofType := .new .money
  encode := .ok ([0, 0, 0, 0, 0, 0, 0, 0], .no)

/-- The refused MONEY is counted, and the next argument is named behind it. -/
theorem money_not_atomic : ¬Atomic .default moneyValue ∧
    ((MssqlArguments.default.addValue moneyValue).2.addValue (.ofScalar (.i32 7))).2.declarations =
      "@p2 int" := by
  refine ⟨fun atomic => ?_, by decide⟩
  have same := atomic (unsupportedType .money) ⟨1, [], ""⟩ rfl
  exact absurd (congrArg MssqlArguments.len same) (by decide)

end SqlxSqlserver.Driver

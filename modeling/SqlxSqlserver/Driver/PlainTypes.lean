import SqlxSqlserver.Driver.Arrival

/-! The types whose values are written behind one length byte, besides the numbers: decimals, dates,
times and unique identifiers. -/

namespace SqlxSqlserver.Driver
open Foundation Protocol Reader

def Receives (accepts : MssqlValue → Prop) (parameter : RpcParameter) (name : String) : Prop :=
  parameter.name = name ∧ parameter.status = 0 ∧ ∃ typeInfo,
    (MssqlTypeInfo.fromProtocol parameter.typeInfo : Outcome BoxDynError MssqlTypeInfo) =
      .ok typeInfo ∧ accepts { typeInfo, data := parameter.value }

/-- A type whose values are written behind one length byte. Its TYPE_INFO is read back as one of the
same kind and scale. -/
structure PlainType where
  typeInfo : MssqlTypeInfo
  wire : TypeInfo
  bytes : Bytes
  back : MssqlTypeInfo
  form : wire.ty.valueForm = .byteLen
  limited : typeInfo.size ≠ some u16Max
  writes : ∀ len isNull, (writeTypeInfo typeInfo len isNull).Writes bytes ()
  counts : ∀ encoded isNull, writeParamLen typeInfo encoded isNull = (do
    let len ← if isNull then pure 0 else .lift (u8TryFrom encoded.length)
    .emit [len])
  reads : Reads TypeInfo.get bytes wire
  made : (MssqlTypeInfo.fromProtocol wire : Outcome BoxDynError MssqlTypeInfo) = .ok back
  kind : back.kind = typeInfo.kind
  scale : back.scale = typeInfo.scale

theorem reads_numericN (scale : UInt8) :
    Reads TypeInfo.get [dataTypeNumericN, 17, 38, scale] ⟨.numericN, 17, scale, 38, none⟩ := by
  refine TypeInfo.reads_get_iff.mpr ⟨.numericN, [17, 38, scale], rfl, ?_⟩
  exact (reads_byte _ 17).bind ((reads_byte _ 38).bind fun rest => bind_ok (reads_byte _ scale rest) _)

namespace PlainType

def date : PlainType where
  typeInfo := .date
  wire := .new .dateN 3
  bytes := [dataTypeDateN]
  back := ⟨.date, true, some 3, some (.new .dateN 3)⟩
  form := rfl
  limited := by decide
  writes _ _ := rfl
  counts _ _ := rfl
  reads _ := rfl
  made := rfl
  kind := rfl
  scale := rfl

def time : PlainType where
  typeInfo := .time
  wire := ⟨.timeN, 5, 7, 0, none⟩
  bytes := [dataTypeTimeN, 7]
  back := ⟨.time, true, some 5, some ⟨.timeN, 5, 7, 0, none⟩⟩
  form := rfl
  limited := by decide
  writes _ _ := rfl
  counts _ _ := rfl
  reads _ := rfl
  made := rfl
  kind := rfl
  scale := rfl

def dateTime2 : PlainType where
  typeInfo := .dateTime2
  wire := ⟨.dateTime2N, 8, 7, 0, none⟩
  bytes := [dataTypeDateTime2N, 7]
  back := ⟨.dateTime2, true, some 8, some ⟨.dateTime2N, 8, 7, 0, none⟩⟩
  form := rfl
  limited := by decide
  writes _ _ := rfl
  counts _ _ := rfl
  reads _ := rfl
  made := rfl
  kind := rfl
  scale := rfl

def dateTimeOffset : PlainType where
  typeInfo := .dateTimeOffset
  wire := ⟨.dateTimeOffsetN, 10, 7, 0, none⟩
  bytes := [dataTypeDateTimeOffsetN, 7]
  back := ⟨.dateTimeOffset, true, some 10, some ⟨.dateTimeOffsetN, 10, 7, 0, none⟩⟩
  form := rfl
  limited := by decide
  writes _ _ := rfl
  counts _ _ := rfl
  reads _ := rfl
  made := rfl
  kind := rfl
  scale := rfl

def uniqueIdentifier : PlainType where
  typeInfo := .uniqueIdentifier
  wire := .new .guid 16
  bytes := [dataTypeGuid, 16]
  back := ⟨.uniqueIdentifier, true, some 16, some (.new .guid 16)⟩
  form := rfl
  limited := by decide
  writes _ _ := rfl
  counts _ _ := rfl
  reads _ := rfl
  made := rfl
  kind := rfl
  scale := rfl

def decimal (scale : UInt8) : PlainType where
  typeInfo := .decimalWithScale scale
  wire := ⟨.numericN, 17, scale, 38, none⟩
  bytes := [dataTypeNumericN, 17, 38, scale]
  back := ⟨.decimal, true, some 17, some ⟨.numericN, 17, scale, 38, none⟩⟩
  form := rfl
  limited := by
    change some (UInt16.ofNat 17) ≠ some u16Max
    decide
  writes _ _ := rfl
  counts _ _ := rfl
  reads := reads_numericN scale
  made := rfl
  kind := rfl
  scale := rfl

end PlainType

/-- The length of a value that is written can be told from that of a NULL. -/
def Countable (encoded : Bytes) : Prop := encoded ≠ [] ∧ encoded.length < 255

theorem countable_of_length {encoded : Bytes} (length : 0 < encoded.length ∧ encoded.length < 255) :
    Countable encoded := ⟨List.ne_nil_of_length_pos length.1, length.2⟩

section travelling
variable {name : String} {encoded : Bytes}

theorem PlainType.travels (type : PlainType) (short : (encodeUtf16 name).length ≤ 255)
    {isNull : Bool} (fits : isNull = false → Countable encoded) :
    Travels name 0 type.typeInfo encoded isNull type.wire := by
  cases isNull with
  | true =>
    have written : (writeParamLenData type.typeInfo encoded true).Writes [0] () := by
      rw [writeParamLenData, type.counts]
      rfl
    exact travels_of_parts short 0 (type.writes _ _) written type.reads
      fun _ => reads_getValue (.byteLenNull type.form (.inl rfl))
  | false =>
    obtain ⟨nonempty, small⟩ := fits rfl
    have count : u8TryFrom encoded.length = .ok (UInt8.ofNat encoded.length) := if_pos (by omega)
    have present : (!false) = true ∧ type.typeInfo.size ≠ some u16Max := ⟨rfl, type.limited⟩
    have written : (writeParamLenData type.typeInfo encoded false).Writes
        ([UInt8.ofNat encoded.length] ++ encoded) () := by
      rw [writeParamLenData, type.counts, count, if_pos present]
      rfl
    exact travels_of_parts short 0 (type.writes _ _) written type.reads
      fun _ => reads_getValue (.byteLen type.form nonempty small)

theorem PlainType.readsAs (type : PlainType) {value : EncodeValue}
    (typed : value.typeInfo = type.typeInfo) {isNull : IsNull}
    (encodes : value.encode = .ok (encoded, isNull)) (fits : isNull = .no → Countable encoded)
    {accepts : MssqlValue → Prop}
    (accepted : accepts ⟨type.back, if isNull == .yes then none else some encoded⟩) :
    value.ReadsAs (Receives accepts) := by
  intro name other null bytes encodesAgain written
  obtain ⟨rfl, rfl⟩ := Prod.mk.inj (Except.ok.inj (encodes.symm.trans encodesAgain))
  obtain ⟨_, _, _, _, named, _⟩ := Put.Writes.of_bind written
  have present : (isNull == .yes) = false → isNull = .no := by cases isNull <;> decide
  obtain ⟨travelled, writes, reads⟩ :=
    type.travels (short_of_writes named) fun here => fits (present here)
  rw [typed] at written
  obtain ⟨rfl, _⟩ := Put.mk.inj (written.symm.trans writes)
  exact ⟨_, reads, rfl, rfl, type.back, type.made, accepted⟩

section
variable (type : PlainType) {value : EncodeValue} (typed : value.typeInfo = type.typeInfo)
  {accepts : MssqlValue → Prop}
include typed

theorem PlainType.readsAs_value (encodes : value.encode = .ok (encoded, .no))
    (counted : Countable encoded) (accepted : accepts ⟨type.back, some encoded⟩) :
    value.ReadsAs (Receives accepts) := type.readsAs typed encodes (fun _ => counted) accepted

theorem PlainType.readsAs_null (encodes : value.encode = .ok ([], .yes))
    (accepted : accepts ⟨type.back, none⟩) : value.ReadsAs (Receives accepts) :=
  type.readsAs typed encodes (fun present => by cases present) accepted

end

theorem PlainType.readsAs_ofType (type : PlainType) {ofType : MssqlTypeInfo}
    (same : type.typeInfo = ofType) {encode : Except BoxDynError Bytes}
    (encodes : encode = .ok encoded) (counted : Countable encoded) {accepts : MssqlValue → Prop}
    (accepted : ∀ typeInfo : MssqlTypeInfo, typeInfo.kind = ofType.kind →
      typeInfo.scale = ofType.scale → accepts ⟨typeInfo, some encoded⟩) :
    EncodeValue.ReadsAs { produces := none, ofType, encode := do return (← encode, .no) }
      (Receives accepts) := by
  subst same encodes
  exact type.readsAs_value rfl rfl counted (accepted type.back type.kind type.scale)

end travelling
end SqlxSqlserver.Driver

import SqlxSqlserver.Foundation.Fallible
import SqlxSqlserver.Foundation.Put
import SqlxSqlserver.Driver.Value
import SqlxSqlserver.Protocol.WireForm

/-! Writing a value of a type: `put_value` appends the value to a buffer behind a length field that
it fills in afterwards. Its groups of types and its lengths are not those of `get_value`. -/

namespace SqlxSqlserver.Protocol
open Foundation Reader Driver

/-- `value.encode(out)`: what a value appends to any buffer, and whether it is NULL. -/
abbrev Encoding := Put BoxDynError IsNull

abbrev Buffered := Bytes × Except BoxDynError Unit

namespace TypeInfo

def plpChunkSize : Nat := 8192

def putFixedValue (value : Encoding) (out : Bytes) : Buffered :=
  (out ++ value.written, value.result.map fun _ => ())

/-- The length field of `width` bytes is reserved at `offset` and filled in behind the value. -/
def putLenValue (width null : Nat) (value : Encoding) (out : Bytes) : Buffered :=
  let offset := out.length
  let out := out ++ leBytes width 0 ++ value.written
  let size := do
    match ← value.result with
    | .yes => return null
    | .no => checked .tryFromInt (256 ^ width - 1) (out.length - offset - width)
  match size with
  | .error error => (out, .error error)
  | .ok size => (out.take offset ++ leBytes width size ++ out.drop (offset + width), .ok ())

def putByteLenValue : Encoding → Bytes → Buffered := putLenValue 1 0xff

def putShortLenValue : Encoding → Bytes → Buffered := putLenValue 2 0xffff

def putLongLenValue : Encoding → Bytes → Buffered := putLenValue 4 0xffffffff

def putBlobChunks : List Bytes → Bytes → Buffered
  | [], out => (out ++ leBytes 4 0, .ok ())
  | chunk :: rest, out =>
    match checked .tryFromInt (2 ^ 32 - 1) chunk.length with
    | .error error => (out, .error error)
    | .ok size => putBlobChunks rest (out ++ leBytes 4 size ++ chunk)

def putBigBlob (value : Encoding) (out : Bytes) : Buffered :=
  match value.result with
  | .error error => (out, .error error)
  | .ok .yes => (out ++ leBytes 8 plpNull, .ok ())
  | .ok .no =>
    let valueBuf := value.written
    putBlobChunks (chunks plpChunkSize valueBuf) (out ++ leBytes 8 valueBuf.length)

def putValue (self : TypeInfo) (value : Encoding) (out : Bytes) : Buffered :=
  match self.ty with
  | .null | .tinyInt | .bit | .smallInt | .int | .smallDateTime | .real | .money | .dateTime
  | .dateN | .float | .smallMoney | .bigInt => putFixedValue value out
  | .guid | .intN | .decimal | .numeric | .bitN | .decimalN | .numericN | .floatN | .moneyN
  | .dateTimeN | .timeN | .dateTime2N | .dateTimeOffsetN | .char | .varChar | .binary
  | .varBinary => putByteLenValue value out
  | .bigVarBinary | .bigVarChar | .bigBinary | .bigChar | .nVarChar | .nChar | .xml
  | .userDefined =>
    if self.size = 0xffff then putBigBlob value out else putShortLenValue value out
  | .text | .image | .nText | .variant => putLongLenValue value out

end TypeInfo

def encodingOf : Option Bytes → Encoding
  | none => ⟨[], .ok .yes⟩
  | some data => ⟨data, .ok .no⟩

/-- The values of a type: NULL where the type is nullable, and the data of its group. -/
def TypeInfo.Allows (self : TypeInfo) : Option Bytes → Prop
  | none => self.ty.valueForm ≠ .fixed
  | some data =>
    match self.ty.valueForm with
    | .absent | .fixed => data.length = self.size
    | .byteLen => data ≠ []
    | .charLen | .shortLen | .longLen => True

/-- Writer and reader agree on the group of the type, and no length is a marker for NULL. -/
def TypeInfo.Delimits (self : TypeInfo) (value : Option Bytes) : Prop :=
  self.ty ≠ .dateN ∧ ∀ data, value = some data →
    match self.ty.valueForm with
    | .absent => False
    | .fixed => True
    | .byteLen | .charLen => data.length ≠ 0xff
    | .shortLen => self.size = 0xffff ∨ data.length ≠ 0xffff
    | .longLen => data.length ≠ 0xffffffff

/-- Whatever the writer has put behind the bytes of a buffer is read back as the value, up to the
bytes that follow. -/
def TypeInfo.RoundTrips (self : TypeInfo) (value : Option Bytes) : Prop :=
  ∀ out after, self.putValue (encodingOf value) out = (after, .ok ()) →
    ∃ written, after = out ++ written ∧ Reads self.getValue written value

section writers
variable {width null : Nat}

def lenBytes (width null : Nat) : Option Bytes → Bytes
  | none => leBytes width null
  | some data => leBytes width data.length ++ data

def blobBytes : Option Bytes → Bytes
  | none => leBytes 8 TypeInfo.plpNull
  | some data =>
    leBytes 8 data.length ++ (plpChunkBytes (chunks TypeInfo.plpChunkSize data) ++ leBytes 4 0)

theorem filled_in (out data : Bytes) (width size : Nat) :
    (out ++ leBytes width 0 ++ data).take out.length ++ leBytes width size ++
      (out ++ leBytes width 0 ++ data).drop (out.length + width) =
      out ++ (leBytes width size ++ data) := by
  have reserved : (out ++ leBytes width 0).length = out.length + width := by
    rw [List.length_append, leBytes_length]
  have behind : (out ++ leBytes width 0 ++ data).drop (out.length + width) = data := by
    rw [← reserved, List.drop_left]
  rw [behind, List.append_assoc out, List.take_left, List.append_assoc]

theorem putLenValue_ok_iff (value : Option Bytes) (out after : Bytes) :
    TypeInfo.putLenValue width null (encodingOf value) out = (after, .ok ()) ↔
      (∀ data, value = some data → data.length < 256 ^ width) ∧
        after = out ++ lenBytes width null value := by
  have positive : 0 < 256 ^ width := Nat.pow_pos (by decide)
  cases value with
  | none =>
    have written : TypeInfo.putLenValue width null (encodingOf none) out =
        (out ++ (leBytes width null ++ []), .ok ()) :=
      congrArg (·, Except.ok ()) (filled_in out [] width null)
    rw [written, List.append_nil]
    simp [lenBytes, eq_comm]
  | some data =>
    have counted : (out ++ leBytes width 0 ++ data).length - out.length - width = data.length := by
      simp only [List.length_append, leBytes_length]
      omega
    unfold TypeInfo.putLenValue encodingOf
    by_cases fits : data.length < 256 ^ width
    · have size : checked BoxDynError.tryFromInt (256 ^ width - 1)
          ((out ++ leBytes width 0 ++ data).length - out.length - width) = .ok data.length := by
        rw [counted]
        exact if_pos (by omega)
      simp only [bind, Except.bind, size, filled_in]
      simp [lenBytes, fits, eq_comm]
    · have size : checked BoxDynError.tryFromInt (256 ^ width - 1)
          ((out ++ leBytes width 0 ++ data).length - out.length - width) = .error .tryFromInt := by
        rw [counted]
        exact if_neg (by omega)
      simp only [bind, Except.bind, size]
      simp [fits]

theorem putFixedValue_ok_iff (value : Option Bytes) (out after : Bytes) :
    TypeInfo.putFixedValue (encodingOf value) out = (after, .ok ()) ↔
      after = out ++ value.getD [] := by
  cases value with
  | none => simp [TypeInfo.putFixedValue, encodingOf, Except.map, eq_comm]
  | some data => simp [TypeInfo.putFixedValue, encodingOf, Except.map, eq_comm]

theorem putBlobChunks_written (pieces : List Bytes) (out : Bytes)
    (short : ∀ piece ∈ pieces, piece.length < 2 ^ 32) :
    TypeInfo.putBlobChunks pieces out =
      (out ++ (plpChunkBytes pieces ++ leBytes 4 0), .ok ()) := by
  induction pieces generalizing out with
  | nil => rfl
  | cons piece pieces ih =>
    have size : checked BoxDynError.tryFromInt (2 ^ 32 - 1) piece.length = .ok piece.length :=
      if_pos (Nat.le_sub_one_of_lt (short piece List.mem_cons_self))
    have others := ih (out ++ leBytes 4 piece.length ++ piece)
      (fun other member => short other (List.mem_cons_of_mem _ member))
    rw [TypeInfo.putBlobChunks, size]
    dsimp only
    rw [others, plpChunkBytes_cons]
    simp only [List.append_assoc]

theorem putBigBlob_written (value : Option Bytes) (out : Bytes) :
    TypeInfo.putBigBlob (encodingOf value) out = (out ++ blobBytes value, .ok ()) := by
  cases value with
  | none => rfl
  | some data =>
    have short : ∀ piece ∈ chunks TypeInfo.plpChunkSize data, piece.length < 2 ^ 32 :=
      fun piece member => (chunk_length_le member).trans_lt (by decide)
    have written := putBlobChunks_written _ (out ++ leBytes 8 data.length) short
    rw [List.append_assoc] at written
    exact written

end writers

section groups
variable {typeInfo : TypeInfo} {value : Option Bytes} {out after : Bytes}

/-- Outside of DATE the groups of the writer are those of the reader. -/
theorem putValue_grouped (same : typeInfo.ty ≠ .dateN) (value : Encoding) (out : Bytes) :
    typeInfo.putValue value out = match typeInfo.ty.valueForm with
      | .absent | .fixed => TypeInfo.putFixedValue value out
      | .byteLen | .charLen => TypeInfo.putByteLenValue value out
      | .shortLen =>
        if typeInfo.size = 0xffff then TypeInfo.putBigBlob value out
        else TypeInfo.putShortLenValue value out
      | .longLen => TypeInfo.putLongLenValue value out := by
  unfold TypeInfo.putValue
  cases ty : typeInfo.ty with
  | dateN => exact absurd ty same
  | _ => rfl

theorem wireForm_of_putLen {width null : Nat}
    (done : TypeInfo.putLenValue width null (encodingOf value) out = (after, .ok ()))
    (absent : IsWireForm typeInfo none (leBytes width null))
    (present : ∀ data, value = some data → data.length < 256 ^ width →
      IsWireForm typeInfo (some data) (leBytes width data.length ++ data)) :
    ∃ written, after = out ++ written ∧ IsWireForm typeInfo value written := by
  obtain ⟨fits, appended⟩ := (putLenValue_ok_iff value out after).mp done
  refine ⟨_, appended, ?_⟩
  cases value with
  | none => exact absent
  | some data => exact present data rfl (fits data rfl)

theorem wireForm_of_putBigBlob (form : typeInfo.ty.valueForm = .shortLen)
    (max : typeInfo.size = 0xffff) (vector : ∀ data, value = some data → data.length ≤ isizeMax)
    (done : TypeInfo.putBigBlob (encodingOf value) out = (after, .ok ())) :
    ∃ written, after = out ++ written ∧ IsWireForm typeInfo value written := by
  rw [putBigBlob_written] at done
  obtain ⟨rfl, _⟩ := Prod.mk.inj done
  refine ⟨_, rfl, ?_⟩
  cases value with
  | none => exact .chunkedNull form max
  | some data =>
    have positive : 0 < TypeInfo.plpChunkSize := by decide
    have chunked : IsWireForm typeInfo (some (chunks TypeInfo.plpChunkSize data).flatten) _ :=
      .chunked form max
        (fun _ member => (chunk_length_le member).trans_lt (by decide))
        (fun _ member => chunk_ne_nil positive member)
        (.inr ⟨rfl, by rw [chunks_flatten positive]; exact vector data rfl⟩)
    rw [chunks_flatten positive] at chunked
    exact chunked

theorem putValue_wireForm (allowed : typeInfo.Allows value) (delimits : typeInfo.Delimits value)
    (vector : ∀ data, value = some data → data.length ≤ isizeMax)
    (done : typeInfo.putValue (encodingOf value) out = (after, .ok ())) :
    ∃ written, after = out ++ written ∧ IsWireForm typeInfo value written := by
  rw [putValue_grouped delimits.1] at done
  have apart := delimits.2
  unfold TypeInfo.Allows at allowed
  cases form : typeInfo.ty.valueForm with
  | absent =>
    rw [form] at done allowed apart
    refine ⟨_, (putFixedValue_ok_iff value out after).mp done, ?_⟩
    cases value with
    | none => exact .absent form
    | some data => exact (apart data rfl).elim
  | fixed =>
    rw [form] at done allowed
    refine ⟨_, (putFixedValue_ok_iff value out after).mp done, ?_⟩
    cases value with
    | none => exact absurd rfl allowed
    | some data => exact .fixed form allowed
  | byteLen =>
    rw [form] at done allowed apart
    refine wireForm_of_putLen done (.byteLenNull form (.inr rfl)) ?_
    rintro data rfl short
    have marker := apart data rfl
    exact .byteLen form allowed (by omega)
  | charLen =>
    rw [form] at done apart
    refine wireForm_of_putLen done (.charLenNull form) ?_
    intro data same short
    have marker := apart data same
    exact .charLen form (by omega)
  | shortLen =>
    rw [form] at done apart
    dsimp only at done
    by_cases max : typeInfo.size = 0xffff
    · rw [if_pos max] at done
      exact wireForm_of_putBigBlob form max vector done
    · rw [if_neg max] at done
      refine wireForm_of_putLen done (.shortLenNull form max) ?_
      intro data same short
      have marker := (apart data same).resolve_left max
      exact .shortLen form max (by omega)
  | longLen =>
    rw [form] at done apart
    refine wireForm_of_putLen done (.longLenNull form) ?_
    intro data same short
    have marker := apart data same
    exact .longLen form (by omega)

theorem byteLen_reads_length {bytes data : Bytes} (form : typeInfo.ty.valueForm = .byteLen)
    (reads : Reads typeInfo.getValue bytes (some data)) : bytes.length = data.length + 1 := by
  have outcome := reads []
  rw [List.append_nil, TypeInfo.getValue, form] at outcome
  obtain ⟨size, middle, first, rest⟩ := of_bind_ok outcome
  obtain ⟨_, _, number, same⟩ := of_bind_ok first
  obtain ⟨head, rfl, one, _⟩ := le_ok number
  cases same
  split at rest
  next => cases rest
  next =>
    obtain ⟨chunk, behind, taken, last⟩ := of_bind_ok rest
    cases last
    obtain ⟨rfl, _⟩ := take_ok taken
    rw [List.length_append, one, List.append_nil, Nat.add_comm]

/-- A value whose length is the marker for NULL is read as NULL. -/
theorem not_roundTrips_of_marker {width null : Nat} {data : Bytes} (small : null < 256 ^ width)
    (absent : IsWireForm typeInfo none (leBytes width null))
    (writes : typeInfo.putValue (encodingOf (some data)) [] =
      TypeInfo.putLenValue width null (encodingOf (some data)) [])
    (marker : data.length = null) : ¬typeInfo.RoundTrips (some data) := by
  intro roundTrips
  have done : typeInfo.putValue (encodingOf (some data)) [] = (leBytes width null ++ data, .ok ()) := by
    refine writes.trans ((putLenValue_ok_iff _ _ _).mpr ⟨?_, ?_⟩)
    · rintro _ ⟨⟩
      rwa [marker]
    · rw [lenBytes, marker, List.nil_append]
  obtain ⟨written, appended, reads⟩ := roundTrips [] _ done
  rw [List.nil_append] at appended
  have asData := reads []
  rw [← appended, List.append_nil, reads_getValue absent data] at asData
  cases asData

/-- DATE is written without a length and read behind one. -/
theorem not_roundTrips_date (date : typeInfo.ty = .dateN) (value : Option Bytes) :
    ¬typeInfo.RoundTrips value := by
  intro roundTrips
  have form : typeInfo.ty.valueForm = .byteLen := by rw [date]; rfl
  have done : typeInfo.putValue (encodingOf value) [] = (value.getD [], .ok ()) := by
    rw [TypeInfo.putValue, date]
    exact (putFixedValue_ok_iff value [] _).mpr rfl
  obtain ⟨written, appended, reads⟩ := roundTrips [] _ done
  rw [List.nil_append] at appended
  subst appended
  cases value with
  | none =>
    have outcome := reads []
    rw [TypeInfo.getValue, form] at outcome
    cases outcome
  | some data =>
    have longer := byteLen_reads_length form reads
    rw [Option.getD_some] at longer
    omega

theorem delimits_of_roundTrips (roundTrips : typeInfo.RoundTrips value) :
    typeInfo.Delimits value := by
  have dated : typeInfo.ty ≠ .dateN := fun date => not_roundTrips_date date value roundTrips
  refine ⟨dated, ?_⟩
  rintro data rfl
  have grouped := putValue_grouped dated (encodingOf (some data)) []
  cases form : typeInfo.ty.valueForm with
  | absent =>
    rw [form] at grouped
    have done := grouped.trans ((putFixedValue_ok_iff (some data) [] data).mpr rfl)
    obtain ⟨written, _, reads⟩ := roundTrips [] _ done
    have outcome := reads []
    rw [TypeInfo.getValue, form] at outcome
    cases outcome
  | fixed => trivial
  | byteLen =>
    intro marker
    rw [form] at grouped
    exact not_roundTrips_of_marker (by decide) (.byteLenNull form (.inr rfl)) grouped marker
      roundTrips
  | charLen =>
    intro marker
    rw [form] at grouped
    exact not_roundTrips_of_marker (by decide) (.charLenNull form) grouped marker roundTrips
  | shortLen =>
    by_cases max : typeInfo.size = 0xffff
    · exact .inl max
    · right
      intro marker
      rw [form] at grouped
      dsimp only at grouped
      rw [if_neg max] at grouped
      exact not_roundTrips_of_marker (by decide) (.shortLenNull form max) grouped marker roundTrips
  | longLen =>
    intro marker
    rw [form] at grouped
    exact not_roundTrips_of_marker (by decide) (.longLenNull form) grouped marker roundTrips

/-- A value comes back exactly when the type is not DATE, a type without values is given none, and
the length of the value is not the marker of its group for NULL. -/
theorem putValue_roundTrips_iff (typeInfo : TypeInfo) (value : Option Bytes)
    (allowed : typeInfo.Allows value)
    (vector : ∀ data, value = some data → data.length ≤ isizeMax) :
    typeInfo.RoundTrips value ↔ typeInfo.Delimits value := by
  constructor
  · exact delimits_of_roundTrips
  · intro delimits out after done
    obtain ⟨written, appended, form⟩ := putValue_wireForm allowed delimits vector done
    exact ⟨written, appended, reads_getValue form⟩

/-- `NVARCHAR(10)` with the text "hi". -/
theorem putValue_roundTrips_hi : (TypeInfo.new .nVarChar 20).RoundTrips (some [104, 0, 105, 0]) := by
  have allowed : (TypeInfo.new .nVarChar 20).Allows (some [104, 0, 105, 0]) := trivial
  refine (putValue_roundTrips_iff _ _ allowed ?_).mpr ⟨by decide, ?_⟩
  · rintro _ ⟨⟩
    decide
  · rintro _ ⟨⟩
    exact .inr (by decide)

/-- A `VARCHAR(255)` that is full is written with the length byte of NULL. -/
theorem full_varChar_reads_null : ¬∀ (typeInfo : TypeInfo) (value : Option Bytes),
    typeInfo.Allows value → (∀ data, value = some data → data.length ≤ isizeMax) →
      typeInfo.RoundTrips value := by
  intro always
  have vector : ∀ data, some (List.replicate 255 (0x61 : UInt8)) = some data →
      data.length ≤ isizeMax := by
    rintro _ ⟨⟩
    rw [List.length_replicate]
    decide
  have full := always (.new .varChar 255) (some (List.replicate 255 0x61)) trivial vector
  exact (delimits_of_roundTrips full).2 _ rfl (List.length_replicate ..)

end groups

end SqlxSqlserver.Protocol

import SqlxSqlserver.Foundation.Chunks
import SqlxSqlserver.Protocol.TypeInfo

/-! The wire forms of a value: every group of types delimits its values in its own way and has its
own marker for NULL, and `get_value` reads each form back whole. -/

namespace SqlxSqlserver.Protocol
open Foundation Reader

def plpChunkBytes (pieces : List Bytes) : Bytes :=
  pieces.flatMap fun piece => leBytes 4 piece.length ++ piece

theorem plpChunkBytes_cons (piece : Bytes) (pieces : List Bytes) :
    plpChunkBytes (piece :: pieces) = leBytes 4 piece.length ++ (piece ++ plpChunkBytes pieces) :=
  List.append_assoc _ _ _

theorem reads_plpChunk {piece : Bytes} (short : piece.length < 2 ^ 32) (nonempty : piece ≠ [])
    (data : Bytes) :
    Reads (TypeInfo.blobChunk data) (leBytes 4 piece.length ++ piece) (.inl (data ++ piece)) := by
  intro rest
  have size : TypeInfo.readU32Le (leBytes 4 piece.length ++ (piece ++ rest)) =
      .ok (piece.length, piece ++ rest) := reads_le_leBytes _ short _
  have positive : ¬piece.length = 0 := fun zero => nonempty (List.length_eq_zero_iff.mp zero)
  rw [List.append_assoc, TypeInfo.blobChunk, bind_ok size, if_neg positive]
  exact bind_ok (reads_take _ piece rest) _

theorem reads_plpChunks (pieces : List Bytes) (short : ∀ piece ∈ pieces, piece.length < 2 ^ 32)
    (nonempty : ∀ piece ∈ pieces, piece ≠ []) (data : Bytes) :
    Reads (Reader.loop TypeInfo.blobChunk data) (plpChunkBytes pieces ++ leBytes 4 0)
      (data ++ pieces.flatten) := by
  induction pieces generalizing data with
  | nil =>
    apply Reads.loop_break TypeInfo.progress_blobChunk
    intro rest
    have size : TypeInfo.readU32Le (leBytes 4 0 ++ rest) = .ok (0, rest) :=
      reads_le_leBytes _ (by decide) rest
    rw [plpChunkBytes, List.flatMap_nil, List.nil_append, TypeInfo.blobChunk, bind_ok size,
      if_pos rfl, List.flatten_nil, List.append_nil]
    rfl
  | cons piece pieces ih =>
    have fits := short piece (List.mem_cons_self ..)
    have some := nonempty piece (List.mem_cons_self ..)
    have others := ih (fun other member => short other (List.mem_cons_of_mem _ member))
      (fun other member => nonempty other (List.mem_cons_of_mem _ member)) (data ++ piece)
    have round := reads_plpChunk fits some data
    have whole := round.loop_step TypeInfo.progress_blobChunk others
    rwa [List.append_assoc data, ← List.flatten_cons, List.append_assoc,
      ← List.append_assoc piece, ← List.append_assoc, ← plpChunkBytes_cons] at whole

/-- `bytes` is a value of the type on the wire, with `none` for NULL. A chunked value is cut into
chunks in any way and announced with its length, which a vector can hold, or with an unknown one. -/
inductive IsWireForm (typeInfo : TypeInfo) : Option Bytes → Bytes → Prop where
  | absent (form : typeInfo.ty.valueForm = .absent) : IsWireForm typeInfo none []
  | fixed {data : Bytes} (form : typeInfo.ty.valueForm = .fixed)
      (full : data.length = typeInfo.size) : IsWireForm typeInfo (some data) data
  | byteLen {data : Bytes} (form : typeInfo.ty.valueForm = .byteLen) (nonempty : data ≠ [])
      (short : data.length < 0xff) :
      IsWireForm typeInfo (some data) (UInt8.ofNat data.length :: data)
  | byteLenNull {marker : UInt8} (form : typeInfo.ty.valueForm = .byteLen)
      (known : marker = 0 ∨ marker = 0xff) : IsWireForm typeInfo none [marker]
  | charLen {data : Bytes} (form : typeInfo.ty.valueForm = .charLen) (short : data.length < 0xff) :
      IsWireForm typeInfo (some data) (UInt8.ofNat data.length :: data)
  | charLenNull (form : typeInfo.ty.valueForm = .charLen) : IsWireForm typeInfo none [0xff]
  | shortLen {data : Bytes} (form : typeInfo.ty.valueForm = .shortLen)
      (limited : typeInfo.size ≠ 0xffff) (short : data.length < 0xffff) :
      IsWireForm typeInfo (some data) (leBytes 2 data.length ++ data)
  | shortLenNull (form : typeInfo.ty.valueForm = .shortLen) (limited : typeInfo.size ≠ 0xffff) :
      IsWireForm typeInfo none (leBytes 2 0xffff)
  | chunked {pieces : List Bytes} {announced : Nat} (form : typeInfo.ty.valueForm = .shortLen)
      (max : typeInfo.size = 0xffff) (short : ∀ piece ∈ pieces, piece.length < 2 ^ 32)
      (nonempty : ∀ piece ∈ pieces, piece ≠ [])
      (header : announced = TypeInfo.plpUnknown ∨
        announced = pieces.flatten.length ∧ announced ≤ isizeMax) :
      IsWireForm typeInfo (some pieces.flatten)
        (leBytes 8 announced ++ (plpChunkBytes pieces ++ leBytes 4 0))
  | chunkedNull (form : typeInfo.ty.valueForm = .shortLen) (max : typeInfo.size = 0xffff) :
      IsWireForm typeInfo none (leBytes 8 TypeInfo.plpNull)
  | longLen {data : Bytes} (form : typeInfo.ty.valueForm = .longLen)
      (short : data.length < 0xffffffff) :
      IsWireForm typeInfo (some data) (leBytes 4 data.length ++ data)
  | longLenNull (form : typeInfo.ty.valueForm = .longLen) :
      IsWireForm typeInfo none (leBytes 4 0xffffffff)

/-- The values of a type: NULL unless the type has a fixed size, and the data that its length
field can announce without naming the marker. -/
def TypeInfo.Admits (self : TypeInfo) : Option Bytes → Prop
  | none => self.ty.valueForm ≠ .fixed
  | some data =>
    match self.ty.valueForm with
    | .absent => False
    | .fixed => data.length = self.size
    | .byteLen => data ≠ [] ∧ data.length < 0xff
    | .charLen => data.length < 0xff
    | .shortLen => self.size = 0xffff ∨ data.length < 0xffff
    | .longLen => data.length < 0xffffffff

theorem exists_nullForm {typeInfo : TypeInfo} (admitted : typeInfo.Admits none) :
    ∃ bytes, IsWireForm typeInfo none bytes := by
  have nullable : typeInfo.ty.valueForm ≠ .fixed := admitted
  cases form : typeInfo.ty.valueForm with
  | absent => exact ⟨_, .absent form⟩
  | fixed => exact absurd form nullable
  | byteLen => exact ⟨_, .byteLenNull form (.inl rfl)⟩
  | charLen => exact ⟨_, .charLenNull form⟩
  | shortLen =>
    by_cases max : typeInfo.size = 0xffff
    · exact ⟨_, .chunkedNull form max⟩
    · exact ⟨_, .shortLenNull form max⟩
  | longLen => exact ⟨_, .longLenNull form⟩

theorem exists_dataForm {typeInfo : TypeInfo} {data : Bytes}
    (admitted : typeInfo.Admits (some data)) : ∃ bytes, IsWireForm typeInfo (some data) bytes := by
  unfold TypeInfo.Admits at admitted
  cases form : typeInfo.ty.valueForm with
  | absent => rw [form] at admitted; cases admitted
  | fixed => rw [form] at admitted; exact ⟨_, .fixed form admitted⟩
  | byteLen => rw [form] at admitted; exact ⟨_, .byteLen form admitted.1 admitted.2⟩
  | charLen => rw [form] at admitted; exact ⟨_, .charLen form admitted⟩
  | shortLen =>
    rw [form] at admitted
    by_cases max : typeInfo.size = 0xffff
    · have positive : 0 < 0xffffffff := by decide
      have chunked : IsWireForm typeInfo (some (chunks 0xffffffff data).flatten) _ :=
        .chunked form max (fun _ member => Nat.lt_succ_of_le (chunk_length_le member))
          (fun _ member => chunk_ne_nil positive member) (.inl rfl)
      rw [chunks_flatten positive] at chunked
      exact ⟨_, chunked⟩
    · exact ⟨_, .shortLen form max (admitted.resolve_left max)⟩
  | longLen => rw [form] at admitted; exact ⟨_, .longLen form admitted⟩

section sized
variable {σ : Type} (read : Reader TypeInfoError σ) (isNull : σ → Prop) [DecidablePred isNull]
  (count : σ → Nat) {lengthBytes : Bytes} {size : σ}

theorem reads_marker (length : Reads read lengthBytes size) (marker : isNull size) :
    Reads (do
      let size ← read
      if isNull size then return none else return some (← TypeInfo.take (count size)))
      lengthBytes none := by
  intro rest
  rw [bind_ok (length rest), if_pos marker]
  rfl

theorem reads_sized {data : Bytes} (length : Reads read lengthBytes size)
    (present : ¬isNull size) (counted : count size = data.length) :
    Reads (do
      let size ← read
      if isNull size then return none else return some (← TypeInfo.take (count size)))
      (lengthBytes ++ data) (some data) := by
  intro rest
  rw [List.append_assoc, bind_ok (length _), if_neg present, counted]
  exact bind_ok (reads_take _ data rest) _

end sized

theorem reads_blobNull : Reads TypeInfo.getBigBlob (leBytes 8 TypeInfo.plpNull) none := by
  intro rest
  have header : TypeInfo.readU64Le (leBytes 8 TypeInfo.plpNull ++ rest) =
      .ok (TypeInfo.plpNull, rest) := reads_le_leBytes _ (by decide) rest
  rw [TypeInfo.getBigBlob, bind_ok header, if_pos rfl]
  rfl

/-- The announced length is only a capacity: the chunks decide where the value ends. -/
theorem reads_blob {pieces : List Bytes} {announced : Nat}
    (short : ∀ piece ∈ pieces, piece.length < 2 ^ 32) (nonempty : ∀ piece ∈ pieces, piece ≠ [])
    (granted : announced = TypeInfo.plpUnknown ∨ announced ≤ isizeMax) :
    Reads TypeInfo.getBigBlob (leBytes 8 announced ++ (plpChunkBytes pieces ++ leBytes 4 0))
      (some pieces.flatten) := by
  intro rest
  have fits : announced < 256 ^ 8 ∧ announced ≠ TypeInfo.plpNull := by
    rw [TypeInfo.plpNull]
    rw [TypeInfo.plpUnknown, isizeMax] at granted
    omega
  have header : TypeInfo.readU64Le (leBytes 8 announced ++
      ((plpChunkBytes pieces ++ leBytes 4 0) ++ rest)) =
      .ok (announced, (plpChunkBytes pieces ++ leBytes 4 0) ++ rest) :=
    reads_le_leBytes _ fits.1 _
  have room : ¬(announced ≠ TypeInfo.plpUnknown ∧ isizeMax < announced) := by
    rintro ⟨known, large⟩
    exact granted.elim known (Nat.not_le.mpr large)
  have chunks := reads_plpChunks pieces short nonempty [] rest
  rw [List.append_assoc, TypeInfo.getBigBlob, bind_ok header, if_neg fits.2, if_neg room]
  exact bind_ok chunks _

theorem toNat_ofNat_length {data : Bytes} (short : data.length < 0xff) :
    (UInt8.ofNat data.length).toNat = data.length ∧ UInt8.ofNat data.length ≠ 0xff := by
  have number : (UInt8.ofNat data.length).toNat = data.length := by
    rw [UInt8.toNat_ofNat', Nat.mod_eq_of_lt (by omega)]
  refine ⟨number, fun same => ?_⟩
  rw [same] at number
  exact short.ne number.symm

/-- `get_value` reads every wire form of a type whole, and no further. -/
theorem reads_getValue {typeInfo : TypeInfo} {value : Option Bytes} {bytes : Bytes}
    (form : IsWireForm typeInfo value bytes) : Reads typeInfo.getValue bytes value := by
  unfold TypeInfo.getValue
  cases form with
  | absent form =>
    rw [form]
    exact reads_pure none
  | fixed form full =>
    rw [form, ← full]
    exact fun rest => bind_ok (reads_take _ bytes rest) _
  | @byteLen data form nonempty short =>
    obtain ⟨number, notFull⟩ := toNat_ofNat_length short
    have notEmpty : UInt8.ofNat data.length ≠ 0 := by
      intro same
      rw [same] at number
      exact nonempty (List.length_eq_zero_iff.mp number.symm)
    rw [form]
    exact reads_sized TypeInfo.readU8 (fun size => size = 0 ∨ size = 0xff) UInt8.toNat
      (reads_byte _ _) (not_or.mpr ⟨notEmpty, notFull⟩) number
  | byteLenNull form known =>
    rw [form]
    exact reads_marker TypeInfo.readU8 (fun size => size = 0 ∨ size = 0xff) UInt8.toNat
      (reads_byte _ _) known
  | charLen form short =>
    obtain ⟨number, notFull⟩ := toNat_ofNat_length short
    rw [form]
    exact reads_sized TypeInfo.readU8 (· = 0xff) UInt8.toNat (reads_byte _ _) notFull number
  | charLenNull form =>
    rw [form]
    exact reads_marker TypeInfo.readU8 (· = 0xff) UInt8.toNat (reads_byte _ _) rfl
  | shortLen form limited short =>
    rw [form]
    dsimp only
    rw [if_neg limited]
    exact reads_sized TypeInfo.readU16Le (· = 0xffff) id (reads_le_leBytes _ (by omega)) short.ne rfl
  | shortLenNull form limited =>
    rw [form]
    dsimp only
    rw [if_neg limited]
    exact reads_marker TypeInfo.readU16Le (· = 0xffff) id (reads_le_leBytes _ (by decide)) rfl
  | chunked form max short nonempty header =>
    rw [form]
    dsimp only
    rw [if_pos max]
    exact reads_blob short nonempty (header.imp_right And.right)
  | chunkedNull form max =>
    rw [form]
    dsimp only
    rw [if_pos max]
    exact reads_blobNull
  | longLen form short =>
    rw [form]
    exact reads_sized TypeInfo.readU32Le (· = 0xffffffff) id (reads_le_leBytes _ (by omega)) short.ne rfl
  | longLenNull form =>
    rw [form]
    exact reads_marker TypeInfo.readU32Le (· = 0xffffffff) id (reads_le_leBytes _ (by decide)) rfl

end SqlxSqlserver.Protocol

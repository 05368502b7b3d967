import SqlxSqlserver.Foundation.Truncation
import SqlxSqlserver.Protocol.PutValue
import SqlxSqlserver.Protocol.RpcParameter

/-! Values in chunks. The reader puts a value together however it was cut, and stops at a cut that
was not meant; the two writers of the driver cut alike. -/

namespace SqlxSqlserver.Protocol
open Foundation Reader Driver

/-- A value on the wire: what its header announces, its chunks, and the empty chunk. -/
def plpBytes (announced : Nat) (pieces : List Bytes) : Bytes :=
  leBytes 8 announced ++ (plpChunkBytes pieces ++ leBytes 4 0)

section truncation
variable {pieces : List Bytes} {announced : Nat}

theorem starves_plpChunk {piece : Bytes} (short : piece.length < 2 ^ 32) (nonempty : piece ≠ [])
    (data : Bytes) :
    Starves .unexpectedEof (TypeInfo.blobChunk data) (leBytes 4 piece.length ++ piece) := by
  have positive : ¬piece.length = 0 := fun zero => nonempty (List.length_eq_zero_iff.mp zero)
  apply (starves_le _ 4 piece.length).bind (reads_le_leBytes _ short)
  rw [if_neg positive]
  exact (starves_take piece).bind_head _

theorem starves_plpChunks (short : ∀ piece ∈ pieces, piece.length < 2 ^ 32)
    (nonempty : ∀ piece ∈ pieces, piece ≠ []) (data : Bytes) :
    Starves .unexpectedEof (Reader.loop TypeInfo.blobChunk data)
      (plpChunkBytes pieces ++ leBytes 4 0) := by
  induction pieces generalizing data with
  | nil => exact ((starves_le _ 4 0).bind_head _).loop_break TypeInfo.progress_blobChunk
  | cons piece pieces ih =>
    have fits := short piece List.mem_cons_self
    have some := nonempty piece List.mem_cons_self
    have others := ih (fun other member => short other (List.mem_cons_of_mem _ member))
      (fun other member => nonempty other (List.mem_cons_of_mem _ member)) (data ++ piece)
    have whole := (starves_plpChunk fits some data).loop_step TypeInfo.progress_blobChunk
      (reads_plpChunk fits some data) others
    rwa [List.append_assoc, ← List.append_assoc piece, ← List.append_assoc, ← plpChunkBytes_cons]
      at whole

/-- A value that is cut off is never read in part. -/
theorem starves_blob (short : ∀ piece ∈ pieces, piece.length < 2 ^ 32)
    (nonempty : ∀ piece ∈ pieces, piece ≠ [])
    (granted : announced = TypeInfo.plpUnknown ∨ announced ≤ isizeMax) :
    Starves .unexpectedEof TypeInfo.getBigBlob (plpBytes announced pieces) := by
  have fits : announced < 256 ^ 8 ∧ announced ≠ TypeInfo.plpNull := by
    rw [TypeInfo.plpNull]
    rw [TypeInfo.plpUnknown, isizeMax] at granted
    omega
  have room : ¬(announced ≠ TypeInfo.plpUnknown ∧ isizeMax < announced) := by
    rintro ⟨known, large⟩
    exact granted.elim known (Nat.not_le.mpr large)
  apply (starves_le _ 8 announced).bind (reads_le_leBytes _ fits.1)
  rw [if_neg fits.2, if_neg room]
  exact (starves_plpChunks short nonempty []).bind_head _

end truncation
section chunking

theorem driverChunks (data : Bytes) :
    (chunks TypeInfo.plpChunkSize data).flatten = data ∧
      ∀ piece ∈ chunks TypeInfo.plpChunkSize data, piece ≠ [] ∧ piece.length ≤ 8192 := by
  have positive : 0 < TypeInfo.plpChunkSize := by decide
  exact ⟨chunks_flatten positive data,
    fun _ member => ⟨chunk_ne_nil positive member, chunk_length_le member⟩⟩

/-- A value is put together from any chunks and under either header, nothing less than all of its
bytes is taken for a value, and both writers of the driver write it in the same chunks. -/
theorem plp_reassembles (data : Bytes) (vector : data.length ≤ isizeMax) :
    (∀ pieces announced, pieces.flatten = data →
      (∀ piece ∈ pieces, piece ≠ [] ∧ piece.length < 2 ^ 32) →
      (announced = data.length ∨ announced = TypeInfo.plpUnknown) →
      (∀ rest, TypeInfo.getBigBlob (plpBytes announced pieces ++ rest) = .ok (some data, rest)) ∧
      ∀ front, front <+: plpBytes announced pieces → front ≠ plpBytes announced pieces →
        TypeInfo.getBigBlob front = .err .unexpectedEof) ∧
    ∃ pieces, pieces.flatten = data ∧ (∀ piece ∈ pieces, piece ≠ [] ∧ piece.length ≤ 8192) ∧
      writePlpValue data false = ⟨plpBytes data.length pieces, .ok ()⟩ ∧
      ∀ out, TypeInfo.putBigBlob (encodingOf (some data)) out =
        (out ++ plpBytes data.length pieces, .ok ()) := by
  constructor
  · rintro pieces announced rfl cut header
    have short : ∀ piece ∈ pieces, piece.length < 2 ^ 32 := fun piece member => (cut piece member).2
    have nonempty : ∀ piece ∈ pieces, piece ≠ [] := fun piece member => (cut piece member).1
    have granted : announced = TypeInfo.plpUnknown ∨ announced ≤ isizeMax := by
      rcases header with rfl | unknown
      · exact .inr vector
      · exact .inl unknown
    constructor
    · exact reads_blob short nonempty granted
    · rintro front ⟨missing, split⟩ proper
      apply starves_blob short nonempty granted front missing split.symm
      rintro rfl
      rw [List.append_nil] at split
      exact proper split
  · obtain ⟨whole, small⟩ := driverChunks data
    exact ⟨_, whole, small, writes_plpValue data false, putBigBlob_written (some data)⟩

/-- Three bytes. -/
theorem plp_reassembles_three :
    TypeInfo.getBigBlob [0xfe, 0xff, 0xff, 0xff, 0xff, 0xff, 0xff, 0xff, 1, 0, 0, 0, 5, 2, 0, 0, 0, 6, 7,
      0, 0, 0, 0, 9] = .ok (some [5, 6, 7], [9]) :=
  ((plp_reassembles [5, 6, 7] (by decide)).1 [[5], [6, 7]] TypeInfo.plpUnknown rfl (by decide)
    (.inr rfl)).1 [9]

end chunking
end SqlxSqlserver.Protocol

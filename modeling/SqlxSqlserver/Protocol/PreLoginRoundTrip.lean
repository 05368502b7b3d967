import SqlxSqlserver.Protocol.PacketRoundTrip
import SqlxSqlserver.Protocol.PreLogin

/-! Options that are assembled and parsed again. The parser takes the first 0xff byte for the
terminator, so that an offset or a length with such a byte cuts the table off. -/

namespace SqlxSqlserver.Protocol
open Foundation

/-- No offset or length of a table whose data begin at an offset has a byte of the terminator. -/
def Legible : Nat → List PreLoginOption → Prop
  | _, [] => True
  | offset, option :: options =>
    (0xff ∉ beBytes 2 offset ∧ 0xff ∉ beBytes 2 option.data.length) ∧
      Legible (offset + option.data.length) options

instance decidableLegible : (offset : Nat) → (options : List PreLoginOption) →
    Decidable (Legible offset options)
  | _, [] => .isTrue trivial
  | offset, option :: options =>
    haveI := decidableLegible (offset + option.data.length) options
    inferInstanceAs (Decidable ((_ ∧ _) ∧ _))

section terminator
variable {offset : Nat} {option : PreLoginOption} {options : List PreLoginOption}

theorem mem_entryBytes_iff (regular : option.token ≠ .terminator) :
    0xff ∈ entryBytes offset option ↔
      0xff ∈ beBytes 2 offset ∨ 0xff ∈ beBytes 2 option.data.length := by
  have token : 0xff ≠ option.token.toByte := by
    intro same
    exact regular ((PreLoginOptionToken.toByte_eq_terminator _).mp same.symm)
  simp only [entryBytes, List.mem_append, List.mem_singleton, token, false_or]

theorem findIdx_entry_legible (regular : option.token ≠ .terminator)
    (legible : 0xff ∉ beBytes 2 offset ∧ 0xff ∉ beBytes 2 option.data.length) (rest : Bytes) :
    (entryBytes offset option ++ rest).findIdx? (· == 0xff) =
      (rest.findIdx? (· == 0xff)).map (· + 5) := by
  have absent : (entryBytes offset option).findIdx? (· == 0xff) = none := by
    rw [List.findIdx?_eq_none_iff]
    intro byte member
    rw [beq_eq_false_iff_ne]
    intro same
    rw [same, mem_entryBytes_iff regular] at member
    exact member.elim legible.1 legible.2
  rw [List.findIdx?_append, absent, Option.none_or, entryBytes_length]

/-- An entry with a byte of the terminator ends the table in its middle. -/
theorem findIdx_entry_illegible (regular : option.token ≠ .terminator)
    (illegible : ¬(0xff ∉ beBytes 2 offset ∧ 0xff ∉ beBytes 2 option.data.length)) (rest : Bytes) :
    ∃ k, (entryBytes offset option ++ rest).findIdx? (· == 0xff) = some k ∧ 0 < k ∧ k < 5 := by
  have found : 0xff ∈ entryBytes offset option := by
    rw [mem_entryBytes_iff regular]
    exact Decidable.or_iff_not_not_and_not.mpr illegible
  cases position : (entryBytes offset option).findIdx? (· == 0xff) with
  | none =>
    have absent := List.findIdx?_eq_none_iff.mp position 0xff found
    simp at absent
  | some k =>
    have ⟨inside, byte, _⟩ := List.findIdx?_eq_some_iff_getElem.mp position
    refine ⟨k, by rw [List.findIdx?_append, position, Option.some_or], ?_, ?_⟩
    · apply Nat.pos_of_ne_zero
      intro first
      subst first
      have token : option.token.toByte = 0xff := by simpa [entryBytes] using byte
      exact regular ((PreLoginOptionToken.toByte_eq_terminator _).mp token)
    · rwa [entryBytes_length] at inside

theorem findIdx_legible (regular : ∀ option ∈ options, option.token ≠ .terminator)
    (legible : Legible offset options) (rest : Bytes) :
    (tableBytes offset options ++ 0xff :: rest).findIdx? (· == 0xff) =
      some (5 * options.length) := by
  induction options generalizing offset with
  | nil => rfl
  | cons option options ih =>
    have ⟨first, others⟩ := List.forall_mem_cons.mp regular
    rw [tableBytes, List.append_assoc, findIdx_entry_legible first legible.1,
      ih others legible.2, Option.map_some, List.length_cons, Nat.mul_succ]

theorem findIdx_illegible (regular : ∀ option ∈ options, option.token ≠ .terminator)
    (illegible : ¬Legible offset options) (rest : Bytes) :
    ∃ k, (tableBytes offset options ++ 0xff :: rest).findIdx? (· == 0xff) = some k ∧ k % 5 ≠ 0 := by
  induction options generalizing offset with
  | nil => exact absurd trivial illegible
  | cons option options ih =>
    obtain ⟨first, others⟩ := List.forall_mem_cons.mp regular
    rw [tableBytes, List.append_assoc]
    by_cases entry : 0xff ∉ beBytes 2 offset ∧ 0xff ∉ beBytes 2 option.data.length
    · obtain ⟨k, position, inside⟩ := ih others fun tail => illegible ⟨entry, tail⟩
      refine ⟨k + 5, ?_, by rwa [Nat.add_mod_right]⟩
      rw [findIdx_entry_legible first entry, position, Option.map_some]
    · obtain ⟨k, position, positive, small⟩ := findIdx_entry_illegible first entry
        (tableBytes (offset + option.data.length) options ++ 0xff :: rest)
      exact ⟨k, position, by omega⟩

end terminator

section entries

theorem parseEntry_entryBytes {input : Bytes} {offset : Nat} {option : PreLoginOption}
    (near : offset ≤ maxPreLoginLen) (short : option.data.length ≤ maxPreLoginLen)
    (data : slice input offset (offset + option.data.length) = some option.data) :
    parseEntry input (entryBytes offset option) = .ok option := by
  have digits : ∀ value, value ≤ maxPreLoginLen →
      beNat [UInt8.ofNat (value / 256), UInt8.ofNat value] = value := by
    intro value bound
    have small : value < 256 ^ 2 := Nat.lt_succ_of_le bound
    exact beNat_beBytes_of_lt small
  have entry : entryBytes offset option =
      [option.token.toByte, UInt8.ofNat (offset / 256), UInt8.ofNat offset,
        UInt8.ofNat (option.data.length / 256), UInt8.ofNat option.data.length] := rfl
  rw [entry, parseEntry]
  simp only [List.getD_cons_zero, List.getD_cons_succ, PreLoginOptionToken.tryFrom_toByte,
    digits offset near, digits option.data.length short, data]
  rfl

theorem parseEntries (options : List PreLoginOption) (before : Bytes)
    (fits : before.length + dataLength options ≤ maxPreLoginLen) :
    (chunks 5 (tableBytes before.length options)).mapM
      (parseEntry (before ++ options.flatMap PreLoginOption.data)) = .ok options := by
  induction options generalizing before with
  | nil =>
    rw [tableBytes, chunks_nil (by decide)]
    rfl
  | cons option options ih =>
    rw [dataLength_cons] at fits
    have nonempty : tableBytes before.length (option :: options) ≠ [] := by
      simp [tableBytes, entryBytes]
    have step : (tableBytes before.length (option :: options)).take 5 =
          entryBytes before.length option ∧
        (tableBytes before.length (option :: options)).drop 5 =
          tableBytes (before ++ option.data).length options := by
      rw [tableBytes, List.length_append]
      exact ⟨List.take_left' (entryBytes_length ..), List.drop_left' (entryBytes_length ..)⟩
    have data : slice (before ++ option.data ++ options.flatMap PreLoginOption.data) before.length
        (before.length + option.data.length) = some option.data := slice_middle _ _ _ rfl rfl
    have head := parseEntry_entryBytes (by omega) (by omega) data
    have tail := ih (before ++ option.data) (by rw [List.length_append]; omega)
    rw [chunks_step (by decide) _ nonempty, step.1, step.2, List.mapM_cons, List.flatMap_cons,
      ← List.append_assoc, head, tail]
    rfl

end entries

/-- Assembled options are parsed back exactly when no offset or length of the table has a byte
that reads as the terminator. -/
theorem parseOptions_assembleOptions_iff {options : List PreLoginOption} {bytes : Bytes}
    (assembled : assembleOptions options = .ok bytes) :
    parseOptions bytes = .ok options ↔ Legible (dataStart options) options := by
  obtain ⟨regular, fits, written⟩ := (assembleOptions_ok_iff options bytes).mp assembled
  have byte : PreLoginOptionToken.terminator.toByte = 0xff := rfl
  rw [byte] at written
  rw [written, parseOptions, byte]
  constructor
  · intro parsed
    by_contra illegible
    obtain ⟨k, position, inside⟩ := findIdx_illegible regular illegible
      (options.flatMap PreLoginOption.data)
    rw [position] at parsed
    dsimp only at parsed
    rw [if_pos inside] at parsed
    cases parsed
  · intro legible
    rw [findIdx_legible regular legible]
    dsimp only
    have whole : 5 * options.length % 5 = 0 := Nat.mul_mod_right 5 _
    have table : (tableBytes (dataStart options) options ++
        0xff :: options.flatMap PreLoginOption.data).take (5 * options.length) =
          tableBytes (dataStart options) options := List.take_left' (tableBytes_length ..)
    have front : (tableBytes (dataStart options) options ++ [0xff]).length = dataStart options := by
      rw [List.length_append, tableBytes_length, List.length_singleton, dataStart]
    have entries := parseEntries options (tableBytes (dataStart options) options ++ [0xff])
      (by rw [front]; exact fits)
    rw [front, List.append_assoc, List.singleton_append] at entries
    rw [if_neg (not_not.mpr whole), table, entries]

/-- Two options of six bytes and one byte are parsed back. -/
theorem parseOptions_assembleOptions_iff_two :
    parseOptions [0, 0, 11, 0, 6, 1, 0, 17, 0, 1, 255, 0, 0, 0, 0, 0, 0, 2] =
      .ok [⟨.version, [0, 0, 0, 0, 0, 0]⟩, ⟨.encryption, [2]⟩] :=
  (parseOptions_assembleOptions_iff (by decide)).mpr (by decide)

/-- An option with 255 bytes of data does not come back. -/
theorem parseOptions_not_assembleOptions :
    ¬∀ options bytes, assembleOptions options = .ok bytes → parseOptions bytes = .ok options := by
  intro always
  have assembled : ∃ bytes, assembleOptions [⟨.instanceName, List.replicate 255 0⟩] = .ok bytes ∧
      parseOptions bytes = .error .truncatedOptionTable :=
    ⟨[2, 0, 6, 0, 255, 255] ++ List.replicate 255 0, by decide +kernel, by decide +kernel⟩
  have ⟨bytes, written, truncated⟩ := assembled
  rw [always _ bytes written] at truncated
  cases truncated

end SqlxSqlserver.Protocol

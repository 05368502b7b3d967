import SqlxSqlserver.Foundation.Fallible
import SqlxSqlserver.Protocol.Packet

/-! The options of a PRELOGIN message: a table of tokens with the offset and the length of their
data, a terminator, and the data. -/

namespace SqlxSqlserver.Protocol
open Foundation

inductive PreLoginOptionToken where
  | version
  | encryption
  | instanceName
  | threadId
  | mars
  | terminator
  deriving DecidableEq, Repr

inductive PreLoginError where
  | unknownToken (value : UInt8)
  | missingTerminator
  | truncatedOptionTable
  | terminatorOption
  | optionOutOfBounds (offset len : Nat)
  | messageTooLarge
  deriving DecidableEq, Repr

def PreLoginError.message : PreLoginError → String
  | .unknownToken value => "unknown TDS pre-login option token 0x" ++ hexByte value
  | .missingTerminator => "TDS pre-login option table is missing its terminator"
  | .truncatedOptionTable => "TDS pre-login option table is truncated"
  | .terminatorOption => "TDS pre-login terminator cannot be encoded as an option"
  | .optionOutOfBounds offset len =>
      s!"TDS pre-login option points outside the message: offset {offset}, length {len}"
  | .messageTooLarge => "TDS pre-login message is too large"

def PreLoginOptionToken.toByte : PreLoginOptionToken → UInt8
  | .version => 0x00
  | .encryption => 0x01
  | .instanceName => 0x02
  | .threadId => 0x03
  | .mars => 0x04
  | .terminator => 0xff

def PreLoginOptionToken.tryFrom (value : UInt8) : Except PreLoginError PreLoginOptionToken :=
  if value = 0x00 then .ok .version
  else if value = 0x01 then .ok .encryption
  else if value = 0x02 then .ok .instanceName
  else if value = 0x03 then .ok .threadId
  else if value = 0x04 then .ok .mars
  else if value = 0xff then .ok .terminator
  else .error (.unknownToken value)

@[simp] theorem PreLoginOptionToken.tryFrom_toByte (token : PreLoginOptionToken) :
    PreLoginOptionToken.tryFrom token.toByte = .ok token := by
  cases token <;> rfl

theorem PreLoginOptionToken.toByte_eq_terminator (token : PreLoginOptionToken) :
    token.toByte = 0xff ↔ token = .terminator := by
  cases token <;> decide

structure PreLoginOption where
  token : PreLoginOptionToken
  data : Bytes
  deriving DecidableEq, Repr

def maxPreLoginLen : Nat := 0xffff

abbrev fitting (limit value : Nat) : Except PreLoginError Nat :=
  checked .messageTooLarge limit value

/-- One round of the first loop of `assemble_options`; the state is the offset and the output. -/
def assembleEntry (state : Nat × Bytes) (option : PreLoginOption) :
    Except PreLoginError (Nat × Bytes) := do
  if option.token = .terminator then throw .terminatorOption
  let len ← fitting maxPreLoginLen option.data.length
  let out := state.2 ++ [option.token.toByte] ++ beBytes 2 state.1 ++ beBytes 2 len
  let offset ← fitting maxPreLoginLen (state.1 + len)
  return (offset, out)

def assembleOptions (options : List PreLoginOption) : Except PreLoginError Bytes := do
  let entriesLen ← fitting usizeMax (options.length * 5)
  let tableLen ← fitting usizeMax (entriesLen + 1)
  let offset ← fitting maxPreLoginLen tableLen
  let payloadLen ← options.foldlM (fun sum option => fitting usizeMax (sum + option.data.length)) 0
  let totalLen ← fitting usizeMax (tableLen + payloadLen)
  let _ ← fitting maxPreLoginLen totalLen
  let table ← options.foldlM assembleEntry (offset, [])
  return table.2 ++ [PreLoginOptionToken.terminator.toByte] ++ options.flatMap PreLoginOption.data

def parseEntry (input entry : Bytes) : Except PreLoginError PreLoginOption := do
  let token ← PreLoginOptionToken.tryFrom (entry.getD 0 0)
  let offset := beNat [entry.getD 1 0, entry.getD 2 0]
  let len := beNat [entry.getD 3 0, entry.getD 4 0]
  match slice input offset (offset + len) with
  | none => throw (.optionOutOfBounds offset len)
  | some data => return { token, data }

def parseOptions (input : Bytes) : Except PreLoginError (List PreLoginOption) :=
  match input.findIdx? (· == PreLoginOptionToken.terminator.toByte) with
  | none => .error .missingTerminator
  | some terminator =>
    if terminator % 5 ≠ 0 then .error .truncatedOptionTable
    else (chunks 5 (input.take terminator)).mapM (parseEntry input)

section assembling

def entryBytes (offset : Nat) (option : PreLoginOption) : Bytes :=
  [option.token.toByte] ++ beBytes 2 offset ++ beBytes 2 option.data.length

def tableBytes : Nat → List PreLoginOption → Bytes
  | _, [] => []
  | offset, option :: options =>
    entryBytes offset option ++ tableBytes (offset + option.data.length) options

def dataLength (options : List PreLoginOption) : Nat :=
  (options.flatMap PreLoginOption.data).length

@[simp] theorem entryBytes_length (offset : Nat) (option : PreLoginOption) :
    (entryBytes offset option).length = 5 := by
  simp [entryBytes]

theorem tableBytes_length (offset : Nat) (options : List PreLoginOption) :
    (tableBytes offset options).length = 5 * options.length := by
  induction options generalizing offset with
  | nil => rfl
  | cons option options ih =>
    rw [tableBytes, List.length_append, entryBytes_length, ih, List.length_cons]
    omega

theorem dataLength_cons (option : PreLoginOption) (options : List PreLoginOption) :
    dataLength (option :: options) = option.data.length + dataLength options := by
  simp only [dataLength, List.flatMap_cons, List.length_append]

theorem assembleEntry_ok_iff (offset : Nat) (out : Bytes) (option : PreLoginOption)
    (state : Nat × Bytes) :
    assembleEntry (offset, out) option = .ok state ↔ option.token ≠ .terminator ∧
      offset + option.data.length ≤ maxPreLoginLen ∧
      state = (offset + option.data.length, out ++ entryBytes offset option) := by
  unfold assembleEntry
  by_cases ending : option.token = .terminator
  · rw [if_pos ending]
    exact iff_of_false (fun same => nomatch same) fun all => all.1 ending
  · rw [if_neg ending]
    change (fitting maxPreLoginLen option.data.length >>= _) = _ ↔ _
    simp only [bind_ok_iff, checked_ok_iff, pure, Except.pure, Except.ok.injEq]
    constructor
    · intro ⟨len, ⟨_, sameLen⟩, next, ⟨fits, sameNext⟩, same⟩
      rw [sameLen] at fits sameNext same
      rw [← same, sameNext]
      exact ⟨ending, fits, by simp only [entryBytes, List.append_assoc]⟩
    · intro ⟨_, fits, same⟩
      refine ⟨_, ⟨by omega, rfl⟩, _, ⟨fits, rfl⟩, ?_⟩
      rw [same]
      simp only [entryBytes, List.append_assoc]

theorem assembleEntries_ok_iff (options : List PreLoginOption) {offset : Nat} (out : Bytes)
    (state : Nat × Bytes) (fits : offset ≤ maxPreLoginLen) :
    options.foldlM assembleEntry (offset, out) = .ok state ↔
      (∀ option ∈ options, option.token ≠ .terminator) ∧
      offset + dataLength options ≤ maxPreLoginLen ∧
      state = (offset + dataLength options, out ++ tableBytes offset options) := by
  induction options generalizing offset out with
  | nil =>
    change Except.ok (offset, out) = .ok state ↔ _
    simp only [Except.ok.injEq, dataLength, List.flatMap_nil, List.length_nil, Nat.add_zero, fits,
      tableBytes, List.append_nil, List.not_mem_nil, false_implies, implies_true, true_and, eq_comm]
  | cons option options ih =>
    rw [List.foldlM_cons, bind_ok_iff, dataLength_cons, tableBytes, ← Nat.add_assoc,
      ← List.append_assoc, List.forall_mem_cons]
    constructor
    · intro ⟨middle, first, rest⟩
      have ⟨regular, inside, same⟩ := (assembleEntry_ok_iff ..).mp first
      rw [same] at rest
      have ⟨others, all, last⟩ := (ih _ inside).mp rest
      exact ⟨⟨regular, others⟩, all, last⟩
    · intro ⟨⟨regular, others⟩, all, last⟩
      have inside : offset + option.data.length ≤ maxPreLoginLen := by omega
      exact ⟨_, (assembleEntry_ok_iff ..).mpr ⟨regular, inside, rfl⟩,
        (ih _ inside).mpr ⟨others, all, last⟩⟩

def dataStart (options : List PreLoginOption) : Nat := 5 * options.length + 1

theorem assembleOptions_ok_iff (options : List PreLoginOption) (bytes : Bytes) :
    assembleOptions options = .ok bytes ↔
      (∀ option ∈ options, option.token ≠ .terminator) ∧
      dataStart options + dataLength options ≤ maxPreLoginLen ∧
      bytes = tableBytes (dataStart options) options ++
        PreLoginOptionToken.terminator.toByte :: options.flatMap PreLoginOption.data := by
  have total : (options.map fun option => option.data.length).sum = dataLength options := by
    rw [dataLength, List.length_flatMap]
  have start : options.length * 5 + 1 = dataStart options := by rw [dataStart, Nat.mul_comm]
  unfold assembleOptions
  simp only [bind_ok_iff, checked_ok_iff]
  constructor
  · rintro ⟨_, ⟨_, sameEntries⟩, tableLen, ⟨_, sameTable⟩, offset, ⟨short, sameOffset⟩, payloadLen,
      payload, totalLen, ⟨_, sameTotal⟩, _, ⟨whole, _⟩, table, entries, same⟩
    rw [sameEntries, start] at sameTable
    rw [sameTable] at short sameTotal sameOffset
    rw [sameOffset] at entries
    obtain ⟨_, sum⟩ := (foldlM_checked_ok_iff _ _ options (Nat.zero_le _)).mp payload
    rw [total, Nat.zero_add] at sum
    obtain ⟨regular, fits, sameTable⟩ := (assembleEntries_ok_iff options [] table short).mp entries
    rw [sameTable] at same
    refine ⟨regular, fits, ?_⟩
    simpa only [List.nil_append, List.append_assoc, List.singleton_append, eq_comm] using
      Except.ok.inj same
  · rintro ⟨regular, fits, same⟩
    have short : dataStart options ≤ maxPreLoginLen := Nat.le_of_add_right_le fits
    have address : maxPreLoginLen ≤ usizeMax := by decide
    have payload := (foldlM_checked_ok_iff PreLoginError.messageTooLarge
      (fun option => option.data.length) options (Nat.zero_le usizeMax)).mpr ⟨by omega, rfl⟩
    rw [total, Nat.zero_add] at payload
    refine ⟨_, ⟨by omega, rfl⟩, dataStart options, ⟨by omega, start.symm⟩, _, ⟨short, rfl⟩, _, payload,
      _, ⟨by omega, rfl⟩, _, ⟨fits, rfl⟩, _,
      (assembleEntries_ok_iff options [] _ short).mpr ⟨regular, fits, rfl⟩, ?_⟩
    rw [same]
    simp only [List.nil_append, List.append_assoc, List.singleton_append, pure, Except.pure]

end assembling
end SqlxSqlserver.Protocol

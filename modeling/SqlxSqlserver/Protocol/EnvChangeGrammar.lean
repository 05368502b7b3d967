import SqlxSqlserver.Protocol.Token
import Mathlib.Data.Nat.Digits.Defs

/-! The grammar of ENVCHANGE bodies, and what the parser reads in them. -/

namespace SqlxSqlserver.Protocol
open Foundation Reader

section grammar

def IsBVarchar (bytes : Bytes) (text : String) : Prop :=
  (encodeUtf16 text).length < 256 ∧
    bytes = UInt8.ofNat (encodeUtf16 text).length :: unitBytes (encodeUtf16 text)

def IsBVarbyte (bytes value : Bytes) : Prop :=
  value.length < 256 ∧ bytes = UInt8.ofNat value.length :: value

instance (bytes : Bytes) (text : String) : Decidable (IsBVarchar bytes text) :=
  inferInstanceAs (Decidable (_ ∧ _))

instance (bytes value : Bytes) : Decidable (IsBVarbyte bytes value) :=
  inferInstanceAs (Decidable (_ ∧ _))

def IsDecimal (text : String) (value : Nat) : Prop :=
  ∃ digits : List Nat, digits ≠ [] ∧ (∀ digit ∈ digits, digit < 10) ∧
    text = String.ofList (digits.map Nat.digitChar) ∧ value = Nat.ofDigits 10 digits.reverse

inductive IsTextChange : UInt8 → (String → EnvChange) → Prop where
  | database : IsTextChange 1 .database
  | language : IsTextChange 2 .language
  | characterSet : IsTextChange 3 .characterSet
  | unicodeDataSortingLocalId : IsTextChange 5 .unicodeDataSortingLocalId
  | unicodeDataSortingComparisonFlags : IsTextChange 6 .unicodeDataSortingComparisonFlags

/-- `bytes` is a body of the change: its type, NewValue and OldValue. -/
inductive IsEnvChange : EnvChange → Bytes → Prop where
  | text {changeType : UInt8} {change : String → EnvChange} {new old : String}
      {newBytes oldBytes : Bytes} (kind : IsTextChange changeType change)
      (newValue : IsBVarchar newBytes new) (oldValue : IsBVarchar oldBytes old) :
      IsEnvChange (change new) (changeType :: (newBytes ++ oldBytes))
  | packetSize {size : UInt32} {new old : String} {newBytes oldBytes : Bytes}
      (newValue : IsBVarchar newBytes new) (oldValue : IsBVarchar oldBytes old)
      (decimal : IsDecimal new size.toNat) :
      IsEnvChange (.packetSize size) (4 :: (newBytes ++ oldBytes))
  | sqlCollation {new old newBytes oldBytes : Bytes} (newValue : IsBVarbyte newBytes new)
      (oldValue : IsBVarbyte oldBytes old) :
      IsEnvChange (.sqlCollation new) (7 :: (newBytes ++ oldBytes))
  | beginTransaction {descriptor : UInt64} {old newBytes oldBytes : Bytes}
      (newValue : IsBVarbyte newBytes (leBytes 8 descriptor.toNat))
      (oldValue : IsBVarbyte oldBytes old) :
      IsEnvChange (.beginTransaction descriptor) (8 :: (newBytes ++ oldBytes))
  | commitTransaction {descriptor : UInt64} {newBytes oldBytes : Bytes}
      (newValue : IsBVarbyte newBytes [])
      (oldValue : IsBVarbyte oldBytes (leBytes 8 descriptor.toNat)) :
      IsEnvChange (.commitTransaction descriptor) (9 :: (newBytes ++ oldBytes))
  | rollbackTransaction {descriptor : UInt64} {newBytes oldBytes : Bytes}
      (newValue : IsBVarbyte newBytes [])
      (oldValue : IsBVarbyte oldBytes (leBytes 8 descriptor.toNat)) :
      IsEnvChange (.rollbackTransaction descriptor) (10 :: (newBytes ++ oldBytes))

end grammar

section decimals

theorem digitChar_spec {digit : Nat} (small : digit < 10) :
    (Nat.digitChar digit).isDigit = true ∧ Nat.digitChar digit ≠ '+' ∧
      (Nat.digitChar digit).toNat - '0'.toNat = digit := by
  have each : ∀ digit : Fin 10, (Nat.digitChar digit).isDigit = true ∧
      Nat.digitChar digit ≠ '+' ∧ (Nat.digitChar digit).toNat - '0'.toNat = digit := by
    decide
  exact each ⟨digit, small⟩

theorem foldl_digits (digits : List Nat) (small : ∀ digit ∈ digits, digit < 10) :
    (digits.map Nat.digitChar).foldl
      (fun value digit => value * 10 + (digit.toNat - '0'.toNat)) 0 =
      Nat.ofDigits 10 digits.reverse := by
  rw [Nat.ofDigits_eq_foldr, List.foldr_reverse, List.foldl_map]
  have step : ∀ start, digits.foldl
      (fun value digit => value * 10 + ((Nat.digitChar digit).toNat - '0'.toNat)) start =
      digits.foldl (fun value digit => (digit : Nat) + 10 * value) start := by
    induction digits with
    | nil => exact fun _ => rfl
    | cons digit digits ih =>
      intro start
      have value := (digitChar_spec (small digit List.mem_cons_self)).2.2
      rw [List.foldl_cons, List.foldl_cons, value, Nat.mul_comm, Nat.add_comm]
      exact ih (fun other member => small other (List.mem_cons_of_mem _ member)) _
  exact step 0

theorem parseU32_decimal {text : String} {size : UInt32} (decimal : IsDecimal text size.toNat) :
    parseU32 text = some size := by
  obtain ⟨digits, nonempty, small, rfl, value⟩ := decimal
  have some : (digits.map Nat.digitChar).isEmpty = false := by simpa using nonempty
  have decimals : (digits.map Nat.digitChar).all Char.isDigit = true := by
    rw [List.all_map, List.all_eq_true]
    exact fun digit member => (digitChar_spec (small digit member)).1
  unfold parseU32
  rw [String.toList_ofList]
  split
  next rest signed =>
    obtain ⟨digit, others, rfl⟩ := List.exists_cons_of_ne_nil nonempty
    have first := (digitChar_spec (small digit List.mem_cons_self)).2.1
    exact absurd (List.cons.inj signed).1 first
  next =>
    dsimp only
    rw [some, foldl_digits digits small, ← value, if_neg Bool.false_ne_true, if_pos decimals,
      if_pos size.toNat_lt, UInt32.ofNat_toNat]

end decimals

section parsing
variable {new old bytes : Bytes} {text : String}

theorem reads_bVarcharToken (is : IsBVarchar bytes text) : Reads Token.readBVarchar bytes text := by
  obtain ⟨short, rfl⟩ := is
  exact reads_bVarchar text (by omega)

theorem reads_bVarbyteToken (is : IsBVarbyte bytes new) : Reads Token.readBVarbyte bytes new := by
  obtain ⟨short, rfl⟩ := is
  have count : (UInt8.ofNat new.length).toNat = new.length := UInt8.toNat_ofNat_of_lt' short
  have body : Reads (Token.take (UInt8.ofNat new.length).toNat) new new := by
    rw [count]
    exact reads_take _ new
  exact (reads_byte _ _).bind body

theorem reads_u64 (number : UInt64) : Reads Token.readU64Le (leBytes 8 number.toNat) number := by
  have fits : number.toNat < 256 ^ 8 := number.toNat_lt
  have digits : Local (le TokenParseError.unexpectedEof 8) := local_le _ _
  exact (Reads.map_iff digits).mpr
    ⟨number.toNat, reads_le_leBytes _ fits, UInt64.ofNat_toNat.symm⟩

theorem parseEnvChange_cons (changeType : UInt8) (rest : Bytes) :
    parseEnvChange (changeType :: rest) = envChangeOf changeType rest :=
  bind_ok (reads_byte _ changeType rest) _

theorem leBytes_eight (number : UInt64) : leBytes 8 (8 + 256 * number.toNat) =
    8 :: leBytes 7 number.toNat := by
  have low : UInt8.ofNat (8 + 256 * number.toNat) = 8 := by
    apply UInt8.toNat_inj.mp
    rw [UInt8.toNat_ofNat']
    change _ = 8
    omega
  have high : (8 + 256 * number.toNat) / 256 = number.toNat := by omega
  rw [leBytes, low, high]

theorem transactionEnd_ok {descriptor : UInt64} (newValue : IsBVarbyte new [])
    (oldValue : IsBVarbyte old (leBytes 8 descriptor.toNat)) : ∃ unread,
    Token.readTransactionEndDescriptor (new ++ old) = .ok (8 + 256 * descriptor, unread) := by
  obtain ⟨_, rfl⟩ := oldValue
  obtain ⟨last, digits⟩ : ∃ last, leBytes 8 descriptor.toNat = leBytes 7 descriptor.toNat ++ last :=
    ⟨_, by rw [← leBytes_take 7 1, List.take_append_drop]⟩
  have number : (8 + 256 * descriptor).toNat = (8 + 256 * descriptor.toNat) % 256 ^ 8 := by
    rw [UInt64.toNat_add, UInt64.toNat_mul]
    change (8 + 256 * descriptor.toNat % 2 ^ 64) % 2 ^ 64 = _
    omega
  have shifted : UInt8.ofNat (leBytes 8 descriptor.toNat).length :: leBytes 8 descriptor.toNat =
      leBytes 8 (8 + 256 * descriptor).toNat ++ last := by
    rw [number, leBytes_mod, leBytes_eight, leBytes_length, digits]
    rfl
  refine ⟨last, ?_⟩
  rw [shifted, Token.readTransactionEndDescriptor, bind_ok (reads_bVarbyteToken newValue _)]
  exact reads_u64 _ last

/-- What the parser makes of a body of the change. -/
def EnvChange.asRead : EnvChange → EnvChange
  | .commitTransaction descriptor => .commitTransaction (8 + 256 * descriptor)
  | .rollbackTransaction descriptor => .rollbackTransaction (8 + 256 * descriptor)
  | change => change

theorem parseEnvChange_of_grammar {change : EnvChange} {body : Bytes}
    (is : IsEnvChange change body) :
    ∃ unread, parseEnvChange body = .ok (change.asRead, unread) := by
  cases is with
  | @text changeType change new old newBytes oldBytes kind newValue oldValue =>
    refine ⟨oldBytes, ?_⟩
    rw [parseEnvChange_cons]
    have read := reads_bVarcharToken newValue oldBytes
    cases kind <;> exact bind_ok read _
  | @packetSize size new old newBytes oldBytes newValue oldValue decimal =>
    refine ⟨oldBytes, ?_⟩
    rw [parseEnvChange_cons]
    refine (bind_ok (reads_bVarcharToken newValue oldBytes) _).trans ?_
    rw [parsePacketSize, parseU32_decimal decimal]
    rfl
  | @sqlCollation new old newBytes oldBytes newValue oldValue =>
    refine ⟨oldBytes, ?_⟩
    rw [parseEnvChange_cons]
    exact bind_ok (reads_bVarbyteToken newValue oldBytes) _
  | @beginTransaction descriptor old newBytes oldBytes newValue oldValue =>
    refine ⟨oldBytes, ?_⟩
    rw [parseEnvChange_cons]
    have number : Token.readBVarbyteU64Le (newBytes ++ oldBytes) = .ok (descriptor, oldBytes) := by
      have inner := reads_u64 descriptor []
      rw [List.append_nil] at inner
      rw [Token.readBVarbyteU64Le, bind_ok (reads_bVarbyteToken newValue oldBytes)]
      exact within_ok_iff.mpr ⟨rfl, [], inner⟩
    exact bind_ok number _
  | commitTransaction newValue oldValue =>
    obtain ⟨unread, read⟩ := transactionEnd_ok newValue oldValue
    refine ⟨unread, ?_⟩
    rw [parseEnvChange_cons]
    exact bind_ok read _
  | rollbackTransaction newValue oldValue =>
    obtain ⟨unread, read⟩ := transactionEnd_ok newValue oldValue
    refine ⟨unread, ?_⟩
    rw [parseEnvChange_cons]
    exact bind_ok read _

theorem shifted_eq_iff (descriptor : UInt64) :
    8 + 256 * descriptor = descriptor ↔ descriptor = 0x0808080808080808 := by
  rw [← UInt64.toNat_inj, ← UInt64.toNat_inj, UInt64.toNat_add, UInt64.toNat_mul]
  have small := descriptor.toNat_lt
  change (8 + 256 * descriptor.toNat % 2 ^ 64) % 2 ^ 64 = descriptor.toNat ↔
    descriptor.toNat = 0x0808080808080808
  omega

theorem asRead_eq_iff (change : EnvChange) : change.asRead = change ↔
    ∀ descriptor, change = .commitTransaction descriptor ∨
      change = .rollbackTransaction descriptor → descriptor = 0x0808080808080808 := by
  cases change <;> simp [EnvChange.asRead, shifted_eq_iff]

end parsing

/-- A body is read as its grammar says, unless it ends a transaction. Then the count of OldValue is
taken for the lowest byte of the descriptor. -/
theorem parseEnvChange_grammar_iff (change : EnvChange) (body : Bytes)
    (is : IsEnvChange change body) :
    (∃ unread, parseEnvChange body = .ok (change, unread)) ↔
      ∀ descriptor, change = .commitTransaction descriptor ∨
        change = .rollbackTransaction descriptor → descriptor = 0x0808080808080808 := by
  obtain ⟨unread, parsed⟩ := parseEnvChange_of_grammar is
  rw [← asRead_eq_iff, parsed]
  simp

/-- The packet size 4096, and 512 before. -/
theorem parseEnvChange_grammar_iff_packetSize : ∃ unread,
    parseEnvChange [4, 4, 52, 0, 48, 0, 57, 0, 54, 0, 3, 53, 0, 49, 0, 50, 0] =
      .ok (.packetSize 4096, unread) := by
  have decimal : IsDecimal "4096" (4096 : UInt32).toNat :=
    ⟨[4, 0, 9, 6], by decide, by decide, by decide, by decide⟩
  have newValue : IsBVarchar [4, 52, 0, 48, 0, 57, 0, 54, 0] "4096" := by decide
  have oldValue : IsBVarchar [3, 53, 0, 49, 0, 50, 0] "512" := by decide
  exact (parseEnvChange_grammar_iff _ _ (.packetSize newValue oldValue decimal)).mpr (by simp)

/-- The server commits the transaction with the descriptor 1. -/
theorem commit_not_read : IsEnvChange (.commitTransaction 1) [9, 0, 8, 1, 0, 0, 0, 0, 0, 0, 0] ∧
    parseEnvChange [8, 8, 1, 0, 0, 0, 0, 0, 0, 0, 0] = .ok (.beginTransaction 1, [0]) ∧
    ¬∃ unread, parseEnvChange [9, 0, 8, 1, 0, 0, 0, 0, 0, 0, 0] =
      .ok (.commitTransaction 1, unread) := by
  have newValue : IsBVarbyte [0] [] := by decide
  have oldValue : IsBVarbyte [8, 1, 0, 0, 0, 0, 0, 0, 0] (leBytes 8 (1 : UInt64).toNat) := by decide
  refine ⟨.commitTransaction newValue oldValue, by decide, ?_⟩
  rintro ⟨unread, parsed⟩
  have read : parseEnvChange [9, 0, 8, 1, 0, 0, 0, 0, 0, 0, 0] =
      .ok (.commitTransaction 264, [0]) := by decide
  cases read.symm.trans parsed

end SqlxSqlserver.Protocol

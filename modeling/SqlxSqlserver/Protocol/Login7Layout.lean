import SqlxSqlserver.Protocol.Login7
import SqlxSqlserver.Protocol.PacketRoundTrip

/-! The layout of a LOGIN7 message, read through its own table: every text stands where its entry
says, and no two of them overlap. -/

namespace SqlxSqlserver.Protocol
open Foundation Driver

structure Login7Text where
  value : String
  obfuscate : Bool

namespace Login7Text

def units (text : Login7Text) : Nat := (encodeUtf16 text.value).length

def bytes (text : Login7Text) : Bytes := encodeUtf16Le text.value text.obfuscate

@[simp] theorem bytes_length (text : Login7Text) : text.bytes.length = 2 * text.units := by
  rw [bytes, encodeUtf16Le, units]
  split <;> simp

end Login7Text

def login7Texts (options : MssqlConnectOptions) : List Login7Text :=
  [⟨options.hostname, false⟩, ⟨options.username, false⟩, ⟨options.password.getD "", true⟩,
    ⟨options.appName, false⟩, ⟨options.serverName, false⟩, ⟨options.clientInterfaceName, false⟩,
    ⟨options.language, false⟩, ⟨options.database, false⟩]

def textUnits (texts : List Login7Text) : Nat := (texts.map Login7Text.units).sum

/-- Where the table holds the entries of the texts. -/
def textPositions : List Nat := [36, 40, 44, 48, 52, 60, 64, 68]

def emptyPositions : List Nat := [56, 78, 82, 86]

def entryAt (payload : Bytes) (position : Nat) : Login7FieldOffset where
  offset := leNat ((payload.drop position).take 2)
  lenChars := leNat ((payload.drop (position + 2)).take 2)

namespace Login7FieldOffset

def stop (self : Login7FieldOffset) : Nat := self.offset + 2 * self.lenChars

def region (self : Login7FieldOffset) (payload : Bytes) : Option Bytes :=
  slice payload self.offset self.stop

end Login7FieldOffset

def revealByte (byte : UInt8) : UInt8 := rotateLeft4 (byte ^^^ 0xa5)

def reveal (obfuscated : Bool) (bytes : Bytes) : Bytes :=
  if obfuscated then bytes.map revealByte else bytes

/-- A faithful layout: the length in front, each text behind its entry, and the regions in order
behind the fixed part and apart from each other. -/
structure Login7Layout (options : MssqlConnectOptions) (payload : Bytes) : Prop where
  length : leNat (payload.take 4) = payload.length
  total : payload.length = login7FixedLen + 2 * textUnits (login7Texts options)
  texts : List.Forall₂ (fun position text =>
    ((entryAt payload position).region payload).map (reveal text.obfuscate) =
        some (unitBytes (encodeUtf16 text.value)) ∧
      (entryAt payload position).lenChars = (encodeUtf16 text.value).length)
    textPositions (login7Texts options)
  apart : textPositions.Pairwise fun left right =>
    (entryAt payload left).stop ≤ (entryAt payload right).offset
  inside : ∀ position ∈ textPositions, login7FixedLen ≤ (entryAt payload position).offset ∧
    (entryAt payload position).stop ≤ payload.length
  empty : ∀ position ∈ emptyPositions, (entryAt payload position).lenChars = 0 ∧
    login7FixedLen ≤ (entryAt payload position).offset ∧
    (entryAt payload position).offset ≤ payload.length

section pushing

theorem pushText_ok_iff (self : Login7Fields) (text : Login7Text)
    (result : Login7FieldOffset × Login7Fields) :
    self.pushText text.value text.obfuscate = .ok result ↔
      self.nextOffset + 2 * text.units ≤ maxLogin7Len ∧
      result = (⟨self.nextOffset, text.units⟩,
        ⟨self.data ++ text.bytes, self.nextOffset + 2 * text.units⟩) := by
  have length : (encodeUtf16Le text.value text.obfuscate).length = 2 * text.units :=
    text.bytes_length
  unfold Login7Fields.pushText
  simp only [bind_ok_iff, checked_ok_iff, length]
  constructor
  · intro ⟨lenChars, ⟨_, sameUnits⟩, encodedLen, ⟨_, sameLength⟩, nextOffset, ⟨fits, sameOffset⟩, same⟩
    rw [sameLength] at fits sameOffset
    rw [← Except.ok.inj same, sameUnits, sameOffset]
    exact ⟨fits, rfl⟩
  · intro ⟨fits, same⟩
    have short : (encodeUtf16 text.value).length = text.units := rfl
    refine ⟨_, ⟨by omega, rfl⟩, _, ⟨by omega, rfl⟩, _, ⟨fits, rfl⟩, ?_⟩
    rw [same]
    rfl

def entriesFrom : Nat → List Login7Text → List Login7FieldOffset
  | _, [] => []
  | offset, text :: texts => ⟨offset, text.units⟩ :: entriesFrom (offset + 2 * text.units) texts

theorem textUnits_cons (text : Login7Text) (texts : List Login7Text) :
    textUnits (text :: texts) = text.units + textUnits texts := rfl

theorem entriesFrom_bounds (texts : List Login7Text) (offset : Nat) :
    ∀ entry ∈ entriesFrom offset texts,
      offset ≤ entry.offset ∧ entry.stop ≤ offset + 2 * textUnits texts := by
  induction texts generalizing offset with
  | nil => simp only [entriesFrom, List.not_mem_nil, false_implies, implies_true]
  | cons text texts ih =>
    rw [entriesFrom, List.forall_mem_cons, textUnits_cons]
    constructor
    · change offset ≤ offset ∧ offset + 2 * text.units ≤ _
      omega
    · intro entry member
      have bounds := ih _ entry member
      omega

theorem entriesFrom_apart (texts : List Login7Text) (offset : Nat) :
    (entriesFrom offset texts).Pairwise fun left right => left.stop ≤ right.offset := by
  induction texts generalizing offset with
  | nil => exact .nil
  | cons text texts ih =>
    apply List.Pairwise.cons
    · intro entry member
      exact (entriesFrom_bounds texts _ entry member).1
    · exact ih _

theorem entriesFrom_region (texts : List Login7Text) (before : Bytes) :
    List.Forall₂ (fun entry text => entry.lenChars = text.units ∧
        entry.region (before ++ texts.flatMap Login7Text.bytes) = some text.bytes)
      (entriesFrom before.length texts) texts := by
  induction texts generalizing before with
  | nil => exact .nil
  | cons text texts ih =>
    have rest := ih (before ++ text.bytes)
    rw [List.length_append, text.bytes_length] at rest
    rw [List.flatMap_cons, ← List.append_assoc]
    apply List.Forall₂.cons
    · refine ⟨rfl, slice_middle _ _ _ rfl ?_⟩
      rw [text.bytes_length]
      rfl
    · exact rest

def login7Stop (options : MssqlConnectOptions) : Nat :=
  login7FixedLen + 2 * textUnits (login7Texts options)

def login7Unused (options : MssqlConnectOptions) : Nat :=
  login7FixedLen + 2 * textUnits ((login7Texts options).take 5)

def login7Table (options : MssqlConnectOptions) : List Login7FieldOffset :=
  entriesFrom login7FixedLen ((login7Texts options).take 5) ++ [.empty (login7Unused options)] ++
    entriesFrom (login7Unused options) ((login7Texts options).drop 5)

def login7Extra (options : MssqlConnectOptions) : List Login7FieldOffset :=
  [.empty (login7Stop options), .empty (login7Stop options), .empty (login7Stop options)]

def login7Payload (options : MssqlConnectOptions) : Bytes :=
  fixedPart options (login7Stop options) (login7Table options) (login7Extra options) ++
    (login7Texts options).flatMap Login7Text.bytes

/-- What is built, and when. -/
theorem buildLogin7Payload_eq_ok_iff (options : MssqlConnectOptions) (payload : Bytes) :
    buildLogin7Payload options = .ok payload ↔
      login7Stop options ≤ maxLogin7Len ∧ payload = login7Payload options := by
  have pushed : ∀ (self : Login7Fields) value obfuscate result,
      self.pushText value obfuscate = .ok result ↔ _ := fun self value obfuscate result =>
    pushText_ok_iff self ⟨value, obfuscate⟩ result
  -- Both sides over the eight texts, one behind the other.
  simp only [buildLogin7Payload, bind_ok_iff, pushed, login7Payload, login7Table, login7Extra,
    login7Stop, login7Unused, login7Texts, textUnits, List.map_cons, List.map_nil, List.sum_cons,
    List.sum_nil, Nat.mul_add, Nat.add_zero, ← Nat.add_assoc, List.take_succ_cons, List.take_zero,
    List.drop_succ_cons, List.drop_zero, entriesFrom, List.cons_append, List.nil_append,
    List.flatMap_cons, List.flatMap_nil, List.append_nil, Login7Fields.new, pure, Except.pure]
  constructor
  · intro ⟨_, ⟨_, first⟩, _, ⟨_, second⟩, _, ⟨_, third⟩, _, ⟨_, fourth⟩, _, ⟨_, fifth⟩, _, ⟨_, sixth⟩,
      _, ⟨_, seventh⟩, _, ⟨fits, eighth⟩, same⟩
    subst first second third fourth fifth sixth seventh eighth
    refine ⟨fits, ?_⟩
    rw [← Except.ok.inj same]
    simp only [List.append_assoc]
  · intro ⟨fits, same⟩
    refine ⟨_, ⟨?_, rfl⟩, _, ⟨?_, rfl⟩, _, ⟨?_, rfl⟩, _, ⟨?_, rfl⟩, _, ⟨?_, rfl⟩, _, ⟨?_, rfl⟩, _,
      ⟨?_, rfl⟩, _, ⟨fits, rfl⟩, ?_⟩
    case refine_8 =>
      rw [same]
      simp only [List.append_assoc]
    case refine_1 => omega
    all_goals
      dsimp only
      omega

end pushing

section reading

@[simp] theorem Login7FieldOffset.bytes_length (self : Login7FieldOffset) : self.bytes.length = 4 := by
  simp [bytes]

def Login7FieldOffset.Small (self : Login7FieldOffset) : Prop :=
  self.offset ≤ maxLogin7Len ∧ self.lenChars ≤ maxLogin7Len

theorem entryAt_middle (before after : Bytes) {entry : Login7FieldOffset} (small : entry.Small) :
    entryAt (before ++ entry.bytes ++ after) before.length = entry := by
  have offsetFits : entry.offset < 256 ^ 2 := Nat.lt_succ_of_le small.1
  have countFits : entry.lenChars < 256 ^ 2 := Nat.lt_succ_of_le small.2
  have first : ((before ++ entry.bytes ++ after).drop before.length).take 2 =
      leBytes 2 entry.offset := by
    rw [List.append_assoc, List.drop_left, Login7FieldOffset.bytes, List.append_assoc]
    exact List.take_left' (leBytes_length ..)
  have second : ((before ++ entry.bytes ++ after).drop (before.length + 2)).take 2 =
      leBytes 2 entry.lenChars := by
    rw [← List.drop_drop, List.append_assoc, List.drop_left, Login7FieldOffset.bytes,
      List.append_assoc, List.drop_left' (leBytes_length ..)]
    exact List.take_left' (leBytes_length ..)
  rw [entryAt, first, second, leNat_leBytes_of_lt offsetFits, leNat_leBytes_of_lt countFits]

theorem entriesAt_table (before after : Bytes) (entries : List Login7FieldOffset)
    (small : ∀ entry ∈ entries, entry.Small) :
    (List.range entries.length).map (fun i =>
      entryAt (before ++ entries.flatMap Login7FieldOffset.bytes ++ after)
        (before.length + 4 * i)) = entries := by
  induction entries generalizing before with
  | nil => rfl
  | cons entry entries ih =>
    have ⟨first, others⟩ := List.forall_mem_cons.mp small
    have later := ih (before ++ entry.bytes) others
    rw [List.length_append, Login7FieldOffset.bytes_length] at later
    rw [List.flatMap_cons, ← List.append_assoc, List.length_cons, List.range_succ_eq_map,
      List.map_cons, List.map_map]
    congr 1
    · rw [List.append_assoc]
      exact entryAt_middle before _ first
    · calc (List.range entries.length).map _
          = (List.range entries.length).map _ := by
            apply List.map_congr_left
            intro i _
            rw [Function.comp_apply, Nat.mul_succ, Nat.add_comm (4 * i), ← Nat.add_assoc]
        _ = entries := later

theorem entriesFrom_append (left right : List Login7Text) (offset : Nat) :
    entriesFrom offset (left ++ right) =
      entriesFrom offset left ++ entriesFrom (offset + 2 * textUnits left) right := by
  induction left generalizing offset with
  | nil => rfl
  | cons text left ih =>
    rw [List.cons_append, entriesFrom, ih, entriesFrom, List.cons_append, textUnits_cons,
      Nat.mul_add, ← Nat.add_assoc]

theorem entries_length (entries : List Login7FieldOffset) :
    (entries.flatMap Login7FieldOffset.bytes).length = 4 * entries.length := by
  induction entries with
  | nil => rfl
  | cons entry entries ih =>
    rw [List.flatMap_cons, List.length_append, Login7FieldOffset.bytes_length, ih,
      List.length_cons]
    omega

theorem reveal_bytes (text : Login7Text) :
    reveal text.obfuscate text.bytes = unitBytes (encodeUtf16 text.value) := by
  have undone : ∀ byte : UInt8, revealByte (rotateLeft4 byte ^^^ 0xa5) = byte := by
    have all : ∀ value : Fin 256, revealByte (rotateLeft4 (UInt8.ofNat value) ^^^ 0xa5) =
        UInt8.ofNat value := by decide +kernel
    intro byte
    simpa only [UInt8.ofNat_toNat] using all ⟨byte.toNat, byte.toNat_lt⟩
  rw [reveal, Login7Text.bytes, encodeUtf16Le]
  cases text.obfuscate with
  | false => rfl
  | true =>
    simp only [if_true, List.map_map]
    calc (unitBytes (encodeUtf16 text.value)).map _
        = (unitBytes (encodeUtf16 text.value)).map id := by
          apply List.map_congr_left
          intro byte _
          exact undone byte
      _ = _ := List.map_id _

end reading

section layout
variable {options : MssqlConnectOptions}

theorem textUnits_take_le (texts : List Login7Text) (count : Nat) :
    textUnits (texts.take count) ≤ textUnits texts := by
  have whole := congrArg textUnits (List.take_append_drop count texts)
  simp only [textUnits, List.map_append, List.sum_append] at whole ⊢
  omega

theorem entriesFrom_texts (options : MssqlConnectOptions) :
    entriesFrom login7FixedLen (login7Texts options) =
      entriesFrom login7FixedLen ((login7Texts options).take 5) ++
        entriesFrom (login7Unused options) ((login7Texts options).drop 5) := by
  rw [login7Unused, ← entriesFrom_append, List.take_append_drop]

theorem login7Table_small (fits : login7Stop options ≤ maxLogin7Len) :
    ∀ entry ∈ login7Table options, entry.Small := by
  intro entry member
  have unused : login7Unused options ≤ maxLogin7Len := by
    have part := textUnits_take_le (login7Texts options) 5
    rw [login7Stop] at fits
    rw [login7Unused]
    omega
  by_cases regular : entry ∈ entriesFrom login7FixedLen (login7Texts options)
  · have ⟨_, bound⟩ := entriesFrom_bounds _ _ entry regular
    change entry.offset + 2 * entry.lenChars ≤ login7Stop options at bound
    exact ⟨by omega, by omega⟩
  · rw [entriesFrom_texts, List.mem_append, not_or] at regular
    simp only [login7Table, List.mem_append, List.mem_singleton, regular, false_or, or_false] at member
    rw [member]
    exact ⟨unused, Nat.zero_le _⟩

def fixedHead (options : MssqlConnectOptions) : Bytes :=
  leBytes 4 (login7Stop options) ++ leBytes 4 tdsVersion74 ++
    leBytes 4 options.requestedPacketSize.toNat ++
    leBytes 4 options.clientProgramVersion.toNat ++ leBytes 4 options.clientPid.toNat ++
    leBytes 4 0 ++ [optionFlags1, optionFlags2, typeFlags, optionFlags3] ++ intBytes 4 0 ++ leBytes 4 0

theorem entriesAt_login7Table (fits : login7Stop options ≤ maxLogin7Len) :
    (List.range 9).map (fun i => entryAt (login7Payload options) (36 + 4 * i)) =
      login7Table options := by
  have head : (fixedHead options).length = 36 := by simp [fixedHead]
  have read := entriesAt_table (fixedHead options) (List.replicate 6 0 ++
    (login7Extra options).flatMap Login7FieldOffset.bytes ++ leBytes 4 0 ++
    (login7Texts options).flatMap Login7Text.bytes) (login7Table options) (login7Table_small fits)
  rw [head] at read
  rw [← read]
  simp only [login7Payload, fixedPart, fixedHead, List.append_assoc]
  rfl

theorem entriesAt_login7Extra (fits : login7Stop options ≤ maxLogin7Len) :
    (List.range 3).map (fun i => entryAt (login7Payload options) (78 + 4 * i)) =
      login7Extra options := by
  have small : ∀ entry ∈ login7Extra options, entry.Small := by
    simp only [login7Extra, List.forall_mem_cons, List.not_mem_nil, false_implies, implies_true,
      and_true, and_self]
    exact ⟨fits, Nat.zero_le _⟩
  have head : (fixedHead options ++ (login7Table options).flatMap Login7FieldOffset.bytes ++
      List.replicate 6 0).length = 78 := by
    rw [List.length_append, List.length_append, entries_length]
    simp [fixedHead, login7Table, login7Texts, entriesFrom]
  have read := entriesAt_table (fixedHead options ++
    (login7Table options).flatMap Login7FieldOffset.bytes ++ List.replicate 6 0)
    (leBytes 4 0 ++ (login7Texts options).flatMap Login7Text.bytes) (login7Extra options) small
  rw [head] at read
  rw [← read]
  simp only [login7Payload, fixedPart, fixedHead, List.append_assoc]
  rfl

/-- The sixth entry of the table is the unused one, and the others are those of the texts. -/
theorem entryAt_textPositions (fits : login7Stop options ≤ maxLogin7Len) :
    textPositions.map (entryAt (login7Payload options)) =
      entriesFrom login7FixedLen (login7Texts options) := by
  rw [entriesFrom_texts]
  exact congrArg (fun table => table.eraseIdx 5) (entriesAt_login7Table fits)

theorem entryAt_emptyPositions (fits : login7Stop options ≤ maxLogin7Len) :
    emptyPositions.map (entryAt (login7Payload options)) =
      .empty (login7Unused options) :: login7Extra options :=
  congrArg₂ (fun table extra => (table.drop 5).take 1 ++ extra) (entriesAt_login7Table fits)
    (entriesAt_login7Extra fits)

theorem fixedPart_length (options : MssqlConnectOptions) :
    (fixedPart options (login7Stop options) (login7Table options) (login7Extra options)).length =
      login7FixedLen := by
  simp only [fixedPart, List.length_append, leBytes_length, intBytes_length, entries_length,
    List.length_cons, List.length_nil, List.length_replicate]
  rfl

theorem login7Payload_length (options : MssqlConnectOptions) :
    (login7Payload options).length = login7Stop options := by
  have texts : ∀ list : List Login7Text,
      (list.flatMap Login7Text.bytes).length = 2 * textUnits list := by
    intro list
    induction list with
    | nil => rfl
    | cons text list ih =>
      rw [List.flatMap_cons, List.length_append, Login7Text.bytes_length, ih, textUnits_cons,
        Nat.mul_add]
  rw [login7Payload, List.length_append, fixedPart_length, texts, login7Stop]

theorem login7Layout (fits : login7Stop options ≤ maxLogin7Len) :
    Login7Layout options (login7Payload options) where
  length := by
    have small : login7Stop options < 256 ^ 4 := Nat.lt_of_le_of_lt fits (by decide)
    have front : (login7Payload options).take 4 = leBytes 4 (login7Stop options) := by
      simp only [login7Payload, fixedPart, List.append_assoc]
      exact List.take_left' (leBytes_length ..)
    rw [front, leNat_leBytes_of_lt small, login7Payload_length]
  total := login7Payload_length options
  texts := by
    have regions := entriesFrom_region (login7Texts options)
      (fixedPart options (login7Stop options) (login7Table options) (login7Extra options))
    rw [fixedPart_length, ← entryAt_textPositions fits, List.forall₂_map_left_iff] at regions
    apply regions.imp
    intro position text ⟨count, region⟩
    change (entryAt (login7Payload options) position).region (login7Payload options) = _ at region
    exact ⟨by rw [region, Option.map_some, reveal_bytes], count⟩
  apart := by
    have apart := entriesFrom_apart (login7Texts options) login7FixedLen
    rwa [← entryAt_textPositions fits, List.pairwise_map] at apart
  inside := by
    intro position member
    have entry := List.mem_map_of_mem (f := entryAt (login7Payload options)) member
    rw [entryAt_textPositions fits] at entry
    rw [login7Payload_length]
    exact entriesFrom_bounds _ _ _ entry
  empty := by
    intro position member
    have entry := List.mem_map_of_mem (f := entryAt (login7Payload options)) member
    rw [entryAt_emptyPositions fits] at entry
    have part := textUnits_take_le (login7Texts options) 5
    have unused : login7FixedLen ≤ login7Unused options ∧
        login7Unused options ≤ login7Stop options := by
      rw [login7Unused, login7Stop]
      omega
    have stop : login7FixedLen ≤ login7Stop options := Nat.le_add_right _ _
    rw [login7Payload_length]
    simp only [login7Extra, List.mem_cons, List.not_mem_nil, or_false, or_self] at entry
    rcases entry with same | same
    · rw [same]
      exact ⟨rfl, unused⟩
    · rw [same]
      exact ⟨rfl, stop, le_refl _⟩

end layout

/-- The payload is built exactly when its length fits sixteen bits, and its layout is faithful. -/
theorem buildLogin7Payload_layout (options : MssqlConnectOptions) :
    ((∃ payload, buildLogin7Payload options = .ok payload) ↔
      94 + 2 * textUnits (login7Texts options) ≤ 65535) ∧
    ∀ payload, buildLogin7Payload options = .ok payload → Login7Layout options payload := by
  constructor
  · constructor
    · intro ⟨payload, built⟩
      exact ((buildLogin7Payload_eq_ok_iff options payload).mp built).1
    · intro fits
      exact ⟨_, (buildLogin7Payload_eq_ok_iff options _).mpr ⟨fits, rfl⟩⟩
  · intro payload built
    have ⟨fits, same⟩ := (buildLogin7Payload_eq_ok_iff options payload).mp built
    rw [same]
    exact login7Layout fits

/-- The layout of the default options, with a password. -/
theorem buildLogin7Payload_layout_default :
    ∃ payload, buildLogin7Payload { password := some "secret" } = .ok payload ∧
      Login7Layout { password := some "secret" } payload := by
  have ⟨payload, built⟩ :=
    (buildLogin7Payload_layout { password := some "secret" }).1.mpr (by decide +kernel)
  exact ⟨payload, built, (buildLogin7Payload_layout { password := some "secret" }).2 payload built⟩

end SqlxSqlserver.Protocol

import SqlxSqlserver.Foundation.LittleEndian

/-! UTF-16 code units of a text and their little-endian bytes, and UTF-8 as `String::from_utf8_lossy`
reads it. Decoding UTF-16 refuses an unpaired surrogate, so a text is recovered exactly from its own
units; in UTF-8 every byte and every begun character that cannot be part of a text is one replacement
character. -/

namespace SqlxSqlserver.Foundation

def encodeUtf16Char (char : Char) : List UInt16 :=
  if char.toNat < 0x10000 then [UInt16.ofNat char.toNat]
  else
    [UInt16.ofNat (0xd800 + (char.toNat - 0x10000) / 0x400),
      UInt16.ofNat (0xdc00 + (char.toNat - 0x10000) % 0x400)]

def encodeUtf16 (text : String) : List UInt16 := text.toList.flatMap encodeUtf16Char

theorem encodeUtf16_length_le (text : String) : (encodeUtf16 text).length ≤ 2 * text.length := by
  have each : ∀ chars : List Char, (chars.flatMap encodeUtf16Char).length ≤ 2 * chars.length := by
    intro chars
    induction chars with
    | nil => exact Nat.zero_le _
    | cons char chars ih =>
      have one : (encodeUtf16Char char).length ≤ 2 := by
        unfold encodeUtf16Char
        split <;> simp
      rw [List.flatMap_cons, List.length_append, List.length_cons]
      omega
  exact each text.toList

def decodeUtf16Chars : List UInt16 → Option (List Char)
  | [] => some []
  | unit :: rest =>
    if unit.toNat < 0xd800 ∨ 0xdfff < unit.toNat then
      (decodeUtf16Chars rest).map (Char.ofNat unit.toNat :: ·)
    else match rest with
      | low :: rest =>
        if unit.toNat < 0xdc00 ∧ 0xdc00 ≤ low.toNat ∧ low.toNat ≤ 0xdfff then
          (decodeUtf16Chars rest).map
            (Char.ofNat (0x10000 + (unit.toNat - 0xd800) * 0x400 + (low.toNat - 0xdc00)) :: ·)
        else none
      | [] => none

def decodeUtf16 (units : List UInt16) : Option String :=
  (decodeUtf16Chars units).map String.ofList

theorem decodeUtf16Chars_encode (char : Char) (units : List UInt16) :
    decodeUtf16Chars (encodeUtf16Char char ++ units) =
      (decodeUtf16Chars units).map (char :: ·) := by
  have valid : char.toNat < 0xd800 ∨ 0xdfff < char.toNat ∧ char.toNat < 0x110000 := char.valid
  unfold encodeUtf16Char
  split
  next basic =>
    have unit : (UInt16.ofNat char.toNat).toNat = char.toNat := by
      rw [UInt16.toNat_ofNat', Nat.mod_eq_of_lt basic]
    have scalar : char.toNat < 0xd800 ∨ 0xdfff < char.toNat := by omega
    rw [List.singleton_append, decodeUtf16Chars.eq_def]
    simp only [unit, if_pos scalar, Char.ofNat_toNat]
  next supplementary =>
    have above : char.toNat - 0x10000 < 0x100000 := by omega
    have high : (UInt16.ofNat (0xd800 + (char.toNat - 0x10000) / 0x400)).toNat =
        0xd800 + (char.toNat - 0x10000) / 0x400 := by
      rw [UInt16.toNat_ofNat', Nat.mod_eq_of_lt (by omega)]
    have low : (UInt16.ofNat (0xdc00 + (char.toNat - 0x10000) % 0x400)).toNat =
        0xdc00 + (char.toNat - 0x10000) % 0x400 := by
      rw [UInt16.toNat_ofNat', Nat.mod_eq_of_lt (by omega)]
    rw [List.cons_append, List.singleton_append, decodeUtf16Chars, high, low,
      if_neg (by omega), if_pos (by omega)]
    have whole : 0x10000 + (0xd800 + (char.toNat - 0x10000) / 0x400 - 0xd800) * 0x400 +
        (0xdc00 + (char.toNat - 0x10000) % 0x400 - 0xdc00) = char.toNat := by omega
    rw [whole, Char.ofNat_toNat]

theorem decodeUtf16_encodeUtf16 (text : String) : decodeUtf16 (encodeUtf16 text) = some text := by
  have chars : ∀ list : List Char,
      decodeUtf16Chars (list.flatMap encodeUtf16Char) = some list := by
    intro list
    induction list with
    | nil => rfl
    | cons char rest ih => rw [List.flatMap_cons, decodeUtf16Chars_encode, ih]; rfl
  rw [decodeUtf16, encodeUtf16, chars, Option.map_some, String.ofList_toList]

def unitBytes (units : List UInt16) : Bytes := units.flatMap fun unit => leBytes 2 unit.toNat

def bytesToUnits : Bytes → List UInt16
  | first :: second :: rest => UInt16.ofNat (leNat [first, second]) :: bytesToUnits rest
  | _ => []

@[simp] theorem unitBytes_length (units : List UInt16) :
    (unitBytes units).length = 2 * units.length := by
  induction units with
  | nil => rfl
  | cons unit rest ih =>
    rw [unitBytes, List.flatMap_cons, List.length_append, leBytes_length]
    change 2 + (unitBytes rest).length = _
    rw [ih, List.length_cons]
    omega

theorem unitBytes_cons (unit : UInt16) (units : List UInt16) :
    unitBytes (unit :: units) = leBytes 2 unit.toNat ++ unitBytes units := rfl

theorem bytesToUnits_unitBytes (units : List UInt16) : bytesToUnits (unitBytes units) = units := by
  induction units with
  | nil => rfl
  | cons unit rest ih =>
    have fits : unit.toNat < 256 ^ 2 := unit.toNat_lt
    have digits : leNat (leBytes 2 unit.toNat) = unit.toNat := leNat_leBytes_of_lt fits
    rw [unitBytes_cons]
    change UInt16.ofNat (leNat (leBytes 2 unit.toNat)) :: bytesToUnits (unitBytes rest) = _
    rw [digits, ih, UInt16.ofNat_toNat]

theorem toNat_charOfNat {value : Nat} (valid : value.isValidChar) :
    (Char.ofNat value).toNat = value := by
  rw [Char.ofNat, dif_pos valid]
  rfl

theorem flatMap_encodeUtf16Char {units : List UInt16} {chars : List Char}
    (decoded : decodeUtf16Chars units = some chars) : chars.flatMap encodeUtf16Char = units := by
  induction units using decodeUtf16Chars.induct generalizing chars with
  | case1 =>
    cases decoded
    rfl
  | case2 unit rest scalar ih =>
    rw [decodeUtf16Chars.eq_def] at decoded
    simp only [if_pos scalar, Option.map_eq_some_iff] at decoded
    obtain ⟨others, decoded, rfl⟩ := decoded
    have small : unit.toNat < 0x10000 := unit.toNat_lt
    have whole : (Char.ofNat unit.toNat).toNat = unit.toNat :=
      toNat_charOfNat (by unfold Nat.isValidChar; omega)
    rw [List.flatMap_cons, ih decoded, encodeUtf16Char, whole, if_pos small, UInt16.ofNat_toNat]
    rfl
  | case3 unit surrogate low rest pair ih =>
    rw [decodeUtf16Chars, if_neg surrogate, if_pos pair, Option.map_eq_some_iff] at decoded
    obtain ⟨others, decoded, rfl⟩ := decoded
    have valid : (0x10000 + (unit.toNat - 0xd800) * 0x400 + (low.toNat - 0xdc00)).isValidChar := by
      unfold Nat.isValidChar
      omega
    have whole := toNat_charOfNat valid
    have high : 0xd800 + (0x10000 + (unit.toNat - 0xd800) * 0x400 + (low.toNat - 0xdc00) - 0x10000) /
        0x400 = unit.toNat := by omega
    have rest : 0xdc00 + (0x10000 + (unit.toNat - 0xd800) * 0x400 + (low.toNat - 0xdc00) - 0x10000) %
        0x400 = low.toNat := by omega
    rw [List.flatMap_cons, ih decoded, encodeUtf16Char, whole, if_neg (by omega), high, rest,
      UInt16.ofNat_toNat, UInt16.ofNat_toNat]
    rfl
  | case4 unit surrogate low rest unpaired =>
    rw [decodeUtf16Chars, if_neg surrogate, if_neg unpaired] at decoded
    cases decoded
  | case5 unit surrogate =>
    rw [decodeUtf16Chars.eq_def] at decoded
    simp only [if_neg surrogate] at decoded
    cases decoded

theorem decodeUtf16_eq_some_iff (units : List UInt16) (text : String) :
    decodeUtf16 units = some text ↔ encodeUtf16 text = units := by
  constructor
  · intro decoded
    obtain ⟨chars, found, rfl⟩ := Option.map_eq_some_iff.mp decoded
    rw [encodeUtf16, String.toList_ofList]
    exact flatMap_encodeUtf16Char found
  · rintro rfl
    exact decodeUtf16_encodeUtf16 text

/-- An even number of bytes is recovered from its code units. -/
theorem unitBytes_bytesToUnits {bytes : Bytes} {count : Nat} (even : bytes.length = 2 * count) :
    unitBytes (bytesToUnits bytes) = bytes ∧ (bytesToUnits bytes).length = count := by
  induction bytes using bytesToUnits.induct generalizing count with
  | case1 first second rest ih =>
    rw [List.length_cons, List.length_cons] at even
    have fewer : rest.length = 2 * (count - 1) := by omega
    obtain ⟨whole, length⟩ := ih fewer
    have digits : leBytes 2 (leNat [first, second]) = [first, second] := leBytes_leNat [first, second]
    have fits : leNat [first, second] < 256 ^ 2 := leNat_lt [first, second]
    rw [bytesToUnits, unitBytes_cons, whole, UInt16.toNat_ofNat', Nat.mod_eq_of_lt (by omega), digits,
      List.length_cons, length]
    exact ⟨rfl, by omega⟩
  | case2 bytes short =>
    cases bytes with
    | nil => exact ⟨rfl, by rw [List.length_nil] at even; exact (by omega : 0 = count)⟩
    | cons first rest =>
      cases rest with
      | nil =>
        rw [List.length_singleton] at even
        omega
      | cons second rest => exact absurd rfl (short first second rest)

section utf8

/-- A begun character: how many bytes are missing, the range of the next one, and the bits of those
that have been read. -/
structure Utf8Begun where
  missing : Nat
  lowest : Nat := 0x80
  highest : Nat := 0xbf
  bits : Nat
  deriving DecidableEq, Repr

def replacementCharacter : Char := '\ufffd'

def utf8First (byte : Nat) : List Char × Option Utf8Begun :=
  if byte < 0x80 then ([Char.ofNat byte], none)
  else if byte < 0xc2 then ([replacementCharacter], none)
  else if byte < 0xe0 then ([], some { missing := 1, bits := byte - 0xc0 })
  else if byte < 0xf0 then
    ([], some {
      missing := 2
      lowest := if byte = 0xe0 then 0xa0 else 0x80
      highest := if byte = 0xed then 0x9f else 0xbf
      bits := byte - 0xe0 })
  else if byte < 0xf5 then
    ([], some {
      missing := 3
      lowest := if byte = 0xf0 then 0x90 else 0x80
      highest := if byte = 0xf4 then 0x8f else 0xbf
      bits := byte - 0xf0 })
  else ([replacementCharacter], none)

/-- A byte out of range ends the begun character, and is then a first byte itself. -/
def utf8Next (begun : Option Utf8Begun) (byte : Nat) : List Char × Option Utf8Begun :=
  match begun with
  | none => utf8First byte
  | some begun =>
    if begun.lowest ≤ byte ∧ byte ≤ begun.highest then
      let bits := begun.bits * 64 + (byte - 0x80)
      if begun.missing = 1 then ([Char.ofNat bits], none)
      else ([], some { missing := begun.missing - 1, bits })
    else (utf8First byte).map (replacementCharacter :: ·) id

def decodeUtf8From : Option Utf8Begun → Bytes → List Char
  | none, [] => []
  | some _, [] => [replacementCharacter]
  | begun, byte :: rest =>
    (utf8Next begun byte.toNat).1 ++ decodeUtf8From (utf8Next begun byte.toNat).2 rest

def fromUtf8Lossy (bytes : Bytes) : String := String.ofList (decodeUtf8From none bytes)

example : fromUtf8Lossy [0x61, 0xe2, 0x82, 0xac, 0xe2, 0x82, 0x62, 0xc3] = "a€\ufffdb\ufffd" := by
  decide

def asciiBytes (text : List Char) : Bytes := text.map fun char => UInt8.ofNat char.toNat

theorem asciiBytes_length (text : List Char) : (asciiBytes text).length = text.length :=
  List.length_map _

theorem decodeUtf8From_asciiBytes {text : List Char} (ascii : ∀ char ∈ text, char.toNat < 128) :
    decodeUtf8From none (asciiBytes text) = text := by
  induction text with
  | nil => rfl
  | cons char text ih =>
    have small := ascii char List.mem_cons_self
    have rest := ih fun other member => ascii other (List.mem_cons_of_mem _ member)
    have byte : (UInt8.ofNat char.toNat).toNat = char.toNat :=
      UInt8.toNat_ofNat_of_lt' (Nat.lt_trans small (by decide))
    have first : utf8First char.toNat = ([char], none) := by
      rw [utf8First, if_pos small, Char.ofNat_toNat]
    rw [asciiBytes, List.map_cons, ← asciiBytes, decodeUtf8From, byte, utf8Next, first]
    exact congrArg (char :: ·) rest

end utf8

end SqlxSqlserver.Foundation

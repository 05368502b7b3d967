import Mathlib.Data.Nat.Basic
import Mathlib.Data.Nat.Bitwise
import Mathlib.Tactic.Positivity
import Mathlib.Tactic.Ring
import Mathlib.Tactic.Zify

/-! Fixed-width numbers as byte strings, in both byte orders. A width is part of every
encoding, so two encodings of the same width never overlap when they are concatenated. Bits are
packed into bytes with the first bit in the least significant place of the first byte. -/

namespace SqlxSqlserver.Foundation

abbrev Bytes := List UInt8

def leBytes : Nat → Nat → Bytes
  | 0, _ => []
  | width + 1, value => UInt8.ofNat value :: leBytes width (value / 256)

def leNat : Bytes → Nat
  | [] => 0
  | byte :: rest => byte.toNat + 256 * leNat rest

@[simp] theorem leBytes_length (width value : Nat) : (leBytes width value).length = width := by
  induction width generalizing value with
  | zero => rfl
  | succ width ih => simp only [leBytes, List.length_cons, ih]

theorem leNat_lt (bytes : Bytes) : leNat bytes < 256 ^ bytes.length := by
  induction bytes with
  | nil => simp [leNat]
  | cons byte rest ih =>
    have small : byte.toNat < 256 := byte.toNat_lt
    simp only [leNat, List.length_cons, pow_succ]
    omega

theorem leNat_leBytes (width value : Nat) : leNat (leBytes width value) = value % 256 ^ width := by
  induction width generalizing value with
  | zero => simp [leBytes, leNat, Nat.mod_one]
  | succ width ih =>
    have head : (UInt8.ofNat value).toNat = value % 256 := UInt8.toNat_ofNat'
    rw [leBytes, leNat, ih, head, pow_succ', Nat.mod_mul]

theorem leNat_leBytes_of_lt {width value : Nat} (fits : value < 256 ^ width) :
    leNat (leBytes width value) = value := by
  rw [leNat_leBytes, Nat.mod_eq_of_lt fits]

theorem leBytes_leNat (bytes : Bytes) : leBytes bytes.length (leNat bytes) = bytes := by
  induction bytes with
  | nil => rfl
  | cons byte rest ih =>
    have small : byte.toNat < 256 := byte.toNat_lt
    have head : UInt8.ofNat (byte.toNat + 256 * leNat rest) = byte := by
      apply UInt8.toNat_inj.mp
      rw [UInt8.toNat_ofNat']
      omega
    have tail : (byte.toNat + 256 * leNat rest) / 256 = leNat rest := by omega
    simp only [leNat, List.length_cons, leBytes, head, tail, ih]

theorem leBytes_take (width more value : Nat) :
    (leBytes (width + more) value).take width = leBytes width value := by
  induction width generalizing value with
  | zero => rfl
  | succ width ih =>
    rw [show width + 1 + more = width + more + 1 by omega, leBytes, List.take_succ_cons, ih, leBytes]

theorem leBytes_mod (width value : Nat) : leBytes width (value % 256 ^ width) = leBytes width value := by
  have digits := leBytes_leNat (leBytes width value)
  rwa [leBytes_length, leNat_leBytes] at digits

theorem leBytes_injective {width value other : Nat} (fits : value < 256 ^ width)
    (other_fits : other < 256 ^ width) (same : leBytes width value = leBytes width other) :
    value = other := by
  rw [← leNat_leBytes_of_lt fits, same, leNat_leBytes_of_lt other_fits]

def intBytes (width : Nat) (value : Int) : Bytes := leBytes width (value % 256 ^ width).toNat

def leInt (bytes : Bytes) : Int :=
  if 2 * leNat bytes < 256 ^ bytes.length then leNat bytes
  else leNat bytes - 256 ^ bytes.length

@[simp] theorem intBytes_length (width : Nat) (value : Int) :
    (intBytes width value).length = width := leBytes_length width _

/-- A signed number is read back modulo its width, around zero. -/
theorem leInt_intBytes_bmod (width : Nat) (value : Int) :
    leInt (intBytes width value) = value.bmod (256 ^ width) := by
  have positive : (0 : Int) < 256 ^ width := by positivity
  have digits : (leNat (intBytes width value) : Int) = value % 256 ^ width := by
    have sign := Int.emod_nonneg value positive.ne'
    have fits : (value % 256 ^ width).toNat < 256 ^ width := by
      zify
      rw [Int.toNat_of_nonneg sign]
      exact Int.emod_lt_of_pos value positive
    rw [intBytes, leNat_leBytes_of_lt fits, Int.toNat_of_nonneg sign]
  rw [leInt, intBytes_length, Int.bmod, digits]
  push_cast
  have half : 2 * leNat (intBytes width value) < 256 ^ width ↔
      value % 256 ^ width < ((256 : Int) ^ width + 1) / 2 := by
    zify
    rw [digits]
    omega
  by_cases small : 2 * leNat (intBytes width value) < 256 ^ width
  · rw [if_pos small, if_pos (half.mp small)]
  · rw [if_neg small, if_neg (small ∘ half.mpr)]

theorem leInt_leBytes {width value : Nat} (half : 2 * value < 256 ^ width) :
    leInt (leBytes width value) = value := by
  rw [leInt, leBytes_length, leNat_leBytes_of_lt (by omega), if_pos half]

theorem leInt_intBytes {width : Nat} {value : Int} (lower : -(256 ^ width : Int) ≤ 2 * value)
    (upper : 2 * value < 256 ^ width) : leInt (intBytes width value) = value := by
  rw [leInt_intBytes_bmod]
  apply Int.bmod_eq_of_le
  · push_cast
    omega
  · push_cast
    omega

theorem intBytes_take (width more : Nat) (value : Int) :
    (intBytes (width + more) value).take width = intBytes width value := by
  have wide : (0 : Int) < 256 ^ (width + more) := by positivity
  have digits : (value % 256 ^ (width + more)).toNat % 256 ^ width = (value % 256 ^ width).toNat := by
    zify
    rw [Int.toNat_of_nonneg (Int.emod_nonneg value wide.ne'),
      Int.toNat_of_nonneg (Int.emod_nonneg value (by positivity)), pow_add]
    exact Int.emod_emod_of_dvd value (Dvd.intro _ rfl)
  rw [intBytes, leBytes_take, ← leBytes_mod, digits, intBytes]

def beBytes (width value : Nat) : Bytes := (leBytes width value).reverse

def beNat (bytes : Bytes) : Nat := leNat bytes.reverse

@[simp] theorem beBytes_length (width value : Nat) : (beBytes width value).length = width := by
  simp [beBytes]

theorem beNat_lt (bytes : Bytes) : beNat bytes < 256 ^ bytes.length := by
  simpa only [beNat, List.length_reverse] using leNat_lt bytes.reverse

theorem beNat_beBytes_of_lt {width value : Nat} (fits : value < 256 ^ width) :
    beNat (beBytes width value) = value := by
  rw [beNat, beBytes, List.reverse_reverse, leNat_leBytes_of_lt fits]

theorem beBytes_beNat (bytes : Bytes) : beBytes bytes.length (beNat bytes) = bytes := by
  have digits := leBytes_leNat bytes.reverse
  rw [List.length_reverse] at digits
  rw [beBytes, beNat, digits, List.reverse_reverse]

section bitmaps

theorem leBytes_getElem? {width index : Nat} (inside : index < width) (value : Nat) :
    (leBytes width value)[index]? = some (UInt8.ofNat (value / 256 ^ index)) := by
  induction width generalizing index value with
  | zero => exact absurd inside (Nat.not_lt_zero _)
  | succ width ih =>
    cases index with
    | zero => rw [leBytes, List.getElem?_cons_zero, pow_zero, Nat.div_one]
    | succ index =>
      rw [leBytes, List.getElem?_cons_succ, ih (Nat.lt_of_succ_lt_succ inside), Nat.div_div_eq_div_mul,
        ← pow_succ']

theorem and_mask_ne_zero (byte : UInt8) {place : Nat} (small : place < 8) :
    (byte &&& (1 <<< UInt8.ofNat place) != 0) = byte.toNat.testBit place := by
  have mask : (1 <<< UInt8.ofNat place : UInt8).toNat = 2 ^ place := by
    have below : 2 ^ place < 2 ^ 8 := Nat.pow_lt_pow_right (by decide) small
    rw [UInt8.toNat_shiftLeft, UInt8.toNat_ofNat', Nat.mod_mod_of_dvd _ (by decide),
      Nat.mod_eq_of_lt small, UInt8.toNat_one, Nat.one_shiftLeft, Nat.mod_eq_of_lt below]
  have number : (byte &&& (1 <<< UInt8.ofNat place)).toNat =
      (byte.toNat.testBit place).toNat * 2 ^ place := by
    rw [UInt8.toNat_and, mask, Nat.and_two_pow]
  rw [Bool.eq_iff_iff, bne_iff_ne, ne_eq, ← UInt8.toNat_inj, number, UInt8.toNat_zero]
  cases byte.toNat.testBit place <;> simp

/-- As many bytes as the bits fill, read as one number. -/
def packBits (bits : List Bool) : Bytes :=
  leBytes ((bits.length + 7) / 8) (Nat.ofBits bits.get)

theorem packBits_length (bits : List Bool) : (packBits bits).length = (bits.length + 7) / 8 :=
  leBytes_length _ _

/-- The mask for a position, laid over the byte the position falls in, finds the bit there. -/
theorem packBits_bit (bits : List Bool) {index : Nat} (inside : index < bits.length) :
    (packBits bits)[index / 8]?.map (· &&& (1 <<< UInt8.ofNat (index % 8)) != 0) =
      bits[index]? := by
  have byteInside : index / 8 < (bits.length + 7) / 8 := by omega
  have position : index % 8 + 8 * (index / 8) = index := by omega
  have bit : (UInt8.ofNat (Nat.ofBits bits.get / 256 ^ (index / 8))).toNat.testBit (index % 8) =
      bits[index] := by
    rw [UInt8.toNat_ofNat', Nat.testBit_mod_two_pow, show 256 = 2 ^ 8 by rfl, ← pow_mul,
      Nat.testBit_div_two_pow, position, Nat.testBit_ofBits_lt _ _ inside]
    simp only [Nat.mod_lt _ (Nat.succ_pos 7), decide_true, Bool.true_and, List.get_eq_getElem]
  rw [packBits, leBytes_getElem? byteInside, Option.map_some, and_mask_ne_zero _ (by omega), bit,
    List.getElem?_eq_getElem inside]

end bitmaps

end SqlxSqlserver.Foundation

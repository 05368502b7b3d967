import SqlxSqlserver.Foundation.Reader
import SqlxSqlserver.Foundation.Unicode
import SqlxSqlserver.Protocol.Packet

/-! The error type of the driver and the readers of query tokens. The source repeats these
readers for every error type; here each family is the same reader at its own errors. -/

namespace SqlxSqlserver.Protocol
open Foundation Reader

inductive IoErrorKind where
  | invalidData
  | writeZero
  | unexpectedEof
  | other
  deriving DecidableEq, Repr

structure IoError where
  kind : IoErrorKind
  message : String
  deriving DecidableEq, Repr

structure ServerError where
  /-- A signed 32-bit number. -/
  number : Int
  state : UInt8
  severity : UInt8
  message : String
  serverName : String
  procedureName : String
  lineNumber : Nat
  deriving DecidableEq, Repr

/-- `BoxDynError`, by where it comes from. -/
inductive BoxDynError where
  | message (text : String)
  | tryFromInt
  | tryFromSlice
  | utf16
  | utf8
  /-- of the `time` crate -/
  | componentRange (component : String)
  deriving DecidableEq, Repr

/-- The text of the error; the offsets that an invalid UTF-8 error adds and the bounds that a range
error adds are left out. -/
def BoxDynError.display : BoxDynError → String
  | .message text => text
  | .tryFromInt => "out of range integral type conversion attempted"
  | .tryFromSlice => "could not convert slice to array"
  | .utf16 => "invalid utf-16: lone surrogate found"
  | .utf8 => "invalid utf-8 sequence"
  | .componentRange component => component

inductive Error where
  | protocol (message : String)
  | io (error : IoError)
  | tls (message : String)
  | database (error : ServerError)
  | columnIndexOutOfBounds (index len : Nat)
  | columnDecode (index : String) (source : BoxDynError)
  deriving DecidableEq, Repr

section texts
variable {ε : Type} {eof overflow invalid : ε}

def utf16Text (eof overflow invalid : ε) (lenChars : Nat) : Reader ε String :=
  if usizeMax < lenChars * 2 then fail overflow
  else do
    let bytes ← Reader.take eof (lenChars * 2)
    match decodeUtf16 (bytesToUnits bytes) with
    | some text => pure text
    | none => fail invalid

def bVarchar (eof overflow invalid : ε) : Reader ε String := do
  utf16Text eof overflow invalid (← byte eof).toNat

theorem local_utf16Text (lenChars : Nat) : Local (utf16Text eof overflow invalid lenChars) := by
  unfold utf16Text
  split
  · exact local_fail _
  · apply (local_take _ _).bind
    intro bytes
    split
    · exact local_pure _
    · exact local_fail _

theorem calm_utf16Text (lenChars : Nat) : Calm (utf16Text eof overflow invalid lenChars) := by
  unfold utf16Text
  split
  · exact calm_fail _
  · apply (calm_take _ _).bind
    intro bytes
    split
    · exact calm_pure _
    · exact calm_fail _

theorem reads_utf16Text (text : String) (fits : (encodeUtf16 text).length * 2 ≤ usizeMax) :
    Reads (utf16Text eof overflow invalid (encodeUtf16 text).length)
      (unitBytes (encodeUtf16 text)) text := by
  intro rest
  have length : (encodeUtf16 text).length * 2 = (unitBytes (encodeUtf16 text)).length := by
    rw [unitBytes_length, Nat.mul_comm]
  have taken := reads_take eof (unitBytes (encodeUtf16 text)) rest
  rw [utf16Text, if_neg (Nat.not_lt.mpr fits), length, bind_ok taken, bytesToUnits_unitBytes,
    decodeUtf16_encodeUtf16]
  rfl

theorem local_bVarchar : Local (bVarchar eof overflow invalid) :=
  (local_byte eof).bind fun _ => local_utf16Text _

theorem calm_bVarchar : Calm (bVarchar eof overflow invalid) :=
  (calm_byte eof).bind fun _ => calm_utf16Text _

theorem reads_bVarchar (text : String) (short : (encodeUtf16 text).length ≤ 255) :
    Reads (bVarchar eof overflow invalid)
      (UInt8.ofNat (encodeUtf16 text).length :: unitBytes (encodeUtf16 text)) text := by
  have count : (UInt8.ofNat (encodeUtf16 text).length).toNat = (encodeUtf16 text).length := by
    rw [UInt8.toNat_ofNat', Nat.mod_eq_of_lt (by omega)]
  have fits : (encodeUtf16 text).length * 2 ≤ usizeMax := by rw [usizeMax]; omega
  have body : Reads (utf16Text eof overflow invalid (encodeUtf16 text).length)
      (unitBytes (encodeUtf16 text)) text := reads_utf16Text text fits
  rw [← count] at body
  exact (reads_byte eof _).bind body

theorem reads_utf16Text_iff {lenChars : Nat} {bytes : Bytes} {text : String} :
    Reads (utf16Text eof overflow invalid lenChars) bytes text ↔ lenChars * 2 ≤ usizeMax ∧
      (encodeUtf16 text).length = lenChars ∧ bytes = unitBytes (encodeUtf16 text) := by
  constructor
  · intro reads
    unfold utf16Text at reads
    split_ifs at reads with long
    · exact absurd reads not_reads_fail
    · obtain ⟨units, middle, taken, decoded⟩ := of_bind_ok (reads [])
      obtain ⟨split, length⟩ := take_ok taken
      obtain ⟨whole, count⟩ := unitBytes_bytesToUnits (length.trans (Nat.mul_comm _ _))
      cases found : decodeUtf16 (bytesToUnits units) with
      | none =>
        rw [found] at decoded
        cases decoded
      | some other =>
        rw [found] at decoded
        cases decoded
        have same := (decodeUtf16_eq_some_iff _ _).mp found
        rw [same, whole, List.append_cancel_right split]
        exact ⟨Nat.not_lt.mp long, count, rfl⟩
  · rintro ⟨fits, rfl, rfl⟩
    exact reads_utf16Text text fits

theorem reads_bVarchar_iff {bytes : Bytes} {text : String} :
    Reads (bVarchar eof overflow invalid) bytes text ↔ (encodeUtf16 text).length < 256 ∧
      bytes = UInt8.ofNat (encodeUtf16 text).length :: unitBytes (encodeUtf16 text) := by
  constructor
  · intro reads
    obtain ⟨first, count, second, rfl, head, tail⟩ :=
      (Reads.bind_iff (local_byte _) (fun _ => local_utf16Text _) _ _).mp reads
    obtain ⟨_, length, rfl⟩ := reads_utf16Text_iff.mp tail
    rw [reads_byte_iff.mp head, length, UInt8.ofNat_toNat]
    exact ⟨count.toNat_lt, rfl⟩
  · rintro ⟨short, rfl⟩
    exact reads_bVarchar text (by omega)

end texts

namespace Read

def ended : Error := .protocol "SQL Server query token ended before expected length"

def take (len : Nat) : Reader Error Bytes := Reader.take ended len

def readU8 : Reader Error UInt8 := Reader.byte ended

def readU16Le : Reader Error Nat := Reader.le ended 2

def readU32Le : Reader Error Nat := Reader.le ended 4

def readU64Le : Reader Error Nat := Reader.le ended 8

def readLenPrefixed : Reader Error Bytes := do
  take (← readU16Le)

def readUtf16 (lenChars : Nat) : Reader Error String :=
  utf16Text ended (.protocol "SQL Server string length overflow")
    (.protocol "SQL Server string contained invalid UTF-16") lenChars

def readBVarchar : Reader Error String := do
  readUtf16 (← readU8).toNat

theorem local_readLenPrefixed : Local readLenPrefixed :=
  (local_le ended 2).bind fun len => local_take ended len

theorem calm_readLenPrefixed : Calm readLenPrefixed :=
  (calm_le ended 2).bind fun len => calm_take ended len

theorem local_readBVarchar : Local readBVarchar := local_bVarchar

theorem calm_readBVarchar : Calm readBVarchar := calm_bVarchar

end Read
end SqlxSqlserver.Protocol

import SqlxSqlserver.Protocol.Read
import SqlxSqlserver.Foundation.Pieces

/-! The ERROR and ENVCHANGE tokens. Each is parsed from the buffer its length prefix cuts out. -/

namespace SqlxSqlserver.Protocol
open Foundation Reader

inductive EnvChange where
  | database (name : String)
  | language (name : String)
  | characterSet (name : String)
  | packetSize (size : UInt32)
  | unicodeDataSortingLocalId (id : String)
  | unicodeDataSortingComparisonFlags (flags : String)
  | sqlCollation (collation : Bytes)
  | beginTransaction (descriptor : UInt64)
  | commitTransaction (descriptor : UInt64)
  | rollbackTransaction (descriptor : UInt64)
  | ignored (changeType : UInt8) (data : Bytes)
  deriving DecidableEq, Repr

inductive TokenParseError where
  | unexpectedEof
  | lengthOverflow
  | invalidUtf16
  | unsupportedToken (code : UInt8)
  | trailingTokenBytes (count : Nat)
  | invalidEnvChangePacketSize (size : String)
  deriving DecidableEq, Repr

def TokenParseError.message : TokenParseError → String
  | .unexpectedEof => "TDS token stream ended before the current token was complete"
  | .lengthOverflow => "TDS token length overflowed"
  | .invalidUtf16 => "TDS token contained invalid UTF-16 string data"
  | .unsupportedToken code => "unsupported TDS token 0x" ++ hexByte code
  | .trailingTokenBytes count => s!"TDS token contained {count} trailing bytes"
  | .invalidEnvChangePacketSize size =>
      s!"TDS ENVCHANGE packet size `{size}` is not a valid integer"

namespace Token

def take (len : Nat) : Reader TokenParseError Bytes := Reader.take .unexpectedEof len

def readU8 : Reader TokenParseError UInt8 := Reader.byte .unexpectedEof

def readU16Le : Reader TokenParseError Nat := Reader.le .unexpectedEof 2

def readI32Le : Reader TokenParseError Int := do
  return leInt (← take 4)

def readU32Le : Reader TokenParseError Nat := Reader.le .unexpectedEof 4

def readU64Le : Reader TokenParseError UInt64 := do
  return UInt64.ofNat (← Reader.le .unexpectedEof 8)

def readUtf16String (lenChars : Nat) : Reader TokenParseError String :=
  utf16Text .unexpectedEof .lengthOverflow .invalidUtf16 lenChars

def readBVarchar : Reader TokenParseError String := do
  readUtf16String (← readU8).toNat

def readUsVarchar : Reader TokenParseError String := do
  readUtf16String (← readU16Le)

def readBVarbyte : Reader TokenParseError Bytes := do
  take (← readU8).toNat

/-- The number is read from the counted bytes; what else they hold is ignored. -/
def readBVarbyteU64Le : Reader TokenParseError UInt64 := do
  readU64Le.within (← readBVarbyte)

/-- The number follows the counted bytes, without a count of its own. -/
def readTransactionEndDescriptor : Reader TokenParseError UInt64 := do
  let _newDescriptor ← readBVarbyte
  readU64Le

def expectEmpty : Reader TokenParseError Unit := fun input =>
  if input.isEmpty then .ok ((), input) else .err (.trailingTokenBytes input.length)

def remaining : Reader TokenParseError Bytes := fun input => .ok (input, input)

end Token

/-- `str::parse::<u32>`: decimal digits behind an optional plus sign. -/
def parseU32 (text : String) : Option UInt32 :=
  let digits := match text.toList with
    | '+' :: digits => digits
    | digits => digits
  if digits.isEmpty then none
  else if digits.all Char.isDigit then
    let value := digits.foldl (fun value digit => value * 10 + (digit.toNat - '0'.toNat)) 0
    if value < 2 ^ 32 then some (UInt32.ofNat value) else none
  else none

def parsePacketSize (size : String) : Reader TokenParseError EnvChange :=
  match parseU32 size with
  | some value => pure (.packetSize value)
  | none => fail (.invalidEnvChangePacketSize size)

def envChangeOf (changeType : UInt8) : Reader TokenParseError EnvChange :=
  match changeType.toNat with
  | 1 => do return .database (← Token.readBVarchar)
  | 2 => do return .language (← Token.readBVarchar)
  | 3 => do return .characterSet (← Token.readBVarchar)
  | 4 => do parsePacketSize (← Token.readBVarchar)
  | 5 => do return .unicodeDataSortingLocalId (← Token.readBVarchar)
  | 6 => do return .unicodeDataSortingComparisonFlags (← Token.readBVarchar)
  | 7 => do return .sqlCollation (← Token.readBVarbyte)
  | 8 => do return .beginTransaction (← Token.readBVarbyteU64Le)
  | 9 => do return .commitTransaction (← Token.readTransactionEndDescriptor)
  | 10 => do return .rollbackTransaction (← Token.readTransactionEndDescriptor)
  | _ => do return .ignored changeType (← Token.remaining)

def parseEnvChange : Reader TokenParseError EnvChange := do
  envChangeOf (← Token.readU8)

def parseError : Reader TokenParseError ServerError := do
  let number ← Token.readI32Le
  let state ← Token.readU8
  let severity ← Token.readU8
  let message ← Token.readUsVarchar
  let serverName ← Token.readBVarchar
  let procedureName ← Token.readBVarchar
  let lineNumber ← Token.readU32Le
  Token.expectEmpty
  return { number, state, severity, message, serverName, procedureName, lineNumber }

example : parseU32 "+4096" = some 4096 ∧ parseU32 "4 096" = none ∧ parseU32 "4294967296" = none := by
  decide

section calm

theorem calm_readBVarbyte : Calm Token.readBVarbyte :=
  (calm_byte _).bind fun _ => calm_take _ _

theorem calm_readU64Le : Calm Token.readU64Le := (calm_le _ _).bind fun _ => calm_pure _

theorem calm_readBVarcharToken : Calm Token.readBVarchar :=
  (calm_byte _).bind fun _ => calm_utf16Text _

theorem calm_expectEmpty : Calm Token.expectEmpty := by
  rintro input ⟨message, panics⟩
  unfold Token.expectEmpty at panics
  split at panics <;> cases panics

theorem calm_remaining : Calm Token.remaining := by
  rintro input ⟨message, panics⟩
  cases panics

theorem calm_envChangeOf (changeType : UInt8) : Calm (envChangeOf changeType) := by
  have text : ∀ change : String → EnvChange,
      Calm (do return change (← Token.readBVarchar) : Reader TokenParseError EnvChange) :=
    fun change => calm_readBVarcharToken.bind fun _ => calm_pure _
  have ended : Calm Token.readTransactionEndDescriptor :=
    calm_readBVarbyte.bind fun _ => calm_readU64Le
  unfold envChangeOf
  split
  case h_4 =>
    apply calm_readBVarcharToken.bind
    intro size
    unfold parsePacketSize
    split
    · exact calm_pure _
    · exact calm_fail _
  case h_7 => exact calm_readBVarbyte.bind fun _ => calm_pure _
  case h_8 => exact (calm_readBVarbyte.bind fun _ => calm_readU64Le.within _).bind fun _ => calm_pure _
  case h_9 => exact ended.bind fun _ => calm_pure _
  case h_10 => exact ended.bind fun _ => calm_pure _
  case h_11 => exact calm_remaining.bind fun _ => calm_pure _
  all_goals exact text _

theorem calm_parseEnvChange : Calm parseEnvChange := (calm_byte _).bind calm_envChangeOf

theorem calm_parseError : Calm parseError :=
  ((calm_take _ _).bind fun _ => calm_pure _).bind fun _ => (calm_byte _).bind fun _ =>
    (calm_byte _).bind fun _ => ((calm_le _ _).bind fun _ => calm_utf16Text _).bind fun _ =>
    calm_readBVarcharToken.bind fun _ => calm_readBVarcharToken.bind fun _ =>
    (calm_le _ _).bind fun _ => calm_expectEmpty.bind fun _ => calm_pure _

end calm
end SqlxSqlserver.Protocol

import SqlxSqlserver.Driver.Options
import SqlxSqlserver.Foundation.Fallible
import SqlxSqlserver.Foundation.Unicode
import SqlxSqlserver.Protocol.PreLogin

/-! The LOGIN7 message: a fixed part with a table of offsets and character counts, and the texts
behind it. Both messages of a login are framed with the packet size that the options ask for. -/

namespace SqlxSqlserver.Protocol
open Foundation Driver

def login7FixedLen : Nat := 94

def tdsVersion74 : Nat := 0x74000004

def optionFlags1 : UInt8 := 0xe0
def optionFlags2 : UInt8 := 0x03
def typeFlags : UInt8 := 0x00
def optionFlags3 : UInt8 := 0x00

inductive Login7Error where
  | fieldTooLong
  | messageTooLarge
  deriving DecidableEq, Repr

def Login7Error.message : Login7Error → String
  | .fieldTooLong => "TDS LOGIN7 text field is too long"
  | .messageTooLarge => "TDS LOGIN7 message is too large"

def maxLogin7Len : Nat := 0xffff

structure Login7FieldOffset where
  offset : Nat
  lenChars : Nat
  deriving DecidableEq, Repr

def Login7FieldOffset.empty (offset : Nat) : Login7FieldOffset := { offset, lenChars := 0 }

def Login7FieldOffset.bytes (self : Login7FieldOffset) : Bytes :=
  leBytes 2 self.offset ++ leBytes 2 self.lenChars

structure Login7Fields where
  data : Bytes
  nextOffset : Nat
  deriving DecidableEq, Repr

def Login7Fields.new (baseOffset : Nat) : Login7Fields := { data := [], nextOffset := baseOffset }

def rotateLeft4 (byte : UInt8) : UInt8 := byte <<< 4 ||| byte >>> 4

def encodeUtf16Le (value : String) (obfuscate : Bool) : Bytes :=
  let out := unitBytes (encodeUtf16 value)
  if obfuscate then out.map fun byte => rotateLeft4 byte ^^^ 0xa5 else out

def Login7Fields.pushText (self : Login7Fields) (value : String) (obfuscate : Bool) :
    Except Login7Error (Login7FieldOffset × Login7Fields) := do
  let lenChars ← checked .fieldTooLong maxLogin7Len (encodeUtf16 value).length
  let encoded := encodeUtf16Le value obfuscate
  let encodedLen ← checked .messageTooLarge maxLogin7Len encoded.length
  let nextOffset ← checked .messageTooLarge maxLogin7Len (self.nextOffset + encodedLen)
  return ({ offset := self.nextOffset, lenChars }, { data := self.data ++ encoded, nextOffset })

def fixedPart (options : MssqlConnectOptions) (totalLen : Nat)
    (table extra : List Login7FieldOffset) : Bytes :=
  leBytes 4 totalLen ++ leBytes 4 tdsVersion74 ++ leBytes 4 options.requestedPacketSize.toNat ++
    leBytes 4 options.clientProgramVersion.toNat ++ leBytes 4 options.clientPid.toNat ++
    leBytes 4 0 ++ [optionFlags1, optionFlags2, typeFlags, optionFlags3] ++ intBytes 4 0 ++
    leBytes 4 0 ++ table.flatMap Login7FieldOffset.bytes ++ List.replicate 6 0 ++
    extra.flatMap Login7FieldOffset.bytes ++ leBytes 4 0

/-- The length of the fixed part is asserted in debug builds alone, where it always holds. -/
def buildLogin7Payload (options : MssqlConnectOptions) : Except Login7Error Bytes := do
  let fields := Login7Fields.new login7FixedLen
  let (hostname, fields) ← fields.pushText options.hostname false
  let (username, fields) ← fields.pushText options.username false
  let (password, fields) ← fields.pushText (options.password.getD "") true
  let (appName, fields) ← fields.pushText options.appName false
  let (serverName, fields) ← fields.pushText options.serverName false
  let unused := Login7FieldOffset.empty fields.nextOffset
  let (clientInterfaceName, fields) ← fields.pushText options.clientInterfaceName false
  let (language, fields) ← fields.pushText options.language false
  let (database, fields) ← fields.pushText options.database false
  let sspi := Login7FieldOffset.empty fields.nextOffset
  let attachDbFile := Login7FieldOffset.empty fields.nextOffset
  let changePassword := Login7FieldOffset.empty fields.nextOffset
  let out := fixedPart options fields.nextOffset
    [hostname, username, password, appName, serverName, unused, clientInterfaceName, language,
      database] [sspi, attachDbFile, changePassword]
  return out ++ fields.data

section packets

inductive LoginPacketError (ε : Type) where
  | payload (error : ε)
  | packet (error : PacketFrameError)
  deriving DecidableEq, Repr

def LoginPacketError.message {ε : Type} (payloadMessage : ε → String) : LoginPacketError ε → String
  | .payload error => payloadMessage error
  | .packet error => error.message

def encodeEncrypt : Encrypt → UInt8
  | .off => 0x00
  | .on => 0x01
  | .notSupported => 0x02
  | .required => 0x03

def preLoginOptions (options : MssqlConnectOptions) : List PreLoginOption :=
  [{ token := .version, data := [0, 0, 0, 0, 0, 0] },
    { token := .encryption, data := [encodeEncrypt options.encrypt] },
    { token := .mars, data := [0] }] ++
  match options.instanceName with
  | some name => [{ token := .instanceName, data := name.toUTF8.data.toList ++ [0] }]
  | none => []

def buildPreLoginPayload (options : MssqlConnectOptions) : Except PreLoginError Bytes :=
  assembleOptions (preLoginOptions options)

def frameLogin {ε : Type} (packetType : PacketType) (payload : Except ε Bytes)
    (options : MssqlConnectOptions) : Outcome (LoginPacketError ε) Bytes := do
  let payload ← (Outcome.ofExcept payload).mapErr .payload
  (encodeMessage packetType payload options.requestedPacketSize.toNat).mapErr .packet

def buildPreLoginPacket (options : MssqlConnectOptions) :
    Outcome (LoginPacketError PreLoginError) Bytes :=
  frameLogin .preLogin (buildPreLoginPayload options) options

def buildLogin7Packet (options : MssqlConnectOptions) :
    Outcome (LoginPacketError Login7Error) Bytes :=
  frameLogin .login7 (buildLogin7Payload options) options

end packets

end SqlxSqlserver.Protocol

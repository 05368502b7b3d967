import SqlxSqlserver.Protocol.Login7
import SqlxSqlserver.Protocol.PreLoginRoundTrip
import SqlxSqlserver.Protocol.Read

/-! The negotiation of encryption: what a PRELOGIN message says about it, and what the two sides
agree on. -/

namespace SqlxSqlserver.Protocol
open Foundation Driver

inductive ServerEncryptError where
  | options (error : PreLoginError)
  | invalidEncrypt (value : UInt8)
  | missingEncryption
  deriving DecidableEq, Repr

def ServerEncryptError.message : ServerEncryptError → String
  | .options error => error.message
  | .invalidEncrypt value => "invalid TDS pre-login encryption value 0x" ++ hexByte value
  | .missingEncryption => "TDS pre-login response is missing its encryption option"

def decodeEncrypt (value : UInt8) : Except ServerEncryptError Encrypt :=
  if value = 0x00 then .ok .off
  else if value = 0x01 then .ok .on
  else if value = 0x02 then .ok .notSupported
  else if value = 0x03 then .ok .required
  else .error (.invalidEncrypt value)

/-- The first encryption option decides, with its first byte. -/
def parseServerEncrypt (input : Bytes) : Except ServerEncryptError Encrypt := do
  let options ← (parseOptions input).mapError .options
  match (options.find? (·.token = .encryption)).bind (·.data.head?) with
  | some encryption => decodeEncrypt encryption
  | none => .error .missingEncryption

def negotiateEncryption (requested server : Encrypt) : Except Error Bool :=
  match requested, server with
  | .notSupported, .notSupported | .notSupported, .off => .ok false
  | .notSupported, .on | .notSupported, .required =>
    .error (.protocol
      "SQL Server requires encryption, but the client URL requested encrypt=not_supported")
  | .required, .off | .required, .notSupported =>
    .error (.tls "SQL Server TLS encryption is required but not supported by the server")
  | .on, .on | .on, .required | .required, .on | .required, .required => .ok true
  | .off, _ | _, .off =>
    .error (.protocol
      "SQL Server login-only TLS fallback is not implemented yet; use encrypt=mandatory or encrypt=strict for encrypted connections, or encrypt=not_supported for plaintext development servers")
  | .on, .notSupported => .ok false

@[simp] theorem decodeEncrypt_encodeEncrypt (encrypt : Encrypt) :
    decodeEncrypt (encodeEncrypt encrypt) = .ok encrypt := by
  cases encrypt <;> rfl

theorem negotiateEncryption_ok_iff (requested server : Encrypt) (encrypted : Bool) :
    negotiateEncryption requested server = .ok encrypted ↔
      encrypted = true ∧ requested ∈ [Encrypt.on, .required] ∧ server ∈ [Encrypt.on, .required] ∨
      encrypted = false ∧ (requested, server) ∈
        [(Encrypt.notSupported, Encrypt.notSupported), (.notSupported, .off), (.on, .notSupported)] := by
  cases requested <;> cases server <;> cases encrypted <;> simp [negotiateEncryption]

/-- No byte of the length of the instance option reads as the terminator. -/
def NameLegible (options : MssqlConnectOptions) : Prop :=
  ∀ name, options.instanceName = some name → 0xff ∉ beBytes 2 (name.toUTF8.data.toList ++ [0]).length

section parsing
variable {options : List PreLoginOption} {bytes : Bytes}

theorem parseOptions_legible (assembled : assembleOptions options = .ok bytes)
    (legible : Legible (dataStart options) options) : parseOptions bytes = .ok options := by
  obtain ⟨regular, fits, written⟩ := (assembleOptions_ok_iff options bytes).mp assembled
  have position := findIdx_legible regular legible (options.flatMap PreLoginOption.data)
  have front : (tableBytes (dataStart options) options ++ [0xff]).length = dataStart options := by
    rw [List.length_append, tableBytes_length, List.length_singleton, dataStart]
  have entries := parseEntries options (tableBytes (dataStart options) options ++ [0xff])
    (by rw [front]; exact fits)
  rw [front, List.append_assoc, List.singleton_append] at entries
  have byte : PreLoginOptionToken.terminator.toByte = 0xff := rfl
  rw [byte] at written
  rw [written, parseOptions, byte, position]
  dsimp only
  rw [if_neg (not_not.mpr (Nat.mul_mod_right 5 _)), List.take_left' (tableBytes_length ..), entries]

theorem parseOptions_illegible (assembled : assembleOptions options = .ok bytes)
    (illegible : ¬Legible (dataStart options) options) :
    parseOptions bytes = .error .truncatedOptionTable := by
  obtain ⟨regular, _, written⟩ := (assembleOptions_ok_iff options bytes).mp assembled
  obtain ⟨k, position, inside⟩ := findIdx_illegible regular illegible
    (options.flatMap PreLoginOption.data)
  have byte : PreLoginOptionToken.terminator.toByte = 0xff := rfl
  rw [byte] at written
  rw [written, parseOptions, byte, position]
  exact if_pos inside

end parsing

section preLogin
variable {options : MssqlConnectOptions}

theorem legible_preLoginOptions_iff :
    Legible (dataStart (preLoginOptions options)) (preLoginOptions options) ↔ NameLegible options := by
  have small : ∀ value ∈ [16, 21, 22, 23, 27, 28, 29, 6, 1], 0xff ∉ beBytes 2 value := by decide
  unfold preLoginOptions NameLegible
  cases options.instanceName with
  | none => simp [dataStart, Legible, small]
  | some name => simp [dataStart, Legible, small]

theorem parseServerEncrypt_preLogin_iff {payload : Bytes}
    (built : buildPreLoginPayload options = .ok payload) :
    parseServerEncrypt payload = .ok options.encrypt ↔ NameLegible options := by
  rw [← legible_preLoginOptions_iff]
  constructor
  · intro read
    by_contra illegible
    rw [parseServerEncrypt, parseOptions_illegible built illegible] at read
    cases read
  · intro legible
    have found : (preLoginOptions options).find? (·.token = .encryption) =
        some ⟨.encryption, [encodeEncrypt options.encrypt]⟩ := rfl
    rw [parseServerEncrypt, parseOptions_legible built legible]
    change (match ((preLoginOptions options).find? (·.token = .encryption)).bind (·.data.head?) with
      | some encryption => decodeEncrypt encryption
      | none => .error .missingEncryption) = _
    rw [found]
    exact decodeEncrypt_encodeEncrypt options.encrypt

theorem encoded_of_frameLogin {ε : Type} {packetType : PacketType} {payload : Except ε Bytes}
    {bytes : Bytes} (framed : frameLogin packetType payload options = .ok bytes) :
    ∃ body, payload = .ok body ∧
      encodeMessage packetType body options.requestedPacketSize.toNat = .ok bytes := by
  obtain ⟨body, built, framed⟩ := Outcome.bind_ok_iff.mp framed
  refine ⟨body, ?_, Outcome.ok_of_mapErr framed⟩
  cases payload with
  | ok found =>
    cases built
    rfl
  | error error => cases built

end preLogin

/-- A side that reads PRELOGIN as this driver does finds the encryption that the options ask for in
the packets that are sent, unless a byte of the length of the instance name looks like the end of
the table. -/
theorem preLogin_encrypt_read_iff (options : MssqlConnectOptions) (bytes rest : Bytes)
    (built : buildPreLoginPacket options = .ok bytes) :
    (∃ message, tryDecodeMessage (bytes ++ rest) = .ok (some message) ∧
      message.packetType = .preLogin ∧ message.consumed = bytes.length ∧
      parseServerEncrypt message.payload = .ok options.encrypt) ↔ NameLegible options := by
  obtain ⟨payload, assembled, encoded⟩ := encoded_of_frameLogin built
  have decoded := tryDecodeMessage_encoded encoded rest
  rw [← parseServerEncrypt_preLogin_iff assembled]
  constructor
  · rintro ⟨message, found, _, _, read⟩
    rw [decoded] at found
    cases found
    exact read
  · intro read
    exact ⟨_, decoded, rfl, rfl, read⟩

def expressOptions : MssqlConnectOptions :=
  { MssqlConnectOptions.new with encrypt := .notSupported, instanceName := some "SQLEXPRESS" }

theorem preLogin_encrypt_read_express : ∃ message,
    tryDecodeMessage ([18, 1, 0, 48, 0, 0, 1, 0, 0, 0, 21, 0, 6, 1, 0, 27, 0, 1, 4, 0, 28, 0, 1, 2, 0, 29,
      0, 11, 255, 0, 0, 0, 0, 0, 0, 2, 0, 83, 81, 76, 69, 88, 80, 82, 69, 83, 83, 0] ++ [4]) =
        .ok (some message) ∧ message.packetType = .preLogin ∧ message.consumed = 48 ∧
      parseServerEncrypt message.payload = .ok .notSupported := by
  have built : buildPreLoginPacket expressOptions = .ok [18, 1, 0, 48, 0, 0, 1, 0, 0, 0, 21, 0, 6, 1, 0,
      27, 0, 1, 4, 0, 28, 0, 1, 2, 0, 29, 0, 11, 255, 0, 0, 0, 0, 0, 0, 2, 0, 83, 81, 76, 69, 88, 80, 82,
      69, 83, 83, 0] := by decide
  refine (preLogin_encrypt_read_iff expressOptions _ [4] built).mpr fun name same => ?_
  cases same
  decide

end SqlxSqlserver.Protocol

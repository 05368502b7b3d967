import SqlxSqlserver.Protocol.EnvChangeGrammar
import SqlxSqlserver.Protocol.LoginTokens

/-! What a login response says: the grammar of its tokens, and the interpretation of a whole
response as an accepted login or as an error of the server. -/

namespace SqlxSqlserver.Protocol
open Foundation Reader Driver

inductive LoginResponse where
  | success (loginAck : LoginAck) (envChanges : List EnvChange)
  | serverError (error : ServerError)
  deriving DecidableEq, Repr

inductive LoginResponseError where
  | token (error : TokenParseError)
  | missingLoginAck
  | missingDone
  deriving DecidableEq, Repr

def LoginResponseError.message : LoginResponseError → String
  | .token error => error.message
  | .missingLoginAck => "TDS login response did not include LOGINACK"
  | .missingDone => "TDS login response did not include DONE"

def interpretTokens (loginAck : Option LoginAck) (done : Bool) (envChanges : List EnvChange) :
    List Token → Except LoginResponseError LoginResponse
  | .loginAck ack :: tokens => interpretTokens (some ack) done envChanges tokens
  | .error error :: _ => .ok (.serverError error)
  | .done _ :: tokens => interpretTokens loginAck true envChanges tokens
  | .envChange change :: tokens => interpretTokens loginAck done (envChanges ++ [change]) tokens
  | [] =>
    match loginAck with
    | none => .error .missingLoginAck
    | some ack => if done then .ok (.success ack envChanges) else .error .missingDone

def parseLoginResponse (input : Bytes) : Outcome LoginResponseError LoginResponse := do
  let tokens ← (parseTokens input).mapErr .token
  .ofExcept (interpretTokens none false [] tokens)

section grammar

def IsUsVarchar (bytes : Bytes) (text : String) : Prop :=
  (encodeUtf16 text).length < 256 ^ 2 ∧
    bytes = leBytes 2 (encodeUtf16 text).length ++ unitBytes (encodeUtf16 text)

def IsUsVarbyte (bytes value : Bytes) : Prop :=
  value.length < 256 ^ 2 ∧ bytes = leBytes 2 value.length ++ value

def IsLoginAck (ack : LoginAck) (body : Bytes) : Prop :=
  ack.tdsVersion < 256 ^ 4 ∧ ∃ programName, IsBVarchar programName ack.programName ∧
    body = ack.interface :: (beBytes 4 ack.tdsVersion ++ (programName ++
      [ack.majorVersion, ack.minorVersion, ack.buildNumberHigh, ack.buildNumberLow]))

def IsErrorBody (error : ServerError) (body : Bytes) : Prop :=
  error.lineNumber < 256 ^ 4 ∧ ∃ number message serverName procedureName,
    number.length = 4 ∧ leInt number = error.number ∧ IsUsVarchar message error.message ∧
    IsBVarchar serverName error.serverName ∧ IsBVarchar procedureName error.procedureName ∧
    body = number ++ ([error.state] ++ ([error.severity] ++ (message ++ (serverName ++
      (procedureName ++ leBytes 4 error.lineNumber)))))

def IsDoneBody (done : Token.Done) (body : Bytes) : Prop :=
  done.currentCommand < 256 ^ 2 ∧ done.rowCount < 256 ^ 8 ∧
    body = leBytes 2 done.status.toNat ++ (leBytes 2 done.currentCommand ++ leBytes 8 done.rowCount)

/-- `bytes` is a complete token, and adds what the parser keeps of it. INFO adds nothing. -/
inductive IsLoginToken : List Token → Bytes → Prop where
  | loginAck {ack : LoginAck} {bytes body : Bytes} (is : IsLoginAck ack body)
      (prefixed : IsUsVarbyte bytes body) : IsLoginToken [.loginAck ack] (0xad :: bytes)
  | error {error : ServerError} {bytes body : Bytes} (is : IsErrorBody error body)
      (prefixed : IsUsVarbyte bytes body) : IsLoginToken [.error error] (0xaa :: bytes)
  | info {bytes body : Bytes} (prefixed : IsUsVarbyte bytes body) : IsLoginToken [] (0xab :: bytes)
  | envChange {change : EnvChange} {bytes body unread : Bytes}
      (parsed : parseEnvChange body = .ok (change, unread)) (prefixed : IsUsVarbyte bytes body) :
      IsLoginToken [.envChange change] (0xe3 :: bytes)
  | done {done : Token.Done} {bytes : Bytes} (is : IsDoneBody done bytes) :
      IsLoginToken [.done done] (0xfd :: bytes)

inductive IsLoginStream : List Token → Bytes → Prop where
  | nil : IsLoginStream [] []
  | cons {added tokens : List Token} {piece bytes : Bytes} (head : IsLoginToken added piece)
      (tail : IsLoginStream tokens bytes) : IsLoginStream (added ++ tokens) (piece ++ bytes)

def Token.loginAck? : Token → Option LoginAck
  | .loginAck ack => some ack
  | _ => none

/-- What a response with these tokens says. The first error decides; a login is accepted by its
last LOGINACK, and only with a DONE. -/
def Says (tokens : List Token) : LoginResponse → Prop
  | .serverError error => tokens.findSome? Token.error? = some error
  | .success ack envChanges => tokens.findSome? Token.error? = none ∧
      (tokens.filterMap Token.loginAck?).getLast? = some ack ∧ (∃ done, Token.done done ∈ tokens) ∧
      envChanges = tokens.filterMap Token.envChange?

end grammar

section bodies

theorem expectEmpty_bind_ok_iff {α : Type} {next : Unit → Reader TokenParseError α}
    {input rest : Bytes} {value : α} : (Token.expectEmpty >>= next) input = .ok (value, rest) ↔
      input = [] ∧ next () [] = .ok (value, rest) := by
  cases input with
  | nil => exact (and_iff_right rfl).symm
  | cons byte input =>
    apply iff_of_false
    · intro outcome
      cases outcome
    · exact fun both => absurd both.1 (List.cons_ne_nil _ _)

theorem local_u8 : Local Token.readU8 := local_byte _

theorem local_bVarcharToken : Local Token.readBVarchar := local_bVarchar

theorem local_usVarchar : Local Token.readUsVarchar :=
  (local_le _ _).bind fun _ => local_utf16Text _

theorem local_u32Be : Local Token.readU32Be := (local_take _ _).bind fun _ => local_pure _

theorem local_i32Le : Local Token.readI32Le := (local_take _ _).bind fun _ => local_pure _

theorem local_u32Le : Local Token.readU32Le := local_le _ _

theorem reads_u8_iff {bytes : Bytes} {value : UInt8} :
    Reads Token.readU8 bytes value ↔ bytes = [value] := reads_byte_iff

theorem reads_bVarcharToken_iff {bytes : Bytes} {text : String} :
    Reads Token.readBVarchar bytes text ↔ IsBVarchar bytes text := reads_bVarchar_iff

theorem reads_usVarchar_iff {bytes : Bytes} {text : String} :
    Reads Token.readUsVarchar bytes text ↔ IsUsVarchar bytes text := by
  constructor
  · intro reads
    obtain ⟨first, count, second, rfl, head, tail⟩ :=
      (Reads.bind_iff (local_le _ _) (fun _ => local_utf16Text _) _ _).mp reads
    obtain ⟨rfl, small⟩ := reads_le_iff.mp head
    obtain ⟨_, length, rfl⟩ := reads_utf16Text_iff.mp tail
    rw [← length] at small ⊢
    exact ⟨small, rfl⟩
  · rintro ⟨short, rfl⟩
    have fits : (encodeUtf16 text).length * 2 ≤ usizeMax := by
      rw [usizeMax]
      omega
    exact (reads_le_leBytes _ short).bind (reads_utf16Text text fits)

theorem reads_u32Be_iff {bytes : Bytes} {value : Nat} :
    Reads Token.readU32Be bytes value ↔ value < 256 ^ 4 ∧ bytes = beBytes 4 value := by
  rw [Token.readU32Be, Reads.map_iff (show Local (Token.take 4) from local_take _ _)]
  constructor
  · rintro ⟨digits, taken, rfl⟩
    obtain ⟨rfl, length⟩ := reads_take_iff.mp taken
    rw [← length]
    exact ⟨beNat_lt bytes, (beBytes_beNat bytes).symm⟩
  · rintro ⟨small, rfl⟩
    exact ⟨beBytes 4 value, reads_take_iff.mpr ⟨rfl, beBytes_length 4 value⟩,
      (beNat_beBytes_of_lt small).symm⟩

theorem reads_i32Le_iff {bytes : Bytes} {value : Int} :
    Reads Token.readI32Le bytes value ↔ bytes.length = 4 ∧ leInt bytes = value := by
  rw [Token.readI32Le, Reads.map_iff (show Local (Token.take 4) from local_take _ _)]
  constructor
  · rintro ⟨digits, taken, rfl⟩
    obtain ⟨rfl, length⟩ := reads_take_iff.mp taken
    exact ⟨length, rfl⟩
  · rintro ⟨length, rfl⟩
    exact ⟨bytes, reads_take_iff.mpr ⟨rfl, length⟩, rfl⟩

theorem reads_u32Le_iff {bytes : Bytes} {value : Nat} :
    Reads Token.readU32Le bytes value ↔ bytes = leBytes 4 value ∧ value < 256 ^ 4 := reads_le_iff

theorem parseLoginAck_ok_iff (body rest : Bytes) (ack : LoginAck) :
    parseLoginAck body = .ok (ack, rest) ↔ IsLoginAck ack body ∧ rest = [] := by
  simp only [parseLoginAck, local_u8.bind_ok_iff, local_u32Be.bind_ok_iff,
    local_bVarcharToken.bind_ok_iff, expectEmpty_bind_ok_iff, reads_u8_iff, reads_u32Be_iff,
    reads_bVarcharToken_iff, pure_apply, Outcome.ok.injEq, Prod.mk.injEq]
  constructor
  · rintro ⟨_, interface, _, rfl, rfl, _, version, _, rfl, ⟨small, rfl⟩, name, text, _, rfl, isName,
      _, major, _, rfl, rfl, _, minor, _, rfl, rfl, _, high, _, rfl, rfl, _, low, _, rfl, rfl, rfl,
      rfl, rfl⟩
    exact ⟨⟨small, name, isName, rfl⟩, rfl⟩
  · rintro ⟨⟨small, name, isName, rfl⟩, rfl⟩
    exact ⟨_, _, _, rfl, rfl, _, _, _, rfl, ⟨small, rfl⟩, name, _, _, rfl, isName, [_], _, _, rfl, rfl,
      [_], _, _, rfl, rfl, [_], _, _, rfl, rfl, [_], _, _, rfl, rfl, rfl, rfl, rfl⟩

theorem parseError_ok_iff (body rest : Bytes) (error : ServerError) :
    parseError body = .ok (error, rest) ↔ IsErrorBody error body ∧ rest = [] := by
  simp only [parseError, local_u8.bind_ok_iff, local_i32Le.bind_ok_iff, local_u32Le.bind_ok_iff,
    local_usVarchar.bind_ok_iff, local_bVarcharToken.bind_ok_iff, expectEmpty_bind_ok_iff,
    reads_u8_iff, reads_i32Le_iff, reads_u32Le_iff, reads_usVarchar_iff, reads_bVarcharToken_iff,
    pure_apply, Outcome.ok.injEq, Prod.mk.injEq]
  constructor
  · rintro ⟨number, _, _, rfl, ⟨length, rfl⟩, _, state, _, rfl, rfl, _, severity, _, rfl, rfl,
      message, text, _, rfl, isMessage, server, name, _, rfl, isServer, procedure, other, _, rfl,
      isProcedure, _, line, _, rfl, ⟨rfl, small⟩, rfl, rfl, rfl⟩
    rw [List.append_nil]
    exact ⟨⟨small, number, message, server, procedure, length, rfl, isMessage, isServer, isProcedure,
      rfl⟩, rfl⟩
  · rintro ⟨⟨small, number, message, server, procedure, length, value, isMessage, isServer,
      isProcedure, rfl⟩, rfl⟩
    exact ⟨number, _, _, rfl, ⟨length, value⟩, _, _, _, rfl, rfl, _, _, _, rfl, rfl, message, _, _, rfl,
      isMessage, server, _, _, rfl, isServer, procedure, _, _, rfl, isProcedure, _, _, [],
      (List.append_nil _).symm, ⟨rfl, small⟩, rfl, rfl, rfl⟩

theorem reads_loginPrefixed_iff {bytes body : Bytes} :
    Reads Token.readLenPrefixedToken bytes body ↔ IsUsVarbyte bytes body := reads_counted_iff

theorem local_u16Le : Local Token.readU16Le := local_le _ _

theorem reads_u16Le_iff {bytes : Bytes} {value : Nat} :
    Reads Token.readU16Le bytes value ↔ bytes = leBytes 2 value ∧ value < 256 ^ 2 := reads_le_iff

theorem local_u64Le : Local Token.readU64Le := (local_le _ _).bind fun _ => local_pure _

theorem reads_u64Le_iff {bytes : Bytes} {value : UInt64} :
    Reads Token.readU64Le bytes value ↔ bytes = leBytes 8 value.toNat := by
  constructor
  · intro reads
    obtain ⟨count, digits, rfl⟩ := (Reads.map_iff (local_le _ _)).mp reads
    obtain ⟨rfl, fits⟩ := reads_le_iff.mp digits
    rw [UInt64.toNat_ofNat_of_lt' fits]
  · rintro rfl
    exact reads_u64 value

theorem parseDone_ok_iff (input rest : Bytes) (done : Token.Done) :
    parseDone input = .ok (done, rest) ↔ ∃ bytes, input = bytes ++ rest ∧ IsDoneBody done bytes := by
  simp only [parseDone, local_u16Le.bind_ok_iff, local_u64Le.bind_ok_iff, reads_u16Le_iff,
    reads_u64Le_iff, pure_apply, Outcome.ok.injEq, Prod.mk.injEq]
  constructor
  · rintro ⟨_, status, _, rfl, ⟨rfl, statusFits⟩, _, command, _, rfl, ⟨rfl, commandFits⟩, _, count, _,
      rfl, rfl, rfl, rfl⟩
    have sameStatus : (UInt16.ofNat status).toNat = status := UInt16.toNat_ofNat_of_lt' statusFits
    refine ⟨leBytes 2 status ++ (leBytes 2 command ++ leBytes 8 count.toNat), ?_, commandFits,
      count.toNat_lt, ?_⟩
    · simp only [List.append_assoc]
    · rw [sameStatus]
  · rintro ⟨bytes, rfl, commandFits, countFits, rfl⟩
    have sameCount : (UInt64.ofNat done.rowCount).toNat = done.rowCount :=
      UInt64.toNat_ofNat_of_lt' countFits
    refine ⟨_, done.status.toNat, leBytes 2 done.currentCommand ++ (leBytes 8 done.rowCount ++ rest),
      ?_, ⟨rfl, done.status.toNat_lt⟩, _, done.currentCommand, leBytes 8 done.rowCount ++ rest, rfl,
      ⟨rfl, commandFits⟩, _, UInt64.ofNat done.rowCount, rest, rfl, ?_, ?_, rfl⟩
    · simp only [List.append_assoc]
    · rw [sameCount]
    · rw [sameCount, UInt16.ofNat_toNat]

end bodies

section streams

theorem prefixed_ok_iff {α : Type} (reader : Reader TokenParseError α) (keep : α → List Token)
    (input rest : Bytes) (next : List Token) {Is : α → Bytes → Prop}
    (parses : ∀ body value, (∃ unread, reader body = .ok (value, unread)) ↔ Is value body) :
    (do return keep (← reader.within (← Token.readLenPrefixedToken)) :
        Reader TokenParseError (List Token)) input = .ok (next, rest) ↔
      ∃ bytes body value, input = bytes ++ rest ∧ IsUsVarbyte bytes body ∧ Is value body ∧
        next = keep value := by
  rw [local_loginPrefixed.bind_ok_iff]
  constructor
  · rintro ⟨bytes, body, middle, rfl, prefixed, inner⟩
    obtain ⟨value, unread, read, last⟩ := of_bind_ok inner
    obtain ⟨rfl, parsed⟩ := within_ok_iff.mp read
    cases last
    exact ⟨bytes, body, value, rfl, reads_loginPrefixed_iff.mp prefixed, (parses _ _).mp parsed, rfl⟩
  · rintro ⟨bytes, body, value, rfl, prefixed, is, rfl⟩
    refine ⟨bytes, body, rest, rfl, reads_loginPrefixed_iff.mpr prefixed, ?_⟩
    have inner : reader.within body rest = .ok (value, rest) :=
      within_ok_iff.mpr ⟨rfl, (parses _ _).mpr is⟩
    exact bind_ok inner _

theorem exists_parseLoginAck_iff (body : Bytes) (ack : LoginAck) :
    (∃ unread, parseLoginAck body = .ok (ack, unread)) ↔ IsLoginAck ack body := by
  simp only [parseLoginAck_ok_iff, exists_and_left, exists_eq, and_true]

theorem exists_parseError_iff (body : Bytes) (error : ServerError) :
    (∃ unread, parseError body = .ok (error, unread)) ↔ IsErrorBody error body := by
  simp only [parseError_ok_iff, exists_and_left, exists_eq, and_true]

theorem readToken_ok_iff (tokens : List Token) (code : UInt8) (input rest : Bytes)
    (next : List Token) : Token.readToken tokens code input = .ok (next, rest) ↔
      ∃ bytes added, input = bytes ++ rest ∧ IsLoginToken added (code :: bytes) ∧
        next = tokens ++ added := by
  have acks := fun body rest => prefixed_ok_iff parseLoginAck
    (fun ack => tokens ++ [.loginAck ack]) body rest next exists_parseLoginAck_iff
  have errors := fun body rest => prefixed_ok_iff parseError
    (fun error => tokens ++ [.error error]) body rest next exists_parseError_iff
  have changes := fun body rest => prefixed_ok_iff parseEnvChange
    (fun change => tokens ++ [.envChange change]) body rest next fun _ _ => Iff.rfl
  constructor
  · intro kept
    generalize chosen : Token.readToken tokens code = reader at kept
    unfold Token.readToken at chosen
    split at chosen
    all_goals subst chosen
    case h_1 byte =>
      obtain rfl : code = 0xad := UInt8.toNat_inj.mp byte
      obtain ⟨bytes, body, ack, rfl, prefixed, is, rfl⟩ := (acks _ _).mp kept
      exact ⟨bytes, _, rfl, .loginAck is prefixed, rfl⟩
    case h_2 byte =>
      obtain rfl : code = 0xaa := UInt8.toNat_inj.mp byte
      obtain ⟨bytes, body, error, rfl, prefixed, is, rfl⟩ := (errors _ _).mp kept
      exact ⟨bytes, _, rfl, .error is prefixed, rfl⟩
    case h_3 byte =>
      obtain rfl : code = 0xab := UInt8.toNat_inj.mp byte
      obtain ⟨bytes, body, middle, rfl, prefixed, last⟩ := local_loginPrefixed.bind_ok_iff.mp kept
      cases last
      exact ⟨bytes, [], rfl, .info (reads_loginPrefixed_iff.mp prefixed), (List.append_nil _).symm⟩
    case h_4 byte =>
      obtain rfl : code = 0xe3 := UInt8.toNat_inj.mp byte
      obtain ⟨bytes, body, change, rfl, prefixed, ⟨unread, parsed⟩, rfl⟩ := (changes _ _).mp kept
      exact ⟨bytes, _, rfl, .envChange parsed prefixed, rfl⟩
    case h_5 byte =>
      obtain rfl : code = 0xfd := UInt8.toNat_inj.mp byte
      obtain ⟨done, middle, read, last⟩ := of_bind_ok kept
      obtain ⟨bytes, rfl, is⟩ := (parseDone_ok_iff _ _ _).mp read
      cases last
      exact ⟨bytes, _, rfl, .done is, rfl⟩
    case h_6 => cases kept
  · rintro ⟨bytes, added, rfl, is, rfl⟩
    cases is with
    | loginAck is prefixed => exact (acks _ _).mpr ⟨_, _, _, rfl, prefixed, is, rfl⟩
    | error is prefixed => exact (errors _ _).mpr ⟨_, _, _, rfl, prefixed, is, rfl⟩
    | info prefixed =>
      rw [List.append_nil]
      exact local_loginPrefixed.bind_ok_iff.mpr
        ⟨_, _, _, rfl, reads_loginPrefixed_iff.mpr prefixed, rfl⟩
    | envChange parsed prefixed =>
      exact (changes _ _).mpr ⟨_, _, _, rfl, prefixed, ⟨_, parsed⟩, rfl⟩
    | done is =>
      have read := (parseDone_ok_iff (bytes ++ rest) rest _).mpr ⟨bytes, rfl, is⟩
      exact bind_ok read _

theorem loginStep_ok_iff (tokens : List Token) (input rest : Bytes) (next : List Token) :
    Token.step tokens input = .ok (next, rest) ↔ ∃ piece added, input = piece ++ rest ∧
      IsLoginToken added piece ∧ next = tokens ++ added := by
  simp only [Token.step, local_u8.bind_ok_iff, reads_u8_iff, readToken_ok_iff]
  constructor
  · rintro ⟨_, code, _, rfl, rfl, bytes, added, rfl, is, rfl⟩
    exact ⟨code :: bytes, added, rfl, is, rfl⟩
  · rintro ⟨piece, added, rfl, is, rfl⟩
    obtain ⟨code, bytes, rfl⟩ : ∃ code bytes, piece = code :: bytes := by
      cases is <;> exact ⟨_, _, rfl⟩
    exact ⟨[code], code, bytes ++ rest, rfl, rfl, bytes, added, rfl, is, rfl⟩

theorem isLoginToken_ne_nil {added : List Token} {piece : Bytes} (is : IsLoginToken added piece) :
    piece ≠ [] := by
  cases is <;> exact List.cons_ne_nil _ _

theorem loginSteps_iff (tokens last : List Token) (input : Bytes) :
    Steps Token.step tokens input last [] ↔ ∃ added, IsLoginStream added input ∧
      last = tokens ++ added := by
  constructor
  · intro steps
    generalize ended : ([] : Bytes) = rest at steps
    induction steps with
    | done tokens input =>
      rw [← ended]
      exact ⟨[], .nil, (List.append_nil _).symm⟩
    | step nonempty one _ ih =>
      obtain ⟨piece, added, rfl, is, rfl⟩ := (loginStep_ok_iff _ _ _ _).mp one
      obtain ⟨more, stream, rfl⟩ := ih ended
      exact ⟨added ++ more, .cons is stream, List.append_assoc ..⟩
  · rintro ⟨added, stream, rfl⟩
    induction stream generalizing tokens with
    | nil =>
      rw [List.append_nil]
      exact .done _ _
    | @cons added _ piece bytes head _ ih =>
      rw [← List.append_assoc]
      have nonempty := List.append_ne_nil_of_left_ne_nil (isLoginToken_ne_nil head) bytes
      have one := (loginStep_ok_iff tokens (piece ++ bytes) bytes (tokens ++ added)).mpr
        ⟨piece, added, rfl, head, rfl⟩
      exact .step nonempty one (ih _)

/-- The parser reads exactly the concatenations of complete tokens. -/
theorem parseTokens_ok_iff (input : Bytes) (tokens : List Token) :
    parseTokens input = .ok tokens ↔ IsLoginStream tokens input := by
  have whole : parseTokens input = .ok tokens ↔ untilEmpty Token.step [] input = .ok (tokens, []) := by
    unfold parseTokens
    cases outcome : untilEmpty Token.step [] input with
    | ok result =>
      obtain ⟨last, rest⟩ := result
      obtain ⟨rfl, _⟩ := (untilEmpty_ok_iff consumes_loginStep _ _ _ _).mp outcome
      simp only [Outcome.ok.injEq, Prod.mk.injEq, and_true]
    | err error => simp only [reduceCtorEq]
    | panic message => simp only [reduceCtorEq]
  rw [whole, untilEmpty_ok_iff consumes_loginStep, loginSteps_iff]
  simp only [true_and, List.nil_append, exists_eq_right']

end streams

section meaning

theorem interpretTokens_serverError_iff (loginAck : Option LoginAck) (done : Bool)
    (envChanges : List EnvChange) (tokens : List Token) (error : ServerError) :
    interpretTokens loginAck done envChanges tokens = .ok (.serverError error) ↔
      tokens.findSome? Token.error? = some error := by
  induction tokens generalizing loginAck done envChanges with
  | nil =>
    unfold interpretTokens
    cases loginAck <;> cases done <;> simp
  | cons token tokens ih =>
    cases token with
    | error found => simp [interpretTokens, Token.error?, List.findSome?_cons]
    | _ => simp [interpretTokens, Token.error?, List.findSome?_cons, ih]

theorem interpretTokens_success_iff (loginAck : Option LoginAck) (done : Bool)
    (envChanges : List EnvChange) (tokens : List Token) (ack : LoginAck)
    (changes : List EnvChange) :
    interpretTokens loginAck done envChanges tokens = .ok (.success ack changes) ↔
      tokens.findSome? Token.error? = none ∧
      (loginAck.toList ++ tokens.filterMap Token.loginAck?).getLast? = some ack ∧
      (done = true ∨ ∃ found, Token.done found ∈ tokens) ∧
      changes = envChanges ++ tokens.filterMap Token.envChange? := by
  induction tokens generalizing loginAck done envChanges with
  | nil =>
    unfold interpretTokens
    cases loginAck <;> cases done <;> simp [eq_comm]
  | cons token tokens ih =>
    cases token with
    | error found => simp [interpretTokens, Token.error?, List.findSome?_cons]
    | loginAck found =>
      have last : (loginAck.toList ++ found :: tokens.filterMap Token.loginAck?).getLast? =
          (found :: tokens.filterMap Token.loginAck?).getLast? :=
        List.getLast?_append_of_ne_nil _ (List.cons_ne_nil _ _)
      simp [interpretTokens, ih, Token.error?, Token.loginAck?, Token.envChange?, List.findSome?_cons,
        List.filterMap_cons, last]
    | envChange change =>
      simp [interpretTokens, ih, Token.error?, Token.loginAck?, Token.envChange?, List.findSome?_cons,
        List.filterMap_cons]
    | done found =>
      simp [interpretTokens, ih, Token.error?, Token.loginAck?, Token.envChange?, List.findSome?_cons,
        List.filterMap_cons]

theorem interpretTokens_ok_iff (tokens : List Token) (response : LoginResponse) :
    interpretTokens none false [] tokens = .ok response ↔ Says tokens response := by
  cases response with
  | serverError error => exact interpretTokens_serverError_iff none false [] tokens error
  | success ack changes =>
    rw [interpretTokens_success_iff]
    simp [Says]

end meaning

section calm

theorem calm_parseLoginAck : Calm parseLoginAck :=
  (calm_byte _).bind fun _ => ((calm_take _ _).bind fun _ => calm_pure _).bind fun _ =>
    calm_readBVarcharToken.bind fun _ => (calm_byte _).bind fun _ => (calm_byte _).bind fun _ =>
    (calm_byte _).bind fun _ => (calm_byte _).bind fun _ => calm_expectEmpty.bind fun _ => calm_pure _

theorem calm_parseDone : Calm parseDone :=
  (calm_le _ _).bind fun _ => (calm_le _ _).bind fun _ => calm_readU64Le.bind fun _ => calm_pure _

theorem calm_readToken (tokens : List Token) (code : UInt8) : Calm (Token.readToken tokens code) := by
  have prefixed : Calm Token.readLenPrefixedToken := (calm_le _ _).bind fun _ => calm_take _ _
  unfold Token.readToken
  split
  case h_1 => exact prefixed.bind fun _ => (calm_parseLoginAck.within _).bind fun _ => calm_pure _
  case h_2 => exact prefixed.bind fun _ => (calm_parseError.within _).bind fun _ => calm_pure _
  case h_3 => exact prefixed.bind fun _ => calm_pure _
  case h_4 => exact prefixed.bind fun _ => (calm_parseEnvChange.within _).bind fun _ => calm_pure _
  case h_5 => exact calm_parseDone.bind fun _ => calm_pure _
  case h_6 => exact calm_fail _

theorem not_panics_parseTokens (input : Bytes) : ¬(parseTokens input).Panics := by
  rintro ⟨message, panics⟩
  unfold parseTokens at panics
  cases outcome : untilEmpty Token.step [] input with
  | ok result => rw [outcome] at panics; cases panics
  | err error => rw [outcome] at panics; cases panics
  | panic first =>
    obtain ⟨last, rest, _, _, early⟩ :=
      (untilEmpty_panics_iff consumes_loginStep [] input).mp ⟨first, outcome⟩
    exact ((calm_byte _).bind fun code => calm_readToken last code) rest early

end calm

/-- The meaning of a login response. It is a concatenation of complete tokens, none of which may be
malformed, not even behind the error that decides; no response makes the parser panic. -/
theorem parseLoginResponse_means (input : Bytes) :
    ¬(parseLoginResponse input).Panics ∧ ∀ response, parseLoginResponse input = .ok response ↔
      ∃ tokens, IsLoginStream tokens input ∧ Says tokens response := by
  constructor
  · apply Outcome.not_panics_bind
    · have calm := not_panics_parseTokens input
      cases outcome : parseTokens input with
      | ok tokens => exact Outcome.not_panics_ok _
      | err error => exact Outcome.not_panics_err _
      | panic message => exact absurd ⟨message, outcome⟩ calm
    · exact fun tokens _ => Outcome.not_panics_ofExcept _
  · intro response
    rw [parseLoginResponse, Outcome.bind_ok_iff]
    constructor
    · rintro ⟨tokens, parsed, interpreted⟩
      refine ⟨tokens, (parseTokens_ok_iff _ _).mp (Outcome.ok_of_mapErr parsed), ?_⟩
      rw [← interpretTokens_ok_iff]
      cases found : interpretTokens none false [] tokens with
      | ok other =>
        rw [found] at interpreted
        rw [Outcome.ok.inj interpreted]
      | error error =>
        rw [found] at interpreted
        cases interpreted
    · rintro ⟨tokens, stream, meant⟩
      refine ⟨tokens, ?_, ?_⟩
      · rw [(parseTokens_ok_iff _ _).mpr stream]
        rfl
      · rw [(interpretTokens_ok_iff _ _).mpr meant]
        rfl

/-- An accepted login: LOGINACK of a server `S`, an INFO that is skipped, a packet size, and DONE. -/
example : parseLoginResponse [0xad, 12, 0, 1, 0x74, 0, 0, 4, 1, 83, 0, 16, 0, 3, 232, 0xab, 0, 0,
    0xe3, 11, 0, 4, 4, 52, 0, 48, 0, 57, 0, 54, 0, 0, 0xfd, 0, 0, 0, 0, 0, 0, 0, 0, 0, 0, 0, 0] =
    .ok (.success ⟨1, 0x74000004, "S", 16, 0, 3, 232⟩ [.packetSize 4096]) := by decide
end SqlxSqlserver.Protocol

import SqlxSqlserver.Protocol.QueryResponse

/-! The token stream of a login response, and how its parser agrees with the parser of query
responses on the tokens that both know. -/

namespace SqlxSqlserver.Protocol
open Foundation Reader Driver

structure LoginAck where
  interface : UInt8
  /-- The only number in big-endian order. -/
  tdsVersion : Nat
  programName : String
  majorVersion : UInt8
  minorVersion : UInt8
  buildNumberHigh : UInt8
  buildNumberLow : UInt8
  deriving DecidableEq, Repr

structure Token.Done where
  status : UInt16
  currentCommand : Nat
  rowCount : Nat
  deriving DecidableEq, Repr

inductive Token where
  | loginAck (ack : LoginAck)
  | error (error : ServerError)
  | envChange (change : EnvChange)
  | done (done : Token.Done)
  deriving DecidableEq, Repr

namespace Token

def readU32Be : Reader TokenParseError Nat := do
  return beNat (← take 4)

def readLenPrefixedToken : Reader TokenParseError Bytes := do
  take (← readU16Le)

end Token

def parseLoginAck : Reader TokenParseError LoginAck := do
  let interface ← Token.readU8
  let tdsVersion ← Token.readU32Be
  let programName ← Token.readBVarchar
  let majorVersion ← Token.readU8
  let minorVersion ← Token.readU8
  let buildNumberHigh ← Token.readU8
  let buildNumberLow ← Token.readU8
  Token.expectEmpty
  return { interface, tdsVersion, programName, majorVersion, minorVersion, buildNumberHigh,
           buildNumberLow }

def parseDone : Reader TokenParseError Token.Done := do
  let status := UInt16.ofNat (← Token.readU16Le)
  let currentCommand ← Token.readU16Le
  let rowCount := (← Token.readU64Le).toNat
  return { status, currentCommand, rowCount }

namespace Token

def readToken (tokens : List Token) (tokenType : UInt8) : Reader TokenParseError (List Token) :=
  match tokenType.toNat with
  | 0xad => do return tokens ++ [.loginAck (← parseLoginAck.within (← readLenPrefixedToken))]
  | 0xaa => do return tokens ++ [.error (← parseError.within (← readLenPrefixedToken))]
  | 0xab => do
    let _ ← readLenPrefixedToken
    return tokens
  | 0xe3 => do return tokens ++ [.envChange (← parseEnvChange.within (← readLenPrefixedToken))]
  | 0xfd => do return tokens ++ [.done (← parseDone)]
  | _ => fail (.unsupportedToken tokenType)

def step (tokens : List Token) : Reader TokenParseError (List Token) := do
  readToken tokens (← readU8)

end Token

def parseTokens (input : Bytes) : Outcome TokenParseError (List Token) :=
  match untilEmpty Token.step [] input with
  | .ok (tokens, _) => .ok tokens
  | .err error => .err error
  | .panic message => .panic message

namespace Token

def error? : Token → Option ServerError
  | .error found => some found
  | _ => none

def envChange? : Token → Option EnvChange
  | .envChange change => some change
  | _ => none

def countedRows : Token → Nat
  | .done counts => if counts.status &&& 0x10 = 0x10 then counts.rowCount else 0
  | _ => 0

end Token

/-- What a query response says when it has these tokens only: its first error, or else the
environment changes and the rows affected. -/
def outcomeOf (tokens : List Token) : Outcome Error QueryOutput :=
  match tokens.findSome? Token.error? with
  | some error => .err (.database error)
  | none => .ok {
      columns := []
      rows := []
      result := ⟨(tokens.map Token.countedRows).sum⟩
      returnValues := []
      envChanges := tokens.filterMap Token.envChange? }

section locality

theorem local_loginPrefixed : Local Token.readLenPrefixedToken :=
  (local_le _ 2).bind fun count => local_take _ count

theorem local_loginDone : Local parseDone :=
  (local_le _ _).bind fun _ => (local_le _ _).bind fun _ =>
    ((local_le _ _).bind fun _ => local_pure _).bind fun _ => local_pure _

theorem local_loginToken (tokens : List Token) (tokenType : UInt8) :
    Local (Token.readToken tokens tokenType) := by
  unfold Token.readToken
  split
  case h_3 => exact local_loginPrefixed.bind fun _ => local_pure _
  case h_5 => exact local_loginDone.bind fun _ => local_pure _
  case h_6 => exact local_fail _
  all_goals exact local_loginPrefixed.bind fun _ => (local_within _).bind fun _ => local_pure _

theorem consumes_loginStep : Consumes Token.step := fun tokens =>
  (shrinks_byte _).bind (local_loginToken tokens)

end locality

section agreement

theorem readLenPrefixed_of_login {input body rest : Bytes}
    (read : Token.readLenPrefixedToken input = .ok (body, rest)) :
    Read.readLenPrefixed input = .ok (body, rest) :=
  local_loginPrefixed.ok_of_reads
    (fun _ reads => reads_counted_iff.mpr (reads_counted_iff.mp reads)) read

def queryDone (counts : Token.Done) : Done :=
  { status := Status.fromBitsTruncate counts.status, cursorCommand := counts.currentCommand
    affectedRows := counts.rowCount }

theorem doneGet_of_login {input rest : Bytes} {counts : Token.Done}
    (read : parseDone input = .ok (counts, rest)) : Done.get input = .ok (queryDone counts, rest) := by
  apply local_loginDone.ok_of_reads ?_ read
  intro bytes reads
  have number : Local Token.readU64Le := (local_le _ _).bind fun _ => local_pure _
  have word : Local Token.readU16Le := local_le _ _
  obtain ⟨first, status, others, rfl, one, reads⟩ := (Reads.bind_iff word
    (fun _ => word.bind fun _ => number.bind fun _ => local_pure _) _ _).mp reads
  obtain ⟨second, command, third, rfl, two, reads⟩ := (Reads.bind_iff word
    (fun _ => number.bind fun _ => local_pure _) _ _).mp reads
  obtain ⟨rows, long, rfl⟩ := (Reads.map_iff number).mp reads
  obtain ⟨count, three, rfl⟩ := (Reads.map_iff (local_le _ _)).mp long
  have fits : count < 2 ^ 64 := (reads_le_iff.mp three).2
  have same : (UInt64.ofNat count).toNat = count := UInt64.toNat_ofNat_of_lt' fits
  have ended : Local Read.readU64Le := local_le _ _
  have last : Reads (do
      let affectedRows ← Read.readU64Le
      return { status := Status.fromBitsTruncate (UInt16.ofNat status), cursorCommand := command
               affectedRows }) third
      (queryDone ⟨UInt16.ofNat status, command, (UInt64.ofNat count).toNat⟩) :=
    (Reads.map_iff ended).mpr
      ⟨count, reads_le_iff.mpr (reads_le_iff.mp three), by rw [queryDone, same]⟩
  exact (show Reads Read.readU16Le first status from reads_le_iff.mpr (reads_le_iff.mp one)).bind
    ((show Reads Read.readU16Le second command from
      reads_le_iff.mpr (reads_le_iff.mp two)).bind last)

theorem contains_doneCount_iff (status : UInt16) :
    (Status.fromBitsTruncate status).contains .doneCount ↔ status &&& 0x10 = 0x10 := by
  have masked : status &&& 0x0117 &&& 0x10 = status &&& 0x10 := by
    rw [UInt16.and_assoc]
    rfl
  change (status &&& 0x0117 &&& 0x10 == 0x10) = true ↔ _
  rw [masked, beq_iff_eq]

def QueryState.with (self : QueryState) (tokens : List Token) : QueryState :=
  { self with
    envChanges := self.envChanges ++ tokens.filterMap Token.envChange?
    rowsAffected := self.rowsAffected + (tokens.map Token.countedRows).sum }

/-- Where the tokens take a query response that has `rest` behind them. -/
def QueryState.follow (self : QueryState) (tokens : List Token) (rest : Bytes) :
    Outcome Error (QueryState × Bytes) :=
  match tokens.findSome? Token.error? with
  | some error => .err (serverError error)
  | none => .ok (self.with tokens, rest)

/-- A query response can follow the tokens: each is known to it, and the sum of the row counts
fits. -/
def QueryState.Follows (self : QueryState) (tokens : List Token) : Prop :=
  (∀ ack, Token.loginAck ack ∉ tokens) ∧
    self.rowsAffected + (tokens.map Token.countedRows).sum ≤ u64Max

theorem QueryState.with_nil (self : QueryState) : self.with [] = self := by
  simp [QueryState.with]

theorem QueryState.with_append (self : QueryState) (tokens more : List Token) :
    self.with (tokens ++ more) = (self.with tokens).with more := by
  simp [QueryState.with, Nat.add_assoc]

theorem addRows_login {state : QueryState} {counts : Token.Done}
    (fits : state.rowsAffected + Token.countedRows (.done counts) ≤ u64Max) (rest : Bytes) :
    state.addRows (queryDone counts) rest = .ok (state.with [.done counts], rest) := by
  have added : state.with [.done counts] =
      { state with rowsAffected := state.rowsAffected + Token.countedRows (.done counts) } := by
    simp [QueryState.with, Token.envChange?]
  have bit : (queryDone counts).status.contains .doneCount ↔ counts.status &&& 0x10 = 0x10 :=
    contains_doneCount_iff counts.status
  rw [added]
  unfold QueryState.addRows
  dsimp only [Token.countedRows] at fits ⊢
  by_cases counted : counts.status &&& 0x10 = 0x10
  · rw [if_pos counted] at fits ⊢
    have room : state.rowsAffected + (queryDone counts).affectedRows ≤ u64Max := fits
    rw [if_pos (bit.mpr counted), if_pos room]
    rfl
  · rw [if_neg (mt bit.mp counted), if_neg counted]
    rfl

/-- One step of the login parser adds at most one token, and a query response that can follow
what is added takes the same step. -/
theorem login_step {tokens next : List Token} {input rest : Bytes}
    (step : Token.step tokens input = .ok (next, rest)) : ∃ added, next = tokens ++ added ∧
      ∀ state : QueryState, state.Follows added → state.step input = state.follow added rest := by
  obtain ⟨code, body, byte, others⟩ := of_bind_ok step
  obtain ⟨first, rfl, head⟩ := local_byte _ _ _ _ byte
  obtain rfl := reads_byte_iff.mp head
  have stepped : ∀ state : QueryState, state.step ([code] ++ body) = state.readToken code body :=
    fun state => bind_ok (reads_byte Read.ended code body) _
  generalize chosen : Token.readToken tokens code = reader at others
  unfold Token.readToken at chosen
  split at chosen
  all_goals subst chosen
  case h_1 =>
    obtain ⟨_, _, _, inner⟩ := of_bind_ok others
    obtain ⟨ack, _, _, last⟩ := of_bind_ok inner
    cases last
    exact ⟨_, rfl, fun state follows => absurd (List.mem_singleton_self _) (follows.1 ack)⟩
  case h_2 byte =>
    obtain rfl : code = 0xaa := UInt8.toNat_inj.mp byte
    obtain ⟨buffer, middle, prefixed, inner⟩ := of_bind_ok others
    obtain ⟨error, unread, parsed, last⟩ := of_bind_ok inner
    cases last
    refine ⟨_, rfl, fun state _ => ?_⟩
    rw [stepped]
    exact (bind_ok (readLenPrefixed_of_login prefixed) _).trans
      (bind_ok (mapErr_ok parsed) _)
  case h_3 byte =>
    obtain rfl : code = 0xab := UInt8.toNat_inj.mp byte
    obtain ⟨buffer, middle, prefixed, last⟩ := of_bind_ok others
    cases last
    refine ⟨[], (List.append_nil _).symm, fun state _ => ?_⟩
    rw [stepped, QueryState.follow, List.findSome?_nil, state.with_nil]
    exact bind_ok (readLenPrefixed_of_login prefixed) _
  case h_4 byte =>
    obtain rfl : code = 0xe3 := UInt8.toNat_inj.mp byte
    obtain ⟨buffer, middle, prefixed, inner⟩ := of_bind_ok others
    obtain ⟨change, unread, parsed, last⟩ := of_bind_ok inner
    cases last
    refine ⟨_, rfl, fun state _ => ?_⟩
    rw [stepped]
    exact (bind_ok (readLenPrefixed_of_login prefixed) _).trans
      (bind_ok (mapErr_ok parsed) _)
  case h_5 byte =>
    obtain rfl : code = 0xfd := UInt8.toNat_inj.mp byte
    obtain ⟨counts, unread, read, last⟩ := of_bind_ok others
    cases last
    refine ⟨_, rfl, fun state follows => ?_⟩
    rw [stepped]
    exact (bind_ok (doneGet_of_login read) _).trans (addRows_login follows.2 _)
  case h_6 => cases others

theorem login_steps {tokens last : List Token} {input rest : Bytes}
    (steps : Steps Token.step tokens input last rest) (ended : rest = []) :
    ∃ added, last = tokens ++ added ∧ ∀ state : QueryState, state.Follows added →
      untilEmpty QueryState.step state input = state.follow added [] := by
  induction steps with
  | done tokens input =>
    refine ⟨[], (List.append_nil _).symm, fun state _ => ?_⟩
    rw [ended, untilEmpty_nil consumes_step, QueryState.follow, List.findSome?_nil, state.with_nil]
  | step nonempty one _ ih =>
    obtain ⟨token, rfl, stepped⟩ := login_step one
    obtain ⟨added, rfl, followed⟩ := ih ended
    refine ⟨token ++ added, List.append_assoc .., fun state follows => ?_⟩
    obtain ⟨known, fits⟩ := follows
    rw [List.map_append, List.sum_append] at fits
    have head : state.Follows token :=
      ⟨fun ack here => known ack (List.mem_append_left _ here), by omega⟩
    rw [untilEmpty_apply consumes_step state nonempty, stepped state head]
    unfold QueryState.follow
    rw [List.findSome?_append]
    cases found : token.findSome? Token.error? with
    | some error => rfl
    | none =>
      have behind : (state.with token).Follows added :=
        ⟨fun ack here => known ack (List.mem_append_right _ here), by
          dsimp only [QueryState.with]
          omega⟩
      dsimp only
      rw [followed _ behind, Option.none_or, state.with_append]
      rfl

end agreement

/-- On the tokens that both know the two parsers agree: a query response that the login parser
reads as tokens has the outcome of these tokens. -/
theorem parseQueryResponse_of_tokens {input : Bytes} {tokens : List Token}
    (parsed : parseTokens input = .ok tokens) (noAck : ∀ ack, Token.loginAck ack ∉ tokens)
    (fits : (tokens.map Token.countedRows).sum < 2 ^ 64) :
    parseQueryResponse input = outcomeOf tokens := by
  unfold parseTokens at parsed
  cases run : untilEmpty Token.step [] input with
  | err error => rw [run] at parsed; cases parsed
  | panic message => rw [run] at parsed; cases parsed
  | ok result =>
    obtain ⟨last, rest⟩ := result
    rw [run] at parsed
    cases parsed
    obtain ⟨rfl, steps⟩ := (untilEmpty_ok_iff consumes_loginStep _ _ _ _).mp run
    obtain ⟨added, same, followed⟩ := login_steps steps rfl
    rw [same, List.nil_append] at noAck fits ⊢
    have follows : QueryState.empty.Follows added :=
      ⟨noAck, by dsimp only [QueryState.empty, u64Max]; omega⟩
    rw [parseQueryResponse, followed _ follows]
    unfold QueryState.follow outcomeOf
    cases added.findSome? Token.error? with
    | some error => rfl
    | none => simp [QueryState.output, QueryState.with, QueryState.empty]

def loginTail : Bytes :=
  [0xab, 0, 0, 0xe3, 5, 0, 1, 1, 97, 0, 0,
    0xfd, 0x11, 0x80, 0xc1, 0, 3, 0, 0, 0, 0, 0, 0, 0, 0xfd, 0, 0, 0xc1, 0, 9, 0, 0, 0, 0, 0, 0, 0]

theorem parseQueryResponse_of_tokens_tail :
    parseQueryResponse loginTail = .ok {
      columns := [], rows := [], result := ⟨3⟩, returnValues := []
      envChanges := [.database "a"] } :=
  have parsed : parseTokens loginTail = .ok
      [.envChange (.database "a"), .done ⟨0x8011, 0xc1, 3⟩, .done ⟨0, 0xc1, 9⟩] := by decide
  parseQueryResponse_of_tokens parsed (by simp) (by decide)

end SqlxSqlserver.Protocol

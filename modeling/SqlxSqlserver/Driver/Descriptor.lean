import SqlxSqlserver.Driver.Transaction
import SqlxSqlserver.Protocol.QueryResponse
import SqlxSqlserver.Protocol.RpcRoundTrip

/-! The transaction descriptor over whole runs: what the responses of the server establish, and
what the requests of the client carry. -/

namespace SqlxSqlserver.Driver
open Foundation Protocol

def establish (descriptor : UInt64) : ResponseToken → UInt64
  | .envChange (.beginTransaction new) => new
  | .envChange (.commitTransaction _) | .envChange (.rollbackTransaction _) => 0
  | _ => descriptor

/-- The first message in the bytes has the descriptor in its ALL_HEADERS block. -/
def CarriesDescriptor (bytes : Bytes) (descriptor : UInt64) : Prop :=
  ∃ message body, tryDecodeMessage bytes = .ok (some message) ∧
    message.payload = allHeaders descriptor ++ body

theorem carries_of_encoded {packetType : PacketType} {descriptor : UInt64} {body bytes : Bytes}
    {packetSize : Nat}
    (encoded : encodeMessage packetType (allHeaders descriptor ++ body) packetSize = .ok bytes) :
    CarriesDescriptor bytes descriptor := by
  have decoded := tryDecodeMessage_encoded encoded []
  rw [List.append_nil] at decoded
  exact ⟨_, body, decoded, rfl⟩

theorem carries_of_framed {procedureId : Nat} {descriptor : UInt64} {rest : Put BoxDynError Unit}
    {packetSize : Nat} {bytes : Bytes}
    (framed : frameRpc (do writeRpcHeader procedureId descriptor; rest) packetSize = .ok bytes) :
    CarriesDescriptor bytes descriptor := by
  obtain ⟨written, writes, encoded⟩ := frameRpc_ok_iff.mp framed
  obtain ⟨header, _, others, rfl, headerWrites, _⟩ := Put.Writes.of_bind writes
  obtain ⟨_, _, last, rfl, headersWrite, _⟩ := Put.Writes.of_bind headerWrites
  cases headersWrite
  rw [List.append_assoc] at encoded
  exact carries_of_encoded encoded

theorem packet_carries {request : Request} {packetSize : Nat} {descriptor : UInt64} {bytes : Bytes}
    (built : request.packet packetSize descriptor = .ok bytes) :
    CarriesDescriptor bytes descriptor := by
  cases request with
  | sqlBatch sql => exact carries_of_encoded (Outcome.ok_of_mapErr built)
  | executeSql sql arguments => exact carries_of_framed (Outcome.ok_of_mapErr built)
  | prepare sql parameters => exact carries_of_framed (Outcome.ok_of_mapErr built)
  | unprepare statementId => exact carries_of_framed (Outcome.ok_of_mapErr built)

theorem applyEnvChanges_descriptor (conn : MssqlConnection) (tokens : List ResponseToken) :
    (conn.applyEnvChanges (envChangesOf tokens)).transactionDescriptor =
      tokens.foldl establish conn.transactionDescriptor := by
  induction tokens generalizing conn with
  | nil => rfl
  | cons token tokens ih =>
    have step : (conn.applyEnvChanges token.envChanges).transactionDescriptor =
        establish conn.transactionDescriptor token := by
      cases token with
      | envChange change => cases change <;> rfl
      | _ => rfl
    have split : envChangesOf (token :: tokens) = token.envChanges ++ envChangesOf tokens :=
      List.flatMap_cons ..
    rw [split, MssqlConnection.applyEnvChanges, List.foldl_append, List.foldl_cons, ← step]
    exact ih _

section runs
variable (tokensOf : Bytes → List ResponseToken)

def establishEvent (descriptor : UInt64) : Event → UInt64
  | .request _ _ => descriptor
  | .response message => (tokensOf message.payload).foldl establish descriptor

def established (trace : List Event) : UInt64 := trace.foldl (establishEvent tokensOf) 0

/-- The parser reads the tokens to their end, or they leave the descriptor as it is. -/
def Followed (descriptor : UInt64) (tokens : List ResponseToken) : Prop :=
  (∀ token ∈ tokens, token.Supported) ∧ rowCountOf tokens ≤ u64Max ∨
    tokens.foldl establish descriptor = descriptor

/-- Every response is a well-formed tabular result with the tokens that `tokensOf` gives it. -/
def WellFormed (trace : List Event) : Prop :=
  ∀ message, .response message ∈ trace → message.packetType = .tabularResult ∧
    IsStream [] (tokensOf message.payload) message.payload

/-- Every response is followed, over what the responses before it have established. -/
def AllFollowed (trace : List Event) : Prop :=
  ∀ before message after, trace = before ++ .response message :: after →
    Followed (established tokensOf before) (tokensOf message.payload)

def AllCarry (trace : List Event) : Prop :=
  ∀ before request bytes after, trace = before ++ .request request bytes :: after →
    CarriesDescriptor bytes (established tokensOf before)

/-- What holds between two awaits: as long as the responses are well formed and followed, the
requests carry what was established, and the connection knows it. -/
def InStep (world : World) : Prop :=
  WellFormed tokensOf world.link.trace → AllFollowed tokensOf world.link.trace →
    AllCarry tokensOf world.link.trace ∧
      world.conn.transactionDescriptor = established tokensOf world.link.trace

section traces
variable {tokensOf} {trace : List Event}

theorem split_snoc {event last : Event} {before after : List Event}
    (split : trace ++ [last] = before ++ event :: after) :
    trace = before ∧ last = event ∨ ∃ rest, trace = before ++ event :: rest := by
  rcases List.eq_nil_or_concat after with rfl | ⟨rest, final, rfl⟩
  · obtain ⟨rfl, same⟩ := List.append_inj' split rfl
    exact .inl ⟨rfl, List.cons.inj same |>.1⟩
  · rw [List.concat_eq_append, ← List.cons_append, ← List.append_assoc] at split
    exact .inr ⟨rest, (List.append_inj' split rfl).1⟩

theorem WellFormed.front {last : Event} (formed : WellFormed tokensOf (trace ++ [last])) :
    WellFormed tokensOf trace :=
  fun message here => formed message (List.mem_append_left _ here)

theorem AllFollowed.front {last : Event} (followed : AllFollowed tokensOf (trace ++ [last])) :
    AllFollowed tokensOf trace := by
  rintro before message after rfl
  exact followed before message (after ++ [last]) (by rw [List.append_assoc, List.cons_append])

theorem AllCarry.snoc_response {message : WireMessage} (carry : AllCarry tokensOf trace) :
    AllCarry tokensOf (trace ++ [.response message]) := by
  intro before request bytes after split
  rcases split_snoc split with ⟨_, different⟩ | ⟨rest, front⟩
  · cases different
  · exact carry before request bytes rest front

theorem AllCarry.snoc_request {request : Request} {bytes : Bytes} (carry : AllCarry tokensOf trace)
    (carries : CarriesDescriptor bytes (established tokensOf trace)) :
    AllCarry tokensOf (trace ++ [.request request bytes]) := by
  intro before other others after split
  rcases split_snoc split with ⟨rfl, same⟩ | ⟨rest, front⟩
  · cases same
    exact carries
  · exact carry before other others rest front

theorem established_snoc (trace : List Event) (last : Event) :
    established tokensOf (trace ++ [last]) =
      establishEvent tokensOf (established tokensOf trace) last := by
  rw [established, List.foldl_append]
  rfl

end traces

section exchange
variable {tokensOf}

theorem inStep_alike (world after : World) (alike : Alike world after)
    (inStep : InStep tokensOf world) : InStep tokensOf after := by
  rw [InStep, alike.conn, alike.trace]
  exact inStep

/-- A response that is not parsed keeps step where it is followed: what was lost changes nothing. -/
theorem inStep_refused {world after : World} {message : WireMessage}
    (inStep : InStep tokensOf world) (alike : Alike (world.record (.response message)) after)
    (refused : message.packetType = .tabularResult →
      ∀ output, parseQueryResponse message.payload ≠ .ok output) : InStep tokensOf after := by
  refine inStep_alike _ _ alike fun formed followed => ?_
  change WellFormed tokensOf (world.link.trace ++ [.response message]) at formed
  change AllFollowed tokensOf (world.link.trace ++ [.response message]) at followed
  obtain ⟨carry, known⟩ := inStep formed.front followed.front
  refine ⟨carry.snoc_response, ?_⟩
  obtain ⟨tabular, here⟩ := formed message (List.mem_append_right _ (List.mem_singleton_self _))
  rcases followed world.link.trace message [] rfl with ⟨supported, counts⟩ | unchanged
  · exact absurd ((parseQueryResponse_ok_iff _ _).mpr ⟨_, here, supported, counts, rfl⟩)
      (refused tabular _)
  · have same : established tokensOf (world.link.trace ++ [.response message]) =
        established tokensOf world.link.trace := (established_snoc _ _).trans unchanged
    exact known.trans same.symm

/-- The environment changes of a parsed response bring the connection into step. -/
theorem inStep_applied {world after : World} {message : WireMessage} {output : QueryOutput}
    (inStep : InStep tokensOf world) (alike : Alike (world.record (.response message)) after)
    (parsed : parseQueryResponse message.payload = .ok output) :
    InStep tokensOf (after.updateConn (·.applyEnvChanges output.envChanges)) := by
  intro formed followed
  change WellFormed tokensOf after.link.trace at formed
  change AllFollowed tokensOf after.link.trace at followed
  change AllCarry tokensOf after.link.trace ∧
    (after.conn.applyEnvChanges output.envChanges).transactionDescriptor =
      established tokensOf after.link.trace
  rw [alike.trace] at formed followed ⊢
  change WellFormed tokensOf (world.link.trace ++ [.response message]) at formed
  change AllFollowed tokensOf (world.link.trace ++ [.response message]) at followed
  obtain ⟨carry, known⟩ := inStep formed.front followed.front
  refine ⟨carry.snoc_response, ?_⟩
  have here := (formed message (List.mem_append_right _ (List.mem_singleton_self _))).2
  rw [(parseQueryResponse_of_stream here parsed).2, applyEnvChanges_descriptor, alike.conn]
  change (tokensOf message.payload).foldl establish world.conn.transactionDescriptor =
    established tokensOf (world.link.trace ++ [.response message])
  rw [known, established_snoc]
  rfl

theorem keeps_writeAll (self : MssqlWireStream) (request : Request) {bytes : Bytes}
    {descriptor : UInt64} (carries : CarriesDescriptor bytes descriptor) :
    (self.writeAll request bytes).Keeps fun world =>
      InStep tokensOf world ∧ world.conn.transactionDescriptor = descriptor := by
  have quiet : ∀ {action : Task Unit}, Quiet action → action.Keeps fun world =>
      InStep tokensOf world ∧ world.conn.transactionDescriptor = descriptor :=
    fun silent => silent.keeps fun world after alike holds =>
      ⟨inStep_alike world after alike holds.1, alike.conn ▸ holds.2⟩
  refine triple_writeAll self ?_ (fun fuel offset => quiet (quiet_writePackets bytes fuel offset))
    (fun world holds => holds) (quiet quiet_awaitWrite) fun world holds => holds
  refine Async.keeps_modify fun world holds => ⟨fun formed followed => ?_, holds.2⟩
  obtain ⟨carry, known⟩ := holds.1 formed.front followed.front
  have current : established tokensOf world.link.trace = descriptor := known ▸ holds.2
  have same : established tokensOf (world.link.trace ++ [.request request bytes]) =
      established tokensOf world.link.trace := established_snoc _ _
  exact ⟨carry.snoc_request (current ▸ carries), known.trans same.symm⟩

variable [ErrorDisplay]

/-- Reading a response keeps step: the parser follows it, or it says nothing that is lost. -/
theorem keeps_readQueryResponse (operation : String) :
    (readQueryResponse operation).Keeps (InStep tokensOf) := by
  intro world inStep
  refine triple_readQueryResponse operation (R := fun message after =>
    Alike (world.record (.response message)) after) (fun _ same => same ▸ inStep) (fun self => ?_)
    (fun message after alike refused => inStep_refused inStep alike refused)
    (fun message output after alike _ parsed => inStep_applied inStep alike parsed) world rfl
  exact (triple_readMessage self world).weaken (fun after same => same ▸ Alike.refl world)
    (fun _ _ alike => alike) fun after alike => inStep_alike world after alike inStep

theorem keeps_exchange (request : Request) : (exchange request).Keeps (InStep tokensOf) := by
  refine triple_exchange request (fun _ inStep => inStep) (fun world self bytes inStep built => ?_)
    (keeps_readQueryResponse request.operation)
  have carries := packet_carries built
  refine (keeps_writeAll self request carries).weaken ?_ (fun _ _ both => both.1)
    fun _ both => both.1
  rintro state rfl
  exact ⟨inStep, rfl⟩

/-- In every run of calls, however each of them ends, over well-formed responses that are all
followed, every request carries the descriptor that the responses before it have established. -/
theorem requests_carry_established {world : World} (fresh : world.conn.transactionDescriptor = 0)
    (start : world.link.trace = []) (calls : List Call)
    (formed : WellFormed tokensOf (run calls world).link.trace)
    (followed : AllFollowed tokensOf (run calls world).link.trace) :
    AllCarry tokensOf (run calls world).link.trace := by
  have initial : InStep tokensOf world := by
    intro _ _
    rw [start, fresh]
    exact ⟨fun before request bytes after split => absurd split.symm (by simp), rfl⟩
  have ignores : IgnoresDepth (InStep tokensOf) := fun depth pending world holds => holds
  exact (run_keeps keeps_exchange ignores calls initial formed followed).1

end exchange
end runs

section samples

theorem CarriesDescriptor.unique {bytes : Bytes} {descriptor other : UInt64}
    (one : CarriesDescriptor bytes descriptor) (two : CarriesDescriptor bytes other) :
    descriptor = other := by
  obtain ⟨message, body, decoded, starts⟩ := one
  obtain ⟨same, rest, again, alsoStarts⟩ := two
  cases decoded.symm.trans again
  have headers : allHeaders descriptor = allHeaders other :=
    (List.append_inj (starts.symm.trans alsoStarts) (by simp)).1
  have field : ∀ value : UInt64, ((allHeaders value).drop 10).take 8 = leBytes 8 value.toNat :=
    fun _ => rfl
  have digits := congrArg (fun bytes => (bytes.drop 10).take 8) headers
  simp only [field] at digits
  have numbers := congrArg leNat digits
  rw [leNat_leBytes_of_lt descriptor.toNat_lt, leNat_leBytes_of_lt other.toNat_lt] at numbers
  exact UInt64.toNat_inj.mp numbers

def doneToken : ResponseToken := .done ⟨⟨0⟩, 0, 0⟩

def begunBytes : Bytes := [0xe3, 11, 0, 8, 8, 5, 0, 0, 0, 0, 0, 0, 0, 0] ++ (doneBytes ++ [])

def rolledBackBytes : Bytes :=
  [0xe3, 11, 0, 10, 0, 8, 5, 0, 0, 0, 0, 0, 0, 0] ++
    ([0xaa, 14, 0, 0x9e, 0x0f, 0, 0, 1, 16, 0, 0, 0, 0, 1, 0, 0, 0] ++ (doneBytes ++ []))

def sampleTokens (payload : Bytes) : List ResponseToken :=
  if payload = begunBytes then [.envChange (.beginTransaction 5), doneToken]
  else if payload = rolledBackBytes then
    [.envChange (.rollbackTransaction 1288), .error ⟨3998, 1, 16, "", "", "", 1⟩, doneToken]
  else [doneToken]

theorem done_isStream (columns : List MssqlColumn) :
    IsStream columns [doneToken] (doneBytes ++ []) :=
  .cons (.done (by decide) (local_done.reads (by decide))) .nil

theorem begun_isStream : IsStream [] (sampleTokens begunBytes) begunBytes :=
  .cons (.envChange (Read.local_readLenPrefixed.reads rfl) rfl) (done_isStream _)

theorem rolledBack_isStream : IsStream [] (sampleTokens rolledBackBytes) rolledBackBytes :=
  .cons (.envChange (Read.local_readLenPrefixed.reads rfl) rfl)
    (.cons (.error (Read.local_readLenPrefixed.reads rfl) rfl) (done_isStream _))

def Sampled : Event → Bool
  | .request _ _ => true
  | .response message => message.packetType == .tabularResult &&
      [begunBytes, rolledBackBytes, doneBytes].contains message.payload

theorem sampled_formed {trace : List Event} (sampled : ∀ event ∈ trace, Sampled event) :
    WellFormed sampleTokens trace := by
  intro message here
  have known := sampled _ here
  simp only [Sampled, Bool.and_eq_true, beq_iff_eq, List.contains_iff_mem, List.mem_cons,
    List.not_mem_nil, or_false] at known
  obtain ⟨tabular, payload⟩ := known
  refine ⟨tabular, ?_⟩
  rcases payload with same | same | same <;> rw [same]
  · exact begun_isStream
  · exact rolledBack_isStream
  · exact done_isStream []

def sent (request : Request) (descriptor : UInt64) : Event :=
  .request request (match request.packet 4096 descriptor with
    | .ok bytes => bytes
    | _ => [])

def responded (payload : Bytes) : Event := .response ⟨.tabularResult, payload⟩

/-- A transaction is opened and used. -/
theorem requests_carry_established_begun :
    AllCarry sampleTokens
      (run [.begin none, .runSqlBatch "x"] (.fresh [answer begunBytes, answer doneBytes])).link.trace := by
  have trace : (run [.begin none, .runSqlBatch "x"]
      (.fresh [answer begunBytes, answer doneBytes])).link.trace =
      [sent (.sqlBatch "BEGIN TRANSACTION") 0, responded begunBytes, sent (.sqlBatch "x") 5,
        responded doneBytes] := by
    decide +kernel
  refine requests_carry_established rfl rfl _ ?_ ?_
  · rw [trace]
    exact sampled_formed (by decide)
  · rw [trace]
    intro before message after split
    left
    have here : Event.response message ∈ [responded begunBytes, responded doneBytes] := by
      have member : Event.response message ∈ before ++ .response message :: after := by simp
      rw [← split] at member
      simpa [sent] using member
    simp only [responded, List.mem_cons, List.not_mem_nil, or_false, Event.response.injEq] at here
    rcases here with rfl | rfl
    · exact ⟨by simp [sampleTokens, doneToken, ResponseToken.Supported], by decide⟩
    · have tokens : sampleTokens doneBytes = [doneToken] := by decide
      exact ⟨by simp [tokens, doneToken, ResponseToken.Supported], by decide⟩

/-- The server rolls back and reports an error in one response: the client still sends the
descriptor of the transaction that is gone. -/
theorem rolledBack_descriptor_sent :
    WellFormed sampleTokens (run [.begin none, .runSqlBatch "x", .runSqlBatch "y"]
      (.fresh [answer begunBytes, answer rolledBackBytes, answer doneBytes])).link.trace ∧
    ¬AllCarry sampleTokens (run [.begin none, .runSqlBatch "x", .runSqlBatch "y"]
      (.fresh [answer begunBytes, answer rolledBackBytes, answer doneBytes])).link.trace := by
  have trace : (run [.begin none, .runSqlBatch "x", .runSqlBatch "y"]
      (.fresh [answer begunBytes, answer rolledBackBytes, answer doneBytes])).link.trace =
      [sent (.sqlBatch "BEGIN TRANSACTION") 0, responded begunBytes, sent (.sqlBatch "x") 5,
        responded rolledBackBytes, sent (.sqlBatch "y") 5, responded doneBytes] := by
    decide +kernel
  rw [trace]
  refine ⟨sampled_formed (by decide), fun carry => ?_⟩
  obtain ⟨bytes, built⟩ : ∃ bytes, (Request.sqlBatch "y").packet 4096 5 = .ok bytes :=
    ⟨[1, 1, 0, 32, 0, 0, 1, 0, 22, 0, 0, 0, 18, 0, 0, 0, 2, 0, 5, 0, 0, 0, 0, 0, 0, 0, 1, 0, 0, 0,
      121, 0], by decide +kernel⟩
  have last : sent (.sqlBatch "y") 5 = .request (.sqlBatch "y") bytes := by rw [sent, built]
  have gone := carry [sent (.sqlBatch "BEGIN TRANSACTION") 0, responded begunBytes,
    sent (.sqlBatch "x") 5, responded rolledBackBytes] (.sqlBatch "y") bytes
    [responded doneBytes] (by rw [last]; rfl)
  have zero : established sampleTokens [sent (.sqlBatch "BEGIN TRANSACTION") 0,
      responded begunBytes, sent (.sqlBatch "x") 5, responded rolledBackBytes] = 0 := by
    decide +kernel
  rw [zero] at gone
  exact absurd ((packet_carries built).unique gone) (by decide)

end samples
end SqlxSqlserver.Driver

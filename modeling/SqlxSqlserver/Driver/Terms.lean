import SqlxSqlserver.Driver.Descriptor
import SqlxSqlserver.Driver.Session

/-! What the responses of the server have settled for the requests behind them: the packet size and
the transaction descriptor. Both can be read off the trace of any run. -/

namespace SqlxSqlserver.Driver
open Foundation Protocol

structure Terms where
  packetSize : Nat
  descriptor : UInt64
  deriving DecidableEq

namespace Terms

def change (self : Terms) : EnvChange → Terms
  | .packetSize size => { self with packetSize := min (max size.toNat 512) 32767 }
  | .beginTransaction descriptor => { self with descriptor }
  | .commitTransaction _ | .rollbackTransaction _ => { self with descriptor := 0 }
  | _ => self

/-- A response counts when it is a tabular result that was parsed to its end. -/
def behind (self : Terms) : Event → Terms
  | .request _ _ => self
  | .response message =>
    match message.output? with
    | some output => output.envChanges.foldl change self
    | none => self

def after (self : Terms) (trace : List Event) : Terms := trace.foldl behind self

theorem after_snoc (self : Terms) (trace : List Event) (event : Event) :
    self.after (trace ++ [event]) = (self.after trace).behind event := by
  rw [after, List.foldl_append]
  rfl

/-- A size is the first one, or one that the server may set. -/
def Allows (first size : Nat) : Prop := size = first ∨ 512 ≤ size ∧ size ≤ 32767

theorem foldl_change_size {first : Nat} {self : Terms} (allowed : Allows first self.packetSize)
    (changes : List EnvChange) : Allows first (changes.foldl change self).packetSize := by
  induction changes generalizing self with
  | nil => exact allowed
  | cons envChange changes ih =>
    apply ih
    cases envChange with
    | packetSize size =>
      right
      dsimp only [change]
      omega
    | _ => exact allowed

theorem after_size {first : Nat} {self : Terms} (allowed : Allows first self.packetSize)
    (trace : List Event) : Allows first (self.after trace).packetSize := by
  induction trace generalizing self with
  | nil => exact allowed
  | cons event trace ih =>
    apply ih
    cases event with
    | request request bytes => exact allowed
    | response message =>
      rw [behind]
      cases message.output? with
      | some output => exact foldl_change_size allowed _
      | none => exact allowed

end Terms

/-- What the connection holds, when it has its stream. -/
def MssqlConnection.OnTerms (self : MssqlConnection) (terms : Terms) : Prop :=
  self.transactionDescriptor = terms.descriptor ∧
    ∀ stream, self.stream = some stream → stream.packetSize = terms.packetSize

theorem MssqlConnection.OnTerms.applyEnvChanges {conn : MssqlConnection} {terms : Terms}
    (on : conn.OnTerms terms) (changes : List EnvChange) :
    (conn.applyEnvChanges changes).OnTerms (changes.foldl Terms.change terms) := by
  induction changes generalizing conn terms with
  | nil => exact on
  | cons change changes ih =>
    apply ih
    obtain ⟨descriptor, size⟩ := on
    cases change with
    | packetSize new =>
      refine ⟨descriptor, fun stream found => ?_⟩
      obtain ⟨before, _, rfl⟩ := Option.map_eq_some_iff.mp found
      rfl
    | beginTransaction new => exact ⟨rfl, size⟩
    | commitTransaction old => exact ⟨rfl, size⟩
    | rollbackTransaction old => exact ⟨rfl, size⟩
    | _ => exact ⟨descriptor, size⟩

section runs
variable (start : Terms)

/-- Every request is the one that the terms in front of it make of it. -/
def AllOnTerms (trace : List Event) : Prop :=
  ∀ before request bytes after, trace = before ++ .request request bytes :: after →
    request.packet (start.after before).packetSize (start.after before).descriptor = .ok bytes

structure InForce (world : World) : Prop where
  requests : AllOnTerms start world.link.trace
  conn : world.conn.OnTerms (start.after world.link.trace)

variable {start}

theorem inForce_alike (world after : World) (alike : Alike world after) (holds : InForce start world) :
    InForce start after :=
  ⟨by rw [alike.trace]; exact holds.requests, by rw [alike.trace, alike.conn]; exact holds.conn⟩

theorem AllOnTerms.snoc_response {trace : List Event} (all : AllOnTerms start trace)
    (message : WireMessage) : AllOnTerms start (trace ++ [.response message]) := by
  intro before request bytes after split
  rcases split_snoc split with ⟨_, different⟩ | ⟨rest, front⟩
  · cases different
  · exact all before request bytes rest front

theorem AllOnTerms.snoc_request {trace : List Event} (all : AllOnTerms start trace)
    {request : Request} {bytes : Bytes}
    (built : request.packet (start.after trace).packetSize (start.after trace).descriptor =
      .ok bytes) : AllOnTerms start (trace ++ [.request request bytes]) := by
  intro before other others after split
  rcases split_snoc split with ⟨rfl, same⟩ | ⟨rest, front⟩
  · cases same
    exact built
  · exact all before other others rest front

theorem inForce_refused {world after : World} {message : WireMessage} (holds : InForce start world)
    (alike : Alike (world.record (.response message)) after)
    (refused : message.packetType = .tabularResult →
      ∀ output, parseQueryResponse message.payload ≠ .ok output) : InForce start after := by
  have silent : message.output? = none := by
    unfold WireMessage.output?
    split
    next tabular =>
      split
      next output parsed => exact absurd parsed (refused tabular output)
      next => rfl
    next => rfl
  refine inForce_alike _ _ alike ⟨holds.requests.snoc_response message, ?_⟩
  change world.conn.OnTerms (start.after (world.link.trace ++ [.response message]))
  rw [Terms.after_snoc, Terms.behind, silent]
  exact holds.conn

theorem inForce_applied {world after : World} {message : WireMessage} {output : QueryOutput}
    (holds : InForce start world) (alike : Alike (world.record (.response message)) after)
    (tabular : message.packetType = .tabularResult)
    (parsed : parseQueryResponse message.payload = .ok output) :
    InForce start (after.updateConn (·.applyEnvChanges output.envChanges)) := by
  have told : message.output? = some output := by
    rw [WireMessage.output?, if_pos tabular, parsed]
  have trace : after.link.trace = world.link.trace ++ [.response message] := alike.trace
  constructor
  · change AllOnTerms start after.link.trace
    rw [trace]
    exact holds.requests.snoc_response message
  · change (after.conn.applyEnvChanges output.envChanges).OnTerms (start.after after.link.trace)
    rw [trace, Terms.after_snoc, Terms.behind, told, alike.conn]
    exact holds.conn.applyEnvChanges _

theorem inForce_writeAll {world : World} (holds : InForce start world) (self : MssqlWireStream)
    {request : Request} {bytes : Bytes}
    (built : request.packet (start.after world.link.trace).packetSize
      (start.after world.link.trace).descriptor = .ok bytes) :
    (self.writeAll request bytes).Triple (fun state => state = world) (fun _ => InForce start)
      (InForce start) := by
  have quiet : ∀ {action : Task Unit}, Quiet action → action.Keeps (InForce start) :=
    fun silent => silent.keeps inForce_alike
  refine triple_writeAll self (R := InForce start) ?_
    (fun fuel offset => quiet (quiet_writePackets bytes fuel offset)) ?_ (quiet quiet_awaitWrite)
    fun state same => same ▸ holds
  · rintro state rfl
    refine ⟨holds.requests.snoc_request built, ?_⟩
    change state.conn.OnTerms (start.after (state.link.trace ++ [.request request bytes]))
    rw [Terms.after_snoc]
    exact holds.conn
  · exact fun state kept => ⟨kept.requests, kept.conn⟩

variable [ErrorDisplay]

theorem inForce_readQueryResponse (operation : String) :
    (readQueryResponse operation).Keeps (InForce start) := by
  intro world holds
  refine triple_readQueryResponse operation (R := fun message after =>
    Alike (world.record (.response message)) after) (fun _ same => same ▸ holds) (fun self => ?_)
    (fun message after alike refused => inForce_refused holds alike refused)
    (fun message output after alike tabular parsed => inForce_applied holds alike tabular parsed)
    world rfl
  exact (triple_readMessage self world).weaken (fun after same => same ▸ Alike.refl world)
    (fun _ _ alike => alike) fun after alike => inForce_alike world after alike holds

theorem inForce_exchange (request : Request) : (exchange request).Keeps (InForce start) := by
  intro world holds
  cases found : world.conn.stream with
  | none =>
    rw [exchange_closed found]
    exact holds
  | some self =>
    have exits : ∀ state, state = world → InForce start state := fun state same => same ▸ holds
    rw [exchange_opened found]
    refine ((Async.triple_ofOutcome _ exits).bind fun bytes => Async.triple_known fun built =>
      ((inForce_writeAll holds self ?_).mapErr _).bind fun _ => inForce_readQueryResponse _) world rfl
    rw [← holds.conn.1, ← holds.conn.2 self found]
    exact built

/-- In every run of calls, however each of them ends, every request is what the packet size and the
descriptor make of it that the responses in front of it have settled, so that it is a whole message
in packets of at most that size. -/
theorem requests_follow_terms {world : World} {self : MssqlWireStream} (fresh : world.link.trace = [])
    (stream : world.conn.stream = some self) (calls : List Call) :
    ∀ before request bytes after,
      (run calls world).link.trace = before ++ .request request bytes :: after →
      let terms := Terms.after ⟨self.packetSize, world.conn.transactionDescriptor⟩ before
      request.packet terms.packetSize terms.descriptor = .ok bytes ∧
        Terms.Allows self.packetSize terms.packetSize ∧
        ∃ packets : List Packet, outboundPackets bytes = (packets.map Packet.encode, .ok ()) ∧
          ∀ packet ∈ packets, packet.encode.length ≤ terms.packetSize := by
  have initial : InForce ⟨self.packetSize, world.conn.transactionDescriptor⟩ world := by
    refine ⟨?_, ?_⟩
    · rw [fresh]
      exact fun before request bytes after split => absurd split.symm (by simp)
    · rw [fresh]
      refine ⟨rfl, fun other found => ?_⟩
      rw [stream] at found
      cases found
      rfl
  have ignores : IgnoresDepth (InForce ⟨self.packetSize, world.conn.transactionDescriptor⟩) :=
    fun depth pending state holds => ⟨holds.requests, holds.conn⟩
  intro before request bytes after split
  have built := (run_keeps inForce_exchange ignores calls initial).requests before request bytes after
    split
  obtain ⟨packetType, payload, encoded⟩ := encoded_of_packet built
  obtain ⟨packets, _, _, written, short⟩ := outboundPackets_encoded encoded
  exact ⟨built, Terms.after_size (.inl rfl) before, packets, written, short⟩

end runs

section samples

def resizedBytes : Bytes :=
  [0xe3, 15, 0, 4, 4, 49, 0, 48, 0, 48, 0, 48, 0, 2, 52, 0, 48, 0] ++ doneBytes

def resizedTrace : List Event :=
  (run [.runSqlBatch "x", .runSqlBatch "y"] (.fresh [answer resizedBytes, answer doneBytes])).link.trace

def resizedBatch : Bytes :=
  [1, 1, 0, 32, 0, 0, 1, 0, 22, 0, 0, 0, 18, 0, 0, 0, 2, 0] ++ List.replicate 8 0 ++ [1, 0, 0, 0, 121, 0]

/-- The second batch is built for packets of 1000 bytes. -/
theorem requests_follow_terms_resized :
    (Request.sqlBatch "y").packet (Terms.after ⟨4096, 0⟩ (resizedTrace.take 2)).packetSize 0 =
      .ok resizedBatch ∧
    (Terms.after ⟨4096, 0⟩ (resizedTrace.take 2)).packetSize = 1000 := by
  have split : resizedTrace =
      resizedTrace.take 2 ++ .request (.sqlBatch "y") resizedBatch :: resizedTrace.drop 3 := by
    decide +kernel
  have resized : Terms.after ⟨4096, 0⟩ (resizedTrace.take 2) = ⟨1000, 0⟩ := by decide +kernel
  have built := (requests_follow_terms rfl rfl [.runSqlBatch "x", .runSqlBatch "y"] _ _ _ _ split).1
  change (Request.sqlBatch "y").packet (Terms.after ⟨4096, 0⟩ (resizedTrace.take 2)).packetSize
    (Terms.after ⟨4096, 0⟩ (resizedTrace.take 2)).descriptor = .ok resizedBatch at built
  rw [resized] at built ⊢
  exact ⟨built, rfl⟩

end samples
end SqlxSqlserver.Driver

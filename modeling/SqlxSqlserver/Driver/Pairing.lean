import SqlxSqlserver.Driver.Transaction
import SqlxSqlserver.Protocol.PacketRoundTrip

/-! Requests and responses. The connection numbers neither, so a response that was left unread is
read by the next call; a call that finds nothing unread gets the response to its own request. -/

namespace SqlxSqlserver.Driver
open Foundation Protocol

def IsMessage (bytes payload : Bytes) : Prop :=
  ∃ packetType packets, Terminated packets ∧ Contiguous packetType none packets ∧
    bytes = encodeAll packets ∧ payload = payloadOf packets

theorem IsMessage.unique {bytes payload other : Bytes} (one : IsMessage bytes payload)
    (two : IsMessage bytes other) : payload = other := by
  obtain ⟨_, packets, terminated, contiguous, rfl, rfl⟩ := one
  obtain ⟨_, others, otherTerminated, otherContiguous, same, rfl⟩ := two
  have first := tryDecodeMessage_packets terminated contiguous []
  have second := tryDecodeMessage_packets otherTerminated otherContiguous []
  rw [same] at first
  have message := first.symm.trans second
  simp only [Except.ok.injEq, Option.some.injEq, PacketMessage.mk.injEq] at message
  exact message.2.1

theorem answer_isMessage {payload : Bytes} (short : packetHeaderLen + payload.length < 65536) :
    IsMessage (answer payload) payload := by
  have length : (UInt16.ofNat (packetHeaderLen + payload.length)).toNat =
      packetHeaderLen + payload.length := by
    rw [UInt16.toNat_ofNat', Nat.mod_eq_of_lt short]
  exact ⟨.tabularResult, [⟨.new .tabularResult .endOfMessage _ 1, payload, length⟩], rfl,
    ⟨rfl, (fun _ same => nomatch same), trivial⟩, (List.append_nil _).symm,
    (List.append_nil _).symm⟩

/-- Where the link stands: what the server will answer, received, and has under way. -/
def LinkAt (replies : List Bytes) (delivered : List Request) (incoming : Bytes) (world : World) :
    Prop :=
  world.link.replies = replies ∧ world.link.delivered = delivered ∧ world.link.incoming = incoming

section reading
variable {replies : List Bytes} {delivered : List Request}

end reading

section exchanging
variable {replies : List Bytes} {delivered : List Request}

variable [ErrorDisplay]

/-- The output was parsed from the reply to the request, the last one delivered, and nothing is
left to read. -/
def Paired (replies : List Bytes) (delivered : List Request) (request : Request)
    (output : QueryOutput) (world : World) : Prop :=
  LinkAt replies (delivered ++ [request]) [] world ∧ ∃ reply payload,
    replies[delivered.length]? = some reply ∧ IsMessage reply payload ∧
      parseQueryResponse payload = .ok output

end exchanging

section queries

inductive Query where
  | runSqlBatch (sql : String)
  | runExecuteSql (sql : String) (arguments : Option MssqlArguments)
  | runPrepare (sql : String) (parameters : List MssqlTypeInfo)

def Query.request : Query → Request
  | .runSqlBatch sql => .sqlBatch sql
  | .runExecuteSql sql arguments => executeRequest sql arguments
  | .runPrepare sql parameters => .prepare sql parameters

/-- The output was parsed from the reply to the last delivery of the request, which is one of the
deliveries from `start` on. -/
def Answered (replies : List Bytes) (start : Nat) (request : Request) (output : QueryOutput)
    (world : World) : Prop :=
  ∃ own reply payload, start ≤ own ∧ world.link.delivered[own]? = some request ∧
    (∀ later, own < later → world.link.delivered[later]? ≠ some request) ∧
    replies[own]? = some reply ∧ IsMessage reply payload ∧
    parseQueryResponse payload = .ok output

variable {replies : List Bytes} {delivered : List Request}

theorem Paired.answered {request : Request} {output : QueryOutput} {start : Nat} {world : World}
    (paired : Paired replies delivered request output world) (behind : start ≤ delivered.length) :
    Answered replies start request output world := by
  obtain ⟨⟨_, same, _⟩, reply, payload, found, message, parsed⟩ := paired
  refine ⟨delivered.length, reply, payload, behind, ?_, fun later beyond => ?_, found, message,
    parsed⟩
  · rw [same, List.getElem?_concat_length]
  · rw [same, List.getElem?_eq_none (by rw [List.length_append]; exact beyond)]
    exact (Option.some_ne_none request).symm

variable [ErrorDisplay]

def Query.perform : Query → Task QueryOutput
  | .runSqlBatch sql => Driver.runSqlBatch sql
  | .runExecuteSql sql arguments => Driver.runExecuteSql sql arguments
  | .runPrepare sql parameters => Driver.runPrepare sql parameters

end queries

section samples

def countedBytes : Bytes := [0xfd, 0x10, 0, 0, 0, 1, 0, 0, 0, 0, 0, 0, 0]

def countedOutput (rowsAffected : Nat) : QueryOutput :=
  { columns := [], rows := [], result := ⟨rowsAffected⟩, returnValues := [], envChanges := [] }

end samples
end SqlxSqlserver.Driver

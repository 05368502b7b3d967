import SqlxSqlserver.Driver.Session
import SqlxSqlserver.Driver.PacketSizes
import SqlxSqlserver.Protocol.RpcSizes

/-! The handles of prepared statements. The driver keeps none of them: what `sp_prepare` hands over
is released by the very next request. -/

namespace SqlxSqlserver.Driver
open Foundation Protocol

section logs

def statementHandle? : Request × Answer → Option Int32
  | (.prepare _ _, answer) => answer.message.output?.bind fun output =>
    match firstI32ReturnValue output with
    | .ok found => found
    | _ => none
  | _ => none

def releasedHandle? : Request → Option Int32
  | .unprepare handle => some handle
  | _ => none

/-- With `held` handed over in front of the log, each request releases the handle that the answer in
front of it handed over, and no request releases another one. -/
def Released (held : Option Int32) : List (Request × Answer) → Prop
  | [] => held = none
  | entry :: log => releasedHandle? entry.1 = held ∧ Released (statementHandle? entry) log

theorem Released.append {held : Option Int32} {log later : List (Request × Answer)}
    (released : Released held log) (further : Released none later) : Released held (log ++ later) := by
  induction log generalizing held with
  | nil =>
    obtain rfl : held = none := released
    exact further
  | cons entry log ih => exact ⟨released.1, ih released.2⟩

theorem released_single {request : Request} {answer : Answer} (plain : releasedHandle? request = none)
    (unhanded : statementHandle? (request, answer) = none) : Released none [(request, answer)] :=
  ⟨plain, unhanded⟩

structure Logged (start : Dialogue) (log : List (Request × Answer)) (now : Dialogue) : Prop where
  asked : now.asked = start.asked ++ log.map Prod.fst
  answers : start.answers = log.map Prod.snd ++ now.answers

theorem Logged.snoc {start now : Dialogue} {log : List (Request × Answer)}
    (logged : Logged start log now) {answer : Answer} {later : List Answer}
    (next : now.answers = answer :: later) (request : Request) (conn : MssqlConnection) :
    Logged start (log ++ [(request, answer)])
      { conn := conn, answers := later, asked := now.asked ++ [request] } := by
  constructor
  · rw [logged.asked, List.map_append, List.append_assoc]
    rfl
  · rw [logged.answers, next, List.map_append, List.append_assoc]
    rfl

/-- A handle is always released: the request for it can be built whenever another one could. -/
def Framable (conn : MssqlConnection) : Prop :=
  ∃ stream, conn.stream = some stream ∧ 8 < stream.packetSize ∧ stream.packetSize ≤ 65535

theorem framable_of_built {conn : MssqlConnection} {stream : MssqlWireStream} {request : Request}
    (found : conn.stream = some stream) {descriptor : UInt64} {bytes : Bytes}
    (built : request.packet stream.packetSize descriptor = .ok bytes) : Framable conn := by
  obtain ⟨packetType, payload, encoded⟩ := encoded_of_packet built
  obtain ⟨lower, upper, _⟩ := (encodeMessage_ok_iff _ _ _).mp ⟨bytes, encoded⟩
  exact ⟨stream, found, lower, upper⟩

theorem Framable.applyEnvChanges {conn : MssqlConnection} (framable : Framable conn)
    (changes : List EnvChange) : Framable (conn.applyEnvChanges changes) := by
  induction changes generalizing conn with
  | nil => exact framable
  | cons change changes ih =>
    apply ih
    obtain ⟨stream, found, lower, upper⟩ := framable
    cases change with
    | packetSize size =>
      refine ⟨_, by rw [MssqlConnection.applyEnvChange, found]; rfl, ?_, ?_⟩
      · dsimp only
        omega
      · dsimp only
        omega
    | _ => exact ⟨stream, found, lower, upper⟩

theorem unprepare_built {packetSize : Nat} (lower : 8 < packetSize) (upper : packetSize ≤ 65535)
    (handle : Int32) (descriptor : UInt64) :
    ∃ bytes, (Request.unprepare handle).packet packetSize descriptor = .ok bytes := by
  have written : (unpreparePayload handle descriptor).Writes
      (allHeaders descriptor ++ rpcHeader procedureIdUnprepare ++ i32Bytes 0 handle.toInt) () :=
    Put.Writes.bind (writes_rpcHeader procedureIdUnprepare descriptor) (writes_i32 0 handle.toInt)
  have length : (allHeaders descriptor ++ rpcHeader procedureIdUnprepare ++
      i32Bytes 0 handle.toInt).length = 37 := by
    simp [rpcHeader, i32Bytes]
  have fits : framedLength (allHeaders descriptor ++ rpcHeader procedureIdUnprepare ++
      i32Bytes 0 handle.toInt) packetSize ≤ isizeMax := by
    rw [framedLength_eq (List.ne_nil_of_length_pos (by omega)), length]
    exact framedSize_small (by decide) lower
  obtain ⟨bytes, encoded⟩ := (encodeMessage_ok_iff .rpc _ packetSize).mpr ⟨lower, upper, fits⟩
  refine ⟨bytes, ?_⟩
  have framed : buildUnpreparePacket handle packetSize descriptor = .ok bytes :=
    frameRpc_ok_iff.mpr ⟨_, written, encoded⟩
  rw [Request.packet, framed]
  rfl

end logs

section asking
variable [ErrorDisplay] {start : Dialogue} {log : List (Request × Answer)}

def Told (start : Dialogue) (log : List (Request × Answer)) (request : Request) (output : QueryOutput)
    (now : Dialogue) : Prop :=
  ∃ answer, Logged start (log ++ [(request, answer)]) now ∧ answer.message.output? = some output ∧
    Framable now.conn

def Refused (start : Dialogue) (log : List (Request × Answer)) (request : Request)
    (now after : Dialogue) : Prop :=
  (after = now ∧ ∀ stream bytes, now.conn.stream = some stream →
    request.packet stream.packetSize now.conn.transactionDescriptor ≠ .ok bytes) ∨
  ∃ answer, Logged start (log ++ [(request, answer)]) after ∧ answer.message.output? = none

theorem undropped_answer {request : Request} {now : Dialogue} (logged : Logged start log now)
    (framable : Framable now.conn) {answer : Answer} {later : List Answer}
    (next : now.answers = answer :: later) : (do
      .modify fun self => { self with answers := later, asked := self.asked ++ [request] }
      let output ← .ofOutcome (answer.message.outcome request.operation)
      .modify (Dialogue.update (·.applyEnvChanges output.envChanges))
      return output : Async Error Dialogue QueryOutput).Undropped (fun state => state = now)
        (Told start log request) (Refused start log request now) := by
  have unanswered : (∀ output, answer.message.outcome request.operation ≠ .ok output) →
      answer.message.output? = none := by
    intro refused
    by_contra found
    obtain ⟨output, found⟩ := Option.ne_none_iff_exists'.mp found
    exact refused output ((outcome_ok_iff _ _ _).mpr found)
  let sent : Dialogue := { now with answers := later, asked := now.asked ++ [request] }
  apply Async.Undropped.bind (R := fun _ state => state = sent)
  · rintro state rfl
    rfl
  intro _
  rintro state rfl
  cases outcome : answer.message.outcome request.operation with
  | ok output =>
    exact ⟨answer, logged.snoc next request _, (outcome_ok_iff _ _ _).mp outcome,
      framable.applyEnvChanges _⟩
  | err error => exact .inr ⟨answer, logged.snoc next request _, unanswered (by simp [outcome])⟩
  | panic text => exact .inr ⟨answer, logged.snoc next request _, unanswered (by simp [outcome])⟩

theorem undropped_answered {request : Request} {self : MssqlWireStream} {now : Dialogue}
    (logged : Logged start log now) (framable : Framable now.conn) :
    (Dialogue.answered request self now.answers).Undropped (fun state => state = now)
      (Told start log request) (Refused start log request now) := by
  cases next : now.answers with
  | nil => exact fun _ _ => trivial
  | cons answer later =>
    rw [Dialogue.answered]
    split_ifs
    · exact undropped_answer logged framable next
    · exact fun _ _ => trivial

/-- What a request adds to the log. -/
theorem undropped_ask (request : Request) {now : Dialogue} (logged : Logged start log now) :
    (Dialogue.ask request).Undropped (fun state => state = now) (Told start log request)
      (Refused start log request now) := by
  rintro now rfl
  cases found : now.conn.stream with
  | none =>
    rw [ask_closed found]
    exact .inl ⟨rfl, fun stream _ known => absurd (found.symm.trans known) (by simp)⟩
  | some self =>
    rw [ask_opened found]
    have unbuilt : (∀ bytes,
        request.packet self.packetSize now.conn.transactionDescriptor ≠ .ok bytes) →
        Refused start log request now now := by
      refine fun none => .inl ⟨rfl, fun stream bytes known => ?_⟩
      rw [found] at known
      cases known
      exact none bytes
    cases built : request.packet self.packetSize now.conn.transactionDescriptor with
    | ok bytes => exact undropped_answered logged (framable_of_built found built) now rfl
    | err error => exact unbuilt (by simp [built])
    | panic text => exact unbuilt (by simp [built])

end asking

section calls
variable {start : Dialogue}

/-- The log so far releases every handle. -/
def Tidy (start now : Dialogue) : Prop := ∃ log, Logged start log now ∧ Released none log

abbrev Tidies {α : Type} (start : Dialogue) (action : Async Error Dialogue α) : Prop :=
  action.Undropped (Tidy start) (fun _ => Tidy start) (Tidy start)

theorem tidies_pure {α : Type} (value : α) : Tidies start (pure value) := fun _ tidy => tidy

theorem tidies_update (change : MssqlConnection → MssqlConnection) :
    Tidies start (.modify (Dialogue.update change)) :=
  fun _ tidy => by
    obtain ⟨log, logged, released⟩ := tidy
    exact ⟨log, ⟨logged.asked, logged.answers⟩, released⟩

theorem tidies_look {α : Type} {next : Dialogue → Async Error Dialogue α}
    (tail : ∀ now, Tidies start (next now)) : Tidies start (.get >>= next) :=
  fun now tidy => tail now now tidy

theorem tidy_refused {log : List (Request × Answer)} (released : Released none log) {request : Request}
    (plain : releasedHandle? request = none) {now after : Dialogue} (logged : Logged start log now)
    (refused : Refused start log request now after) : Tidy start after := by
  rcases refused with ⟨rfl, _⟩ | ⟨answer, logged, none⟩
  · exact ⟨log, logged, released⟩
  · refine ⟨_, logged, released.append (released_single plain ?_)⟩
    cases request with
    | prepare sql parameters => rw [statementHandle?, none]; rfl
    | _ => rfl

variable [ErrorDisplay]

theorem tidies_ask {request : Request} (plain : releasedHandle? request = none)
    (unhanded : ∀ answer, statementHandle? (request, answer) = none) :
    Tidies start (idealPort.ask request) := by
  rintro now ⟨log, logged, released⟩
  refine (undropped_ask request logged).weaken ?_ (fun _ => tidy_refused released plain logged) now rfl
  rintro output after ⟨answer, logged, _⟩
  exact ⟨_, logged, released.append (released_single plain (unhanded answer))⟩

theorem tidies_flush : Tidies start idealPort.flush := by
  apply tidies_look
  intro now
  cases (idealPort.conn now).pendingRollbackSql with
  | none => exact tidies_pure ()
  | some sql =>
    exact (tidies_update _).bind fun _ => (tidies_ask rfl fun _ => rfl).bind fun _ => tidies_pure ()

theorem tidies_batch (sql : String) : Tidies start (idealPort.batch sql) :=
  tidies_flush.bind fun _ => tidies_ask rfl fun _ => rfl

theorem tidies_execute (sql : String) (arguments : Option MssqlArguments) :
    Tidies start (idealPort.execute sql arguments) := by
  have plain : releasedHandle? (executeRequest sql arguments) = none ∧
      ∀ answer, statementHandle? (executeRequest sql arguments, answer) = none := by
    unfold executeRequest
    split
    · split_ifs <;> exact ⟨rfl, fun _ => rfl⟩
    · exact ⟨rfl, fun _ => rfl⟩
  exact tidies_flush.bind fun _ => tidies_ask plain.1 plain.2

/-- The request behind a prepare that handed a handle over releases it. -/
theorem tidies_release {log : List (Request × Answer)} (released : Released none log) {sql : String}
    {parameters : List MssqlTypeInfo} {output : QueryOutput} {handle : Int32}
    (decoded : firstI32ReturnValue output = .ok (some handle)) :
    (idealPort.ask (.unprepare handle)).Undropped (Told start log (.prepare sql parameters) output)
      (fun _ => Tidy start) (Tidy start) := by
  rintro now ⟨answer, logged, told, framable⟩
  have prepared : statementHandle? (.prepare sql parameters, answer) = some handle := by
    rw [statementHandle?, told, Option.bind_some, decoded]
  have pair : ∀ other, Released none (log ++ [(.prepare sql parameters, answer)] ++
      [(.unprepare handle, other)]) := by
    intro other
    rw [List.append_assoc]
    exact released.append ⟨rfl, prepared.symm, rfl⟩
  refine (undropped_ask (.unprepare handle) logged).weaken ?_ ?_ now rfl
  · rintro _ after ⟨other, logged, _⟩
    exact ⟨_, logged, pair other⟩
  · rintro after (⟨_, unbuilt⟩ | ⟨other, logged, _⟩)
    · obtain ⟨stream, found, lower, upper⟩ := framable
      obtain ⟨bytes, built⟩ := unprepare_built lower upper handle now.conn.transactionDescriptor
      exact absurd built (unbuilt stream bytes found)
    · exact ⟨_, logged, pair other⟩

theorem tidies_prepare (sql : String) (parameters : List MssqlTypeInfo) :
    Tidies start (idealPort.prepare sql parameters) := by
  apply tidies_flush.bind
  intro _
  rintro now ⟨log, logged, released⟩
  refine Async.Undropped.bind ((undropped_ask (.prepare sql parameters) logged).weaken
    (fun _ _ told => told) fun _ => tidy_refused released rfl logged) (fun output => ?_) now rfl
  have tidy : (∀ handle, firstI32ReturnValue output ≠ .ok (some handle)) →
      ∀ after, Told start log (.prepare sql parameters) output after → Tidy start after := by
    rintro none after ⟨answer, logged, told, _⟩
    refine ⟨_, logged, released.append (released_single rfl ?_)⟩
    rw [statementHandle?, told, Option.bind_some]
    split
    next found decoded =>
      cases found with
      | none => rfl
      | some handle => exact absurd decoded (none handle)
    next => rfl
  by_cases handled : ∃ handle, firstI32ReturnValue output = .ok (some handle)
  · obtain ⟨handle, decoded⟩ := handled
    rw [decoded]
    exact (tidies_release released decoded).bind fun _ => tidies_pure output
  · have ends := tidy (not_exists.mp handled)
    cases decoded : firstI32ReturnValue output with
    | ok found =>
      cases found with
      | none => exact ends
      | some handle => exact absurd ⟨handle, decoded⟩ handled
    | err error => exact ends
    | panic text => exact ends

theorem tidies_call (call : Call) : Tidies start (idealPort.call call) := by
  cases call with
  | runSqlBatch sql => exact (tidies_batch sql).bind fun _ => tidies_pure _
  | runExecuteSql sql arguments => exact (tidies_execute sql arguments).bind fun _ => tidies_pure _
  | runPrepare sql parameters => exact (tidies_prepare sql parameters).bind fun _ => tidies_pure _
  | ping =>
    refine (tidies_flush.bind fun _ => Async.Undropped.bind (tidies_look fun now => ?_) fun _ =>
      tidies_pure ()).bind fun _ => tidies_pure _
    cases (idealPort.conn now).stream with
    | some stream => exact tidies_pure stream
    | none => exact fun _ tidy => tidy
  | begin statement =>
    refine Async.Undropped.bind (tidies_look fun now => ?_) fun _ => tidies_pure _
    exact (tidies_batch _).bind fun _ => tidies_update _
  | commit =>
    refine Async.Undropped.bind (tidies_look fun now => ?_) fun _ => tidies_pure _
    dsimp only
    split_ifs
    · exact (tidies_batch _).bind fun _ => tidies_update _
    · exact tidies_update _
    · exact tidies_pure ()
  | rollback =>
    refine Async.Undropped.bind (tidies_look fun now => ?_) fun _ => tidies_pure _
    dsimp only
    split_ifs
    · exact (tidies_batch _).bind fun _ => tidies_update _
    · exact (tidies_batch _).bind fun _ => tidies_update _
    · exact tidies_pure ()
  | startRollback => exact (tidies_update _).bind fun _ => tidies_pure _

/-- In a session in which every request is answered, whatever the calls, the answers and their
errors, the next request releases every statement handle that the server hands over, and no request
releases anything else. -/
theorem handles_released (calls : List Call) {dialogue : Dialogue} {world : World}
    (tracks : Tracks dialogue world)
    (answered : ∀ completion ∈ (Async.each idealPort.call calls dialogue).1, completion ≠ .dropped) :
    ∃ log, (Async.each Call.output calls world).2.link.delivered =
        dialogue.asked ++ log.map Prod.fst ∧
      log.map Prod.snd <+: dialogue.answers ∧ Released none log := by
  have start : Tidy dialogue dialogue := by
    refine ⟨[], ⟨?_, rfl⟩, rfl⟩
    rw [List.map_nil, List.append_nil]
  have tracked := (Async.Simulates.each wirePort_refines.call calls tracks answered).2
  rw [funext call_wirePort] at tracked
  obtain ⟨log, logged, released⟩ := Async.Undropped.each tidies_call calls start answered
  exact ⟨log, tracked.delivered.trans logged.asked, ⟨_, logged.answers.symm⟩, released⟩

end calls

section samples

def handleBytes : Bytes :=
  [0xac, 0, 0, 0, 1, 0, 0, 0, 0, 0, 0, 0x26, 4, 4, 7, 0, 0, 0] ++ doneBytes

def preparingDialogue : Dialogue where
  conn := (World.fresh []).conn
  answers := [.single handleBytes (by decide), doneAnswer, doneAnswer]
  asked := []

def preparingWorld : World := .fresh [answer handleBytes, answer doneBytes, answer doneBytes]

def preparingCalls : List Call := [.runPrepare "SELECT 1" [], .runSqlBatch "SELECT 2"]

theorem handles_released_prepare : ∃ log,
    (Async.each Call.output preparingCalls preparingWorld).2.link.delivered = log.map Prod.fst ∧
      log.map Prod.fst = [.prepare "SELECT 1" [], .unprepare 7, .sqlBatch "SELECT 2"] ∧
      Released none log := by
  have tracks : Tracks preparingDialogue preparingWorld :=
    ⟨rfl, fun _ member => absurd member List.not_mem_nil, rfl, rfl, by decide⟩
  have answered : ∀ completion ∈ (Async.each idealPort.call preparingCalls preparingDialogue).1,
      completion ≠ .dropped := by
    decide +kernel
  have sent : (Async.each Call.output preparingCalls preparingWorld).2.link.delivered =
      [.prepare "SELECT 1" [], .unprepare 7, .sqlBatch "SELECT 2"] := by
    decide +kernel
  obtain ⟨log, delivered, _, released⟩ := handles_released preparingCalls tracks answered
  change _ = [] ++ _ at delivered
  rw [List.nil_append] at delivered
  exact ⟨log, delivered, delivered.symm.trans sent, released⟩

end samples
end SqlxSqlserver.Driver

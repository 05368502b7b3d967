import SqlxSqlserver.Driver.DriverValues
import SqlxSqlserver.Driver.Executor
import SqlxSqlserver.Protocol.QueryResponse

/-! A query that is answered with its own arguments: what was bound is what the columns of the row
are decoded to. -/

namespace SqlxSqlserver.Driver
open Foundation Protocol Reader

section answers

/-- One result set with one row: a column of the type of each parameter, with its value. -/
def HandsBack (parameters : List RpcParameter) (payload : Bytes) : Prop :=
  ∃ columns nullable values done,
    IsStream [] [.colMetaData columns, .row nullable values, .done done] payload ∧
    List.Forall₂ (fun parameter value => ∃ typeInfo,
      (MssqlTypeInfo.fromProtocol parameter.typeInfo : Outcome BoxDynError MssqlTypeInfo) =
        .ok typeInfo ∧ value = MssqlValue.new typeInfo parameter.value) parameters values

/-- The answer to a call hands the parameters behind the text and the declarations back. -/
def Answer.Echoes (self : Answer) (request : Bytes) : Prop :=
  self.packetType = .tabularResult ∧ ∃ descriptor body text declared parameters,
    tryDecodeMessage request =
      .ok (some ⟨.rpc, allHeaders descriptor ++ rpcHeader 10 ++ body, request.length⟩) ∧
    RpcParameter.getAll body = .ok (text :: declared :: parameters, []) ∧
    HandsBack parameters self.message.payload

theorem done_fits {bytes : Bytes} {done : Done} (read : Reads Done.get bytes done) :
    done.affectedRows ≤ u64Max := by
  have outcome := read []
  obtain ⟨_, _, _, second⟩ := of_bind_ok outcome
  obtain ⟨_, _, _, third⟩ := of_bind_ok second
  obtain ⟨count, _, counted, same⟩ := of_bind_ok third
  cases same
  obtain ⟨digits, _, length, rfl⟩ := le_ok counted
  have small := leNat_lt digits
  rw [length] at small
  exact Nat.le_sub_one_of_lt small

theorem rowCount_fits {columns : List MssqlColumn} {done : Done} {bytes : Bytes}
    (is : IsToken columns (.done done) bytes) : (ResponseToken.done done).rowCount ≤ u64Max := by
  cases is with
  | done _ read =>
    rw [ResponseToken.rowCount]
    split_ifs
    · exact done_fits read
    · exact Nat.zero_le _

theorem HandsBack.output {parameters : List RpcParameter} {payload : Bytes}
    (back : HandsBack parameters payload) : ∃ output row,
      parseQueryResponse payload = .ok output ∧ output.rows = [row] ∧
        ∀ (index : Nat) parameter, parameters[index]? = some parameter → ∃ typeInfo,
          (MssqlTypeInfo.fromProtocol parameter.typeInfo : Outcome BoxDynError MssqlTypeInfo) =
            .ok typeInfo ∧ row.tryGetRaw index = .ok ⟨typeInfo, parameter.value⟩ := by
  obtain ⟨columns, nullable, values, done, stream, each⟩ := back
  have counted : rowCountOf [.colMetaData columns, .row nullable values, .done done] ≤ u64Max := by
    cases stream with
    | cons _ behind =>
      cases behind with
      | cons _ behind =>
        cases behind with
        | cons last _ => simpa [rowCountOf, ResponseToken.rowCount] using rowCount_fits last
  have supported : ∀ token ∈ [ResponseToken.colMetaData columns, .row nullable values, .done done],
      token.Supported := by
    simp [ResponseToken.Supported]
  have parsed := (parseQueryResponse_ok_iff payload _).mpr ⟨_, stream, supported, counted, rfl⟩
  have rows : rowsOf [] [.colMetaData columns, .row nullable values, .done done] =
      [.newShared columns values] := rfl
  have full := (rows_complete (by rfl : Numbered []) stream (.newShared columns values)
    (by rw [rows]; exact List.mem_singleton_self _)).2
  refine ⟨_, .newShared columns values, parsed, rfl, fun index parameter found => ?_⟩
  obtain ⟨inside, rfl⟩ := List.getElem?_eq_some_iff.mp found
  have there : index < values.length := each.length_eq ▸ inside
  obtain ⟨typeInfo, named, same⟩ := each.get inside there
  obtain ⟨value, here, raw⟩ := MssqlRow.tryGetRaw_ok full (full ▸ there)
  refine ⟨typeInfo, named, ?_⟩
  have sameValue : value = values[index] :=
    Option.some.inj (here.symm.trans (List.getElem?_eq_getElem there))
  rw [raw, sameValue]
  exact congrArg Outcome.ok same

end answers

theorem body_unique {descriptor other : UInt64} {body otherBody : Bytes}
    (same : allHeaders descriptor ++ rpcHeader 10 ++ body =
      allHeaders other ++ rpcHeader 10 ++ otherBody) : body = otherBody := by
  have length : ∀ descriptor, (allHeaders descriptor ++ rpcHeader 10).length = 28 := by
    intro descriptor
    simp [allHeaders, rpcHeader]
  exact (List.append_inj same (by rw [length, length])).2

theorem added_of_bound {values : List EncodeValue} {arguments : MssqlArguments}
    (done : bound values = .ok (some arguments)) : Added values arguments := by
  induction values using List.reverseRecOn generalizing arguments with
  | nil =>
    rw [bound, List.foldl_nil] at done
    cases done
    exact .empty
  | append_singleton values value ih =>
    rw [bound, List.foldl_append, List.foldl_cons, List.foldl_nil] at done
    rw [bound] at ih
    generalize values.foldl bind (.ok (some .default)) = taken at done ih
    cases taken with
    | error source => cases done
    | ok before =>
      cases before with
      | none => cases done
      | some before =>
        rw [bind] at done
        split at done
        next next added =>
          cases done
          exact .add (ih rfl) added
        next => cases done

/-- The connection is open, no rollback is queued, and the next answer fits its packets. -/
structure Dialogue.Awaits (dialogue : Dialogue) (stream : MssqlWireStream) (answer : Answer) : Prop where
  idle : dialogue.conn.pendingRollbackSql = none
  found : dialogue.conn.stream = some stream
  opened : stream.stream ≠ .taken
  next : ∃ later, dialogue.answers = answer :: later
  admitted : stream.Admits answer.packets

section executing
variable [ErrorDisplay]

theorem Dialogue.Awaits.execute {dialogue : Dialogue} {stream : MssqlWireStream} {answer : Answer}
    (awaits : dialogue.Awaits stream answer) {sql : String} {arguments : MssqlArguments}
    (nonempty : arguments.isEmpty = false) {bytes : Bytes}
    (sent : buildExecuteSqlPacket sql arguments stream.packetSize
      dialogue.conn.transactionDescriptor = .ok bytes) {output : QueryOutput}
    (told : answer.message.output? = some output) :
    (idealPort.execute sql (some arguments) dialogue).1 = .ok output := by
  obtain ⟨later, next⟩ := awaits.next
  have flushed : idealPort.flush dialogue = (.ok (), dialogue) := by
    have looked : (Async.get : Async Error Dialogue Dialogue) dialogue = (.ok dialogue, dialogue) := rfl
    have idle : (idealPort.conn dialogue).pendingRollbackSql = none := awaits.idle
    rw [Port.flush, Async.bind_ok looked, idle]
    rfl
  have built : (executeRequest sql (some arguments)).packet stream.packetSize
      dialogue.conn.transactionDescriptor = .ok bytes := by
    rw [executeRequest, nonempty]
    change (buildExecuteSqlPacket sql arguments stream.packetSize
      dialogue.conn.transactionDescriptor).mapErr _ = _
    rw [sent]
    rfl
  have admitted : stream.stream ≠ .taken ∧ stream.Admits answer.packets :=
    ⟨awaits.opened, awaits.admitted⟩
  have outcome := (outcome_ok_iff answer.message
    (executeRequest sql (some arguments)).operation output).mpr told
  rw [Port.execute, Async.bind_ok flushed]
  change (Dialogue.ask (executeRequest sql (some arguments)) dialogue).1 = _
  rw [ask_opened awaits.found, built, next]
  change (Dialogue.answered (executeRequest sql (some arguments)) stream (answer :: later) dialogue).1 = _
  rw [Dialogue.answered, if_pos admitted, outcome]
  rfl

variable [DecimalParts] [NumBigint] [UuidCrate] [NoneEncoding]

/-- Values of any of the driver's types that are bound to a query and handed back by the server come
back: however the transport delivers the answer, its row has a column for each value, in order, which
is decoded to the value again, up to the precision of the wire. -/
theorem values_come_back {sql : String} {values : List DriverValue} {arguments : MssqlArguments}
    {dialogue : Dialogue} {world : World} {stream : MssqlWireStream} {answer : Answer} {bytes : Bytes}
    (fits : ∀ value ∈ values, value.Fits) (nonempty : values ≠ [])
    (taken : bound (values.map DriverValue.encodeValue) = .ok (some arguments))
    (tracks : Tracks dialogue world) (awaits : dialogue.Awaits stream answer)
    (sent : buildExecuteSqlPacket sql arguments stream.packetSize
      dialogue.conn.transactionDescriptor = .ok bytes)
    (echoes : answer.Echoes bytes) : ∃ row after,
      fetchOptional runExecuteSql sql (bound (values.map DriverValue.encodeValue)) world =
        (.ok (some row), after) ∧ after.link.incoming = [] ∧
      ∀ (index : Nat) value, values[index]? = some value → ∃ received,
        row.tryGetRaw index = .ok received ∧ value.ReadFrom received := by
  have added := added_of_bound taken
  obtain ⟨body, text, declared, parameters, decoded, read, _, _, count, carry⟩ :=
    call_arrives (fun value there => DriverValue.readsAs (fits value there)) added nonempty sent
  obtain ⟨tabular, descriptor, otherBody, otherText, otherDeclared, found, decodedAgain, readAgain,
    back⟩ := echoes
  have messages := Option.some.inj (Except.ok.inj (decodedAgain.symm.trans decoded))
  obtain rfl := body_unique (congrArg PacketMessage.payload messages)
  have sameParameters := (Prod.mk.inj (Outcome.ok.inj (readAgain.symm.trans read))).1
  obtain ⟨rfl, others⟩ := List.cons.inj sameParameters
  obtain ⟨rfl, rfl⟩ := List.cons.inj others
  obtain ⟨output, row, parsed, rows, each⟩ := back.output
  have told : answer.message.output? = some output := by
    have table : answer.message.packetType = .tabularResult := tabular
    rw [WireMessage.output?, if_pos table, parsed]
  have filled : arguments.isEmpty = false := by
    have positive := List.length_pos_iff.mpr nonempty
    simp only [MssqlArguments.isEmpty, added.length, List.length_map, beq_eq_false_iff_ne]
    omega
  have executed := awaits.execute filled sent told
  have spoken : (idealPort.execute sql (some arguments) dialogue).1 ≠ .dropped := by
    rw [executed]
    simp
  obtain ⟨after, same, tracked⟩ :=
    (wirePort_refines.execute sql (some arguments) dialogue world tracks).resolve_left spoken
  have ran : runExecuteSql sql (some arguments) world = (.ok output, after) :=
    same.trans (by rw [executed])
  have fetched : executeTaken runExecuteSql sql (.ok (some arguments)) world = (.ok output, after) := by
    rw [executeTaken, Async.mapErr, ran]
  refine ⟨row, after, ?_, tracked.drained, fun index value here => ?_⟩
  · rw [taken, fetchOptional, Async.bind_ok fetched, rows]
    rfl
  · obtain ⟨inside, _⟩ := List.getElem?_eq_some_iff.mp here
    have there := List.getElem?_eq_getElem (count ▸ inside)
    obtain ⟨typeInfo, named, raw⟩ := each index _ there
    obtain ⟨_, _, otherInfo, otherNamed, reads⟩ := carry index _ value there here
    obtain rfl := Outcome.ok.inj (named.symm.trans otherNamed)
    exact ⟨_, raw, reads⟩

end executing
section samples

def dayAndKey : List (@DriverValue documentedParts BigDecimal.documentedBytes documentedUuids) :=
  let _ := documentedParts
  let _ := documentedUuids
  [.chrono (.naiveDate .year1900),
    .uuid (⟨[0, 1, 2, 3, 4, 5, 6, 7, 8, 9, 10, 11, 12, 13, 14, 15], by decide⟩ : Uuid128)]

def keyBytes : Bytes := [3, 2, 1, 0, 5, 4, 7, 6, 8, 9, 10, 11, 12, 13, 14, 15]

def dayAndKeyArguments : MssqlArguments where
  len := 2
  data := [3, 64, 0, 112, 0, 49, 0, 0, 40, 3, 91, 149, 10,
    3, 64, 0, 112, 0, 50, 0, 0, 36, 16, 16] ++ keyBytes
  declarations := "@p1 date,@p2 uniqueidentifier"

def dayAndKeyBody : Bytes :=
  [0, 0, 231, 2, 0, 129, 4, 208, 0, 52, 2, 0, 120, 0, 0, 0, 231, 58, 0, 129, 4, 208, 0, 52, 58, 0] ++
    (unitBytes (encodeUtf16 dayAndKeyArguments.declarations) ++ dayAndKeyArguments.data)

def dayAndKeyRequest : Bytes :=
  [3, 1, 0, 160, 0, 0, 1, 0] ++ (allHeaders 0 ++ rpcHeader 10 ++ dayAndKeyBody)

def dayAndKeyParameters : List RpcParameter :=
  let text (size : Nat) : TypeInfo := ⟨.nVarChar, size, 0, 0, some defaultCollationInfo⟩
  [⟨"", 0, text 2, some [120, 0]⟩,
    ⟨"", 0, text 58, some (unitBytes (encodeUtf16 dayAndKeyArguments.declarations))⟩,
    ⟨"@p1", 0, .new .dateN 3, some [91, 149, 10]⟩,
    ⟨"@p2", 0, .new .guid 16, some keyBytes⟩]

def dayAndKeyAnswer : Answer :=
  .single ([0x81, 2, 0, 0, 0, 0, 0, 0, 0, 40, 0, 0, 0, 0, 0, 0, 0, 36, 16, 0] ++
    (([0xd1, 3, 91, 149, 10, 16] ++ keyBytes) ++ doneBytes)) (by decide)

def dayColumn : MssqlColumn :=
  .new 0 "" ⟨.date, true, some 3, some (.new .dateN 3)⟩

def keyColumn : MssqlColumn :=
  .new 1 "" ⟨.uniqueIdentifier, true, some 16, some (.new .guid 16)⟩

def dayValue : MssqlValue := .new dayColumn.typeInfo (some [91, 149, 10])

def keyValue : MssqlValue := .new keyColumn.typeInfo (some keyBytes)

def dayAndKeyDialogue : Dialogue where
  conn := (World.fresh []).conn
  answers := [dayAndKeyAnswer]
  asked := []

/-- A column without a name is described by its type. -/
theorem reads_nameless {typeInfo : TypeInfo} {bytes : Bytes} (typed : Reads TypeInfo.get bytes typeInfo) :
    Reads ColumnData.get ([0, 0, 0, 0] ++ ([0, 0] ++ (bytes ++ [0])))
      { userType := 0, flags := .fromBitsTruncate 0, typeInfo, colName := "" } := by
  have name : Reads Read.readBVarchar [0] "" := reads_bVarchar "" (by decide)
  exact (reads_le Read.ended [0, 0, 0, 0]).bind ((reads_le Read.ended [0, 0]).bind
    ((typed.mapErr _).bind fun rest => bind_ok (name rest) _))

theorem dayAndKeyAnswer_handsBack :
    HandsBack (dayAndKeyParameters.drop 2) dayAndKeyAnswer.message.payload := by
  have dayTyped : Reads TypeInfo.get [40] (.new .dateN 3) := fun _ => rfl
  have keyTyped : Reads TypeInfo.get [36, 16] (.new .guid 16) := fun _ => rfl
  have day : IsColumn 0 [0, 0, 0, 0, 0, 0, 40, 0] dayColumn :=
    ⟨_, _, reads_nameless dayTyped, rfl, rfl⟩
  have key : IsColumn 1 [0, 0, 0, 0, 0, 0, 36, 16, 0] keyColumn :=
    ⟨_, _, reads_nameless keyTyped, rfl, rfl⟩
  have dayRead : IsValue false [] (dayColumn, 0) [3, 91, 149, 10] dayValue :=
    .inr ⟨rfl, .new .dateN 3, _, rfl, fun _ => rfl, rfl⟩
  have keyRead : IsValue false [] (keyColumn, 1) (16 :: keyBytes) keyValue :=
    .inr ⟨rfl, .new .guid 16, _, rfl, fun _ => rfl, rfl⟩
  have last : Reads Done.get [0, 0, 0, 0, 0, 0, 0, 0, 0, 0, 0, 0] _ :=
    (reads_le Read.ended [0, 0]).bind ((reads_le Read.ended [0, 0]).bind
      fun rest => bind_ok (reads_le Read.ended [0, 0, 0, 0, 0, 0, 0, 0] rest) _)
  have metadata : IsToken [] (.colMetaData [dayColumn, keyColumn])
      [0x81, 2, 0, 0, 0, 0, 0, 0, 0, 40, 0, 0, 0, 0, 0, 0, 0, 36, 16, 0] :=
    @IsToken.colMetaData [] 2 _ _ (by decide) (.cons day (.cons key .nil))
  have row : IsToken [dayColumn, keyColumn] (.row false [dayValue, keyValue])
      ([0xd1, 3, 91, 149, 10, 16] ++ keyBytes) :=
    .row ⟨[], _, rfl, rfl, .cons dayRead (.cons keyRead .nil)⟩
  have done : IsToken [dayColumn, keyColumn] (.done _) doneBytes := .done (by decide) last
  have stream := IsStream.cons metadata (IsStream.cons row (IsStream.cons done .nil))
  exact ⟨_, _, _, _, stream, .cons ⟨_, rfl, rfl⟩ (.cons ⟨_, rfl, rfl⟩ .nil)⟩

theorem dayAndKeyAnswer_echoes : dayAndKeyAnswer.Echoes dayAndKeyRequest := by
  have decoded : tryDecodeMessage dayAndKeyRequest =
      .ok (some ⟨.rpc, allHeaders 0 ++ rpcHeader 10 ++ dayAndKeyBody, dayAndKeyRequest.length⟩) := by
    decide +kernel
  have read : RpcParameter.getAll dayAndKeyBody = .ok (dayAndKeyParameters, []) := by decide +kernel
  exact ⟨rfl, 0, dayAndKeyBody, _, _, _, decoded, read, dayAndKeyAnswer_handsBack⟩

/-- A day and a UUID that are selected come back as themselves. -/
theorem values_come_back_dayAndKey : ∃ row after,
    fetchOptional runExecuteSql "x" (.ok (some dayAndKeyArguments)) (.fresh [dayAndKeyAnswer.bytes]) =
      (.ok (some row), after) ∧
    ∀ (index : Nat) value, dayAndKey[index]? = some value → ∃ received,
      row.tryGetRaw index = .ok received ∧
        @DriverValue.ReadFrom documentedParts _ documentedUuids value received := by
  let _ := documentedParts
  let _ := documentedUuids
  let _ := typedNone
  have fits : ∀ value ∈ dayAndKey, value.Fits := by
    intro value there
    rw [dayAndKey, List.mem_cons, List.mem_singleton] at there
    rcases there with rfl | rfl
    · exact (by decide : NaiveDate.year1900.Fits)
    · exact trivial
  have taken : bound (dayAndKey.map DriverValue.encodeValue) = .ok (some dayAndKeyArguments) := by
    rw [bound]
    decide
  have tracks : Tracks dayAndKeyDialogue (.fresh [dayAndKeyAnswer.bytes]) :=
    ⟨rfl, fun _ member => absurd member List.not_mem_nil, rfl, rfl, rfl⟩
  have awaits : dayAndKeyDialogue.Awaits _ dayAndKeyAnswer :=
    ⟨rfl, rfl, by decide, ⟨[], rfl⟩, by decide⟩
  have sent : buildExecuteSqlPacket "x" dayAndKeyArguments 4096 0 = .ok dayAndKeyRequest := by
    decide +kernel
  obtain ⟨row, after, fetched, _, each⟩ :=
    values_come_back fits (List.cons_ne_nil _ _) taken tracks awaits sent dayAndKeyAnswer_echoes
  rw [taken] at fetched
  exact ⟨row, after, fetched, each⟩

end samples
end SqlxSqlserver.Driver

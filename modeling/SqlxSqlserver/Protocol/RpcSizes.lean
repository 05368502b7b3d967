import SqlxSqlserver.Protocol.RpcRoundTrip

/-! Which requests are sent with legal parameter sizes. User values switch to `(max)` above 8000
bytes, but the texts of the statement and of the declarations are sized by their own length, so
a longer text is declared with an illegal size, or refused. -/

namespace SqlxSqlserver.Protocol
open Foundation Reader Driver

/-- The request is built, and every text or binary parameter in it declares a legal size. -/
def SentLegally (request : Outcome RpcPacketError Bytes) : Prop :=
  ∃ bytes payload parameters, request = .ok bytes ∧
    tryDecodeMessage bytes = .ok (some ⟨.rpc, payload, bytes.length⟩) ∧
    RpcParameter.getAll (payload.drop 28) = .ok (parameters, []) ∧
    ∀ parameter ∈ parameters, parameter.typeInfo.LegalSize

section pieces

def textBytes (text : String) : Bytes :=
  [0] ++ ([0] ++ ([dataTypeNVarChar] ++ (leBytes 2 (textSize text) ++ defaultCollation) ++
    (leBytes 2 (unitBytes (encodeUtf16 text)).length ++ unitBytes (encodeUtf16 text))))

theorem textBytes_length (text : String) :
    (textBytes text).length = 12 + (unitBytes (encodeUtf16 text)).length := by
  simp only [textBytes, List.length_append, leBytes_length, List.length_cons, List.length_nil,
    defaultCollation]
  omega

theorem writes_text {text : String} (fits : textSize text < 65536) :
    (writeNvarcharParameter "" text).Writes (textBytes text) () := by
  have number : (UInt16.ofNat (textSize text)).toNat = textSize text := by
    rw [UInt16.toNat_ofNat', Nat.mod_eq_of_lt fits]
  have small : (unitBytes (encodeUtf16 text)).length < 65536 :=
    (Nat.le_max_right _ _).trans_lt fits
  have count : (UInt16.ofNat (unitBytes (encodeUtf16 text)).length).toNat =
      (unitBytes (encodeUtf16 text)).length := by
    rw [UInt16.toNat_ofNat', Nat.mod_eq_of_lt small]
  have typed : (writeTypeInfo .nVarChar (unitBytes (encodeUtf16 text)).length false).Writes
      ([dataTypeNVarChar] ++ (leBytes 2 (textSize text) ++ defaultCollation)) () := by
    have size : nvarcharTypeSize .nVarChar (unitBytes (encodeUtf16 text)).length false =
        .ok (UInt16.ofNat (textSize text)) := if_pos fits
    rw [← number]
    change Put.Writes (do
      Put.emit [dataTypeNVarChar]
      let size ← Put.lift (nvarcharTypeSize .nVarChar (unitBytes (encodeUtf16 text)).length false)
      Put.emit (leBytes 2 size.toNat)
      Put.emit defaultCollation : Put BoxDynError Unit) _ _
    rw [size]
    rfl
  have valued : (writeParamLenData .nVarChar (unitBytes (encodeUtf16 text)) false).Writes
      (leBytes 2 (unitBytes (encodeUtf16 text)).length ++ unitBytes (encodeUtf16 text)) () := by
    have len : u16TryFrom (unitBytes (encodeUtf16 text)).length =
        .ok (UInt16.ofNat (unitBytes (encodeUtf16 text)).length) := if_pos small
    have header : writeParamLen .nVarChar (unitBytes (encodeUtf16 text)) false = (do
        let len ← Put.lift (u16TryFrom (unitBytes (encodeUtf16 text)).length)
        Put.emit (leBytes 2 len.toNat)) := rfl
    have present : (!false) = true ∧ MssqlTypeInfo.nVarChar.size ≠ some u16Max := by decide
    rw [writeParamLenData, header, len, if_pos present]
    change Put.Writes (do
      Put.emit (leBytes 2 (UInt16.ofNat (unitBytes (encodeUtf16 text)).length).toNat)
      Put.emit (unitBytes (encodeUtf16 text))) _ _
    rw [count]
    rfl
  have named : (writeBVarchar "").Writes [0] () := rfl
  exact Put.Writes.bind named (Put.Writes.bind (Put.writes_emit [0]) (Put.Writes.bind typed valued))

def utf16Len (text : String) : Nat := 2 * (encodeUtf16 text).length

theorem textSize_eq (text : String) : textSize text = max 2 (utf16Len text) := by
  rw [textSize, unitBytes_length, utf16Len]

/-- A text parameter is legal exactly when the text is at most 8000 bytes long. -/
theorem text_legal_iff {text : String} {typeInfo : TypeInfo} (sort : typeInfo.ty = .nVarChar)
    (size : typeInfo.size = textSize text) : typeInfo.LegalSize ↔ utf16Len text ≤ 8000 := by
  rw [textSize_eq] at size
  constructor
  · intro legal
    rcases legal (.inl sort) with small | max
    · omega
    · rw [utf16Len] at size ⊢
      omega
  · intro small _
    left
    omega

theorem text_reads {text : String} (fits : textSize text < 65536) : ∃ parameter : RpcParameter,
    ((textBytes text).length ≤ isizeMax → Reads RpcParameter.get (textBytes text) parameter) ∧
      (parameter.typeInfo.LegalSize ↔ utf16Len text ≤ 8000) := by
  have short : (encodeUtf16 "").length ≤ 255 := by decide
  obtain ⟨wire, sort, size, _, bytes, writes, reads⟩ := text_travels short text fits
  obtain ⟨rfl, _⟩ := Put.mk.inj ((writes_text fits).symm.trans writes)
  exact ⟨_, reads, text_legal_iff sort size⟩

end pieces

section framing

def framedSize (length packetSize : Nat) : Nat :=
  length + (length + (packetSize - packetHeaderLen) - 1) / (packetSize - packetHeaderLen) *
    packetHeaderLen

theorem framedLength_eq {payload : Bytes} (nonempty : payload ≠ []) (packetSize : Nat) :
    framedLength payload packetSize = framedSize payload.length packetSize := by
  have notEmpty : ¬payload.isEmpty = true := fun same => nonempty (List.isEmpty_iff.mp same)
  rw [framedLength, packetCount, if_neg notEmpty, framedSize]

/-- A request whose payload was written is sent legally exactly when it fits a vector and its
parameters are legal. -/
theorem sentLegally_iff {payload : Put BoxDynError Unit} {procedureId packetSize : Nat}
    {transactionDescriptor : UInt64} {pieces : List Bytes} {parameters : List RpcParameter}
    (lower : packetHeaderLen < packetSize) (upper : packetSize ≤ maxPacketLen)
    (writes : payload.Writes
      (allHeaders transactionDescriptor ++ rpcHeader procedureId ++ pieces.flatten) ())
    (each : List.Forall₂ (fun piece parameter =>
      piece.length ≤ isizeMax → Reads RpcParameter.get piece parameter) pieces parameters) :
    SentLegally (frameRpc payload packetSize) ↔
      framedSize (28 + pieces.flatten.length) packetSize ≤ isizeMax ∧
        ∀ parameter ∈ parameters, parameter.typeInfo.LegalSize := by
  have headerLength : (allHeaders transactionDescriptor ++ rpcHeader procedureId).length = 28 := by
    simp [rpcHeader]
  have written : framedLength
      (allHeaders transactionDescriptor ++ rpcHeader procedureId ++ pieces.flatten) packetSize =
      framedSize (28 + pieces.flatten.length) packetSize := by
    rw [framedLength_eq, List.length_append, headerLength]
    intro empty
    have none := congrArg List.length (List.append_eq_nil_iff.mp empty).1
    rw [headerLength] at none
    cases none
  have body : (allHeaders transactionDescriptor ++ rpcHeader procedureId ++ pieces.flatten).drop 28 =
      pieces.flatten := by
    rw [← headerLength, List.drop_left]
  have readBack (fits : framedSize (28 + pieces.flatten.length) packetSize ≤ isizeMax) :
      RpcParameter.getAll pieces.flatten = .ok (parameters, []) := by
    apply reads_all each
    rw [framedSize] at fits
    omega
  constructor
  · rintro ⟨bytes, sent, others, framed, decoded, read, legal⟩
    obtain ⟨content, writesContent, encoded⟩ := frameRpc_ok_iff.mp framed
    obtain ⟨rfl, _⟩ := Put.mk.inj (writes.symm.trans writesContent)
    have fits := ((encodeMessage_ok_iff _ _ _).mp ⟨bytes, encoded⟩).2.2
    rw [written] at fits
    have message := tryDecodeMessage_encoded encoded []
    rw [List.append_nil, decoded] at message
    obtain ⟨_, rfl, _⟩ := PacketMessage.mk.inj (Option.some.inj (Except.ok.inj message))
    rw [body, readBack fits] at read
    cases read
    exact ⟨fits, legal⟩
  · rintro ⟨fits, legal⟩
    obtain ⟨bytes, encoded⟩ := (encodeMessage_ok_iff .rpc _ packetSize).mpr
      ⟨lower, upper, written.trans_le fits⟩
    have message := tryDecodeMessage_encoded encoded []
    rw [List.append_nil] at message
    exact ⟨bytes, _, parameters, frameRpc_ok_iff.mpr ⟨_, writes, encoded⟩, message,
      body ▸ readBack fits, legal⟩

theorem writes_of_sentLegally {payload : Put BoxDynError Unit} {packetSize : Nat}
    (sent : SentLegally (frameRpc payload packetSize)) : ∃ written, payload.Writes written () := by
  obtain ⟨bytes, _, _, framed, _⟩ := sent
  obtain ⟨written, writes, _⟩ := frameRpc_ok_iff.mp framed
  exact ⟨written, writes⟩

end framing

section requests
variable {packetSize : Nat}

def executeSqlLength (sql : String) (arguments : MssqlArguments) : Nat :=
  28 + (12 + utf16Len sql + if arguments.isEmpty then 0 else
    12 + utf16Len arguments.declarations + arguments.data.length)

theorem textSize_lt {text : String} (small : utf16Len text ≤ 8000) : textSize text < 65536 := by
  rw [textSize_eq]
  omega

theorem textBytes_length_eq (text : String) : (textBytes text).length = 12 + utf16Len text := by
  rw [textBytes_length, unitBytes_length, utf16Len]

theorem executeSql_legal_of_empty {arguments : MssqlArguments} (empty : arguments.isEmpty = true)
    (sql : String) (lower : packetHeaderLen < packetSize) (upper : packetSize ≤ maxPacketLen)
    (transactionDescriptor : UInt64) :
    SentLegally (buildExecuteSqlPacket sql arguments packetSize transactionDescriptor) ↔
      utf16Len sql ≤ 8000 ∧ framedSize (executeSqlLength sql arguments) packetSize ≤ isizeMax := by
  have header := writes_rpcHeader procedureIdExecuteSql transactionDescriptor
  by_cases fits : textSize sql < 65536
  · obtain ⟨parameter, reads, legalIff⟩ := text_reads fits
    have writes : (executeSqlPayload sql arguments transactionDescriptor).Writes
        (allHeaders transactionDescriptor ++ rpcHeader procedureIdExecuteSql ++
          [textBytes sql].flatten) () := by
      rw [List.flatten_singleton, ← List.append_nil (textBytes sql), executeSqlPayload, empty]
      exact Put.Writes.bind header (Put.Writes.bind (writes_text fits) (Put.writes_pure ()))
    have sent := sentLegally_iff lower upper writes (.cons reads .nil)
    rw [buildExecuteSqlPacket, sent, executeSqlLength, if_pos empty, List.flatten_singleton,
      textBytes_length_eq, Nat.add_zero]
    simp only [List.mem_singleton, forall_eq, legalIff, and_comm]
  · refine iff_of_false (fun sent => ?_) fun small => fits (textSize_lt small.1)
    obtain ⟨written, writes⟩ := writes_of_sentLegally sent
    obtain ⟨_, _, _, _, _, others⟩ := Put.Writes.of_bind writes
    obtain ⟨_, _, _, _, sqlWrites, _⟩ := Put.Writes.of_bind others
    exact fits (textSize_of_writes sqlWrites)

theorem executeSql_legal_of_built [NoneEncoding] {values : List Argument}
    {arguments : MssqlArguments} (built : Built values arguments)
    (some : ¬arguments.isEmpty = true) (sql : String) (lower : packetHeaderLen < packetSize)
    (upper : packetSize ≤ maxPacketLen) (transactionDescriptor : UInt64) :
    SentLegally (buildExecuteSqlPacket sql arguments packetSize transactionDescriptor) ↔
      utf16Len sql ≤ 8000 ∧ utf16Len arguments.declarations ≤ 8000 ∧
        framedSize (executeSqlLength sql arguments) packetSize ≤ isizeMax := by
  obtain ⟨_, pieces, parameters, data, each, _, legal⟩ := built_carries built
  have header := writes_rpcHeader procedureIdExecuteSql transactionDescriptor
  have given : (!arguments.isEmpty) = true := by simp [some]
  by_cases fits : textSize sql < 65536 ∧ textSize arguments.declarations < 65536
  · obtain ⟨parameter, reads, legalIff⟩ := text_reads fits.1
    obtain ⟨declared, declaredReads, declaredIff⟩ := text_reads fits.2
    have writes : (executeSqlPayload sql arguments transactionDescriptor).Writes
        (allHeaders transactionDescriptor ++ rpcHeader procedureIdExecuteSql ++
          (textBytes sql :: textBytes arguments.declarations :: pieces).flatten) () := by
      rw [List.flatten_cons, List.flatten_cons, ← data, executeSqlPayload, if_pos given]
      exact Put.Writes.bind header (Put.Writes.bind (writes_text fits.1)
        (Put.Writes.bind (writes_text fits.2) (Put.writes_emit _)))
    have sent := sentLegally_iff lower upper writes (.cons reads (.cons declaredReads each))
    have length : (textBytes sql :: textBytes arguments.declarations :: pieces).flatten.length =
        12 + utf16Len sql + (12 + utf16Len arguments.declarations + arguments.data.length) := by
      rw [List.flatten_cons, List.flatten_cons, ← data, List.length_append, List.length_append,
        textBytes_length_eq, textBytes_length_eq]
    rw [buildExecuteSqlPacket, sent, executeSqlLength, if_neg some, length]
    simp only [List.mem_cons, forall_eq_or_imp, legalIff, declaredIff]
    constructor
    · rintro ⟨size, small, declaredSmall, _⟩
      exact ⟨small, declaredSmall, size⟩
    · rintro ⟨small, declaredSmall, size⟩
      exact ⟨size, small, declaredSmall, legal⟩
  · refine iff_of_false (fun sent => ?_) fun small =>
      fits ⟨textSize_lt small.1, textSize_lt small.2.1⟩
    obtain ⟨written, writes⟩ := writes_of_sentLegally sent
    obtain ⟨_, _, _, _, _, others⟩ := Put.Writes.of_bind writes
    obtain ⟨_, _, _, _, sqlWrites, others⟩ := Put.Writes.of_bind others
    rw [if_pos given] at others
    obtain ⟨_, _, _, _, declarationsWrites, _⟩ := Put.Writes.of_bind others
    exact fits ⟨textSize_of_writes sqlWrites, textSize_of_writes declarationsWrites⟩

end requests

section prepare
variable {packetSize : Nat}

theorem parameterDeclarationsFrom_ok {parameters : List MssqlTypeInfo}
    (accepted : ∀ typeInfo ∈ parameters, ∃ text, typeDeclaration typeInfo = .ok text)
    (index : Nat) (declarations : String) :
    ∃ text, parameterDeclarationsFrom index declarations parameters = .ok text := by
  induction parameters generalizing index declarations with
  | nil => exact ⟨_, rfl⟩
  | cons typeInfo rest ih =>
    obtain ⟨text, declared⟩ := accepted typeInfo (List.mem_cons_self ..)
    rw [parameterDeclarationsFrom, declared]
    exact ih (fun other member => accepted other (List.mem_cons_of_mem _ member)) _ _

def i32Bytes (status : UInt8) (value : Int) : Bytes :=
  [0] ++ ([status] ++ ([dataTypeIntN, 4] ++ ([4] ++ intBytes 4 value)))

theorem writes_i32 (status : UInt8) (value : Int) :
    (writeParameterWithStatus "" status .int (intBytes 4 value) false).Writes
      (i32Bytes status value) () := rfl

def nullTextBytes : Bytes :=
  [0] ++ ([0] ++ ([dataTypeNVarChar] ++ (leBytes 2 2 ++ defaultCollation) ++ leBytes 2 0xffff))

theorem writes_nullText : (writeNullNvarcharParameter "").Writes nullTextBytes () := rfl

theorem i32_reads (status : UInt8) (value : Int) : ∃ parameter : RpcParameter,
    ((i32Bytes status value).length ≤ isizeMax →
      Reads RpcParameter.get (i32Bytes status value) parameter) ∧ parameter.typeInfo.LegalSize := by
  have short : (encodeUtf16 "").length ≤ 255 := by decide
  have number : numberType MssqlTypeInfo.int.kind = some (.intN, 4) := rfl
  have sized : 0 < (intBytes 4 value).length ∧ (intBytes 4 value).length < 255 := by
    rw [intBytes_length]
    decide
  obtain ⟨bytes, writes, reads⟩ := travels_number short status number rfl fun _ => sized
  obtain ⟨rfl, _⟩ := Put.mk.inj ((writes_i32 status value).symm.trans writes)
  exact ⟨_, reads, (numberType_wire number).1⟩

theorem nullText_reads : ∃ parameter : RpcParameter, (nullTextBytes.length ≤ isizeMax →
    Reads RpcParameter.get nullTextBytes parameter) ∧ parameter.typeInfo.LegalSize := by
  have short : (encodeUtf16 "").length ≤ 255 := by decide
  obtain ⟨wire, ⟨bytes, writes, reads⟩, legal, _⟩ := sized_null_travels short (.inl rfl)
  obtain ⟨rfl, _⟩ := Put.mk.inj (writes_nullText.symm.trans writes)
  exact ⟨_, reads, legal⟩

/-- A prepare request around the declarations parameter `piece`. -/
theorem prepare_legal_of_declared {sql : String} {parameters : List MssqlTypeInfo} {piece : Bytes}
    {parameter : RpcParameter} (lower : packetHeaderLen < packetSize)
    (upper : packetSize ≤ maxPacketLen) (transactionDescriptor : UInt64)
    (declared : (writeParameterDeclarations parameters).Writes piece ())
    (reads : piece.length ≤ isizeMax → Reads RpcParameter.get piece parameter) :
    SentLegally (buildPreparePacket sql parameters packetSize transactionDescriptor) ↔
      utf16Len sql ≤ 8000 ∧ parameter.typeInfo.LegalSize ∧
        framedSize (58 + piece.length + utf16Len sql) packetSize ≤ isizeMax := by
  have header := writes_rpcHeader procedureIdPrepare transactionDescriptor
  obtain ⟨handle, handleReads, handleLegal⟩ := i32_reads statusByRefValue 0
  obtain ⟨options, optionsReads, optionsLegal⟩ := i32_reads 0 1
  by_cases fits : textSize sql < 65536
  · obtain ⟨text, textReads, textIff⟩ := text_reads fits
    have writes : (preparePayload sql parameters transactionDescriptor).Writes
        (allHeaders transactionDescriptor ++ rpcHeader procedureIdPrepare ++
          [i32Bytes statusByRefValue 0, piece, textBytes sql, i32Bytes 0 1].flatten) () := by
      simp only [List.flatten_cons, List.flatten_nil, List.append_nil]
      exact Put.Writes.bind header (Put.Writes.bind (writes_i32 _ _) (Put.Writes.bind declared
        (Put.Writes.bind (writes_text fits) (writes_i32 _ _))))
    have sent := sentLegally_iff lower upper writes
      (.cons handleReads (.cons reads (.cons textReads (.cons optionsReads .nil))))
    have length : 28 + [i32Bytes statusByRefValue 0, piece, textBytes sql,
        i32Bytes 0 1].flatten.length = 58 + piece.length + utf16Len sql := by
      simp only [List.flatten_cons, List.flatten_nil, List.append_nil, List.length_append,
        textBytes_length_eq, i32Bytes, intBytes_length, List.length_cons, List.length_nil]
      omega
    rw [buildPreparePacket, sent, length]
    simp only [List.mem_cons, List.not_mem_nil, or_false, forall_eq_or_imp, forall_eq, textIff,
      handleLegal, optionsLegal, true_and, and_true]
    constructor
    · rintro ⟨size, legal, small⟩
      exact ⟨small, legal, size⟩
    · rintro ⟨small, legal, size⟩
      exact ⟨size, legal, small⟩
  · refine iff_of_false (fun sent => ?_) fun small => fits (textSize_lt small.1)
    obtain ⟨written, writes⟩ := writes_of_sentLegally sent
    obtain ⟨_, _, _, _, _, others⟩ := Put.Writes.of_bind writes
    obtain ⟨_, _, _, _, _, others⟩ := Put.Writes.of_bind others
    obtain ⟨_, _, _, _, _, others⟩ := Put.Writes.of_bind others
    obtain ⟨_, _, _, _, sqlWrites, _⟩ := Put.Writes.of_bind others
    exact fits (textSize_of_writes sqlWrites)

theorem framedSize_small {length : Nat} (small : length ≤ 2 ^ 20)
    (lower : packetHeaderLen < packetSize) : framedSize length packetSize ≤ isizeMax := by
  have positive : 0 < packetSize - packetHeaderLen := by omega
  have count : (length + (packetSize - packetHeaderLen) - 1) / (packetSize - packetHeaderLen) ≤
      length := by
    rw [← Nat.lt_succ_iff, Nat.div_lt_iff_lt_mul positive, Nat.succ_mul]
    have grows : length ≤ length * (packetSize - packetHeaderLen) := Nat.le_mul_of_pos_right _ positive
    omega
  rw [framedSize, isizeMax]
  rw [packetHeaderLen] at count ⊢
  omega

theorem prepare_legal_iff {parameters : List MssqlTypeInfo} {declarations : String}
    (declared : parameterDeclarations parameters = .ok declarations) (sql : String)
    (lower : packetHeaderLen < packetSize) (upper : packetSize ≤ maxPacketLen)
    (transactionDescriptor : UInt64) :
    SentLegally (buildPreparePacket sql parameters packetSize transactionDescriptor) ↔
      utf16Len sql ≤ 8000 ∧ (parameters = [] ∨ utf16Len declarations ≤ 8000) := by
  by_cases none : parameters = []
  · obtain ⟨parameter, reads, legal⟩ := nullText_reads
    have writes : (writeParameterDeclarations parameters).Writes nullTextBytes () := by
      rw [none]
      exact writes_nullText
    rw [prepare_legal_of_declared lower upper transactionDescriptor writes reads]
    simp only [none, true_or, and_true, legal, true_and]
    refine and_iff_left_of_imp fun small => framedSize_small ?_ lower
    have length : nullTextBytes.length = 12 := rfl
    omega
  · have some : ¬parameters.isEmpty = true := fun empty => none (List.isEmpty_iff.mp empty)
    have branch : writeParameterDeclarations parameters = writeNvarcharParameter "" declarations := by
      rw [writeParameterDeclarations, if_neg some, declared]
      rfl
    by_cases fits : textSize declarations < 65536
    · obtain ⟨parameter, reads, legalIff⟩ := text_reads fits
      have writes : (writeParameterDeclarations parameters).Writes (textBytes declarations) () :=
        branch ▸ writes_text fits
      rw [prepare_legal_of_declared lower upper transactionDescriptor writes reads, legalIff]
      simp only [none, false_or]
      refine and_congr_right fun small => and_iff_left_of_imp fun declaredSmall =>
        framedSize_small ?_ lower
      rw [textBytes_length_eq]
      omega
    · refine iff_of_false (fun sent => ?_) fun small => fits (textSize_lt (small.2.resolve_left none))
      obtain ⟨written, writes⟩ := writes_of_sentLegally sent
      obtain ⟨_, _, _, _, _, others⟩ := Put.Writes.of_bind writes
      obtain ⟨_, _, _, _, _, others⟩ := Put.Writes.of_bind others
      obtain ⟨_, _, _, _, declaredWrites, _⟩ := Put.Writes.of_bind others
      rw [branch] at declaredWrites
      exact fits (textSize_of_writes declaredWrites)

end prepare

/-- An `sp_executesql` call and a prepare request are built, with legal sizes throughout, exactly
when the statement and the declarations are at most 8000 bytes each; the call also has to fit
a vector. Neither the number nor the length of the arguments matters otherwise. -/
theorem requests_legal_iff [NoneEncoding] {values : List Argument} {arguments : MssqlArguments}
    (built : Built values arguments) (sql : String) {parameters : List MssqlTypeInfo}
    (accepted : ∀ typeInfo ∈ parameters, ∃ text, typeDeclaration typeInfo = .ok text)
    {packetSize : Nat} (lower : 8 < packetSize) (upper : packetSize ≤ 65535)
    (transactionDescriptor : UInt64) :
    (SentLegally (buildExecuteSqlPacket sql arguments packetSize transactionDescriptor) ↔
      utf16Len sql ≤ 8000 ∧ (values = [] ∨ utf16Len arguments.declarations ≤ 8000) ∧
        framedSize (executeSqlLength sql arguments) packetSize ≤ isizeMax) ∧
    ∃ declarations, parameterDeclarations parameters = .ok declarations ∧
      (SentLegally (buildPreparePacket sql parameters packetSize transactionDescriptor) ↔
        utf16Len sql ≤ 8000 ∧ (parameters = [] ∨ utf16Len declarations ≤ 8000)) := by
  obtain ⟨declarations, declared⟩ := parameterDeclarationsFrom_ok accepted 0 ""
  refine ⟨?_, declarations, declared,
    prepare_legal_iff declared sql lower upper transactionDescriptor⟩
  have count := (built_carries built).1
  by_cases none : values = []
  · have empty : arguments.isEmpty = true := by
      rw [MssqlArguments.isEmpty, count, none]
      rfl
    rw [executeSql_legal_of_empty empty sql lower upper transactionDescriptor]
    simp only [none, true_or, true_and]
  · have some : ¬arguments.isEmpty = true := by
      have positive := List.length_pos_iff.mpr none
      simp only [MssqlArguments.isEmpty, count, beq_iff_eq]
      omega
    rw [executeSql_legal_of_built built some sql lower upper transactionDescriptor]
    simp only [none, false_or]

theorem requests_legal_iff_select :
    SentLegally (buildExecuteSqlPacket "SELECT @p1, @p2" sevenAndNone 512 0) ∧
      ∃ declarations, parameterDeclarations [.int] = .ok declarations ∧
        SentLegally (buildPreparePacket "SELECT @p1, @p2" [.int] 512 0) := by
  let _ := typedNone
  have accepted : ∀ typeInfo ∈ [MssqlTypeInfo.int], ∃ text, typeDeclaration typeInfo = .ok text := by
    intro typeInfo member
    obtain rfl := List.mem_singleton.mp member
    exact ⟨_, rfl⟩
  obtain ⟨call, declarations, declared, prepare⟩ := requests_legal_iff built_sevenAndNone
    "SELECT @p1, @p2" accepted (by decide : 8 < 512) (by decide) 0
  cases declared
  exact ⟨call.mpr (by decide), _, rfl, prepare.mpr (by decide)⟩

theorem utf16Len_replicate (count : Nat) :
    utf16Len (String.ofList (List.replicate count 'x')) = 2 * count := by
  rw [utf16Len, encodeUtf16, String.toList_ofList]
  induction count with
  | zero => rfl
  | succ count ih =>
    rw [List.replicate_succ, List.flatMap_cons, List.length_append]
    change 2 * (1 + _) = _
    omega

/-- A statement of 8002 bytes is declared with an illegal size, and one of 65536 bytes is
refused. -/
theorem long_statement_not_sent :
    ¬SentLegally (buildExecuteSqlPacket (String.ofList (List.replicate 4001 'x')) .default 512 0) ∧
      ∃ error, buildExecuteSqlPacket (String.ofList (List.replicate 32768 'x')) .default 512 0 =
        .err error := by
  constructor
  · intro sent
    have small := ((executeSql_legal_of_empty rfl _ (by decide) (by decide) 0).mp sent).1
    rw [utf16Len_replicate] at small
    omega
  · rw [buildExecuteSqlPacket]
    cases outcome : (executeSqlPayload (String.ofList (List.replicate 32768 'x')) .default 0).result with
    | error error => exact ⟨.argument error, by rw [frameRpc, outcome]⟩
    | ok value =>
      have writes := Put.writes_iff.mpr ⟨rfl, outcome⟩
      obtain ⟨_, _, _, _, _, others⟩ := Put.Writes.of_bind writes
      obtain ⟨_, _, _, _, sqlWrites, _⟩ := Put.Writes.of_bind others
      have small := textSize_of_writes sqlWrites
      rw [textSize_eq, utf16Len_replicate] at small
      omega

end SqlxSqlserver.Protocol

import SqlxSqlserver.Driver.ScalarRoundTrip
import SqlxSqlserver.Protocol.PacketRoundTrip
import SqlxSqlserver.Protocol.RpcParameter
import Mathlib.Data.List.Forall2

/-! The whole way of an `sp_executesql` call: what is added to the arguments is framed, sent,
read parameter by parameter and decoded to the same values. -/

namespace SqlxSqlserver.Protocol
open Foundation Reader Driver

/-- A text or binary type declares at most 8000 bytes, or `(max)`. -/
def TypeInfo.LegalSize (self : TypeInfo) : Prop :=
  self.ty = .nVarChar ∨ self.ty = .bigVarBinary → self.size ≤ 8000 ∨ self.size = 0xffff

instance (self : TypeInfo) : Decidable self.LegalSize := inferInstanceAs (Decidable (_ → _))

section wire

def ComesBack (wire : TypeInfo) (kind : MssqlType) : Prop :=
  ∃ typeInfo, (MssqlTypeInfo.fromProtocol wire : Outcome BoxDynError MssqlTypeInfo) = .ok typeInfo ∧
    typeInfo.kind = kind

theorem numberType_wire {kind : MssqlType} {ty : DataType} {size : UInt8}
    (number : numberType kind = some (ty, size)) :
    (TypeInfo.new ty size.toNat).LegalSize ∧ ComesBack (.new ty size.toNat) kind := by
  cases kind <;> cases number <;> exact ⟨by decide, _, rfl, rfl⟩

theorem sizedType_wire {kind : MssqlType} {size : UInt16} {wire : TypeInfo}
    (sized : sizedType kind size = some wire) : wire.size = size.toNat ∧ ComesBack wire kind := by
  cases kind <;> cases sized <;> exact ⟨rfl, _, rfl, rfl⟩

theorem nvarcharParameterSize_cases (value : String) :
    8000 < (unitBytes (encodeUtf16 value)).length ∧ nvarcharParameterSize value = u16Max ∨
      (unitBytes (encodeUtf16 value)).length ≤ 8000 ∧
        (nvarcharParameterSize value).toNat = max 2 (unitBytes (encodeUtf16 value)).length := by
  rw [unitBytes_length, Nat.mul_comm, nvarcharParameterSize]
  by_cases long : 8000 < (encodeUtf16 value).length * 2
  · have bytes : 8000 < min ((encodeUtf16 value).length * 2) usizeMax :=
      lt_min long (by decide)
    exact .inl ⟨long, if_pos bytes⟩
  · have bytes : min ((encodeUtf16 value).length * 2) usizeMax = (encodeUtf16 value).length * 2 :=
      min_eq_left (by rw [usizeMax]; omega)
    refine .inr ⟨by omega, ?_⟩
    rw [bytes, if_neg long, UInt16.toNat_ofNat', Nat.mod_eq_of_lt (by omega)]

theorem varbinaryParameterSize_cases (len : Nat) :
    8000 < len ∧ varbinaryParameterSize len = u16Max ∨
      len ≤ 8000 ∧ (varbinaryParameterSize len).toNat = max 1 len := by
  rw [varbinaryParameterSize]
  by_cases long : 8000 < len
  · exact .inl ⟨long, if_pos long⟩
  · refine .inr ⟨by omega, ?_⟩
    rw [if_neg long, UInt16.toNat_ofNat', Nat.mod_eq_of_lt (by omega)]

end wire

section arguments
variable {name : String}

/-- The parameter of a value travels under a legal type of the value's kind. -/
def TravelsLegally (name : String) (typeInfo : MssqlTypeInfo) (encoded : Bytes) (isNull : Bool) :
    Prop :=
  ∃ wire, Travels name 0 typeInfo encoded isNull wire ∧ wire.LegalSize ∧
    ComesBack wire typeInfo.kind

theorem number_travels (short : (encodeUtf16 name).length ≤ 255) {typeInfo : MssqlTypeInfo}
    {encoded : Bytes} {isNull : Bool} {ty : DataType} {size : UInt8}
    (number : numberType typeInfo.kind = some (ty, size)) (plain : typeInfo.size = none)
    (fits : isNull = false → 0 < encoded.length ∧ encoded.length < 255) :
    TravelsLegally name typeInfo encoded isNull :=
  ⟨_, travels_number short 0 number plain fits, numberType_wire number⟩

theorem sized_travels (short : (encodeUtf16 name).length ≤ 255) {kind : MssqlType}
    (sized : kind = .nVarChar ∨ kind = .varBinary) {size : UInt16} {encoded : Bytes}
    (switch : 8000 < encoded.length ∧ size = u16Max ∨
      encoded.length ≤ 8000 ∧ size.toNat ≤ 8000) :
    TravelsLegally name (.withSize kind size) encoded false := by
  have wired : ∃ wire, sizedType kind size = some wire := by
    rcases sized with rfl | rfl <;> exact ⟨_, rfl⟩
  obtain ⟨wire, typed⟩ := wired
  obtain ⟨wireSize, back⟩ := sizedType_wire typed
  rcases switch with ⟨_, rfl⟩ | ⟨below, small⟩
  · exact ⟨wire, travels_chunked short 0 typed rfl, fun _ => .inr wireSize, back⟩
  · have limited : size ≠ u16Max := by
      rintro rfl
      exact absurd small (by decide)
    have written : parameterSize (.withSize kind size) encoded.length false = .ok size := by
      rcases sized with rfl | rfl <;> rfl
    exact ⟨wire, travels_short short 0 typed written (fun same => limited (Option.some.inj same))
      limited (fun _ => by omega), fun _ => .inl (wireSize ▸ small), back⟩

theorem sized_null_travels (short : (encodeUtf16 name).length ≤ 255) {kind : MssqlType}
    (sized : kind = .nVarChar ∨ kind = .varBinary) :
    TravelsLegally name (.new kind) [] true := by
  rcases sized with rfl | rfl
  · have typed : sizedType .nVarChar 2 = some _ := rfl
    exact ⟨_, travels_short short 0 typed rfl (by decide) (by decide) (by decide),
      fun _ => .inl (by decide), _, rfl, rfl⟩
  · have typed : sizedType .varBinary 1 = some _ := rfl
    exact ⟨_, travels_short short 0 typed rfl (by decide) (by decide) (by decide),
      fun _ => .inl (by decide), _, rfl, rfl⟩

theorem short_of_writes {bytes : Bytes} (written : (writeBVarchar name).Writes bytes ()) :
    (encodeUtf16 name).length ≤ 255 := by
  by_contra long
  have count : u8TryFrom (encodeUtf16 name).length = .error .tryFromInt := if_neg (by omega)
  rw [writeBVarchar, count] at written
  cases written

def numbered (values : List Argument) : List (String × Argument) :=
  values.zipIdx.map fun (value, index) => ("@p" ++ toString (index + 1), value)

theorem numbered_snoc (values : List Argument) (value : Argument) :
    numbered (values ++ [value]) =
      numbered values ++ [("@p" ++ toString (values.length + 1), value)] := by
  simp [numbered, List.zipIdx_append]

variable [NoneEncoding]

theorem Argument.typeInfo_none (type : ScalarType) :
    (Argument.none type).typeInfo = type.typeInfo := by
  rcases NoneEncoding.typeOf type with produced | produced <;>
    simp only [Argument.typeInfo, Argument.produces, produced, Argument.type, Option.getD]

theorem scalar_travels (short : (encodeUtf16 name).length ≤ 255) {value : Scalar} {encoded : Bytes}
    (encodes : value.encode = .ok encoded) :
    TravelsLegally name (Argument.scalar value).typeInfo encoded false := by
  cases value with
  | u64 value =>
    simp only [Scalar.encode] at encodes
    split at encodes
    · cases encodes
      exact number_travels short rfl rfl fun _ => by rw [intBytes_length]; decide
    · cases encodes
  | string value =>
    cases encodes
    apply sized_travels short (.inl rfl)
    rcases nvarcharParameterSize_cases value with long | ⟨below, size⟩
    · exact .inl long
    · exact .inr ⟨below, by omega⟩
  | bytes value =>
    cases encodes
    apply sized_travels short (.inr rfl)
    rcases varbinaryParameterSize_cases encoded.length with long | ⟨below, size⟩
    · exact .inl long
    · exact .inr ⟨below, by omega⟩
  | bool value =>
    cases encodes
    exact number_travels short rfl rfl fun _ => by simp
  | u8 value =>
    cases encodes
    exact number_travels short rfl rfl fun _ => by simp
  | f32 bits =>
    cases encodes
    exact number_travels short rfl rfl fun _ => by rw [leBytes_length]; decide
  | f64 bits =>
    cases encodes
    exact number_travels short rfl rfl fun _ => by rw [leBytes_length]; decide
  | _ =>
    cases encodes
    exact number_travels short rfl rfl fun _ => by rw [intBytes_length]; decide

theorem none_travels (short : (encodeUtf16 name).length ≤ 255) (type : ScalarType) :
    TravelsLegally name (Argument.none type).typeInfo [] true := by
  rw [Argument.typeInfo_none]
  cases type with
  | string => exact sized_null_travels short (.inl rfl)
  | bytes => exact sized_null_travels short (.inr rfl)
  | _ => exact number_travels short rfl rfl fun present => nomatch present

theorem Argument.typeInfo_kind (value : Argument) :
    value.typeInfo.kind = value.type.typeInfo.kind := by
  cases value with
  | scalar value => cases value <;> rfl
  | none type => rw [Argument.typeInfo_none]; rfl

/-- What a sent parameter says: its name, and its value or NULL. -/
def Carries (parameter : RpcParameter) (sent : String × Argument) : Prop :=
  parameter.name = sent.1 ∧ parameter.status = 0 ∧ ∃ typeInfo,
    (MssqlTypeInfo.fromProtocol parameter.typeInfo : Outcome BoxDynError MssqlTypeInfo) =
      .ok typeInfo ∧
    match sent.2 with
    | .scalar value =>
      parameter.value.isSome ∧ value.type.decode ⟨typeInfo, parameter.value⟩ = .ok value
    | .none _ => parameter.value = none

/-- The parameter an argument is written as carries it. -/
theorem argument_carries (value : Argument) {encoded bytes : Bytes} {isNull : IsNull}
    (encodes : value.encode = .ok (encoded, isNull))
    (written : (writeParameter name value.typeInfo encoded (isNull == .yes)).Writes bytes ()) :
    ∃ parameter, (bytes.length ≤ isizeMax → Reads RpcParameter.get bytes parameter) ∧
      Carries parameter (name, value) ∧ parameter.typeInfo.LegalSize := by
  obtain ⟨_, _, _, _, named, _⟩ := Put.Writes.of_bind written
  have short := short_of_writes named
  cases value with
  | none type =>
    cases encodes
    obtain ⟨wire, ⟨travelled, writes, reads⟩, legal, typeInfo, back, kind⟩ :=
      none_travels short type
    obtain ⟨rfl, _⟩ := Put.mk.inj (written.symm.trans writes)
    exact ⟨_, reads, ⟨rfl, rfl, typeInfo, back, rfl⟩, legal⟩
  | scalar value =>
    obtain ⟨content, encodesScalar, rfl, rfl⟩ : ∃ content, value.encode = .ok content ∧
        encoded = content ∧ isNull = .no := by
      rw [Argument.encode] at encodes
      cases outcome : value.encode with
      | error error => rw [outcome] at encodes; cases encodes
      | ok content => rw [outcome] at encodes; cases encodes; exact ⟨_, rfl, rfl, rfl⟩
    obtain ⟨wire, ⟨travelled, writes, reads⟩, legal, typeInfo, back, kind⟩ :=
      scalar_travels short encodesScalar
    obtain ⟨rfl, _⟩ := Put.mk.inj (written.symm.trans writes)
    have decoded := ScalarType.decode_encode encodesScalar
      (kind.trans (Argument.typeInfo_kind (.scalar value)))
    exact ⟨_, reads, ⟨rfl, rfl, typeInfo, back, rfl, decoded⟩, legal⟩

theorem add_carries {arguments next : MssqlArguments} {value : Argument}
    (added : arguments.add value = (.ok (), next)) : next.len = arguments.len + 1 ∧
      ∃ bytes parameter, next.data = arguments.data ++ bytes ∧
        (bytes.length ≤ isizeMax → Reads RpcParameter.get bytes parameter) ∧
        Carries parameter ("@p" ++ toString (arguments.len + 1), value) ∧
        parameter.typeInfo.LegalSize := by
  rw [MssqlArguments.add] at added
  split at added
  next => cases added
  next encoded isNull encodes =>
    rw [MssqlArguments.addParameter] at added
    dsimp only at added
    split at added
    next => cases added
    next text _ =>
      obtain ⟨succeeded, rfl⟩ := Prod.mk.inj added
      obtain ⟨parameter, carried⟩ :=
        argument_carries value encodes (Put.writes_iff.mpr ⟨rfl, succeeded⟩)
      exact ⟨rfl, _, parameter, rfl, carried⟩

theorem built_carries {values : List Argument} {arguments : MssqlArguments}
    (built : Built values arguments) : arguments.len = values.length ∧
      ∃ (pieces : List Bytes) (parameters : List RpcParameter), arguments.data = pieces.flatten ∧
        List.Forall₂ (fun piece parameter =>
          piece.length ≤ isizeMax → Reads RpcParameter.get piece parameter) pieces parameters ∧
        List.Forall₂ Carries parameters (numbered values) ∧
        ∀ parameter ∈ parameters, parameter.typeInfo.LegalSize := by
  induction built with
  | empty => exact ⟨rfl, [], [], rfl, .nil, .nil, fun _ member => nomatch member⟩
  | add earlier added ih =>
    obtain ⟨count, pieces, parameters, data, each, carried, legal⟩ := ih
    obtain ⟨len, bytes, parameter, appended, reads, carries, legalNext⟩ := add_carries added
    refine ⟨by rw [len, count, List.length_append, List.length_singleton], pieces ++ [bytes],
      parameters ++ [parameter], ?_, ?_, ?_, ?_⟩
    · rw [appended, data, List.flatten_append, List.flatten_singleton]
    · exact List.rel_append each (.cons reads .nil)
    · rw [numbered_snoc, ← count]
      exact List.rel_append carried (.cons carries .nil)
    · intro other member
      rcases List.mem_append.mp member with before | last
      · exact legal other before
      · exact List.mem_singleton.mp last ▸ legalNext

end arguments

section texts
variable {name : String}

def textSize (text : String) : Nat := max 2 (unitBytes (encodeUtf16 text)).length

theorem text_travels (short : (encodeUtf16 name).length ≤ 255) (text : String)
    (fits : textSize text < 65536) : ∃ wire, wire.ty = .nVarChar ∧ wire.size = textSize text ∧
      ComesBack wire .nVarChar ∧
      Travels name 0 .nVarChar (unitBytes (encodeUtf16 text)) false wire := by
  have typed : sizedType .nVarChar (UInt16.ofNat (textSize text)) = some _ := rfl
  have number : (UInt16.ofNat (textSize text)).toNat = textSize text := by
    rw [UInt16.toNat_ofNat', Nat.mod_eq_of_lt fits]
  have even := unitBytes_length (encodeUtf16 text)
  have size : textSize text = max 2 (unitBytes (encodeUtf16 text)).length := rfl
  have limited : UInt16.ofNat (textSize text) ≠ u16Max := by
    intro same
    have max : textSize text = 65535 := number.symm.trans (congrArg UInt16.toNat same)
    omega
  have written : parameterSize .nVarChar (unitBytes (encodeUtf16 text)).length false =
      .ok (UInt16.ofNat (textSize text)) := if_pos fits
  exact ⟨_, rfl, number, ⟨_, rfl, rfl⟩,
    travels_short short 0 typed written (by decide) limited fun _ => by omega⟩

theorem textSize_of_writes {text : String} {bytes : Bytes}
    (written : (writeNvarcharParameter name text).Writes bytes ()) : textSize text < 65536 := by
  obtain ⟨_, _, _, _, _, afterName⟩ := Put.Writes.of_bind written
  obtain ⟨_, _, _, _, _, afterStatus⟩ := Put.Writes.of_bind afterName
  obtain ⟨_, _, _, _, typed, _⟩ := Put.Writes.of_bind afterStatus
  by_contra long
  have size : nvarcharTypeSize .nVarChar (unitBytes (encodeUtf16 text)).length false =
      .error .tryFromInt := if_neg long
  have failed : writeTypeInfo .nVarChar (unitBytes (encodeUtf16 text)).length false =
      ⟨[dataTypeNVarChar] ++ [], .error .tryFromInt⟩ := by
    change (do
      Put.emit [dataTypeNVarChar]
      let size ← Put.lift (nvarcharTypeSize .nVarChar (unitBytes (encodeUtf16 text)).length false)
      Put.emit (leBytes 2 size.toNat)
      Put.emit defaultCollation : Put BoxDynError Unit) = _
    rw [size]
    rfl
  rw [failed] at typed
  cases typed

/-- The parameter a text is written as carries the text, and its type is as large as the text. -/
theorem text_carries {text : String} {bytes : Bytes}
    (written : (writeNvarcharParameter "" text).Writes bytes ()) : ∃ parameter,
      (bytes.length ≤ isizeMax → Reads RpcParameter.get bytes parameter) ∧
      Carries parameter ("", .scalar (.string text)) ∧ parameter.typeInfo.ty = .nVarChar ∧
      parameter.typeInfo.size = textSize text := by
  have short : (encodeUtf16 "").length ≤ 255 := by decide
  obtain ⟨wire, sort, size, ⟨typeInfo, back, kind⟩, travelled, writes, reads⟩ :=
    text_travels short text (textSize_of_writes written)
  obtain ⟨rfl, _⟩ := Put.mk.inj (written.symm.trans writes)
  exact ⟨_, reads, ⟨rfl, rfl, typeInfo, back, rfl, ScalarType.decode_encode rfl kind⟩, sort, size⟩

end texts

section messages

theorem frameRpc_ok_iff {payload : Put BoxDynError Unit} {packetSize : Nat} {bytes : Bytes} :
    frameRpc payload packetSize = .ok bytes ↔ ∃ written, payload.Writes written () ∧
      encodeMessage .rpc written packetSize = .ok bytes := by
  rcases payload with ⟨written, error | value⟩
  · refine iff_of_false (fun framed => nomatch framed) ?_
    rintro ⟨other, writes, _⟩
    cases writes
  · constructor
    · intro framed
      refine ⟨written, rfl, ?_⟩
      change (encodeMessage .rpc written packetSize).mapErr _ = _ at framed
      cases outcome : encodeMessage .rpc written packetSize with
      | ok result => rw [outcome] at framed; cases framed; rfl
      | err error => rw [outcome] at framed; cases framed
      | panic message => rw [outcome] at framed; cases framed
    · rintro ⟨other, writes, framed⟩
      cases writes
      change (encodeMessage .rpc written packetSize).mapErr _ = _
      rw [framed]
      rfl

def rpcHeader (procedureId : Nat) : Bytes := leBytes 2 0xffff ++ leBytes 2 procedureId ++ leBytes 2 0

theorem writes_rpcHeader (procedureId : Nat) (transactionDescriptor : UInt64) :
    (writeRpcHeader procedureId transactionDescriptor).Writes
      (allHeaders transactionDescriptor ++ rpcHeader procedureId) () := by
  rw [rpcHeader, List.append_assoc]
  rfl

theorem reads_all {pieces : List Bytes} {parameters : List RpcParameter}
    (each : List.Forall₂ (fun piece parameter =>
      piece.length ≤ isizeMax → Reads RpcParameter.get piece parameter) pieces parameters)
    (vec : pieces.flatten.length ≤ isizeMax) :
    RpcParameter.getAll pieces.flatten = .ok (parameters, []) := by
  apply RpcParameter.getAll_flatten
  induction each with
  | nil => exact .nil
  | cons reads _ ih =>
    rw [List.flatten_cons, List.length_append] at vec
    exact .cons (reads (by omega)) (ih (by omega))

end messages

/-- An `sp_executesql` call arrives whole: the message decodes to the headers with the descriptor
and to the parameters of the text, the declarations and the arguments in order, and each of
them decodes to the value that was added. -/
theorem executeSql_roundTrip [NoneEncoding] {sql : String} {values : List Argument}
    {arguments : MssqlArguments} {packetSize : Nat} {transactionDescriptor : UInt64} {bytes : Bytes}
    (built : Built values arguments) (nonempty : values ≠ [])
    (sent : buildExecuteSqlPacket sql arguments packetSize transactionDescriptor = .ok bytes) :
    ∃ body parameters,
      tryDecodeMessage bytes = .ok (some ⟨.rpc,
        allHeaders transactionDescriptor ++ [0xff, 0xff, 10, 0, 0, 0] ++ body, bytes.length⟩) ∧
      RpcParameter.getAll body = .ok (parameters, []) ∧
      List.Forall₂ Carries parameters (("", .scalar (.string sql)) ::
        ("", .scalar (.string arguments.declarations)) :: numbered values) := by
  obtain ⟨written, writes, encoded⟩ := frameRpc_ok_iff.mp sent
  obtain ⟨header, _, afterHeader, rfl, headerWrites, others⟩ := Put.Writes.of_bind writes
  obtain ⟨sqlBytes, _, afterSql, rfl, sqlWrites, others⟩ := Put.Writes.of_bind others
  obtain ⟨count, pieces, parameters, data, each, carried, _⟩ := built_carries built
  have notEmpty : (!arguments.isEmpty) = true := by
    have positive := List.length_pos_iff.mpr nonempty
    simp only [MssqlArguments.isEmpty, count, Bool.not_eq_true', beq_eq_false_iff_ne]
    omega
  rw [if_pos notEmpty] at others
  obtain ⟨declarations, _, afterDeclarations, rfl, declarationsWrites, dataWrites⟩ :=
    Put.Writes.of_bind others
  obtain ⟨rfl, _⟩ := Put.mk.inj (headerWrites.symm.trans (writes_rpcHeader _ _))
  obtain ⟨rfl, _⟩ := Put.mk.inj (dataWrites.symm.trans (Put.writes_emit _))
  obtain ⟨sqlParameter, sqlReads, sqlCarries, _⟩ := text_carries sqlWrites
  obtain ⟨declared, declaredReads, declaredCarries, _⟩ := text_carries declarationsWrites
  have message := tryDecodeMessage_encoded encoded []
  rw [List.append_nil] at message
  refine ⟨sqlBytes ++ (declarations ++ arguments.data), sqlParameter :: declared :: parameters,
    message, ?_, .cons sqlCarries (.cons declaredCarries carried)⟩
  have fits := ((encodeMessage_ok_iff _ _ _).mp ⟨bytes, encoded⟩).2.2
  have whole := reads_all (.cons sqlReads (.cons declaredReads each)) (by
    rw [List.flatten_cons, List.flatten_cons, ← data]
    simp only [framedLength, List.length_append] at fits ⊢
    omega)
  rwa [List.flatten_cons, List.flatten_cons, ← data] at whole

def sevenAndNone : MssqlArguments where
  len := 2
  data := [3, 64, 0, 112, 0, 49, 0, 0, 38, 1, 1, 7, 3, 64, 0, 112, 0, 50, 0, 0, 231, 2, 0, 129, 4,
    208, 0, 52, 255, 255]
  declarations := "@p1 tinyint,@p2 nvarchar(1)"

theorem built_sevenAndNone : @Built typedNone [.scalar (.u8 7), .none .string] sevenAndNone := by
  let _ := typedNone
  have one : MssqlArguments.default.add (.scalar (.u8 7)) =
      (.ok (), ⟨1, [3, 64, 0, 112, 0, 49, 0, 0, 38, 1, 1, 7], "@p1 tinyint"⟩) := by decide
  exact .add (.add .empty one) (by decide)

set_option maxRecDepth 4000 in
theorem executeSql_roundTrip_sevenAndNone :
    ∃ bytes body parameters,
      buildExecuteSqlPacket "x" sevenAndNone 512 9 = .ok bytes ∧
      tryDecodeMessage bytes =
        .ok (some ⟨.rpc, allHeaders 9 ++ [0xff, 0xff, 10, 0, 0, 0] ++ body, bytes.length⟩) ∧
      RpcParameter.getAll body = .ok (parameters, []) ∧
      List.Forall₂ Carries parameters [("", .scalar (.string "x")),
        ("", .scalar (.string "@p1 tinyint,@p2 nvarchar(1)")), ("@p1", .scalar (.u8 7)),
        ("@p2", .none .string)] := by
  let _ := typedNone
  obtain ⟨bytes, sent⟩ : ∃ bytes, buildExecuteSqlPacket "x" sevenAndNone 512 9 = .ok bytes := by
    apply Exists.imp fun bytes sent => frameRpc_ok_iff.mpr ⟨_, rfl, sent⟩
    exact (encodeMessage_ok_iff _ _ _).mpr (by decide)
  obtain ⟨body, parameters, whole⟩ :=
    executeSql_roundTrip built_sevenAndNone (List.cons_ne_nil _ _) sent
  exact ⟨bytes, body, parameters, sent, whole⟩

end SqlxSqlserver.Protocol

import SqlxSqlserver.Protocol.Rpc
import SqlxSqlserver.Protocol.WireForm

/-! Reading back what the argument buffer writes. A parameter is a counted name, a status byte,
a TYPE_INFO and a value, and the writer and the reader agree on where each of them ends. -/

namespace SqlxSqlserver.Protocol
open Foundation Reader Driver

structure RpcParameter where
  name : String
  status : UInt8
  typeInfo : TypeInfo
  value : Option Bytes
  deriving DecidableEq

namespace RpcParameter

def typeInfoError (error : TypeInfoError) : Error := .protocol error.message

/-- One parameter of an RPC request, as a server reads it. -/
def get : Reader Error RpcParameter := do
  let name ← Read.readBVarchar
  let status ← Read.readU8
  let typeInfo ← TypeInfo.get.mapErr typeInfoError
  let value ← typeInfo.getValue.mapErr typeInfoError
  return { name, status, typeInfo, value }

theorem reads_get {name : String} {typeInfo : TypeInfo} {typeBytes valueBytes : Bytes}
    {value : Option Bytes} (short : (encodeUtf16 name).length ≤ 255) (status : UInt8)
    (typeReads : Reads TypeInfo.get typeBytes typeInfo)
    (valueReads : Reads typeInfo.getValue valueBytes value) :
    Reads get ((UInt8.ofNat (encodeUtf16 name).length :: unitBytes (encodeUtf16 name)) ++
      ([status] ++ (typeBytes ++ valueBytes))) { name, status, typeInfo, value } := by
  refine (reads_bVarchar name short).bind ((reads_byte _ status).bind
    ((typeReads.mapErr _).bind ?_))
  intro rest
  rw [bind_ok (valueReads.mapErr typeInfoError rest)]
  rfl

theorem shrinks_get : Shrinks get := by
  have name : Shrinks Read.readBVarchar := (shrinks_byte _).bind fun _ => local_utf16Text _
  exact name.bind fun _ => (local_byte _).bind fun _ => (TypeInfo.local_get.mapErr _).bind
    fun typeInfo => (typeInfo.local_getValue.mapErr _).bind fun _ => local_pure _

def getNext (parameters : List RpcParameter) : Reader Error (List RpcParameter) := do
  return parameters ++ [← get]

def getAll : Reader Error (List RpcParameter) := untilEmpty getNext []

theorem consumes_getNext : Consumes getNext :=
  fun _ => shrinks_get.bind fun _ => local_pure _

theorem getAll_flatten {pieces : List Bytes} {parameters : List RpcParameter}
    (each : List.Forall₂ (Reads get) pieces parameters) :
    getAll pieces.flatten = .ok (parameters, []) := by
  have behind : ∀ earlier,
      untilEmpty getNext earlier pieces.flatten = .ok (earlier ++ parameters, []) := by
    induction each with
    | nil => intro earlier; simp [untilEmpty_nil consumes_getNext]
    | @cons piece parameter pieces parameters one _ ih =>
      intro earlier
      have outcome : getNext earlier (piece ++ pieces.flatten) =
          .ok (earlier ++ [parameter], pieces.flatten) := by
        rw [getNext, bind_ok (one _)]
        rfl
      have shorter := consumes_getNext _ _ _ _ outcome
      have nonempty : piece ++ pieces.flatten ≠ [] := by
        intro empty
        rw [empty] at shorter
        exact absurd shorter (Nat.not_lt_zero _)
      rw [List.flatten_cons, untilEmpty_apply consumes_getNext _ nonempty, outcome]
      dsimp only
      rw [ih, List.append_assoc, List.singleton_append]
  exact behind []

end RpcParameter

section typeInfo

def defaultCollationInfo : Collation :=
  { locale := 0x481, flags := ⟨0x0d⟩, sort := 0x34, version := 0 }

theorem reads_defaultCollation : Reads Collation.get defaultCollation defaultCollationInfo := by
  intro rest
  have number : TypeInfo.readU32Le ([0x81, 0x04, 0xd0, 0x00] ++ (0x34 :: rest)) =
      .ok (0xd00481, 0x34 :: rest) := reads_le .unexpectedEof [0x81, 0x04, 0xd0, 0x00] _
  change Collation.get ([0x81, 0x04, 0xd0, 0x00] ++ (0x34 :: rest)) = _
  rw [Collation.get, bind_ok number]
  exact bind_ok (reads_byte _ 0x34 rest) _

def numberType : MssqlType → Option (DataType × UInt8)
  | .bit => some (.bitN, 1)
  | .tinyInt => some (.intN, 1)
  | .smallInt => some (.intN, 2)
  | .int => some (.intN, 4)
  | .bigInt => some (.intN, 8)
  | .real => some (.floatN, 4)
  | .float => some (.floatN, 8)
  | _ => none

def sizedType (kind : MssqlType) (size : UInt16) : Option TypeInfo :=
  match kind with
  | .nVarChar => some {
      ty := .nVarChar
      size := size.toNat
      scale := 0
      precision := 0
      collation := some defaultCollationInfo }
  | .varBinary => some (.new .bigVarBinary size.toNat)
  | _ => none

end typeInfo

section plp

theorem plpChunkBytes_length_ge (pieces : List Bytes) :
    pieces.flatten.length ≤ (plpChunkBytes pieces).length := by
  induction pieces with
  | nil => exact le_rfl
  | cons piece pieces ih =>
    simp only [plpChunkBytes_cons, List.flatten_cons, List.length_append]
    omega

theorem writes_plpChunks (pieces : List Bytes) (short : ∀ piece ∈ pieces, piece.length < 2 ^ 32) :
    (writePlpChunks pieces).Writes (plpChunkBytes pieces) () := by
  induction pieces with
  | nil => rfl
  | cons piece pieces ih =>
    have fits := short piece (List.mem_cons_self ..)
    have others := ih fun other member => short other (List.mem_cons_of_mem _ member)
    have count : u32TryFrom piece.length = .ok (UInt32.ofNat piece.length) := if_pos fits
    have number : (UInt32.ofNat piece.length).toNat = piece.length := by
      rw [UInt32.toNat_ofNat', Nat.mod_eq_of_lt fits]
    rw [writePlpChunks, count, plpChunkBytes_cons]
    change Put.Writes (do
      Put.emit (leBytes 4 (UInt32.ofNat piece.length).toNat)
      Put.emit piece
      writePlpChunks pieces) _ _
    rw [number]
    exact Put.Writes.bind (Put.writes_emit _) (Put.Writes.bind (Put.writes_emit _) others)

theorem writes_plpValue (encoded : Bytes) (isNull : Bool) :
    (writePlpValue encoded isNull).Writes (if isNull then leBytes 8 plpNull else
      leBytes 8 encoded.length ++ (plpChunkBytes (chunks plpChunkSize encoded) ++ leBytes 4 0)) () := by
  cases isNull with
  | true => rfl
  | false =>
    have short : ∀ piece ∈ chunks plpChunkSize encoded, piece.length < 2 ^ 32 := by
      intro piece member
      exact (chunk_length_le member).trans_lt (by decide)
    exact Put.Writes.bind (Put.writes_emit _)
      (Put.Writes.bind (writes_plpChunks _ short) (Put.writes_emit _))

theorem reads_plpValue (encoded : Bytes) (isNull : Bool) :
    ∃ bytes, (writePlpValue encoded isNull).Writes bytes () ∧ (bytes.length ≤ isizeMax →
      Reads TypeInfo.getBigBlob bytes (if isNull then none else some encoded)) := by
  refine ⟨_, writes_plpValue encoded isNull, ?_⟩
  cases isNull with
  | true => exact fun _ => reads_blobNull
  | false =>
    intro written
    have positive : 0 < plpChunkSize := by decide
    have short : ∀ piece ∈ chunks plpChunkSize encoded, piece.length < 2 ^ 32 := by
      intro piece member
      exact (chunk_length_le member).trans_lt (by decide)
    have nonempty : ∀ piece ∈ chunks plpChunkSize encoded, piece ≠ [] :=
      fun piece member => chunk_ne_nil positive member
    have vec : encoded.length ≤ isizeMax := by
      have chunked := plpChunkBytes_length_ge (chunks plpChunkSize encoded)
      rw [chunks_flatten positive] at chunked
      simp only [Bool.false_eq_true, if_false, List.length_append] at written
      omega
    have blob := reads_blob short nonempty (.inr vec)
    rwa [chunks_flatten positive] at blob

end plp

section parameters
variable {name : String} {status : UInt8} {typeInfo : MssqlTypeInfo} {encoded : Bytes}
  {isNull : Bool}

/-- The parameter is written without an error and read back as what it was written from, when
its bytes fit a vector. -/
def Travels (name : String) (status : UInt8) (typeInfo : MssqlTypeInfo) (encoded : Bytes)
    (isNull : Bool) (wire : TypeInfo) : Prop :=
  ∃ bytes, (writeParameterWithStatus name status typeInfo encoded isNull).Writes bytes () ∧
    (bytes.length ≤ isizeMax → Reads RpcParameter.get bytes {
      name, status, typeInfo := wire, value := if isNull then none else some encoded })

theorem writes_bVarchar (short : (encodeUtf16 name).length ≤ 255) : (writeBVarchar name).Writes
    (UInt8.ofNat (encodeUtf16 name).length :: unitBytes (encodeUtf16 name)) () := by
  have count : u8TryFrom (encodeUtf16 name).length = .ok (UInt8.ofNat (encodeUtf16 name).length) :=
    if_pos (by omega)
  rw [writeBVarchar, count]
  rfl

/-- A parameter travels when its TYPE_INFO and its value do. -/
theorem travels_of_parts (short : (encodeUtf16 name).length ≤ 255) (status : UInt8)
    {wire : TypeInfo} {typeBytes valueBytes : Bytes}
    (typeWrites : (writeTypeInfo typeInfo encoded.length isNull).Writes typeBytes ())
    (valueWrites : (writeParamLenData typeInfo encoded isNull).Writes valueBytes ())
    (typeReads : Reads TypeInfo.get typeBytes wire)
    (valueReads : valueBytes.length ≤ isizeMax →
      Reads wire.getValue valueBytes (if isNull then none else some encoded)) :
    Travels name status typeInfo encoded isNull wire := by
  refine ⟨_, Put.Writes.bind (writes_bVarchar short) (Put.Writes.bind (Put.writes_emit [status])
    (Put.Writes.bind typeWrites valueWrites)), fun vec => ?_⟩
  simp only [List.length_append] at vec
  exact RpcParameter.reads_get short status typeReads (valueReads (by omega))

theorem numberType_spec {ty : DataType} {size : UInt8}
    (number : numberType typeInfo.kind = some (ty, size)) :
    ty.valueForm = .byteLen ∧ TypeInfo.getBody ty = TypeInfo.getByteSized ty ∧
      writeTypeInfo typeInfo encoded.length isNull = .emit [ty.code, size] ∧
      writeParamLen typeInfo encoded true = .emit [0] ∧
      ∀ len, u8TryFrom encoded.length = .ok len →
        writeParamLen typeInfo encoded false = .emit [len] := by
  rcases typeInfo with ⟨kind, variableLength, limit, protocolTypeInfo⟩
  cases kind <;> cases number <;> refine ⟨rfl, rfl, rfl, rfl, fun len count => ?_⟩ <;>
    simp only [writeParamLen, count] <;> rfl

theorem travels_number (short : (encodeUtf16 name).length ≤ 255) (status : UInt8)
    {ty : DataType} {size : UInt8} (number : numberType typeInfo.kind = some (ty, size))
    (plain : typeInfo.size = none)
    (fits : isNull = false → 0 < encoded.length ∧ encoded.length < 255) :
    Travels name status typeInfo encoded isNull (.new ty size.toNat) := by
  obtain ⟨form, body, typeWriter, nullWriter, lenWriter⟩ := numberType_spec number
  have typeWrites : (writeTypeInfo typeInfo encoded.length isNull).Writes [ty.code, size] () :=
    typeWriter
  have typeReads : Reads TypeInfo.get [ty.code, size] (.new ty size.toNat) := by
    refine TypeInfo.reads_get_iff.mpr ⟨ty, [size], rfl, ?_⟩
    rw [body]
    intro rest
    exact bind_ok (reads_byte _ size rest) _
  cases isNull with
  | true =>
    have valueWrites : (writeParamLenData typeInfo encoded true).Writes [0] () := by
      rw [writeParamLenData, nullWriter]
      rfl
    exact travels_of_parts short status typeWrites valueWrites typeReads
      fun _ => reads_getValue (.byteLenNull form (.inl rfl))
  | false =>
    obtain ⟨some, small⟩ := fits rfl
    have valueWrites : (writeParamLenData typeInfo encoded false).Writes
        ([UInt8.ofNat encoded.length] ++ encoded) () := by
      rw [writeParamLenData, lenWriter _ (if_pos (by omega)), plain]
      rfl
    exact travels_of_parts short status typeWrites valueWrites typeReads
      fun _ => reads_getValue (.byteLen form (List.ne_nil_of_length_pos some) small)

def parameterSize (typeInfo : MssqlTypeInfo) (encodedLen : Nat) (isNull : Bool) :
    Except BoxDynError UInt16 :=
  match typeInfo.kind with
  | .nVarChar => nvarcharTypeSize typeInfo encodedLen isNull
  | _ => boundedShortLen typeInfo encodedLen isNull

theorem sizedType_spec {wire : TypeInfo} {size : UInt16}
    (sized : sizedType typeInfo.kind size = some wire)
    (written : parameterSize typeInfo encoded.length isNull = .ok size) :
    wire.ty.valueForm = .shortLen ∧ wire.size = size.toNat ∧
      (∃ bytes, (writeTypeInfo typeInfo encoded.length isNull).Writes bytes () ∧
        Reads TypeInfo.get bytes wire) ∧
      writeParamLen typeInfo encoded isNull =
        if typeInfo.size = some u16Max then writePlpValue encoded isNull
        else (do
          let len ← if isNull then pure u16Max else .lift (u16TryFrom encoded.length)
          .emit (leBytes 2 len.toNat)) := by
  have fits : size.toNat < 256 ^ 2 := size.toNat_lt
  rcases typeInfo with ⟨kind, variableLength, limit, protocolTypeInfo⟩
  cases kind <;> cases sized
  case nVarChar =>
    refine ⟨rfl, rfl, ⟨dataTypeNVarChar :: (leBytes 2 size.toNat ++ defaultCollation), ?_, ?_⟩, rfl⟩
    · change nvarcharTypeSize _ _ _ = _ at written
      rw [writeTypeInfo, written]
      rfl
    · refine TypeInfo.reads_get_iff.mpr ⟨.nVarChar, _, rfl, ?_⟩
      intro rest
      have number : TypeInfo.readU16Le (leBytes 2 size.toNat ++ (defaultCollation ++ rest)) =
          .ok (size.toNat, defaultCollation ++ rest) := reads_le_leBytes _ fits _
      rw [List.append_assoc]
      exact (bind_ok number _).trans (bind_ok (reads_defaultCollation rest) _)
  case varBinary =>
    refine ⟨rfl, rfl, ⟨dataTypeBigVarBinary :: leBytes 2 size.toNat, ?_, ?_⟩, rfl⟩
    · change boundedShortLen _ _ _ = _ at written
      rw [writeTypeInfo, written]
      rfl
    · refine TypeInfo.reads_get_iff.mpr ⟨.bigVarBinary, _, rfl, ?_⟩
      intro rest
      exact bind_ok (reads_le_leBytes _ fits rest) _

theorem travels_short (short : (encodeUtf16 name).length ≤ 255) (status : UInt8)
    {wire : TypeInfo} {size : UInt16} (sized : sizedType typeInfo.kind size = some wire)
    (written : parameterSize typeInfo encoded.length isNull = .ok size)
    (limited : typeInfo.size ≠ some u16Max) (below : size ≠ u16Max)
    (fits : isNull = false → encoded.length < 65535) :
    Travels name status typeInfo encoded isNull wire := by
  obtain ⟨form, wireSize, ⟨typeBytes, typeWrites, typeReads⟩, lenWriter⟩ :=
    sizedType_spec sized written
  have notMax : ¬wire.size = 0xffff := by
    rw [wireSize]
    exact fun same => below (UInt16.toNat_inj.mp same)
  rw [if_neg limited] at lenWriter
  cases isNull with
  | true =>
    have valueWrites : (writeParamLenData typeInfo encoded true).Writes (leBytes 2 0xffff) () := by
      rw [writeParamLenData, lenWriter]
      rfl
    exact travels_of_parts short status typeWrites valueWrites typeReads
      fun _ => reads_getValue (.shortLenNull form notMax)
  | false =>
    have small := fits rfl
    have length : (UInt16.ofNat encoded.length).toNat = encoded.length := by
      rw [UInt16.toNat_ofNat', Nat.mod_eq_of_lt (by omega)]
    have count : u16TryFrom encoded.length = .ok (UInt16.ofNat encoded.length) := if_pos (by omega)
    have valueWrites : (writeParamLenData typeInfo encoded false).Writes
        (leBytes 2 encoded.length ++ encoded) () := by
      have present : (!false) = true ∧ typeInfo.size ≠ some u16Max := ⟨rfl, limited⟩
      rw [writeParamLenData, lenWriter, count, if_pos present]
      change Put.Writes (do
        Put.emit (leBytes 2 (UInt16.ofNat encoded.length).toNat)
        Put.emit encoded) _ _
      rw [length]
      rfl
    exact travels_of_parts short status typeWrites valueWrites typeReads
      fun _ => reads_getValue (.shortLen form notMax small)

theorem travels_chunked (short : (encodeUtf16 name).length ≤ 255) (status : UInt8)
    {wire : TypeInfo} (sized : sizedType typeInfo.kind u16Max = some wire)
    (max : typeInfo.size = some u16Max) :
    Travels name status typeInfo encoded isNull wire := by
  have written : parameterSize typeInfo encoded.length isNull = .ok u16Max := by
    rcases typeInfo with ⟨kind, variableLength, limit, protocolTypeInfo⟩
    cases max
    cases kind <;> rfl
  obtain ⟨form, wireSize, ⟨typeBytes, typeWrites, typeReads⟩, lenWriter⟩ :=
    sizedType_spec sized written
  obtain ⟨valueBytes, plpWrites, plpReads⟩ := reads_plpValue encoded isNull
  rw [if_pos max] at lenWriter
  have valueWrites : (writeParamLenData typeInfo encoded isNull).Writes (valueBytes ++ []) () := by
    rw [writeParamLenData, lenWriter, max, if_neg fun both => both.2 rfl]
    exact Put.Writes.bind plpWrites (Put.writes_pure ())
  apply travels_of_parts short status typeWrites valueWrites typeReads
  rw [List.append_nil]
  have chunked : wire.getValue = TypeInfo.getBigBlob := by
    simp only [TypeInfo.getValue, form]
    exact if_pos wireSize
  rwa [chunked]

end parameters
end SqlxSqlserver.Protocol

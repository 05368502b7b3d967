import SqlxSqlserver.Driver.Binding
import SqlxSqlserver.Protocol.RpcRoundTrip

/-! What arrives of an argument buffer. What is known of each value on its own, written as a
parameter and read back, is known of all of them in order. -/

namespace SqlxSqlserver.Driver
open Foundation Protocol Reader

/-- Written as a parameter of any name, the value is read back as one that carries it. -/
def EncodeValue.ReadsAs (value : EncodeValue) (carried : RpcParameter → String → Prop) : Prop :=
  ∀ name encoded isNull bytes, value.encode = .ok (encoded, isNull) →
    (writeParameter name value.typeInfo encoded (isNull == .yes)).Writes bytes () →
    ∃ parameter, (bytes.length ≤ isizeMax → Reads RpcParameter.get bytes parameter) ∧
      carried parameter name

section adding

theorem addValue_written {arguments next : MssqlArguments} {value : EncodeValue}
    (added : arguments.addValue value = (.ok (), next)) : ∃ encoded isNull bytes,
      value.encode = .ok (encoded, isNull) ∧ next.data = arguments.data ++ bytes ∧
      (writeParameter (parameterName (arguments.len + 1)) value.typeInfo encoded
        (isNull == .yes)).Writes bytes () := by
  rw [MssqlArguments.addValue] at added
  split at added
  next => cases added
  next encoded isNull encodes =>
    rw [MssqlArguments.addParameter] at added
    dsimp only at added
    split at added
    next => cases added
    next text _ =>
      obtain ⟨succeeded, rfl⟩ := Prod.mk.inj added
      exact ⟨encoded, isNull, _, encodes, rfl, Put.writes_iff.mpr ⟨rfl, succeeded⟩⟩

variable {ι : Type} {encodeValue : ι → EncodeValue} {carried : ι → RpcParameter → String → Prop}

def CarryAll (carried : ι → RpcParameter → String → Prop) (items : List ι)
    (parameters : List RpcParameter) : Prop :=
  parameters.length = items.length ∧ ∀ (index : Nat) parameter item,
    parameters[index]? = some parameter → items[index]? = some item →
      carried item parameter (parameterName (index + 1))

theorem CarryAll.snoc {items : List ι} {parameters : List RpcParameter} {item : ι}
    {parameter : RpcParameter} (all : CarryAll carried items parameters)
    (last : carried item parameter (parameterName (items.length + 1))) :
    CarryAll carried (items ++ [item]) (parameters ++ [parameter]) := by
  obtain ⟨count, each⟩ := all
  refine ⟨by simp [count], fun index found value foundParameter foundItem => ?_⟩
  rw [List.getElem?_append] at foundParameter foundItem
  by_cases inside : index < items.length
  · rw [if_pos (count ▸ inside)] at foundParameter
    rw [if_pos inside] at foundItem
    exact each index found value foundParameter foundItem
  · rw [if_neg (count ▸ inside), List.getElem?_singleton] at foundParameter
    rw [if_neg inside, List.getElem?_singleton] at foundItem
    split at foundItem
    next first =>
      have position : index = items.length := by omega
      rw [count, if_pos first] at foundParameter
      cases foundParameter
      cases foundItem
      rwa [position]
    next => cases foundItem

theorem added_pieces {items : List ι} {arguments : MssqlArguments}
    (each : ∀ item ∈ items, (encodeValue item).ReadsAs (carried item))
    (added : Added (items.map encodeValue) arguments) :
    ∃ (pieces : List Bytes) (parameters : List RpcParameter), arguments.data = pieces.flatten ∧
      List.Forall₂ (fun piece parameter =>
        piece.length ≤ isizeMax → Reads RpcParameter.get piece parameter) pieces parameters ∧
      CarryAll carried items parameters := by
  generalize split : items.map encodeValue = values at added
  induction added generalizing items with
  | empty =>
    obtain rfl := List.map_eq_nil_iff.mp split
    exact ⟨[], [], rfl, .nil, rfl, by simp⟩
  | @add values arguments next value earlier added ih =>
    obtain ⟨before, last, rfl, front, back⟩ := List.map_eq_append_iff.mp split
    obtain ⟨item, rfl, rfl⟩ := List.map_eq_singleton_iff.mp back
    obtain ⟨pieces, parameters, data, reads, carry⟩ :=
      ih (fun other there => each other (List.mem_append_left _ there)) front
    obtain ⟨encoded, isNull, bytes, encodes, appended, written⟩ := addValue_written added
    obtain ⟨parameter, readsLast, carriedLast⟩ :=
      each item (by simp) _ encoded isNull bytes encodes written
    have count : arguments.len = before.length := by rw [earlier.length, ← front, List.length_map]
    refine ⟨pieces ++ [bytes], parameters ++ [parameter], ?_, ?_, ?_⟩
    · rw [appended, data, List.flatten_append, List.flatten_singleton]
    · exact List.rel_append reads (.cons readsLast .nil)
    · rw [count] at carriedLast
      exact carry.snoc carriedLast

theorem added_arrives {items : List ι} {arguments : MssqlArguments}
    (each : ∀ item ∈ items, (encodeValue item).ReadsAs (carried item))
    (added : Added (items.map encodeValue) arguments) (vec : arguments.data.length ≤ isizeMax) :
    ∃ parameters, RpcParameter.getAll arguments.data = .ok (parameters, []) ∧
      CarryAll carried items parameters := by
  obtain ⟨pieces, parameters, data, reads, carry⟩ := added_pieces each added
  rw [data] at vec ⊢
  exact ⟨parameters, reads_all reads vec, carry⟩

end adding

section calls
variable {ι : Type} {encodeValue : ι → EncodeValue} {carried : ι → RpcParameter → String → Prop}

theorem call_arrives {items : List ι} {arguments : MssqlArguments} {sql : String} {packetSize : Nat}
    {transactionDescriptor : UInt64} {bytes : Bytes}
    (each : ∀ item ∈ items, (encodeValue item).ReadsAs (carried item))
    (added : Added (items.map encodeValue) arguments) (nonempty : items ≠ [])
    (sent : buildExecuteSqlPacket sql arguments packetSize transactionDescriptor = .ok bytes) :
    ∃ body text declared parameters,
      tryDecodeMessage bytes = .ok (some ⟨.rpc,
        allHeaders transactionDescriptor ++ rpcHeader 10 ++ body, bytes.length⟩) ∧
      RpcParameter.getAll body = .ok (text :: declared :: parameters, []) ∧
      Carries text ("", .scalar (.string sql)) ∧
      Carries declared ("", .scalar (.string arguments.declarations)) ∧
      CarryAll carried items parameters := by
  obtain ⟨written, writes, encoded⟩ := frameRpc_ok_iff.mp sent
  obtain ⟨header, _, afterHeader, rfl, headerWrites, others⟩ := Put.Writes.of_bind writes
  obtain ⟨sqlBytes, _, afterSql, rfl, sqlWrites, others⟩ := Put.Writes.of_bind others
  obtain ⟨pieces, parameters, data, reads, carry⟩ := added_pieces each added
  have count : arguments.len = items.length := by rw [added.length, List.length_map]
  have notEmpty : (!arguments.isEmpty) = true := by
    have positive := List.length_pos_iff.mpr nonempty
    simp only [MssqlArguments.isEmpty, count, Bool.not_eq_true', beq_eq_false_iff_ne]
    omega
  rw [if_pos notEmpty] at others
  obtain ⟨declarations, _, afterDeclarations, rfl, declarationsWrites, dataWrites⟩ :=
    Put.Writes.of_bind others
  obtain ⟨rfl, _⟩ := Put.mk.inj (headerWrites.symm.trans (writes_rpcHeader _ _))
  obtain ⟨rfl, _⟩ := Put.mk.inj (dataWrites.symm.trans (Put.writes_emit _))
  obtain ⟨text, textReads, textCarries, _⟩ := text_carries sqlWrites
  obtain ⟨declared, declaredReads, declaredCarries, _⟩ := text_carries declarationsWrites
  have message := tryDecodeMessage_encoded encoded []
  rw [List.append_nil] at message
  refine ⟨sqlBytes ++ (declarations ++ arguments.data), text, declared, parameters, message, ?_,
    textCarries, declaredCarries, carry⟩
  have fits := ((encodeMessage_ok_iff _ _ _).mp ⟨bytes, encoded⟩).2.2
  have whole := reads_all (.cons textReads (.cons declaredReads reads)) (by
    rw [List.flatten_cons, List.flatten_cons, ← data]
    simp only [framedLength, List.length_append] at fits ⊢
    omega)
  rwa [List.flatten_cons, List.flatten_cons, ← data] at whole

end calls

section scalars
variable {name : String}

/-- A parameter that carries a scalar or a NULL under a type of its kind. -/
def Typed (parameter : RpcParameter) (sent : String × Argument) : Prop :=
  Carries parameter sent ∧ ComesBack parameter.typeInfo sent.2.type.typeInfo.kind

def IsData (typeInfo : MssqlTypeInfo) (data : Option Bytes) : Argument → Prop
  | .scalar value => data.isSome ∧ value.type.decode ⟨typeInfo, data⟩ = .ok value
  | .none _ => data = none

variable [NoneEncoding]

theorem typed_of_travels {value : Argument} {encoded bytes : Bytes} {isNull : Bool}
    (travels : TravelsLegally name value.typeInfo encoded isNull)
    (written : (writeParameter name value.typeInfo encoded isNull).Writes bytes ())
    (data : ∀ typeInfo : MssqlTypeInfo, typeInfo.kind = value.type.typeInfo.kind →
      IsData typeInfo (if isNull then none else some encoded) value) :
    ∃ parameter, (bytes.length ≤ isizeMax → Reads RpcParameter.get bytes parameter) ∧
      Typed parameter (name, value) := by
  obtain ⟨wire, ⟨travelled, writes, reads⟩, _, typeInfo, back, kind⟩ := travels
  obtain ⟨rfl, _⟩ := Put.mk.inj (written.symm.trans writes)
  rw [Argument.typeInfo_kind] at kind
  have found := data typeInfo kind
  refine ⟨_, reads, ⟨rfl, rfl, typeInfo, back, ?_⟩, typeInfo, back, kind⟩
  cases value with
  | scalar value => exact found
  | none type => exact found

theorem argument_typed (value : Argument) : (EncodeValue.ofArgument value).ReadsAs
    fun parameter name => Typed parameter (name, value) := by
  intro name encoded isNull bytes encodes written
  obtain ⟨_, _, _, _, named, _⟩ := Put.Writes.of_bind written
  have short := short_of_writes named
  cases value with
  | none type =>
    cases encodes
    exact typed_of_travels (none_travels short type) written fun _ _ => rfl
  | scalar value =>
    obtain ⟨content, done, same⟩ := bind_ok_iff.mp encodes
    cases same
    exact typed_of_travels (scalar_travels short done) written
      fun _ kind => ⟨rfl, ScalarType.decode_encode done kind⟩

end scalars
end SqlxSqlserver.Driver

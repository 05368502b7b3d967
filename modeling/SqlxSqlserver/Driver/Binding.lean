import SqlxSqlserver.Driver.AddAtomicity
import SqlxSqlserver.Driver.Executor

/-! The arguments of a query, bound one after the other. The scalars of the driver are always
bound. -/

namespace SqlxSqlserver.Driver
open Foundation Protocol

/-- sqlx-core's `Query::bind`, without the text that it puts in front of an error. Behind the first
value that is not encoded nothing is added. -/
def bind : TakenArguments → EncodeValue → TakenArguments
  | .ok (some arguments), value =>
    match arguments.addValue value with
    | (.ok (), next) => .ok (some next)
    | (.error source, _) => .error source
  | taken, _ => taken

@[irreducible] def bound (values : List EncodeValue) : TakenArguments := values.foldl bind (.ok (some .default))

def EncodeValue.Sendable (value : EncodeValue) : Prop :=
  ∃ encoded isNull, value.encode = .ok (encoded, isNull) ∧
    HasRoom value.typeInfo encoded.length (isNull == .yes)

section bound
variable {values : List EncodeValue}

theorem Added.length {arguments : MssqlArguments} (added : Added values arguments) :
    arguments.len = values.length := by
  induction added with
  | empty => rfl
  | @add values arguments next value earlier added ih =>
    have encodes : ∃ encoded isNull, value.encode = .ok (encoded, isNull) := by
      cases outcome : value.encode with
      | error error =>
        rw [MssqlArguments.addValue, outcome] at added
        cases added
      | ok result => exact ⟨result.1, result.2, rfl⟩
    obtain ⟨encoded, isNull, encodes⟩ := encodes
    have counts := addValue_counts arguments encodes
    rw [added] at counts
    rw [counts, ih, List.length_append, List.length_singleton]

theorem EncodeValue.Sendable.add {value : EncodeValue} (sendable : value.Sendable)
    {arguments : MssqlArguments} (few : arguments.len + 1 < 2 ^ 64) :
    ∃ next, arguments.addValue value = (.ok (), next) := by
  have added := addValue_ok_iff.mpr ⟨parameterName_short few, sendable⟩
  exact ⟨_, Prod.ext added rfl⟩

theorem bound_ok (sendable : ∀ value ∈ values, value.Sendable) (few : values.length < 2 ^ 64) :
    ∃ arguments, bound values = .ok (some arguments) ∧ Added values arguments := by
  induction values using List.reverseRecOn with
  | nil => exact ⟨.default, by rw [bound, List.foldl_nil], .empty⟩
  | append_singleton values value ih =>
    rw [List.length_append, List.length_singleton] at few
    obtain ⟨arguments, boundBefore, added⟩ := ih
      (fun other there => sendable other (List.mem_append_left _ there)) (by omega)
    have counted : arguments.len + 1 < 2 ^ 64 := by
      rw [added.length]
      exact few
    obtain ⟨next, addedLast⟩ := (sendable value (by simp)).add counted
    refine ⟨next, ?_, .add added addedLast⟩
    rw [bound] at boundBefore ⊢
    rw [List.foldl_append, boundBefore, List.foldl_cons, List.foldl_nil, bind, addedLast]

end bound

section scalars

theorem scalar_sendable {value : Scalar} {encoded : Bytes} (encodes : value.encode = .ok encoded) :
    (EncodeValue.ofScalar value).Sendable := by
  refine ⟨encoded, .no, by rw [EncodeValue.ofScalar, encodes]; rfl, ?_⟩
  cases value with
  | string text =>
    cases encodes
    rcases nvarcharParameterSize_cases text with ⟨_, max⟩ | ⟨short, _⟩
    · exact .inl (congrArg some max)
    · exact .inr (.inr (by omega))
  | bytes value =>
    cases encodes
    rcases varbinaryParameterSize_cases encoded.length with ⟨_, max⟩ | ⟨short, _⟩
    · exact .inl (congrArg some max)
    · exact .inr (.inr (by omega))
  | u64 value =>
    simp only [Scalar.encode] at encodes
    split at encodes
    · cases encodes
      exact .inr (by rw [intBytes_length]; decide)
    · cases encodes
  | bool value =>
    cases encodes
    exact .inr (by simp)
  | u8 value =>
    cases encodes
    exact .inr (by simp)
  | f32 bits =>
    cases encodes
    exact .inr (by rw [leBytes_length]; decide)
  | f64 bits =>
    cases encodes
    exact .inr (by rw [leBytes_length]; decide)
  | _ =>
    cases encodes
    exact .inr (by rw [intBytes_length]; decide)

theorem argument_sendable [NoneEncoding] {argument : Argument} {encoded : Bytes} {isNull : IsNull}
    (encodes : argument.encode = .ok (encoded, isNull)) :
    (EncodeValue.ofArgument argument).Sendable := by
  cases argument with
  | none type =>
    refine ⟨[], .yes, rfl, ?_⟩
    rw [EncodeValue.ofArgument_typeInfo, Argument.typeInfo_none]
    cases type with
    | string => exact .inr (.inl rfl)
    | bytes => exact .inr (.inl rfl)
    | _ => exact .inl rfl
  | scalar value =>
    cases outcome : value.encode with
    | error error =>
      rw [Argument.encode, outcome] at encodes
      cases encodes
    | ok content => exact scalar_sendable outcome

end scalars
end SqlxSqlserver.Driver

import SqlxSqlserver.Driver.Arrival

/-! The driver behind `Any`. Its values and types are those of sqlx-core, which knows neither the
unsigned numbers nor the times; what it binds is bound as the native arguments of the same type. -/

namespace SqlxSqlserver.Driver
open Foundation Protocol Reader

inductive AnyTypeInfoKind where
  | null | bool | smallInt | integer | bigInt | real | double | text | blob
  deriving DecidableEq, Repr

/-- `AnyValueKind`, which may get other variants; `TextSlice` and `Text` share their string. -/
inductive AnyValueKind where
  | null (kind : AnyTypeInfoKind)
  | bool (value : Bool)
  | smallInt (value : Int16)
  | integer (value : Int32)
  | bigInt (value : Int64)
  | real (bits : UInt32)
  | double (bits : UInt64)
  | text (value : String)
  | textSlice (value : String)
  | blob (value : Bytes)
  | other (debug : String)
  deriving DecidableEq

/-- The error of a type that `Any` has not; its text shows the type by its `Debug`. -/
inductive AnyError where
  | unsupportedType (typeInfo : MssqlTypeInfo)
  deriving DecidableEq

section conversions

def mssqlTypeFromAny : AnyTypeInfoKind → MssqlTypeInfo
  | .bool => .bit
  | .smallInt => .smallInt
  | .integer | .null => .int
  | .bigInt => .bigInt
  | .real => .real
  | .double => .float
  | .text => .nVarChar
  | .blob => .varBinary

def AnyTypeInfoKind.tryFrom (typeInfo : MssqlTypeInfo) : Except AnyError AnyTypeInfoKind :=
  match typeInfo.kind with
  | .null => .ok .null
  | .bit => .ok .bool
  | .smallInt => .ok .smallInt
  | .int => .ok .integer
  | .bigInt => .ok .bigInt
  | .real => .ok .real
  | .float => .ok .double
  | .nVarChar | .varChar => .ok .text
  | .varBinary => .ok .blob
  | .tinyInt | .decimal | .money | .date | .time | .dateTime | .dateTime2 | .dateTimeOffset
  | .uniqueIdentifier | .other _ => .error (.unsupportedType typeInfo)

def AnyValueKind.argument : AnyValueKind → Except BoxDynError Argument
  | .null .null => .ok (.none .i32)
  | .null .bool => .ok (.none .bool)
  | .null .smallInt => .ok (.none .i16)
  | .null .integer => .ok (.none .i32)
  | .null .bigInt => .ok (.none .i64)
  | .null .real => .ok (.none .f32)
  | .null .double => .ok (.none .f64)
  | .null .text => .ok (.none .string)
  | .null .blob => .ok (.none .bytes)
  | .bool value => .ok (.scalar (.bool value))
  | .smallInt value => .ok (.scalar (.i16 value))
  | .integer value => .ok (.scalar (.i32 value))
  | .bigInt value => .ok (.scalar (.i64 value))
  | .real bits => .ok (.scalar (.f32 bits))
  | .double bits => .ok (.scalar (.f64 bits))
  | .text value => .ok (.scalar (.string value))
  | .textSlice value => .ok (.scalar (.string value))
  | .blob value => .ok (.scalar (.bytes value))
  | .other debug =>
    .error (.message ("SQL Server Any driver does not support argument value " ++ debug))

variable [NoneEncoding]

def addAny (out : MssqlArguments) (value : AnyValueKind) : Except BoxDynError MssqlArguments := do
  let argument ← value.argument
  match out.add argument with
  | (.ok (), next) => return next
  | (.error source, _) => throw source

def convertAnyArguments (arguments : List AnyValueKind) : Except BoxDynError MssqlArguments :=
  arguments.foldlM addAny .default

end conversions

section converting

/-- The kind that a value is found to have on the other side: a NULL of no kind is sent as one of
the integers. -/
def AnyValueKind.sentAs : AnyValueKind → AnyTypeInfoKind
  | .null .null => .integer
  | .null kind => kind
  | .bool _ => .bool
  | .smallInt _ => .smallInt
  | .integer _ => .integer
  | .bigInt _ => .bigInt
  | .real _ => .real
  | .double _ => .double
  | .text _ | .textSlice _ => .text
  | .blob _ => .blob
  | .other _ => .null

section
variable {value : AnyValueKind} {argument : Argument} (native : value.argument = .ok argument)
include native

theorem AnyValueKind.prepared_kind :
    argument.type.typeInfo.kind = (mssqlTypeFromAny value.sentAs).kind := by
  cases value with
  | null any => cases any <;> cases native <;> rfl
  | other debug => cases native
  | _ => cases native; rfl

/-- The type information of the native value leads back to the kind. -/
theorem AnyValueKind.sentAs_of_argument {typeInfo : MssqlTypeInfo}
    (kind : typeInfo.kind = argument.type.typeInfo.kind) :
    AnyTypeInfoKind.tryFrom typeInfo = .ok value.sentAs := by
  rw [AnyTypeInfoKind.tryFrom, kind]
  cases value with
  | null any => cases any <;> cases native <;> rfl
  | other debug => cases native
  | _ => cases native; rfl

theorem AnyValueKind.encodes [NoneEncoding] : ∃ encoded isNull, argument.encode = .ok (encoded, isNull) := by
  cases value with
  | null any => cases any <;> cases native <;> exact ⟨_, _, rfl⟩
  | other debug => cases native
  | _ => cases native; exact ⟨_, _, rfl⟩

theorem addAny_ok [NoneEncoding] {out next : MssqlArguments} (added : out.add argument = (.ok (), next)) :
    addAny out value = .ok next := by
  rw [addAny, native]
  change (match out.add argument with
    | (.ok (), next) => (.ok next : Except BoxDynError MssqlArguments)
    | (.error source, _) => .error source) = .ok next
  rw [added]

end

def Native (values : List AnyValueKind) (arguments : List Argument) : Prop :=
  List.Forall₂ (fun value argument => value.argument = .ok argument) values arguments

theorem Native.all {values : List AnyValueKind} {arguments : List Argument}
    (native : Native values arguments) :
    ∀ value ∈ values, ∃ argument, value.argument = .ok argument := by
  induction native with
  | nil => simp
  | cons here _ ih => exact List.forall_mem_cons.mpr ⟨⟨_, here⟩, ih⟩

variable [NoneEncoding]

theorem addAny_error {value : AnyValueKind} {source : BoxDynError}
    (foreign : value.argument = .error source) (out : MssqlArguments) :
    addAny out value = .error source := by
  rw [addAny, foreign]
  rfl

theorem convertAnyArguments_snoc (values : List AnyValueKind) (value : AnyValueKind) :
    convertAnyArguments (values ++ [value]) =
      convertAnyArguments values >>= fun out => addAny out value := by
  rw [convertAnyArguments, List.foldlM_append]
  simp only [List.foldlM_cons, List.foldlM_nil, bind_pure]
  rfl

/-- A value that `Any` does not share with the driver stops the conversion. -/
def StoppedBy (values : List AnyValueKind) (source : BoxDynError) : Prop :=
  ∃ before value after, values = before ++ value :: after ∧
    (∀ other ∈ before, ∃ argument, other.argument = .ok argument) ∧ value.argument = .error source

/-- The values are added in order as their native ones, up to the first that has none. -/
def ConvertsTo (values : List AnyValueKind) : Except BoxDynError MssqlArguments → Prop
  | .ok out => ∃ arguments, Native values arguments ∧ Built arguments out
  | .error source => StoppedBy values source

theorem convertAnyArguments_spec (values : List AnyValueKind) (few : values.length < 2 ^ 64) :
    ConvertsTo values (convertAnyArguments values) := by
  induction values using List.reverseRecOn with
  | nil => exact ⟨[], .nil, .empty⟩
  | append_singleton values value ih =>
    rw [List.length_append, List.length_singleton] at few
    have earlier := ih (by omega)
    rw [convertAnyArguments_snoc]
    cases converted : convertAnyArguments values with
    | error source =>
      rw [converted] at earlier
      obtain ⟨before, first, after, rfl, fine, stops⟩ := earlier
      exact ⟨before, first, after ++ [value], by simp, fine, stops⟩
    | ok out =>
      rw [converted] at earlier
      obtain ⟨arguments, natives, built⟩ := earlier
      change ConvertsTo (values ++ [value]) (addAny out value)
      cases native : value.argument with
      | error source =>
        rw [addAny_error native]
        exact ⟨values, value, [], rfl, natives.all, native⟩
      | ok argument =>
        obtain ⟨encoded, isNull, encodes⟩ := AnyValueKind.encodes native
        have count : out.len + 1 < 2 ^ 64 := by
          rw [(built_carries built).1, ← natives.length_eq]
          exact few
        obtain ⟨next, added⟩ := (argument_sendable encodes).add count
        rw [addAny_ok native added]
        exact ⟨arguments ++ [argument], List.rel_append natives (.cons native .nil), .add built added⟩

end converting

section travelling
variable {name : String}

/-- What arrives for a value: the type that a statement is prepared with for its kind, which is of
this kind again, and its native value or NULL. -/
def CarriesAny (parameter : RpcParameter) (name : String) (value : AnyValueKind) : Prop :=
  parameter.name = name ∧ parameter.status = 0 ∧ ∃ typeInfo argument,
    (MssqlTypeInfo.fromProtocol parameter.typeInfo : Outcome BoxDynError MssqlTypeInfo) =
      .ok typeInfo ∧ typeInfo.kind = (mssqlTypeFromAny value.sentAs).kind ∧
    AnyTypeInfoKind.tryFrom typeInfo = .ok value.sentAs ∧
    value.argument = .ok argument ∧ IsData typeInfo parameter.value argument

theorem Typed.carriesAny {parameter : RpcParameter} {value : AnyValueKind} {argument : Argument}
    (typed : Typed parameter (name, argument)) (native : value.argument = .ok argument) :
    CarriesAny parameter name value := by
  obtain ⟨⟨named, status, typeInfo, back, data⟩, other, again, kind⟩ := typed
  obtain rfl := Outcome.ok.inj (back.symm.trans again)
  refine ⟨named, status, typeInfo, argument, back, kind.trans (value.prepared_kind native),
    value.sentAs_of_argument native kind, native, ?_⟩
  cases argument with
  | scalar value => exact data
  | none type => exact data

variable [NoneEncoding]

theorem Built.added {arguments : List Argument} {out : MssqlArguments}
    (built : Built arguments out) : Added (arguments.map .ofArgument) out := by
  induction built with
  | empty => exact .empty
  | add earlier added ih =>
    rw [List.map_append]
    exact .add ih added

def Arrive (values : List AnyValueKind) (out : MssqlArguments) : Prop :=
  ∃ parameters, RpcParameter.getAll out.data = .ok (parameters, []) ∧
    parameters.length = values.length ∧ ∀ (index : Nat) parameter value,
      parameters[index]? = some parameter → values[index]? = some value →
        CarriesAny parameter (parameterName (index + 1)) value

theorem arrive_of_built {values : List AnyValueKind} {arguments : List Argument}
    {out : MssqlArguments} (native : Native values arguments) (built : Built arguments out)
    (vec : out.data.length ≤ isizeMax) : Arrive values out := by
  obtain ⟨parameters, read, count, each⟩ :=
    added_arrives (fun argument _ => argument_typed argument) built.added vec
  refine ⟨parameters, read, count.trans native.length_eq.symm, ?_⟩
  intro index parameter value foundParameter foundValue
  obtain ⟨within, rfl⟩ := List.getElem?_eq_some_iff.mp foundValue
  have inside : index < arguments.length := native.length_eq ▸ within
  have typed := each index parameter _ foundParameter (List.getElem?_eq_getElem inside)
  exact typed.carriesAny (native.get within inside)

/-- The arguments of a query of `Any` are converted up to the first that the driver does not know;
when all of them are known, each arrives as a parameter whose type is of its kind again, with its
value. -/
theorem any_arguments_arrive (values : List AnyValueKind) (few : values.length < 2 ^ 64) :
    (∀ out, convertAnyArguments values = .ok out → out.data.length ≤ isizeMax →
      Arrive values out) ∧
    ∀ source, convertAnyArguments values = .error source → StoppedBy values source := by
  have converted := convertAnyArguments_spec values few
  constructor
  · intro out done vec
    rw [done] at converted
    obtain ⟨arguments, native, built⟩ := converted
    exact arrive_of_built native built vec
  · intro source stopped
    rwa [stopped] at converted

end travelling

section samples

def textAndNull : List AnyValueKind := [.text "hi", .null .null]

def textAndNullArguments : MssqlArguments where
  len := 2
  data := [3, 64, 0, 112, 0, 49, 0, 0, 231, 4, 0, 129, 4, 208, 0, 52, 4, 0, 104, 0, 105, 0, 3, 64, 0,
    112, 0, 50, 0, 0, 38, 4, 0]
  declarations := "@p1 nvarchar(2),@p2 int"

theorem any_arguments_arrive_textAndNull : Arrive textAndNull textAndNullArguments := by
  let _ := typedNone
  have converted : convertAnyArguments textAndNull = .ok textAndNullArguments := by decide
  exact (any_arguments_arrive textAndNull (by decide)).1 _ converted (by decide)

end samples
end SqlxSqlserver.Driver

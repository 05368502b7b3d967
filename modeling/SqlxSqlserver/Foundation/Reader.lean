import SqlxSqlserver.Foundation.LittleEndian

/-! Readers over byte strings with three outcomes: a value and the unread rest, an
error, or a panic. A reader that decides on the bytes it consumes alone is local, and
locality is what lets formats be described by concatenation. -/

namespace SqlxSqlserver.Foundation

inductive Outcome (ε α : Type) where
  | ok (value : α)
  | err (error : ε)
  | panic (message : String)
  deriving DecidableEq, Repr

namespace Outcome
variable {ε ε' α β : Type}

instance : Monad (Outcome ε) where
  pure := .ok
  bind outcome next :=
    match outcome with
    | .ok value => next value
    | .err error => .err error
    | .panic message => .panic message

def mapErr (convert : ε → ε') : Outcome ε α → Outcome ε' α
  | .ok value => .ok value
  | .err error => .err (convert error)
  | .panic message => .panic message

def ofExcept : Except ε α → Outcome ε α
  | .ok value => .ok value
  | .error error => .err error

theorem ok_bind (value : α) (next : α → Outcome ε β) : (Outcome.ok value >>= next) = next value := rfl

theorem map_ok (convert : α → β) (value : α) :
    convert <$> (Outcome.ok value : Outcome ε α) = .ok (convert value) := rfl

theorem bind_ok_iff {outcome : Outcome ε α} {next : α → Outcome ε β} {result : β} :
    (outcome >>= next) = .ok result ↔ ∃ value, outcome = .ok value ∧ next value = .ok result := by
  cases outcome with
  | ok value =>
    change next value = .ok result ↔ _
    simp only [ok.injEq, exists_eq_left']
  | err error => exact iff_of_false (fun same => nomatch same) fun ⟨_, same, _⟩ => nomatch same
  | panic message => exact iff_of_false (fun same => nomatch same) fun ⟨_, same, _⟩ => nomatch same

theorem return_ok_iff {outcome : Outcome ε α} {convert : α → β} {value : α}
    (injective : ∀ found, convert found = convert value → found = value) :
    (outcome >>= fun found => pure (convert found)) = .ok (convert value) ↔ outcome = .ok value := by
  rw [bind_ok_iff]
  constructor
  · intro ⟨found, done, same⟩
    rw [done, injective found (ok.inj same)]
  · intro done
    exact ⟨value, done, rfl⟩

theorem mapErr_id (outcome : Outcome ε α) : outcome.mapErr id = outcome := by
  cases outcome <;> rfl

theorem ofExcept_ok_iff {result : Except ε α} {value : α} :
    ofExcept result = .ok value ↔ result = .ok value := by
  cases result <;> simp [ofExcept]

theorem mapErr_ok_iff {convert : ε → ε'} {outcome : Outcome ε α} {value : α} :
    outcome.mapErr convert = .ok value ↔ outcome = .ok value := by
  cases outcome <;> simp [mapErr]

theorem ok_of_mapErr {convert : ε → ε'} {outcome : Outcome ε α} {value : α}
    (done : outcome.mapErr convert = .ok value) : outcome = .ok value := by
  cases outcome with
  | ok found => exact congrArg Outcome.ok (Outcome.ok.inj done)
  | err error => cases done
  | panic message => cases done

section panics
variable {outcome : Outcome ε α} {next : α → Outcome ε β}

def Panics (outcome : Outcome ε α) : Prop := ∃ message, outcome = .panic message

@[simp] theorem not_panics_ok (value : α) : ¬(Outcome.ok value : Outcome ε α).Panics := by
  rintro ⟨message, outcome⟩
  cases outcome

@[simp] theorem not_panics_err (error : ε) : ¬(Outcome.err error : Outcome ε α).Panics := by
  rintro ⟨message, outcome⟩
  cases outcome

@[simp] theorem panics_panic (message : String) : (Outcome.panic message : Outcome ε α).Panics :=
  ⟨message, rfl⟩

@[simp] theorem not_panics_ofExcept (result : Except ε α) : ¬(ofExcept result).Panics := by
  cases result with
  | ok value => exact not_panics_ok value
  | error error => exact not_panics_err error

theorem panics_bind_iff : (outcome >>= next).Panics ↔
    outcome.Panics ∨ ∃ value, outcome = .ok value ∧ (next value).Panics := by
  cases outcome with
  | ok value =>
    change (next value).Panics ↔ _
    simp only [not_panics_ok, ok.injEq, exists_eq_left', false_or]
  | err error =>
    change (Outcome.err error : Outcome ε β).Panics ↔ _
    simp only [not_panics_err, reduceCtorEq, false_and, exists_false, or_self]
  | panic message =>
    change (Outcome.panic message : Outcome ε β).Panics ↔ _
    simp only [panics_panic, true_or]

theorem panics_bind_of_calm (head : ¬outcome.Panics) : (outcome >>= next).Panics ↔
    ∃ value, outcome = .ok value ∧ (next value).Panics := by
  rw [panics_bind_iff, or_iff_right head]

theorem panics_bind_calm (tail : ∀ value, outcome = .ok value → ¬(next value).Panics) :
    (outcome >>= next).Panics ↔ outcome.Panics := by
  rw [panics_bind_iff, or_iff_left]
  rintro ⟨value, done, later⟩
  exact tail value done later

theorem panics_return_iff (convert : α → β) :
    (outcome >>= fun value => pure (convert value)).Panics ↔ outcome.Panics :=
  panics_bind_calm fun value _ => not_panics_ok (convert value)

theorem not_panics_bind (head : ¬outcome.Panics)
    (tail : ∀ value, outcome = .ok value → ¬(next value).Panics) : ¬(outcome >>= next).Panics := by
  rwa [panics_bind_calm tail]

theorem answers_iff :
    ((∃ value, outcome = .ok value) ∨ ∃ error, outcome = .err error) ↔ ¬outcome.Panics := by
  cases outcome with
  | ok value => exact iff_of_true (.inl ⟨value, rfl⟩) (not_panics_ok value)
  | err error => exact iff_of_true (.inr ⟨error, rfl⟩) (not_panics_err error)
  | panic message =>
    apply iff_of_false
    · rintro (⟨value, answer⟩ | ⟨error, answer⟩)
      · cases answer
      · cases answer
    · exact not_not.mpr (panics_panic message)

end panics
end Outcome

def Reader (ε α : Type) : Type := Bytes → Outcome ε (α × Bytes)

namespace Reader
variable {ε ε' α β σ : Type}

instance : Monad (Reader ε) where
  pure value := fun input => .ok (value, input)
  bind reader next := fun input =>
    match reader input with
    | .ok (value, rest) => next value rest
    | .err error => .err error
    | .panic message => .panic message

def fail (error : ε) : Reader ε α := fun _ => .err error

def panic (message : String) : Reader ε α := fun _ => .panic message

def take (eof : ε) (count : Nat) : Reader ε Bytes := fun input =>
  if count ≤ input.length then .ok (input.take count, input.drop count) else .err eof

def le (eof : ε) (width : Nat) : Reader ε Nat := do
  return leNat (← take eof width)

def byte (eof : ε) : Reader ε UInt8 := do
  return UInt8.ofNat (← le eof 1)

def mapErr (convert : ε → ε') (reader : Reader ε α) : Reader ε' α := fun input =>
  match reader input with
  | .ok result => .ok result
  | .err error => .err (convert error)
  | .panic message => .panic message

def ofOutcome (outcome : Outcome ε α) : Reader ε α := fun input =>
  match outcome with
  | .ok value => .ok (value, input)
  | .err error => .err error
  | .panic message => .panic message

def isEmpty : Reader ε Bool := fun input => .ok (input.isEmpty, input)

def within (reader : Reader ε α) (buffer : Bytes) : Reader ε α := fun input =>
  match reader buffer with
  | .ok (value, _) => .ok (value, input)
  | .err error => .err error
  | .panic message => .panic message

@[simp] theorem pure_apply (value : α) (input : Bytes) :
    (pure value : Reader ε α) input = .ok (value, input) := rfl

theorem bind_apply (reader : Reader ε α) (next : α → Reader ε β) (input : Bytes) :
    (reader >>= next) input = match reader input with
      | .ok (value, rest) => next value rest
      | .err error => .err error
      | .panic message => .panic message := rfl

@[simp] theorem bind_ok {reader : Reader ε α} {input rest : Bytes} {value : α}
    (first : reader input = .ok (value, rest)) (next : α → Reader ε β) :
    (reader >>= next) input = next value rest := by
  rw [bind_apply, first]

theorem of_bind_ok {reader : Reader ε α} {next : α → Reader ε β} {input rest : Bytes} {value : β}
    (whole : (reader >>= next) input = .ok (value, rest)) :
    ∃ first middle, reader input = .ok (first, middle) ∧ next first middle = .ok (value, rest) := by
  rw [bind_apply] at whole
  cases outcome : reader input with
  | ok result =>
    rw [outcome] at whole
    exact ⟨result.1, result.2, rfl, whole⟩
  | err error => rw [outcome] at whole; cases whole
  | panic message => rw [outcome] at whole; cases whole

theorem of_mapErr_ok {convert : ε → ε'} {reader : Reader ε α} {input : Bytes} {result : α × Bytes}
    (whole : mapErr convert reader input = .ok result) : reader input = .ok result := by
  unfold mapErr at whole
  cases outcome : reader input with
  | ok value => rw [outcome] at whole; cases whole; rfl
  | err error => rw [outcome] at whole; cases whole
  | panic message => rw [outcome] at whole; cases whole

theorem mapErr_ok {convert : ε → ε'} {reader : Reader ε α} {input : Bytes} {result : α × Bytes}
    (inner : reader input = .ok result) : mapErr convert reader input = .ok result := by
  rw [mapErr, inner]

/-- `bytes` is exactly what `reader` consumes to return `value`, whatever follows. -/
def Reads (reader : Reader ε α) (bytes : Bytes) (value : α) : Prop :=
  ∀ rest, reader (bytes ++ rest) = .ok (value, rest)

/-- Success depends on the consumed prefix alone. -/
def Local (reader : Reader ε α) : Prop :=
  ∀ input value rest, reader input = .ok (value, rest) →
    ∃ bytes, input = bytes ++ rest ∧ Reads reader bytes value

theorem reads_pure (value : α) : Reads (pure value : Reader ε α) [] value := fun _ => rfl

theorem Reads.bind {reader : Reader ε α} {next : α → Reader ε β} {first second : Bytes}
    {value : α} {result : β} (head : Reads reader first value)
    (tail : Reads (next value) second result) : Reads (reader >>= next) (first ++ second) result := by
  intro rest
  rw [List.append_assoc, bind_ok (head _)]
  exact tail rest

theorem reads_take (eof : ε) (bytes : Bytes) : Reads (take eof bytes.length) bytes bytes := by
  intro rest
  simp [take]

theorem reads_le (eof : ε) (bytes : Bytes) : Reads (le eof bytes.length) bytes (leNat bytes) := by
  intro rest
  rw [le, bind_ok (reads_take eof bytes rest)]
  rfl

theorem reads_le_leBytes (eof : ε) {width value : Nat} (fits : value < 256 ^ width) :
    Reads (le eof width) (leBytes width value) value := by
  have digits := reads_le eof (leBytes width value)
  rwa [leBytes_length, leNat_leBytes_of_lt fits] at digits

theorem reads_byte (eof : ε) (byte : UInt8) : Reads (Reader.byte eof) [byte] byte := by
  intro rest
  have digit : leNat [byte] = byte.toNat := Nat.add_zero _
  have number : le eof 1 ([byte] ++ rest) = .ok (leNat [byte], rest) := reads_le eof [byte] rest
  rw [Reader.byte, bind_ok number, digit, UInt8.ofNat_toNat]
  rfl

theorem Reads.mapErr {reader : Reader ε α} {bytes : Bytes} {value : α}
    (inner : Reads reader bytes value) (convert : ε → ε') :
    Reads (reader.mapErr convert) bytes value := fun rest => mapErr_ok (inner rest)

theorem local_pure (value : α) : Local (pure value : Reader ε α) := by
  intro input result rest outcome
  cases outcome
  exact ⟨[], rfl, reads_pure value⟩

theorem local_fail (error : ε) : Local (fail error : Reader ε α) := by
  intro input result rest outcome
  cases outcome

theorem local_panic (message : String) : Local (panic message : Reader ε α) := by
  intro input result rest outcome
  cases outcome

theorem Local.bind {reader : Reader ε α} {next : α → Reader ε β} (head : Local reader)
    (tail : ∀ value, Local (next value)) : Local (reader >>= next) := by
  intro input result rest outcome
  obtain ⟨value, middle, first, second⟩ := of_bind_ok outcome
  obtain ⟨bytes, rfl, readsFirst⟩ := head _ _ _ first
  obtain ⟨more, rfl, readsSecond⟩ := tail value _ _ _ second
  exact ⟨bytes ++ more, (List.append_assoc ..).symm, readsFirst.bind readsSecond⟩

theorem take_ok {eof : ε} {count : Nat} {input bytes rest : Bytes}
    (outcome : take eof count input = .ok (bytes, rest)) :
    input = bytes ++ rest ∧ bytes.length = count := by
  unfold take at outcome
  split at outcome
  next enough =>
    cases outcome
    exact ⟨(List.take_append_drop count input).symm, by simp [enough]⟩
  next => cases outcome

theorem local_take (eof : ε) (count : Nat) : Local (take eof count) := by
  intro input bytes rest outcome
  obtain ⟨split, length⟩ := take_ok outcome
  exact ⟨bytes, split, length ▸ reads_take eof bytes⟩

theorem local_le (eof : ε) (width : Nat) : Local (le eof width) :=
  (local_take eof width).bind fun _ => local_pure _

theorem local_byte (eof : ε) : Local (byte eof) := (local_le eof 1).bind fun _ => local_pure _

theorem Local.ok_iff {reader : Reader ε α} (decides : Local reader) (input : Bytes) (value : α)
    (rest : Bytes) :
    reader input = .ok (value, rest) ↔ ∃ bytes, input = bytes ++ rest ∧ Reads reader bytes value := by
  constructor
  · exact decides input value rest
  · rintro ⟨bytes, rfl, reads⟩
    exact reads rest

/-- Using up its input once is enough for a local reader to have found its bytes. -/
theorem Local.reads {reader : Reader ε α} (decides : Local reader) {bytes : Bytes} {value : α}
    (outcome : reader bytes = .ok (value, [])) : Reads reader bytes value := by
  obtain ⟨same, split, reads⟩ := decides _ _ _ outcome
  rw [List.append_nil] at split
  exact split ▸ reads

theorem Local.ok_of_reads {reader : Reader ε α} {other : Reader ε' β} {input rest : Bytes} {value : α}
    {result : β} (decides : Local reader)
    (same : ∀ bytes, Reads reader bytes value → Reads other bytes result)
    (outcome : reader input = .ok (value, rest)) : other input = .ok (result, rest) := by
  obtain ⟨bytes, rfl, reads⟩ := decides _ _ _ outcome
  exact same bytes reads rest

/-- What a composition with a local head succeeds on. -/
theorem Local.bind_ok_iff {reader : Reader ε α} (head : Local reader) {next : α → Reader ε β}
    {input rest : Bytes} {result : β} : (reader >>= next) input = .ok (result, rest) ↔
      ∃ bytes value middle, input = bytes ++ middle ∧ Reads reader bytes value ∧
        next value middle = .ok (result, rest) := by
  constructor
  · intro whole
    obtain ⟨value, middle, first, second⟩ := of_bind_ok whole
    obtain ⟨bytes, split, reads⟩ := head _ _ _ first
    exact ⟨bytes, value, middle, split, reads, second⟩
  · rintro ⟨bytes, value, middle, rfl, reads, second⟩
    rwa [bind_ok (reads middle)]

/-- The format of a composition is the concatenation of the formats. -/
theorem Reads.bind_iff {reader : Reader ε α} {next : α → Reader ε β} (head : Local reader)
    (tail : ∀ value, Local (next value)) (bytes : Bytes) (result : β) :
    Reads (reader >>= next) bytes result ↔ ∃ first value second,
      bytes = first ++ second ∧ Reads reader first value ∧ Reads (next value) second result := by
  constructor
  · intro whole
    have outcome := whole []
    obtain ⟨value, middle, one, two⟩ := of_bind_ok outcome
    obtain ⟨first, split, readsFirst⟩ := head _ _ _ one
    obtain ⟨second, rfl, readsSecond⟩ := tail value _ _ _ two
    rw [List.append_nil, List.append_nil] at split
    exact ⟨first, value, second, split, readsFirst, readsSecond⟩
  · rintro ⟨first, value, second, rfl, one, two⟩
    exact one.bind two

theorem Local.mapErr {reader : Reader ε α} (inner : Local reader) (convert : ε → ε') :
    Local (reader.mapErr convert) := by
  intro input value rest outcome
  obtain ⟨bytes, split, reads⟩ := inner _ _ _ (of_mapErr_ok outcome)
  exact ⟨bytes, split, reads.mapErr convert⟩

theorem le_ok {eof : ε} {width value : Nat} {input rest : Bytes}
    (outcome : le eof width input = .ok (value, rest)) :
    ∃ bytes, input = bytes ++ rest ∧ bytes.length = width ∧ value = leNat bytes := by
  obtain ⟨bytes, middle, taken, result⟩ := of_bind_ok outcome
  cases result
  exact ⟨bytes, (take_ok taken).1, (take_ok taken).2, rfl⟩

theorem reads_pure_iff {value result : α} {bytes : Bytes} :
    Reads (pure value : Reader ε α) bytes result ↔ bytes = [] ∧ result = value := by
  constructor
  · intro reads
    have outcome := reads []
    rw [List.append_nil, pure_apply] at outcome
    cases outcome
    exact ⟨rfl, rfl⟩
  · rintro ⟨rfl, rfl⟩
    exact reads_pure result

theorem not_reads_fail {error : ε} {bytes : Bytes} {value : α} :
    ¬Reads (fail error : Reader ε α) bytes value := fun reads => nomatch reads []

theorem not_reads_panic {message : String} {bytes : Bytes} {value : α} :
    ¬Reads (panic message : Reader ε α) bytes value := fun reads => nomatch reads []

theorem reads_mapErr_iff {convert : ε → ε'} {reader : Reader ε α} {bytes : Bytes} {value : α} :
    Reads (reader.mapErr convert) bytes value ↔ Reads reader bytes value :=
  ⟨fun reads rest => of_mapErr_ok (reads rest), fun reads => reads.mapErr convert⟩

theorem Reads.map_iff {reader : Reader ε α} (decides : Local reader) {compute : α → β}
    {bytes : Bytes} {result : β} :
    Reads (do return compute (← reader) : Reader ε β) bytes result ↔
      ∃ value, Reads reader bytes value ∧ result = compute value := by
  rw [Reads.bind_iff decides fun _ => local_pure _]
  constructor
  · rintro ⟨first, value, second, rfl, head, tail⟩
    obtain ⟨rfl, rfl⟩ := reads_pure_iff.mp tail
    exact ⟨value, (List.append_nil first).symm ▸ head, rfl⟩
  · rintro ⟨value, reads, rfl⟩
    exact ⟨bytes, value, [], (List.append_nil bytes).symm, reads, reads_pure _⟩

theorem reads_le_iff {eof : ε} {width value : Nat} {bytes : Bytes} :
    Reads (le eof width) bytes value ↔ bytes = leBytes width value ∧ value < 256 ^ width := by
  constructor
  · intro reads
    have outcome := reads []
    obtain ⟨digits, same, length, rfl⟩ := le_ok outcome
    rw [List.append_cancel_right same, ← length, leBytes_leNat]
    exact ⟨rfl, leNat_lt digits⟩
  · rintro ⟨rfl, fits⟩
    exact reads_le_leBytes eof fits

theorem reads_byte_iff {eof : ε} {bytes : Bytes} {value : UInt8} :
    Reads (byte eof) bytes value ↔ bytes = [value] := by
  constructor
  · intro reads
    obtain ⟨number, digit, rfl⟩ := (Reads.map_iff (local_le eof 1)).mp reads
    exact (reads_le_iff.mp digit).1
  · rintro rfl
    exact reads_byte eof value

theorem reads_take_iff {eof : ε} {count : Nat} {bytes value : Bytes} :
    Reads (take eof count) bytes value ↔ bytes = value ∧ value.length = count := by
  constructor
  · intro reads
    obtain ⟨split, length⟩ := take_ok (reads [])
    exact ⟨List.append_cancel_right split, length⟩
  · rintro ⟨rfl, rfl⟩
    exact reads_take eof bytes

theorem reads_counted_iff {eof : ε} {width : Nat} {bytes value : Bytes} :
    Reads (do take eof (← le eof width)) bytes value ↔
      value.length < 256 ^ width ∧ bytes = leBytes width value.length ++ value := by
  rw [Reads.bind_iff (local_le eof width) (local_take eof)]
  constructor
  · rintro ⟨first, count, second, rfl, head, rest⟩
    obtain ⟨rfl, fits⟩ := reads_le_iff.mp head
    obtain ⟨rfl, rfl⟩ := reads_take_iff.mp rest
    exact ⟨fits, rfl⟩
  · rintro ⟨fits, rfl⟩
    exact ⟨_, value.length, value, rfl, reads_le_iff.mpr ⟨rfl, fits⟩,
      reads_take_iff.mpr ⟨rfl, rfl⟩⟩

section shrinking

def Shrinks (reader : Reader ε α) : Prop :=
  ∀ input value rest, reader input = .ok (value, rest) → rest.length < input.length

theorem Local.rest_le {reader : Reader ε α} (decides : Local reader) {input rest : Bytes} {value : α}
    (outcome : reader input = .ok (value, rest)) : rest.length ≤ input.length := by
  obtain ⟨bytes, rfl, _⟩ := decides _ _ _ outcome
  rw [List.length_append]
  exact Nat.le_add_left _ _

theorem shrinks_le (eof : ε) {width : Nat} (positive : 0 < width) : Shrinks (le eof width) := by
  intro input value rest outcome
  obtain ⟨bytes, rfl, length, _⟩ := le_ok outcome
  rw [List.length_append]
  omega

theorem Shrinks.bind {reader : Reader ε α} {next : α → Reader ε β} (head : Shrinks reader)
    (tail : ∀ value, Local (next value)) : Shrinks (reader >>= next) := by
  intro input result rest outcome
  obtain ⟨value, middle, first, second⟩ := of_bind_ok outcome
  exact ((tail value).rest_le second).trans_lt (head _ _ _ first)

theorem shrinks_byte (eof : ε) : Shrinks (byte eof) :=
  (shrinks_le eof Nat.one_pos).bind fun _ => local_pure _

end shrinking

section panics

def Panics (reader : Reader ε α) (input : Bytes) : Prop := ∃ message, reader input = .panic message

/-- The reader panics on no input. -/
def Calm (reader : Reader ε α) : Prop := ∀ input, ¬Panics reader input

theorem panics_bind_iff {reader : Reader ε α} {next : α → Reader ε β} {input : Bytes} :
    Panics (reader >>= next) input ↔ Panics reader input ∨
      ∃ value rest, reader input = .ok (value, rest) ∧ Panics (next value) rest := by
  unfold Panics
  rw [bind_apply]
  cases outcome : reader input with
  | ok result =>
    constructor
    · exact fun later => .inr ⟨result.1, result.2, rfl, later⟩
    · rintro (⟨message, early⟩ | ⟨value, rest, same, later⟩)
      · cases early
      · cases same
        exact later
  | err error => simp
  | panic message => simp

theorem panics_mapErr_iff {convert : ε → ε'} {reader : Reader ε α} {input : Bytes} :
    Panics (mapErr convert reader) input ↔ Panics reader input := by
  unfold Panics mapErr
  cases reader input <;> simp

theorem calm_pure (value : α) : Calm (pure value : Reader ε α) := by
  rintro input ⟨message, outcome⟩
  cases outcome

theorem calm_fail (error : ε) : Calm (fail error : Reader ε α) := by
  rintro input ⟨message, outcome⟩
  cases outcome

theorem calm_take (eof : ε) (count : Nat) : Calm (take eof count) := by
  rintro input ⟨message, outcome⟩
  unfold take at outcome
  split at outcome <;> cases outcome

theorem Calm.bind {reader : Reader ε α} {next : α → Reader ε β} (head : Calm reader)
    (tail : ∀ value, Calm (next value)) : Calm (reader >>= next) := by
  intro input panics
  rcases panics_bind_iff.mp panics with early | ⟨value, rest, _, later⟩
  · exact head input early
  · exact tail value rest later

theorem calm_le (eof : ε) (width : Nat) : Calm (le eof width) :=
  (calm_take eof width).bind fun _ => calm_pure _

theorem calm_byte (eof : ε) : Calm (byte eof) := (calm_le eof 1).bind fun _ => calm_pure _

theorem Calm.mapErr {reader : Reader ε α} (inner : Calm reader) (convert : ε → ε') :
    Calm (reader.mapErr convert) := fun input panics => inner input (panics_mapErr_iff.mp panics)

theorem Calm.panics_bind_iff {reader : Reader ε α} {next : α → Reader ε β} {input : Bytes}
    (head : Calm reader) : Panics (reader >>= next) input ↔
      ∃ value rest, reader input = .ok (value, rest) ∧ Panics (next value) rest := by
  rw [Reader.panics_bind_iff, or_iff_right (head input)]

end panics

section
variable (body : σ → Reader ε (σ ⊕ α))

def loopFuel : Nat → σ → Reader ε α
  | 0, _ => panic "loop without progress"
  | fuel + 1, state => do
    match ← body state with
    | .inl next => loopFuel fuel next
    | .inr value => pure value

/-- A loop whose rounds consume input needs no more rounds than there are bytes. -/
def loop (state : σ) : Reader ε α := fun input => loopFuel body (input.length + 1) state input

/-- Every round that does not break consumes at least one byte. -/
def Progress : Prop :=
  ∀ state input next rest, body state input = .ok (.inl next, rest) → rest.length < input.length

variable {body}

theorem loopFuel_enough (progress : Progress body) {fuel more : Nat} {state : σ} {input : Bytes}
    (enough : input.length < fuel) (alsoEnough : input.length < more) :
    loopFuel body fuel state input = loopFuel body more state input := by
  induction fuel generalizing more state input with
  | zero => omega
  | succ fuel ih =>
    obtain ⟨more, rfl⟩ : ∃ fewer, more = fewer + 1 := ⟨more - 1, by omega⟩
    simp only [loopFuel, bind_apply]
    cases round : body state input with
    | err error => rfl
    | panic message => rfl
    | ok result =>
      obtain ⟨choice, rest⟩ := result
      cases choice with
      | inr value => rfl
      | inl next =>
        have shorter := progress _ _ _ _ round
        exact ih (by omega) (by omega)

theorem loop_apply (progress : Progress body) (state : σ) (input : Bytes) :
    loop body state input = match body state input with
      | .ok (.inl next, rest) => loop body next rest
      | .ok (.inr value, rest) => .ok (value, rest)
      | .err error => .err error
      | .panic message => .panic message := by
  change loopFuel body (input.length + 1) state input = _
  rw [loopFuel, bind_apply]
  cases round : body state input with
  | err error => rfl
  | panic message => rfl
  | ok result =>
    obtain ⟨choice, rest⟩ := result
    cases choice with
    | inr value => rfl
    | inl next =>
      have shorter := progress _ _ _ _ round
      exact loopFuel_enough progress shorter (Nat.lt_succ_self _)

/-- Induction over the rounds of a loop that ends with a value. -/
theorem loop_ok_induction (progress : Progress body) {motive : σ → Bytes → α → Bytes → Prop}
    (done : ∀ state input value rest, body state input = .ok (.inr value, rest) →
      motive state input value rest)
    (step : ∀ state input next middle value rest, body state input = .ok (.inl next, middle) →
      motive next middle value rest → motive state input value rest)
    {state : σ} {input rest : Bytes} {value : α}
    (outcome : loop body state input = .ok (value, rest)) : motive state input value rest := by
  induction length : input.length using Nat.strong_induction_on generalizing state input with
  | _ n ih =>
    rw [loop_apply progress] at outcome
    cases round : body state input with
    | err error => rw [round] at outcome; cases outcome
    | panic message => rw [round] at outcome; cases outcome
    | ok result =>
      obtain ⟨choice, middle⟩ := result
      rw [round] at outcome
      cases choice with
      | inr found => cases outcome; exact done _ _ _ _ round
      | inl next =>
        have shorter := progress _ _ _ _ round
        exact step _ _ _ _ _ _ round (ih _ (by omega) outcome rfl)

theorem calm_loop (progress : Progress body) (rounds : ∀ state, Calm (body state)) (state : σ) :
    Calm (loop body state) := by
  rintro input ⟨message, outcome⟩
  induction length : input.length using Nat.strong_induction_on generalizing state input with
  | _ n ih =>
    rw [loop_apply progress] at outcome
    cases round : body state input with
    | err error => rw [round] at outcome; cases outcome
    | panic first => exact rounds state input ⟨first, round⟩
    | ok result =>
      obtain ⟨choice, middle⟩ := result
      rw [round] at outcome
      cases choice with
      | inr found => cases outcome
      | inl next =>
        have shorter := progress _ _ _ _ round
        exact ih _ (by omega) _ _ outcome rfl

theorem Reads.loop_break (progress : Progress body) {state : σ} {bytes : Bytes} {value : α}
    (last : Reads (body state) bytes (.inr value)) : Reads (loop body state) bytes value := by
  intro rest
  rw [loop_apply progress, last]

theorem Reads.loop_step (progress : Progress body) {state next : σ} {first more : Bytes} {value : α}
    (round : Reads (body state) first (.inl next)) (others : Reads (loop body next) more value) :
    Reads (loop body state) (first ++ more) value := by
  intro rest
  rw [loop_apply progress, List.append_assoc, round]
  exact others rest

theorem local_loop (progress : Progress body) (rounds : ∀ state, Local (body state)) (state : σ) :
    Local (loop body state) := by
  intro input value rest outcome
  refine loop_ok_induction progress
    (motive := fun state input value rest =>
      ∃ bytes, input = bytes ++ rest ∧ Reads (loop body state) bytes value) ?_ ?_ outcome
  · intro state input value rest last
    obtain ⟨bytes, split, reads⟩ := rounds state _ _ _ last
    exact ⟨bytes, split, reads.loop_break progress⟩
  · intro state input next middle value rest round ⟨more, remaining, others⟩
    obtain ⟨bytes, split, reads⟩ := rounds state _ _ _ round
    exact ⟨bytes ++ more, by rw [split, remaining, List.append_assoc],
      reads.loop_step progress others⟩

end

section untilEmpty
variable {step : σ → Reader ε σ}

def Consumes (step : σ → Reader ε σ) : Prop := ∀ state, Shrinks (step state)

def whileRound (step : σ → Reader ε σ) (state : σ) : Reader ε (σ ⊕ σ) := do
  if ← isEmpty then
    return .inr state
  else
    return .inl (← step state)

def untilEmpty (step : σ → Reader ε σ) (state : σ) : Reader ε σ := loop (whileRound step) state

theorem whileRound_nil (step : σ → Reader ε σ) (state : σ) :
    whileRound step state [] = .ok (.inr state, []) := rfl

theorem whileRound_ne_nil (step : σ → Reader ε σ) (state : σ) {input : Bytes}
    (nonempty : input ≠ []) : whileRound step state input =
      (do return .inl (← step state) : Reader ε (σ ⊕ σ)) input := by
  cases input with
  | nil => exact absurd rfl nonempty
  | cons byte rest => rfl

theorem whileRound_ok_iff (step : σ → Reader ε σ) (state next : σ) (input rest : Bytes) :
    whileRound step state input = .ok (.inl next, rest) ↔
      input ≠ [] ∧ step state input = .ok (next, rest) := by
  by_cases empty : input = []
  · rw [empty, whileRound_nil]
    exact iff_of_false (fun same => nomatch same) (fun both => both.1 rfl)
  · rw [whileRound_ne_nil step state empty, bind_apply]
    cases outcome : step state input with
    | ok result => simp [empty, Prod.ext_iff]
    | err error => simp
    | panic message => simp

theorem progress_whileRound (consumes : Consumes step) : Progress (whileRound step) := by
  intro state input next rest round
  exact consumes _ _ _ _ ((whileRound_ok_iff step state next input rest).mp round).2

@[simp] theorem untilEmpty_nil (consumes : Consumes step) (state : σ) :
    untilEmpty step state [] = .ok (state, []) := by
  rw [untilEmpty, loop_apply (progress_whileRound consumes), whileRound_nil]

/-- The first step of a run over input that is left. -/
theorem untilEmpty_apply (consumes : Consumes step) (state : σ) {input : Bytes}
    (nonempty : input ≠ []) : untilEmpty step state input = match step state input with
      | .ok (next, rest) => untilEmpty step next rest
      | .err error => .err error
      | .panic message => .panic message := by
  rw [untilEmpty, loop_apply (progress_whileRound consumes), whileRound_ne_nil step state nonempty,
    bind_apply]
  cases step state input with
  | ok result => rfl
  | err error => rfl
  | panic message => rfl

/-- `Steps step state input next rest`: steps lead from one state to the other over the
input in front of `rest`. -/
inductive Steps (step : σ → Reader ε σ) : σ → Bytes → σ → Bytes → Prop where
  | done (state : σ) (input : Bytes) : Steps step state input state input
  | step {state next last : σ} {input middle rest : Bytes} (nonempty : input ≠ [])
      (one : step state input = .ok (next, middle)) (others : Steps step next middle last rest) :
      Steps step state input last rest

theorem untilEmpty_of_steps (consumes : Consumes step) {state last : σ} {input rest : Bytes}
    (steps : Steps step state input last rest) :
    untilEmpty step state input = untilEmpty step last rest := by
  induction steps with
  | done => rfl
  | step nonempty one _ ih => rw [untilEmpty_apply consumes _ nonempty, one, ← ih]

/-- A run ends well exactly when its steps use the input up. -/
theorem untilEmpty_ok_iff (consumes : Consumes step) (state last : σ) (input rest : Bytes) :
    untilEmpty step state input = .ok (last, rest) ↔ rest = [] ∧ Steps step state input last [] := by
  constructor
  · intro outcome
    induction length : input.length using Nat.strong_induction_on generalizing state input with
    | _ n ih =>
      by_cases empty : input = []
      · rw [empty, untilEmpty_nil consumes] at outcome
        cases outcome
        exact ⟨rfl, empty ▸ .done _ _⟩
      · rw [untilEmpty_apply consumes state empty] at outcome
        cases one : step state input with
        | err error => rw [one] at outcome; cases outcome
        | panic message => rw [one] at outcome; cases outcome
        | ok result =>
          rw [one] at outcome
          have shorter := consumes _ _ _ _ one
          obtain ⟨used, steps⟩ := ih _ (by omega) _ _ outcome rfl
          exact ⟨used, .step empty one steps⟩
  · rintro ⟨rfl, steps⟩
    rw [untilEmpty_of_steps consumes steps, untilEmpty_nil consumes]

/-- A run panics exactly when some steps lead to one that does. -/
theorem untilEmpty_panics_iff (consumes : Consumes step) (state : σ) (input : Bytes) :
    Panics (untilEmpty step state) input ↔ ∃ last rest,
      Steps step state input last rest ∧ rest ≠ [] ∧ Panics (step last) rest := by
  constructor
  · rintro ⟨message, outcome⟩
    induction length : input.length using Nat.strong_induction_on generalizing state input with
    | _ n ih =>
      by_cases empty : input = []
      · rw [empty, untilEmpty_nil consumes] at outcome
        cases outcome
      · rw [untilEmpty_apply consumes state empty] at outcome
        cases one : step state input with
        | err error => rw [one] at outcome; cases outcome
        | panic first => exact ⟨state, input, .done _ _, empty, first, one⟩
        | ok result =>
          rw [one] at outcome
          have shorter := consumes _ _ _ _ one
          obtain ⟨last, rest, steps, left, panics⟩ := ih _ (by omega) _ _ outcome rfl
          exact ⟨last, rest, .step empty one steps, left, panics⟩
  · rintro ⟨last, rest, steps, left, message, panics⟩
    refine ⟨message, ?_⟩
    rw [untilEmpty_of_steps consumes steps, untilEmpty_apply consumes last left, panics]

end untilEmpty
end Reader
end SqlxSqlserver.Foundation

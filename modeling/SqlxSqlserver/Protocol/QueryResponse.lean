import SqlxSqlserver.Protocol.QuerySoundness

/-! Whole query responses: streams of tokens, what they mean, and the soundness of the parser. -/

namespace SqlxSqlserver.Protocol
open Foundation Reader Driver

/-- `bytes` is a concatenation of complete tokens, `columns` being in force in front of it. -/
inductive IsStream : List MssqlColumn → List ResponseToken → Bytes → Prop where
  | nil {columns : List MssqlColumn} : IsStream columns [] []
  | cons {columns : List MssqlColumn} {token : ResponseToken} {tokens : List ResponseToken}
      {piece bytes : Bytes} (head : IsToken columns token piece)
      (tail : IsStream (token.columnsAfter columns) tokens bytes) :
      IsStream columns (token :: tokens) (piece ++ bytes)

namespace ResponseToken

def rows (columns : List MssqlColumn) : ResponseToken → List MssqlRow
  | .row _ values => [.newShared columns values]
  | _ => []

def returnValues : ResponseToken → List MssqlValue
  | .returnValue value => [value]
  | _ => []

def envChanges : ResponseToken → List EnvChange
  | .envChange change => [change]
  | _ => []

end ResponseToken

def lastColumns (columns : List MssqlColumn) (tokens : List ResponseToken) : List MssqlColumn :=
  tokens.foldl ResponseToken.columnsAfter columns

def rowsOf : List MssqlColumn → List ResponseToken → List MssqlRow
  | _, [] => []
  | columns, token :: tokens => token.rows columns ++ rowsOf (token.columnsAfter columns) tokens

def returnValuesOf (tokens : List ResponseToken) : List MssqlValue :=
  tokens.flatMap ResponseToken.returnValues

def envChangesOf (tokens : List ResponseToken) : List EnvChange :=
  tokens.flatMap ResponseToken.envChanges

def rowCountOf (tokens : List ResponseToken) : Nat := (tokens.map ResponseToken.rowCount).sum

/-- The state behind the tokens, as long as they are supported and their counts fit. -/
def QueryState.after (self : QueryState) (tokens : List ResponseToken) : QueryState :=
  { columns := lastColumns self.columns tokens
    rows := self.rows ++ rowsOf self.columns tokens
    returnValues := self.returnValues ++ returnValuesOf tokens
    envChanges := self.envChanges ++ envChangesOf tokens
    rowsAffected := self.rowsAffected + rowCountOf tokens }

theorem isToken_ne_nil {columns : List MssqlColumn} {token : ResponseToken} {bytes : Bytes}
    (is : IsToken columns token bytes) : bytes ≠ [] := by
  cases is with
  | rejected nonempty => exact nonempty
  | _ => exact List.cons_ne_nil _ _

theorem step_ok_iff (state next : QueryState) (input rest : Bytes) :
    state.step input = .ok (next, rest) ↔ ∃ token bytes, input = bytes ++ rest ∧
      IsToken state.columns token bytes ∧ state.apply token = some next := by
  have byte : Local Read.readU8 := local_byte _
  rw [(local_step state).ok_iff]
  constructor
  · rintro ⟨bytes, rfl, reads⟩
    obtain ⟨first, code, body, rfl, head, tail⟩ :=
      (Reads.bind_iff byte (local_readToken state) _ _).mp reads
    obtain ⟨token, is, applied⟩ := (reads_readToken_iff _ _ _ _).mp tail
    obtain rfl := reads_byte_iff.mp head
    exact ⟨token, _, rfl, is, applied⟩
  · rintro ⟨token, bytes, rfl, is, applied⟩
    refine ⟨bytes, rfl, ?_⟩
    cases bytes with
    | nil => exact absurd rfl (isToken_ne_nil is)
    | cons code body =>
      exact (reads_byte Read.ended code).bind
        ((reads_readToken_iff _ _ _ _).mpr ⟨token, is, applied⟩)

namespace QueryState

theorem apply_iff {state : QueryState} (small : state.rowsAffected ≤ u64Max)
    (token : ResponseToken) (next : QueryState) : state.apply token = some next ↔
      token.Supported ∧ state.rowsAffected + token.rowCount ≤ u64Max ∧ next = state.after [token] := by
  have whole : state.after [token] =
      { columns := token.columnsAfter state.columns
        rows := state.rows ++ token.rows state.columns
        returnValues := state.returnValues ++ token.returnValues
        envChanges := state.envChanges ++ token.envChanges
        rowsAffected := state.rowsAffected + token.rowCount } := by
    simp [after, lastColumns, rowsOf, returnValuesOf, envChangesOf, rowCountOf]
  rw [whole]
  cases token with
  | done counts =>
    dsimp only [apply, ResponseToken.rowCount]
    split_ifs with counted fits
    · simp [ResponseToken.Supported, ResponseToken.columnsAfter, ResponseToken.rows,
        ResponseToken.returnValues, ResponseToken.envChanges, fits, eq_comm]
    · simp [fits]
    · simp only [ResponseToken.Supported, ResponseToken.columnsAfter, ResponseToken.rows,
        ResponseToken.returnValues, ResponseToken.envChanges, List.append_nil, Nat.add_zero, small,
        true_and, Option.some_inj]
      exact eq_comm
  | returnStatus | info =>
    simp only [apply, ResponseToken.Supported, ResponseToken.columnsAfter, ResponseToken.rows,
      ResponseToken.returnValues, ResponseToken.envChanges, ResponseToken.rowCount,
      List.append_nil, Nat.add_zero, small, true_and, Option.some_inj]
    exact eq_comm
  | _ => simp [apply, small, ResponseToken.Supported, ResponseToken.columnsAfter,
      ResponseToken.rows, ResponseToken.returnValues, ResponseToken.envChanges,
      ResponseToken.rowCount, eq_comm]

theorem after_cons (state : QueryState) (token : ResponseToken) (tokens : List ResponseToken) :
    state.after (token :: tokens) = (state.after [token]).after tokens := by
  simp [after, lastColumns, rowsOf, returnValuesOf, envChangesOf, rowCountOf, Nat.add_assoc]

theorem foldlM_apply_iff {state : QueryState} (small : state.rowsAffected ≤ u64Max)
    (tokens : List ResponseToken) (last : QueryState) : tokens.foldlM apply state = some last ↔
      (∀ token ∈ tokens, token.Supported) ∧ state.rowsAffected + rowCountOf tokens ≤ u64Max ∧
        last = state.after tokens := by
  induction tokens generalizing state with
  | nil =>
    have same : state.after [] = state := by
      simp [after, lastColumns, rowsOf, returnValuesOf, envChangesOf, rowCountOf]
    simp [same, small, rowCountOf, eq_comm]
  | cons token tokens ih =>
    have count : rowCountOf (token :: tokens) = token.rowCount + rowCountOf tokens := by
      simp [rowCountOf]
    have added : (state.after [token]).rowsAffected = state.rowsAffected + token.rowCount := by
      simp [after, rowCountOf]
    rw [List.foldlM_cons, after_cons, count, List.forall_mem_cons]
    constructor
    · intro run
      obtain ⟨next, one, others⟩ := Option.bind_eq_some_iff.mp run
      obtain ⟨supported, fits, rfl⟩ := (apply_iff small token next).mp one
      obtain ⟨all, total, rfl⟩ := (ih (added ▸ fits)).mp others
      exact ⟨⟨supported, all⟩, by omega, rfl⟩
    · rintro ⟨⟨supported, all⟩, total, rfl⟩
      have fits : state.rowsAffected + token.rowCount ≤ u64Max := by omega
      exact Option.bind_eq_some_iff.mpr ⟨_, (apply_iff small token _).mpr ⟨supported, fits, rfl⟩,
        (ih (added ▸ fits)).mpr ⟨all, by omega, rfl⟩⟩

theorem apply_columns {state next : QueryState} {token : ResponseToken}
    (applied : state.apply token = some next) :
    next.columns = token.columnsAfter state.columns := by
  cases token with
  | done counts =>
    dsimp only [apply] at applied
    split_ifs at applied <;> cases applied <;> rfl
  | _ => cases applied <;> rfl

end QueryState

/-- Steps of the parser read a stream, and the state follows the tokens. -/
theorem steps_iff (state last : QueryState) (input rest : Bytes) :
    Steps QueryState.step state input last rest ↔ ∃ tokens bytes, input = bytes ++ rest ∧
      IsStream state.columns tokens bytes ∧ tokens.foldlM QueryState.apply state = some last := by
  constructor
  · intro steps
    induction steps with
    | done => exact ⟨[], [], rfl, .nil, rfl⟩
    | step nonempty one _ ih =>
      obtain ⟨token, piece, rfl, is, applied⟩ := (step_ok_iff _ _ _ _).mp one
      obtain ⟨tokens, bytes, rfl, stream, run⟩ := ih
      rw [QueryState.apply_columns applied] at stream
      exact ⟨token :: tokens, piece ++ bytes, (List.append_assoc ..).symm, .cons is stream,
        Option.bind_eq_some_iff.mpr ⟨_, applied, run⟩⟩
  · rintro ⟨tokens, bytes, rfl, stream, run⟩
    induction tokens generalizing state bytes with
    | nil =>
      cases stream
      cases run
      exact .done _ _
    | cons token tokens ih =>
      cases stream with
      | @cons _ _ _ piece bytes is stream =>
        obtain ⟨next, applied, run⟩ := Option.bind_eq_some_iff.mp run
        rw [← QueryState.apply_columns applied] at stream
        rw [List.append_assoc]
        have nonempty : piece ++ (bytes ++ rest) ≠ [] :=
          fun empty => isToken_ne_nil is (List.append_eq_nil_iff.mp empty).1
        exact .step nonempty ((step_ok_iff _ _ _ _).mpr ⟨token, piece, rfl, is, applied⟩)
          (ih next bytes stream run)

theorem parseQueryResponse_runs_iff (input : Bytes) (output : QueryOutput) :
    parseQueryResponse input = .ok output ↔ ∃ last,
      untilEmpty QueryState.step .empty input = .ok (last, []) ∧ output = last.output := by
  unfold parseQueryResponse
  cases outcome : untilEmpty QueryState.step .empty input with
  | ok result =>
    obtain ⟨last, rest⟩ := result
    obtain ⟨rfl, _⟩ := (untilEmpty_ok_iff consumes_step _ _ _ _).mp outcome
    simp [eq_comm]
  | err error => simp
  | panic message => simp

/-- The parser accepts exactly the streams of supported tokens whose row counts sum up to a
64-bit number, and returns what the tokens say. -/
theorem parseQueryResponse_ok_iff (input : Bytes) (output : QueryOutput) :
    parseQueryResponse input = .ok output ↔ ∃ tokens, IsStream [] tokens input ∧
      (∀ token ∈ tokens, token.Supported) ∧ rowCountOf tokens ≤ u64Max ∧
        output = (QueryState.empty.after tokens).output := by
  have fits : ∀ tokens, QueryState.empty.rowsAffected + rowCountOf tokens = rowCountOf tokens :=
    fun tokens => Nat.zero_add _
  rw [parseQueryResponse_runs_iff]
  constructor
  · rintro ⟨last, outcome, rfl⟩
    obtain ⟨tokens, bytes, rfl, stream, run⟩ :=
      (steps_iff _ _ _ _).mp ((untilEmpty_ok_iff consumes_step _ _ _ _).mp outcome).2
    obtain ⟨all, total, rfl⟩ := (QueryState.foldlM_apply_iff (by decide) _ _).mp run
    rw [fits] at total
    exact ⟨tokens, (List.append_nil bytes).symm ▸ stream, all, total, rfl⟩
  · rintro ⟨tokens, stream, all, total, rfl⟩
    refine ⟨_, (untilEmpty_ok_iff consumes_step _ _ _ _).mpr ⟨rfl, (steps_iff _ _ _ _).mpr
      ⟨tokens, input, (List.append_nil input).symm, stream, ?_⟩⟩, rfl⟩
    exact (QueryState.foldlM_apply_iff (by decide) _ _).mpr ⟨all, (fits tokens).symm ▸ total, rfl⟩

theorem step_not_ok {state next : QueryState} {token : ResponseToken} {bytes rest more : Bytes}
    (is : IsToken state.columns token bytes) (stuck : state.apply token = none) :
    state.step (bytes ++ rest) ≠ .ok (next, more) := by
  intro outcome
  cases is with
  | error read parsed =>
    obtain ⟨code, middle, head, body⟩ := of_bind_ok outcome
    cases head
    obtain ⟨_, _, _, body⟩ := of_bind_ok body
    obtain ⟨_, _, _, failed⟩ := of_bind_ok body
    cases failed
  | @done kind body counts known read =>
    have overflow : Panics (state.addRows counts) rest := by
      dsimp only [QueryState.apply] at stuck
      split_ifs at stuck with counted fits
      exact ⟨_, by rw [QueryState.addRows, if_pos counted, if_neg fits]; rfl⟩
    have panics : Panics (do state.addRows (← Done.get)) (body ++ rest) :=
      panics_bind_iff.mpr (.inr ⟨counts, rest, read rest, overflow⟩)
    obtain ⟨message, panics⟩ := panics
    obtain ⟨code, middle, head, after⟩ := of_bind_ok outcome
    cases head
    simp only [List.mem_cons, List.not_mem_nil, or_false] at known
    rcases known with rfl | rfl | rfl <;> cases panics.symm.trans after
  | rejected nonempty fails =>
    obtain ⟨error, failed⟩ := fails state rest rfl
    rw [failed] at outcome
    cases outcome
  | _ => cases stuck

theorem untilEmpty_stream {state last : QueryState} {tokens : List ResponseToken} {bytes : Bytes}
    (stream : IsStream state.columns tokens bytes)
    (outcome : untilEmpty QueryState.step state bytes = .ok (last, [])) :
    tokens.foldlM QueryState.apply state = some last := by
  induction tokens generalizing state bytes with
  | nil =>
    cases stream
    rw [untilEmpty_nil consumes_step] at outcome
    cases outcome
    rfl
  | cons token tokens ih =>
    cases stream with
    | @cons _ _ _ piece bytes is others =>
      have nonempty : piece ++ bytes ≠ [] :=
        fun empty => isToken_ne_nil is (List.append_eq_nil_iff.mp empty).1
      rw [untilEmpty_apply consumes_step _ nonempty] at outcome
      cases applied : state.apply token with
      | none =>
        cases one : state.step (piece ++ bytes) with
        | ok result => exact absurd one (step_not_ok is applied)
        | err error => rw [one] at outcome; cases outcome
        | panic message => rw [one] at outcome; cases outcome
      | some next =>
        rw [(step_ok_iff _ _ _ _).mpr ⟨token, piece, rfl, is, applied⟩] at outcome
        rw [← QueryState.apply_columns applied] at others
        exact Option.bind_eq_some_iff.mpr ⟨next, applied, ih others outcome⟩

theorem parseQueryResponse_of_stream {tokens : List ResponseToken} {input : Bytes}
    {output : QueryOutput} (stream : IsStream [] tokens input)
    (parsed : parseQueryResponse input = .ok output) :
    (∀ token ∈ tokens, token.Supported) ∧ output.envChanges = envChangesOf tokens := by
  obtain ⟨last, outcome, rfl⟩ := (parseQueryResponse_runs_iff input output).mp parsed
  have run : tokens.foldlM QueryState.apply .empty = some last := untilEmpty_stream stream outcome
  obtain ⟨supported, _, rfl⟩ := (QueryState.foldlM_apply_iff (Nat.zero_le _) _ _).mp run
  exact ⟨supported, rfl⟩

/-- Columns as COLMETADATA gives them: numbered from 0 in order. -/
def Numbered (columns : List MssqlColumn) : Prop :=
  columns.map MssqlColumn.ordinal = List.range columns.length

theorem numbered_of_pieces {count : Nat} {bytes : Bytes} {found : List MssqlColumn}
    (list : Pieces IsColumn (List.range count) bytes found) : Numbered found := by
  have ordinals : found.map MssqlColumn.ordinal = (List.range count).map id := list.map_eq (by
    rintro ordinal piece column ⟨data, typeInfo, _, _, rfl⟩
    rfl)
  rw [List.map_id] at ordinals
  rw [Numbered, ordinals, list.length, List.length_range]

theorem numbered_of_get {input rest : Bytes} {columns : List MssqlColumn}
    (read : ColMetaData.get input = .ok (columns, rest)) : Numbered columns := by
  obtain ⟨bytes, _, reads⟩ := local_colMetaData _ _ _ read
  rcases (reads_colMetaData_iff bytes columns).mp reads with ⟨_, rfl⟩ | ⟨_, _, _, _, list⟩
  · rfl
  · exact numbered_of_pieces list

theorem numbered_of_token {columns : List MssqlColumn} {token : ResponseToken} {bytes : Bytes}
    (numbered : Numbered columns) (is : IsToken columns token bytes) :
    Numbered (token.columnsAfter columns) := by
  cases is with
  | colMetaData _ list => exact numbered_of_pieces list
  | noMetaData => rfl
  | _ => exact numbered

theorem rows_complete {columns : List MssqlColumn} {tokens : List ResponseToken} {bytes : Bytes}
    (numbered : Numbered columns) (stream : IsStream columns tokens bytes) (row : MssqlRow)
    (here : row ∈ rowsOf columns tokens) :
    Numbered row.columns ∧ row.values.length = row.columns.length := by
  induction stream with
  | nil => cases here
  | @cons columns token tokens piece bytes head _ ih =>
    rcases List.mem_append.mp here with now | later
    · cases head with
      | row body =>
        obtain ⟨nulls, data, rfl, _, pieces⟩ := body
        rw [List.mem_singleton.mp now]
        exact ⟨numbered, pieces.length.trans (List.length_zipIdx ..)⟩
      | _ => cases now
    · exact ih (numbered_of_token numbered head) later

end SqlxSqlserver.Protocol

import SqlxSqlserver.Driver.Session

/-! The executor of a connection: a query as a stream of its rows, which is polled for as long as
the caller likes, its first row, and a prepared statement. -/

namespace SqlxSqlserver.Driver
open Foundation Protocol

inductive ExecutorError where
  | encode (source : BoxDynError)
  | other (error : Error)
  deriving DecidableEq

structure MssqlStatement where
  sql : String
  columns : List MssqlColumn
  parameters : Option (List MssqlTypeInfo ⊕ Nat)
  deriving DecidableEq

abbrev Item : Type := Except ExecutorError (MssqlQueryResult ⊕ MssqlRow)

/-- What `take_arguments` makes of the arguments of a query. -/
abbrev TakenArguments : Type := Except BoxDynError (Option MssqlArguments)

/-- The boxed stream of `fetch_many`: its block has not run yet, or its items are handed out. -/
inductive RowStream where
  | pending (sql : String) (arguments : TakenArguments)
  | ready (items : List Item)

def streamQueryOutput (output : QueryOutput) : List Item :=
  output.rows.map (fun row => .ok (.inr row)) ++ [.ok (.inl output.result)]

section queries
variable {σ : Type} (execute : String → Option MssqlArguments → Async Error σ QueryOutput)

def executeTaken (sql : String) : TakenArguments → Async ExecutorError σ QueryOutput
  | .error source => .fail (.encode source)
  | .ok arguments => (execute sql arguments).mapErr .other

def fetchOptional (sql : String) (arguments : TakenArguments) :
    Async ExecutorError σ (Option MssqlRow) := do
  return (← executeTaken execute sql arguments).rows.head?

def fetchMany (sql : String) (arguments : TakenArguments) : RowStream := .pending sql arguments

namespace RowStream

def itemsOf : Except ExecutorError QueryOutput → List Item
  | .ok output => streamQueryOutput output
  | .error error => [.error error]

def handOut : List Item → Option Item × RowStream
  | [] => (none, .ready [])
  | item :: items => (some item, .ready items)

def next : RowStream → Async ExecutorError σ (Option Item × RowStream)
  | .pending sql arguments => do
    return handOut (itemsOf (← (executeTaken execute sql arguments).settle))
  | .ready items => pure (handOut items)

def take : Nat → RowStream → Async ExecutorError σ (List Item × RowStream)
  | 0, stream => pure ([], stream)
  | count + 1, stream => do
    match ← stream.next execute with
    | (none, stream) => return ([], stream)
    | (some item, stream) => do
      let (items, stream) ← take count stream
      return (item :: items, stream)

theorem take_ready (count : Nat) (items : List Item) :
    take execute count (.ready items) = pure (items.take count, .ready (items.drop count)) := by
  induction count generalizing items with
  | zero => rfl
  | succ count ih =>
    cases items with
    | nil => rfl
    | cons item items =>
      change (take execute count (.ready items) >>= fun taken => pure (item :: taken.1, taken.2)) = _
      rw [ih]
      rfl

/-- The first poll runs the query, and the later ones hand its items out. -/
theorem take_pending (count : Nat) (sql : String) (arguments : TakenArguments) :
    take execute (count + 1) (fetchMany sql arguments) = (do
      let items := itemsOf (← (executeTaken execute sql arguments).settle)
      return (items.take (count + 1), .ready (items.drop (count + 1)))) := by
  have behind : ∀ items : List Item, (match handOut items with
      | (none, stream) => pure ([], stream)
      | (some item, stream) => do
        let (items, stream) ← take execute count stream
        return (item :: items, stream) : Async ExecutorError σ (List Item × RowStream)) =
      pure (items.take (count + 1), .ready (items.drop (count + 1))) := by
    intro items
    have same := take_ready execute (count + 1) items
    exact same
  change ((executeTaken execute sql arguments).settle >>= fun settled => pure (handOut (itemsOf settled)))
    >>= (fun polled => match polled with
      | (none, stream) => pure ([], stream)
      | (some item, stream) => do
        let (items, stream) ← take execute count stream
        return (item :: items, stream)) = _
  rw [Async.bind_assoc]
  congr 1
  funext settled
  exact behind (itemsOf settled)

end RowStream
end queries

section wire
variable [ErrorDisplay]

def prepareWith (sql : String) (parameters : List MssqlTypeInfo) : Task MssqlStatement := do
  let output ← runPrepare sql parameters
  let parameters := if parameters.isEmpty then none else some (.inl parameters)
  return { sql, columns := output.columns, parameters }

/-- A query that is answered is answered in every way of asking it: however many items the caller
takes from the row stream before it is abandoned, the answer has been read to its end by the first
of them; the first row alone is the first of these rows; and an error is the only item. -/
theorem fetches_answered (sql : String) (arguments : Option MssqlArguments) {dialogue : Dialogue}
    {world : World} (tracks : Tracks dialogue world)
    (answered : (idealPort.execute sql arguments dialogue).1 ≠ .dropped) :
    ∃ after, Tracks (idealPort.execute sql arguments dialogue).2 after ∧
      (∀ output, (idealPort.execute sql arguments dialogue).1 = .ok output →
        fetchOptional runExecuteSql sql (.ok arguments) world = (.ok output.rows.head?, after) ∧
        ∀ count, RowStream.take runExecuteSql (count + 1) (fetchMany sql (.ok arguments)) world =
          (.ok ((streamQueryOutput output).take (count + 1),
            .ready ((streamQueryOutput output).drop (count + 1))), after)) ∧
      ∀ error, (idealPort.execute sql arguments dialogue).1 = .err error →
        fetchOptional runExecuteSql sql (.ok arguments) world = (.err (.other error), after) ∧
        ∀ count, RowStream.take runExecuteSql (count + 1) (fetchMany sql (.ok arguments)) world =
          (.ok ([.error (.other error)], .ready []), after) := by
  obtain ⟨after, same, tracked⟩ :=
    (wirePort_refines.execute sql arguments dialogue world tracks).resolve_left answered
  have executed : runExecuteSql sql arguments world =
      ((idealPort.execute sql arguments dialogue).1, after) := same
  refine ⟨after, tracked, fun output told => ?_, fun error told => ?_⟩
  · have taken : executeTaken runExecuteSql sql (.ok arguments) world = (.ok output, after) := by
      rw [executeTaken, Async.mapErr, executed, told]
    refine ⟨?_, fun count => ?_⟩
    · rw [fetchOptional, Async.bind_ok taken]
      rfl
    · rw [RowStream.take_pending, Async.bind_ok (Async.settle_ok taken)]
      rfl
  · have taken : executeTaken runExecuteSql sql (.ok arguments) world =
        (.err (.other error), after) := by
      rw [executeTaken, Async.mapErr, executed, told]
    refine ⟨?_, fun count => ?_⟩
    · rw [fetchOptional, Async.bind_apply, taken]
    · rw [RowStream.take_pending, Async.bind_ok (Async.settle_err taken), RowStream.itemsOf,
        List.take_succ_cons, List.take_nil, List.drop_succ_cons, List.drop_nil]
      rfl

theorem prepareWith_answered (sql : String) (parameters : List MssqlTypeInfo) {dialogue : Dialogue}
    {world : World} (tracks : Tracks dialogue world) {output : QueryOutput}
    (told : (idealPort.prepare sql parameters dialogue).1 = .ok output) :
    ∃ after, Tracks (idealPort.prepare sql parameters dialogue).2 after ∧
      prepareWith sql parameters world = (.ok { sql, columns := output.columns, parameters :=
        if parameters.isEmpty then none else some (.inl parameters) }, after) := by
  have spoken : (idealPort.prepare sql parameters dialogue).1 ≠ .dropped := by
    rw [told]
    simp
  obtain ⟨after, same, tracked⟩ :=
    (wirePort_refines.prepare sql parameters dialogue world tracks).resolve_left spoken
  have prepared : runPrepare sql parameters world = (.ok output, after) := same.trans (by rw [told])
  refine ⟨after, tracked, ?_⟩
  rw [prepareWith, Async.bind_ok prepared]
  rfl

end wire

section samples

def numbersBytes : Bytes :=
  [0x81, 1, 0, 0, 0, 0, 0, 0, 0, 0x38, 1, 97, 0, 0xd1, 7, 0, 0, 0, 0xd1, 8, 0, 0, 0] ++ doneBytes

def numbersDialogue : Dialogue where
  conn := (World.fresh []).conn
  answers := [.single numbersBytes (by decide)]
  asked := []

def numbersRow (value : UInt8) : MssqlRow :=
  let typeInfo : MssqlTypeInfo :=
    { kind := .int, variableLength := false, size := some 4, protocolTypeInfo := some (.new .int 4) }
  ⟨[MssqlColumn.new 0 "a" typeInfo], [⟨typeInfo, some [value, 0, 0, 0]⟩]⟩

def numbersOutput : QueryOutput where
  columns := (numbersRow 7).columns
  rows := [numbersRow 7, numbersRow 8]
  result := ⟨0⟩
  returnValues := []
  envChanges := []

/-- The caller takes the first of two rows. -/
theorem fetches_answered_numbers : ∃ after,
    RowStream.take runExecuteSql 1 (fetchMany "SELECT a" (.ok none)) (.fresh [answer numbersBytes]) =
      (.ok ([.ok (.inr (numbersRow 7))],
        .ready [.ok (.inr (numbersRow 8)), .ok (.inl ⟨0⟩)]), after) ∧
      after.link.incoming = [] := by
  have tracks : Tracks numbersDialogue (.fresh [answer numbersBytes]) :=
    ⟨rfl, fun _ member => absurd member List.not_mem_nil, rfl, rfl, by decide⟩
  have told : (idealPort.execute "SELECT a" none numbersDialogue).1 = .ok numbersOutput := by
    decide +kernel
  have answered : (idealPort.execute "SELECT a" none numbersDialogue).1 ≠ .dropped := by
    rw [told]
    simp
  obtain ⟨after, tracked, fetched, _⟩ := fetches_answered "SELECT a" none tracks answered
  exact ⟨after, (fetched _ told).2 0, tracked.drained⟩

end samples
end SqlxSqlserver.Driver

import Mathlib.Data.List.Basic

/-! Savepoints and nested transactions. A server keeps one transaction with named marks; its user
wants levels, each of which can be undone. One name for all marks is not always enough. -/

namespace SqlxSqlserver.Foundation
variable {ν D : Type}

structure Transaction (ν D : Type) where
  start : D
  /-- The marks and the states they were set in, newest first. -/
  marks : List (ν × D)

/-- What a server keeps for a session: the state of the database and the open transaction. -/
structure Session (ν D : Type) where
  current : D
  transaction : Option (Transaction ν D)

inductive Control (ν : Type) where
  | begin
  | save (name : ν)
  | rollbackTo (name : ν)
  | rollback
  | commit
  deriving DecidableEq

namespace Session

def write (effect : D → D) (self : Session ν D) : Session ν D :=
  { self with current := effect self.current }

/-- A mark survives the rollback to it when `keep` holds. A command that finds no transaction, or
no mark of its name, changes nothing. -/
def control [DecidableEq ν] (keep : Bool) (self : Session ν D) : Control ν → Session ν D
  | .begin =>
    match self.transaction with
    | none => { self with transaction := some ⟨self.current, []⟩ }
    | some _ => self
  | .save name =>
    { self with transaction := self.transaction.map fun transaction =>
        { transaction with marks := (name, self.current) :: transaction.marks } }
  | .rollbackTo name =>
    match self.transaction with
    | none => self
    | some transaction =>
      match transaction.marks.dropWhile (·.1 ≠ name) with
      | [] => self
      | (mark, state) :: older =>
        { current := state
          transaction := some
            { transaction with marks := if keep then (mark, state) :: older else older } }
  | .rollback =>
    match self.transaction with
    | none => self
    | some transaction => { current := transaction.start, transaction := none }
  | .commit => { self with transaction := none }

end Session

/-- An open level: the state it began in, and the states of the marks that the levels closed inside
of it have left behind, newest first. -/
structure Level (D : Type) where
  base : D
  left : List D

def Level.marks (self : Level D) : List D := self.left ++ [self.base]

/-- The reference: a state and the open levels, innermost first. -/
structure Nested (D : Type) where
  current : D
  levels : List (Level D)

inductive Nested.Step (D : Type) where
  | begin
  | commit
  | rollback
  | write (effect : D → D)

namespace Nested

def leave (marks : List D) : List (Level D) → List (Level D)
  | [] => []
  | level :: outer => { level with left := marks ++ level.left } :: outer

def step (keep : Bool) (self : Nested D) : Step D → Nested D
  | .begin => { self with levels := ⟨self.current, []⟩ :: self.levels }
  | .commit =>
    match self.levels with
    | [] => self
    | level :: outer => { self with levels := leave level.marks outer }
  | .rollback =>
    match self.levels with
    | [] => self
    | level :: outer =>
      { current := level.base
        levels := leave (if keep then level.marks else level.marks.tail) outer }
  | .write effect => { self with current := effect self.current }

def run (keep : Bool) (self : Nested D) (steps : List (Step D)) : Nested D :=
  steps.foldl (step keep) self

/-- A level that is rolled back inside of another has nothing left above its own mark, or the newest
of what is left was set in the same state. -/
def Undoable (self : Nested D) : Step D → Prop
  | .rollback =>
    match self.levels with
    | level :: _ :: _ => ∀ state, level.left.head? = some state → state = level.base
    | _ => True
  | _ => True

def AllUndoable (keep : Bool) : Nested D → List (Step D) → Prop
  | _, [] => True
  | self, step :: steps => self.Undoable step ∧ AllUndoable keep (self.step keep step) steps

/-- The transaction of a server that has a mark of the one name for every inner level. -/
def transaction (name : ν) : List (Level D) → Option (Transaction ν D)
  | [] => none
  | [level] => some ⟨level.base, level.left.map (name, ·)⟩
  | level :: next :: outer => (transaction name (next :: outer)).map fun transaction =>
      { transaction with marks := level.marks.map (name, ·) ++ transaction.marks }

def session (name : ν) (self : Nested D) : Session ν D :=
  { current := self.current, transaction := transaction name self.levels }

def perform [DecidableEq ν] (keep : Bool) (name : ν) (depth : Nat) (session : Session ν D) :
    Step D → Session ν D
  | .begin => session.control keep (if depth = 0 then .begin else .save name)
  | .commit => if depth = 1 then session.control keep .commit else session
  | .rollback =>
    if depth = 1 then session.control keep .rollback
    else if 1 < depth then session.control keep (.rollbackTo name) else session
  | .write effect => session.write effect

theorem leave_length (marks : List D) (levels : List (Level D)) :
    (leave marks levels).length = levels.length := by
  cases levels <;> rfl

theorem transaction_isSome (name : ν) (level : Level D) (outer : List (Level D)) :
    ∃ start marks, transaction name (level :: outer) = some ⟨start, marks⟩ := by
  induction outer generalizing level with
  | nil => exact ⟨_, _, rfl⟩
  | cons next outer ih =>
    obtain ⟨start, marks, inner⟩ := ih next
    exact ⟨start, level.marks.map (name, ·) ++ marks, by rw [transaction, inner]; rfl⟩

/-- A level that is closed leaves its marks on the server to the level around it. -/
theorem transaction_leave (name : ν) (marks : List D) (level : Level D) (outer : List (Level D)) :
    transaction name (leave marks (level :: outer)) =
      (transaction name (level :: outer)).map fun transaction =>
        { transaction with marks := marks.map (name, ·) ++ transaction.marks } := by
  cases outer with
  | nil => simp only [leave, transaction, Option.map_some, List.map_append]
  | cons next outer =>
    obtain ⟨start, older, inner⟩ := transaction_isSome name next outer
    simp only [leave, transaction, inner, Option.map_some, Level.marks, List.map_append,
      List.append_assoc]

/-- A rollback of the whole transaction goes back to the outermost level. -/
theorem transaction_start (name : ν) {levels : List (Level D)} {outermost : Level D}
    (last : levels.getLast? = some outermost) :
    ∃ marks, transaction name levels = some ⟨outermost.base, marks⟩ := by
  induction levels with
  | nil => cases last
  | cons level outer ih =>
    cases outer with
    | nil =>
      cases last
      exact ⟨_, rfl⟩
    | cons next outer =>
      obtain ⟨marks, inner⟩ := ih (List.getLast?_cons_cons.symm.trans last)
      exact ⟨level.marks.map (name, ·) ++ marks, by rw [transaction, inner]; rfl⟩

variable [DecidableEq ν]

theorem control_rollbackTo (keep : Bool) (name : ν) (current start state : D) (states : List D)
    (marks : List (ν × D)) :
    (Session.mk current (some ⟨start, (state :: states).map (name, ·) ++ marks⟩)).control keep
        (.rollbackTo name) =
      ⟨state, some ⟨start, (if keep then state :: states else states).map (name, ·) ++ marks⟩⟩ := by
  cases keep <;> simp [Session.control]

/-- Where a step is undoable, the server does what the reference does. -/
theorem perform_session (keep : Bool) (name : ν) (self : Nested D) (step : Step D)
    (undoable : self.Undoable step) :
    perform keep name self.levels.length (self.session name) step =
      (self.step keep step).session name := by
  obtain ⟨current, levels⟩ := self
  cases step with
  | write effect => rfl
  | begin =>
    cases levels with
    | nil => rfl
    | cons level outer => rfl
  | commit =>
    match levels with
    | [] => rfl
    | [level] => rfl
    | level :: next :: outer =>
      change Session.mk current (transaction name (level :: next :: outer)) =
        Session.mk current (transaction name (leave level.marks (next :: outer)))
      rw [transaction_leave, transaction]
  | rollback =>
    match levels with
    | [] => rfl
    | [level] => rfl
    | level :: next :: outer =>
      obtain ⟨start, older, inner⟩ := transaction_isSome name next outer
      have newest : ∃ states, level.marks = level.base :: states := by
        cases same : level.left with
        | nil => exact ⟨[], by rw [Level.marks, same]; rfl⟩
        | cons state states =>
          obtain rfl := undoable state (by rw [same]; rfl)
          exact ⟨states ++ [level.base], by rw [Level.marks, same]; rfl⟩
      obtain ⟨states, marks⟩ := newest
      change (Session.mk current (transaction name (level :: next :: outer))).control keep
          (.rollbackTo name) = Session.mk level.base (transaction name (leave _ (next :: outer)))
      rw [transaction_leave, transaction, inner, marks]
      exact control_rollbackTo keep name current start level.base states older

theorem step_depth (keep : Bool) (self : Nested D) (step : Step D) :
    (self.step keep step).levels.length = match step with
      | .begin => self.levels.length + 1
      | .commit | .rollback => self.levels.length - 1
      | .write _ => self.levels.length := by
  obtain ⟨current, levels⟩ := self
  cases step with
  | begin => rfl
  | commit =>
    cases levels with
    | nil => rfl
    | cons level outer => exact leave_length _ _
  | rollback =>
    cases levels with
    | nil => rfl
    | cons level outer => exact leave_length _ _
  | write effect => rfl

end Nested
end SqlxSqlserver.Foundation

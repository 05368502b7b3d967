import Mathlib.Data.List.Basic

/-! Quotation by doubling. A quoted text ends at the first closing character that is not doubled,
so a text whose closing characters are all doubled cannot end its own quotation. -/

namespace SqlxSqlserver.Foundation.Quoting

section quoted
variable {α : Type} [DecidableEq α] (close : α)

def double (text : List α) : List α :=
  text.flatMap fun char => if char = close then [close, close] else [char]

def readQuoted : List α → Option (List α × List α)
  | [] => none
  | char :: rest =>
    if char = close then
      match rest with
      | [] => some ([], [])
      | next :: more =>
        if next = close then (readQuoted more).map (Prod.map (close :: ·) id)
        else some ([], next :: more)
    else (readQuoted rest).map (Prod.map (char :: ·) id)

theorem double_append (text more : List α) :
    double close (text ++ more) = double close text ++ double close more := List.flatMap_append

@[simp] theorem double_cons_self (text : List α) :
    double close (close :: text) = close :: close :: double close text := by
  simp [double]

theorem double_cons_of_ne {char : α} (other : char ≠ close) (text : List α) :
    double close (char :: text) = char :: double close text := by
  simp [double, other]

theorem double_of_not_mem {text : List α} (absent : close ∉ text) : double close text = text := by
  induction text with
  | nil => rfl
  | cons char text ih =>
    have other : char ≠ close := fun same => absent (same ▸ List.mem_cons_self)
    rw [double_cons_of_ne close other, ih fun member => absent (List.mem_cons_of_mem _ member)]

variable {close}

theorem readQuoted_char {char : α} (other : char ≠ close) (rest : List α) :
    readQuoted close (char :: rest) = (readQuoted close rest).map (Prod.map (char :: ·) id) := by
  rw [readQuoted.eq_def]
  exact if_neg other

theorem readQuoted_doubled (rest : List α) : readQuoted close (close :: close :: rest) =
    (readQuoted close rest).map (Prod.map (close :: ·) id) := by
  rw [readQuoted.eq_def]
  dsimp only
  rw [if_pos rfl, if_pos rfl]

theorem readQuoted_close {rest : List α} (separated : rest.head? ≠ some close) :
    readQuoted close (close :: rest) = some ([], rest) := by
  rw [readQuoted.eq_def]
  dsimp only
  rw [if_pos rfl]
  cases rest with
  | nil => rfl
  | cons next more => exact if_neg fun same => separated (congrArg some same)

/-- A doubled text is read back whole, whatever follows its closing character. -/
theorem readQuoted_double (text : List α) {rest : List α} (separated : rest.head? ≠ some close) :
    readQuoted close (double close text ++ close :: rest) = some (text, rest) := by
  induction text with
  | nil => exact readQuoted_close separated
  | cons char text ih =>
    by_cases same : char = close
    · subst same
      rw [double_cons_self, List.cons_append, List.cons_append, readQuoted_doubled, ih]
      rfl
    · rw [double_cons_of_ne close same, List.cons_append, readQuoted_char same, ih]
      rfl

theorem readQuoted_length {input text rest : List α}
    (read : readQuoted close input = some (text, rest)) : rest.length < input.length := by
  fun_induction readQuoted close input generalizing text rest with
  | case1 => cases read
  | case2 =>
    cases read
    exact Nat.zero_lt_one
  | case3 more ih =>
    obtain ⟨result, found, same⟩ := Option.map_eq_some_iff.mp read
    cases same
    have shorter := ih found
    rw [List.length_cons, List.length_cons]
    exact Nat.lt_trans shorter (by omega)
  | case4 next more other =>
    cases read
    exact Nat.lt_succ_self _
  | case5 char more other ih =>
    obtain ⟨result, found, same⟩ := Option.map_eq_some_iff.mp read
    cases same
    exact Nat.lt_trans (ih found) (Nat.lt_succ_self _)

end quoted

/-- Kinds of quotation, each with its opening and its closing character. -/
structure Quotes (κ α : Type) where
  opening : κ → α
  closing : κ → α
  kindOf : α → Option κ
  kindOf_opening : ∀ kind, kindOf (opening kind) = some kind

inductive Lexeme (κ α : Type) where
  | char (char : α)
  | quoted (kind : κ) (text : List α)
  deriving DecidableEq, Repr

def plain {κ α : Type} (text : List α) : List (Lexeme κ α) := text.map .char

namespace Quotes
variable {κ α : Type} [DecidableEq α] (self : Quotes κ α)

def render : List (Lexeme κ α) → List α
  | [] => []
  | .char char :: rest => char :: render rest
  | .quoted kind text :: rest =>
    self.opening kind :: (double (self.closing kind) text ++ self.closing kind :: render rest)

/-- No character outside opens a quotation, and no quotation is followed by its closing character. -/
inductive Separated : List (Lexeme κ α) → Prop where
  | nil : Separated []
  | char {char : α} {rest : List (Lexeme κ α)} (outside : self.kindOf char = none)
      (others : Separated rest) : Separated (.char char :: rest)
  | quoted {kind : κ} {text : List α} {rest : List (Lexeme κ α)}
      (apart : (self.render rest).head? ≠ some (self.closing kind)) (others : Separated rest) :
      Separated (.quoted kind text :: rest)

/-- The lexemes of a text, unless a quotation in it does not end. -/
def lex : List α → Option (List (Lexeme κ α))
  | [] => some []
  | char :: rest =>
    match self.kindOf char with
    | none => (lex rest).map (.char char :: ·)
    | some kind =>
      match _read : readQuoted (self.closing kind) rest with
      | none => none
      | some (text, left) => (lex left).map (.quoted kind text :: ·)
termination_by text => text.length
decreasing_by
  · exact Nat.lt_succ_self _
  · exact Nat.lt_trans (readQuoted_length _read) (Nat.lt_succ_self _)

variable {self}

theorem render_plain (text : List α) (rest : List (Lexeme κ α)) :
    self.render (plain text ++ rest) = text ++ self.render rest := by
  induction text with
  | nil => rfl
  | cons char text ih => exact congrArg (char :: ·) ih

theorem Separated.plain {text : List α} {rest : List (Lexeme κ α)}
    (outside : ∀ char ∈ text, self.kindOf char = none) (separated : self.Separated rest) :
    self.Separated (plain text ++ rest) := by
  induction text with
  | nil => exact separated
  | cons char text ih =>
    rw [List.forall_mem_cons] at outside
    exact .char outside.1 (ih outside.2)

/-- What is rendered is lexed back, and no quoted text changes how the rest is read. -/
theorem lex_render {lexemes : List (Lexeme κ α)} (separated : self.Separated lexemes) :
    self.lex (self.render lexemes) = some lexemes := by
  induction separated with
  | nil => rw [render, lex]
  | char outside others ih =>
    rw [render, lex, outside]
    dsimp only
    rw [ih]
    rfl
  | @quoted kind text rest apart others ih =>
    have read := readQuoted_double text apart
    rw [render, lex, self.kindOf_opening]
    dsimp only
    split
    next missing => rw [read] at missing; cases missing
    next found left again =>
      rw [read] at again
      cases again
      rw [ih]
      rfl

end Quotes
end SqlxSqlserver.Foundation.Quoting

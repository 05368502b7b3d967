import SqlxSqlserver.Foundation.Quoting

/-! The statements of the migration support that carry a name. Each quotes the name as a literal, as
an identifier, or as an identifier inside a literal. -/

namespace SqlxSqlserver.Driver
open Foundation Quoting

def replaceChar (text : String) (pattern : Char) (replacement : String) : String :=
  String.ofList (text.toList.flatMap fun char =>
    if char = pattern then replacement.toList else [char])

def quoteIdent (identifier : String) : String :=
  "[" ++ replaceChar identifier ']' "]]" ++ "]"

def quoteString (value : String) : String := replaceChar value '\'' "''"

def createDatabase (database : String) : String := "CREATE DATABASE " ++ quoteIdent database

def dropDatabase (database : String) : String :=
  "IF DB_ID(N'" ++ quoteString database ++ "') IS NOT NULL DROP DATABASE " ++ quoteIdent database

def createSchemaIfNotExists (schemaName : String) : String :=
  "IF SCHEMA_ID(N'" ++ quoteString schemaName ++ "') IS NULL EXEC(N'CREATE SCHEMA " ++
    quoteString (quoteIdent schemaName) ++ "')"

section reading

def readLiteral (text : String) : Option (String × String) :=
  match text.toList with
  | 'N' :: '\'' :: rest =>
    (readQuoted '\'' rest).map (Prod.map String.ofList String.ofList)
  | _ => none

def readIdent (text : String) : Option (String × String) :=
  match text.toList with
  | '[' :: rest => (readQuoted ']' rest).map (Prod.map String.ofList String.ofList)
  | _ => none

inductive SqlQuote where
  | literal
  | ident
  deriving DecidableEq, Repr

/-- The quotations of T-SQL; the `N` in front of a literal stands outside. -/
def sqlQuotes : Quotes SqlQuote Char where
  opening
    | .literal => '\''
    | .ident => '['
  closing
    | .literal => '\''
    | .ident => ']'
  kindOf char := if char = '\'' then some .literal else if char = '[' then some .ident else none
  kindOf_opening kind := by cases kind <;> rfl

def lexSql (text : String) : Option (List (Lexeme SqlQuote Char)) := sqlQuotes.lex text.toList

def sqlText (text : String) : List (Lexeme SqlQuote Char) := plain text.toList

def literal (value : String) : Lexeme SqlQuote Char := .quoted .literal value.toList

def ident (identifier : String) : Lexeme SqlQuote Char := .quoted .ident identifier.toList

def Outside (text : String) : Prop := ∀ char ∈ text.toList, sqlQuotes.kindOf char = none

instance (text : String) : Decidable (Outside text) := List.decidableBAll _ _

theorem toList_replaceChar (text : String) {char : Char} {twice : String}
    (doubled : twice.toList = [char, char]) :
    (replaceChar text char twice).toList = double char text.toList := by
  rw [replaceChar, String.toList_ofList, doubled]
  rfl

theorem toList_quoteString (value : String) :
    (quoteString value).toList = double '\'' value.toList := toList_replaceChar value rfl

theorem toList_quoteIdent (identifier : String) :
    (quoteIdent identifier).toList = '[' :: (double ']' identifier.toList ++ [']']) := by
  rw [quoteIdent, String.toList_append, String.toList_append]
  exact congrArg (fun chars => '[' :: (chars ++ [']'])) (toList_replaceChar identifier rfl)

theorem readLiteral_quoteString (value : String) {text : String}
    (separated : text.toList.head? ≠ some '\'') :
    readLiteral ("N'" ++ quoteString value ++ "'" ++ text) = some (value, text) := by
  have read := congrArg (Option.map (Prod.map String.ofList String.ofList))
    (readQuoted_double value.toList separated)
  have chars : ("N'" ++ quoteString value ++ "'" ++ text).toList =
      'N' :: '\'' :: (double '\'' value.toList ++ '\'' :: text.toList) := by
    simp [toList_quoteString]
  rw [readLiteral, chars]
  exact read.trans (by simp)

theorem readIdent_quoteIdent (identifier : String) {text : String}
    (separated : text.toList.head? ≠ some ']') :
    readIdent (quoteIdent identifier ++ text) = some (identifier, text) := by
  have read := congrArg (Option.map (Prod.map String.ofList String.ofList))
    (readQuoted_double identifier.toList separated)
  have chars : (quoteIdent identifier ++ text).toList =
      '[' :: (double ']' identifier.toList ++ ']' :: text.toList) := by
    simp [toList_quoteIdent]
  rw [readIdent, chars]
  exact read.trans (by simp)

theorem render_text (text : String) (rest : List (Lexeme SqlQuote Char)) :
    sqlQuotes.render (sqlText text ++ rest) = text.toList ++ sqlQuotes.render rest :=
  Quotes.render_plain text.toList rest

theorem render_literal (value : String) (rest : List (Lexeme SqlQuote Char)) :
    sqlQuotes.render (literal value :: rest) =
      '\'' :: ((quoteString value).toList ++ '\'' :: sqlQuotes.render rest) := by
  rw [toList_quoteString]
  rfl

theorem render_ident (identifier : String) (rest : List (Lexeme SqlQuote Char)) :
    sqlQuotes.render (ident identifier :: rest) =
      (quoteIdent identifier).toList ++ sqlQuotes.render rest := by
  rw [toList_quoteIdent, List.cons_append, List.append_assoc]
  rfl

theorem separated_text {text : String} (outside : Outside text)
    {rest : List (Lexeme SqlQuote Char)} (separated : sqlQuotes.Separated rest) :
    sqlQuotes.Separated (sqlText text ++ rest) := .plain outside separated

theorem separated_literal {text : String} {first : Char} (starts : text.toList.head? = some first)
    (apart : first ≠ '\'') (value : String) {rest : List (Lexeme SqlQuote Char)}
    (separated : sqlQuotes.Separated (sqlText text ++ rest)) :
    sqlQuotes.Separated (literal value :: (sqlText text ++ rest)) := by
  refine .quoted ?_ separated
  rw [render_text, List.head?_append, starts]
  exact fun same => apart (Option.some.inj same)

theorem separated_ident (identifier : String) : sqlQuotes.Separated [ident identifier] :=
  .quoted nofun .nil

theorem lexSql_of_render {text : String} {lexemes : List (Lexeme SqlQuote Char)}
    (chars : text.toList = sqlQuotes.render lexemes) (separated : sqlQuotes.Separated lexemes) :
    lexSql text = some lexemes := by
  rw [lexSql, chars, Quotes.lex_render separated]

theorem lexSql_ident {front : String} (outside : Outside front) (identifier : String) :
    lexSql (front ++ quoteIdent identifier) = some (sqlText front ++ [ident identifier]) := by
  apply lexSql_of_render
  · rw [String.toList_append, render_text, render_ident, Quotes.render, List.append_nil]
  · exact separated_text outside (separated_ident identifier)

theorem lexSql_createDatabase (database : String) : lexSql (createDatabase database) =
    some (sqlText "CREATE DATABASE " ++ [ident database]) := lexSql_ident (by decide) database

theorem lexSql_dropDatabase (database : String) : lexSql (dropDatabase database) =
    some (sqlText "IF DB_ID(N" ++ (literal database ::
      (sqlText ") IS NOT NULL DROP DATABASE " ++ [ident database]))) := by
  apply lexSql_of_render
  · have first : "IF DB_ID(N'".toList = "IF DB_ID(N".toList ++ ['\''] := by decide
    have second : "') IS NOT NULL DROP DATABASE ".toList =
        '\'' :: ") IS NOT NULL DROP DATABASE ".toList := by decide
    unfold dropDatabase
    rw [render_text, render_literal, render_text, render_ident]
    simp only [String.toList_append, first, second, List.append_assoc, List.cons_append,
      List.nil_append, Quotes.render, List.append_nil]
  · have behind : sqlQuotes.Separated (sqlText ") IS NOT NULL DROP DATABASE " ++ [ident database]) :=
      separated_text (by decide) (separated_ident database)
    exact separated_text (by decide) (separated_literal rfl (by decide) database behind)

/-- The text in front of the identifier needs no quoting of its own. -/
theorem quoteString_createSchema (schemaName : String) :
    quoteString ("CREATE SCHEMA " ++ quoteIdent schemaName) =
      "CREATE SCHEMA " ++ quoteString (quoteIdent schemaName) := by
  have unquoted : '\'' ∉ "CREATE SCHEMA ".toList := by decide
  rw [← String.toList_inj, toList_quoteString, String.toList_append, String.toList_append,
    double_append, double_of_not_mem _ unquoted, toList_quoteString]

theorem render_exec (schemaName : String) (rest : List (Lexeme SqlQuote Char)) :
    sqlQuotes.render (literal ("CREATE SCHEMA " ++ quoteIdent schemaName) :: rest) =
      '\'' :: ("CREATE SCHEMA ".toList ++
        ((quoteString (quoteIdent schemaName)).toList ++ '\'' :: sqlQuotes.render rest)) := by
  rw [render_literal, quoteString_createSchema, String.toList_append, List.append_assoc]

theorem lexSql_createSchemaIfNotExists (schemaName : String) :
    lexSql (createSchemaIfNotExists schemaName) =
      some (sqlText "IF SCHEMA_ID(N" ++ (literal schemaName :: (sqlText ") IS NULL EXEC(N" ++
        (literal ("CREATE SCHEMA " ++ quoteIdent schemaName) :: (sqlText ")" ++ []))))) := by
  apply lexSql_of_render
  · have first : "IF SCHEMA_ID(N'".toList = "IF SCHEMA_ID(N".toList ++ ['\''] := by decide
    have second : "') IS NULL EXEC(N'CREATE SCHEMA ".toList =
        '\'' :: (") IS NULL EXEC(N".toList ++ '\'' :: "CREATE SCHEMA ".toList) := by decide
    have third : "')".toList = '\'' :: ")".toList := by decide
    unfold createSchemaIfNotExists
    rw [render_text, render_literal, render_text, render_exec, render_text]
    simp only [String.toList_append, first, second, third, List.append_assoc, List.cons_append,
      List.nil_append, Quotes.render, List.append_nil]
  · have closes : sqlQuotes.Separated (sqlText ")" ++ []) := separated_text (by decide) .nil
    have exec : sqlQuotes.Separated (sqlText ") IS NULL EXEC(N" ++
        (literal ("CREATE SCHEMA " ++ quoteIdent schemaName) :: (sqlText ")" ++ []))) :=
      separated_text (by decide) (separated_literal rfl (by decide) _ closes)
    exact separated_text (by decide) (separated_literal rfl (by decide) schemaName exec)

end reading

/-- No string escapes its quotation. A literal and an identifier are read back with whatever follows
them, and in the statements every literal and every identifier stands for the name, as does the
identifier in the literal that EXEC runs. -/
theorem quoting_not_escaped (name text : String) :
    (text.toList.head? ≠ some '\'' →
      readLiteral ("N'" ++ quoteString name ++ "'" ++ text) = some (name, text)) ∧
    (text.toList.head? ≠ some ']' → readIdent (quoteIdent name ++ text) = some (name, text)) ∧
    lexSql (dropDatabase name) = some (sqlText "IF DB_ID(N" ++ (literal name ::
      (sqlText ") IS NOT NULL DROP DATABASE " ++ [ident name]))) ∧
    ∃ exec, lexSql (createSchemaIfNotExists name) = some (sqlText "IF SCHEMA_ID(N" ++
        (literal name :: (sqlText ") IS NULL EXEC(N" ++ (literal exec :: sqlText ")")))) ∧
      lexSql exec = some (sqlText "CREATE SCHEMA " ++ [ident name]) := by
  refine ⟨readLiteral_quoteString name, readIdent_quoteIdent name, lexSql_dropDatabase name,
    _, ?_, lexSql_ident (by decide) name⟩
  have read := lexSql_createSchemaIfNotExists name
  rwa [List.append_nil] at read

/-- A name that tries to end both quotations. -/
theorem quoting_not_escaped_hostile :
    readLiteral ("N'" ++ quoteString "]';--" ++ "'" ++ ")") = some ("]';--", ")") ∧
      readIdent (quoteIdent "]';--" ++ ")") = some ("]';--", ")") := by
  obtain ⟨literals, idents, _⟩ := quoting_not_escaped "]';--" ")"
  exact ⟨literals (by decide), idents (by decide)⟩

/-- The names of the `quotes_sql_server_identifiers` and `quotes_t_sql_strings` tests. -/
example : quoteIdent "db]name" = "[db]]name]" ∧ quoteString "can't" = "can''t" := by decide

end SqlxSqlserver.Driver

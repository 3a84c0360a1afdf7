import TableGateway.Proofs.Sql.Lexing
import TableGateway.Request.SortOrder

/-!
# The grammar of statements

The commands that a gateway sends, as a database understands them: a query on one table, a change of
one table, or a procedure call. The types say what a command means and nothing of how it was put
together, so a name is a name here even if it is spelled like a keyword.

`lexemes` writes each part down, one lexeme after the other. Where a part of the grammar is a list,
`listed` puts a separator between its members. How lexemes are read is in `Grammar.lean`.
-/

namespace TableGateway.Sql

/-- The lexemes of the items with a separator between them. -/
def listed (separator : Lexeme) : List (List Lexeme) → List Lexeme
  | [] => []
  | x :: xs => x ++ xs.flatMap (separator :: ·)

/-! ## Names and operands -/

/-- A column as a statement names it. -/
structure Reference where
  /-- the table that the column is said to be of, if it is said -/
  qualifier : Option Identifier
  /-- the column -/
  column : Identifier
deriving DecidableEq

def Reference.lexemes : Reference → List Lexeme
  | ⟨none, c⟩ => [word c.name]
  | ⟨some q, c⟩ => [word q.name, word ".", word c.name]

/-- A column or a bound value. -/
inductive Scalar where
  /-- the value in a column -/
  | column (r : Reference)
  /-- a bound value -/
  | value (v : String)
deriving DecidableEq

@[simp] def Scalar.lexemes : Scalar → List Lexeme
  | column r => r.lexemes
  | value v => [.value v]

/-- What is compared. -/
inductive Operand where
  /-- a scalar as it stands -/
  | plain (s : Scalar)
  /-- a scalar in lower case -/
  | lowered (s : Scalar)
deriving DecidableEq

@[simp] def Operand.lexemes : Operand → List Lexeme
  | plain s => s.lexemes
  | lowered s => word "LOWER" :: word "(" :: s.lexemes ++ [word ")"]

/-! ## Conditions -/

/-- A comparison of two operands. -/
inductive Comparator where
  | equals
  | notEquals
  | less
  | lessEquals
  | greater
  | greaterEquals
  | like
  | ilike
deriving DecidableEq

/-- The sign or keyword of a comparison. -/
def Comparator.lexeme : Comparator → Lexeme
  | equals => word "="
  | notEquals => word "<>"
  | less => word "<"
  | lessEquals => word "<="
  | greater => word ">"
  | greaterEquals => word ">="
  | like => word "LIKE"
  | ilike => word "ILIKE"

/-- What can be said of an operand. -/
inductive Predicate where
  /-- it compares with another -/
  | compare (x : Operand) (c : Comparator) (y : Operand)
  /-- it lies between two others -/
  | between (x low high : Operand)
  /-- it has no value -/
  | isNull (x : Operand)
  /-- it has a value -/
  | isNotNull (x : Operand)
deriving DecidableEq

@[simp] def Predicate.lexemes : Predicate → List Lexeme
  | compare x c y => x.lexemes ++ c.lexeme :: y.lexemes
  | between x low high =>
    x.lexemes ++ word "BETWEEN" :: low.lexemes ++ word "AND" :: high.lexemes
  | isNull x => x.lexemes ++ [word "IS", word "NULL"]
  | isNotNull x => x.lexemes ++ [word "IS", word "NOT", word "NULL"]

/-- A predicate, or the negation of one in parentheses. -/
inductive Factor where
  /-- the predicate as it stands -/
  | plain (p : Predicate)
  /-- the negation of a predicate -/
  | negated (p : Predicate)
deriving DecidableEq

@[simp] def Factor.lexemes : Factor → List Lexeme
  | plain p => p.lexemes
  | negated p => word "NOT" :: word "(" :: p.lexemes ++ [word ")"]

/-! ## Queries -/

/-- A table as a statement names it. -/
structure TableName where
  /-- the schema of the table, if it is named -/
  schema : Option Identifier
  /-- the table -/
  table : Identifier
deriving DecidableEq

def TableName.lexemes (t : TableName) : List Lexeme := Reference.lexemes ⟨t.schema, t.table⟩

/-- The table of a query. -/
structure Source where
  /-- the table -/
  name : TableName
  /-- the name by which the query calls the table, if it is not its own -/
  label : Option Identifier
deriving DecidableEq

def Source.lexemes (s : Source) : List Lexeme :=
  s.name.lexemes ++ s.label.toList.map fun l => word l.name

/-- The name by which a query calls its table. -/
def Source.calledName (s : Source) : Identifier := s.label.getD s.name.table

/-- The rows that a query is about: those of the table that meet all conditions. -/
structure Rows where
  /-- the table -/
  source : Source
  /-- the conditions; none if there is no WHERE clause -/
  conditions : List Factor
deriving DecidableEq

/-- The lexemes of a WHERE clause. -/
def whereLexemes : List Factor → List Lexeme
  | [] => []
  | f :: fs => word "WHERE" :: listed (word "AND") ((f :: fs).map Factor.lexemes)

def Rows.lexemes (r : Rows) : List Lexeme :=
  word "FROM" :: r.source.lexemes ++ whereLexemes r.conditions

/-- The columns that a query returns. -/
inductive Projection where
  /-- all columns of the table -/
  | all (qualifier : Option Identifier)
  /-- the columns named -/
  | columns (first : Reference) (more : List Reference)
deriving DecidableEq

def Projection.lexemes : Projection → List Lexeme
  | all none => [word "*"]
  | all (some q) => [word q.name, word ".", word "*"]
  | columns r rs => listed (word ",") ((r :: rs).map Reference.lexemes)

/-- A column to sort by and the direction. -/
structure OrderItem where
  /-- the column -/
  reference : Reference
  /-- the direction -/
  direction : Direction
deriving DecidableEq

def OrderItem.lexemes (o : OrderItem) : List Lexeme :=
  o.reference.lexemes ++ [word o.direction.sql]

/-- The lexemes of an ORDER BY clause. -/
def orderLexemes : Option OrderItem → List Lexeme
  | none => []
  | some o => word "ORDER" :: word "BY" :: o.lexemes

/-- The lexeme of a number. -/
def number (n : Nat) : Lexeme := .token (Nat.toDigits 10 n)

/-- A clause that cuts out a stretch of rows: so many of them, after so many others. -/
inductive Window where
  /-- `LIMIT limit OFFSET offset` -/
  | limitOffset (limit offset : Nat)
  /-- `LIMIT offset,limit` -/
  | limitComma (offset limit : Nat)
  /-- `OFFSET offset ROWS FETCH NEXT limit ROWS ONLY` -/
  | offsetFetch (offset limit : Nat)
deriving DecidableEq

def Window.lexemes : Window → List Lexeme
  | limitOffset n s => [word "LIMIT", number n, word "OFFSET", number s]
  | limitComma s n => [word "LIMIT", number s, word ",", number n]
  | offsetFetch s n =>
    [word "OFFSET", number s, word "ROWS", word "FETCH", word "NEXT", number n, word "ROWS",
      word "ONLY"]

/-- A query of one table. -/
inductive Query where
  /-- columns of the rows, sorted if there is an order and cut if there is a window -/
  | plain (projection : Projection) (rows : Rows) (order : Option OrderItem)
      (window : Option Window)
  /-- columns of the rows, those whose number by the order is between `first` and `last` -/
  | numbered (order : OrderItem) (projection : Projection) (rows : Rows)
      (label : Option Identifier) (first last : Nat)
  /-- the number of the rows -/
  | count (rows : Rows)
deriving DecidableEq

/-- What opens a query that numbers its rows. -/
def numberedOpening : List Lexeme :=
  [word "SELECT", word "*", word "FROM", word "(", word "SELECT", word "ROW_NUMBER", word "(",
    word ")", word "OVER", word "(", word "ORDER", word "BY"]

/-- What stands between the numbering and the columns. -/
def numberedColumn : List Lexeme := [word ")", word "AS", word "ROW_NUMBER", word ","]

/-- What opens a query that counts. -/
def countOpening : List Lexeme := [word "SELECT", word "COUNT", word "(", word "*", word ")"]

/-- The name of a derived table, if it has one. -/
def derivedLexemes (label : Option Identifier) : List Lexeme :=
  label.elim [] fun l => [word "AS", word l.name]

def Query.lexemes : Query → List Lexeme
  | plain p r o w =>
    word "SELECT" :: p.lexemes ++ r.lexemes ++ orderLexemes o ++ w.elim [] Window.lexemes
  | numbered o p r l first last =>
    numberedOpening ++ o.lexemes ++ numberedColumn ++ p.lexemes ++ r.lexemes ++
      word ")" :: derivedLexemes l ++ [word "WHERE", word "ROW_NUMBER", word "BETWEEN",
        number first, word "AND", number last]
  | count r => countOpening ++ r.lexemes

/-- The rows that a query is about. -/
def Query.rows : Query → Rows
  | plain _ r _ _ => r
  | numbered _ _ r _ _ _ => r
  | count r => r

/-! ## Commands -/

/-- A column and a value, written `column=?`: a new value, or the one that picks a row. -/
structure Equation where
  /-- the column -/
  reference : Reference
  /-- the value -/
  value : String
deriving DecidableEq

def Equation.lexemes (e : Equation) : List Lexeme :=
  e.reference.lexemes ++ [word "=", .value e.value]

/-- What a database is told to do. -/
inductive Command where
  /-- answer a query -/
  | query (q : Query)
  /-- add a row -/
  | insert (table : TableName) (columns : List Identifier) (values : List String)
  /-- set columns in the rows that a key picks -/
  | update (table : TableName) (sets : List Equation) (key : Equation)
  /-- delete the rows that a key picks -/
  | delete (table : TableName) (key : Equation)
  /-- call a procedure -/
  | call (procedure : Identifier) (arguments : List String)
deriving DecidableEq

def Command.lexemes : Command → List Lexeme
  | query q => q.lexemes
  | insert t cs vs =>
    word "INSERT" :: word "INTO" :: t.lexemes ++ word "(" ::
      listed (word ",") (cs.map fun c => [word c.name]) ++ word ")" :: word "VALUES" ::
      word "(" :: listed (word ",") (vs.map fun v => [.value v]) ++ [word ")"]
  | update t es key =>
    word "UPDATE" :: t.lexemes ++ word "SET" :: listed (word ",") (es.map Equation.lexemes) ++
      word "WHERE" :: key.lexemes
  | delete t key =>
    word "DELETE" :: word "FROM" :: t.lexemes ++ word "WHERE" :: key.lexemes
  | call p vs =>
    word "\x7b" :: word "CALL" :: word p.name :: word "(" ::
      listed (word ",") (vs.map fun v => [.value v]) ++ [word ")", word "\x7d"]

end TableGateway.Sql

/-!
# Pieces of SQL

A statement is put together from pieces: SQL text, and values that are bound to a placeholder. The
text of the statement and the list of its parameters are both read off the same list of pieces, so
that the n-th placeholder belongs to the n-th parameter by construction, and a value never becomes
text.
-/

namespace TableGateway

/-- A part of a statement. -/
inductive Piece where
  /-- SQL text, taken as it stands -/
  | text (sql : String)
  /-- a placeholder and the value bound to it -/
  | bound (value : String)
deriving DecidableEq

namespace Piece

/-- The characters that a piece adds to the SQL. -/
def chars : Piece → List Char
  | text sql => sql.toList
  | bound _ => ['?']

/-- The value that a piece binds. -/
def value? : Piece → Option String
  | text _ => none
  | bound value => some value

/-- The SQL of a list of pieces. -/
def sql (ps : List Piece) : String := String.ofList (ps.flatMap chars)

/-- The values bound in a list of pieces, in the order of their placeholders. -/
def params (ps : List Piece) : List String := ps.filterMap value?

@[simp] theorem toList_sql (ps : List Piece) : (sql ps).toList = ps.flatMap chars := by
  simp [sql]

@[simp] theorem sql_nil : sql [] = "" := rfl

@[simp] theorem sql_text_cons (s : String) (ps : List Piece) :
    sql (text s :: ps) = s ++ sql ps := by
  simp [sql, chars]

@[simp] theorem sql_bound_cons (v : String) (ps : List Piece) :
    sql (bound v :: ps) = "?" ++ sql ps := by
  simp [sql, chars]

@[simp] theorem sql_append (ps qs : List Piece) : sql (ps ++ qs) = sql ps ++ sql qs := by
  simp [sql]

/-- Pieces for each element of a list, behind a text that separates them from what is before. -/
theorem sql_separated {α : Type} (s : String) (pieces : α → List Piece) (a : α) (as : List α) :
    sql (pieces a ++ as.flatMap fun b => text s :: pieces b) =
      s.intercalate ((a :: as).map fun b => sql (pieces b)) := by
  induction as generalizing a with
  | nil => simp
  | cons b as ih =>
    have hrest := ih b
    rw [List.map_cons] at hrest
    rw [List.map_cons, List.map_cons, String.intercalate_cons_cons, ← hrest]
    simp [String.append_assoc]

@[simp] theorem params_nil : params [] = [] := rfl

@[simp] theorem params_text_cons (s : String) (ps : List Piece) :
    params (text s :: ps) = params ps := rfl

@[simp] theorem params_bound_cons (v : String) (ps : List Piece) :
    params (bound v :: ps) = v :: params ps := rfl

@[simp] theorem params_append (ps qs : List Piece) :
    params (ps ++ qs) = params ps ++ params qs := by
  simp [params]

end Piece

/-- A statement to be run: its SQL and the parameters in the order of the placeholders. -/
structure Statement where
  /-- the SQL, with a `?` for each parameter -/
  sql : String
  /-- the parameters, in the order of the placeholders -/
  params : List String
deriving DecidableEq

namespace Statement

/-- The statement that a list of pieces makes up. -/
def ofPieces (ps : List Piece) : Statement := ⟨Piece.sql ps, Piece.params ps⟩

/-- A statement without parameters. -/
def ofText (sql : String) : Statement := ⟨sql, []⟩

@[simp] theorem sql_ofPieces (ps : List Piece) : (ofPieces ps).sql = Piece.sql ps := rfl

@[simp] theorem params_ofPieces (ps : List Piece) : (ofPieces ps).params = Piece.params ps := rfl

end Statement

end TableGateway

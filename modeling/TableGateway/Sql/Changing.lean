import TableGateway.Dialect
import TableGateway.Sql.Piece
import TableGateway.Statement.Change
import TableGateway.Statement.ProcedureCall

/-!
# Changes and calls in SQL

How rows are added, updated and deleted in each dialect, and how a procedure is called, which is the
same everywhere. A change can be incomplete: without columns there is nothing to write, and without
a usable key value there is no row to write to. Then there is no statement, and the error names the
table.
-/

namespace TableGateway.Dialect

/-- The table of a change. -/
def changeTarget (d : Dialect) (t : Table) : String :=
  match d.traits.changes with
  | .bare => t.name.name
  | .qualified | .qualifiedColumns => t.qualifiedName

/-- A column of the table in the SET and WHERE clauses of a change. -/
def changeColumn (d : Dialect) (t : Table) (column : Identifier) : String :=
  match d.traits.changes with
  | .bare | .qualified => column.name
  | .qualifiedColumns => t.name.name ++ "." ++ column.name

/-- Placeholders for the values, with commas between them. -/
def placeholders : List String → List Piece
  | [] => []
  | v :: vs => .bound v :: vs.flatMap fun w => [.text ",", .bound w]

/-- `column=?` for one assignment. -/
def assignment (d : Dialect) (t : Table) (e : Identifier × String) : List Piece :=
  [.text (d.changeColumn t e.1 ++ "="), .bound e.2]

/-- `column=?` for each assignment, with commas between them. -/
def assignments (d : Dialect) (t : Table) : List (Identifier × String) → List Piece
  | [] => []
  | e :: es => d.assignment t e ++ es.flatMap fun f => .text "," :: d.assignment t f

/-- The WHERE clause that picks the row with the given key value. -/
def keyClause (d : Dialect) (t : Table) (key : String) : List Piece :=
  .text " WHERE " :: d.assignment t (t.primaryKey, key)

/-- The error for a change of the table that cannot be written. -/
def incomplete (t : Table) (reason : Reason) : Error := .invalidRequest reason (some t.name.name)

/-- The pieces of an INSERT of the given assignments. -/
def insertPieces (d : Dialect) (t : Table) (values : Assignments) : List Piece :=
  .text ("INSERT INTO " ++ d.changeTarget t ++ " (" ++
      ",".intercalate (values.keys.map Identifier.name) ++ ") VALUES (") ::
    placeholders values.values ++ [.text ")"]

/-- The statement that adds a row. -/
def insert (d : Dialect) (i : Insertion) : Except Error Statement :=
  if i.values.isEmpty then .error (incomplete i.table .emptyInsert)
  else .ok (.ofPieces (d.insertPieces i.table i.values))

theorem insert_eq_ok_iff {d : Dialect} {i : Insertion} {st : Statement} :
    d.insert i = .ok st ↔
      i.values.isEmpty = false ∧ st = .ofPieces (d.insertPieces i.table i.values) := by
  rw [insert]
  cases i.values.isEmpty with
  | true => simp
  | false => simp [eq_comm]

/-- The pieces of an UPDATE of the row with the given key value. -/
def updatePieces (d : Dialect) (t : Table) (values : Assignments) (key : String) : List Piece :=
  .text ("UPDATE " ++ d.changeTarget t ++ " SET ") ::
    d.assignments t values.entries ++ d.keyClause t key

/-- The statement that updates a row. -/
def update (d : Dialect) (u : Update) : Except Error Statement :=
  if u.values.isEmpty then .error (incomplete u.table .emptyUpdate)
  else
    match u.usableKey with
    | none => .error (incomplete u.table (.missingKey u.table.primaryKey.name))
    | some key => .ok (.ofPieces (d.updatePieces u.table u.values key))

theorem update_eq_ok_iff {d : Dialect} {u : Update} {st : Statement} :
    d.update u = .ok st ↔ u.values.isEmpty = false ∧
      ∃ key, u.usableKey = some key ∧ st = .ofPieces (d.updatePieces u.table u.values key) := by
  rw [update]
  cases u.values.isEmpty with
  | true => simp
  | false => cases u.usableKey <;> simp [eq_comm]

/-- The pieces of a DELETE of the row with the given key value. -/
def deletePieces (d : Dialect) (t : Table) (key : String) : List Piece :=
  .text ("DELETE FROM " ++ d.changeTarget t) :: d.keyClause t key

/-- The statement that deletes a row. -/
def delete (d : Dialect) (x : Deletion) : Except Error Statement :=
  match x.usableKey with
  | none => .error (incomplete x.table (.missingKey x.table.primaryKey.name))
  | some key => .ok (.ofPieces (d.deletePieces x.table key))

theorem delete_eq_ok_iff {d : Dialect} {x : Deletion} {st : Statement} :
    d.delete x = .ok st ↔
      ∃ key, x.usableKey = some key ∧ st = .ofPieces (d.deletePieces x.table key) := by
  rw [delete]
  cases x.usableKey <;> simp [eq_comm]

/-- The pieces of a call. -/
def callPieces (c : ProcedureCall) : List Piece :=
  .text ("\x7bCALL " ++ c.procedure.name ++ "(") :: placeholders c.arguments ++ [.text ")\x7d"]

/-- The statement that calls a procedure, in the escape notation that all dialects share. -/
def call (_ : Dialect) (c : ProcedureCall) : Statement := .ofPieces (callPieces c)

end TableGateway.Dialect

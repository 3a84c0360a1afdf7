import TableGateway.Proofs.Sql.Spelling
import TableGateway.Sql.Changing

/-!
# What rendered changes and calls say

The commands that a change or a call stands for in a dialect: `Dialect.insertCommand`,
`Dialect.updateCommand`, `Dialect.deleteCommand` and `Dialect.callCommand`. A change that is rendered
at all spells its command, with the table and the columns named as the dialect names them.
-/

namespace TableGateway.Dialect

open Sql (Writes word listed)

/-! ## The commands -/

/-- The table of a change as a statement names it. -/
def changeTable (d : Dialect) (t : Table) : Sql.TableName :=
  match d.traits.changes with
  | .bare => ⟨none, t.name⟩
  | .qualified | .qualifiedColumns => ⟨t.schema, t.name⟩

/-- A column of the table as the SET and WHERE clauses of a change name it. -/
def changeReference (d : Dialect) (t : Table) (column : Identifier) : Sql.Reference :=
  match d.traits.changes with
  | .bare | .qualified => ⟨none, column⟩
  | .qualifiedColumns => ⟨some t.name, column⟩

/-- A column of the table and a value. -/
def equation (d : Dialect) (t : Table) (e : Identifier × String) : Sql.Equation :=
  ⟨d.changeReference t e.1, e.2⟩

/-- The command that adds a row. -/
def insertCommand (d : Dialect) (t : Table) (values : Assignments) : Sql.Command :=
  .insert (d.changeTable t) values.keys values.values

/-- The command that updates the row with the given key value. -/
def updateCommand (d : Dialect) (t : Table) (values : Assignments) (key : String) : Sql.Command :=
  .update (d.changeTable t) (values.entries.map (d.equation t)) (d.equation t (t.primaryKey, key))

/-- The command that deletes the row with the given key value. -/
def deleteCommand (d : Dialect) (t : Table) (key : String) : Sql.Command :=
  .delete (d.changeTable t) (d.equation t (t.primaryKey, key))

/-- The command that calls a procedure. -/
def callCommand (c : ProcedureCall) : Sql.Command := .call c.procedure c.arguments

/-! ## The parts of a change -/

theorem writes_changeTarget (d : Dialect) (t : Table) :
    Writes (d.changeTarget t).toList [] (d.changeTable t).lexemes := by
  rw [changeTarget, changeTable]
  cases d.traits.changes with
  | bare => exact Sql.writes_name t.name
  | qualified => exact Sql.writes_qualifiedName t
  | qualifiedColumns => exact Sql.writes_qualifiedName t

/-- A column and a value with nothing but `=` between them. -/
theorem writes_equation (e : Sql.Equation) :
    Writes (e.reference.text.toList ++ ['=', '?']) [e.value] e.lexemes := by
  obtain ⟨r, v⟩ := e
  intro cs vs ls hcs h
  -- without a blank around it, `=` ends the column and is ended by the placeholder
  have hvalue : Sql.Spells ('=' :: '?' :: cs) (v :: vs) (word "=" :: .value v :: ls) :=
    Sql.Spells.append_opens (a := ['=']) rfl rfl (Sql.Spells.bound_append v h)
  have hcolumn := Sql.Spells.word_append (Sql.isWord_name r.column) rfl hvalue
  obtain ⟨_ | q, c⟩ := r
  · rw [List.append_assoc]
    exact hcolumn
  · rw [Sql.Reference.text, String.toList_append, String.toList_append, List.append_assoc,
      List.append_assoc, List.append_assoc]
    have hpoint : Sql.Spells ['.'] [] [word "."] := rfl
    have hqualified := Sql.Spells.text_append rfl hpoint hcolumn
    exact Sql.Spells.word_append (Sql.isWord_name q) rfl hqualified

theorem changeColumn_eq_text (d : Dialect) (t : Table) (c : Identifier) :
    d.changeColumn t c = (d.changeReference t c).text := by
  rw [changeColumn, changeReference]
  cases d.traits.changes <;> rfl

theorem writes_assignment (d : Dialect) (t : Table) (e : Identifier × String) :
    Writes ((d.assignment t e).flatMap Piece.chars) (Piece.params (d.assignment t e))
      (d.equation t e).lexemes := by
  have hchars : (d.assignment t e).flatMap Piece.chars =
      (d.equation t e).reference.text.toList ++ ['=', '?'] := by
    simp [assignment, Piece.chars, changeColumn_eq_text, equation]
  rw [hchars]
  exact writes_equation (d.equation t e)

theorem writes_assignments (d : Dialect) (t : Table) (es : List (Identifier × String)) :
    Writes ((d.assignments t es).flatMap Piece.chars) (Piece.params (d.assignments t es))
      (listed (word ",") ((es.map (d.equation t)).map Sql.Equation.lexemes)) := by
  cases es with
  | nil => exact Writes.nil
  | cons e es =>
    rw [List.map_map]
    exact Sql.writes_separated "," (word ",") (fun _ => rfl) rfl rfl (d.assignment t)
      (writes_assignment d t) e es

theorem writes_placeholders (vs : List String) :
    Writes ((placeholders vs).flatMap Piece.chars) (Piece.params (placeholders vs))
      (listed (word ",") (vs.map fun v => [.value v])) := by
  cases vs with
  | nil => exact Writes.nil
  | cons v vs =>
    exact Sql.writes_separated "," (word ",") (fun _ => rfl) rfl rfl (fun v => [.bound v])
      (fun v => Writes.bound v Writes.nil) v vs

theorem writes_keyClause (d : Dialect) (t : Table) (key : String) :
    Writes ((d.keyClause t key).flatMap Piece.chars) (Piece.params (d.keyClause t key))
      (word "WHERE" :: (d.equation t (t.primaryKey, key)).lexemes) := by
  rw [keyClause, List.flatMap_cons, Piece.params_text_cons]
  exact Writes.literal [word "WHERE"] rfl rfl (writes_assignment d t (t.primaryKey, key))

/-! ## Statements -/

theorem spelled_insertPieces (d : Dialect) (t : Table) {values : Assignments}
    (h : values.isEmpty = false) :
    Sql.Spelled (.ofPieces (d.insertPieces t values)) (d.insertCommand t values) := by
  have hentries : values.entries ≠ [] := by
    intro hnil
    rw [OrderedMap.isEmpty, hnil] at h
    cases h
  have hcolumns := Sql.writes_commas Sql.writes_name values.keys
  have hvalues := (writes_placeholders values.values).append rfl
    (Writes.ending (s := ")".toList) [word ")"] rfl)
  refine Sql.Spelled.ofPieces ⟨?_, ?_⟩ ?_
  · exact fun hnil => hentries (List.map_eq_nil_iff.mp hnil)
  · exact fun hnil => hentries (List.map_eq_nil_iff.mp hnil)
  have hlist := Writes.literal (s := " (".toList) [word "("] rfl rfl (hcolumns.append rfl
    (Writes.literal (s := ") VALUES (".toList) [word ")", word "VALUES", word "("] rfl rfl hvalues))
  have hinsert := Writes.literal (s := "INSERT INTO ".toList) [word "INSERT", word "INTO"] rfl rfl
    ((writes_changeTarget d t).append rfl hlist)
  simp only [insertPieces, insertCommand, Sql.Command.lexemes, List.cons_append,
    List.flatMap_cons, List.flatMap_append, List.flatMap_nil, List.append_nil, Piece.chars,
    String.toList_append, Piece.params_text_cons, Piece.params_append, Piece.params_nil,
    List.append_assoc] at hinsert ⊢
  exact hinsert

theorem spelled_updatePieces (d : Dialect) (t : Table) {values : Assignments}
    (h : values.isEmpty = false) (key : String) :
    Sql.Spelled (.ofPieces (d.updatePieces t values key)) (d.updateCommand t values key) := by
  have hsets : values.entries.map (d.equation t) ≠ [] := by
    intro hnil
    rw [OrderedMap.isEmpty, List.map_eq_nil_iff.mp hnil] at h
    cases h
  have hassignments := (writes_assignments d t values.entries).append rfl (writes_keyClause d t key)
  have hupdate := Writes.literal (s := "UPDATE ".toList) [word "UPDATE"] rfl rfl
    ((writes_changeTarget d t).append rfl
      (Writes.literal (s := " SET ".toList) [word "SET"] rfl rfl hassignments))
  refine Sql.Spelled.ofPieces hsets ?_
  simp only [updatePieces, updateCommand, Sql.Command.lexemes, List.cons_append,
    List.nil_append, List.flatMap_cons, List.flatMap_append, Piece.chars,
    String.toList_append, Piece.params_text_cons, Piece.params_append, List.append_assoc]
    at hupdate ⊢
  exact hupdate

theorem spelled_deletePieces (d : Dialect) (t : Table) (key : String) :
    Sql.Spelled (.ofPieces (d.deletePieces t key)) (d.deleteCommand t key) := by
  refine Sql.Spelled.ofPieces trivial ?_
  rw [deletePieces, List.flatMap_cons, Piece.params_text_cons, Piece.chars, String.toList_append,
    List.append_assoc]
  exact Writes.literal [word "DELETE", word "FROM"] rfl rfl
    ((writes_changeTarget d t).append rfl (writes_keyClause d t key))

theorem spelled_call (d : Dialect) (c : ProcedureCall) :
    Sql.Spelled (d.call c) (callCommand c) := by
  have harguments := (writes_placeholders c.arguments).append rfl
    (Writes.ending (s := ")\x7d".toList) [word ")", word "\x7d"] rfl)
  have hcall := Writes.literal (s := "\x7bCALL ".toList) [word "\x7b", word "CALL"] rfl rfl
    ((Sql.writes_name c.procedure).append rfl
      (Writes.literal (s := "(".toList) [word "("] rfl rfl harguments))
  refine Sql.Spelled.ofPieces (c := callCommand c) trivial ?_
  simp only [callPieces, callCommand, Sql.Command.lexemes, List.cons_append,
    List.nil_append, List.flatMap_cons, List.flatMap_append, List.flatMap_nil, List.append_nil,
    Piece.chars, String.toList_append, Piece.params_text_cons, Piece.params_append,
    Piece.params_nil, List.append_assoc] at hcall ⊢
  exact hcall

end TableGateway.Dialect

import TableGateway.Proofs.Gateway.Failure
import TableGateway.Proofs.Sql.Composition
import TableGateway.Proofs.Statement.Construction

/-!
# Changes are complete and keyed

A change that loses its WHERE clause works on every row of the table, and one whose columns and
values get out of step writes the wrong values. Here it is said what a change comes to
(`Outcome`): to a statement if it is complete, and only then; of which form that statement is; and
that everything else is an invalid request, which names the table. There is one lemma for each kind
of change, `Dialect.outcome_insert`, `Dialect.outcome_update` and `Dialect.outcome_delete`, and
`Dialect.complete_and_keyed` says it of all changes that can be put together.

The text of a statement is read off its pieces here, while its parameters are known from what it is
composed of (`Sql.Composes`).
-/

namespace TableGateway

/-- A change of the table comes to a statement exactly if it is complete, and then to one of this
form. Otherwise it is an invalid request, which names the table. -/
structure Outcome (t : Table) (x : Except Error Statement) (complete : Prop)
    (form : Statement → Prop) : Prop where
  /-- there is a statement exactly if the change is complete -/
  ok_iff : (∃ st, x = .ok st) ↔ complete
  /-- the form of the statement -/
  form : ∀ st, x = .ok st → form st
  /-- the failure is an invalid request on the table -/
  failure : ∀ error, x = .error error → ∃ reason, error = .invalidRequest reason (some t.name.name)

/-- The key value picks a row: it is given, and not all of it is blank. -/
def PicksRow (key : Option String) : Prop :=
  ∃ k, key = some k ∧ ∃ c ∈ k.toList, Text.isBlank c = false

namespace Assignments

theorem Holds.isEmpty_eq_false_iff {a : Assignments} {pairs : List (String × String)}
    (h : a.Holds pairs) : a.isEmpty = false ↔ pairs ≠ [] := by
  have hcolumns : a.entries = [] ↔ namedColumns pairs = [] := by
    rw [← h.columns, OrderedMap.keys, List.map_map, List.map_eq_nil_iff]
  have hnamed : namedColumns pairs = [] ↔ pairs = [] := by
    cases pairs with
    | nil => exact ⟨fun _ => rfl, fun _ => rfl⟩
    | cons p pairs => simp [namedColumns, List.eraseDups_cons]
  rw [OrderedMap.isEmpty, List.isEmpty_eq_false_iff, Ne, hcolumns, hnamed]

end Assignments

namespace Dialect

open Assignments (namedColumns lastValue?)

/-! ## Texts -/

/-- What stands before the columns of a table in the SET and WHERE clauses of a change. -/
def changeQualifier (d : Dialect) (t : Table) : String :=
  match d.traits.changes with
  | .bare | .qualified => ""
  | .qualifiedColumns => t.name.name ++ "."

/-- The text `column=?` for a column of the table. -/
def assignmentText (d : Dialect) (t : Table) (column : String) : String :=
  d.changeQualifier t ++ column ++ "=?"

/-- The text that a keyed change ends in: the key column of the table and a placeholder. -/
def keyText (d : Dialect) (t : Table) : String :=
  " WHERE " ++ d.assignmentText t t.primaryKey.name

theorem changeColumn_eq (d : Dialect) (t : Table) (column : Identifier) :
    d.changeColumn t column = d.changeQualifier t ++ column.name := by
  rw [changeColumn, changeQualifier]
  cases d.traits.changes <;> simp

theorem sql_assignment (d : Dialect) (t : Table) (e : Identifier × String) :
    Piece.sql (d.assignment t e) = d.assignmentText t e.1.name := by
  simp [assignment, assignmentText, changeColumn_eq, String.append_assoc]

theorem sql_assignments (d : Dialect) (t : Table) (es : List (Identifier × String)) :
    Piece.sql (d.assignments t es) =
      ",".intercalate (es.map fun e => d.assignmentText t e.1.name) := by
  cases es with
  | nil => rfl
  | cons e es =>
    rw [assignments, Piece.sql_separated]
    simp only [sql_assignment]

theorem sql_placeholders (vs : List String) :
    Piece.sql (placeholders vs) = ",".intercalate (vs.map fun _ => "?") := by
  cases vs with
  | nil => rfl
  | cons v vs =>
    have h := Piece.sql_separated "," (fun w => [.bound w]) v vs
    rw [List.singleton_append] at h
    rw [placeholders, h]
    rfl

theorem sql_keyClause (d : Dialect) (t : Table) (key : String) :
    Piece.sql (d.keyClause t key) = d.keyText t := by
  rw [keyClause, Piece.sql_text_cons, sql_assignment, keyText]

/-! ## Statements -/

/-- The statement adds a row: it lists the columns that the pairs name and a placeholder for each,
and the parameters are the values that the columns are given last, in the same order. -/
def AddsRow (d : Dialect) (t : Table) (pairs : List (String × String)) (st : Statement) : Prop :=
  ∃ values, values.map some = (namedColumns pairs).map (lastValue? pairs) ∧
    st = ⟨"INSERT INTO " ++ d.changeTarget t ++ " (" ++ ",".intercalate (namedColumns pairs) ++
      ") VALUES (" ++ ",".intercalate ((namedColumns pairs).map fun _ => "?") ++ ")", values⟩

/-- The statement updates the row with the key value: it has `column=?` for each column that the
pairs name, ends in the key column, and the parameters are the values that the columns are given
last, in the same order, and then the key value. -/
def UpdatesRow (d : Dialect) (t : Table) (pairs : List (String × String)) (key : Option String)
    (st : Statement) : Prop :=
  ∃ values k, values.map some = (namedColumns pairs).map (lastValue? pairs) ∧ key = some k ∧
    st = ⟨"UPDATE " ++ d.changeTarget t ++ " SET " ++
      ",".intercalate ((namedColumns pairs).map (d.assignmentText t)) ++ d.keyText t,
      values ++ [k]⟩

/-- The statement deletes the row with the key value: it ends in the key column, and the key value
is its only parameter. -/
def DeletesRow (d : Dialect) (t : Table) (key : Option String) (st : Statement) : Prop :=
  ∃ k, key = some k ∧ st = ⟨"DELETE FROM " ++ d.changeTarget t ++ d.keyText t, [k]⟩

variable (d : Dialect) {t : Table} {pairs : List (String × String)}

theorem outcome_insert {i : Insertion} (hi : i.values.Holds pairs) :
    Outcome i.table (d.insert i) (pairs ≠ []) (d.AddsRow i.table pairs) := by
  have hlength : i.values.values.map (fun _ => "?") = (namedColumns pairs).map fun _ => "?" := by
    rw [← hi.columns]
    simp [OrderedMap.values, OrderedMap.keys]
  constructor
  · rw [← hi.isEmpty_eq_false_iff]
    simp [insert_eq_ok_iff]
  · intro st hst
    obtain ⟨-, rfl⟩ := insert_eq_ok_iff.mp hst
    refine ⟨i.values.values, hi.map_some_values, ?_⟩
    rw [Statement.ofPieces, (composes_insertPieces d i.table i.values).params_eq]
    simp [insertPieces, sql_placeholders, hlength, hi.columns, String.append_assoc]
  · exact failsOnlyWith_insert (fun reason => ⟨reason, rfl⟩) d i.values

theorem outcome_update {u : Update} {key : Option String} (hu : u.Made t pairs key) :
    Outcome t (d.update u) (pairs ≠ [] ∧ PicksRow key) (d.UpdatesRow t pairs key) := by
  obtain ⟨rfl, hvalues, rfl⟩ := hu
  constructor
  · rw [← hvalues.isEmpty_eq_false_iff]
    simp [update_eq_ok_iff, Update.usableKey, usableKey_eq_some_iff, PicksRow]
  · intro st hst
    obtain ⟨-, k, hk, rfl⟩ := update_eq_ok_iff.mp hst
    refine ⟨u.values.values, k, hvalues.map_some_values, (usableKey_eq_some_iff.mp hk).1, ?_⟩
    have hcolumns : (u.values.entries.map fun e => d.assignmentText u.table e.1.name) =
        (namedColumns pairs).map (d.assignmentText u.table) := by
      rw [← hvalues.columns]
      simp [OrderedMap.keys]
    rw [Statement.ofPieces, (composes_updatePieces d u.table u.values k).params_eq]
    simp [updatePieces, sql_assignments, sql_keyClause, hcolumns, String.append_assoc]
  · exact failsOnlyWith_update (fun reason => ⟨reason, rfl⟩) d u.key u.values

theorem outcome_delete (x : Deletion) :
    Outcome x.table (d.delete x) (PicksRow x.key) (d.DeletesRow x.table x.key) := by
  constructor
  · simp [delete_eq_ok_iff, Deletion.usableKey, usableKey_eq_some_iff, PicksRow]
  · intro st hst
    obtain ⟨k, hk, rfl⟩ := delete_eq_ok_iff.mp hst
    refine ⟨k, (usableKey_eq_some_iff.mp hk).1, ?_⟩
    rw [Statement.ofPieces, (composes_deletePieces d x.table k).params_eq]
    simp [deletePieces, sql_keyClause, String.append_assoc]
  · exact failsOnlyWith_delete (fun reason => ⟨reason, rfl⟩) d x.key

/-- **Changes are complete and keyed.** However an update is put together, it comes to a statement
exactly if a column was set and the key value that was given last is not blank; the statement sets
each column once, to its last value, and ends in the key column of the table. A deletion needs a key
value like that, and a new row a column. A change that lacks something is an invalid request, so
that no update and no deletion is rendered for more than the row with the key value. -/
theorem complete_and_keyed (d : Dialect) (t : Table) :
    (∀ (key : Option String) (pairs : List (String × String)) (steps : List Update.Step)
        (u : Update), Update.build t key pairs steps = .ok u →
      Outcome t (d.update u)
        (Update.assigned pairs steps ≠ [] ∧ PicksRow (Update.lastKey? key steps))
        (d.UpdatesRow t (Update.assigned pairs steps) (Update.lastKey? key steps))) ∧
    (∀ key : Option String,
      Outcome t (d.delete ⟨t, key⟩) (PicksRow key) (d.DeletesRow t key)) ∧
    (∀ (pairs sets : List (String × String)) (i : Insertion),
      Insertion.build t pairs sets = .ok i →
      Outcome t (d.insert i) (pairs ++ sets ≠ []) (d.AddsRow t (pairs ++ sets))) := by
  refine ⟨?_, ?_, ?_⟩
  · exact fun key pairs steps u hu => outcome_update d (Update.made_of_build hu)
  · exact fun key => outcome_delete d ⟨t, key⟩
  · intro pairs sets i hi
    obtain ⟨rfl, hvalues⟩ := Insertion.holds_of_build hi
    exact outcome_insert d hvalues

/-- A column that is set twice has its last value at its first place, and a blank key value that is
replaced does no harm. -/
theorem complete_and_keyed_reassigned :
    let t : Table := ⟨none, ⟨"users", by decide⟩, ⟨"id", by decide⟩⟩
    ∃ u, Update.build t none [("a", "1")] [.set "b" "2", .key " ", .set "a" "3", .key "7"] = .ok u ∧
      Dialect.h2.update u =
        .ok ⟨"UPDATE users SET users.a=?,users.b=? WHERE users.id=?", ["3", "2", "7"]⟩ := by
  intro t
  have hbuild : ∃ u, Update.build t none [("a", "1")]
      [.set "b" "2", .key " ", .set "a" "3", .key "7"] = .ok u := ⟨_, rfl⟩
  obtain ⟨u, hu⟩ := hbuild
  obtain ⟨hupdate, -, -⟩ := complete_and_keyed .h2 t
  have houtcome := hupdate _ _ _ u hu
  obtain ⟨st, hst⟩ := houtcome.ok_iff.mpr ⟨by decide, "7", by decide, '7', by decide, by decide⟩
  obtain ⟨values, k, hvalues, hk, rfl⟩ := houtcome.form st hst
  have hlast : values.map some = ["3", "2"].map some := hvalues.trans (by decide +kernel)
  cases Option.some.inj hk
  rw [List.map_inj_right (fun _ _ => Option.some.inj)] at hlast
  subst hlast
  exact ⟨u, hu, hst⟩

end Dialect

end TableGateway

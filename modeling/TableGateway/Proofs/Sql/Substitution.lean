import TableGateway.Sql.Changing
import TableGateway.Sql.Reading

/-!
# Other values in a statement

What becomes of a statement when a function `f` is put on every value that it is rendered from: the
same function on its parameters, and nothing else. All kinds of data that carry values have a
function `mapValues` for this. The lemmas say of each part of a statement that rendering and
`mapValues` can be done in either order, and `Statement.sql_mapValues` that the SQL stays as it is.
-/

namespace TableGateway

variable (f : String → String)

/-! ## Data that carry values -/

/-- The piece with another value, if it binds one. -/
def Piece.mapValues : Piece → Piece
  | text sql => text sql
  | bound value => bound (f value)

@[simp] theorem Piece.mapValues_text (sql : String) : (text sql).mapValues f = text sql := rfl

@[simp] theorem Piece.mapValues_bound (value : String) :
    (bound value).mapValues f = bound (f value) := rfl

/-- The statement with other parameters. -/
def Statement.mapValues (st : Statement) : Statement := { st with params := st.params.map f }

@[simp] theorem Statement.sql_mapValues (st : Statement) : (st.mapValues f).sql = st.sql := rfl

theorem Piece.sql_map_mapValues (ps : List Piece) : sql (ps.map (mapValues f)) = sql ps := by
  have hchars : ∀ p : Piece, (p.mapValues f).chars = p.chars := fun p => by cases p <;> rfl
  rw [sql, sql, List.flatMap_map]
  exact congrArg (String.ofList <| List.flatMap · ps) (funext hchars)

theorem Piece.params_map_mapValues (ps : List Piece) :
    params (ps.map (mapValues f)) = (params ps).map f := by
  induction ps with
  | nil => rfl
  | cons p ps ih => cases p <;> simp [mapValues, ih]

theorem Statement.mapValues_ofPieces (ps : List Piece) :
    (ofPieces ps).mapValues f = ofPieces (ps.map (Piece.mapValues f)) := by
  rw [ofPieces, ofPieces, Piece.sql_map_mapValues, Piece.params_map_mapValues, mapValues]

/-- The condition on other values. -/
def Condition.mapValues (c : Condition) : Condition :=
  { c with
    values := c.values.map f
    counted := (List.length_map f).trans c.counted }

/-- The selection with other values in its conditions. -/
def Selection.mapValues (s : Selection) : Selection :=
  { s with conditions := s.conditions.map (·.mapValues f) }

/-- The map with other values at the same keys. -/
def OrderedMap.mapValues {κ α β : Type} (f : α → β) (m : OrderedMap κ α) : OrderedMap κ β where
  entries := m.entries.map fun e => (e.1, f e.2)
  distinct := by
    rw [List.map_map]
    exact m.distinct

namespace Dialect

/-! ## Reads -/

/-- Texts that stand before the pieces of each element stay where they are. -/
theorem map_separated {α β : Type} (s : String) (pieces : α → List Piece) (pieces' : β → List Piece)
    (u : α → β) (h : ∀ a, pieces' (u a) = (pieces a).map (Piece.mapValues f)) (as : List α) :
    ((as.map u).flatMap fun b => .text s :: pieces' b) =
      (as.flatMap fun a => .text s :: pieces a).map (Piece.mapValues f) := by
  rw [List.flatMap_map, List.map_flatMap]
  exact congrArg (List.flatMap · as) (funext fun a => congrArg (.text s :: ·) (h a))

theorem operands_map (vs : List String) :
    operands (vs.map f) = (operands vs).map (Piece.mapValues f) := by
  cases vs with
  | nil => rfl
  | cons v vs =>
    have hmore := map_separated f " AND " (fun w => [.bound w]) (fun w => [.bound w]) f
      (fun _ => rfl) vs
    rw [List.map_cons, operands, operands, hmore]
    rfl

/-- Which way a comparison is written depends on the operator alone. -/
theorem comparison_map (d : Dialect) (column : String) (op : Operator) (vs : List String) :
    d.comparison column op (vs.map f) =
      (d.comparison column op vs).map (Piece.mapValues f) := by
  by_cases hlower : op = .ilike ∧ d.traits.ilike = false
  · simp [comparison, hlower]
  by_cases hnot : op = .not
  · simp [comparison, hnot]
  · simp [comparison, hlower, hnot, operands_map]

theorem condition_mapValues (d : Dialect) (t : Table) (c : Condition) :
    d.condition t (c.mapValues f) = (d.condition t c).map (Piece.mapValues f) :=
  comparison_map f d (d.columnOf t c.column) c.operator c.values

theorem restriction_map (d : Dialect) (t : Table) (cs : List Condition) :
    d.restriction t (cs.map (·.mapValues f)) =
      (d.restriction t cs).map (Piece.mapValues f) := by
  cases cs with
  | nil => rfl
  | cons c cs =>
    have hmore := map_separated f " AND " (d.condition t) (d.condition t) (·.mapValues f)
      (condition_mapValues f d t) cs
    rw [List.map_cons, restriction, restriction, List.map_append, List.map_cons,
      condition_mapValues, hmore]
    rfl

theorem rows_mapValues (d : Dialect) (s : Selection) :
    d.rows (s.mapValues f) = (d.rows s).map (Piece.mapValues f) := by
  rw [rows, rows, List.map_cons, ← restriction_map]
  rfl

theorem plainRead_mapValues (d : Dialect) (s : Selection) :
    d.plainRead (s.mapValues f) = (d.plainRead s).map (Piece.mapValues f) := by
  rw [plainRead, plainRead, List.map_cons, ← rows_mapValues]
  rfl

theorem numberedRead_mapValues (d : Dialect) (s : Selection) (r : RowRange)
    (derivedName : Option String) :
    d.numberedRead (s.mapValues f) r derivedName =
      (d.numberedRead s r derivedName).map (Piece.mapValues f) := by
  rw [numberedRead, numberedRead, List.map_append, List.map_cons, ← plainRead_mapValues]
  rfl

theorem selectPieces_mapValues (d : Dialect) (s : Selection) :
    d.selectPieces (s.mapValues f) = (d.selectPieces s).map (Piece.mapValues f) := by
  have hplain := plainRead_mapValues f d s
  have hrange : (s.mapValues f).range = s.range := rfl
  rw [selectPieces, selectPieces, hrange, hplain]
  split
  · exact numberedRead_mapValues f d s _ _
  · rw [List.map_append, List.map_cons]
    rfl

theorem select_mapValues (d : Dialect) (s : Selection) :
    d.select (s.mapValues f) = (d.select s).mapValues f := by
  rw [select, select, selectPieces_mapValues, Statement.mapValues_ofPieces]

theorem count_mapValues (d : Dialect) (s : Selection) :
    d.count (s.mapValues f) = (d.count s).mapValues f := by
  rw [count, count, rows_mapValues, Statement.mapValues_ofPieces]
  rfl

/-! ## Changes and calls -/

theorem placeholders_map (vs : List String) :
    placeholders (vs.map f) = (placeholders vs).map (Piece.mapValues f) := by
  cases vs with
  | nil => rfl
  | cons v vs =>
    have hmore := map_separated f "," (fun w => [.bound w]) (fun w => [.bound w]) f
      (fun _ => rfl) vs
    rw [List.map_cons, placeholders, placeholders, hmore]
    rfl

theorem assignments_map (d : Dialect) (t : Table) (es : List (Identifier × String)) :
    d.assignments t (es.map fun e => (e.1, f e.2)) =
      (d.assignments t es).map (Piece.mapValues f) := by
  cases es with
  | nil => rfl
  | cons e es =>
    have hmore := map_separated f "," (d.assignment t) (d.assignment t) (fun e => (e.1, f e.2))
      (fun _ => rfl) es
    rw [List.map_cons, assignments, assignments, List.map_append, hmore]
    rfl

theorem insertPieces_mapValues (d : Dialect) (t : Table) (values : Assignments) :
    d.insertPieces t (values.mapValues f) = (d.insertPieces t values).map (Piece.mapValues f) := by
  have hkeys : (values.mapValues f).keys = values.keys := List.map_map
  have hvalues : (values.mapValues f).values = values.values.map f := by
    rw [OrderedMap.values, OrderedMap.values, OrderedMap.mapValues, List.map_map, List.map_map]
    rfl
  rw [insertPieces, insertPieces, hkeys, hvalues, placeholders_map, List.map_append, List.map_cons]
  rfl

theorem updatePieces_mapValues (d : Dialect) (t : Table) (values : Assignments) (key : String) :
    d.updatePieces t (values.mapValues f) (f key) =
      (d.updatePieces t values key).map (Piece.mapValues f) := by
  rw [updatePieces, updatePieces, List.map_append, List.map_cons, ← assignments_map]
  rfl

theorem isEmpty_mapValues (values : Assignments) :
    (values.mapValues f).isEmpty = values.isEmpty := by
  rw [OrderedMap.isEmpty, OrderedMap.isEmpty, OrderedMap.mapValues, List.isEmpty_map]

theorem insert_mapValues (d : Dialect) (t : Table) (values : Assignments) :
    d.insert ⟨t, values.mapValues f⟩ = (d.insert ⟨t, values⟩).map (·.mapValues f) := by
  rw [insert, insert, isEmpty_mapValues, insertPieces_mapValues]
  split
  · rfl
  · rw [Except.map, Statement.mapValues_ofPieces]

/-- An update with other values, if neither of the key values is refused for being blank. -/
theorem update_mapValues (d : Dialect) (t : Table) (values : Assignments) {key : String}
    (hkey : ∃ c ∈ key.toList, Text.isBlank c = false)
    (hfkey : ∃ c ∈ (f key).toList, Text.isBlank c = false) :
    d.update ⟨t, some (f key), values.mapValues f⟩ =
      (d.update ⟨t, some key, values⟩).map (·.mapValues f) := by
  rw [update, update, isEmpty_mapValues, Update.usableKey, Update.usableKey,
    usableKey_eq_some_iff.mpr ⟨rfl, hkey⟩, usableKey_eq_some_iff.mpr ⟨rfl, hfkey⟩]
  split
  · rfl
  · rw [Except.map, Statement.mapValues_ofPieces, ← updatePieces_mapValues]

theorem delete_mapValues (d : Dialect) (t : Table) {key : String}
    (hkey : ∃ c ∈ key.toList, Text.isBlank c = false)
    (hfkey : ∃ c ∈ (f key).toList, Text.isBlank c = false) :
    d.delete ⟨t, some (f key)⟩ = (d.delete ⟨t, some key⟩).map (·.mapValues f) := by
  rw [delete, delete, Deletion.usableKey, Deletion.usableKey,
    usableKey_eq_some_iff.mpr ⟨rfl, hkey⟩, usableKey_eq_some_iff.mpr ⟨rfl, hfkey⟩]
  rfl

theorem call_mapValues (d : Dialect) (procedure : Identifier) (arguments : List String) :
    d.call ⟨procedure, arguments.map f⟩ = (d.call ⟨procedure, arguments⟩).mapValues f := by
  rw [call, call, callPieces, callPieces, placeholders_map, Statement.mapValues_ofPieces,
    List.map_append, List.map_cons]
  rfl

end Dialect

end TableGateway

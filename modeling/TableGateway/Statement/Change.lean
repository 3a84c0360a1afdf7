import TableGateway.Statement.Assignments
import TableGateway.Statement.Table
import TableGateway.Text.Blank

/-!
# Changes of rows

An `Insertion` adds one row, an `Update` and a `Deletion` work on the one row whose key column has
the given value. A blank key value is as good as none, so that a lost identifier never widens a
change to more than one row.
-/

namespace TableGateway

/-- A new row. -/
structure Insertion where
  /-- the table -/
  table : Table
  /-- the values of the row -/
  values : Assignments

/-- New values for the row that a key value identifies. -/
structure Update where
  /-- the table -/
  table : Table
  /-- the value of the key column, if it has been given -/
  key : Option String
  /-- the new values -/
  values : Assignments

/-- The end of the row that a key value identifies. -/
structure Deletion where
  /-- the table -/
  table : Table
  /-- the value of the key column, if it has been given -/
  key : Option String

/-- The update for the row with the given key value. -/
def Update.withKey (u : Update) (key : String) : Update := { u with key := some key }

/-- A key value that is not blank. -/
def usableKey (key : Option String) : Option String := key.filter fun k => !Text.isBlankText k

theorem usableKey_eq_some_iff {key : Option String} {k : String} :
    usableKey key = some k ↔ key = some k ∧ ∃ c ∈ k.toList, Text.isBlank c = false := by
  rw [usableKey, Option.filter_eq_some_iff, Bool.not_eq_true', Text.isBlankText_eq_false_iff]

/-- The value that identifies the row, if there is a usable one. -/
def Update.usableKey (u : Update) : Option String := TableGateway.usableKey u.key

/-- The value that identifies the row, if there is a usable one. -/
def Deletion.usableKey (d : Deletion) : Option String := TableGateway.usableKey d.key

end TableGateway

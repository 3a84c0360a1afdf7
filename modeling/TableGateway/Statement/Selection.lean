import TableGateway.Request.RowRange
import TableGateway.Request.SortOrder
import TableGateway.Statement.Condition
import TableGateway.Statement.Table

/-!
# Selections

A read of one table: the columns it returns, the conditions that its rows meet, and optionally a
stretch of the rows and an order. No columns stand for all columns, no conditions for all rows.
-/

namespace TableGateway

/-- A read of the rows of one table. -/
structure Selection where
  /-- the table -/
  table : Table
  /-- the columns returned; none stands for all -/
  columns : List Identifier := []
  /-- the conditions that every row returned meets -/
  conditions : List Condition := []
  /-- the stretch of rows returned -/
  range : Option RowRange := none
  /-- the order of the rows -/
  order : Option SortOrder := none
deriving DecidableEq

namespace Selection

/-- All columns are returned. -/
def isAllColumns (s : Selection) : Bool := s.columns.isEmpty

/-- All rows are returned. -/
def isAllRows (s : Selection) : Bool := s.conditions.isEmpty

end Selection

end TableGateway

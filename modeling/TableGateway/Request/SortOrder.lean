import TableGateway.Identifier
import TableGateway.Request.Parameters
import TableGateway.Text.Blank

/-!
# Sort orders

A read is ordered by one column, ascending or descending. A request asks for it by `sort` and `dir`,
and here asking can fail: a direction has to be one, and a sort column has to be an identifier that
is no direction, since `sort=desc` is more likely a slip than a column of that name.

The two texts are treated differently where they hold little: a direction counts as given unless it
is empty, a column unless it is blank, and all blanks in a column are dropped.
-/

namespace TableGateway

/-- The direction of an order. -/
inductive Direction where
  | ascending
  | descending
deriving DecidableEq

namespace Direction

/-- The SQL keyword. -/
def sql : Direction → String
  | ascending => "ASC"
  | descending => "DESC"

/-- The direction whose keyword the text is, in any letter case. -/
def ofKeyword? (text : String) : Option Direction :=
  if Text.sameWord text "asc" then some ascending
  else if Text.sameWord text "desc" then some descending
  else none

/-- The direction that a request names. -/
def parse (text : String) : Except Error Direction :=
  match ofKeyword? text with
  | some direction => .ok direction
  | none => .error (.request (.unknownDirection text))

end Direction

/-- A column to sort by and the direction. -/
structure SortOrder where
  /-- the column -/
  column : Identifier
  /-- the direction -/
  direction : Direction
deriving DecidableEq

namespace SortOrder

/-- The order as it stands in SQL. -/
def text (o : SortOrder) : String := o.column.name ++ " " ++ o.direction.sql

/-- The direction that the parameters ask for; ascending unless `dir` says something. -/
def requestedDirection (ps : Parameters) : Except Error Direction :=
  match ps.first? "dir" with
  | none => .ok .ascending
  | some text => if text = "" then .ok .ascending else Direction.parse text

/-- The column of a `sort` text: the text without blanks, if that is an identifier and no
direction. -/
def parseColumn (text : String) : Except Error Identifier :=
  let name := Text.withoutBlanks text
  if (Direction.ofKeyword? name).isSome then .error (.request (.directionAsColumn name))
  else Identifier.parse name

/-- The column that the parameters ask for; `otherwise` unless `sort` says something. -/
def requestedColumn (ps : Parameters) (otherwise : Except Error Identifier) :
    Except Error Identifier :=
  match ps.first? "sort" with
  | none => otherwise
  | some text => if Text.isBlankText text then otherwise else parseColumn text

/-- The order that the parameters ask for, by the column `otherwise` if they name none. The
direction is read first. -/
def requested (ps : Parameters) (otherwise : Except Error Identifier) : Except Error SortOrder := do
  let direction ← requestedDirection ps
  let column ← requestedColumn ps otherwise
  return ⟨column, direction⟩

/-- The parameters say something about the order. -/
def isRequested (ps : Parameters) : Bool := (ps.first? "sort").isSome || (ps.first? "dir").isSome

end SortOrder

end TableGateway

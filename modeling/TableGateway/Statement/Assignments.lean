import TableGateway.Identifier
import TableGateway.Map.Ordered

/-!
# Assignments

The columns that an INSERT or UPDATE sets, with their values. They stand in the order in which they
were first assigned; assigning a column again replaces its value and leaves its place.
-/

namespace TableGateway

/-- Columns and the values that they are set to. -/
abbrev Assignments := OrderedMap Identifier String

namespace Assignments

/-- The assignments with the column of the given name set to a value. -/
def assign (a : Assignments) (column value : String) : Except Error Assignments :=
  (Identifier.parse column).map fun c => a.set c value

/-- The assignments of a list of columns and values, made one after the other. -/
def ofPairs (pairs : List (String × String)) : Except Error Assignments :=
  pairs.foldlM (fun a p => assign a p.1 p.2) OrderedMap.empty

end Assignments

end TableGateway

import TableGateway.Dialect
import TableGateway.Sql.Piece
import TableGateway.Statement.Selection

/-!
# Reads in SQL

How a selection is written in each dialect. A read and the count of its rows are made of the same
parts, which are functions of their own:

* `projection` names what is returned, `source` the table, `restriction` is the WHERE clause;
* `plainRead` is `SELECT projection FROM source restriction`, and `count` has `COUNT(*)` for the
  projection;
* a stretch of rows is cut out by a clause at the end, or, in the families that number rows, by
  putting the plain read, with a row number beside its columns, inside an outer read on that number
  (`numberedRead`).
-/

namespace TableGateway.Dialect

/-! ## Names -/

/-- What stands before a column of the table. -/
def qualifier (d : Dialect) (t : Table) : String :=
  match d.traits.columns with
  | .aliased => "t."
  | .byTable => t.name.name ++ "."
  | .bare => ""

/-- The table in the FROM clause. -/
def source (d : Dialect) (t : Table) : String :=
  match d.traits.columns with
  | .aliased => t.qualifiedName ++ " t"
  | .byTable => t.qualifiedName
  | .bare => t.name.name

/-- A column of the table. -/
def columnOf (d : Dialect) (t : Table) (column : Identifier) : String :=
  d.qualifier t ++ column.name

/-- The columns that a selection returns. -/
def projection (d : Dialect) (s : Selection) : String :=
  if s.columns.isEmpty then d.qualifier s.table ++ "*"
  else ",".intercalate (s.columns.map (d.columnOf s.table))

/-! ## Conditions -/

/-- The values of a comparison: a blank before the first, `AND` between them. -/
def operands : List String → List Piece
  | [] => []
  | v :: vs => .text " " :: .bound v :: vs.flatMap fun w => [.text " AND ", .bound w]

/-- The comparison of a column with values. Without `ILIKE` both sides of it are put in lower case,
and `NOT` negates an equality. -/
def comparison (d : Dialect) (column : String) (op : Operator) (values : List String) :
    List Piece :=
  if op = .ilike ∧ d.traits.ilike = false then
    .text ("LOWER(" ++ column ++ ") LIKE LOWER(") :: values.map .bound ++ [.text ")"]
  else if op = .not then
    .text ("NOT (" ++ column ++ " = ") :: values.map .bound ++ [.text ")"]
  else .text (column ++ " " ++ op.sql) :: operands values

/-- A condition on a row of the table. -/
def condition (d : Dialect) (t : Table) (c : Condition) : List Piece :=
  d.comparison (d.columnOf t c.column) c.operator c.values

/-- The WHERE clause: all conditions together, nothing if there are none. -/
def restriction (d : Dialect) (t : Table) : List Condition → List Piece
  | [] => []
  | c :: cs =>
    .text " WHERE " :: d.condition t c ++ cs.flatMap fun c' => .text " AND " :: d.condition t c'

/-! ## Order and stretch -/

/-- The column and direction of an order. -/
def orderItem (d : Dialect) (t : Table) (o : SortOrder) : String :=
  d.columnOf t o.column ++ " " ++ o.direction.sql

/-- The ORDER BY clause, if there is an order. -/
def orderClause (d : Dialect) (t : Table) : Option SortOrder → String
  | some o => " ORDER BY " ++ d.orderItem t o
  | none => ""

/-- The clause that cuts out a stretch of rows at the end of a read. Families that number their rows
have none. -/
def Paging.clause : Paging → RowRange → String
  | limitOffset, r => " LIMIT " ++ Text.decimal r.limit ++ " OFFSET " ++ Text.decimal r.start
  | limitComma, r => " LIMIT " ++ Text.decimal r.start ++ "," ++ Text.decimal r.limit
  | offsetFetch, r =>
    " OFFSET " ++ Text.decimal r.start ++ " ROWS FETCH NEXT " ++ Text.decimal r.limit ++
      " ROWS ONLY"
  | rowNumber _, _ => ""

/-- The order in which rows are numbered: the one asked for, else by ascending key. -/
def numberingOrder (s : Selection) : SortOrder :=
  s.order.getD ⟨s.table.primaryKey, .ascending⟩

/-! ## Statements -/

/-- Where the rows come from: the FROM and WHERE clauses. -/
def rows (d : Dialect) (s : Selection) : List Piece :=
  .text (" FROM " ++ d.source s.table) :: d.restriction s.table s.conditions

/-- The projected columns of the rows, without order and stretch. -/
def plainRead (d : Dialect) (s : Selection) : List Piece :=
  .text (d.projection s) :: d.rows s

/-- The rows of a stretch by their numbers. -/
def numberedRead (d : Dialect) (s : Selection) (r : RowRange) (derivedName : Option String) :
    List Piece :=
  .text ("SELECT * FROM ( SELECT ROW_NUMBER() OVER ( ORDER BY " ++
      d.orderItem s.table (numberingOrder s) ++ " ) AS ROW_NUMBER, ") ::
    d.plainRead s ++
    [.text (" )" ++ (derivedName.elim "" (" AS " ++ ·)) ++ " WHERE ROW_NUMBER BETWEEN " ++
      Text.decimal (r.start + 1) ++ " AND " ++ Text.decimal r.stop)]

/-- The pieces of a selection. -/
def selectPieces (d : Dialect) (s : Selection) : List Piece :=
  match s.range, d.traits.paging with
  | some r, .rowNumber derivedName => d.numberedRead s r derivedName
  | range, paging =>
    .text "SELECT " :: d.plainRead s ++
      [.text (d.orderClause s.table s.order ++ range.elim "" paging.clause)]

/-- The statement that reads a selection. -/
def select (d : Dialect) (s : Selection) : Statement := .ofPieces (d.selectPieces s)

/-- The statement that counts the rows of a selection, whatever its columns, order and stretch. -/
def count (d : Dialect) (s : Selection) : Statement :=
  .ofPieces (.text "SELECT COUNT(*)" :: d.rows s)

/-- The statement that lists the tables. -/
def listTables (d : Dialect) : Statement := .ofText d.traits.listTables

end TableGateway.Dialect

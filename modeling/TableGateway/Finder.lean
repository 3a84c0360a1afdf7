import TableGateway.Finder.CamelCase
import TableGateway.Finder.Clause
import TableGateway.Statement.Selection

/-!
# Finders

A finder is a read that is asked for by a name. `findAllByNameAndAgeGreaterThan` with the arguments
`bar` and `30` stands for `name = 'bar' AND age > 30`: the name is a command, then clauses with
`And` between them (`Finder/Clause.lean`), and the clauses take their values from the arguments from
left to right. `Or` is not supported.

`Finder.parse` reads a name in this order, and the first thing that is wrong is what the caller is
told: the command, the capital after it, an `Or`; then clause by clause an empty clause, a missing
column, missing arguments, the name of the column; at last arguments that are left over. Every such
error names the table.
-/

namespace TableGateway

/-- What a finder name asks for. -/
inductive FinderCommand where
  /-- one row -/
  | findBy
  /-- all rows -/
  | findAllBy
deriving DecidableEq

/-- The text that a finder name starts with. -/
def FinderCommand.word : FinderCommand → String
  | findBy => "findBy"
  | findAllBy => "findAllBy"

/-- A finder: what it asks for, and the read that its clauses spell. -/
structure Finder where
  /-- what is asked for -/
  command : FinderCommand
  /-- the read -/
  selection : Selection
deriving DecidableEq

namespace Finder

/-- All rows are asked for. -/
def isAll (f : Finder) : Bool := f.command = .findAllBy

/-- The command at the start of a finder name, and what follows it. -/
def splitCommand (name : List Char) : Option (FinderCommand × List Char) :=
  match FinderCommand.findAllBy.word.toList.isPrefixOf? name with
  | some rest => some (.findAllBy, rest)
  | none => (FinderCommand.findBy.word.toList.isPrefixOf? name).map (.findBy, ·)

/-- The conditions that clauses spell, each taking its values from the front of the arguments, and
the arguments that are left. -/
def conditions (name : String) :
    List (List String) → List String → Except Error (List Condition × List String)
  | [], args => .ok ([], args)
  | words :: rest, args =>
    let clause := Clause.ofWords words
    let count := clause.operator.valueCount
    if words.isEmpty then .error (.request (.finderEmptyClause name))
    else if clause.columnWords.isEmpty then
      .error (.request (.finderNoColumn clause.operator name))
    else if args.length < count then .error (.request (.finderTooFew name))
    else do
      let condition ← Condition.build clause.column clause.operator (args.take count)
      let (more, left) ← conditions name rest (args.drop count)
      return (condition :: more, left)

/-- The conditions of a finder: those of its clauses, which use up the arguments. -/
def allConditions (name : String) (words args : List String) : Except Error (List Condition) :=
  if words.contains "Or" then .error (.request (.finderAlternative name))
  else do
    let (found, left) ← conditions name (words.splitOn "And") args
    if left.isEmpty then return found else .error (.request (.finderTooMany name))

/-- The finder of the given name and arguments on a table, with errors that name no resource. -/
def decode (table : Table) (name : String) (args : List String) : Except Error Finder :=
  match splitCommand name.toList with
  | none => .error (.request (.finderCommand name))
  | some (command, rest) =>
    if (rest.head?.map Char.isUpper).getD false then
      (allConditions name ((CamelCase.words rest).map String.ofList) args).map fun conditions =>
        ⟨command, { table, conditions }⟩
    else .error (.request (.finderStart name))

/-- The finder of the given name and arguments on a table. -/
def parse (table : Table) (name : String) (args : List String) : Except Error Finder :=
  (decode table name args).mapError (·.onResource table.name.name)

/-- The read of a finder, with a stretch of rows and an order. -/
def paged (f : Finder) (range : RowRange) (order : SortOrder) : Selection :=
  { f.selection with range := some range, order := some order }

end Finder

end TableGateway

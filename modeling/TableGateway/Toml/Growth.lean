import TableGateway.Toml.Value

/-!
# How the tables of a document grow

A TOML document says things about its tables in any order: by a header `[a.b]`, by a header for an
element of a list of tables `[[a.b]]`, by dotted keys `b.c = 1`, or in passing, as `[a.b]` says that
there is a table `a`. No key may be given twice and no table defined twice, so a growing table
remembers how it came about (`Origin`), and each way to grow says what it can grow:

* a header takes a table that was only mentioned in passing, and makes it defined;
* a dotted key extends tables made by dotted keys, and goes through tables mentioned in passing, but
  not through one that has a header of its own;
* a value, also an array or an inline table, is closed: nothing extends it.

Every operation gives nothing when it would break one of these rules.
-/

namespace TableGateway.Toml

/-- How a table came about. -/
inductive Origin where
  /-- it is on the way to the table of a header -/
  | implied
  /-- it has a header of its own -/
  | header
  /-- it is on the way of a dotted key -/
  | dotted
deriving DecidableEq

/-- What stands at a key while the document is read. -/
inductive Node where
  /-- a value, which cannot grow -/
  | leaf (value : Value)
  /-- a table -/
  | table (origin : Origin) (entries : List (String × Node))
  /-- a list of tables, of which the latest can grow -/
  | tables (earlier : List (List (String × Node))) (latest : List (String × Node))

/-- A growing table. -/
abbrev Growing := List (String × Node)

/-- The table with what stands at `key` replaced; `change` is told what stands there, if anything
does. -/
def Growing.alter (key : String) (change : Option Node → Option Node) : Growing → Option Growing
  | [] => (change none).map fun node => [(key, node)]
  | (k, node) :: rest =>
    if k = key then (change (some node)).map fun node' => (k, node') :: rest
    else (Growing.alter key change rest).map ((k, node) :: ·)

/-- The table in which `path` and then `key` have a value. -/
def Growing.assign : List String → String → Value → Growing → Option Growing
  | [], key, value, t =>
    t.alter key fun
      | none => some (.leaf value)
      | some _ => none
  | k :: path, key, value, t =>
    t.alter k fun
      | none => (Growing.assign path key value []).map (.table .dotted)
      | some (.table origin sub) =>
        if origin = .header ∨ (path = [] ∧ origin = .implied) then none
        else (Growing.assign path key value sub).map (.table origin)
      | some (.tables earlier latest) =>
        if path = [] then none
        else (Growing.assign path key value latest).map (.tables earlier)
      | some (.leaf _) => none

/-- The table with `change` applied at the end of a path of headers; tables that the path mentions
and that are not there yet are implied. -/
def Growing.descend : List String → (Growing → Option Growing) → Growing → Option Growing
  | [], change, t => change t
  | k :: path, change, t =>
    t.alter k fun
      | none => (Growing.descend path change []).map (.table .implied)
      | some (.table origin sub) => (Growing.descend path change sub).map (.table origin)
      | some (.tables earlier latest) =>
        (Growing.descend path change latest).map (.tables earlier)
      | some (.leaf _) => none

/-- The table in which `key` is defined by a header. -/
def Growing.define (key : String) (t : Growing) : Option Growing :=
  t.alter key fun
    | none => some (.table .header [])
    | some (.table .implied sub) => some (.table .header sub)
    | some _ => none

/-- The table in which the list of tables at `key` has one more element. -/
def Growing.extend (key : String) (t : Growing) : Option Growing :=
  t.alter key fun
    | none => some (.tables [] [])
    | some (.tables earlier latest) => some (.tables (earlier ++ [latest]) [])
    | some _ => none

mutual

/-- The value that a node has become. -/
def Node.value : Node → Value
  | .leaf value => value
  | .table _ entries => .table (Growing.values entries)
  | .tables earlier latest =>
    .array (Growing.tableValues earlier ++ [.table (Growing.values latest)])

/-- The entries that a growing table has come to have. -/
def Growing.values : List (String × Node) → Entries
  | [] => []
  | (key, node) :: rest => (key, node.value) :: Growing.values rest

/-- The tables that a list of growing tables has come to hold. -/
def Growing.tableValues : List (List (String × Node)) → List Value
  | [] => []
  | entries :: rest => .table (Growing.values entries) :: Growing.tableValues rest

end

end TableGateway.Toml

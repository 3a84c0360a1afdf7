import TableGateway.Error

/-!
# Dialects

Eight families of databases speak SQL in different ways. Each way comes down to five decisions,
collected in `Dialect.Traits`, and `Dialect.traits` is the only place that tells the families apart:
everything that renders SQL asks for the traits.

* how columns of a read are qualified, which also settles how its table is named;
* how a stretch of rows is cut out;
* how tables and columns of a change are named;
* whether `ILIKE` is known;
* how the tables are listed.

A configuration chooses a family by one of several driver tags (`Dialect.ofTag?`).
-/

namespace TableGateway

/-- A family of databases. -/
inductive Dialect where
  | generic
  | postgresql
  | mysql
  | oracle
  | mssql
  | hsqldb
  | h2
  | derby
deriving DecidableEq

namespace Dialect

/-- How columns and the table of a read are named. -/
inductive ColumnStyle where
  /-- `t.column` of `schema.table t` -/
  | aliased
  /-- `table.column` of `schema.table` -/
  | byTable
  /-- `column` of `table` -/
  | bare
deriving DecidableEq

/-- How a stretch of rows is cut out of a read. -/
inductive Paging where
  /-- `LIMIT n OFFSET s` -/
  | limitOffset
  /-- `LIMIT s,n` -/
  | limitComma
  /-- `OFFSET s ROWS FETCH NEXT n ROWS ONLY` -/
  | offsetFetch
  /-- numbered rows inside an outer read, which some families want named -/
  | rowNumber (derivedName : Option String)
deriving DecidableEq

/-- How the table and the columns of a change are named. -/
inductive ChangeStyle where
  /-- `table` and `column` -/
  | bare
  /-- `schema.table` and `column` -/
  | qualified
  /-- `schema.table` and `table.column`, except in the column list of an INSERT -/
  | qualifiedColumns
deriving DecidableEq

/-- What sets a family apart. -/
structure Traits where
  /-- the name of the family -/
  name : String
  /-- the statement that lists the tables -/
  listTables : String
  /-- the naming of columns in reads -/
  columns : ColumnStyle := .aliased
  /-- the way to cut out a stretch of rows -/
  paging : Paging := .rowNumber none
  /-- the naming in changes -/
  changes : ChangeStyle := .bare
  /-- `ILIKE` is part of the language -/
  ilike : Bool := false

/-- The traits of each family. -/
def traits : Dialect → Traits
  | generic =>
    { name := "generic"
      listTables :=
        "SELECT table_name FROM information_schema.tables WHERE table_type = 'BASE TABLE'" }
  | postgresql =>
    { name := "postgresql"
      listTables := "SELECT * FROM information_schema.tables WHERE table_schema = 'public'"
      paging := .limitOffset
      changes := .qualified
      ilike := true }
  | mysql =>
    { name := "mysql"
      listTables := "SHOW TABLES"
      paging := .limitComma
      changes := .qualified }
  | oracle =>
    { name := "oracle"
      listTables := "SELECT TABLE_NAME FROM ALL_ALL_TABLES"
      columns := .byTable
      changes := .qualifiedColumns }
  | mssql =>
    { name := "mssql"
      listTables := "select * from information_schema.tables where Table_Type = 'BASE TABLE'"
      paging := .rowNumber (some "paged") }
  | hsqldb =>
    { name := "hsqldb"
      listTables := "SELECT * FROM INFORMATION_SCHEMA.SYSTEM_TABLES WHERE table_type = 'TABLE'"
      columns := .bare
      paging := .limitOffset }
  | h2 =>
    { name := "h2"
      listTables := "SELECT TABLE_NAME FROM INFORMATION_SCHEMA.TABLES WHERE table_type = 'TABLE'"
      columns := .bare
      paging := .limitOffset
      changes := .qualifiedColumns
      ilike := true }
  | derby =>
    { name := "derby"
      listTables := "SELECT * FROM SYS.SYSTABLES WHERE tabletype = 'T'"
      paging := .offsetFetch
      changes := .qualified }

/-- All families, in their order. -/
def all : List Dialect := [generic, postgresql, mysql, oracle, mssql, hsqldb, h2, derby]

theorem mem_all (d : Dialect) : d ∈ all := by
  cases d <;> decide

/-- The name of a family. -/
def name (d : Dialect) : String := d.traits.name

/-- The driver tags of a family, in small letters. -/
def tags : Dialect → List String
  | generic => ["generic", "ansi"]
  | postgresql => ["postgresql", "postgres"]
  | mysql => ["mysql", "mariadb"]
  | oracle => ["oracle"]
  | mssql => ["mssql", "mssql_jtds", "sqlserver"]
  | hsqldb => ["hsqldb", "hsqldb_mem", "hsqldb_file"]
  | h2 => ["h2", "h2_mem", "h2_file", "h2_remote"]
  | derby => ["derby", "derby_mem"]

/-- A driver as it is compared with the tags: without outer blanks, in small letters. -/
def normalTag (driver : String) : String := Text.lowerAscii (Text.trim driver)

/-- The family that a driver belongs to. -/
def ofTag? (driver : String) : Option Dialect :=
  all.find? fun d => d.tags.contains (normalTag driver)

/-- The family that a driver belongs to, or the tag that no family has. -/
def ofDriver (driver : String) : Except Reason Dialect :=
  match ofTag? driver with
  | some d => .ok d
  | none => .error (.unknownDriver (normalTag driver))

/-- A driver belongs to no family whose tag it is not. -/
theorem ofTag?_eq_none_iff {driver : String} :
    ofTag? driver = none ↔ ∀ d : Dialect, normalTag driver ∉ d.tags := by
  simp [ofTag?, mem_all]

theorem exists_ofDriver_iff {driver : String} :
    (∃ d, ofDriver driver = .ok d) ↔ ∃ d : Dialect, normalTag driver ∈ d.tags := by
  rw [ofDriver]
  cases hd : ofTag? driver with
  | none =>
    have hnot := ofTag?_eq_none_iff.mp hd
    exact iff_of_false nofun (not_exists.mpr hnot)
  | some d =>
    rw [ofTag?] at hd
    have htag := List.find?_some hd
    exact iff_of_true ⟨d, rfl⟩ ⟨d, List.contains_iff_mem.mp htag⟩

theorem ofDriver_eq_error_iff {driver : String} {reason : Reason} :
    ofDriver driver = .error reason ↔
      (∀ d : Dialect, normalTag driver ∉ d.tags) ∧ reason = .unknownDriver (normalTag driver) := by
  rw [← ofTag?_eq_none_iff, ofDriver]
  cases ofTag? driver <;> simp [eq_comm]

/-- The family that a driver tag of a configuration chooses. -/
def parse (driver : String) : Except Error Dialect :=
  (ofDriver driver).mapError .invalidConfiguration

end Dialect

end TableGateway

import TableGateway.Identifier

/-!
# Tables

The table behind a statement: its name, the schema that qualifies it if there is one, and the column
that identifies its rows, which is `id` unless something else is said.
-/

namespace TableGateway

/-- A table that statements work on. -/
structure Table where
  /-- the schema or database that holds the table -/
  schema : Option Identifier
  /-- the name of the table -/
  name : Identifier
  /-- the column that identifies a row -/
  primaryKey : Identifier
deriving DecidableEq

namespace Table

/-- The key column of a table for which none is named. -/
def defaultPrimaryKey : Identifier := ⟨"id", by decide⟩

/-- A table without schema, identified by `id`. -/
def named (name : Identifier) : Table := ⟨none, name, defaultPrimaryKey⟩

/-- The table with the given key column. -/
def withPrimaryKey (t : Table) (column : Identifier) : Table := { t with primaryKey := column }

/-- The table that a request describes by its name, its schema and its key column. The names are
read in this order, and what is not given stays at its default. -/
def parse (name : String) (schema primaryKey : Option String) : Except Error Table := do
  let name ← Identifier.parse name
  let schema ← schema.mapM Identifier.parse
  let primaryKey ← primaryKey.mapM Identifier.parse
  return ⟨schema, name, primaryKey.getD defaultPrimaryKey⟩

/-- The name of the table behind its schema. -/
def qualifiedName (t : Table) : String :=
  match t.schema with
  | some schema => schema.name ++ "." ++ t.name.name
  | none => t.name.name

end Table

end TableGateway

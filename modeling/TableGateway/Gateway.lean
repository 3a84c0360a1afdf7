import TableGateway.Configuration
import TableGateway.Finder
import TableGateway.Request.PageSummary
import TableGateway.Sql.Changing
import TableGateway.Sql.Reading

/-!
# The gateway

A gateway turns requests on tables into statements. It is opened from a configuration that has been
accepted, and answers a request in three steps:

1. the alias has to be configured;
2. the access table in force has to grant the permission that the action needs, on the resource of
   the request or on the alias as a whole;
3. the action is planned on the catalog: the dialects, schemas, key columns and page size of the
   configuration.

The third step never looks at the access table, and replacing that table (`Gateway.reload`) leaves
the catalog alone.
-/

namespace TableGateway

/-! ## Requests and plans -/

/-- The rows that a read is about: those with a value in a column. -/
structure Lookup where
  /-- the column, or nothing for the key column of the table -/
  column : Option String
  /-- the value -/
  value : String
deriving DecidableEq

/-- What a request wants done. -/
inductive Action where
  /-- list the tables of the alias, or show what a resource looks like -/
  | describe
  /-- read rows -/
  | read (lookup : Option Lookup)
  /-- run a finder -/
  | find (name : String) (arguments : List String)
  /-- count rows -/
  | count (lookup : Option Lookup)
  /-- add a row -/
  | insert (values : List (String × String))
  /-- update the row with a key value -/
  | update (key : String) (values : List (String × String))
  /-- delete the row with a key value -/
  | delete (key : String)
  /-- call a stored procedure of the alias -/
  | call (procedure : String) (arguments : List String)
deriving DecidableEq

/-- The permission that an action needs. -/
def Action.permission : Action → Permission
  | describe => .metadata
  | read _ | find .. | count _ => .read
  | insert _ => .insert
  | update .. => .update
  | delete _ => .delete
  | call .. => .exec

/-- A request to the gateway. -/
structure Request where
  /-- the alias -/
  aliasName : String
  /-- the resource, if the request is about one -/
  resource : Option String
  /-- what is to be done -/
  action : Action
  /-- the query parameters -/
  parameters : Parameters := .empty
  /-- a key column in place of the configured one -/
  primaryKey : Option String := none

/-- What a request speaks of. -/
def Request.scope (q : Request) : Scope := ⟨q.aliasName, q.resource⟩

/-- How a request is to be carried out. -/
structure Plan where
  /-- the dialect of the statement -/
  dialect : Dialect
  /-- the statement to run -/
  statement : Statement
  /-- the stretch of rows that the statement reads, if it reads one -/
  range : Option RowRange
deriving DecidableEq

/-! ## Planning on a table -/

/-- The conditions that a lookup stands for. An empty value is refused before the column is read. -/
def Lookup.conditions (t : Table) : Option Lookup → Except Error (List Condition)
  | none => .ok []
  | some l =>
    if l.value = "" then .error (.request .emptyLookup)
    else
      match l.column with
      | none => .ok [Condition.equals t.primaryKey l.value]
      | some column => (Identifier.parse column).map fun c => [Condition.equals c l.value]

/-- The order of a read: none unless the parameters say something about it. -/
def readOrder (ps : Parameters) (t : Table) : Except Error (Option SortOrder) :=
  if SortOrder.isRequested ps then (SortOrder.requested ps (.ok t.primaryKey)).map some
  else .ok none

/-- The statement for an action on a table, and the stretch of rows it reads. -/
def Action.plan (d : Dialect) (t : Table) (pageSize : Nat) (ps : Parameters) :
    Action → Except Error (Statement × Option RowRange)
  | describe =>
    let range := RowRange.clamp 1 0
    .ok (d.select { table := t, range := some range }, some range)
  | read lookup => do
    let range := RowRange.requestedPage ps pageSize
    let conditions ← Lookup.conditions t lookup
    let order ← readOrder ps t
    return (d.select { table := t, conditions, range := some range, order }, some range)
  | count lookup => do
    let conditions ← Lookup.conditions t lookup
    return (d.count { table := t, conditions }, none)
  | find name arguments => do
    let range := RowRange.requestedPage ps pageSize
    let order ← SortOrder.requested ps (.ok t.primaryKey)
    let finder ← Finder.parse t name arguments
    return (d.select (finder.paged range order), some range)
  | insert values => do
    let values ← Assignments.ofPairs values
    let statement ← d.insert ⟨t, values⟩
    return (statement, none)
  | update key values => do
    let values ← Assignments.ofPairs values
    let statement ← d.update ⟨t, some key, values⟩
    return (statement, none)
  | delete key => do
    let statement ← d.delete ⟨t, some key⟩
    return (statement, none)
  | call .. => .error (.request .resourceOnCall)

/-! ## The catalog -/

/-- An alias that can be used. -/
structure CatalogEntry where
  /-- its dialect -/
  dialect : Dialect
  /-- its configuration -/
  configuration : AliasConfiguration

/-- The entry of an alias, if its driver is known. -/
def CatalogEntry.ofAlias (a : AliasConfiguration) : Except Error CatalogEntry :=
  a.dialect.map fun d => ⟨d, a⟩

theorem CatalogEntry.ofAlias_eq_ok_iff {a : AliasConfiguration} {e : CatalogEntry} :
    ofAlias a = .ok e ↔ a.dialect = .ok e.dialect ∧ e.configuration = a := by
  constructor
  · intro h
    obtain ⟨d, hd, rfl⟩ := exists_of_map_eq_ok h
    exact ⟨hd, rfl⟩
  · rintro ⟨hd, rfl⟩
    rw [ofAlias, hd]
    rfl

/-- The aliases that can be used, and the page size. -/
structure Catalog where
  /-- the aliases -/
  entries : SortedMap CatalogEntry
  /-- the number of rows on a page when a request does not say -/
  pageSize : Nat

/-- The catalog of a configuration, or the first driver that is not known. -/
def Catalog.ofConfiguration (c : Configuration) : Except Error Catalog := do
  let entries ← c.aliases.traverse CatalogEntry.ofAlias
  return ⟨entries, c.pageSize⟩

namespace CatalogEntry

/-- The table of a request: that of the resource, with the key column of the request if it names
one. -/
def table (e : CatalogEntry) (resource : String) (primaryKey : Option String) :
    Except Error Table := do
  let configured ← e.configuration.table resource
  match primaryKey with
  | none => return configured
  | some column => return configured.withPrimaryKey (← Identifier.parse column)

/-- The statement for a request on a resource. -/
def planResource (e : CatalogEntry) (pageSize : Nat) (resource : String) (q : Request) :
    Except Error (Statement × Option RowRange) := do
  let table ← e.table resource q.primaryKey
  q.action.plan e.dialect table pageSize q.parameters

/-- The statement for a request on the alias as a whole. -/
def planAlias (e : CatalogEntry) : Action → Except Error (Statement × Option RowRange)
  | .describe => .ok (e.dialect.listTables, none)
  | .call procedure arguments =>
    (ProcedureCall.build procedure arguments).map fun c => (e.dialect.call c, none)
  | _ => .error (.request .resourceRequired)

/-- The plan of a request. Errors of a request on a resource name it. -/
def plan (e : CatalogEntry) (pageSize : Nat) (q : Request) : Except Error Plan := do
  let (statement, range) ←
    match q.resource with
    | none => e.planAlias q.action
    | some resource => (e.planResource pageSize resource q).mapError (Error.onResource resource)
  return ⟨e.dialect, statement, range⟩

end CatalogEntry

/-! ## The gateway -/

/-- A gateway: its catalog, and the access table in force. -/
structure Gateway where
  /-- what is configured -/
  catalog : Catalog
  /-- the access table in force -/
  access : AccessTable

namespace Gateway

/-- The gateway of a configuration, if it is accepted. -/
def ofConfiguration (c : Configuration) : Except Error Gateway := do
  c.validate
  let access ← AccessTable.ofConfiguration c
  let catalog ← Catalog.ofConfiguration c
  return ⟨catalog, access⟩

/-- The gateway with another access table in force. -/
def reload (g : Gateway) (access : AccessTable) : Gateway := { g with access }

/-- The catalog entry of an alias. -/
def entry (g : Gateway) (aliasName : String) : Except Error CatalogEntry :=
  match g.catalog.entries.find? aliasName with
  | some e => .ok e
  | none => .error (.unknownAlias aliasName)

/-- The dialect of an alias. -/
def dialect (g : Gateway) (aliasName : String) : Except Error Dialect :=
  (g.entry aliasName).map CatalogEntry.dialect

/-- Refuses a request whose permission is not granted. -/
def authorize (g : Gateway) (q : Request) : Except Error Unit :=
  if g.access.allows q.scope q.action.permission then .ok ()
  else .error (.accessDenied q.action.permission q.aliasName q.resource)

/-- The plan of a request. -/
def plan (g : Gateway) (q : Request) : Except Error Plan := do
  let e ← g.entry q.aliasName
  g.authorize q
  e.plan g.catalog.pageSize q

end Gateway

end TableGateway

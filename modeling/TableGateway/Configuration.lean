import TableGateway.Access.Table
import TableGateway.Dialect
import TableGateway.Map.Sorted
import TableGateway.Request.RowRange
import TableGateway.Statement.Table

/-!
# Configurations

A configuration names the aliases that requests can use, and for each its driver, its schema, its
rules and the key columns of its tables, all as text. Whether the texts make sense is a question of
its own:

* `Configuration.defects` lists everything that is wrong, in the order in which it is looked for:
  the page size, then alias by alias in ascending order the driver, the schema, the rule of the
  alias, the rules of its resources and its key columns;
* `Configuration.WellFormed` says what a configuration without defects is like, and
  `Configuration.defects_eq_nil_iff` that this is so;
* `Configuration.validate` reports the first of the defects, so a configuration is accepted exactly
  when there are none;
* `AccessTable.ofConfiguration` is the access table that the rules make up.
-/

namespace TableGateway

/-- What is configured for one alias. -/
structure AliasConfiguration where
  /-- the driver tag that chooses the dialect -/
  driver : String
  /-- the schema of every table of the alias -/
  schema : Option String := none
  /-- nothing can be written through the alias -/
  readOnly : Bool := false
  /-- the rule for the alias as a whole -/
  rule : Option String := none
  /-- the rules for single resources -/
  resources : SortedMap String := .empty
  /-- the key columns of tables that are not identified by `id` -/
  primaryKeys : SortedMap String := .empty

/-- What is configured. -/
structure Configuration where
  /-- the number of rows on a page when a request does not say -/
  pageSize : Nat := RowRange.defaultLimit
  /-- the aliases -/
  aliases : SortedMap AliasConfiguration := .empty

/-- The reason of a failure, as a list that is empty on success. -/
def failures {α : Type} : Except Reason α → List Reason
  | .ok _ => []
  | .error reason => [reason]

/-- Only a success has no failures. -/
theorem failures_eq_nil_iff {α : Type} {e : Except Reason α} :
    failures e = [] ↔ ∃ a, e = .ok a := by
  cases e <;> simp [failures]

theorem mem_failures_iff {α : Type} {e : Except Reason α} {reason : Reason} :
    reason ∈ failures e ↔ e = .error reason := by
  cases e <;> simp [failures, eq_comm]

namespace AliasConfiguration

/-- The dialect of the alias. -/
def dialect (a : AliasConfiguration) : Except Error Dialect := Dialect.parse a.driver

/-- The permissions that the rule for the alias as a whole grants, if there is one. -/
def permissions (a : AliasConfiguration) : Except Error (Option PermissionSet) :=
  a.rule.mapM PermissionSet.parse

/-- What is wrong with the rule of a resource: its name, then the rule. -/
def resourceDefects (resource rule : String) : List Reason :=
  failures (Identifier.read resource) ++
    (failures (PermissionSet.readRule rule)).map (.inResource resource)

/-- What is wrong with a key column: the name of the resource, then that of the column. -/
def primaryKeyDefects (resource column : String) : List Reason :=
  failures (Identifier.read resource) ++ failures (Identifier.read column)

/-- Everything that is wrong with the alias. -/
def defects (a : AliasConfiguration) : List Reason :=
  failures (Dialect.ofDriver a.driver) ++
    (a.schema.toList.flatMap fun s => failures (Identifier.read s)) ++
    (a.rule.toList.flatMap fun r => failures (PermissionSet.readRule r)) ++
    (a.resources.entries.flatMap fun e => resourceDefects e.1 e.2) ++
    a.primaryKeys.entries.flatMap fun e => primaryKeyDefects e.1 e.2

/-- All texts that are configured for the alias make sense. -/
structure WellFormed (a : AliasConfiguration) : Prop where
  /-- the driver is a tag of a dialect -/
  driver : ∃ d : Dialect, Text.lowerAscii (Text.trim a.driver) ∈ d.tags
  /-- the schema is an identifier -/
  schema : ∀ s, a.schema = some s → ∃ i : Identifier, i.name = s
  /-- the rule grants a set of permissions -/
  rule : ∀ text, a.rule = some text → ∃ set, PermissionSet.parse text = .ok set
  /-- resources with rules are identifiers -/
  resource : ∀ name text, a.resources.find? name = some text → ∃ i : Identifier, i.name = name
  /-- the rules of resources grant sets of permissions -/
  resourceRule : ∀ name text, a.resources.find? name = some text →
    ∃ set, PermissionSet.parse text = .ok set
  /-- resources with key columns are identifiers -/
  keyedResource : ∀ name column, a.primaryKeys.find? name = some column →
    ∃ i : Identifier, i.name = name
  /-- key columns are identifiers -/
  keyColumn : ∀ name column, a.primaryKeys.find? name = some column →
    ∃ i : Identifier, i.name = column

/-- An alias without defects is one whose texts make sense. -/
theorem defects_eq_nil_iff {a : AliasConfiguration} : a.defects = [] ↔ a.WellFormed := by
  simp only [defects, resourceDefects, primaryKeyDefects, List.append_eq_nil_iff,
    List.flatMap_eq_nil_iff, List.map_eq_nil_iff, Option.mem_toList, Prod.forall,
    SortedMap.mem_entries_iff, failures_eq_nil_iff, Dialect.exists_ofDriver_iff,
    Identifier.exists_read_iff, PermissionSet.exists_readRule_iff]
  constructor
  · rintro ⟨⟨⟨⟨hdriver, hschema⟩, hrule⟩, hresources⟩, hkeys⟩
    exact
      { driver := hdriver
        schema := hschema
        rule := hrule
        resource := fun name text h => (hresources name text h).1
        resourceRule := fun name text h => (hresources name text h).2
        keyedResource := fun name column h => (hkeys name column h).1
        keyColumn := fun name column h => (hkeys name column h).2 }
  · intro h
    refine ⟨⟨⟨⟨h.driver, h.schema⟩, h.rule⟩, ?_⟩, ?_⟩
    · exact fun name text htext => ⟨h.resource name text htext, h.resourceRule name text htext⟩
    · exact fun name column hcolumn =>
        ⟨h.keyedResource name column hcolumn, h.keyColumn name column hcolumn⟩

/-- The table behind a resource of the alias, with the schema of the alias and the key column
configured for the resource. -/
def table (a : AliasConfiguration) (resource : String) : Except Error Table := do
  let name ← Identifier.parse resource
  let schema ← a.schema.mapM Identifier.parseConfigured
  let primaryKey ← (a.primaryKeys.find? resource).mapM Identifier.parseConfigured
  return ⟨schema, name, primaryKey.getD Table.defaultPrimaryKey⟩

/-- The rules of the alias of the given name, as they are written: the one for the alias as a whole,
then those for its resources. -/
def writtenRules (name : String) (a : AliasConfiguration) : List (Scope × String) :=
  a.rule.toList.map (⟨name, none⟩, ·) ++
    a.resources.entries.map fun e => (⟨name, some e.1⟩, e.2)

end AliasConfiguration

namespace Configuration

/-- The configuration of an alias. -/
def alias? (c : Configuration) (name : String) : Option AliasConfiguration := c.aliases.find? name

/-- What is wrong with the page size. -/
def pageSizeDefects (size : Nat) : List Reason :=
  if 1 ≤ size ∧ size ≤ RowRange.maxLimit then [] else [.pageSize size]

theorem mem_pageSizeDefects_iff {size : Nat} {reason : Reason} :
    reason ∈ pageSizeDefects size ↔ ¬ (1 ≤ size ∧ size ≤ 1000) ∧ reason = .pageSize size := by
  rw [pageSizeDefects, RowRange.maxLimit]
  split <;> rename_i h <;> simp [h]

theorem pageSizeDefects_eq_nil_iff {size : Nat} :
    pageSizeDefects size = [] ↔ 1 ≤ size ∧ size ≤ 1000 := by
  simp [List.eq_nil_iff_forall_not_mem, mem_pageSizeDefects_iff]

/-- Everything that is wrong with the configuration. -/
def defects (c : Configuration) : List Reason :=
  pageSizeDefects c.pageSize ++
    c.aliases.entries.flatMap fun e => e.2.defects.map (.inAlias e.1)

/-- The page size is in its range, and all aliases make sense. -/
structure WellFormed (c : Configuration) : Prop where
  /-- the page size is in its range -/
  pageSize : 1 ≤ c.pageSize ∧ c.pageSize ≤ 1000
  /-- all aliases make sense -/
  aliases : ∀ name a, c.alias? name = some a → a.WellFormed

/-- A configuration without defects is one that makes sense. -/
theorem defects_eq_nil_iff {c : Configuration} : c.defects = [] ↔ c.WellFormed := by
  simp only [defects, List.append_eq_nil_iff, List.flatMap_eq_nil_iff, List.map_eq_nil_iff,
    Prod.forall, SortedMap.mem_entries_iff, pageSizeDefects_eq_nil_iff,
    AliasConfiguration.defects_eq_nil_iff]
  exact ⟨fun h => ⟨h.1, h.2⟩, fun h => ⟨h.pageSize, h.aliases⟩⟩

/-- Accepts a configuration without defects and reports the first defect of any other. -/
def validate (c : Configuration) : Except Error Unit :=
  match c.defects with
  | [] => .ok ()
  | reason :: _ => .error (.invalidConfiguration reason)

/-- A configuration is accepted exactly when it has no defects. -/
theorem validate_eq_ok_iff {c : Configuration} : c.validate = .ok () ↔ c.defects = [] := by
  unfold validate
  split <;> rename_i h <;> simp [h]

/-- The rules of all aliases, as they are written. -/
def writtenRules (c : Configuration) : List (Scope × String) :=
  c.aliases.entries.flatMap fun e => e.2.writtenRules e.1

end Configuration

/-- The access table that the rules of a configuration make up, or the first rule that cannot be
read. -/
def AccessTable.ofConfiguration (c : Configuration) : Except Error AccessTable := do
  let rules ← c.writtenRules.mapM fun r => Rule.parse r.1 r.2
  let table := rules.foldl AccessTable.addRule .empty
  return c.aliases.entries.foldl (fun t e => t.setReadOnly e.1 e.2.readOnly) table

end TableGateway

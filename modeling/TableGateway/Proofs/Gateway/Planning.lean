import TableGateway.Gateway
import TableGateway.Proofs.Finder.Reading

/-!
# How plans come about

A plan that comes out has gone through every step of planning. What the steps were is said once
here, for each kind of action, and everything that holds of plans is derived from it:

* `Gateway.granted_of_plan`: the alias is known and the permission was granted;
* `CatalogEntry.table_of_plan`: a plan for a resource is made on its table;
* `CatalogEntry.cases_of_plan`: without a resource the tables are listed or a procedure is called;
* `Action.Planned`: which statement an action comes to on a table, and what had to be read for it.
-/

namespace TableGateway

/-! ## Actions -/

/-- The action comes to the statement on the table, with the given stretch of rows. There is one
rule for each action that is done to a table. -/
inductive Action.Planned (d : Dialect) (t : Table) (pageSize : Nat) (ps : Parameters) :
    Action → Statement → Option RowRange → Prop where
  | describe : Planned d t pageSize ps .describe
      (d.select { table := t, range := some (RowRange.clamp 1 0) }) (some (RowRange.clamp 1 0))
  | read {lookup : Option Lookup} {conditions : List Condition} {order : Option SortOrder}
      (hconditions : Lookup.conditions t lookup = .ok conditions)
      (horder : readOrder ps t = .ok order) :
      Planned d t pageSize ps (.read lookup)
        (d.select
          { table := t, conditions, range := some (RowRange.requestedPage ps pageSize), order })
        (some (RowRange.requestedPage ps pageSize))
  | count {lookup : Option Lookup} {conditions : List Condition}
      (hconditions : Lookup.conditions t lookup = .ok conditions) :
      Planned d t pageSize ps (.count lookup) (d.count { table := t, conditions }) none
  | find {name : String} {arguments : List String} {f : Finder} {order : SortOrder}
      (horder : SortOrder.requested ps (.ok t.primaryKey) = .ok order)
      (hfinder : Finder.parse t name arguments = .ok f) :
      Planned d t pageSize ps (.find name arguments)
        (d.select (f.paged (RowRange.requestedPage ps pageSize) order))
        (some (RowRange.requestedPage ps pageSize))
  | insert {pairs : List (String × String)} {values : Assignments} {st : Statement}
      (hvalues : Assignments.ofPairs pairs = .ok values)
      (hstatement : d.insert ⟨t, values⟩ = .ok st) :
      Planned d t pageSize ps (.insert pairs) st none
  | update {key : String} {pairs : List (String × String)} {values : Assignments} {st : Statement}
      (hvalues : Assignments.ofPairs pairs = .ok values)
      (hstatement : d.update ⟨t, some key, values⟩ = .ok st) :
      Planned d t pageSize ps (.update key pairs) st none
  | delete {key : String} {st : Statement} (hstatement : d.delete ⟨t, some key⟩ = .ok st) :
      Planned d t pageSize ps (.delete key) st none

theorem Action.planned_of_plan {d : Dialect} {t : Table} {pageSize : Nat} {ps : Parameters}
    {a : Action} {st : Statement} {range : Option RowRange}
    (h : a.plan d t pageSize ps = .ok (st, range)) : Planned d t pageSize ps a st range := by
  cases a with
  | describe =>
    cases h
    exact .describe
  | read lookup =>
    obtain ⟨conditions, hconditions, h⟩ := exists_of_bind_eq_ok h
    obtain ⟨order, horder, h⟩ := exists_of_bind_eq_ok h
    cases h
    exact .read hconditions horder
  | count lookup =>
    obtain ⟨conditions, hconditions, h⟩ := exists_of_bind_eq_ok h
    cases h
    exact .count hconditions
  | find name arguments =>
    obtain ⟨order, horder, h⟩ := exists_of_bind_eq_ok h
    obtain ⟨f, hf, h⟩ := exists_of_bind_eq_ok h
    cases h
    exact .find horder hf
  | insert pairs =>
    obtain ⟨values, hvalues, h⟩ := exists_of_bind_eq_ok h
    obtain ⟨statement, hstatement, h⟩ := exists_of_bind_eq_ok h
    cases h
    exact .insert hvalues hstatement
  | update key pairs =>
    obtain ⟨values, hvalues, h⟩ := exists_of_bind_eq_ok h
    obtain ⟨statement, hstatement, h⟩ := exists_of_bind_eq_ok h
    cases h
    exact .update hvalues hstatement
  | delete key =>
    obtain ⟨statement, hstatement, h⟩ := exists_of_bind_eq_ok h
    cases h
    exact .delete hstatement
  | call procedure arguments => cases h

/-! ## Changes -/

namespace Dialect

variable {d : Dialect} {st : Statement}

/-- A row is updated by the pieces of an UPDATE, with the key value that is given. -/
theorem pieces_of_update {u : Update} (h : d.update u = .ok st) :
    ∃ key, u.key = some key ∧ u.values.isEmpty = false ∧
      st = .ofPieces (d.updatePieces u.table u.values key) := by
  obtain ⟨hvalues, key, hkey, hst⟩ := update_eq_ok_iff.mp h
  exact ⟨key, (usableKey_eq_some_iff.mp hkey).1, hvalues, hst⟩

/-- A row is deleted by the pieces of a DELETE, with the key value that is given. -/
theorem pieces_of_delete {x : Deletion} (h : d.delete x = .ok st) :
    ∃ key, x.key = some key ∧ st = .ofPieces (d.deletePieces x.table key) := by
  obtain ⟨key, hkey, hst⟩ := delete_eq_ok_iff.mp h
  exact ⟨key, (usableKey_eq_some_iff.mp hkey).1, hst⟩

end Dialect

/-! ## The catalog -/

/-- The table behind a resource has its name, in the schema of the alias. -/
theorem AliasConfiguration.parts_of_table {a : AliasConfiguration} {resource : String} {t : Table}
    (h : a.table resource = .ok t) :
    t.name.name = resource ∧ t.schema.map Identifier.name = a.schema := by
  obtain ⟨name, hname, h⟩ := exists_of_bind_eq_ok h
  obtain ⟨schema, hschema, h⟩ := exists_of_bind_eq_ok h
  obtain ⟨key, -, h⟩ := exists_of_bind_eq_ok h
  cases h
  refine ⟨(Identifier.parse_eq_ok_iff.mp hname).symm, ?_⟩
  cases htext : a.schema with
  | none =>
    rw [htext] at hschema
    cases hschema
    rfl
  | some text =>
    rw [htext] at hschema
    obtain ⟨i, hi, hschema⟩ := exists_of_map_eq_ok hschema
    rw [Identifier.parseConfigured_eq_ok_iff.mp hi, ← hschema]
    rfl

namespace CatalogEntry

variable {e : CatalogEntry} {pageSize : Nat} {q : Request} {p : Plan}

/-- A request for another key column is for the same table. -/
theorem parts_of_table {resource : String} {primaryKey : Option String}
    {t : Table} (h : e.table resource primaryKey = .ok t) :
    t.name.name = resource ∧ t.schema.map Identifier.name = e.configuration.schema := by
  obtain ⟨configured, hconfigured, h⟩ := exists_of_bind_eq_ok h
  have hparts := AliasConfiguration.parts_of_table hconfigured
  cases primaryKey with
  | none =>
    cases h
    exact hparts
  | some column =>
    obtain ⟨c, -, h⟩ := exists_of_bind_eq_ok h
    cases h
    exact hparts

/-- A request on a resource is planned on its table, and its errors name the resource. -/
theorem plan_of_resource (e : CatalogEntry) (pageSize : Nat) {r : String}
    (hresource : q.resource = some r) :
    e.plan pageSize q = ((e.table r q.primaryKey >>= fun t =>
      q.action.plan e.dialect t pageSize q.parameters).mapError (Error.onResource r)).map
        fun x => ⟨e.dialect, x.1, x.2⟩ := by
  rw [plan, hresource]
  show ((e.planResource pageSize r q).mapError _ >>= _) =
    ((e.planResource pageSize r q).mapError _).map _
  cases e.planResource pageSize r q <;> rfl

/-- A plan for a resource is made on its table. -/
theorem table_of_plan {r : String} (hresource : q.resource = some r)
    (h : e.plan pageSize q = .ok p) :
    ∃ t, e.table r q.primaryKey = .ok t ∧
      q.action.Planned e.dialect t pageSize q.parameters p.statement p.range := by
  rw [plan_of_resource e pageSize hresource] at h
  obtain ⟨⟨st, range⟩, hplan, rfl⟩ := exists_of_map_eq_ok h
  obtain ⟨t, ht, hplan⟩ := exists_of_bind_eq_ok (mapError_eq_ok_iff.mp hplan)
  exact ⟨t, ht, Action.planned_of_plan hplan⟩

/-- A plan without a resource lists the tables or calls a procedure. -/
theorem cases_of_plan (hresource : q.resource = none) (h : e.plan pageSize q = .ok p) :
    (q.action = .describe ∧ p.statement = e.dialect.listTables) ∨
      ∃ c : ProcedureCall, q.action = .call c.procedure.name c.arguments ∧
        p.statement = e.dialect.call c := by
  rw [plan] at h
  rw [hresource] at h
  obtain ⟨⟨st, range⟩, hplan, h⟩ := exists_of_bind_eq_ok h
  cases h
  unfold planAlias at hplan
  split at hplan
  · rename_i haction
    cases hplan
    exact .inl ⟨haction, rfl⟩
  · rename_i procedure arguments haction
    obtain ⟨c, hc, hplan⟩ := exists_of_map_eq_ok hplan
    obtain ⟨i, hi, rfl⟩ := exists_of_map_eq_ok hc
    cases hplan
    refine .inr ⟨_, ?_, rfl⟩
    rw [haction, Identifier.parse_eq_ok_iff.mp hi]
  · cases hplan

end CatalogEntry

/-! ## The gateway -/

/-- A plan that comes out is that of the catalog, and was granted. -/
theorem Gateway.granted_of_plan {g : Gateway} {q : Request} {p : Plan} (h : g.plan q = .ok p) :
    ∃ e, g.catalog.entries.find? q.aliasName = some e ∧
      g.access.allows q.scope q.action.permission = true ∧ e.plan g.catalog.pageSize q = .ok p := by
  obtain ⟨e, hentry, h⟩ := exists_of_bind_eq_ok h
  obtain ⟨_, hauthorize, hplan⟩ := exists_of_bind_eq_ok h
  refine ⟨e, ?_, ?_, hplan⟩
  · rw [entry] at hentry
    split at hentry
    · rename_i hfind
      cases hentry
      exact hfind
    · cases hentry
  · rw [authorize] at hauthorize
    split at hauthorize
    · rename_i hallows
      exact hallows
    · cases hauthorize

end TableGateway

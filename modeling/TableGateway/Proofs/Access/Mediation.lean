import TableGateway.Proofs.Gateway.Planning
import TableGateway.Proofs.Sql.ChangeSpelling
import TableGateway.Proofs.Sql.Opening
import TableGateway.Proofs.Sql.ReadSpelling

/-!
# Complete mediation

What is sent to the database is what was granted. The permission is computed from the action of a
request, the decision is taken on the access table, and the statement is rendered from the action
and the catalog; `Gateway.plan_mediates` says that the three agree: the kind of the statement is
that of the action, and the only table in it is the resource on which the permission was granted.

* `Dialect.Renders` is what is shown of every statement on a table: its verb, how it starts, the
  table it names and what its columns are said to be of. There is one lemma for each statement that a
  dialect renders.
* `Action.Planned.renders` puts these together for all actions.
-/

namespace TableGateway

/-- The kind of statement that an action is carried out by. -/
def Action.verb : Action → Sql.Verb
  | describe | read _ | find .. => .select
  | count _ => .count
  | insert _ => .insert
  | update .. => .update
  | delete _ => .delete
  | call .. => .call

/-- The permission that statements of a kind need, unless all they do is show what a table looks
like. -/
def Sql.Verb.permission : Sql.Verb → Permission
  | select | count => .read
  | insert => .insert
  | update => .update
  | delete => .delete
  | call => .exec

/-- The permission of an action is that of the statement by which it is carried out. -/
theorem Action.permission_eq (a : Action) :
    a.permission = if a = .describe then .metadata else a.verb.permission := by
  cases a <;> rfl

theorem Action.isWrite_permission (a : Action) : a.permission.isWrite = a.verb.isWrite := by
  cases a <;> rfl

/-! ## Statements on a table -/

namespace Dialect

/-- Statements of this kind name their table with its schema. -/
def qualifies (d : Dialect) (v : Sql.Verb) : Bool :=
  if v.isWrite then d.traits.changes ≠ .bare else d.traits.columns ≠ .bare

/-- The statement is a command of the given kind on the table, and on no other. -/
def Renders (d : Dialect) (t : Table) (v : Sql.Verb) (st : Statement) : Prop :=
  ∃ c, Sql.Spelled st c ∧ c.verb = v ∧ st.startsWith v.opening ∧
    c.table? = some ⟨if d.qualifies v then t.schema else none, t.name⟩ ∧
    ∀ q ∈ c.qualifiers, c.calledName? = some q

/-! ### Reads -/

theorem name_readSource (d : Dialect) (t : Table) {v : Sql.Verb} (hv : v.isWrite = false) :
    (d.readSource t).name = ⟨if d.qualifies v then t.schema else none, t.name⟩ := by
  rw [qualifies, hv]
  rw [readSource]
  cases d.traits.columns <;> rfl

/-- What a read says its columns are of is what it calls its table. -/
theorem calledName_readSource (d : Dialect) (t : Table) {q : Identifier}
    (hq : d.readQualifier t = some q) : (d.readSource t).calledName = q := by
  rw [readQualifier] at hq
  rw [readSource]
  cases hcolumns : d.traits.columns with
  | aliased =>
    rw [hcolumns] at hq
    exact Option.some.inj hq
  | byTable =>
    rw [hcolumns] at hq
    exact Option.some.inj hq
  | bare =>
    rw [hcolumns] at hq
    cases hq

theorem qualifiers_factor (d : Dialect) (t : Table) (c : Condition) :
    (d.factor t c).qualifiers = (d.readQualifier t).toList := by
  induction c using condition_cases with
  | isNull c => rfl
  | isNotNull c => rfl
  | between c low high =>
    show (d.readQualifier t).toList ++ [] ++ [] = _
    rw [List.append_nil, List.append_nil]
  | single c op v hcompares hcounted =>
    by_cases hnot : op = .not
    · subst hnot
      exact List.append_nil _
    rw [factor_single d t c v hcompares hcounted hnot]
    split <;> exact List.append_nil _

theorem qualifiers_readProjection (d : Dialect) (s : Selection) {q : Identifier}
    (hq : q ∈ (d.readProjection s).qualifiers) : d.readQualifier s.table = some q := by
  rw [readProjection] at hq
  cases hcolumns : s.columns with
  | nil =>
    rw [hcolumns] at hq
    exact Option.mem_toList.mp hq
  | cons c cs =>
    rw [hcolumns] at hq
    obtain ⟨r, hr, hqr⟩ := List.mem_flatMap.mp hq
    rw [← List.map_cons] at hr
    obtain ⟨column, -, rfl⟩ := List.mem_map.mp hr
    exact Option.mem_toList.mp hqr

theorem qualifiers_readRows (d : Dialect) (s : Selection) {q : Identifier}
    (hq : q ∈ (d.readRows s).qualifiers) : d.readQualifier s.table = some q := by
  obtain ⟨f, hf, hqf⟩ := List.mem_flatMap.mp hq
  obtain ⟨c, -, rfl⟩ := List.mem_map.mp hf
  rw [qualifiers_factor] at hqf
  exact Option.mem_toList.mp hqf

theorem qualifiers_query (d : Dialect) (s : Selection) {q : Identifier}
    (hq : q ∈ (d.query s).qualifiers) : d.readQualifier s.table = some q := by
  rw [query] at hq
  split at hq
  · rw [Sql.Query.qualifiers, List.mem_append, List.mem_append] at hq
    rcases hq with (hq | hq) | hq
    · exact Option.mem_toList.mp hq
    · exact qualifiers_readProjection d s hq
    · exact qualifiers_readRows d s hq
  · rw [Sql.Query.qualifiers, List.mem_append, List.mem_append] at hq
    rcases hq with (hq | hq) | hq
    · exact qualifiers_readProjection d s hq
    · exact qualifiers_readRows d s hq
    · cases horder : s.order with
      | none => rw [horder] at hq; cases hq
      | some o =>
        rw [horder, Option.map_some, Option.toList_some, List.flatMap_singleton] at hq
        exact Option.mem_toList.mp hq

theorem renders_select (d : Dialect) (s : Selection) :
    d.Renders s.table .select (d.select s) := by
  refine ⟨.query (d.query s), spelled_select d s, ?_, ?_, ?_, ?_⟩
  · rw [query]
    split <;> rfl
  · rw [select, selectPieces]
    split
    · refine Statement.startsWith_ofPieces ?_ _
      rw [String.toList_append, String.toList_append, List.append_assoc]
      exact List.IsPrefix.trans (by decide) (List.prefix_append _ _)
    · exact Statement.startsWith_ofPieces (List.prefix_refl _) _
  · rw [Sql.Command.table?, rows_query, readRows, name_readSource d s.table (v := .select) rfl]
  · intro q hq
    rw [Sql.Command.calledName?, rows_query, readRows,
      calledName_readSource d s.table (qualifiers_query d s hq)]

theorem renders_count (d : Dialect) (s : Selection) :
    d.Renders s.table .count (d.count s) := by
  refine ⟨.query (d.countQuery s), spelled_count d s, rfl, ?_, ?_, ?_⟩
  · -- The opening ends in the second piece, where the table stands.
    have hopening : Sql.Verb.count.opening = "SELECT COUNT(*)" ++ " FROM " := rfl
    refine ⟨(d.source s.table).toList ++
      (d.restriction s.table s.conditions).flatMap Piece.chars, ?_⟩
    rw [count, Statement.sql_ofPieces, Piece.toList_sql, List.flatMap_cons, rows,
      List.flatMap_cons, Piece.chars, Piece.chars, hopening, String.toList_append,
      String.toList_append, List.append_assoc, List.append_assoc]
  · exact congrArg some (name_readSource d s.table rfl)
  · intro q hq
    exact congrArg some (calledName_readSource d s.table (qualifiers_readRows d s hq))

/-! ### Changes -/

theorem changeTable_eq (d : Dialect) (t : Table) {v : Sql.Verb} (hv : v.isWrite = true) :
    d.changeTable t = ⟨if d.qualifies v then t.schema else none, t.name⟩ := by
  rw [qualifies, hv]
  rw [changeTable]
  cases d.traits.changes <;> rfl

/-- Columns of a change are said to be of its table, if anything is said. -/
theorem qualifiers_equation (d : Dialect) (t : Table) (e : Identifier × String) {q : Identifier}
    (hq : q ∈ (d.equation t e).reference.qualifiers) : (d.changeTable t).table = q := by
  rw [equation, changeReference] at hq
  rw [changeTable]
  cases hchanges : d.traits.changes with
  | bare => rw [hchanges] at hq; cases hq
  | qualified => rw [hchanges] at hq; cases hq
  | qualifiedColumns =>
    rw [hchanges] at hq
    exact (List.mem_singleton.mp hq).symm

/-- A change starts with the fixed text of its first piece. -/
theorem startsWith_change {o rest : String} (ps : List Piece) :
    (Statement.ofPieces (.text (o ++ rest) :: ps)).startsWith o := by
  refine Statement.startsWith_ofPieces ?_ ps
  rw [String.toList_append]
  exact List.prefix_append _ _

theorem renders_insert (d : Dialect) {i : Insertion} {st : Statement} (h : d.insert i = .ok st) :
    d.Renders i.table .insert st := by
  obtain ⟨hvalues, rfl⟩ := insert_eq_ok_iff.mp h
  refine ⟨_, spelled_insertPieces d i.table hvalues, rfl, ?_, ?_, nofun⟩
  · rw [insertPieces, String.append_assoc, String.append_assoc, String.append_assoc]
    exact startsWith_change _
  · exact congrArg some (changeTable_eq d i.table rfl)

theorem renders_update (d : Dialect) {u : Update} {st : Statement} (h : d.update u = .ok st) :
    d.Renders u.table .update st := by
  obtain ⟨key, -, hvalues, rfl⟩ := pieces_of_update h
  refine ⟨_, spelled_updatePieces d u.table hvalues key, rfl, ?_, ?_, ?_⟩
  · rw [updatePieces, String.append_assoc]
    exact startsWith_change _
  · exact congrArg some (changeTable_eq d u.table rfl)
  · intro q hq
    obtain ⟨e, he, hqe⟩ := List.mem_flatMap.mp hq
    rw [← List.map_cons] at he
    obtain ⟨a, -, rfl⟩ := List.mem_map.mp he
    exact congrArg some (qualifiers_equation d u.table a hqe)

theorem renders_delete (d : Dialect) {x : Deletion} {st : Statement} (h : d.delete x = .ok st) :
    d.Renders x.table .delete st := by
  obtain ⟨key, -, rfl⟩ := pieces_of_delete h
  refine ⟨_, spelled_deletePieces d x.table key, rfl, ?_, ?_, ?_⟩
  · exact startsWith_change _
  · exact congrArg some (changeTable_eq d x.table rfl)
  · exact fun q hq => congrArg some (qualifiers_equation d x.table _ hq)

end Dialect

/-! ## Planning -/

/-- What is planned on a table is a statement of the kind of the action, on that table. -/
theorem Action.Planned.renders {d : Dialect} {t : Table} {pageSize : Nat} {ps : Parameters}
    {a : Action} {st : Statement} {range : Option RowRange}
    (h : a.Planned d t pageSize ps st range) : d.Renders t a.verb st := by
  cases h with
  | describe => exact d.renders_select _
  | read hconditions horder => exact d.renders_select _
  | count hconditions => exact d.renders_count _
  | find horder hfinder =>
    rename_i f order
    obtain ⟨_, conditions, -, hselection⟩ := Finder.conditions_of_parse hfinder
    have hrenders := d.renders_select (f.paged (RowRange.requestedPage ps pageSize) order)
    rw [Finder.paged, hselection] at hrenders ⊢
    exact hrenders
  | insert hvalues hstatement => exact d.renders_insert hstatement
  | update hvalues hstatement => exact d.renders_update hstatement
  | delete hstatement => exact d.renders_delete hstatement

namespace CatalogEntry

/-- A plan for a resource is a statement on its table. -/
theorem renders_of_plan {e : CatalogEntry} {pageSize : Nat} {q : Request} {p : Plan} {r : String}
    (hresource : q.resource = some r) (h : e.plan pageSize q = .ok p) :
    ∃ t : Table, t.name.name = r ∧ t.schema.map Identifier.name = e.configuration.schema ∧
      e.dialect.Renders t q.action.verb p.statement := by
  obtain ⟨t, ht, hplanned⟩ := table_of_plan hresource h
  obtain ⟨hname, hschema⟩ := parts_of_table ht
  exact ⟨t, hname, hschema, hplanned.renders⟩

end CatalogEntry

namespace Gateway

/-! ## Mediation -/

/-- Tables are listed by a text that selects or shows. -/
theorem head?_listTables (d : Dialect) :
    d.traits.listTables.toList.head? = some 'S' ∨ d.traits.listTables.toList.head? = some 's' := by
  cases d with
  | mssql => exact .inr (congrArg List.head? String.toList_ofList)
  | _ => exact .inl (congrArg List.head? String.toList_ofList)

theorem head?_opening {v : Sql.Verb} (hv : v.isWrite = true) :
    ∃ c, v.opening.toList.head? = some c ∧ c ≠ 'S' ∧ c ≠ 's' := by
  cases v with
  | insert => exact ⟨'I', congrArg List.head? String.toList_ofList, by decide, by decide⟩
  | update => exact ⟨'U', congrArg List.head? String.toList_ofList, by decide, by decide⟩
  | delete => exact ⟨'D', congrArg List.head? String.toList_ofList, by decide, by decide⟩
  | select => cases hv
  | count => cases hv
  | call => cases hv

/-- What lists the tables changes nothing. -/
theorem not_startsWith_listTables (d : Dialect) {v : Sql.Verb} (hv : v.isWrite = true) :
    ¬ d.listTables.startsWith v.opening := by
  rintro ⟨rest, hrest⟩
  obtain ⟨c, hc, hS, hs⟩ := head?_opening hv
  have hhead : d.traits.listTables.toList.head? = some c := by
    rw [Dialect.listTables, Statement.ofText] at hrest
    rw [← hrest, List.head?_append, hc, Option.some_or]
  rcases head?_listTables d with hlist | hlist
  · exact hS (Option.some.inj (hhead.symm.trans hlist))
  · exact hs (Option.some.inj (hhead.symm.trans hlist))

/-- A call changes no table of the gateway by itself. -/
theorem not_startsWith_call (d : Dialect) (c : ProcedureCall) {v : Sql.Verb}
    (hv : v.isWrite = true) : ¬ (d.call c).startsWith v.opening := by
  intro hstarts
  have hcall : (d.call c).startsWith Sql.Verb.call.opening := by
    refine Statement.startsWith_ofPieces ?_ _
    rw [String.toList_append, String.toList_append, List.append_assoc]
    exact List.prefix_append _ _
  rcases ((Dialect.spelled_call d c).startsWith_iff hcall v).mp hstarts with rfl | ⟨rfl, -⟩
  · cases hv
  · cases hv

/-- No statement on a table that was granted on a read-only alias changes rows. -/
theorem not_startsWith_of_readOnly {g : Gateway} {q : Request}
    (hreadOnly : g.access.isReadOnly q.aliasName = true)
    (hallows : g.access.allows q.scope q.action.permission = true) {d : Dialect} {t : Table}
    {st : Statement} (hst : d.Renders t q.action.verb st) {v : Sql.Verb} (hv : v.isWrite = true) :
    ¬ st.startsWith v.opening := by
  intro hstarts
  obtain ⟨c, hspelled, hverb, hstart, -, -⟩ := hst
  rw [← hverb] at hstart
  rcases (hspelled.startsWith_iff hstart v).mp hstarts with rfl | ⟨rfl, -⟩
  · -- a write that was granted, which no read-only alias allows
    rw [hverb, ← Action.isWrite_permission] at hv
    rw [AccessTable.not_allows_write (s := q.scope) hreadOnly hv] at hallows
    cases hallows
  · cases hv

/-- **Complete mediation.** A plan carries out what was granted and nothing else.

For a resource, whose name is an identifier then, the statement is a command of the kind of the
action. It starts in the way of its kind and in no other, and the permission of that kind (to
describe the resource: to see the metadata) is granted on the resource. The command names the
resource as its only table, in the schema of the alias where the dialect names schemas, and refers
to no other table.

Without a resource there is only the list of tables and the call of a procedure.

On an alias that is read-only no plan inserts, updates or deletes, whatever the rules are. -/
theorem plan_mediates {g : Gateway} {q : Request} {p : Plan} (h : g.plan q = .ok p) :
    ∃ e, g.catalog.entries.find? q.aliasName = some e ∧
      (∀ r, q.resource = some r →
        ∃ (table : Identifier) (schema : Option Identifier) (c : Sql.Command),
          table.name = r ∧ schema.map Identifier.name = e.configuration.schema ∧
          Sql.read p.statement = some c ∧ c.verb = q.action.verb ∧
          (∀ v : Sql.Verb, p.statement.startsWith v.opening ↔
            v = q.action.verb ∨ (v = .select ∧ q.action.verb = .count)) ∧
          g.access.allows ⟨q.aliasName, some r⟩
            (if q.action = .describe then .metadata else c.verb.permission) = true ∧
          c.table? = some ⟨if e.dialect.qualifies c.verb then schema else none, table⟩ ∧
          ∀ x ∈ c.qualifiers, c.calledName? = some x) ∧
      (q.resource = none →
        (q.action = .describe ∧ g.access.allows ⟨q.aliasName, none⟩ .metadata = true ∧
          p.statement = .ofText e.dialect.traits.listTables) ∨
        ∃ procedure arguments, q.action = .call (Identifier.name procedure) arguments ∧
          g.access.allows ⟨q.aliasName, none⟩ .exec = true ∧
          Sql.read p.statement = some (.call procedure arguments) ∧
          p.statement.startsWith ("\x7bCALL " ++ procedure.name ++ "(")) ∧
      (g.access.isReadOnly q.aliasName = true →
        ∀ v : Sql.Verb, v.isWrite = true → ¬ p.statement.startsWith v.opening) := by
  obtain ⟨e, hfind, hallows, hplan⟩ := granted_of_plan h
  refine ⟨e, hfind, ?_, ?_, ?_⟩
  · -- a resource
    intro r hr
    obtain ⟨t, hname, hschema, c, hspelled, hverb, hstart, htable, hqualifiers⟩ :=
      CatalogEntry.renders_of_plan hr hplan
    rw [← hverb] at hstart
    refine ⟨t.name, t.schema, c, hname, hschema, hspelled.read_eq, hverb, ?_, ?_, ?_, hqualifiers⟩
    · intro v
      rw [← hverb]
      exact hspelled.startsWith_iff hstart v
    · rw [Action.permission_eq, Request.scope, hr] at hallows
      rw [hverb]
      exact hallows
    · rw [hverb]
      exact htable
  · -- no resource
    intro hnone
    rw [Request.scope, hnone] at hallows
    rcases CatalogEntry.cases_of_plan hnone hplan with ⟨haction, hst⟩ | ⟨c, haction, hst⟩
    · rw [haction] at hallows
      exact .inl ⟨haction, hallows, hst⟩
    · rw [haction] at hallows
      refine .inr ⟨c.procedure, c.arguments, haction, hallows, ?_, ?_⟩
      · rw [hst]
        exact (Dialect.spelled_call e.dialect c).read_eq
      · rw [hst]
        exact Statement.startsWith_ofPieces (List.prefix_refl _) _
  · -- a read-only alias
    intro hreadOnly v hv
    cases hresource : q.resource with
    | none =>
      rcases CatalogEntry.cases_of_plan hresource hplan with ⟨-, hst⟩ | ⟨c, -, hst⟩
      · rw [hst]
        exact not_startsWith_listTables e.dialect hv
      · rw [hst]
        exact not_startsWith_call e.dialect c hv
    | some r =>
      obtain ⟨t, -, -, hrenders⟩ := CatalogEntry.renders_of_plan hresource hplan
      exact not_startsWith_of_readOnly hreadOnly hallows hrenders hv

/-- A row that is added to a table in a schema, by a rule for the table alone. -/
theorem plan_mediates_insert :
    let a : AliasConfiguration := { driver := "derby", schema := some "app" }
    let g : Gateway :=
      ⟨⟨.ofList [("demo", ⟨.derby, a⟩)], 25⟩,
        AccessTable.empty.addRule ⟨⟨"demo", some "users"⟩, .ofList [.insert]⟩⟩
    let q : Request :=
      { aliasName := "demo", resource := some "users", action := .insert [("name", "x")] }
    let p : Plan := ⟨.derby, ⟨"INSERT INTO app.users (name) VALUES (?)", ["x"]⟩, none⟩
    g.plan q = .ok p ∧
      ∃ c, Sql.read p.statement = some c ∧ c.verb = .insert ∧
        ∃ t, c.table? = some t ∧ t.table.name = "users" := by
  intro a g q p
  have hsome : (g.plan q).toOption = some p := by decide +kernel
  have h : g.plan q = .ok p := by
    cases hplan : g.plan q with
    | error e => rw [hplan] at hsome; cases hsome
    | ok p' => rw [hplan] at hsome; exact congrArg _ (Option.some.inj hsome)
  obtain ⟨e, -, hresource, -, -⟩ := plan_mediates h
  obtain ⟨table, schema, c, hname, -, hread, hverb, -, -, htable, -⟩ := hresource "users" rfl
  exact ⟨h, c, hread, hverb, _, htable, hname⟩

end Gateway

end TableGateway

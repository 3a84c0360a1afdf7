import TableGateway.Proofs.Gateway.Isolation
import TableGateway.Proofs.Request.Ordering
import TableGateway.Proofs.Sql.ChangeSpelling
import TableGateway.Proofs.Sql.Unambiguity
import TableGateway.Proofs.Statement.KeyedChanges

/-!
# The key column

The key column of a resource is chosen once, when its table is found: it is the one that the request
names, else the one that is configured, else `id` (`AliasConfiguration.keyName`). It is used in many
places: rows are looked up by it, updated and deleted by it, and sorted and numbered by it where the
request names no other column. `Gateway.KeyedBy` lists these places.

What a statement makes of a key column is read off the statement, as a database understands it
(`Sql.pickedBy`, `Sql.queriedOrder`).
-/

namespace TableGateway

/-! ## Key columns of statements -/

/-- The column and the value by which a change picks its row. -/
def Sql.pickedBy (st : Statement) : Option Sql.Equation :=
  (Sql.read st).bind fun
    | .update _ _ key => some key
    | .delete _ key => some key
    | _ => none

/-- The order of the rows of a query, be it for sorting or for numbering. -/
def Sql.queriedOrder (st : Statement) : Option SortOrder :=
  (Sql.read st).bind fun
    | .query q => q.order
    | _ => none

/-- The statement picks its row by the value in the column alone, and its text ends with that. -/
def Statement.EndsInKey (st : Statement) (column : Identifier) (value : String) : Prop :=
  ∃ e : Sql.Equation, Sql.pickedBy st = some e ∧ e.reference.column = column ∧ e.value = value ∧
    (" WHERE " ++ e.reference.text ++ "=?").toList <:+ st.sql.toList

namespace Dialect

variable {d : Dialect} {st : Statement}

theorem keyText_eq (d : Dialect) (t : Table) :
    d.keyText t = " WHERE " ++ (d.changeReference t t.primaryKey).text ++ "=?" := by
  rw [keyText, assignmentText, ← changeColumn_eq, changeColumn_eq_text, String.append_assoc]

@[simp] theorem column_changeReference (d : Dialect) (t : Table) (c : Identifier) :
    (d.changeReference t c).column = c := by
  rw [changeReference]
  cases d.traits.changes <;> rfl

/-- A change that ends in the WHERE clause for a key value picks its row by the key column of the
table. -/
theorem endsInKey_ofPieces {t : Table} {key : String} (ps : List Piece)
    (h : Sql.pickedBy (.ofPieces (ps ++ d.keyClause t key)) =
      some (d.equation t (t.primaryKey, key))) :
    (Statement.ofPieces (ps ++ d.keyClause t key)).EndsInKey t.primaryKey key := by
  have hsql : (Statement.ofPieces (ps ++ d.keyClause t key)).sql.toList =
      (Piece.sql ps).toList ++ (d.keyText t).toList := by
    rw [Statement.sql_ofPieces, Piece.sql_append, sql_keyClause, String.toList_append]
  refine ⟨_, h, column_changeReference d t t.primaryKey, rfl, ?_⟩
  rw [hsql, keyText_eq]
  exact List.suffix_append _ _

theorem endsInKey_update {t : Table} {key : String} {values : Assignments}
    (h : d.update ⟨t, some key, values⟩ = .ok st) : st.EndsInKey t.primaryKey key := by
  obtain ⟨k, hk, hvalues, rfl⟩ := pieces_of_update h
  cases hk
  have hread := (spelled_updatePieces d t hvalues key).read_eq
  exact endsInKey_ofPieces _ (congrArg (Option.bind · _) hread)

theorem endsInKey_delete {t : Table} {key : String} (h : d.delete ⟨t, some key⟩ = .ok st) :
    st.EndsInKey t.primaryKey key := by
  obtain ⟨k, hk, rfl⟩ := pieces_of_delete h
  cases hk
  have hread := (spelled_deletePieces d t key).read_eq
  exact endsInKey_ofPieces [_] (congrArg (Option.bind · _) hread)

theorem queriedOrder_select (d : Dialect) (s : Selection) :
    Sql.queriedOrder (d.select s) =
      if d.numbersRows s then some (s.order.getD ⟨s.table.primaryKey, .ascending⟩)
      else s.order := by
  rw [Sql.queriedOrder, (spelled_select d s).read_eq]
  exact order_query d s

/-- The dialect cuts out rows by their numbers. -/
def numbers (d : Dialect) : Bool :=
  match d.traits.paging with
  | .rowNumber _ => true
  | _ => false

theorem numbersRows_of_range (d : Dialect) {s : Selection} {r : RowRange} (h : s.range = some r) :
    d.numbersRows s = d.numbers := by
  rw [numbersRows, h, numbers]
  cases d.traits.paging <;> rfl

end Dialect

/-! ## The table of a request -/

namespace AliasConfiguration

/-- The name of the key column for a request on a resource: the one that is requested, else the one
that is configured, else `id`. -/
def keyName (a : AliasConfiguration) (resource : String) (requested : Option String) : String :=
  (requested.or (a.primaryKeys.find? resource)).getD Table.defaultPrimaryKey.name

/-- The table of a resource that is an identifier can be found on an alias without defects. -/
theorem table_of_defects {a : AliasConfiguration} (ha : a.defects = []) (r : Identifier) :
    ∃ schema key, a.table r.name = .ok ⟨schema, r, key⟩ ∧ schema.map Identifier.name = a.schema ∧
      key.name = a.keyName r.name none := by
  have hnames : ∀ o : Option String, (∀ s ∈ o, ∃ i : Identifier, i.name = s) →
      ∃ i, o.mapM Identifier.parseConfigured = .ok i ∧ i.map Identifier.name = o := by
    rintro (_ | s) h
    · exact ⟨none, rfl, rfl⟩
    · obtain ⟨i, rfl⟩ := h s rfl
      refine ⟨some i, ?_, rfl⟩
      rw [Option.mapM_some, Identifier.parseConfigured_eq_ok_iff.mpr rfl]
      rfl
  have hwellFormed := defects_eq_nil_iff.mp ha
  obtain ⟨schema, hread, hschema⟩ := hnames a.schema hwellFormed.schema
  obtain ⟨key, hkey, hname⟩ :=
    hnames (a.primaryKeys.find? r.name) (hwellFormed.keyColumn r.name)
  refine ⟨schema, key.getD Table.defaultPrimaryKey, ?_, hschema, ?_⟩
  · rw [table, Identifier.parse_name, hread, hkey]
    rfl
  · rw [keyName, Option.none_or, ← hname]
    cases key <;> rfl

end AliasConfiguration

/-- The table of a request has the key column that the precedence says, if that is an identifier. -/
theorem CatalogEntry.table_eq {e : CatalogEntry} (he : e.configuration.defects = [])
    (r : Identifier) :
    ∃ schema, schema.map Identifier.name = e.configuration.schema ∧
      ∀ requested, e.table r.name requested =
        (Identifier.parse (e.configuration.keyName r.name requested)).map fun key =>
          ⟨schema, r, key⟩ := by
  obtain ⟨schema, key, htable, hschema, hkey⟩ := AliasConfiguration.table_of_defects he r
  refine ⟨schema, hschema, ?_⟩
  rintro (_ | column)
  · rw [table, htable, ← hkey, Identifier.parse_name]
    rfl
  · rw [table, htable]
    show (Identifier.parse column >>= fun key => _) = _
    rw [AliasConfiguration.keyName, Option.some_or, Option.getD_some]
    cases Identifier.parse column <;> rfl

/-- Another action is planned alike if it is on the table. -/
theorem CatalogEntry.plan_congr_action {e : CatalogEntry} {pageSize : Nat} {q : Request}
    {r : String} (hr : q.resource = some r) {t : Table} (ht : e.table r q.primaryKey = .ok t)
    {action : Action}
    (h : action.plan e.dialect t pageSize q.parameters =
      q.action.plan e.dialect t pageSize q.parameters) :
    e.plan pageSize { q with action } = e.plan pageSize q := by
  rw [plan_of_resource e pageSize hr, plan_of_resource e pageSize (q := { q with action }) hr, ht]
  show ((action.plan e.dialect t pageSize q.parameters).mapError _).map _ = _
  rw [h]
  rfl

/-! ## Uses of the key column -/

theorem Lookup.conditions_key (t : Table) (value : String) :
    Lookup.conditions t (some ⟨some t.primaryKey.name, value⟩) =
      Lookup.conditions t (some ⟨none, value⟩) := by
  unfold Lookup.conditions
  dsimp only
  rw [Identifier.parse_name]
  rfl

namespace SortOrder

variable {ps : Parameters} {key : Identifier}

/-- Where the parameters name no column, the key column is sorted by, in the direction that they ask
for. -/
theorem asAsked_key_of_requested (hps : ps.NamesNoColumn) {o : SortOrder}
    (h : requested ps (.ok key) = .ok o) :
    ¬ ps.MisnamesDirection ∧ AsAsked ps key ⟨key, o.direction⟩ ∧ o.column = key := by
  obtain ⟨hmisstates, hasked⟩ := requested_eq_ok_iff.mp h
  have hcolumn : o.column = key := hasked.unnamed hps
  rw [← hcolumn] at hasked ⊢
  exact ⟨fun hdir => hmisstates (.inl hdir), hasked, rfl⟩

/-- Where the parameters say nothing about the order, they ask for the ascending key column. -/
theorem asAsked_key_of_silent (hsort : ps.first? "sort" = none) (hdir : ps.first? "dir" = none)
    (key : Identifier) : ¬ ps.MisnamesDirection ∧ AsAsked ps key ⟨key, .ascending⟩ := by
  have hnosort : ∀ text, text ∉ ps.first? "sort" := by
    rw [hsort]
    exact Option.not_mem_none
  have hnodir : ∀ text, text ∉ ps.first? "dir" := by
    rw [hdir]
    exact Option.not_mem_none
  refine ⟨fun ⟨text, htext, _⟩ => hnodir text htext, fun _ => rfl,
    fun text htext => absurd htext (hnosort text), ?_⟩
  exact iff_of_false nofun fun ⟨text, htext, _⟩ => hnodir text htext

/-- Where the parameters name no column, a read is sorted by the key column if it is sorted, and its
rows are numbered by the key column if they are numbered. -/
theorem asAsked_key_of_readOrder {t : Table} (hps : ps.NamesNoColumn) {order : Option SortOrder}
    (h : readOrder ps t = .ok order) :
    ∃ direction, ¬ ps.MisnamesDirection ∧ AsAsked ps t.primaryKey ⟨t.primaryKey, direction⟩ ∧
      order.getD ⟨t.primaryKey, .ascending⟩ = ⟨t.primaryKey, direction⟩ ∧
      order.isSome = ((ps.first? "sort").isSome || (ps.first? "dir").isSome) := by
  rw [readOrder] at h
  split at h
  · rename_i hrequested
    obtain ⟨o, ho, rfl⟩ := exists_of_map_eq_ok h
    obtain ⟨hdir, hasked, hcolumn⟩ := asAsked_key_of_requested hps ho
    refine ⟨o.direction, hdir, hasked, ?_, hrequested.symm⟩
    rw [← hcolumn]
    rfl
  · rename_i hrequested
    cases h
    obtain ⟨hsort, hdir⟩ := isRequested_eq_false_iff.mp (Bool.eq_false_iff.mpr hrequested)
    obtain ⟨hnamed, hasked⟩ := asAsked_key_of_silent hsort hdir t.primaryKey
    refine ⟨.ascending, hnamed, hasked, rfl, ?_⟩
    rw [hsort, hdir]
    rfl

end SortOrder

namespace Action.Planned

variable {d : Dialect} {t : Table} {pageSize : Nat} {ps : Parameters} {st : Statement}
  {range : Option RowRange}

theorem endsInKey_of_update {value : String} {pairs : List (String × String)}
    (h : Planned d t pageSize ps (.update value pairs) st range) :
    st.EndsInKey t.primaryKey value := by
  cases h with
  | update hvalues hstatement => exact Dialect.endsInKey_update hstatement

theorem endsInKey_of_delete {value : String}
    (h : Planned d t pageSize ps (.delete value) st range) : st.EndsInKey t.primaryKey value := by
  cases h with
  | delete hstatement => exact Dialect.endsInKey_delete hstatement

theorem queriedOrder_of_find (hps : ps.NamesNoColumn) {name : String} {arguments : List String}
    (h : Planned d t pageSize ps (.find name arguments) st range) :
    ∃ direction, ¬ ps.MisnamesDirection ∧
      SortOrder.AsAsked ps t.primaryKey ⟨t.primaryKey, direction⟩ ∧
      Sql.queriedOrder st = some ⟨t.primaryKey, direction⟩ := by
  cases h with
  | find horder hfinder =>
    rename_i order
    obtain ⟨hdir, hasked, hcolumn⟩ := SortOrder.asAsked_key_of_requested hps horder
    refine ⟨order.direction, hdir, hasked, ?_⟩
    rw [Dialect.queriedOrder_select, ← hcolumn]
    exact ite_self _

theorem queriedOrder_of_read (hps : ps.NamesNoColumn) {lookup : Option Lookup}
    (h : Planned d t pageSize ps (.read lookup) st range) :
    ∃ direction, ¬ ps.MisnamesDirection ∧
      SortOrder.AsAsked ps t.primaryKey ⟨t.primaryKey, direction⟩ ∧
      Sql.queriedOrder st =
        if (ps.first? "sort").isSome || (ps.first? "dir").isSome || d.numbers then
          some ⟨t.primaryKey, direction⟩ else none := by
  cases h with
  | read hconditions horder =>
    rename_i order
    obtain ⟨direction, hdir, hasked, hnumbered, hsorted⟩ :=
      SortOrder.asAsked_key_of_readOrder hps horder
    refine ⟨direction, hdir, hasked, ?_⟩
    rw [Dialect.queriedOrder_select, Dialect.numbersRows_of_range d rfl, ← hsorted, ← hnumbered]
    cases order <;> cases d.numbers <;> rfl

theorem queriedOrder_of_describe (h : Planned d t pageSize ps .describe st range) :
    Sql.queriedOrder st = if d.numbers then some ⟨t.primaryKey, .ascending⟩ else none := by
  cases h with
  | describe =>
    rw [Dialect.queriedOrder_select, Dialect.numbersRows_of_range d rfl]
    rfl

end Action.Planned

/-! ## Requests -/

namespace Gateway

/-- Whatever the request does by a key column, it does by this one. -/
structure KeyedBy (g : Gateway) (q : Request) (key : Identifier) : Prop where
  /-- a read of the rows with a key value is the read of the rows with this value in the column -/
  read : ∀ value, q.action = .read (some ⟨none, value⟩) →
    g.plan { q with action := .read (some ⟨some key.name, value⟩) } = g.plan q
  /-- a count of the rows with a key value is the count of the rows with this value in the column -/
  count : ∀ value, q.action = .count (some ⟨none, value⟩) →
    g.plan { q with action := .count (some ⟨some key.name, value⟩) } = g.plan q
  /-- an update picks its row by the column -/
  update : ∀ value pairs p, q.action = .update value pairs → g.plan q = .ok p →
    p.statement.EndsInKey key value
  /-- a deletion picks its row by the column -/
  delete : ∀ value p, q.action = .delete value → g.plan q = .ok p → p.statement.EndsInKey key value
  /-- the rows of a finder are in the order of the column, if no other is named, and in the
  direction that is asked for -/
  findOrder : ∀ name arguments p, q.action = .find name arguments → q.parameters.NamesNoColumn →
    g.plan q = .ok p → ∃ direction, ¬ q.parameters.MisnamesDirection ∧
      SortOrder.AsAsked q.parameters key ⟨key, direction⟩ ∧
      Sql.queriedOrder p.statement = some ⟨key, direction⟩
  /-- the rows of a read are in the order of the column, if no other is named, and in the direction
  that is asked for, if anything is said about the order or if they are numbered -/
  readOrder : ∀ lookup p, q.action = .read lookup → q.parameters.NamesNoColumn →
    g.plan q = .ok p → ∃ direction, ¬ q.parameters.MisnamesDirection ∧
      SortOrder.AsAsked q.parameters key ⟨key, direction⟩ ∧
      Sql.queriedOrder p.statement =
        if (q.parameters.first? "sort").isSome || (q.parameters.first? "dir").isSome ||
          p.dialect.numbers then some ⟨key, direction⟩ else none
  /-- a row that shows what the resource looks like is numbered by the column, if it is numbered -/
  describeOrder : ∀ p, q.action = .describe → g.plan q = .ok p →
    Sql.queriedOrder p.statement = if p.dialect.numbers then some ⟨key, .ascending⟩ else none

variable {c : Configuration} {q : Request} {a : AliasConfiguration} {r : Identifier}

/-- A request is keyed by the column that the precedence says. -/
theorem keyedBy_of_keyName (hc : c.validate = .ok ()) {catalog : Catalog}
    (hcatalog : Catalog.ofConfiguration c = .ok catalog) (t : AccessTable)
    (ha : c.alias? q.aliasName = some a) (hr : q.resource = some r.name) {key : Identifier}
    (hkey : key.name = a.keyName r.name q.primaryKey) : KeyedBy ⟨catalog, t⟩ q key := by
  obtain ⟨d, hd⟩ := Configuration.dialect_of_validate hc ha
  obtain ⟨schema, -, htable⟩ :=
    CatalogEntry.table_eq (e := ⟨d, a⟩) (Configuration.defects_of_validate hc ha) r
  have ht : CatalogEntry.table ⟨d, a⟩ r.name q.primaryKey = .ok ⟨schema, r, key⟩ := by
    rw [htable, ← hkey, Identifier.parse_name]
    rfl
  have hlookup : ∀ {action : Action}, action.permission = q.action.permission →
      action.plan d ⟨schema, r, key⟩ c.pageSize q.parameters =
        q.action.plan d ⟨schema, r, key⟩ c.pageSize q.parameters →
      plan ⟨catalog, t⟩ { q with action } = plan ⟨catalog, t⟩ q := by
    intro action hpermission hplan
    -- the same permission on the same resource: both are denied, or both are planned
    have hsame := CatalogEntry.plan_congr_action hr ht hplan
    rw [plan_of_alias hcatalog t ha, plan_of_alias hcatalog t (q := { q with action }) ha,
      AliasConfiguration.answer_eq hd, AliasConfiguration.answer_eq hd, hsame, hpermission]
    rfl
  have hplanned : ∀ p, plan ⟨catalog, t⟩ q = .ok p →
      q.action.Planned p.dialect ⟨schema, r, key⟩ c.pageSize q.parameters p.statement p.range := by
    intro p h
    rw [plan_of_alias hcatalog t ha] at h
    split at h
    · rw [AliasConfiguration.answer_eq hd] at h
      obtain ⟨t', ht', hplanned⟩ := CatalogEntry.table_of_plan hr h
      obtain rfl := Except.ok.inj (ht.symm.trans ht')
      rw [CatalogEntry.plan_of_resource _ _ hr] at h
      obtain ⟨x, -, rfl⟩ := exists_of_map_eq_ok h
      exact hplanned
    · cases h
  refine
    { read := fun value haction => hlookup (by rw [haction]; rfl) ?_
      count := fun value haction => hlookup (by rw [haction]; rfl) ?_
      update := fun value pairs p haction h => (haction ▸ hplanned p h).endsInKey_of_update
      delete := fun value p haction h => (haction ▸ hplanned p h).endsInKey_of_delete
      findOrder := fun name arguments p haction hps h =>
        (haction ▸ hplanned p h).queriedOrder_of_find hps
      readOrder := fun lookup p haction hps h => (haction ▸ hplanned p h).queriedOrder_of_read hps
      describeOrder := fun p haction h => (haction ▸ hplanned p h).queriedOrder_of_describe }
  · rw [haction, Action.plan, Action.plan, Lookup.conditions_key ⟨schema, r, key⟩]
  · rw [haction, Action.plan, Action.plan, Lookup.conditions_key ⟨schema, r, key⟩]

/-- A key column that is no identifier is told so, before the action is looked at. -/
theorem answer_of_flaw (hc : c.validate = .ok ()) {name : String} (ha : c.alias? name = some a)
    (hr : q.resource = some r.name) {column : String} (hcolumn : q.primaryKey = some column)
    {reason : Reason} (hflaw : Identifier.flaw? column = some reason) :
    a.answer c.pageSize q = .error (.invalidRequest reason (some r.name)) := by
  obtain ⟨d, hd⟩ := Configuration.dialect_of_validate hc ha
  obtain ⟨schema, -, htable⟩ :=
    CatalogEntry.table_eq (e := ⟨d, a⟩) (Configuration.defects_of_validate hc ha) r
  have hparse : Identifier.parse column = .error (.request reason) := by
    rw [Identifier.parse, Identifier.read_eq_error_iff.mpr hflaw]
    rfl
  have hnone : CatalogEntry.table ⟨d, a⟩ r.name q.primaryKey = .error (.request reason) := by
    rw [htable, hcolumn]
    show (Identifier.parse column).map _ = _
    rw [hparse]
    rfl
  rw [AliasConfiguration.answer_eq hd, CatalogEntry.plan_of_resource _ _ hr, hnone]
  rfl

/-- A request that names a key column is answered alike whatever is configured for key columns. -/
theorem answer_of_primaryKeys {keys : SortedMap String} (ha : a.defects = [])
    (hkeys : AliasConfiguration.defects { a with primaryKeys := keys } = [])
    (hr : q.resource = some r.name) (hcolumn : q.primaryKey.isSome = true) (pageSize : Nat) :
    AliasConfiguration.answer { a with primaryKeys := keys } pageSize q = a.answer pageSize q := by
  rw [AliasConfiguration.answer, AliasConfiguration.answer]
  show (a.dialect >>= fun d => _) = _
  cases a.dialect with
  | error error => rfl
  | ok d =>
    obtain ⟨schema, hschema, htable⟩ := CatalogEntry.table_eq (e := ⟨d, a⟩) ha r
    obtain ⟨schema', hschema', htable'⟩ :=
      CatalogEntry.table_eq (e := ⟨d, { a with primaryKeys := keys }⟩) hkeys r
    obtain rfl : schema' = schema :=
      Option.map_injective (fun _ _ => Identifier.ext_name) (hschema'.trans hschema.symm)
    obtain ⟨column, hcolumn⟩ := Option.isSome_iff_exists.mp hcolumn
    show CatalogEntry.plan ⟨d, { a with primaryKeys := keys }⟩ pageSize q =
      CatalogEntry.plan ⟨d, a⟩ pageSize q
    rw [CatalogEntry.plan_of_resource _ _ hr, CatalogEntry.plan_of_resource _ _ hr, htable, htable',
      hcolumn]
    rfl

end Gateway

/-- The configuration with other key columns for the tables of an alias. -/
def Configuration.withKeys (c : Configuration) (name : String) (a : AliasConfiguration)
    (keys : SortedMap String) : Configuration :=
  { c with aliases := c.aliases.insert name { a with primaryKeys := keys } }

theorem Configuration.alias?_withKeys (c : Configuration) (name : String) (a : AliasConfiguration)
    (keys : SortedMap String) :
    (c.withKeys name a keys).alias? name = some { a with primaryKeys := keys } := by
  rw [alias?, withKeys, SortedMap.find?_insert, if_pos rfl]

namespace Gateway

variable {c : Configuration} {q : Request} {a : AliasConfiguration} {r : Identifier}

/-- Key columns have nothing to do with permissions. -/
theorem allows_withKeys {g g' : Gateway} {name : String} {keys : SortedMap String}
    (hg : ofConfiguration c = .ok g) (ha : c.alias? name = some a)
    (hg' : ofConfiguration (c.withKeys name a keys) = .ok g') (resource : Option String)
    (p : Permission) :
    g'.access.allows ⟨name, resource⟩ p = g.access.allows ⟨name, resource⟩ p := by
  refine allows_eq_of_stated hg' hg ?_ p
  rw [Configuration.statedPermissions, Configuration.statedPermissions, c.alias?_withKeys, ha]
  rfl

/-- **The precedence of key columns.** On a configured alias and a resource that is an identifier,
under any tables that come into force: a key column that is requested and no identifier is an
invalid request, if the request is granted. Otherwise everything is keyed by the column that the
request names, else by the one configured, else by `id`. And a request that names a key column is
answered alike whatever key columns are configured for the alias. -/
theorem key_precedence {g : Gateway} (hg : ofConfiguration c = .ok g) (history : List Event)
    (ha : c.alias? q.aliasName = some a) (hr : q.resource = some r.name) :
    ((g.after history).access.allows q.scope q.action.permission = true →
      ∀ column reason, q.primaryKey = some column → Identifier.flaw? column = some reason →
        (g.after history).plan q = .error (.invalidRequest reason (some r.name))) ∧
    ((∀ column ∈ q.primaryKey, Identifier.flaw? column = none) →
      ∃ key : Identifier, key.name = a.keyName r.name q.primaryKey ∧
        (g.after history).KeyedBy q key) ∧
    (q.primaryKey.isSome = true →
      ∀ keys g', ofConfiguration (c.withKeys q.aliasName a keys) = .ok g' →
        (g'.after history).plan q = (g.after history).plan q) := by
  obtain ⟨hc, -, hcatalog⟩ := ofConfiguration_eq_ok_iff.mp hg
  have hdefects := Configuration.defects_of_validate hc ha
  refine ⟨?_, ?_, ?_⟩
  · rw [after_eq]
    intro hallows column reason hcolumn hflaw
    rw [plan_of_alias hcatalog _ ha, if_pos hallows]
    exact answer_of_flaw hc ha hr hcolumn hflaw
  · intro hsound
    rw [after_eq]
    have hkey : ∃ key : Identifier, key.name = a.keyName r.name q.primaryKey := by
      cases hcolumn : q.primaryKey with
      | none =>
        obtain ⟨_, key, -, -, hkey⟩ := AliasConfiguration.table_of_defects hdefects r
        exact ⟨key, hkey⟩
      | some column =>
        have hvalid := Identifier.flaw?_eq_none_iff.mp (hsound column hcolumn)
        exact ⟨⟨column, hvalid⟩, rfl⟩
    obtain ⟨key, hkey⟩ := hkey
    exact ⟨key, hkey, keyedBy_of_keyName hc hcatalog _ ha hr hkey⟩
  · intro hcolumn keys g' hg'
    obtain ⟨hc', -, hcatalog'⟩ := ofConfiguration_eq_ok_iff.mp hg'
    have ha' := c.alias?_withKeys q.aliasName a keys
    have hallows : (g'.after history).access.allows q.scope q.action.permission =
        (g.after history).access.allows q.scope q.action.permission := by
      -- the gateways can differ only in the tables that they were opened with
      rw [after_eq, after_eq]
      cases lastTable? history with
      | some access => rfl
      | none => exact allows_withKeys hg ha hg' q.resource q.action.permission
    have hanswer : AliasConfiguration.answer { a with primaryKeys := keys }
        (c.withKeys q.aliasName a keys).pageSize q = a.answer c.pageSize q :=
      answer_of_primaryKeys hdefects (Configuration.defects_of_validate hc' ha') hr hcolumn
        c.pageSize
    rw [after_eq, after_eq] at hallows
    rw [after_eq, after_eq, plan_of_alias hcatalog _ ha, plan_of_alias hcatalog' _ ha', hallows,
      hanswer]

/-- An update by the column that the request names, where another one is configured and where none
is, under a table that came into force after opening. -/
theorem key_precedence_requested :
    let a : AliasConfiguration :=
      { driver := "oracle", schema := some "demo", primaryKeys := .ofList [("cars", "cid")] }
    let c : Configuration := { aliases := .ofList [("demo", a)] }
    let q : Request :=
      { aliasName := "demo", resource := some "cars", action := .update "7" [("model", "x")],
        primaryKey := some "vin" }
    let access := AccessTable.empty.addRule ⟨⟨"demo", none⟩, .ofList [.update]⟩
    let history : List Event := [.reload access]
    let p : Plan :=
      ⟨.oracle, ⟨"UPDATE demo.cars SET cars.model=? WHERE cars.vin=?", ["x", "7"]⟩, none⟩
    ∃ g g', ofConfiguration c = .ok g ∧ ofConfiguration (c.withKeys "demo" a .empty) = .ok g' ∧
      (g.after history).plan q = .ok p ∧ p.statement.EndsInKey ⟨"vin", by decide⟩ "7" ∧
      (g'.after history).plan q = .ok p := by
  intro a c q access history p
  have hdefects : c.defects = [] ∧ (c.withKeys "demo" a .empty).defects = [] := by decide +kernel
  obtain ⟨g, hg⟩ := exists_gateway (Configuration.validate_eq_ok_iff.mpr hdefects.1)
  obtain ⟨g', hg'⟩ := exists_gateway (Configuration.validate_eq_ok_iff.mpr hdefects.2)
  have hplan : (g.after history).plan q = .ok p := by
    have hread : (ofConfiguration c >>= fun g => (g.after history).plan q) = .ok p :=
      eq_ok_of_toOption (by decide +kernel)
    rwa [hg] at hread
  have ha : c.alias? q.aliasName = some a := rfl
  obtain ⟨-, hkeyed, hindependent⟩ :=
    key_precedence (r := ⟨"cars", by decide⟩) hg history ha rfl
  obtain ⟨key, hname, hkey⟩ := hkeyed (by decide)
  obtain rfl : key = ⟨"vin", by decide⟩ := Identifier.ext_name hname
  exact ⟨_, _, hg, hg', hplan, hkey.update "7" _ p rfl hplan,
    (hindependent rfl .empty _ hg').trans hplan⟩

end Gateway

end TableGateway

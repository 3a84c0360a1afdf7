import TableGateway.Proofs.Gateway.Isolation
import TableGateway.Proofs.Gateway.Planning
import TableGateway.Proofs.Sql.Composition

/-!
# Switching the driver

The dialects differ in the SQL that they write, in nothing else. What is left of a plan without its
SQL are its bindings: the parameters and the stretch of rows (`Plan.bindings`). Computations of
plans are compared by the bindings of their results, so that

  `x.map Plan.bindings = y.map Plan.bindings`

says that `x` and `y` fail with the same error or come out with the same bindings.

* `Dialect.BindAlike` says of two dialects that they bind the same values in all statements and
  refuse the same ones; `Dialect.bindAlike` that this holds of any two.
* `CatalogEntry.bindings_plan` carries it over to plans.
* `Gateway.switch_driver` is about two configurations that differ in nothing but drivers.
-/

namespace TableGateway

/-! ## Statements -/

namespace Dialect

/-- Two dialects bind the same values in statements of every kind, and refuse the same statements
for the same reason. -/
structure BindAlike (d d' : Dialect) : Prop where
  select : ∀ s, (d.select s).params = (d'.select s).params
  count : ∀ s, (d.count s).params = (d'.count s).params
  find : ∀ (f : Finder) range order,
    (d.select (f.paged range order)).params = (d'.select (f.paged range order)).params
  insert : ∀ i, (d.insert i).map Statement.params = (d'.insert i).map Statement.params
  update : ∀ u, (d.update u).map Statement.params = (d'.update u).map Statement.params
  delete : ∀ x, (d.delete x).map Statement.params = (d'.delete x).map Statement.params
  call : ∀ c, (d.call c).params = (d'.call c).params
  listTables : d.listTables.params = d'.listTables.params

theorem params_select (d : Dialect) (s : Selection) :
    (d.select s).params = s.conditions.flatMap Condition.values :=
  (composes_selectPieces d s).params_eq

theorem params_count (d : Dialect) (s : Selection) :
    (d.count s).params = s.conditions.flatMap Condition.values :=
  (composes_countPieces d s).params_eq

/-- An insertion binds the values of the row. -/
theorem params_insert (d : Dialect) (i : Insertion) :
    (d.insert i).map Statement.params =
      if i.values.isEmpty then .error (incomplete i.table .emptyInsert)
      else .ok i.values.values := by
  rw [insert]
  split
  · rfl
  · exact congrArg Except.ok (composes_insertPieces d i.table i.values).params_eq

/-- An update binds the new values, then the one that its row is picked by. -/
theorem params_update (d : Dialect) (u : Update) :
    (d.update u).map Statement.params =
      if u.values.isEmpty then .error (incomplete u.table .emptyUpdate)
      else
        match u.usableKey with
        | none => .error (incomplete u.table (.missingKey u.table.primaryKey.name))
        | some key => .ok (u.values.values ++ [key]) := by
  rw [update]
  split
  · rfl
  · cases u.usableKey with
    | none => rfl
    | some key => exact congrArg Except.ok (composes_updatePieces d u.table u.values key).params_eq

/-- A deletion binds the value that its row is picked by. -/
theorem params_delete (d : Dialect) (x : Deletion) :
    (d.delete x).map Statement.params =
      match x.usableKey with
      | none => .error (incomplete x.table (.missingKey x.table.primaryKey.name))
      | some key => .ok [key] := by
  rw [delete]
  cases x.usableKey with
  | none => rfl
  | some key => exact congrArg Except.ok (composes_deletePieces d x.table key).params_eq

/-- No dialect has a say in what is bound. -/
theorem bindAlike (d d' : Dialect) : d.BindAlike d' where
  select s := by rw [params_select, params_select]
  count s := by rw [params_count, params_count]
  find f range order := by rw [params_select, params_select]
  insert i := by rw [params_insert, params_insert]
  update u := by rw [params_update, params_update]
  delete x := by rw [params_delete, params_delete]
  call _ := rfl
  listTables := rfl

end Dialect

/-! ## Plans -/

/-- What is bound to run a plan: the parameters of the statement, and the stretch of rows. -/
def Plan.bindings (p : Plan) : List String × Option RowRange := (p.statement.params, p.range)

/-- The bindings of a planned statement, before it is put in a plan. -/
def Action.bindings (planned : Statement × Option RowRange) : List String × Option RowRange :=
  (planned.1.params, planned.2)

section

variable {ε α β γ : Type}

/-- A step that two computations have in common. -/
theorem map_bind_congr {x : Except ε α} {k k' : α → Except ε β} {view : β → γ}
    (h : ∀ a, (k a).map view = (k' a).map view) : (x >>= k).map view = (x >>= k').map view := by
  cases x with
  | error e => rfl
  | ok a => exact h a

/-- Renaming errors does nothing to what comes out. -/
theorem map_mapError {ε' : Type} (x : Except ε α) (f : ε → ε') (view : α → β) :
    (x.mapError f).map view = (x.map view).mapError f := by
  cases x <;> rfl

theorem map_map (x : Except ε α) (f : α → β) (view : β → γ) :
    (x.map f).map view = x.map (view ∘ f) := by
  cases x <;> rfl

end

namespace Action

/-- Reads that bind the same values have the same bindings, in the same stretch of rows. -/
theorem bindings_read {st st' : Statement} (h : st.params = st'.params) (range : Option RowRange) :
    (Except.ok (st, range) : Except Error _).map bindings = (Except.ok (st', range)).map bindings :=
  congrArg (fun vs => Except.ok (vs, range)) h

/-- A change has no stretch of rows beside its parameters. -/
theorem bindings_change {x y : Except Error Statement}
    (h : x.map Statement.params = y.map Statement.params) :
    (x >>= fun st => .ok (st, none)).map bindings =
      (y >>= fun st => .ok (st, none)).map bindings := by
  have hparams : ∀ z : Except Error Statement,
      (z >>= fun st => .ok (st, none)).map bindings = (z.map Statement.params).map (·, none) := by
    rintro (e | st) <;> rfl
  rw [hparams, hparams, h]

/-- What an action binds on a table is the same in all dialects. -/
theorem bindings_plan (d d' : Dialect) (t : Table) (pageSize : Nat) (ps : Parameters)
    (action : Action) :
    (action.plan d t pageSize ps).map bindings = (action.plan d' t pageSize ps).map bindings := by
  have alike := d.bindAlike d'
  cases action with
  | describe => exact bindings_read (alike.select _) _
  | read lookup =>
    exact map_bind_congr fun conditions => map_bind_congr fun order =>
      bindings_read (alike.select _) _
  | count lookup => exact map_bind_congr fun conditions => bindings_read (alike.count _) _
  | find name arguments =>
    exact map_bind_congr fun order => map_bind_congr fun f => bindings_read (alike.find f _ order) _
  | insert values => exact map_bind_congr fun values => bindings_change (alike.insert _)
  | update key values => exact map_bind_congr fun values => bindings_change (alike.update _)
  | delete key => exact bindings_change (alike.delete _)
  | call procedure arguments => rfl

end Action

namespace AliasConfiguration

/-- The two aliases differ in nothing but their drivers. -/
def SameButDriver (a a' : AliasConfiguration) : Prop := a' = { a with driver := a'.driver }

variable {a a' : AliasConfiguration}

theorem SameButDriver.statedPermissions_eq (h : a.SameButDriver a') (resource : Option String) :
    a.statedPermissions resource = a'.statedPermissions resource := by
  rw [h]
  rfl

/-- The driver has nothing to do with the table of a request. -/
theorem SameButDriver.table_eq (h : a.SameButDriver a') (d d' : Dialect) (resource : String)
    (primaryKey : Option String) :
    CatalogEntry.table ⟨d, a⟩ resource primaryKey =
      CatalogEntry.table ⟨d', a'⟩ resource primaryKey := by
  rw [h]
  rfl

end AliasConfiguration

namespace CatalogEntry

/-- A request on the alias as a whole binds the same values in all dialects. -/
theorem bindings_planAlias (e e' : CatalogEntry) (action : Action) :
    (e.planAlias action).map Action.bindings = (e'.planAlias action).map Action.bindings := by
  cases action with
  | call procedure arguments =>
    show ((ProcedureCall.build procedure arguments).map _).map _ =
      ((ProcedureCall.build procedure arguments).map _).map _
    rw [map_map, map_map]
    rfl
  | _ => rfl

/-- The bindings of a request on a resource, before errors name the resource. -/
theorem bindings_plan_of_resource (e : CatalogEntry) (pageSize : Nat) {q : Request} {r : String}
    (hresource : q.resource = some r) :
    (e.plan pageSize q).map Plan.bindings = (((e.table r q.primaryKey >>= fun t =>
      q.action.plan e.dialect t pageSize q.parameters).map Action.bindings).mapError
        (Error.onResource r)) := by
  rw [plan_of_resource e pageSize hresource, map_map, ← map_mapError]
  rfl

/-- The bindings of a request on the alias as a whole. -/
theorem bindings_plan_of_alias (e : CatalogEntry) (pageSize : Nat) {q : Request}
    (hresource : q.resource = none) :
    (e.plan pageSize q).map Plan.bindings = (e.planAlias q.action).map Action.bindings := by
  rw [plan, hresource]
  show (e.planAlias q.action >>= _).map _ = _
  cases e.planAlias q.action <;> rfl

/-- Plans of one request for two aliases have the same bindings if the aliases differ in nothing but
their drivers. -/
theorem bindings_plan {a a' : AliasConfiguration} (h : a.SameButDriver a') (d d' : Dialect)
    (pageSize : Nat) (q : Request) :
    (plan ⟨d, a⟩ pageSize q).map Plan.bindings = (plan ⟨d', a'⟩ pageSize q).map Plan.bindings := by
  cases hresource : q.resource with
  | none =>
    rw [bindings_plan_of_alias _ _ hresource, bindings_plan_of_alias _ _ hresource]
    exact bindings_planAlias _ _ _
  | some r =>
    have hplanned : ∀ t, (q.action.plan d t pageSize q.parameters).map Action.bindings =
        (q.action.plan d' t pageSize q.parameters).map Action.bindings := fun t =>
      Action.bindings_plan d d' t pageSize q.parameters q.action
    rw [bindings_plan_of_resource _ _ hresource, bindings_plan_of_resource _ _ hresource,
      h.table_eq d d' r q.primaryKey, map_bind_congr hplanned]

end CatalogEntry

/-! ## Gateways -/

/-- The configurations have the same aliases, which differ in nothing but their drivers. -/
structure Configuration.SameButDrivers (c c' : Configuration) : Prop where
  /-- the page size is the same -/
  pageSize : c.pageSize = c'.pageSize
  /-- an alias is configured in both or in neither -/
  aliases : ∀ name, Option.Rel AliasConfiguration.SameButDriver (c.alias? name) (c'.alias? name)

variable {c c' : Configuration}

/-- An alias can be given another driver. -/
theorem Configuration.sameButDrivers_insert {name : String} {a : AliasConfiguration}
    (ha : c.alias? name = some a) (driver : String) :
    c.SameButDrivers { c with aliases := c.aliases.insert name { a with driver } } where
  pageSize := rfl
  aliases other := by
    show Option.Rel _ _ ((c.aliases.insert name { a with driver }).find? other)
    rw [SortedMap.find?_insert]
    split
    · rename_i h
      rw [← h, ha]
      exact .some rfl
    · show Option.Rel _ (c.alias? other) (c.alias? other)
      cases c.alias? other with
      | none => exact .none
      | some b => exact .some rfl

/-- Drivers have nothing to do with permissions. -/
theorem Configuration.SameButDrivers.statedPermissions_eq (h : c.SameButDrivers c') (name : String)
    (resource : Option String) :
    c.statedPermissions name resource = c'.statedPermissions name resource := by
  have halias := h.aliases name
  rw [statedPermissions, statedPermissions]
  generalize c.alias? name = entry at halias
  generalize c'.alias? name = entry' at halias
  cases halias with
  | none => rfl
  | some ha => exact ha.statedPermissions_eq resource

namespace Gateway

/-- What is answered to a request that is granted has the same bindings. -/
theorem bindings_answer (hc : c.validate = .ok ()) (hc' : c'.validate = .ok ())
    (h : c.SameButDrivers c') (q : Request) :
    Option.Rel
      (fun a a' => (a.answer c.pageSize q).map Plan.bindings =
        (a'.answer c'.pageSize q).map Plan.bindings)
      (c.alias? q.aliasName) (c'.alias? q.aliasName) := by
  have halias := h.aliases q.aliasName
  generalize hentry : c.alias? q.aliasName = entry at halias
  generalize hentry' : c'.alias? q.aliasName = entry' at halias
  cases halias with
  | none => exact .none
  | some ha =>
    refine .some ?_
    obtain ⟨d, hd⟩ := Configuration.dialect_of_validate hc hentry
    obtain ⟨d', hd'⟩ := Configuration.dialect_of_validate hc' hentry'
    rw [AliasConfiguration.answer_eq hd, AliasConfiguration.answer_eq hd', h.pageSize]
    exact CatalogEntry.bindings_plan ha d d' c'.pageSize q

/-- **Switching drivers changes nothing but the SQL.** Gateways can be opened from any two accepted
configurations that differ in nothing but drivers. They answer every request with the same error, or
with plans that have the same parameters and the same stretch of rows, at first and after the same
history. And any two dialects, on any statement, bind the same values or refuse it for the same
reason. -/
theorem switch_driver :
    (∀ c c' : Configuration, c.validate = .ok () → c'.validate = .ok () → c.SameButDrivers c' →
      ∃ g g', ofConfiguration c = .ok g ∧ ofConfiguration c' = .ok g' ∧ ∀ history q,
        ((g.after history).plan q).map Plan.bindings =
          ((g'.after history).plan q).map Plan.bindings) ∧
    ∀ d d' : Dialect, d.BindAlike d' := by
  refine ⟨fun c c' hc hc' h => ?_, Dialect.bindAlike⟩
  obtain ⟨g, hg⟩ := exists_gateway hc
  obtain ⟨g', hg'⟩ := exists_gateway hc'
  refine ⟨g, g', hg, hg', fun history q => ?_⟩
  exact map_plan_eq hg hg' (h.statedPermissions_eq q.aliasName q.resource)
    (bindings_answer hc hc' h q) history

/-- A page of rows, which is a read inside a read for one driver and ends in a clause for another,
where a value is put in lower case for one driver and not for the other. -/
theorem switch_driver_paged :
    let a : AliasConfiguration := { driver := "oracle", schema := some "demo", rule := some "READ" }
    let c : Configuration := { aliases := .ofList [("demo", a)] }
    let c' : Configuration :=
      { c with aliases := c.aliases.insert "demo" { a with driver := "postgres" } }
    let q : Request :=
      { aliasName := "demo", resource := some "cars"
        action := .find "findAllByModelILikeAndYearBetween" ["v%", "1990", "2000"]
        parameters := ⟨[("page", "2"), ("size", "10")]⟩ }
    let vs := ["v%", "1990", "2000"]
    let sql :=
      "SELECT * FROM ( SELECT ROW_NUMBER() OVER ( ORDER BY cars.id ASC ) AS ROW_NUMBER, cars.* " ++
      "FROM demo.cars WHERE LOWER(cars.model) LIKE LOWER(?) AND cars.year BETWEEN ? AND ? ) " ++
      "WHERE ROW_NUMBER BETWEEN 11 AND 20"
    let p : Plan := ⟨.oracle, ⟨sql, vs⟩, some (.clamp 10 10)⟩
    c.validate = .ok () ∧ c'.validate = .ok () ∧ c.SameButDrivers c' ∧
      ∃ g g', ofConfiguration c = .ok g ∧ ofConfiguration c' = .ok g' ∧ g.plan q = .ok p ∧
        (g'.plan q).map Plan.bindings = .ok (vs, some (.clamp 10 10)) := by
  intro a c c' q vs sql p
  have hdefects : c.defects = [] ∧ c'.defects = [] := by decide +kernel
  have hc : c.validate = .ok () := Configuration.validate_eq_ok_iff.mpr hdefects.1
  have hc' : c'.validate = .ok () := Configuration.validate_eq_ok_iff.mpr hdefects.2
  have ha : c.alias? "demo" = some a := rfl
  have hsame : c.SameButDrivers c' := Configuration.sameButDrivers_insert ha "postgres"
  obtain ⟨g, g', hg, hg', hplan⟩ := switch_driver.1 c c' hc hc' hsame
  have hread : (ofConfiguration c >>= fun g => g.plan q) = .ok p :=
    eq_ok_of_toOption (by decide +kernel)
  rw [hg] at hread
  refine ⟨hc, hc', hsame, g, g', hg, hg', hread, ?_⟩
  exact (hplan [] q).symm.trans (congrArg (Except.map Plan.bindings) hread)

end Gateway

end TableGateway

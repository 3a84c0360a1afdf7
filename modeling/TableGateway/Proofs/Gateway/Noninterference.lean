import TableGateway.Gateway
import TableGateway.Proofs.Sql.Substitution

/-!
# Values do not influence statements

Two requests that ask for the same with other values get the same SQL. This is a statement about two
runs of the gateway, and it is reduced to one about a single run: putting a function on all values
of a request does nothing to its plan but put the same function on the parameters
(`Gateway.plan_mapValues`). Requests that differ in values alone become one and the same when every
value is replaced by one fixed text, and so do their plans.

Two kinds of values are looked at before they are bound, since they are refused when they are empty:
that of a lookup and that of a key. `Action.Usable` says that they are not.
-/

namespace TableGateway

variable (f : String → String)

/-! ## Requests with other values -/

/-- The lookup of another value. -/
def Lookup.mapValue (l : Lookup) : Lookup := { l with value := f l.value }

/-- The action with other values. -/
def Action.mapValues : Action → Action
  | describe => describe
  | read lookup => read (lookup.map (·.mapValue f))
  | find name arguments => find name (arguments.map f)
  | count lookup => count (lookup.map (·.mapValue f))
  | insert values => insert (values.map fun p => (p.1, f p.2))
  | update key values => update (f key) (values.map fun p => (p.1, f p.2))
  | delete key => delete (f key)
  | call procedure arguments => call procedure (arguments.map f)

/-- The request with other values in its action. -/
def Request.mapValues (q : Request) : Request := { q with action := q.action.mapValues f }

/-- The plan with other parameters. -/
def Plan.mapValues (p : Plan) : Plan := { p with statement := p.statement.mapValues f }

/-- No value of the action is refused: a lookup is for a text that is not empty, and a key value has
a character that is not blank. -/
def Action.Usable : Action → Prop
  | read lookup | count lookup => ∀ l ∈ lookup, l.value ≠ ""
  | update key _ | delete key => ∃ c ∈ key.toList, Text.isBlank c = false
  | _ => True

/-- The two actions ask for the same, possibly with other values. -/
inductive Action.Alike : Action → Action → Prop where
  | describe : Alike .describe .describe
  | read {l l' : Option Lookup} (h : l.map Lookup.column = l'.map Lookup.column) :
    Alike (.read l) (.read l')
  | find (name : String) {as bs : List String} (h : as.length = bs.length) :
    Alike (.find name as) (.find name bs)
  | count {l l' : Option Lookup} (h : l.map Lookup.column = l'.map Lookup.column) :
    Alike (.count l) (.count l')
  | insert {as bs : List (String × String)} (h : as.map Prod.fst = bs.map Prod.fst) :
    Alike (.insert as) (.insert bs)
  | update (key key' : String) {as bs : List (String × String)}
    (h : as.map Prod.fst = bs.map Prod.fst) : Alike (.update key as) (.update key' bs)
  | delete (key key' : String) : Alike (.delete key) (.delete key')
  | call (procedure : String) {as bs : List String} (h : as.length = bs.length) :
    Alike (.call procedure as) (.call procedure bs)

/-- The two requests ask for the same, possibly with other values. -/
structure Request.Alike (q q' : Request) : Prop where
  aliasName : q.aliasName = q'.aliasName
  resource : q.resource = q'.resource
  action : q.action.Alike q'.action
  parameters : q.parameters = q'.parameters
  primaryKey : q.primaryKey = q'.primaryKey

/-! ## Planning with other values -/

/-- Steps one after the other, of which the second goes on with what the first has changed. -/
theorem map_bind_eq {ε α α' β β' : Type} {x : Except ε α} {u : α → α'} {k : α' → Except ε β'}
    {k' : α → Except ε β} {v : β → β'} (h : ∀ a, k (u a) = (k' a).map v) :
    (x.map u >>= k) = (x >>= k').map v := by
  cases x with
  | error e => rfl
  | ok a => exact h a

theorem Condition.build_map (column : String) (op : Operator) (vs : List String) :
    Condition.build column op (vs.map f) = (Condition.build column op vs).map (·.mapValues f) := by
  by_cases hop : op.arity = .boolean
  · rw [build, build, dif_pos hop, dif_pos hop]
    rfl
  by_cases hcount : vs.length = op.valueCount
  · have hfcount : (vs.map f).length = op.valueCount := (List.length_map f).trans hcount
    rw [build, build, dif_neg hop, dif_neg hop, dif_pos hcount, dif_pos hfcount]
    cases Identifier.parse column <;> rfl
  · have hfcount : ¬ (vs.map f).length = op.valueCount := by rwa [List.length_map]
    rw [build, build, dif_neg hop, dif_neg hop, dif_neg hcount, dif_neg hfcount, List.length_map]
    rfl

theorem Lookup.conditions_mapValue (t : Table) {lookup : Option Lookup}
    (hvalue : ∀ l ∈ lookup, l.value ≠ "")
    (hfvalue : ∀ l ∈ lookup.map (·.mapValue f), l.value ≠ "") :
    Lookup.conditions t (lookup.map (·.mapValue f)) =
      (Lookup.conditions t lookup).map (List.map (·.mapValues f)) := by
  cases lookup with
  | none => rfl
  | some l =>
    have hl := hvalue l rfl
    have hfl := hfvalue (l.mapValue f) rfl
    obtain ⟨column, value⟩ := l
    rw [Option.map_some, conditions, conditions, if_neg hl, if_neg hfl]
    cases column with
    | none => rfl
    | some column =>
      show (Identifier.parse column).map _ = ((Identifier.parse column).map _).map _
      cases Identifier.parse column <;> rfl

namespace Finder

/-- The finder with other values in its conditions. -/
def mapValues (x : Finder) : Finder := { x with selection := x.selection.mapValues f }

/-- Clauses take as many arguments as before, whatever these are. -/
theorem conditions_map (name : String) (clauses : List (List String)) (args : List String) :
    conditions name clauses (args.map f) =
      (conditions name clauses args).map fun r => (r.1.map (·.mapValues f), r.2.map f) := by
  induction clauses generalizing args with
  | nil => rfl
  | cons words rest ih =>
    rw [conditions, conditions]
    dsimp only
    -- every test before the condition is built looks at the number of arguments alone
    rw [List.length_map]
    split
    · rfl
    split
    · rfl
    split
    · rfl
    · rw [← List.map_take, ← List.map_drop, Condition.build_map, ih]
      refine map_bind_eq fun c => map_bind_eq fun r => ?_
      rfl

theorem allConditions_map (name : String) (words args : List String) :
    allConditions name words (args.map f) =
      (allConditions name words args).map (List.map (·.mapValues f)) := by
  rw [allConditions, allConditions]
  split
  · rfl
  · rw [conditions_map]
    refine map_bind_eq ?_
    rintro ⟨found, left⟩
    dsimp only
    rw [List.isEmpty_map]
    split
    · rfl
    · rfl

theorem decode_map (t : Table) (name : String) (args : List String) :
    decode t name (args.map f) = (decode t name args).map (·.mapValues f) := by
  rw [decode, decode]
  split
  · rfl
  split
  · rw [allConditions_map]
    cases allConditions name _ args <;> rfl
  · rfl

theorem parse_map (t : Table) (name : String) (args : List String) :
    Finder.parse t name (args.map f) = (Finder.parse t name args).map (·.mapValues f) := by
  rw [parse, parse, decode_map]
  cases decode t name args <;> rfl

end Finder

theorem OrderedMap.setEntry_map {κ α β : Type} [DecidableEq κ] (f : α → β) (key : κ) (value : α)
    (es : List (κ × α)) :
    setEntry key (f value) (es.map fun e => (e.1, f e.2)) =
      (setEntry key value es).map fun e => (e.1, f e.2) := by
  induction es with
  | nil => rfl
  | cons e es ih =>
    obtain ⟨k, v⟩ := e
    rw [List.map_cons, setEntry, setEntry]
    split
    · rfl
    · rw [ih, List.map_cons]

/-- Whether a column is new does not depend on values. -/
theorem OrderedMap.set_mapValues {κ α β : Type} [DecidableEq κ] (f : α → β) (m : OrderedMap κ α)
    (key : κ) (value : α) :
    (m.mapValues f).set key (f value) = (m.set key value).mapValues f := by
  have hentries := setEntry_map f key value m.entries
  rw [set, set]
  unfold mapValues
  congr 1

namespace Assignments

/-- Setting a column is refused for its name alone. -/
theorem assign_mapValues (a : Assignments) (column value : String) :
    assign (a.mapValues f) column (f value) =
      (assign a column value).map (OrderedMap.mapValues f) := by
  rw [assign, assign]
  cases Identifier.parse column with
  | error e => rfl
  | ok c => exact congrArg Except.ok (OrderedMap.set_mapValues f a c value)

theorem foldlM_assign_mapValues (pairs : List (String × String)) (a : Assignments) :
    (pairs.map fun p => (p.1, f p.2)).foldlM (fun a p => assign a p.1 p.2) (a.mapValues f) =
      (pairs.foldlM (fun a p => assign a p.1 p.2) a).map (OrderedMap.mapValues f) := by
  induction pairs generalizing a with
  | nil => rfl
  | cons p pairs ih =>
    rw [List.map_cons, List.foldlM_cons, List.foldlM_cons, assign_mapValues]
    exact map_bind_eq ih

theorem ofPairs_map (pairs : List (String × String)) :
    ofPairs (pairs.map fun p => (p.1, f p.2)) = (ofPairs pairs).map (OrderedMap.mapValues f) :=
  foldlM_assign_mapValues f pairs OrderedMap.empty

end Assignments

/-- What is planned on a table for other values differs in the parameters alone. -/
theorem Action.plan_mapValues (d : Dialect) (t : Table) (pageSize : Nat) (ps : Parameters)
    {a : Action} (husable : a.Usable) (hfusable : (a.mapValues f).Usable) :
    (a.mapValues f).plan d t pageSize ps =
      (a.plan d t pageSize ps).map fun r => (r.1.mapValues f, r.2) := by
  have hread : ∀ (s : Selection) (range : Option RowRange),
      (Except.ok (d.select (s.mapValues f), range) : Except Error (Statement × Option RowRange)) =
        (Except.ok (d.select s, range)).map fun r => (r.1.mapValues f, r.2) := by
    intro s range
    exact congrArg (fun st => Except.ok (st, range)) (Dialect.select_mapValues f d s)
  cases a with
  | describe => exact hread { table := t, range := some (RowRange.clamp 1 0) } _
  | read lookup =>
    rw [mapValues, plan, plan, Lookup.conditions_mapValue f t husable hfusable]
    refine map_bind_eq fun conditions => ?_
    cases readOrder ps t with
    | error e => rfl
    | ok order =>
      exact hread
        { table := t, conditions, range := some (RowRange.requestedPage ps pageSize), order } _
  | count lookup =>
    rw [mapValues, plan, plan, Lookup.conditions_mapValue f t husable hfusable]
    refine map_bind_eq fun conditions => ?_
    have hcount := Dialect.count_mapValues f d { table := t, conditions }
    exact congrArg (fun st => Except.ok (st, none)) hcount
  | find name arguments =>
    rw [mapValues, plan, plan, Finder.parse_map]
    cases SortOrder.requested ps (.ok t.primaryKey) with
    | error e => rfl
    | ok order =>
      refine map_bind_eq fun x => ?_
      exact hread (x.paged (RowRange.requestedPage ps pageSize) order) _
  | insert values =>
    rw [mapValues, plan, plan, Assignments.ofPairs_map]
    refine map_bind_eq fun values => ?_
    rw [Dialect.insert_mapValues]
    exact map_bind_eq fun st => rfl
  | update key values =>
    rw [mapValues, plan, plan, Assignments.ofPairs_map]
    refine map_bind_eq fun values => ?_
    rw [Dialect.update_mapValues f d t values husable hfusable]
    exact map_bind_eq fun st => rfl
  | delete key =>
    rw [mapValues, plan, plan, Dialect.delete_mapValues f d t husable hfusable]
    exact map_bind_eq fun st => rfl
  | call procedure arguments => rfl

namespace CatalogEntry

theorem planAlias_mapValues (e : CatalogEntry) (a : Action) :
    e.planAlias (a.mapValues f) = (e.planAlias a).map fun r => (r.1.mapValues f, r.2) := by
  cases a with
  | call procedure arguments =>
    rw [Action.mapValues, planAlias, planAlias, ProcedureCall.build, ProcedureCall.build]
    cases Identifier.parse procedure with
    | error e => rfl
    | ok i => exact congrArg (Except.ok <| Prod.mk · _) (e.dialect.call_mapValues f i arguments)
  | _ => rfl

theorem planResource_mapValues (e : CatalogEntry) (pageSize : Nat) (r : String) {q : Request}
    (husable : q.action.Usable) (hfusable : (q.action.mapValues f).Usable) :
    e.planResource pageSize r (q.mapValues f) =
      (e.planResource pageSize r q).map fun r => (r.1.mapValues f, r.2) := by
  -- the table is found by the name and the key of the request, which are the same for both
  show (e.table r q.primaryKey >>= fun t =>
    (q.action.mapValues f).plan e.dialect t pageSize q.parameters) = _
  rw [planResource]
  cases e.table r q.primaryKey with
  | error e => rfl
  | ok t => exact Action.plan_mapValues f e.dialect t pageSize q.parameters husable hfusable

theorem plan_mapValues (e : CatalogEntry) (pageSize : Nat) {q : Request}
    (husable : q.action.Usable) (hfusable : (q.action.mapValues f).Usable) :
    e.plan pageSize (q.mapValues f) = (e.plan pageSize q).map (·.mapValues f) := by
  have hresource : (q.mapValues f).resource = q.resource := rfl
  rw [plan, plan, hresource]
  cases q.resource with
  | none =>
    show (e.planAlias (q.action.mapValues f) >>= _) = _
    rw [planAlias_mapValues]
    exact map_bind_eq fun r => rfl
  | some r =>
    dsimp only
    rw [e.planResource_mapValues f pageSize r husable hfusable]
    cases e.planResource pageSize r q <;> rfl

end CatalogEntry

namespace Gateway

/-- The plan of a request for other values differs in the parameters alone. -/
theorem plan_mapValues (g : Gateway) {q : Request} (husable : q.action.Usable)
    (hfusable : (q.action.mapValues f).Usable) :
    g.plan (q.mapValues f) = (g.plan q).map (·.mapValues f) := by
  have hpermission : (q.action.mapValues f).permission = q.action.permission := by
    cases q.action <;> rfl
  have hauthorize : g.authorize (q.mapValues f) = g.authorize q := by
    have haction : (q.mapValues f).action = q.action.mapValues f := rfl
    rw [authorize, authorize, haction, hpermission]
    rfl
  have halias : (q.mapValues f).aliasName = q.aliasName := rfl
  rw [plan, plan, halias, hauthorize]
  cases g.entry q.aliasName with
  | error e => rfl
  | ok e =>
    cases g.authorize q with
    | error e => rfl
    | ok _ => exact e.plan_mapValues f g.catalog.pageSize husable hfusable

end Gateway

/-! ## Two requests -/

/-- One fixed text in the place of every value, which is refused nowhere. -/
def maskedValue (_ : String) : String := "x"

theorem map_maskedValue {as bs : List String} (h : as.length = bs.length) :
    as.map maskedValue = bs.map maskedValue := by
  have hconst : ∀ cs : List String, cs.map maskedValue = List.replicate cs.length "x" :=
    fun _ => List.map_const'
  rw [hconst, hconst, h]

theorem map_pair_maskedValue {as bs : List (String × String)}
    (h : as.map Prod.fst = bs.map Prod.fst) :
    (as.map fun p => (p.1, maskedValue p.2)) = bs.map fun p => (p.1, maskedValue p.2) := by
  have hfirst : ∀ cs : List (String × String),
      (cs.map fun p => (p.1, maskedValue p.2)) = (cs.map Prod.fst).map fun c => (c, "x") := by
    intro cs
    rw [List.map_map]
    rfl
  rw [hfirst, hfirst, h]

theorem map_lookup_maskedValue {l l' : Option Lookup}
    (h : l.map Lookup.column = l'.map Lookup.column) :
    l.map (·.mapValue maskedValue) = l'.map (·.mapValue maskedValue) := by
  have hcolumn : ∀ x : Option Lookup,
      x.map (·.mapValue maskedValue) = (x.map Lookup.column).map fun c => ⟨c, "x"⟩ := by
    intro x
    cases x <;> rfl
  rw [hcolumn, hcolumn, h]

namespace Action

/-- Actions that ask for the same cannot be told apart when their values are masked. -/
theorem Alike.mapValues_eq {a b : Action} (h : a.Alike b) :
    a.mapValues maskedValue = b.mapValues maskedValue := by
  cases h with
  | describe => rfl
  | read h => exact congrArg Action.read (map_lookup_maskedValue h)
  | find name h => exact congrArg (Action.find name) (map_maskedValue h)
  | count h => exact congrArg Action.count (map_lookup_maskedValue h)
  | insert h => exact congrArg Action.insert (map_pair_maskedValue h)
  | update key key' h => exact congrArg (Action.update "x") (map_pair_maskedValue h)
  | delete key key' => rfl
  | call procedure h => exact congrArg (Action.call procedure) (map_maskedValue h)

theorem usable_maskedValue (a : Action) : (a.mapValues maskedValue).Usable := by
  have hlookup : ∀ (lookup : Option Lookup), ∀ l ∈ lookup.map (·.mapValue maskedValue),
      l.value ≠ "" := by
    intro lookup l hl
    obtain ⟨l', -, rfl⟩ := Option.map_eq_some_iff.mp hl
    exact (by decide : "x" ≠ "")
  have hkey : ∃ c ∈ "x".toList, Text.isBlank c = false := ⟨'x', by decide, by decide⟩
  cases a with
  | read lookup => exact hlookup lookup
  | count lookup => exact hlookup lookup
  | update key values => exact hkey
  | delete key => exact hkey
  | describe => trivial
  | find name arguments => trivial
  | insert values => trivial
  | call procedure arguments => trivial

end Action

theorem Request.Alike.mapValues_eq {q q' : Request} (h : q.Alike q') :
    q.mapValues maskedValue = q'.mapValues maskedValue := by
  rw [mapValues, mapValues, h.aliasName, h.resource, h.action.mapValues_eq, h.parameters,
    h.primaryKey]

namespace Gateway

/-- **Values never influence the SQL.** Two requests that ask for the same with other values, none
of which is refused, both fail with the same error, or both have a plan, and then in the same
dialect, with the same SQL and for the same stretch of rows. -/
theorem plan_alike (g : Gateway) {q q' : Request} (h : q.Alike q') (hq : q.action.Usable)
    (hq' : q'.action.Usable) :
    (∃ e, g.plan q = .error e ∧ g.plan q' = .error e) ∨
      ∃ p p', g.plan q = .ok p ∧ g.plan q' = .ok p' ∧ p.dialect = p'.dialect ∧
        p.range = p'.range ∧ p.statement.sql = p'.statement.sql := by
  -- masked, the two are one request, and its plan is the masked plan of either
  have hmasked : (g.plan q).map (·.mapValues maskedValue) =
      (g.plan q').map (·.mapValues maskedValue) := by
    rw [← plan_mapValues maskedValue g hq q.action.usable_maskedValue,
      ← plan_mapValues maskedValue g hq' q'.action.usable_maskedValue, h.mapValues_eq]
  cases hp : g.plan q with
  | error e =>
    cases hp' : g.plan q' with
    | error e' =>
      rw [hp, hp'] at hmasked
      cases hmasked
      exact .inl ⟨e, rfl, rfl⟩
    | ok p' => rw [hp, hp'] at hmasked; cases hmasked
  | ok p =>
    cases hp' : g.plan q' with
    | error e' => rw [hp, hp'] at hmasked; cases hmasked
    | ok p' =>
      rw [hp, hp'] at hmasked
      have hplans : p.mapValues maskedValue = p'.mapValues maskedValue := Except.ok.inj hmasked
      obtain ⟨hdialect, hstatement, hrange⟩ := Plan.mk.inj hplans
      exact .inr ⟨p, p', rfl, rfl, hdialect, hrange, (Statement.mk.inj hstatement).1⟩

/-- Two updates of a column that is set twice, one of them with values that look like SQL. -/
theorem plan_alike_update :
    let g : Gateway :=
      ⟨⟨.ofList [("demo", ⟨.h2, { driver := "h2" }⟩)], 25⟩,
        AccessTable.empty.addRule ⟨⟨"demo", none⟩, .ofList [.update]⟩⟩
    let q : Request :=
      { aliasName := "demo", resource := some "cars",
        action := .update "7" [("model", "T"), ("color", "red"), ("model", "A")] }
    let q' : Request :=
      { aliasName := "demo", resource := some "cars",
        action := .update " ?" [("model", ""), ("color", ""), ("model", "x=1; --")] }
    ∃ p p', g.plan q = .ok p ∧ g.plan q' = .ok p' ∧ p.statement.sql = p'.statement.sql := by
  intro g q q'
  have halike : q.Alike q' := ⟨rfl, rfl, .update "7" " ?" rfl, rfl, rfl⟩
  have hsome : (g.plan q).toOption.isSome = true := by decide +kernel
  rcases plan_alike g halike ⟨'7', by decide, by decide⟩ ⟨'?', by decide, by decide⟩ with
    ⟨e, he, -⟩ | ⟨p, p', hp, hp', -, -, hsql⟩
  · rw [he] at hsome
    cases hsome
  · exact ⟨p, p', hp, hp', hsql⟩

end Gateway

end TableGateway

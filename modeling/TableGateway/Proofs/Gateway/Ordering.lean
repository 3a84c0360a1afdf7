import TableGateway.Proofs.Access.Mediation
import TableGateway.Proofs.Finder.Language
import TableGateway.Proofs.Gateway.Consulted
import TableGateway.Proofs.Gateway.Counting
import TableGateway.Proofs.Gateway.KeyColumn

/-!
# The order of the rows that are read

A statement can put its rows in an order in two ways: it sorts them, or it numbers them by the order
and cuts out those with certain numbers. `Sql.arrangement?` reads off a statement which of them it
is, and by which order. A dialect that numbers rows always has an order for it, so where a request
asks for none they are numbered by ascending key; the others leave them unsorted then.

* `Lookup.Usable` and `Finder.Anatomy` say what keeps rows from being read besides the order.
* `Gateway.OrdersAsAsked` says what comes of each kind of request.
* `Gateway.ordered_as_asked` is the main result.
-/

namespace TableGateway

/-! ## Arrangements -/

namespace Sql

/-- How a command puts rows in an order. -/
inductive Arrangement where
  /-- it does not -/
  | unordered
  /-- the rows are sorted -/
  | sorted (o : SortOrder)
  /-- the rows are numbered -/
  | numbered (o : SortOrder)
deriving DecidableEq

/-- What an item of an ORDER BY clause orders by. -/
def OrderItem.order (i : OrderItem) : SortOrder := ⟨i.reference.column, i.direction⟩

def Query.arrangement : Query → Arrangement
  | plain _ _ i _ => i.elim .unordered fun i => .sorted i.order
  | numbered i _ _ _ _ _ => .numbered i.order
  | count _ => .unordered

def Command.arrangement : Command → Arrangement
  | query q => q.arrangement
  | _ => .unordered

/-- How a statement puts rows in an order, if a database can read it. -/
def arrangement? (st : Statement) : Option Arrangement := (read st).map Command.arrangement

end Sql

/-- The statement puts its rows in the order, in the way of the dialect, and says so in its text. -/
structure Statement.OrderedBy (st : Statement) (d : Dialect) (o : SortOrder) : Prop where
  /-- the rows are numbered by the order or sorted by it -/
  arranged : Sql.arrangement? st = some (if d.numbers then .numbered o else .sorted o)
  /-- the column and the direction are written out -/
  written : ∃ (r : Sql.Reference) (before after : String), r.column = o.column ∧
    st.sql = before ++ " ORDER BY " ++ r.text ++ " " ++ o.direction.sql ++ after

namespace Dialect

variable {d : Dialect} {s : Selection}

theorem arrangement_select (d : Dialect) (s : Selection) :
    Sql.arrangement? (d.select s) =
      some (if d.numbersRows s then .numbered (s.order.getD ⟨s.table.primaryKey, .ascending⟩)
        else s.order.elim .unordered .sorted) := by
  rw [Sql.arrangement?, (spelled_select d s).read_eq, Option.map_some]
  congr 1
  show (d.query s).arrangement = _
  rw [query]
  split
  · rename_i hrange hpaging
    rw [numbersRows, hrange, hpaging]
    rfl
  · rename_i hplain
    have hnumbers : d.numbersRows s = false := by
      rw [numbersRows]
      split
      · rename_i hrange hpaging
        exact (hplain _ _ hrange hpaging).elim
      · rfl
    rw [hnumbers]
    cases s.order <;> rfl

/-- An order that is asked for is written before the rows where they are numbered, and behind them
where they are sorted. -/
theorem orderedBy_select {r : RowRange} {o : SortOrder} (hrange : s.range = some r)
    (horder : s.order = some o) : (d.select s).OrderedBy d o := by
  have hnumbering : numberingOrder s = o := by
    rw [numberingOrder, horder, Option.getD_some]
  have hitem : d.orderItem s.table o = (d.reference s.table o.column).text ++ " " ++
      o.direction.sql := by
    rw [orderItem, columnOf_eq_text]
  refine ⟨?_, d.reference s.table o.column, ?_⟩
  · rw [arrangement_select, numbersRows_of_range d hrange, horder, Option.getD_some,
      Option.elim_some]
  · rw [select_eq]
    cases hpaging : d.traits.paging with
    | rowNumber name =>
      have hopening : d.readOpening s = "SELECT * FROM ( SELECT ROW_NUMBER() OVER (" ++
          " ORDER BY " ++ d.orderItem s.table o ++ " ) AS ROW_NUMBER, " := by
        rw [readOpening, hrange, hpaging, ← hnumbering]
        rfl
      refine ⟨"SELECT * FROM ( SELECT ROW_NUMBER() OVER (", " ) AS ROW_NUMBER, " ++
        d.projection s ++ Piece.sql (d.rows s) ++ d.readEnding s, rfl, ?_⟩
      simp only [hopening, hitem, String.append_assoc]
    | limitOffset | limitComma | offsetFetch =>
      have hending : d.readEnding s =
          " ORDER BY " ++ d.orderItem s.table o ++ d.traits.paging.clause r := by
        rw [readEnding, hrange, horder, hpaging]
        rfl
      refine ⟨d.readOpening s ++ d.projection s ++ Piece.sql (d.rows s),
        d.traits.paging.clause r, rfl, ?_⟩
      simp only [hending, hitem, String.append_assoc]

end Dialect

/-- Of all commands, those that read rows alone put them in an order. -/
theorem Sql.Command.arrangement_of_verb {c : Sql.Command} (h : c.verb ≠ .select) :
    c.arrangement = .unordered := by
  cases c with
  | query q =>
    cases q with
    | count rows => rfl
    | plain projection rows order window => exact absurd rfl h
    | numbered order projection rows label first last => exact absurd rfl h
  | insert table columns values => rfl
  | update table sets key => rfl
  | delete table key => rfl
  | call procedure arguments => rfl

/-! ## Outcomes -/

/-- The value of a lookup is not empty, and its column is an identifier if it names one. -/
def Lookup.Usable (lookup : Option Lookup) : Prop :=
  ∀ l ∈ lookup, l.value ≠ "" ∧ ∀ text ∈ l.column, ∃ column : Identifier, column.name = text

theorem Lookup.exists_conditions_iff (t : Table) {lookup : Option Lookup} :
    (∃ cs, conditions t lookup = .ok cs) ↔ Usable lookup := by
  cases lookup with
  | none => exact iff_of_true ⟨[], rfl⟩ nofun
  | some l =>
    have husable : Usable (some l) ↔
        l.value ≠ "" ∧ ∀ text ∈ l.column, ∃ column : Identifier, column.name = text := by
      simp [Usable]
    rw [husable, conditions]
    by_cases hvalue : l.value = ""
    · rw [if_pos hvalue]
      exact iff_of_false nofun fun h => h.1 hvalue
    · rw [if_neg hvalue]
      cases l.column with
      | none => exact iff_of_true ⟨_, rfl⟩ ⟨hvalue, nofun⟩
      | some text =>
        constructor
        · rintro ⟨cs, hcs⟩
          obtain ⟨column, hcolumn, -⟩ := exists_of_map_eq_ok hcs
          refine ⟨hvalue, ?_⟩
          rintro _ ⟨⟩
          exact ⟨column, (Identifier.parse_eq_ok_iff.mp hcolumn).symm⟩
        · rintro ⟨-, hcolumn⟩
          obtain ⟨column, rfl⟩ := hcolumn text rfl
          dsimp only
          rw [Identifier.parse_name]
          exact ⟨_, rfl⟩

section

variable {ps : Parameters}

theorem readOrder_of_asked (h : SortOrder.isRequested ps = true) (t : Table) :
    readOrder ps t = (SortOrder.requested ps (.ok t.primaryKey)).map some :=
  if_pos h

theorem readOrder_of_unasked (h : SortOrder.isRequested ps = false) (t : Table) :
    readOrder ps t = .ok none :=
  if_neg (Bool.eq_false_iff.mp h)

/-- A read needs an order that can be followed only where one is asked for. -/
theorem exists_readOrder_iff (t : Table) :
    (∃ order, readOrder ps t = .ok order) ↔
      (SortOrder.isRequested ps = true → ¬ ps.MisstatesOrder) := by
  cases hasked : SortOrder.isRequested ps with
  | false => exact iff_of_true ⟨none, readOrder_of_unasked hasked t⟩ nofun
  | true =>
    rw [readOrder_of_asked hasked]
    constructor
    · rintro ⟨order, h⟩ -
      obtain ⟨o, ho, -⟩ := exists_of_map_eq_ok h
      exact (SortOrder.requested_eq_ok_iff.mp ho).1
    · intro h
      obtain ⟨o, ho⟩ := SortOrder.exists_asAsked (h rfl) t.primaryKey
      rw [SortOrder.requested_eq_ok_iff.mpr ⟨h rfl, ho⟩]
      exact ⟨some o, rfl⟩

end

namespace Action

variable {d : Dialect} {t : Table} {pageSize : Nat} {ps : Parameters}

/-- Rows can be read if the lookup can be used, and the order, if one is asked for. -/
theorem exists_plan_read_iff {lookup : Option Lookup} :
    (∃ x, (read lookup).plan d t pageSize ps = .ok x) ↔
      Lookup.Usable lookup ∧ (SortOrder.isRequested ps = true → ¬ ps.MisstatesOrder) := by
  rw [← Lookup.exists_conditions_iff t, ← exists_readOrder_iff t]
  constructor
  · rintro ⟨x, h⟩
    obtain ⟨conditions, hconditions, h⟩ := exists_of_bind_eq_ok h
    obtain ⟨order, horder, -⟩ := exists_of_bind_eq_ok h
    exact ⟨⟨conditions, hconditions⟩, order, horder⟩
  · rintro ⟨⟨conditions, hconditions⟩, order, horder⟩
    rw [plan, hconditions, horder]
    exact ⟨_, rfl⟩

/-- A finder can be run if its name and its arguments fit, and the order can be used. -/
theorem exists_plan_find_iff {name : String} {arguments : List String} :
    (∃ x, (find name arguments).plan d t pageSize ps = .ok x) ↔
      (∃ a : Finder.Anatomy name, arguments.length = a.valueCount) ∧ ¬ ps.MisstatesOrder := by
  rw [← Finder.exists_parse_iff (t := t)]
  constructor
  · rintro ⟨x, h⟩
    obtain ⟨order, horder, h⟩ := exists_of_bind_eq_ok h
    obtain ⟨f, hf, -⟩ := exists_of_bind_eq_ok h
    exact ⟨⟨f, hf⟩, (SortOrder.requested_eq_ok_iff.mp horder).1⟩
  · rintro ⟨⟨f, hf⟩, hps⟩
    obtain ⟨o, ho⟩ := SortOrder.exists_asAsked hps t.primaryKey
    rw [plan, SortOrder.requested_eq_ok_iff.mpr ⟨hps, ho⟩, hf]
    exact ⟨_, rfl⟩

namespace Planned

variable {st : Statement} {range : Option RowRange}

/-- Where no order is asked for, rows are put in one just for numbering them. -/
theorem arrangement_of_unasked {lookup : Option Lookup}
    (hunasked : SortOrder.isRequested ps = false)
    (h : Planned d t pageSize ps (.read lookup) st range) :
    Sql.arrangement? st =
      some (if d.numbers then .numbered ⟨t.primaryKey, .ascending⟩ else .unordered) := by
  cases h with
  | read hconditions horder =>
    rw [readOrder_of_unasked hunasked] at horder
    cases horder
    rw [Dialect.arrangement_select, Dialect.numbersRows_of_range d rfl]
    rfl

theorem orderedBy_of_asked {lookup : Option Lookup} (hasked : SortOrder.isRequested ps = true)
    (h : Planned d t pageSize ps (.read lookup) st range) :
    ∃ o : SortOrder, o.AsAsked ps t.primaryKey ∧ st.OrderedBy d o := by
  cases h with
  | read hconditions horder =>
    rw [readOrder_of_asked hasked] at horder
    obtain ⟨o, ho, rfl⟩ := exists_of_map_eq_ok horder
    exact ⟨o, (SortOrder.requested_eq_ok_iff.mp ho).2, Dialect.orderedBy_select rfl rfl⟩

theorem orderedBy_of_find {name : String} {arguments : List String}
    (h : Planned d t pageSize ps (.find name arguments) st range) :
    ∃ o : SortOrder, o.AsAsked ps t.primaryKey ∧ st.OrderedBy d o := by
  cases h with
  | find horder hfinder =>
    exact ⟨_, (SortOrder.requested_eq_ok_iff.mp horder).2, Dialect.orderedBy_select rfl rfl⟩

theorem arrangement_of_describe (h : Planned d t pageSize ps .describe st range) :
    Sql.arrangement? st =
      some (if d.numbers then .numbered ⟨t.primaryKey, .ascending⟩ else .unordered) := by
  cases h with
  | describe =>
    rw [Dialect.arrangement_select, Dialect.numbersRows_of_range d rfl]
    rfl

/-- Nothing but reads puts rows in an order. -/
theorem arrangement_of_verb {a : Action} (ha : a.verb ≠ .select)
    (h : Planned d t pageSize ps a st range) : Sql.arrangement? st = some .unordered := by
  obtain ⟨c, hspelled, hverb, -⟩ := h.renders
  rw [← hverb] at ha
  rw [Sql.arrangement?, hspelled.read_eq, Option.map_some, Sql.Command.arrangement_of_verb ha]

end Planned

end Action

/-! ## Requests -/

namespace Gateway

/-- What a request on a resource gets by way of order, in a dialect and for a key column. -/
structure OrdersAsAsked (g : Gateway) (q : Request) (d : Dialect) (key : Identifier) : Prop where
  /-- a read that says nothing about the order needs none, and puts its rows in one just for
  numbering them: by ascending key -/
  unasked : ∀ lookup, q.action = .read lookup →
    q.parameters.first? "sort" = none → q.parameters.first? "dir" = none →
    ((∃ p, g.plan q = .ok p) ↔ Lookup.Usable lookup) ∧
      ∀ p, g.plan q = .ok p → Sql.arrangement? p.statement =
        some (if d.numbers then .numbered ⟨key, .ascending⟩ else .unordered)
  /-- any other read needs an order that can be followed, and follows it -/
  asked : ∀ lookup, q.action = .read lookup →
    (q.parameters.first? "sort").isSome = true ∨ (q.parameters.first? "dir").isSome = true →
    ((∃ p, g.plan q = .ok p) ↔ Lookup.Usable lookup ∧ ¬ q.parameters.MisstatesOrder) ∧
      ∀ p, g.plan q = .ok p →
        ∃ o : SortOrder, o.AsAsked q.parameters key ∧ p.statement.OrderedBy d o
  /-- so does a finder in any case -/
  find : ∀ name arguments, q.action = .find name arguments →
    ((∃ p, g.plan q = .ok p) ↔
      (∃ a : Finder.Anatomy name, arguments.length = a.valueCount) ∧
        ¬ q.parameters.MisstatesOrder) ∧
      ∀ p, g.plan q = .ok p →
        ∃ o : SortOrder, o.AsAsked q.parameters key ∧ p.statement.OrderedBy d o
  /-- a row that shows what the resource looks like is got whatever is asked for -/
  describe : q.action = .describe → (∃ p, g.plan q = .ok p) ∧
    ∀ p, g.plan q = .ok p → Sql.arrangement? p.statement =
      some (if d.numbers then .numbered ⟨key, .ascending⟩ else .unordered)
  /-- what cannot be done is an invalid request -/
  refused : ∀ error, g.plan q = .error error →
    ∃ reason, error = .invalidRequest reason q.resource

/-- Statements of other kinds than reads put no rows in an order. -/
theorem arrangement_of_plan {g : Gateway} {q : Request} {p : Plan} (hverb : q.action.verb ≠ .select)
    (h : g.plan q = .ok p) : Sql.arrangement? p.statement = some .unordered := by
  obtain ⟨e, -, -, hplan⟩ := granted_of_plan h
  cases hresource : q.resource with
  | none =>
    rcases CatalogEntry.cases_of_plan hresource hplan with ⟨haction, -⟩ | ⟨c, -, hst⟩
    · rw [haction] at hverb
      exact absurd rfl hverb
    · rw [hst, Sql.arrangement?, (Dialect.spelled_call e.dialect c).read_eq]
      rfl
  | some r =>
    obtain ⟨t, -, hplanned⟩ := CatalogEntry.table_of_plan hresource hplan
    exact hplanned.arrangement_of_verb hverb

variable {c : Configuration} {g : Gateway} {q : Request} {a : AliasConfiguration}
  {r key : Identifier} {d : Dialect}

/-- A granted request is planned on the table of its resource, with the key column that the
precedence says. -/
theorem exists_table_of_granted (hg : ofConfiguration c = .ok g) (history : List Event)
    (ha : c.alias? q.aliasName = some a) (hr : q.resource = some r.name)
    (hallows : (g.after history).access.allows q.scope q.action.permission = true)
    (hkey : key.name = a.keyName r.name q.primaryKey) (hd : a.dialect = .ok d) :
    ∃ t : Table, t.primaryKey = key ∧
      (g.after history).plan q =
        ((q.action.plan d t c.pageSize q.parameters).mapError (Error.onResource r.name)).map
          fun x => ⟨d, x.1, x.2⟩ := by
  obtain ⟨hc, -, hcatalog⟩ := ofConfiguration_eq_ok_iff.mp hg
  obtain ⟨schema, -, htable⟩ :=
    CatalogEntry.table_eq (e := ⟨d, a⟩) (Configuration.defects_of_validate hc ha) r
  have ht : CatalogEntry.table ⟨d, a⟩ r.name q.primaryKey = .ok ⟨schema, r, key⟩ := by
    rw [htable, ← hkey, Identifier.parse_name]
    rfl
  refine ⟨⟨schema, r, key⟩, rfl, ?_⟩
  rw [after_eq] at hallows
  rw [after_eq, plan_of_alias hcatalog _ ha, if_pos hallows, AliasConfiguration.answer_eq hd,
    CatalogEntry.plan_of_resource _ _ hr, ht]
  rfl

/-- Planning a request on its table puts rows in the order that is asked for. -/
theorem ordersAsAsked_of_plan {t : Table} {pageSize : Nat} {resource : String}
    (hplan : g.plan q =
      ((q.action.plan d t pageSize q.parameters).mapError (Error.onResource resource)).map
        fun x => ⟨d, x.1, x.2⟩)
    (hrefused : ∀ error, g.plan q = .error error →
      ∃ reason, error = .invalidRequest reason q.resource) :
    g.OrdersAsAsked q d t.primaryKey := by
  have hexists : (∃ p, g.plan q = .ok p) ↔
      ∃ x, q.action.plan d t pageSize q.parameters = .ok x := by
    rw [hplan]
    cases q.action.plan d t pageSize q.parameters with
    | error error => exact iff_of_false nofun nofun
    | ok x => exact iff_of_true ⟨_, rfl⟩ ⟨x, rfl⟩
  have hplanned : ∀ p, g.plan q = .ok p →
      q.action.Planned d t pageSize q.parameters p.statement p.range := by
    intro p h
    rw [hplan] at h
    obtain ⟨x, hx, rfl⟩ := exists_of_map_eq_ok h
    exact Action.planned_of_plan (mapError_eq_ok_iff.mp hx)
  refine
    { unasked := fun lookup haction hsort hdir => ?_
      asked := fun lookup haction hasked => ?_
      find := fun name arguments haction => ⟨?_, fun p h => ?_⟩
      describe := fun haction => ⟨?_, fun p h => ?_⟩
      refused := hrefused }
  · have hunasked := SortOrder.isRequested_eq_false_iff.mpr ⟨hsort, hdir⟩
    rw [hexists, haction, Action.exists_plan_read_iff, hunasked]
    exact ⟨and_iff_left nofun, fun p h => (haction ▸ hplanned p h).arrangement_of_unasked hunasked⟩
  · have hrequested := SortOrder.isRequested_iff.mpr hasked
    rw [hexists, haction, Action.exists_plan_read_iff, hrequested]
    exact ⟨and_congr_right fun _ => ⟨fun h => h rfl, fun h _ => h⟩,
      fun p h => (haction ▸ hplanned p h).orderedBy_of_asked hrequested⟩
  · rw [hexists, haction, Action.exists_plan_find_iff]
  · exact (haction ▸ hplanned p h).orderedBy_of_find
  · rw [hexists, haction]
    exact ⟨_, rfl⟩
  · exact (haction ▸ hplanned p h).arrangement_of_describe

/-- **Orders are as they are asked for.** A request that is granted on a resource of a configured
alias, with the key column that the precedence says, under any tables that come into force:

* its parameters are read as an order just if they can be followed, and then as the order that they
  ask for, by the key column if they name none; if not, that is an invalid request;
* a read and a finder are planned, and their rows put in an order, as `OrdersAsAsked` says.

No action that reads no rows depends on the parameters, and no statement of another kind than a read
puts rows in an order. -/
theorem ordered_as_asked (hg : ofConfiguration c = .ok g) (history : List Event)
    (ha : c.alias? q.aliasName = some a) (hr : q.resource = some r.name)
    (hallows : (g.after history).access.allows q.scope q.action.permission = true)
    (hkey : key.name = a.keyName r.name q.primaryKey) (hd : a.dialect = .ok d) :
    ((∃ error, SortOrder.requested q.parameters (.ok key) = .error error) ↔
        q.parameters.MisstatesOrder) ∧
      (∀ error, SortOrder.requested q.parameters (.ok key) = .error error →
        ∃ reason, error = .request reason) ∧
      (∀ o, SortOrder.requested q.parameters (.ok key) = .ok o → o.AsAsked q.parameters key) ∧
      (g.after history).OrdersAsAsked q d key ∧
      (∀ q' : Request, q'.action.readsRows = false → ∀ ps,
        (g.after history).plan { q' with parameters := ps } = (g.after history).plan q') ∧
      ∀ (q' : Request) p, q'.action.verb ≠ .select → (g.after history).plan q' = .ok p →
        Sql.arrangement? p.statement = some .unordered := by
  have hparse : FailsOnlyWith (∃ reason, · = Error.request reason)
      (SortOrder.requested q.parameters (.ok key)) :=
    failsOnlyWith_order (fun reason => ⟨reason, rfl⟩) q.parameters (.ok key)
  have hrefused : ∀ error, (g.after history).plan q = .error error →
      ∃ reason, error = .invalidRequest reason q.resource := by
    intro error h
    obtain ⟨hc, -, hcatalog⟩ := ofConfiguration_eq_ok_iff.mp hg
    rw [after_eq] at hallows h
    rw [plan_of_alias hcatalog _ ha, if_pos hallows] at h
    exact invalidRequest_of_answer hc ha h
  obtain ⟨t, rfl, hplan⟩ := exists_table_of_granted hg history ha hr hallows hkey hd
  refine ⟨SortOrder.requested_fails_iff, hparse,
    fun o ho => (SortOrder.requested_eq_ok_iff.mp ho).2, ordersAsAsked_of_plan hplan hrefused,
    fun q' hrowless ps => ?_, fun q' p hverb h => arrangement_of_plan hverb h⟩
  exact plan_congr (g.after history) q' fun d t => Action.plan_of_not_readsRows d t hrowless

/-- Rows are numbered by ascending key where no order is asked for, and by the column of that name
where one is; a direction is no column, even with a blank in it. Another dialect leaves rows
unordered where no order is asked for. -/
theorem ordered_as_asked_numbered :
    let a : AliasConfiguration :=
      { driver := "oracle", rule := some "READ", primaryKeys := .ofList [("cars", "cid")] }
    let c : Configuration :=
      { aliases := .ofList [("demo", a), ("paged", { a with driver := "postgres" })] }
    let unasked : Request :=
      { aliasName := "demo", resource := some "cars", action := .read none }
    let asked : Request := { unasked with parameters := ⟨[("dir", "Desc"), ("sort", " na me ")]⟩ }
    let misstated : Request := { unasked with parameters := ⟨[("sort", "d esc")]⟩ }
    let key : Identifier := ⟨"cid", by decide⟩
    let p : Plan :=
      ⟨.oracle, ⟨"SELECT * FROM ( SELECT ROW_NUMBER() OVER ( ORDER BY cars.name DESC ) AS " ++
        "ROW_NUMBER, cars.* FROM cars ) WHERE ROW_NUMBER BETWEEN 1 AND 25", []⟩,
        some (.clamp 25 0)⟩
    let paged : Plan :=
      ⟨.postgresql, ⟨"SELECT t.* FROM cars t LIMIT 25 OFFSET 0", []⟩, some (.clamp 25 0)⟩
    ∃ g, ofConfiguration c = .ok g ∧ g.plan asked = .ok p ∧
      Sql.arrangement? p.statement = some (.numbered ⟨⟨"name", by decide⟩, .descending⟩) ∧
      (∃ p', g.plan unasked = .ok p' ∧
        Sql.arrangement? p'.statement = some (.numbered ⟨key, .ascending⟩)) ∧
      (∃ reason, g.plan misstated = .error (.invalidRequest reason (some "cars"))) ∧
      g.plan { unasked with aliasName := "paged" } = .ok paged ∧
      Sql.arrangement? paged.statement = some .unordered := by
  intro a c unasked asked misstated key p paged
  obtain ⟨g, hg, hplan⟩ : ∃ g, ofConfiguration c = .ok g ∧ g.plan asked = .ok p :=
    exists_of_bind_eq_ok (eq_ok_of_toOption (by decide +kernel))
  have hpaged : g.plan { unasked with aliasName := "paged" } = .ok paged := by
    have hread : (ofConfiguration c >>= fun g => g.plan { unasked with aliasName := "paged" }) =
        .ok paged := eq_ok_of_toOption (by decide +kernel)
    rwa [hg] at hread
  have hkey : key.name = a.keyName "cars" none := by decide +kernel
  have horders : ∀ ps, g.OrdersAsAsked { unasked with parameters := ps } .oracle key := by
    intro ps
    obtain ⟨_, -, hallows, -⟩ := granted_of_plan hplan
    have ha : c.alias? "demo" = some a :=
      (SortedMap.find?_insert _ _ _ _).trans (if_neg (by decide))
    have hd : a.dialect = .ok .oracle := eq_ok_of_toOption (by decide +kernel)
    obtain ⟨-, -, -, horders, -, -⟩ := ordered_as_asked (q := { unasked with parameters := ps })
      (r := ⟨"cars", by decide⟩) hg [] ha rfl hallows hkey hd
    exact horders
  refine ⟨g, hg, hplan, ?_, ?_, ?_, hpaged, ?_⟩
  · obtain ⟨o, ho, hordered⟩ := ((horders asked.parameters).asked none rfl (.inl rfl)).2 p hplan
    have hcolumn : o.column.name = "name" := ho.named " na me " rfl (by decide)
    have hdirection : o.direction = .descending := ho.directed.mpr ⟨"Desc", rfl, by decide⟩
    obtain ⟨column, direction⟩ := o
    obtain rfl : column = ⟨"name", by decide⟩ := Identifier.ext_name hcolumn
    obtain rfl : direction = .descending := hdirection
    exact hordered.arranged
  · obtain ⟨hexists, harranged⟩ := (horders .empty).unasked none rfl rfl rfl
    obtain ⟨p', hp'⟩ := hexists.mpr nofun
    exact ⟨p', hp', harranged p' hp'⟩
  · obtain ⟨hexists, -⟩ := (horders misstated.parameters).asked none rfl (.inl rfl)
    have hmisstates : misstated.parameters.MisstatesOrder :=
      .inr ⟨"d esc", rfl, by decide, .inl ⟨.descending, by decide⟩⟩
    cases herror : g.plan misstated with
    | ok p' => exact absurd hmisstates (hexists.mp ⟨p', herror⟩).2
    | error error =>
      obtain ⟨reason, rfl⟩ := (horders misstated.parameters).refused error herror
      exact ⟨reason, rfl⟩
  · obtain ⟨_, -, hallows, -⟩ := granted_of_plan hpaged
    have ha : c.alias? "paged" = some { a with driver := "postgres" } :=
      (SortedMap.find?_insert _ _ _ _).trans (if_pos rfl)
    have hd : AliasConfiguration.dialect { a with driver := "postgres" } = .ok .postgresql :=
      eq_ok_of_toOption (by decide +kernel)
    obtain ⟨-, -, -, horders, -, -⟩ := ordered_as_asked
      (q := { unasked with aliasName := "paged" }) (r := ⟨"cars", by decide⟩) hg [] ha rfl hallows
      hkey hd
    exact (horders.unasked none rfl rfl rfl).2 paged hpaged

end Gateway

end TableGateway

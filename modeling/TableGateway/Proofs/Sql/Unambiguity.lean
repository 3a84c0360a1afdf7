import TableGateway.Proofs.Sql.Meaning

/-!
# Selections told apart by their statements

Names are written into statements as they stand and may be spelled like keywords, values are taken
out of them, numbers are spelled in decimal. Still a statement tells which selection it was made
of: it is read as the query of the selection (`Dialect.spelled_select`), and the parts of the
selection can be taken out of the query again.

* `Sql.Query.columns`, `Sql.Query.bounds` and `Sql.Query.order` take a query apart, and
  `Sql.Factor.parts` a condition.
* `Dialect.selection_of_statement`: selections with the same statement have the same parts. Two
  things do not show: the schema in the families that do not write it, and whether rows are numbered
  by the ascending key because that was asked for or because nothing was.
-/

namespace TableGateway

namespace Sql

/-- The operator of a comparison with one value. -/
def Comparator.operator : Comparator → Operator
  | equals => .equals
  | notEquals => .notEquals
  | less => .lessThan
  | lessEquals => .lessThanEquals
  | greater => .greaterThan
  | greaterEquals => .greaterThanEquals
  | like => .like
  | ilike => .ilike

/-- The column, the operator and the values of the condition that a factor was made of. -/
def Factor.parts : Factor → Option (Identifier × Operator × List String)
  | plain (.isNull (.plain (.column r))) => some (r.column, .isNull, [])
  | plain (.isNotNull (.plain (.column r))) => some (r.column, .isNotNull, [])
  | plain (.between (.plain (.column r)) (.plain (.value low)) (.plain (.value high))) =>
    some (r.column, .between, [low, high])
  | plain (.compare (.plain (.column r)) c (.plain (.value v))) =>
    some (r.column, c.operator, [v])
  | plain (.compare (.lowered (.column r)) .like (.lowered (.value v))) =>
    some (r.column, .ilike, [v])
  | negated (.compare (.plain (.column r)) .equals (.plain (.value v))) =>
    some (r.column, .not, [v])
  | _ => none

/-- The columns that are named, none if it is all columns. -/
def Projection.named : Projection → List Identifier
  | all _ => []
  | columns r rs => (r :: rs).map Reference.column

/-- The limit and the start of a window. -/
def Window.bounds : Window → Nat × Nat
  | limitOffset limit start => (limit, start)
  | limitComma start limit => (limit, start)
  | offsetFetch start limit => (limit, start)

namespace Query

/-- The columns that a query names. -/
def columns : Query → List Identifier
  | plain p _ _ _ => p.named
  | numbered _ p _ _ _ _ => p.named
  | count _ => []

/-- The limit and the start of the stretch that a query cuts out. -/
def bounds : Query → Option (Nat × Nat)
  | plain _ _ _ w => w.map Window.bounds
  | numbered _ _ _ _ first last => some (last + 1 - first, first - 1)
  | count _ => none

/-- The order of a query, be it for sorting or for numbering. -/
def order : Query → Option SortOrder
  | plain _ _ o _ => o.map fun i => ⟨i.reference.column, i.direction⟩
  | numbered i _ _ _ _ _ => some ⟨i.reference.column, i.direction⟩
  | count _ => none

end Query

end Sql

namespace Dialect

/-! ## Parts of a query -/

theorem operator_comparator {op : Operator} (hone : op.valueCount = 1) (hnot : op ≠ .not) :
    (comparator op).operator = op := by
  cases op <;> first | rfl | exact absurd rfl hnot | cases hone

theorem parts_factor (d : Dialect) (t : Table) (c : Condition) :
    (d.factor t c).parts = some (c.column, c.operator, c.values) := by
  induction c using condition_cases with
  | isNull c => rfl
  | isNotNull c => rfl
  | between c low high => rfl
  | single c op v hcompares hcounted =>
    by_cases hnot : op = .not
    · subst hnot
      rfl
    rw [factor_single d t c v hcompares hcounted hnot]
    by_cases hlower : op = .ilike ∧ d.traits.ilike = false
    · rw [if_pos hlower]
      obtain ⟨rfl, -⟩ := hlower
      rfl
    · rw [if_neg hlower, Sql.Factor.parts, operator_comparator hcounted.symm hnot]
      rfl

theorem named_readProjection (d : Dialect) (s : Selection) :
    (d.readProjection s).named = s.columns := by
  have hnames : ∀ cs : List Identifier,
      (cs.map (d.reference s.table)).map Sql.Reference.column = cs := by
    intro cs
    rw [List.map_map]
    exact List.map_id cs
  rw [readProjection]
  cases s.columns with
  | nil => rfl
  | cons c cs => exact hnames (c :: cs)

theorem columns_query (d : Dialect) (s : Selection) : (d.query s).columns = s.columns := by
  rw [query]
  split <;> exact named_readProjection d s

theorem bounds_query (d : Dialect) (s : Selection) :
    (d.query s).bounds = s.range.map fun r => (r.limit, r.start) := by
  rw [query]
  split
  · rename_i r _ hrange _
    -- rows are numbered from 1
    have hlimit : r.stop + 1 - (r.start + 1) = r.limit := by
      rw [RowRange.stop]
      omega
    rw [hrange, Sql.Query.bounds, hlimit]
    rfl
  · rename_i hplain
    rw [Sql.Query.bounds]
    cases hrange : s.range with
    | none => rfl
    | some r =>
      cases hpaging : d.traits.paging with
      | rowNumber name => exact absurd hpaging (hplain r name hrange)
      | limitOffset | limitComma | offsetFetch => rfl

/-- The rows of the selection are cut out by their numbers. -/
def numbersRows (d : Dialect) (s : Selection) : Bool :=
  match s.range, d.traits.paging with
  | some _, .rowNumber _ => true
  | _, _ => false

theorem order_query (d : Dialect) (s : Selection) :
    (d.query s).order =
      if d.numbersRows s then some (s.order.getD ⟨s.table.primaryKey, .ascending⟩)
      else s.order := by
  rw [query]
  split
  · rename_i hrange hpaging
    rw [numbersRows, hrange, hpaging]
    rfl
  · rename_i hplain
    have hnumbers : d.numbersRows s = false := by
      rw [numbersRows]
      split
      · rename_i hrange hpaging
        exact (hplain _ _ hrange hpaging).elim
      · rfl
    rw [hnumbers]
    cases s.order <;> rfl

/-- The schema shows where columns are qualified. -/
theorem schema_readSource {d : Dialect} (hbare : d ≠ .hsqldb) (hbare' : d ≠ .h2) (t : Table) :
    (d.readSource t).name.schema = t.schema := by
  cases d <;> first | rfl | contradiction

/-! ## The selection of a statement -/

/-- A condition is its column, its operator and its values. -/
theorem condition_ext {a b : Condition}
    (h : (a.column, a.operator, a.values) = (b.column, b.operator, b.values)) : a = b := by
  cases a
  cases b
  cases h
  rfl

theorem conditions_eq {d : Dialect} {s₁ s₂ : Selection} (h : d.query s₁ = d.query s₂) :
    s₁.conditions = s₂.conditions := by
  have hparts : ∀ s : Selection, (d.query s).rows.conditions.map Sql.Factor.parts =
      s.conditions.map fun c => some (c.column, c.operator, c.values) := by
    intro s
    rw [rows_query, readRows, List.map_map]
    exact List.map_congr_left fun c _ => parts_factor d s.table c
  have heq := hparts s₁
  rw [h, hparts s₂] at heq
  exact (List.map_inj_right fun a b hab => condition_ext (Option.some.inj hab)).mp heq.symm

/-- **A statement tells its selection.** Selections that are rendered alike have the same table, in
the same schema where schemas are written, and the same columns, conditions and stretch of rows.
They have the same order, where rows are numbered with the ascending key for none. -/
theorem selection_of_statement {d : Dialect} {s₁ s₂ : Selection}
    (h : d.select s₁ = d.select s₂) :
    s₁.table.name = s₂.table.name ∧
      (d ≠ .hsqldb → d ≠ .h2 → s₁.table.schema = s₂.table.schema) ∧
      s₁.columns = s₂.columns ∧ s₁.conditions = s₂.conditions ∧ s₁.range = s₂.range ∧
      (if d.numbersRows s₁ then
        s₁.order.getD ⟨s₁.table.primaryKey, .ascending⟩ =
          s₂.order.getD ⟨s₂.table.primaryKey, .ascending⟩
        else s₁.order = s₂.order) := by
  -- the statement is read in one way only
  have hquery : d.query s₁ = d.query s₂ := by
    have hread := (spelled_select d s₁).read_eq
    rw [h, (spelled_select d s₂).read_eq] at hread
    exact (Sql.Command.query.inj (Option.some.inj hread)).symm
  have hsource : d.readSource s₁.table = d.readSource s₂.table := by
    have hrows := rows_query d s₁
    rw [hquery, rows_query] at hrows
    exact (Sql.Rows.mk.inj hrows).1.symm
  have hrange : s₁.range = s₂.range := by
    have hbounds := bounds_query d s₁
    rw [hquery, bounds_query] at hbounds
    exact Option.map_injective (fun a b hab =>
      RowRange.ext_bounds (Prod.mk.inj hab).1 (Prod.mk.inj hab).2) hbounds.symm
  refine ⟨?_, fun hhsqldb hh2 => ?_, ?_, conditions_eq hquery, hrange, ?_⟩
  · rw [← table_readSource d s₁.table, hsource, table_readSource]
  · rw [← schema_readSource hhsqldb hh2 s₁.table, hsource, schema_readSource hhsqldb hh2]
  · rw [← columns_query d s₁, hquery, columns_query]
  · have horder := order_query d s₁
    have hnumbers : d.numbersRows s₁ = d.numbersRows s₂ := by rw [numbersRows, hrange, numbersRows]
    rw [hquery, order_query, ← hnumbers] at horder
    cases hform : d.numbersRows s₁ with
    | true =>
      rw [hform] at horder
      exact (Option.some.inj horder).symm
    | false =>
      rw [hform] at horder
      exact horder.symm

/-- Selections from the table `WHERE` whose rows are numbered. Without an order they are numbered
like those that ask for the ascending key. A requested order shows, by its column and its direction,
and then the key does not show. -/
theorem selection_of_statement_numbered :
    let name : Identifier := ⟨"NOT", by decide⟩
    let id := Table.defaultPrimaryKey
    let s (key : Identifier) (order : Option SortOrder) : Selection :=
      { table := ⟨some ⟨"FROM", by decide⟩, ⟨"WHERE", by decide⟩, key⟩
        columns := [⟨"t", by decide⟩]
        conditions := [.between ⟨"LOWER", by decide⟩ "1" "2"]
        range := some .standard
        order }
    let effective (s : Selection) : SortOrder := s.order.getD ⟨s.table.primaryKey, .ascending⟩
    let requested : SortOrder := ⟨name, .descending⟩
    (select .generic (s id none) = select .generic (s id (some ⟨id, .ascending⟩)) ∧
        effective (s id none) = effective (s id (some ⟨id, .ascending⟩))) ∧
      (select .generic (s id (some requested)) = select .generic (s name (some requested)) ∧
        effective (s id (some requested)) = effective (s name (some requested))) ∧
      select .generic (s id (some requested)) ≠ select .generic (s id (some ⟨name, .ascending⟩)) ∧
      select .generic (s id (some requested)) ≠
        select .generic (s id (some ⟨id, .descending⟩)) := by
  intro name id s effective requested
  have hnone : select .generic (s id none) = select .generic (s id (some ⟨id, .ascending⟩)) := rfl
  have hsome : select .generic (s id (some requested)) =
      select .generic (s name (some requested)) := rfl
  obtain ⟨-, -, -, -, -, hkey⟩ := selection_of_statement hnone
  obtain ⟨-, -, -, -, -, hrequested⟩ := selection_of_statement hsome
  refine ⟨⟨hnone, hkey⟩, ⟨hsome, hrequested⟩, fun h => ?_, fun h => ?_⟩
  · obtain ⟨-, -, -, -, -, hdirection⟩ := selection_of_statement h
    exact absurd hdirection (by decide)
  · obtain ⟨-, -, -, -, -, hcolumn⟩ := selection_of_statement h
    exact absurd hcolumn (by decide)

end Dialect

end TableGateway

import TableGateway.Proofs.Sql.Spelling
import TableGateway.Sql.Reading

/-!
# What a rendered read says

`Dialect.query` is the query that a selection stands for in a dialect, `Dialect.countQuery` the one
that counts its rows. The rendered statements spell exactly these (`spelled_select`,
`spelled_count`): a database that reads them finds the names, conditions, order and window of the
selection, each in its place, whatever the names are.
-/

namespace TableGateway.Dialect

open Sql (Writes word listed)

/-! ## The query of a selection -/

/-- The name by which reads call their table in the dialects that give it one. -/
def tableLabel : Identifier := ⟨"t", by decide⟩

/-- What reads say a column is of, if they say it. -/
def readQualifier (d : Dialect) (t : Table) : Option Identifier :=
  match d.traits.columns with
  | .aliased => some tableLabel
  | .byTable => some t.name
  | .bare => none

/-- A column of the table as reads name it. -/
def reference (d : Dialect) (t : Table) (column : Identifier) : Sql.Reference :=
  ⟨d.readQualifier t, column⟩

/-- The table of a read. -/
def readSource (d : Dialect) (t : Table) : Sql.Source :=
  match d.traits.columns with
  | .aliased => ⟨⟨t.schema, t.name⟩, some tableLabel⟩
  | .byTable => ⟨⟨t.schema, t.name⟩, none⟩
  | .bare => ⟨⟨none, t.name⟩, none⟩

/-- The comparison that an operator with one value stands for. -/
def comparator : Operator → Sql.Comparator
  | .lessThan => .less
  | .lessThanEquals => .lessEquals
  | .greaterThan => .greater
  | .greaterThanEquals => .greaterEquals
  | .like => .like
  | .ilike => .ilike
  | .notEquals => .notEquals
  | _ => .equals

/-- What a condition says in the dialect. -/
def factor (d : Dialect) (t : Table) (c : Condition) : Sql.Factor :=
  let x := Sql.Scalar.column (d.reference t c.column)
  match c.operator, c.values with
  | .isNotNull, _ => .plain (.isNotNull (.plain x))
  | .between, [low, high] =>
    .plain (.between (.plain x) (.plain (.value low)) (.plain (.value high)))
  | .not, [v] => .negated (.compare (.plain x) .equals (.plain (.value v)))
  | op, [v] =>
    if op = .ilike ∧ d.traits.ilike = false then
      .plain (.compare (.lowered x) .like (.lowered (.value v)))
    else .plain (.compare (.plain x) (comparator op) (.plain (.value v)))
  -- besides IS NOT NULL only IS NULL has no value
  | _, _ => .plain (.isNull (.plain x))

/-- The rows of a selection. -/
def readRows (d : Dialect) (s : Selection) : Sql.Rows :=
  ⟨d.readSource s.table, s.conditions.map (d.factor s.table)⟩

/-- The columns of a selection. -/
def readProjection (d : Dialect) (s : Selection) : Sql.Projection :=
  match s.columns with
  | [] => .all (d.readQualifier s.table)
  | c :: cs => .columns (d.reference s.table c) (cs.map (d.reference s.table))

/-- The order of a read. -/
def readItem (d : Dialect) (t : Table) (o : SortOrder) : Sql.OrderItem :=
  ⟨d.reference t o.column, o.direction⟩

/-- The window of a stretch of rows, in the dialects that have a clause for it. -/
def readWindow : Paging → RowRange → Option Sql.Window
  | .limitOffset, r => some (.limitOffset r.limit r.start)
  | .limitComma, r => some (.limitComma r.start r.limit)
  | .offsetFetch, r => some (.offsetFetch r.start r.limit)
  | .rowNumber _, _ => none

/-- The name of the derived table of a read that numbers its rows, if it has one. -/
def derivedLabel : Dialect → Option Identifier
  | mssql => some ⟨"paged", by decide⟩
  | _ => none

/-- The query that a selection stands for. -/
def query (d : Dialect) (s : Selection) : Sql.Query :=
  match s.range, d.traits.paging with
  | some r, .rowNumber _ =>
    .numbered (d.readItem s.table (numberingOrder s)) (d.readProjection s) (d.readRows s)
      d.derivedLabel (r.start + 1) r.stop
  | range, paging =>
    .plain (d.readProjection s) (d.readRows s) (s.order.map (d.readItem s.table))
      (range.bind (readWindow paging))

/-- The query that counts the rows of a selection. -/
def countQuery (d : Dialect) (s : Selection) : Sql.Query := .count (d.readRows s)

theorem rows_query (d : Dialect) (s : Selection) : (d.query s).rows = d.readRows s := by
  rw [query]
  split <;> rfl

/-! ## The parts of a read -/

theorem columnOf_eq_text (d : Dialect) (t : Table) (c : Identifier) :
    d.columnOf t c = (d.reference t c).text := by
  rw [columnOf, qualifier, reference, readQualifier]
  cases d.traits.columns with
  | aliased => rfl
  | byTable => rfl
  | bare => exact String.empty_append

theorem writes_columnOf (d : Dialect) (t : Table) (c : Identifier) :
    Writes (d.columnOf t c).toList [] (d.reference t c).lexemes := by
  rw [columnOf_eq_text]
  exact Sql.writes_reference _

theorem writes_source (d : Dialect) (t : Table) :
    Writes (d.source t).toList [] (d.readSource t).lexemes := by
  have hname := Sql.writes_qualifiedName t
  rw [source, readSource]
  cases d.traits.columns with
  | aliased =>
    rw [String.toList_append]
    exact hname.append rfl (Writes.ending [word "t"] rfl)
  | byTable => simpa [Sql.Source.lexemes] using hname
  | bare => exact Sql.writes_name t.name

/-! ## Conditions -/

/-- A condition has no value, or two for BETWEEN, or one. -/
theorem condition_cases {motive : Condition → Prop} (isNull : ∀ c, motive (Condition.isNull c))
    (isNotNull : ∀ c, motive (Condition.isNotNull c))
    (between : ∀ c low high, motive (Condition.between c low high))
    (single : ∀ c op v hcompares hcounted, motive ⟨c, op, [v], hcompares, hcounted⟩)
    (c : Condition) : motive c := by
  obtain ⟨column, op, values, hcompares, hcounted⟩ := c
  by_cases hnull : op = .isNull
  · subst hnull
    obtain rfl := List.length_eq_zero_iff.mp hcounted
    exact isNull column
  by_cases hnotNull : op = .isNotNull
  · subst hnotNull
    obtain rfl := List.length_eq_zero_iff.mp hcounted
    exact isNotNull column
  by_cases hbetween : op = .between
  · subst hbetween
    match values, hcounted with
    | [low, high], _ => exact between column low high
  have hone : op.valueCount = 1 := by
    cases op <;> first | rfl | exact absurd rfl hcompares | contradiction
  obtain ⟨v, rfl⟩ := List.length_eq_one_iff.mp (hcounted.trans hone)
  exact single column op v hcompares hcounted

/-- The token of an operator that compares with one value is that of its comparator. -/
theorem writes_operator {op : Operator} (hone : op.valueCount = 1) (hnot : op ≠ .not) :
    Writes op.sql.toList [] [(comparator op).lexeme] := by
  refine Writes.ending _ ?_
  cases op <;> first | rfl | exact absurd rfl hnot | cases hone

/-- What a comparison with one value says. -/
theorem factor_single (d : Dialect) (t : Table) (c : Identifier) {op : Operator} (v : String)
    (hcompares : op.arity ≠ .boolean) (hcounted : [v].length = op.valueCount) (hnot : op ≠ .not) :
    d.factor t ⟨c, op, [v], hcompares, hcounted⟩ =
      if op = .ilike ∧ d.traits.ilike = false then
        .plain (.compare (.lowered (.column (d.reference t c))) .like (.lowered (.value v)))
      else
        .plain (.compare (.plain (.column (d.reference t c))) (comparator op)
          (.plain (.value v))) := by
  cases op <;> first | rfl | exact absurd rfl hnot | cases hcounted

theorem params_operands (vs : List String) : Piece.params (operands vs) = vs := by
  cases vs with
  | nil => rfl
  | cons v vs =>
    have htail : Piece.params (vs.flatMap fun w => [.text " AND ", .bound w]) = vs := by
      induction vs with
      | nil => rfl
      | cons w ws ih => simpa using ih
    simp [operands, htail]

theorem params_map_bound (vs : List String) : Piece.params (vs.map .bound) = vs := by
  induction vs with
  | nil => rfl
  | cons v vs ih => simpa using ih

/-- A condition binds its values, in their order. -/
theorem params_condition (d : Dialect) (t : Table) (c : Condition) :
    Piece.params (d.condition t c) = c.values := by
  rw [condition, comparison]
  split
  · simp [params_map_bound]
  · split
    · simp [params_map_bound]
    · simp [params_operands]

theorem writes_single (d : Dialect) (t : Table) (c : Identifier) {op : Operator} (v : String)
    (hcompares : op.arity ≠ .boolean) (hcounted : [v].length = op.valueCount) :
    Writes ((d.condition t ⟨c, op, [v], hcompares, hcounted⟩).flatMap Piece.chars) [v]
      (d.factor t ⟨c, op, [v], hcompares, hcounted⟩).lexemes := by
  have hcolumn := writes_columnOf d t c
  by_cases hlower : op = .ilike ∧ d.traits.ilike = false
  · have hchars : (d.condition t ⟨c, op, [v], hcompares, hcounted⟩).flatMap Piece.chars =
        "LOWER(".toList ++ ((d.columnOf t c).toList ++ (") LIKE LOWER(".toList ++
          '?' :: ")".toList)) := by
      simp [condition, comparison, hlower, Piece.chars]
    have hlexemes : (d.factor t ⟨c, op, [v], hcompares, hcounted⟩).lexemes =
        [word "LOWER", word "("] ++ ((d.reference t c).lexemes ++
          ([word ")", word "LIKE", word "LOWER", word "("] ++ .value v :: [word ")"])) := by
      simp [factor, hlower, Sql.Comparator.lexeme]
    rw [hchars, hlexemes]
    refine Writes.literal _ rfl rfl (hcolumn.append rfl (Writes.literal _ rfl rfl ?_))
    exact Writes.bound v (Writes.ending _ rfl)
  by_cases hnot : op = .not
  · subst hnot
    have hchars : (d.condition t ⟨c, .not, [v], hcompares, hcounted⟩).flatMap Piece.chars =
        "NOT (".toList ++ ((d.columnOf t c).toList ++ (" = ".toList ++ '?' :: ")".toList)) := by
      simp [condition, comparison, Piece.chars]
    have hlexemes : (d.factor t ⟨c, .not, [v], hcompares, hcounted⟩).lexemes =
        [word "NOT", word "("] ++ ((d.reference t c).lexemes ++
          ([word "="] ++ .value v :: [word ")"])) := by
      simp [factor, Sql.Comparator.lexeme]
    rw [hchars, hlexemes]
    refine Writes.literal _ rfl rfl (hcolumn.append rfl (Writes.literal _ rfl rfl ?_))
    exact Writes.bound v (Writes.ending _ rfl)
  · -- the operator may be a word or a sign, and the blanks keep it apart from the column
    have hchars : (d.condition t ⟨c, op, [v], hcompares, hcounted⟩).flatMap Piece.chars =
        (d.columnOf t c).toList ++ (" ".toList ++ (op.sql.toList ++ (" ".toList ++ ['?']))) := by
      simp [condition, comparison, hlower, hnot, operands, Piece.chars]
    have hlexemes : (d.factor t ⟨c, op, [v], hcompares, hcounted⟩).lexemes =
        (d.reference t c).lexemes ++ ([] ++ ([(comparator op).lexeme] ++ ([] ++ [.value v]))) := by
      simp [factor_single d t c v hcompares hcounted hnot, hlower]
    rw [hchars, hlexemes]
    refine hcolumn.append rfl (Writes.literal _ rfl rfl ?_)
    exact (writes_operator hcounted.symm hnot).append rfl
      (Writes.literal _ rfl rfl (Writes.bound v Writes.nil))

theorem writes_condition (d : Dialect) (t : Table) (c : Condition) :
    Writes ((d.condition t c).flatMap Piece.chars) (Piece.params (d.condition t c))
      (d.factor t c).lexemes := by
  induction c using condition_cases with
  | isNull c =>
    have hchars : (d.condition t (.isNull c)).flatMap Piece.chars =
        (d.columnOf t c).toList ++ " IS NULL".toList := by
      simp [condition, Condition.isNull, comparison, operands, Piece.chars, Operator.sql]
    rw [hchars]
    exact (writes_columnOf d t c).append rfl (Writes.ending [word "IS", word "NULL"] rfl)
  | isNotNull c =>
    have hchars : (d.condition t (.isNotNull c)).flatMap Piece.chars =
        (d.columnOf t c).toList ++ " IS NOT NULL".toList := by
      simp [condition, Condition.isNotNull, comparison, operands, Piece.chars, Operator.sql]
    rw [hchars]
    exact (writes_columnOf d t c).append rfl
      (Writes.ending [word "IS", word "NOT", word "NULL"] rfl)
  | between c low high =>
    have hchars : (d.condition t (.between c low high)).flatMap Piece.chars =
        (d.columnOf t c).toList ++ (" BETWEEN ".toList ++ '?' :: (" AND ".toList ++ ['?'])) := by
      simp [condition, Condition.between, comparison, operands, Piece.chars, Operator.sql]
    have hlexemes : (d.factor t (.between c low high)).lexemes = (d.reference t c).lexemes ++
        ([word "BETWEEN"] ++ .value low :: ([word "AND"] ++ [.value high])) := by
      simp [factor, Condition.between]
    rw [hchars, hlexemes]
    refine (writes_columnOf d t c).append rfl (Writes.literal _ rfl rfl (Writes.bound low ?_))
    exact Writes.literal _ rfl rfl (Writes.bound high Writes.nil)
  | single c op v hcompares hcounted =>
    rw [params_condition]
    exact writes_single d t c v hcompares hcounted

theorem writes_restriction (d : Dialect) (t : Table) (cs : List Condition) :
    Writes ((d.restriction t cs).flatMap Piece.chars) (Piece.params (d.restriction t cs))
      (Sql.whereLexemes (cs.map (d.factor t))) := by
  cases cs with
  | nil => exact Writes.nil
  | cons c cs =>
    have hconditions := Sql.writes_separated " AND " (word "AND") (fun _ => rfl) rfl rfl
      (d.condition t) (writes_condition d t) c cs
    have hlexemes : Sql.whereLexemes ((c :: cs).map (d.factor t)) =
        [word "WHERE"] ++ listed (word "AND") ((c :: cs).map fun c => (d.factor t c).lexemes) := by
      simp [Sql.whereLexemes, Function.comp_def]
    rw [hlexemes, restriction, List.cons_append, List.flatMap_cons, Piece.params_text_cons]
    exact Writes.literal _ rfl rfl hconditions

/-! ## Rows and columns -/

theorem writes_projection (d : Dialect) (s : Selection) :
    Writes (d.projection s).toList [] (d.readProjection s).lexemes := by
  rw [projection, readProjection]
  cases hcolumns : s.columns with
  | nil =>
    rw [qualifier, readQualifier]
    cases d.traits.columns with
    | aliased =>
      show Writes "t.*".toList [] [word "t", word ".", word "*"]
      exact Writes.ending _ rfl
    | byTable =>
      rw [List.isEmpty_nil, if_pos rfl, String.toList_append, String.toList_append,
        List.append_assoc]
      exact (Sql.writes_name s.table.name).append rfl
        (Writes.ending [word ".", word "*"] rfl)
    | bare =>
      show Writes "*".toList [] [word "*"]
      exact Writes.ending _ rfl
  | cons c cs =>
    have h := Sql.writes_commas (fun c => writes_columnOf d s.table c) (c :: cs)
    simpa [Sql.Projection.lexemes, Function.comp_def] using h

theorem writes_rows (d : Dialect) (s : Selection) :
    Writes ((d.rows s).flatMap Piece.chars) (Piece.params (d.rows s)) (d.readRows s).lexemes := by
  have hopens : Sql.opens ((d.restriction s.table s.conditions).flatMap Piece.chars) = true := by
    cases s.conditions <;> rfl
  simp only [rows, List.flatMap_cons, Piece.params_text_cons, Piece.chars, String.toList_append,
    List.append_assoc, readRows, Sql.Rows.lexemes, List.cons_append]
  exact Writes.literal [word "FROM"] rfl rfl
    ((writes_source d s.table).append hopens (writes_restriction d s.table s.conditions))

theorem opens_rows (d : Dialect) (s : Selection) :
    Sql.opens ((d.rows s).flatMap Piece.chars) = true := by
  rw [rows, List.flatMap_cons, Piece.chars, String.toList_append]
  rfl

theorem writes_plainRead (d : Dialect) (s : Selection) :
    Writes ((d.plainRead s).flatMap Piece.chars) (Piece.params (d.plainRead s))
      ((d.readProjection s).lexemes ++ (d.readRows s).lexemes) := by
  simp only [plainRead, List.flatMap_cons, Piece.params_text_cons, Piece.chars]
  exact (writes_projection d s).append (opens_rows d s) (writes_rows d s)

/-! ## Order and window -/

theorem writes_direction (o : Direction) : Writes o.sql.toList [] [word o.sql] := by
  cases o <;> exact Writes.ending _ rfl

theorem writes_orderItem (d : Dialect) (t : Table) (o : SortOrder) :
    Writes (d.orderItem t o).toList [] (d.readItem t o).lexemes := by
  rw [orderItem, String.toList_append, String.toList_append, List.append_assoc]
  exact (writes_columnOf d t o.column).append rfl
    (Writes.literal [] rfl rfl (writes_direction o.direction))

theorem writes_orderClause (d : Dialect) (t : Table) (o : Option SortOrder) :
    Writes (d.orderClause t o).toList [] (Sql.orderLexemes (o.map (d.readItem t))) := by
  cases o with
  | none => exact Writes.nil
  | some o =>
    rw [orderClause, String.toList_append]
    exact Writes.literal [word "ORDER", word "BY"] rfl rfl (writes_orderItem d t o)

theorem writes_clause (p : Paging) (r : RowRange) :
    Writes (p.clause r).toList [] ((readWindow p r).elim [] Sql.Window.lexemes) := by
  have hlimit := Sql.writes_decimal r.limit
  have hstart := Sql.writes_decimal r.start
  cases p with
  | limitOffset =>
    simp only [Paging.clause, String.toList_append, List.append_assoc]
    exact Writes.literal [word "LIMIT"] rfl rfl (hlimit.append rfl
      (Writes.literal [word "OFFSET"] rfl rfl hstart))
  | limitComma =>
    simp only [Paging.clause, String.toList_append, List.append_assoc]
    exact Writes.literal [word "LIMIT"] rfl rfl (hstart.append rfl
      (Writes.literal [word ","] rfl rfl hlimit))
  | offsetFetch =>
    simp only [Paging.clause, String.toList_append, List.append_assoc]
    exact Writes.literal [word "OFFSET"] rfl rfl (hstart.append rfl
      (Writes.literal [word "ROWS", word "FETCH", word "NEXT"] rfl rfl (hlimit.append rfl
        (Writes.ending [word "ROWS", word "ONLY"] rfl))))
  | rowNumber _ => exact Writes.nil

/-! ## Statements -/

theorem opens_orderClause (d : Dialect) (t : Table) (o : Option SortOrder) :
    Sql.opens (d.orderClause t o).toList = true := by
  cases o with
  | none => rfl
  | some o =>
    rw [orderClause, String.toList_append]
    rfl

theorem opens_clause (p : Paging) (r : RowRange) : Sql.opens (p.clause r).toList = true := by
  cases p with
  | rowNumber _ => rfl
  | limitOffset | limitComma | offsetFetch =>
    simp only [Paging.clause, String.toList_append]
    rfl

/-- A read that does not number its rows. -/
theorem writes_unnumbered (d : Dialect) (s : Selection) (w : Option RowRange) (p : Paging) :
    Writes ((Piece.text "SELECT " :: d.plainRead s ++ [Piece.text (d.orderClause s.table s.order ++
        w.elim "" p.clause)]).flatMap Piece.chars)
      (Piece.params (Piece.text "SELECT " :: d.plainRead s ++
        [Piece.text (d.orderClause s.table s.order ++ w.elim "" p.clause)]))
      (Sql.Query.lexemes (.plain (d.readProjection s) (d.readRows s)
        (s.order.map (d.readItem s.table)) (w.bind (readWindow p)))) := by
  have hwindow : Writes (w.elim "" p.clause).toList []
      ((w.bind (readWindow p)).elim [] Sql.Window.lexemes) := by
    cases w with
    | none => exact Writes.nil
    | some r => exact writes_clause p r
  have hopens : Sql.opens (w.elim "" p.clause).toList = true := by
    cases w with
    | none => rfl
    | some r => exact opens_clause p r
  have hend := (writes_orderClause d s.table s.order).append hopens hwindow
  have hread := (writes_plainRead d s).append
    (Sql.opens_append (opens_orderClause d s.table s.order) hopens) hend
  simp only [List.cons_append, List.flatMap_cons, List.flatMap_append, List.flatMap_nil,
    List.append_nil, Piece.chars, String.toList_append, Piece.params_text_cons,
    Piece.params_append, Piece.params_nil, Sql.Query.lexemes, List.append_assoc] at hread ⊢
  exact Writes.literal [word "SELECT"] rfl rfl hread

theorem writes_numbered (d : Dialect) (s : Selection) (r : RowRange) :
    Writes ((d.numberedRead s r (d.derivedLabel.map Identifier.name)).flatMap Piece.chars)
      (Piece.params (d.numberedRead s r (d.derivedLabel.map Identifier.name)))
      (Sql.Query.lexemes (.numbered (d.readItem s.table (numberingOrder s)) (d.readProjection s)
        (d.readRows s) d.derivedLabel (r.start + 1) r.stop)) := by
  have hlabel : Writes ((d.derivedLabel.map Identifier.name).elim "" (" AS " ++ ·)).toList []
      (Sql.derivedLexemes d.derivedLabel) := by
    cases d.derivedLabel with
    | none => exact Writes.nil
    | some l =>
      rw [Option.map_some, Option.elim_some, String.toList_append]
      exact Writes.literal [word "AS"] rfl rfl (Sql.writes_name l)
  -- from the last part to the first, as each has to open what stands before it
  have hbounds := Writes.literal [word "WHERE", word "ROW_NUMBER", word "BETWEEN"]
    (s := " WHERE ROW_NUMBER BETWEEN ".toList) rfl rfl
    ((Sql.writes_decimal (r.start + 1)).append rfl
      (Writes.literal (s := " AND ".toList) [word "AND"] rfl rfl
        (Sql.writes_decimal r.stop)))
  have hend := Writes.literal (s := " )".toList) [word ")"] rfl rfl
    (hlabel.append rfl hbounds)
  have hread := (writes_plainRead d s).append rfl hend
  have horder := (writes_orderItem d s.table (numberingOrder s)).append rfl
    (Writes.literal (s := " ) AS ROW_NUMBER, ".toList) Sql.numberedColumn rfl rfl hread)
  simp only [numberedRead, List.cons_append, List.flatMap_cons, List.flatMap_append,
    List.flatMap_nil, List.append_nil, Piece.chars, String.toList_append, Piece.params_text_cons,
    Piece.params_append, Piece.params_nil, Sql.Query.lexemes, List.append_assoc] at horder ⊢
  exact Writes.literal Sql.numberedOpening rfl rfl horder

theorem derivedName_eq {d : Dialect} {name : Option String}
    (h : d.traits.paging = .rowNumber name) : name = d.derivedLabel.map Identifier.name := by
  cases d <;> cases h <;> rfl

theorem writes_select (d : Dialect) (s : Selection) :
    Writes ((d.selectPieces s).flatMap Piece.chars) (Piece.params (d.selectPieces s))
      (d.query s).lexemes := by
  rw [selectPieces, query]
  cases hrange : s.range with
  | none => exact writes_unnumbered d s none _
  | some r =>
    cases hpaging : d.traits.paging with
    | rowNumber name =>
      rw [derivedName_eq hpaging]
      exact writes_numbered d s r
    | limitOffset | limitComma | offsetFetch => exact writes_unnumbered d s (some r) _

theorem writes_count (d : Dialect) (s : Selection) :
    Writes ((Piece.text "SELECT COUNT(*)" :: d.rows s).flatMap Piece.chars)
      (Piece.params (Piece.text "SELECT COUNT(*)" :: d.rows s)) (d.countQuery s).lexemes := by
  rw [List.flatMap_cons, Piece.params_text_cons]
  exact Writes.literal Sql.countOpening rfl rfl (writes_rows d s)

theorem wellLabelled_readSource (d : Dialect) (t : Table) : (d.readSource t).WellLabelled := by
  rw [readSource]
  cases d.traits.columns with
  | aliased =>
    intro l hl
    cases hl
    decide
  | byTable | bare => exact fun l hl => nomatch hl

/-- The statement of a selection spells the query that the selection stands for. -/
theorem spelled_select (d : Dialect) (s : Selection) :
    Sql.Spelled (d.select s) (.query (d.query s)) := by
  have hwell : (d.query s).rows.source.WellLabelled := by
    rw [rows_query]
    exact wellLabelled_readSource d s.table
  exact Sql.Spelled.ofPieces hwell (writes_select d s)

/-- The statement that counts spells the query for the number of the same rows. -/
theorem spelled_count (d : Dialect) (s : Selection) :
    Sql.Spelled (d.count s) (.query (d.countQuery s)) :=
  Sql.Spelled.ofPieces (wellLabelled_readSource d s.table) (writes_count d s)

end TableGateway.Dialect

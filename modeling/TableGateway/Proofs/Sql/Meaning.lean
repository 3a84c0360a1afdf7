import TableGateway.Proofs.Sql.ReadSpelling

/-!
# What conditions mean

A condition of a query says of a row that it holds, that it does not, or neither, as a comparison
with a missing value does. `Rows.truth` is what the WHERE clause of a statement that has been read
says of a row, `Condition.truth` what a condition of a selection is meant to say. Both leave open
what the comparisons are: that is up to an `Interpretation`, of which nothing is assumed but that
`ILIKE` compares as `LIKE` does after both sides are put in lower case.

* `Dialect.truth_factor`: a rendered condition says in every dialect what the condition means.
* `Dialect.rendered_rows_meaning`: the WHERE clause of a rendered selection holds where all of its
  conditions do, and the rows are the same in all dialects.
-/

namespace TableGateway

universe u

namespace Sql

/-! ## Truth -/

/-- What a condition says of a row. -/
inductive Truth where
  /-- the row meets the condition -/
  | holds
  /-- a value is missing that would tell -/
  | unknown
  /-- the row does not meet the condition -/
  | fails
deriving DecidableEq

namespace Truth

protected def and : Truth → Truth → Truth
  | fails, _ => fails
  | holds, t => t
  | unknown, fails => fails
  | unknown, _ => unknown

protected def not : Truth → Truth
  | holds => fails
  | unknown => unknown
  | fails => holds

/-- All of the conditions together. -/
def conj (ts : List Truth) : Truth := ts.foldr Truth.and holds

theorem and_eq_holds_iff {a b : Truth} : a.and b = holds ↔ a = holds ∧ b = holds := by
  cases a <;> cases b <;> decide

/-- Conditions hold together when each of them holds. -/
theorem conj_eq_holds_iff {ts : List Truth} : conj ts = holds ↔ ∀ t ∈ ts, t = holds := by
  induction ts with
  | nil => simp [conj]
  | cons t ts ih =>
    rw [conj, List.foldr_cons, and_eq_holds_iff, List.forall_mem_cons]
    exact and_congr_right fun _ => ih

end Truth

/-! ## Interpretations -/

/-- What the comparisons of a database are, over whatever its columns hold. -/
structure Interpretation (V : Type u) where
  /-- what a parameter stands for -/
  value : String → V
  /-- a value in lower case -/
  lower : V → V
  /-- what a comparison says of two values -/
  compare : Comparator → V → V → Truth
  /-- what BETWEEN says of a value and its bounds -/
  between : V → V → V → Truth
  /-- what IS NULL says of a value -/
  isNull : V → Truth
  /-- what IS NOT NULL says of a value -/
  isNotNull : V → Truth
  /-- ILIKE does not tell letters by their case -/
  ilike_eq : ∀ x y, compare .ilike x y = compare .like (lower x) (lower y)

/-- A row, by its columns. -/
abbrev Row (V : Type u) := Identifier → V

/-- The column that a reference names, unless it is said to be of another table than the one that
the query is on. -/
def Source.column? (s : Source) (r : Reference) : Option Identifier :=
  if r.qualifier = none ∨ r.qualifier = some s.calledName then some r.column else none

section

variable {V : Type u} (I : Interpretation V) (s : Source) (row : Row V)

@[simp] def Scalar.denote : Scalar → Option V
  | column r => (s.column? r).map row
  | value v => some (I.value v)

@[simp] def Operand.denote : Operand → Option V
  | plain x => x.denote I s row
  | lowered x => (x.denote I s row).map I.lower

@[simp] def Predicate.truth : Predicate → Option Truth
  | compare x c y => (x.denote I s row).bind fun x => (y.denote I s row).map (I.compare c x)
  | between x low high =>
    (x.denote I s row).bind fun x => (low.denote I s row).bind fun low =>
      (high.denote I s row).map (I.between x low)
  | isNull x => (x.denote I s row).map I.isNull
  | isNotNull x => (x.denote I s row).map I.isNotNull

@[simp] def Factor.truth : Factor → Option Truth
  | plain p => p.truth I s row
  | negated p => (p.truth I s row).map Truth.not

/-- What the WHERE clause of a query says of a row, if all columns in it are columns of the table.
Without such a clause nothing is asked of a row. -/
def Rows.truth (r : Rows) : Option Truth :=
  (r.conditions.mapM (Factor.truth I r.source row)).map Truth.conj

/-- The row is one that the query is about. -/
def Rows.keeps (r : Rows) : Option Bool := (r.truth I row).map fun t => decide (t = .holds)

end

/-- The rows that a statement is about, if a database reads it as a query. -/
def queriedRows (st : Statement) : Option Rows :=
  match read st with
  | some (.query q) => some q.rows
  | _ => none

end Sql

namespace Condition

/-- What a condition is meant to say of a row. -/
def truth {V : Type u} (I : Sql.Interpretation V) (row : Sql.Row V) (c : Condition) :
    Sql.Truth :=
  match c.operator, c.values with
  | .isNull, [] => I.isNull (row c.column)
  | .isNotNull, [] => I.isNotNull (row c.column)
  | .between, [low, high] => I.between (row c.column) (I.value low) (I.value high)
  | .equals, [v] => I.compare .equals (row c.column) (I.value v)
  | .notEquals, [v] => I.compare .notEquals (row c.column) (I.value v)
  | .lessThan, [v] => I.compare .less (row c.column) (I.value v)
  | .lessThanEquals, [v] => I.compare .lessEquals (row c.column) (I.value v)
  | .greaterThan, [v] => I.compare .greater (row c.column) (I.value v)
  | .greaterThanEquals, [v] => I.compare .greaterEquals (row c.column) (I.value v)
  | .like, [v] => I.compare .like (row c.column) (I.value v)
  | .ilike, [v] => I.compare .ilike (row c.column) (I.value v)
  | .not, [v] => (I.compare .equals (row c.column) (I.value v)).not
  -- a condition has as many values as its operator takes, and a connective is none
  | _, _ => .unknown

end Condition

namespace Dialect

variable {V : Type u} (I : Sql.Interpretation V) (row : Sql.Row V)

/-- A column of a read is one of its table. -/
@[simp] theorem column?_reference (d : Dialect) (t : Table) (c : Identifier) :
    (d.readSource t).column? (d.reference t c) = some c := by
  rw [readSource, reference, readQualifier]
  cases d.traits.columns with
  | aliased => exact if_pos (.inr rfl)
  | byTable => exact if_pos (.inr rfl)
  | bare => exact if_pos (.inl rfl)

/-- A comparison with one value says what it means; without ILIKE it is LIKE in lower case. -/
theorem truth_factor_single (d : Dialect) (t : Table) (c : Identifier) {op : Operator} (v : String)
    (hcompares : op.arity ≠ .boolean) (hcounted : [v].length = op.valueCount) :
    (d.factor t ⟨c, op, [v], hcompares, hcounted⟩).truth I (d.readSource t) row =
      some (Condition.truth I row ⟨c, op, [v], hcompares, hcounted⟩) := by
  by_cases hnot : op = .not
  · subst hnot
    simp [factor, Condition.truth]
  rw [factor_single d t c v hcompares hcounted hnot]
  by_cases hlower : op = .ilike ∧ d.traits.ilike = false
  · rw [if_pos hlower]
    obtain ⟨rfl, -⟩ := hlower
    simp [Condition.truth, I.ilike_eq]
  · -- every other operator is its own comparison
    have hmeant : Condition.truth I row ⟨c, op, [v], hcompares, hcounted⟩ =
        I.compare (comparator op) (row c) (I.value v) := by
      cases op <;> first | rfl | exact absurd rfl hnot | cases hcounted
    rw [if_neg hlower, hmeant]
    simp

/-- What a condition says of a row is in every dialect what it means. -/
theorem truth_factor (d : Dialect) (t : Table) (c : Condition) :
    (d.factor t c).truth I (d.readSource t) row = some (c.truth I row) := by
  induction c using condition_cases with
  | isNull c => simp [factor, Condition.isNull, Condition.truth]
  | isNotNull c => simp [factor, Condition.isNotNull, Condition.truth]
  | between c low high => simp [factor, Condition.between, Condition.truth]
  | single c op v hcompares hcounted => exact truth_factor_single I row d t c v hcompares hcounted

theorem truth_readRows (d : Dialect) (s : Selection) :
    (d.readRows s).truth I row = some (Sql.Truth.conj (s.conditions.map (·.truth I row))) := by
  have hall : ∀ cs : List Condition,
      (cs.map (d.factor s.table)).mapM (Sql.Factor.truth I (d.readSource s.table) row) =
        some (cs.map (·.truth I row)) := by
    intro cs
    induction cs with
    | nil => rfl
    | cons c cs ih => rw [List.map_cons, List.mapM_cons, ih, truth_factor]; rfl
  rw [Sql.Rows.truth, readRows, hall]
  rfl

theorem queriedRows_select (d : Dialect) (s : Selection) :
    Sql.queriedRows (d.select s) = some (d.readRows s) := by
  rw [Sql.queriedRows, (spelled_select d s).read_eq, ← rows_query]

theorem queriedRows_count (d : Dialect) (s : Selection) :
    Sql.queriedRows (d.count s) = some (d.readRows s) := by
  rw [Sql.queriedRows, (spelled_count d s).read_eq]
  rfl

theorem table_readSource (d : Dialect) (t : Table) : (d.readSource t).name.table = t.name := by
  rw [readSource]
  cases d.traits.columns <;> rfl

/-- A row is kept when it meets all conditions, in every dialect. -/
theorem keeps_readRows (d : Dialect) (s : Selection) :
    (d.readRows s).keeps I row =
      some (decide (∀ c ∈ s.conditions, c.truth I row = .holds)) := by
  rw [Sql.Rows.keeps, truth_readRows, Option.map_some]
  simp [Sql.Truth.conj_eq_holds_iff]

/-- **The meaning of a rendered WHERE clause.** A selection and its count are about the same rows of
the table. What their WHERE clause says of a row is what all conditions say together, by their own
columns, operators and values; without conditions there is no clause, and every row is kept. Which
rows are kept does not depend on the dialect. -/
theorem rendered_rows_meaning (d : Dialect) (s : Selection) :
    ∃ rows : Sql.Rows, Sql.queriedRows (d.select s) = some rows ∧
      Sql.queriedRows (d.count s) = some rows ∧
      rows.source.name.table = s.table.name ∧
      (rows.conditions = [] ↔ s.conditions = []) ∧
      ∀ (V : Type u) (I : Sql.Interpretation V) (row : Sql.Row V),
        rows.truth I row = some (Sql.Truth.conj (s.conditions.map (·.truth I row))) ∧
        (s.conditions = [] → rows.keeps I row = some true) ∧
        ∀ d' : Dialect,
          (Sql.queriedRows (d'.select s)).bind (·.keeps I row) = rows.keeps I row := by
  refine ⟨d.readRows s, queriedRows_select d s, queriedRows_count d s,
    table_readSource d s.table, List.map_eq_nil_iff, fun V I row => ⟨truth_readRows I row d s,
      fun hnil => ?_, fun d' => ?_⟩⟩
  · rw [keeps_readRows, hnil]
    simp
  · rw [queriedRows_select, Option.bind_some, keeps_readRows, keeps_readRows]

end Dialect

end TableGateway

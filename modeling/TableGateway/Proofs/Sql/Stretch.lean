import TableGateway.Proofs.Sql.Meaning

/-!
# The rows of a stretch

Dialects cut a stretch out of a read in four ways: three clauses with a limit and an offset, in
different orders and words, and one that numbers the rows from 1 and names the first and the last
number. `Query.cut` is what a database does that has read such a query, numerals included, so what a
statement gives (`givenRows`) is found in its text alone.

* `numberedBetween_eq`: numbers from `start + 1` to `start + limit` are the `limit` rows after
  `start`.
* `Dialect.givenRows_select`: for the same stretch all dialects give the same rows.
-/

namespace TableGateway

universe u

namespace Sql

variable {α : Type u}

/-- The rows whose number is between two bounds, both included. Rows are numbered from 1. -/
def numberedBetween (first last : Nat) (rows : List α) : List α :=
  ((rows.zipIdx 1).filter fun p => first ≤ p.2 && p.2 ≤ last).map Prod.fst

/-- The rows that a window leaves: so many of them, after so many others are skipped. -/
def Window.cut : Window → List α → List α
  | limitOffset limit offset, rows => (rows.drop offset).take limit
  | limitComma offset limit, rows => (rows.drop offset).take limit
  | offsetFetch offset limit, rows => (rows.drop offset).take limit

/-- The rows that a query gives of those that it is about, which are in its order. -/
def Query.cut : Query → List α → List α
  | plain _ _ _ window, rows => window.elim rows (·.cut rows)
  | numbered _ _ _ _ first last, rows => numberedBetween first last rows
  -- all rows are counted
  | count _, rows => rows

/-- The rows that a statement gives of those that it is about, if a database reads it as a query. -/
def givenRows (st : Statement) (rows : List α) : Option (List α) :=
  match read st with
  | some (.query q) => some (q.cut rows)
  | _ => none

/-- Of rows that are numbered from `base`, those with numbers between two bounds stand together. -/
theorem filter_zipIdx_eq (base first last : Nat) (rows : List α) :
    ((rows.zipIdx base).filter fun p => first ≤ p.2 && p.2 ≤ last).map Prod.fst =
      (rows.drop (first - base)).take (last + 1 - max first base) := by
  induction rows generalizing base with
  | nil => simp
  | cons row rows ih =>
    rw [List.zipIdx_cons, List.filter_cons]
    by_cases hfirst : first ≤ base
    · have hskip : first - base = 0 := Nat.sub_eq_zero_of_le hfirst
      have hskip' : first - (base + 1) = 0 := by omega
      rw [hskip]
      by_cases hlast : base ≤ last
      · have hcount : last + 1 - max first base = last + 1 - max first (base + 1) + 1 := by omega
        simp only [hfirst, hlast, decide_true, Bool.and_self, if_true]
        rw [List.map_cons, ih, hskip', hcount, List.drop_zero, List.drop_zero, List.take_succ_cons]
      · -- the stretch is over
        have hcount : last + 1 - max first base = 0 := by omega
        have hcount' : last + 1 - max first (base + 1) = 0 := by omega
        simp only [hlast, decide_false, Bool.and_false, Bool.false_eq_true, if_false]
        rw [ih, hcount, hcount', List.take_zero, List.take_zero]
    · -- the stretch has not begun
      have hskip : first - base = first - (base + 1) + 1 := by omega
      have hbound : max first base = max first (base + 1) := by omega
      simp only [hfirst, decide_false, Bool.false_and, Bool.false_eq_true, if_false]
      rw [ih, hskip, hbound, List.drop_succ_cons]

/-- The rows with the numbers from `start + 1` to `start + limit` are the `limit` rows that come
after the first `start`. -/
theorem numberedBetween_eq (start limit : Nat) (rows : List α) :
    numberedBetween (start + 1) (start + limit) rows = (rows.drop start).take limit := by
  have hcount : start + limit + 1 - max (start + 1) 1 = limit := by omega
  rw [numberedBetween, filter_zipIdx_eq, Nat.add_sub_cancel, hcount]

end Sql

namespace Dialect

variable {α : Type u}

/-- A read of a stretch gives the rows of the stretch. -/
theorem cut_query (d : Dialect) (s : Selection) {r : RowRange} (hr : s.range = some r)
    (rows : List α) : (d.query s).cut rows = (rows.drop r.start).take r.limit := by
  rw [query]
  split
  · rename_i r' _ hrange _
    obtain rfl := Option.some.inj (hrange.symm.trans hr)
    exact Sql.numberedBetween_eq r'.start r'.limit rows
  · rename_i hplain
    rw [hr, Sql.Query.cut]
    cases hpaging : d.traits.paging with
    | rowNumber name => exact absurd hpaging (hplain r name hr)
    | limitOffset | limitComma | offsetFetch => rfl

/-- **All dialects cut out the same rows.** Of the rows that a selection is about, its statement
gives the same ones in every dialect: those with the numbers from `start + 1` to `start + limit`,
which are `limit` rows unless there are too few. The numerals of the statement say so for rows of
any number, also where the stretch lies at the greatest start there is. -/
theorem givenRows_select (s : Selection) (r : RowRange) (rows : List α) :
    ∃ kept : List α,
      (∀ d : Dialect, Sql.givenRows (d.select { s with range := some r }) rows = some kept) ∧
      kept = Sql.numberedBetween (r.start + 1) (r.start + r.limit) rows ∧
      (∀ i, kept[i]? = if i < r.limit then rows[r.start + i]? else none) ∧
      kept.length = min r.limit (rows.length - r.start) := by
  refine ⟨(rows.drop r.start).take r.limit, fun d => ?_, ?_, fun i => ?_, ?_⟩
  · have hread := (spelled_select d { s with range := some r }).read_eq
    rw [Sql.givenRows, hread]
    exact congrArg some (cut_query d _ rfl rows)
  · exact (Sql.numberedBetween_eq r.start r.limit rows).symm
  · rw [List.getElem?_take, List.getElem?_drop]
  · rw [List.length_take, List.length_drop]

/-- The greatest start: the numbers of the rows go beyond 32 bits and are written in full. -/
example :
    let s : Selection :=
      { table := .named ⟨"cars", by decide⟩, range := some (.clamp 1000 (2 ^ 32)) }
    (select .oracle s).sql =
      "SELECT * FROM ( SELECT ROW_NUMBER() OVER ( ORDER BY cars.id ASC ) AS ROW_NUMBER, cars.* " ++
        "FROM cars ) WHERE ROW_NUMBER BETWEEN 4294967296 AND 4294968295" := by
  decide +kernel

end Dialect

end TableGateway

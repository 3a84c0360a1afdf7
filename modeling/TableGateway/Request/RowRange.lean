import TableGateway.Request.Parameters

/-!
# The rows of a page

A read returns a stretch of its rows: `limit` of them, after the first `start`. Requests ask for it
by `limit` and `offset`, or by `page` and `size`, and asking never fails: what is missing, not a
number or out of range falls back to a default. The bounds are part of the type, so a `RowRange`
always holds between 1 and 1000 rows and its ends are far from overflowing anything.

* `clamp` brings any two numbers into range.
* `ofPage` counts pages from 1; page 0 is page 1.
* `requested` and `requestedPage` read the query parameters.
-/

namespace TableGateway

/-- A stretch of rows: at most `limit` of them, from position `start` on. -/
structure RowRange where
  /-- the greatest number of rows -/
  limit : Nat
  /-- the number of rows before the first one -/
  start : Nat
  limit_pos : 1 ≤ limit
  limit_le : limit ≤ 1000
  start_lt : start < UInt32.size
deriving DecidableEq

namespace RowRange

/-- The number of rows where none is asked for. -/
def defaultLimit : Nat := 25

/-- The greatest number of rows that can be asked for. -/
def maxLimit : Nat := 1000

/-- A number of rows brought into the range from 1 to `maxLimit`. -/
def clampLimit (n : Nat) : Nat := max 1 (min n maxLimit)

theorem clampLimit_pos (n : Nat) : 1 ≤ clampLimit n := Nat.le_max_left ..

theorem clampLimit_le (n : Nat) : clampLimit n ≤ maxLimit := by
  unfold clampLimit maxLimit
  omega

theorem clampLimit_eq_self {n : Nat} (hpos : 1 ≤ n) (hle : n ≤ maxLimit) : clampLimit n = n := by
  unfold clampLimit
  omega

/-- The range with the given bounds, each brought to the nearest one that is allowed. -/
def clamp (limit start : Nat) : RowRange where
  limit := clampLimit limit
  start := min start (UInt32.size - 1)
  limit_pos := clampLimit_pos limit
  limit_le := clampLimit_le limit
  start_lt := Nat.lt_of_le_of_lt (Nat.min_le_right ..) (by decide)

/-- The range where nothing is asked for. -/
def standard : RowRange := clamp defaultLimit 0

instance : Inhabited RowRange := ⟨standard⟩

/-- The position after the last row. -/
def stop (r : RowRange) : Nat := r.start + r.limit

/-- The rows of a page, pages of `size` rows being counted from 1. -/
def ofPage (page size : Nat) : RowRange := clamp size ((max page 1 - 1) * clampLimit size)

/-- The rows that `limit` and `offset` ask for. The two go together: without a usable limit the
offset does not count. -/
def requested (ps : Parameters) : RowRange :=
  match ps.number? "limit" with
  | none | some 0 => standard
  | some limit => clamp limit ((ps.number? "offset").getD 0)

/-- The rows that `page` and `size` ask for, a page having `pageSize` rows if `size` does not say;
without a usable page, those that `limit` and `offset` ask for. -/
def requestedPage (ps : Parameters) (pageSize : Nat) : RowRange :=
  match ps.number? "page" with
  | none => requested ps
  | some page =>
    match ps.number? "size" with
    | none | some 0 => ofPage page pageSize
    | some size => ofPage page size

/-- A limit of zero is as good as none. -/
theorem requested_eq (ps : Parameters) :
    requested ps = (ps.positive? "limit").elim standard fun limit =>
      clamp limit ((ps.number? "offset").getD 0) := by
  rw [requested, Parameters.positive?]
  cases ps.number? "limit" with
  | none => rfl
  | some limit => cases limit <;> rfl

/-- A size of zero is as good as none. -/
theorem requestedPage_eq (ps : Parameters) (pageSize : Nat) :
    requestedPage ps pageSize = (ps.number? "page").elim (requested ps) fun page =>
      ofPage page ((ps.positive? "size").getD pageSize) := by
  rw [requestedPage, Parameters.positive?]
  cases ps.number? "page" with
  | none => rfl
  | some page =>
    cases ps.number? "size" with
    | none => rfl
    | some size => cases size <;> rfl

/-- A range is its two bounds. -/
theorem ext_bounds {a b : RowRange} (hlimit : a.limit = b.limit) (hstart : a.start = b.start) :
    a = b := by
  cases a
  cases b
  cases hlimit
  cases hstart
  rfl

/-- Bounds that are in range are left alone. -/
theorem clamp_bounds (r : RowRange) : clamp r.limit r.start = r := by
  refine ext_bounds (clampLimit_eq_self r.limit_pos r.limit_le) ?_
  exact Nat.min_eq_left (Nat.le_sub_one_of_lt r.start_lt)

end RowRange

end TableGateway

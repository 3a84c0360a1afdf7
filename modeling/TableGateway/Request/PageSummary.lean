import TableGateway.Request.RowRange

/-!
# Page summaries

A reply to a paged read says which page it is and how many there are. Pages are counted from 1 and
have the size of the range that was read; a range that starts inside a page belongs to that page.
The number of pages and of rows is given only when the total is known and not zero.
-/

namespace TableGateway

/-- What a reply says about the page it holds. -/
structure PageSummary where
  /-- the number of the page, counted from 1 -/
  page : Nat
  /-- the number of rows on a full page -/
  size : Nat
  /-- the number of pages, if the total is known -/
  pages : Option Nat
  /-- the number of rows in all, if it is known -/
  total : Option Nat
deriving DecidableEq

/-- The summary of a read of `range` where `total` rows matched. -/
def PageSummary.of (range : RowRange) (total : Option Nat) : PageSummary :=
  let total := total.filter (0 < ·)
  { page := range.start / range.limit + 1
    size := range.limit
    pages := total.map fun t => (t + range.limit - 1) / range.limit
    total }

end TableGateway

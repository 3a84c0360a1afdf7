import Mathlib.Order.Bounds.Defs
import Mathlib.Order.Interval.Finset.Nat
import TableGateway.Proofs.Request.Words

/-!
# Pages and page summaries

The rows of a page are computed from its number, and the number of the page in a summary from the
rows. The two meet in one equivalence: a position is in the rows of a page just when its quotient by
the size, counted from 1, is the number of the page (`RowRange.mem_positions_iff`). It holds as far
as the first row of the page has a position of 32 bits; the pages after that all start at the last
such position.

* `RowRange.Tiled`: as many pages of a size as there are take the rows apart.
* `PageSummary.Describes`: what a summary says about a range and a total.
* `PageSummary.pages_exact` puts them together.
-/

namespace TableGateway

section

variable {size i k total count : Nat}

/-- The page of a position, counted from 1. -/
theorem eq_div_add_one_iff (hsize : 0 < size) :
    k = i / size + 1 ↔ (k - 1) * size ≤ i ∧ i < k * size := by
  cases k with
  | zero => simp
  | succ k =>
    rw [Nat.add_sub_cancel, ← Nat.le_div_iff_mul_le hsize, ← Nat.div_lt_iff_lt_mul hsize]
    omega

/-- The number of pages is at most `count` if there is room for all rows on that many. -/
theorem pageCount_le_iff (hsize : 0 < size) :
    (total + size - 1) / size ≤ count ↔ total ≤ count * size := by
  rw [Nat.div_le_iff_le_mul hsize]
  omega

/-- A page that is not after the last one starts with a row. -/
theorem lt_pageCount_iff (hsize : 0 < size) :
    k < (total + size - 1) / size ↔ k * size < total := by
  rw [← Nat.not_le, pageCount_le_iff hsize, Nat.not_le]

end

/-! ## The rows of pages -/

namespace RowRange

/-- The positions of the rows of a range. -/
def positions (r : RowRange) : Finset Nat := Finset.Ico r.start r.stop

/-- A page starts behind the pages before it, unless that is too far. -/
theorem start_ofPage {page size : Nat}
    (hfits : (max page 1 - 1) * clampLimit size < UInt32.size) :
    (ofPage page size).start = (max page 1 - 1) * clampLimit size :=
  Nat.min_eq_left (Nat.le_sub_one_of_lt hfits)

section

variable {page size : Nat} (hsize : 1 ≤ size) (hmax : size ≤ maxLimit) (hpage : 1 ≤ page)
  (hfits : (page - 1) * size < UInt32.size)
include hsize hmax hpage hfits

theorem bounds_ofPage :
    (ofPage page size).start = (page - 1) * size ∧ (ofPage page size).stop = page * size := by
  have hclamp : clampLimit size = size := clampLimit_eq_self hsize hmax
  have hfirst : max page 1 - 1 = page - 1 := by rw [Nat.max_eq_left hpage]
  have hstart : (ofPage page size).start = (page - 1) * size := by
    rw [start_ofPage (by rwa [hfirst, hclamp]), hfirst, hclamp]
  have hnext : page * size = (page - 1) * size + size := by
    rw [← Nat.succ_mul, Nat.succ_eq_add_one, Nat.sub_add_cancel hpage]
  refine ⟨hstart, ?_⟩
  rw [stop, hstart, hnext]
  exact congrArg _ hclamp

/-- A page has the positions that it is the page of. -/
theorem mem_positions_iff {i : Nat} :
    i ∈ (ofPage page size).positions ↔ page = i / size + 1 := by
  obtain ⟨hstart, hstop⟩ := bounds_ofPage hsize hmax hpage hfits
  rw [positions, Finset.mem_Ico, hstart, hstop, eq_div_add_one_iff hsize]

end

/-- The first `count` pages of a size follow upon each other, and each of `total` rows is on one of
them; they are not more than it takes. -/
structure Tiled (size count total : Nat) : Prop where
  /-- the first page starts with the first row -/
  first : (ofPage 1 size).start = 0
  /-- a page starts where the page before it ends -/
  consecutive : ∀ page, 1 ≤ page → page < count →
    (ofPage (page + 1) size).start = (ofPage page size).stop
  /-- no position is on two pages -/
  disjoint : ∀ page page', 1 ≤ page → page < page' → page' ≤ count →
    Disjoint (ofPage page size).positions (ofPage page' size).positions
  /-- every row is on one page -/
  covered : ∀ i < total, ∃! page, (1 ≤ page ∧ page ≤ count) ∧ i ∈ (ofPage page size).positions
  /-- there is a row on the last page -/
  last : ∃ i < total, i ∈ (ofPage count size).positions

/-- As many pages as a summary says take the rows apart, if their number has 32 bits. -/
theorem tiled {size total : Nat} (hsize : 1 ≤ size) (hmax : size ≤ maxLimit) (htotal : 1 ≤ total)
    (hbound : total < UInt32.size) : Tiled size ((total + size - 1) / size) total := by
  generalize hcount : (total + size - 1) / size = count
  have hlt : ∀ {k}, k < count ↔ k * size < total := by
    intro k
    rw [← hcount]
    exact lt_pageCount_iff hsize
  have hpos : 0 < count := hlt.mpr (by omega)
  -- up to the last page, pages start before the last row
  have hfits : ∀ {page}, 1 ≤ page → page ≤ count → (page - 1) * size < UInt32.size := by
    intro page hpage hle
    have hrow : (page - 1) * size < total := hlt.mp (by omega)
    omega
  have hmem : ∀ {page i}, 1 ≤ page → page ≤ count →
      (i ∈ (ofPage page size).positions ↔ page = i / size + 1) := fun hpage hle =>
    mem_positions_iff hsize hmax hpage (hfits hpage hle)
  constructor
  · exact (bounds_ofPage hsize hmax (Nat.le_refl 1) (hfits (Nat.le_refl 1) hpos)).1.trans
      (Nat.zero_mul size)
  · intro page hpage hcount
    obtain ⟨-, hstop⟩ := bounds_ofPage hsize hmax hpage (hfits hpage (by omega))
    obtain ⟨hstart, -⟩ :=
      bounds_ofPage hsize hmax (Nat.le_add_left 1 page) (hfits (by omega) hcount)
    rw [hstop, hstart, Nat.add_sub_cancel]
  · intro page page' hpage hbefore hle
    refine Finset.disjoint_left.mpr fun i hi hi' => ?_
    have hi := (hmem hpage (by omega)).mp hi
    have hi' := (hmem (by omega) hle).mp hi'
    omega
  · intro i hi
    have hpage : i / size < count :=
      hlt.mpr (Nat.lt_of_le_of_lt (Nat.div_mul_le_self i size) hi)
    have hone : 1 ≤ i / size + 1 := Nat.le_add_left ..
    refine ⟨i / size + 1, ⟨⟨hone, hpage⟩, (hmem hone hpage).mpr rfl⟩, ?_⟩
    rintro page ⟨⟨hone, hle⟩, hi⟩
    exact (hmem hone hle).mp hi
  · refine ⟨(count - 1) * size, hlt.mp (by omega), (hmem hpos (Nat.le_refl count)).mpr ?_⟩
    rw [Nat.mul_div_cancel _ hsize, Nat.sub_add_cancel hpos]

end RowRange

/-! ## Summaries -/

namespace PageSummary

open RowRange (clampLimit ofPage)

/-- What a summary says about a range, and about a total if it is known. -/
structure Describes (s : PageSummary) (r : RowRange) (total : Option Nat) : Prop where
  /-- pages have the size of the range -/
  size : s.size = r.limit
  /-- the page is the one on which the range starts -/
  page : ∀ k, k = s.page ↔ (k - 1) * r.limit ≤ r.start ∧ r.start < k * r.limit
  /-- pages are not counted if there are no rows to count -/
  pages_none : s.pages = none ↔ total = none ∨ total = some 0
  /-- as many pages are counted as it takes for all rows -/
  pages : ∀ n t, s.pages = some n → total = some t → IsLeast {m | t ≤ m * r.limit} n
  /-- the total is given where pages are counted -/
  total_none : s.total = none ↔ total = none ∨ total = some 0
  /-- the total is the one that is known -/
  total : ∀ t, s.total = some t → total = some t

theorem describes_of (r : RowRange) (total : Option Nat) : (of r total).Describes r total := by
  have hnone : total.filter (0 < ·) = none ↔ total = none ∨ total = some 0 := by
    cases total with
    | none => simp
    | some t => simp [Option.filter_some]
  constructor
  · rfl
  · intro k
    exact eq_div_add_one_iff r.limit_pos
  · rw [← hnone]
    exact Option.map_eq_none_iff
  · intro n t hpages htotal
    subst htotal
    obtain ⟨t', ht', rfl⟩ := Option.map_eq_some_iff.mp hpages
    obtain ⟨htotal, -⟩ := Option.filter_eq_some_iff.mp ht'
    obtain rfl := Option.some.inj htotal
    exact ⟨(pageCount_le_iff r.limit_pos).mp (Nat.le_refl _),
      fun m hm => (pageCount_le_iff r.limit_pos).mpr hm⟩
  · exact hnone
  · intro t ht
    exact (Option.filter_eq_some_iff.mp ht).1

/-- A page whose first row has a position of 32 bits is named in its summary. -/
theorem page_of_fits {page size : Nat} (total : Option Nat)
    (hfits : (max page 1 - 1) * clampLimit size ≤ 2 ^ 32 - 1) :
    (of (ofPage page size) total).page = max page 1 := by
  have hstart : (ofPage page size).start = (max page 1 - 1) * clampLimit size :=
    RowRange.start_ofPage (Nat.lt_of_le_of_lt hfits (by decide))
  have hpage : 1 ≤ max page 1 := Nat.le_max_right ..
  show (ofPage page size).start / clampLimit size + 1 = max page 1
  rw [hstart, Nat.mul_div_cancel _ (RowRange.clampLimit_pos size), Nat.sub_add_cancel hpage]

/-- The summary of a page that is too far names one before it. -/
theorem page_lt_of_not_fits {page size : Nat} (total : Option Nat)
    (hfar : 2 ^ 32 - 1 < (max page 1 - 1) * clampLimit size) :
    (of (ofPage page size) total).page < max page 1 := by
  have hstart : (ofPage page size).start = 2 ^ 32 - 1 := Nat.min_eq_right (Nat.le_of_lt hfar)
  have hquotient : (2 ^ 32 - 1) / clampLimit size < max page 1 - 1 :=
    (Nat.div_lt_iff_lt_mul (RowRange.clampLimit_pos size)).mpr hfar
  show (ofPage page size).start / clampLimit size + 1 < max page 1
  rw [hstart]
  omega

/-- **Pages take the rows apart, and summaries name them.** For every size and every total of 32
bits, the pages that a summary counts follow upon each other and have every row on one of them, the
last page too having a row. The summary of a page names it exactly if its first row has a position
of 32 bits, and names an earlier one otherwise. Whatever range is read, its summary tells the page
it starts on, and the least number of pages there is room on for a total that is known and not zero.
All this is computed alike in words of 32 and 64 bits, in which steps could wrap around. -/
theorem pages_exact :
    (∀ size total, 1 ≤ size → size ≤ 1000 → 1 ≤ total → total ≤ 2 ^ 32 - 1 →
      ∃ n, (∀ r : RowRange, r.limit = size → (of r (some total)).pages = some n) ∧
        RowRange.Tiled size n total) ∧
    (∀ page size total,
      ((of (ofPage page size) total).page = max page 1 ↔
        (max page 1 - 1) * max 1 (min size 1000) ≤ 2 ^ 32 - 1) ∧
      (2 ^ 32 - 1 < (max page 1 - 1) * max 1 (min size 1000) →
        (of (ofPage page size) total).page < max page 1)) ∧
    (∀ r total, (of r total).Describes r total) ∧
    (∀ page size : UInt32,
      (RowRange.Words.ofPage page size).Represents (ofPage page.toNat size.toNat)) ∧
    ∀ (w : RowRange.Words) (r : RowRange), w.Represents r → w.stop.toNat = r.stop ∧
      ∀ total : Option UInt64, (Words.of w total).Represents (of r (total.map UInt64.toNat)) := by
  refine ⟨?_, ?_, describes_of, RowRange.Words.represents_ofPage,
    fun w r h => ⟨RowRange.Words.toNat_stop h, Words.represents_of h⟩⟩
  · intro size total hsize hmax htotal hbound
    refine ⟨(total + size - 1) / size, ?_, ?_⟩
    · rintro r rfl
      have hknown : (some total).filter (0 < ·) = some total :=
        Option.filter_eq_some_iff.mpr ⟨rfl, decide_eq_true htotal⟩
      show ((some total).filter (0 < ·)).map _ = _
      rw [hknown]
      rfl
    · exact RowRange.tiled hsize hmax htotal (Nat.lt_of_le_of_lt hbound (by decide))
  · intro page size total
    refine ⟨⟨fun hpage => ?_, page_of_fits total⟩, page_lt_of_not_fits total⟩
    refine Nat.not_lt.mp fun hfar => ?_
    exact Nat.ne_of_lt (page_lt_of_not_fits total hfar) hpage

/-- As many rows as can be told apart by 32 bits, in pages of a thousand: the last page has rows and
is named, and the summary of the one after it names it again. -/
theorem pages_exact_edge :
    let total := 4294967295
    RowRange.Tiled 1000 4294968 total ∧
      (of (ofPage 4294968 1000) (some total)).page = 4294968 ∧
      (of (ofPage 4294969 1000) (some total)).page < 4294969 ∧
      (RowRange.clamp 1000 total).words.stop.toNat = 4294968295 := by
  intro total
  obtain ⟨hpages, hnamed, -, -, hwords⟩ := pages_exact
  obtain ⟨n, hn, htiled⟩ := hpages 1000 total (by decide) (by decide) (by decide) (by decide)
  have hcount : (of (.clamp 1000 0) (some total)).pages = some 4294968 := by decide
  obtain rfl := Option.some.inj (hcount.symm.trans (hn (.clamp 1000 0) rfl))
  obtain ⟨hstop, -⟩ := hwords _ _ (RowRange.Words.represents_words (.clamp 1000 total))
  obtain ⟨hexact, -⟩ := hnamed 4294968 1000 (some total)
  obtain ⟨-, hfar⟩ := hnamed 4294969 1000 (some total)
  exact ⟨htiled, hexact.mpr (by decide), hfar (by decide), hstop⟩

end PageSummary

end TableGateway

import Mathlib.Data.UInt
import TableGateway.Request.PageSummary
import TableGateway.Text.Ascii

/-!
# Page arithmetic in machine words

Numerals are read, and ranges and page summaries computed, with natural numbers, which have no end.
A server computes them in words of 32 and 64 bits, where a sum, a difference or a product that does
not fit wraps around. Here the computations are written down for words, step by step. They watch for
overflow in two places only: a digit is not appended to a word that would get too large, and a
product stops at the greatest word. Still they give the same numbers
(`RowRange.Words.represents_requestedPage`, `RowRange.Words.toNat_stop`,
`PageSummary.Words.represents_of`), so no step wraps around.
-/

namespace TableGateway

/-! ## Operations -/

/-- A number fits in a word of 32 bits if it is not greater than the greatest one. -/
theorem le_maxWord_iff {w : UInt64} : w ≤ 0xFFFFFFFF ↔ w.toNat < UInt32.size :=
  UInt64.le_iff_toNat_le.trans Nat.lt_succ_iff.symm

theorem toNat_toUInt32_of_lt {w : UInt64} (h : w.toNat < UInt32.size) :
    w.toUInt32.toNat = w.toNat := by
  rw [UInt64.toNat_toUInt32]
  exact Nat.mod_eq_of_lt h

/-- The product of two words, or the greatest word if it is too large for one. -/
def saturatingMul (a b : UInt32) : UInt32 :=
  let product := a.toUInt64 * b.toUInt64
  if product ≤ 0xFFFFFFFF then product.toUInt32 else 0xFFFFFFFF

theorem toNat_saturatingMul (a b : UInt32) :
    (saturatingMul a b).toNat = min (a.toNat * b.toNat) (UInt32.size - 1) := by
  have hfits : a.toNat * b.toNat < 2 ^ 64 :=
    calc a.toNat * b.toNat < 2 ^ 32 * 2 ^ 32 := Nat.mul_lt_mul'' a.toNat_lt b.toNat_lt
      _ = 2 ^ 64 := by decide
  have hproduct : (a.toUInt64 * b.toUInt64).toNat = a.toNat * b.toNat := by
    rw [UInt64.toNat_mul, UInt32.toNat_toUInt64, UInt32.toNat_toUInt64, Nat.mod_eq_of_lt hfits]
  rw [saturatingMul]
  split
  · rename_i h
    have hsmall := le_maxWord_iff.mp h
    rw [toNat_toUInt32_of_lt hsmall, hproduct]
    rw [hproduct] at hsmall
    exact (Nat.min_eq_left (Nat.le_sub_one_of_lt hsmall)).symm
  · rename_i h
    have hlarge := mt le_maxWord_iff.mpr h
    rw [hproduct] at hlarge
    have hmax : UInt32.size - 1 ≤ a.toNat * b.toNat :=
      Nat.le_trans (Nat.sub_le ..) (Nat.le_of_not_lt hlarge)
    exact (Nat.min_eq_right hmax).symm

/-- The quotient of two words rounded up. -/
def divCeil (a b : UInt64) : UInt64 := if a % b = 0 then a / b else a / b + 1

/-- Rounding a quotient up adds one to it where there is a remainder. -/
theorem add_pred_div_eq {a b : Nat} (hb : 0 < b) :
    (a + b - 1) / b = if a % b = 0 then a / b else a / b + 1 := by
  have hdiv := Nat.div_add_mod a b
  have hmod := Nat.mod_lt a hb
  have hsum : a + b - 1 = (a % b + b - 1) + b * (a / b) := by omega
  rw [hsum, Nat.add_mul_div_left _ _ hb]
  split
  · rename_i hzero
    rw [hzero, Nat.zero_add, Nat.div_eq_of_lt (by omega), Nat.zero_add]
  · have hone : (a % b + b - 1) / b = 1 :=
      Nat.div_eq_of_lt_le (by omega) (by omega)
    rw [hone, Nat.add_comm]

theorem toNat_divCeil {a b : UInt64} (hb : 0 < b.toNat) :
    (divCeil a b).toNat = (a.toNat + b.toNat - 1) / b.toNat := by
  have hzero : a % b = 0 ↔ a.toNat % b.toNat = 0 := by
    rw [← UInt64.toNat_inj, UInt64.toNat_mod]
    rfl
  rw [divCeil, add_pred_div_eq hb]
  split
  · rename_i hdivides
    rw [UInt64.toNat_div, if_pos (hzero.mp hdivides)]
  · rename_i hremainder
    have hrest := mt hzero.mpr hremainder
    -- where there is a remainder, the divisor is not 1
    have htwo : 2 ≤ b.toNat := by
      rcases Nat.lt_or_ge b.toNat 2 with hone | htwo
      · obtain hone : b.toNat = 1 := by omega
        rw [hone, Nat.mod_one] at hrest
        exact absurd rfl hrest
      · exact htwo
    have hsmall : a.toNat / b.toNat ≤ a.toNat / 2 := Nat.div_le_div_left htwo (by decide)
    have hword := a.toNat_lt
    rw [if_neg hrest, UInt64.toNat_add, UInt64.toNat_div]
    exact Nat.mod_eq_of_lt (show a.toNat / b.toNat + 1 < 2 ^ 64 by omega)

/-! ## Numerals -/

namespace Text

/-- A word with one more digit at the end, unless it gets too large for a word. -/
def appendDigit (n : UInt32) (c : Char) : Option UInt32 :=
  let longer := n.toUInt64 * 10 + (c.val - 48).toUInt64
  if longer ≤ 0xFFFFFFFF then some longer.toUInt32 else none

/-- The word that a numeral stands for, read digit by digit. -/
def word? (s : String) : Option UInt32 :=
  if isNumeral s then s.toList.foldlM appendDigit 0 else none

/-- A digit is appended without wrapping around. -/
theorem appendDigit_eq (n : UInt32) {c : Char} (hc : c.isDigit = true) :
    (appendDigit n c).map UInt32.toNat =
      let longer := 10 * n.toNat + (c.toNat - '0'.toNat)
      if longer < UInt32.size then some longer else none := by
  obtain ⟨hlow, hhigh⟩ := isDigit_iff.mp hc
  have hdigit : (c.val - 48).toUInt64.toNat = c.toNat - '0'.toNat := by
    rw [UInt32.toNat_toUInt64]
    exact UInt32.toNat_sub_of_le _ _ (UInt32.le_iff_toNat_le.mpr hlow)
  have hten : (n.toUInt64 * 10).toNat = 10 * n.toNat := by
    have hword := n.toNat_lt
    rw [UInt64.toNat_mul, UInt32.toNat_toUInt64, Nat.mul_comm]
    exact Nat.mod_eq_of_lt (show 10 * n.toNat < 2 ^ 64 by omega)
  have hlonger : (n.toUInt64 * 10 + (c.val - 48).toUInt64).toNat =
      10 * n.toNat + (c.toNat - '0'.toNat) := by
    have hword := n.toNat_lt
    rw [UInt64.toNat_add, hten, hdigit]
    exact Nat.mod_eq_of_lt (show _ < 2 ^ 64 by omega)
  rw [appendDigit]
  dsimp only
  rw [← hlonger]
  split
  · rename_i h
    have hsmall := le_maxWord_iff.mp h
    rw [if_pos hsmall, Option.map_some, toNat_toUInt32_of_lt hsmall]
  · rename_i h
    rw [if_neg (mt le_maxWord_iff.mpr h)]
    rfl

/-- Digits that follow do not make a number smaller. -/
theorem le_ofDigitChars (cs : List Char) (n : Nat) : n ≤ Nat.ofDigitChars 10 cs n := by
  have hpow : 1 ≤ 10 ^ cs.length := Nat.one_le_pow _ _ (by decide)
  rw [Nat.ofDigitChars_eq_ofDigitChars_zero]
  calc n = 1 * n := (Nat.one_mul n).symm
    _ ≤ 10 ^ cs.length * n := Nat.mul_le_mul_right n hpow
    _ ≤ 10 ^ cs.length * n + Nat.ofDigitChars 10 cs 0 := Nat.le_add_right ..

/-- Digits are appended as long as the number has 32 bits, and once it has not it never will. -/
theorem foldlM_appendDigit {cs : List Char} (hcs : ∀ c ∈ cs, c.isDigit = true) (n : UInt32) :
    (cs.foldlM appendDigit n).map UInt32.toNat =
      let value := Nat.ofDigitChars 10 cs n.toNat
      if value < UInt32.size then some value else none := by
  induction cs generalizing n with
  | nil => exact (if_pos n.toNat_lt_size).symm
  | cons c cs ih =>
    have hstep := appendDigit_eq n (hcs c (List.mem_cons_self ..))
    rw [List.foldlM_cons, Nat.ofDigitChars_cons]
    dsimp only at hstep ⊢
    split at hstep
    · obtain ⟨m, hm, hvalue⟩ := Option.map_eq_some_iff.mp hstep
      rw [hm, ← hvalue]
      exact ih (fun c hc => hcs c (List.mem_cons_of_mem _ hc)) m
    · rename_i hlarge
      have hgrows := le_ofDigitChars cs (10 * n.toNat + (c.toNat - '0'.toNat))
      rw [Option.map_eq_none_iff.mp hstep, if_neg (by omega)]
      rfl

/-- The words that are read are the numbers of 32 bits. -/
theorem numeral?_eq_word? (s : String) :
    numeral? UInt32.size s = (word? s).map UInt32.toNat := by
  rw [numeral?, word?]
  split
  · rename_i hnumeral
    rw [isNumeral, Bool.and_eq_true, List.all_eq_true] at hnumeral
    exact (foldlM_appendDigit hnumeral.2 0).symm
  · rfl

end Text

/-! ## Ranges -/

namespace RowRange

/-- The bounds of a range as words. -/
structure Words where
  /-- the greatest number of rows -/
  limit : UInt32
  /-- the number of rows before the first one -/
  start : UInt32

/-- The bounds of a range, both of which fit. -/
def words (r : RowRange) : Words := ⟨.ofNat r.limit, .ofNat r.start⟩

namespace Words

/-- The words stand for the bounds of the range. -/
structure Represents (w : Words) (r : RowRange) : Prop where
  limit : w.limit.toNat = r.limit
  start : w.start.toNat = r.start

/-- The number of rows brought into the range from 1 to 1000. -/
def clampLimit (n : UInt32) : UInt32 := max 1 (min n 1000)

/-- The range with the given bounds. -/
def clamp (limit start : UInt32) : Words := ⟨clampLimit limit, start⟩

/-- The rows of a page. The difference is taken of two words. -/
def ofPage (page size : UInt32) : Words :=
  ⟨clampLimit size, saturatingMul (max page 1 - 1) (clampLimit size)⟩

/-- The first value of a key as a word. -/
def number? (ps : Parameters) (key : String) : Option UInt32 := (ps.first? key).bind Text.word?

/-- The first value of a key as a word, if it is not zero. -/
def positive? (ps : Parameters) (key : String) : Option UInt32 := (number? ps key).filter (· ≠ 0)

/-- The rows that `limit` and `offset` ask for. -/
def requested (ps : Parameters) : Words :=
  (positive? ps "limit").elim ⟨25, 0⟩ fun limit => clamp limit ((number? ps "offset").getD 0)

/-- The rows that `page` and `size` ask for, or else `limit` and `offset`. -/
def requestedPage (ps : Parameters) (pageSize : UInt32) : Words :=
  (number? ps "page").elim (requested ps) fun page =>
    ofPage page ((positive? ps "size").getD pageSize)

/-- The position after the last row, in a word of 64 bits. -/
def stop (w : Words) : UInt64 := w.start.toUInt64 + w.limit.toUInt64

theorem represents_words (r : RowRange) : r.words.Represents r where
  limit := UInt32.toNat_ofNat_of_lt' (Nat.lt_of_le_of_lt r.limit_le (by decide))
  start := UInt32.toNat_ofNat_of_lt' r.start_lt

theorem toNat_clampLimit (n : UInt32) : (clampLimit n).toNat = RowRange.clampLimit n.toNat := by
  rw [clampLimit, RowRange.clampLimit, UInt32.toNat_max, UInt32.toNat_min]
  rfl

theorem represents_clamp (limit start : UInt32) :
    (clamp limit start).Represents (RowRange.clamp limit.toNat start.toNat) where
  limit := toNat_clampLimit limit
  start := (Nat.min_eq_left (Nat.le_sub_one_of_lt start.toNat_lt_size)).symm

theorem represents_ofPage (page size : UInt32) :
    (ofPage page size).Represents (RowRange.ofPage page.toNat size.toNat) where
  limit := toNat_clampLimit size
  start := by
    have hmax : (max page 1).toNat = max page.toNat 1 := UInt32.toNat_max page 1
    -- the difference does not wrap around, since no page is before the first one
    have hpos : 1 ≤ max page 1 := by
      rw [UInt32.le_iff_toNat_le, hmax]
      exact Nat.le_max_right ..
    have hpred : (max page 1 - 1).toNat = max page.toNat 1 - 1 := by
      rw [UInt32.toNat_sub_of_le _ _ hpos, hmax]
      rfl
    show (saturatingMul (max page 1 - 1) (clampLimit size)).toNat = _
    rw [toNat_saturatingMul, hpred, toNat_clampLimit]
    rfl

/-- A value of a key is the number of its word. -/
theorem number?_eq (ps : Parameters) (key : String) :
    ps.number? key = (number? ps key).map UInt32.toNat := by
  rw [number?, Option.map_bind, Parameters.number?]
  congr 1
  exact funext Text.numeral?_eq_word?

theorem positive?_eq (ps : Parameters) (key : String) :
    ps.positive? key = (positive? ps key).map UInt32.toNat := by
  rw [Parameters.positive?, number?_eq, positive?, Option.filter_map]
  congr 2
  funext n
  exact decide_eq_decide.mpr (not_congr (@UInt32.toNat_inj n 0))

theorem represents_requested (ps : Parameters) :
    (requested ps).Represents (RowRange.requested ps) := by
  have hstart : (ps.number? "offset").getD 0 = ((number? ps "offset").getD 0).toNat := by
    rw [number?_eq]
    cases number? ps "offset" <;> rfl
  rw [RowRange.requested_eq, positive?_eq, hstart, requested]
  cases positive? ps "limit" with
  | none => exact ⟨rfl, rfl⟩
  | some limit => exact represents_clamp limit _

/-- Whatever is asked for is computed alike in words. -/
theorem represents_requestedPage (ps : Parameters) (pageSize : UInt32) :
    (requestedPage ps pageSize).Represents (RowRange.requestedPage ps pageSize.toNat) := by
  have hsize : (ps.positive? "size").getD pageSize.toNat =
      ((positive? ps "size").getD pageSize).toNat := by
    rw [positive?_eq]
    cases positive? ps "size" <;> rfl
  rw [RowRange.requestedPage_eq, number?_eq, hsize, requestedPage]
  cases number? ps "page" with
  | none => exact represents_requested ps
  | some page => exact represents_ofPage page _

/-- The end of a range fits in a word of 64 bits. -/
theorem toNat_stop {w : Words} {r : RowRange} (h : w.Represents r) : w.stop.toNat = r.stop := by
  rw [stop, UInt64.toNat_add, UInt32.toNat_toUInt64, UInt32.toNat_toUInt64, h.limit, h.start]
  have hlimit := r.limit_le
  have hstart : r.start < 2 ^ 32 := r.start_lt
  exact Nat.mod_eq_of_lt (show r.start + r.limit < 2 ^ 64 by omega)

end Words

end RowRange

/-! ## Page summaries -/

namespace PageSummary

/-- What a reply says about the page it holds, in words. -/
structure Words where
  /-- the number of the page, counted from 1 -/
  page : UInt64
  /-- the number of rows on a full page -/
  size : UInt32
  /-- the number of pages, if the total is known -/
  pages : Option UInt64
  /-- the number of rows in all, if it is known -/
  total : Option UInt64

namespace Words

/-- The summary of a read of a range where `total` rows matched. -/
def of (range : RowRange.Words) (total : Option UInt64) : Words :=
  let size := max range.limit 1
  let total := total.filter (0 < ·)
  { page := range.start.toUInt64 / size.toUInt64 + 1
    size
    pages := total.map fun t => divCeil t size.toUInt64
    total }

/-- The words stand for the numbers of the summary. -/
structure Represents (w : Words) (s : PageSummary) : Prop where
  page : w.page.toNat = s.page
  size : w.size.toNat = s.size
  pages : w.pages.map UInt64.toNat = s.pages
  total : w.total.map UInt64.toNat = s.total

theorem represents_of {w : RowRange.Words} {r : RowRange} (h : w.Represents r)
    (total : Option UInt64) :
    (of w total).Represents (PageSummary.of r (total.map UInt64.toNat)) := by
  have hsize : (max w.limit 1).toNat = r.limit := by
    rw [UInt32.toNat_max, h.limit]
    exact Nat.max_eq_left r.limit_pos
  have hwide : (max w.limit 1).toUInt64.toNat = r.limit := by
    rw [UInt32.toNat_toUInt64, hsize]
  have htotal : (total.filter (0 < ·)).map UInt64.toNat =
      (total.map UInt64.toNat).filter (0 < ·) := by
    rw [Option.filter_map]
    rfl
  constructor
  · have hquotient : (w.start.toUInt64 / (max w.limit 1).toUInt64).toNat = r.start / r.limit := by
      rw [UInt64.toNat_div, hwide, UInt32.toNat_toUInt64, h.start]
    have hle : r.start / r.limit ≤ r.start := Nat.div_le_self ..
    have hstart : r.start < 2 ^ 32 := r.start_lt
    show (w.start.toUInt64 / (max w.limit 1).toUInt64 + 1).toNat = r.start / r.limit + 1
    rw [UInt64.toNat_add, hquotient]
    exact Nat.mod_eq_of_lt (show r.start / r.limit + 1 < 2 ^ 64 by omega)
  · exact hsize
  · show ((total.filter (0 < ·)).map _).map _ = ((total.map UInt64.toNat).filter (0 < ·)).map _
    rw [← htotal, Option.map_map, Option.map_map]
    congr 1
    funext t
    show (divCeil t (max w.limit 1).toUInt64).toNat = (t.toNat + r.limit - 1) / r.limit
    rw [toNat_divCeil (hwide ▸ r.limit_pos), hwide]
  · exact htotal

end Words

end PageSummary

end TableGateway

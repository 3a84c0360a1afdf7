import Mathlib.Data.Nat.Digits.Defs
import TableGateway.Proofs.Request.Words

/-!
# Which rows are asked for

The rows that a request asks for are settled by at most four parameters, each of which may be there
or not, be a number or not, and be too large or not. `RowRange.Asked` lists the cases that matter;
there is one rule for each. A parameter counts if its first value is a numeral of a number of 32
bits (`Parameters.Usable`), and what a numeral stands for is said by the places of its digits
(`Text.Denotes`).

`RowRange.requestedPage_exact` says that the rows that are computed are those asked for, in machine
words too, and that a range can be asked for in so many words.
-/

namespace TableGateway

/-! ## Numerals -/

namespace Text

/-- The number that a digit stands for. -/
def digitValue (c : Char) : Nat := c.toNat - '0'.toNat

/-- The text is made of ASCII digits, of one at least, and these are the digits of the number in
base 10, the last one that of the units. There may be zeros in front. -/
structure Denotes (s : String) (n : Nat) : Prop where
  nonempty : s ≠ ""
  digits : ∀ c ∈ s.toList, c.isDigit = true
  value : Nat.ofDigits 10 (s.toList.reverse.map digitValue) = n

/-- Reading from left to right gives every digit its place. -/
theorem ofDigitChars_eq (cs : List Char) :
    Nat.ofDigitChars 10 cs 0 = Nat.ofDigits 10 (cs.reverse.map digitValue) := by
  induction cs with
  | nil => rfl
  | cons c cs ih =>
    rw [Nat.ofDigitChars_cons, Nat.ofDigitChars_eq_ofDigitChars_zero, ih, List.reverse_cons,
      List.map_append, Nat.ofDigits_append, List.length_map, List.length_reverse, Nat.add_comm,
      List.map_singleton, Nat.ofDigits_singleton, Nat.mul_zero, Nat.zero_add]
    rfl

theorem isNumeral_iff {s : String} :
    isNumeral s = true ↔ s ≠ "" ∧ ∀ c ∈ s.toList, c.isDigit = true := by
  rw [isNumeral, Bool.and_eq_true, List.all_eq_true, Bool.not_eq_true', List.isEmpty_eq_false_iff,
    ne_eq, String.toList_eq_nil_iff]

/-- What is read are the numbers below the bound that texts stand for. -/
theorem numeral?_eq_some_iff {bound n : Nat} {s : String} :
    numeral? bound s = some n ↔ Denotes s n ∧ n < bound := by
  rw [numeral?, ofDigitChars_eq]
  constructor
  · intro h
    split at h
    · rename_i hnumeral
      obtain ⟨hnonempty, hdigits⟩ := isNumeral_iff.mp hnumeral
      obtain ⟨hbound, hvalue⟩ := Option.ite_none_right_eq_some.mp h
      obtain rfl := Option.some.inj hvalue
      exact ⟨⟨hnonempty, hdigits, rfl⟩, hbound⟩
    · cases h
  · rintro ⟨⟨hnonempty, hdigits, rfl⟩, hbound⟩
    rw [if_pos (isNumeral_iff.mpr ⟨hnonempty, hdigits⟩)]
    exact if_pos hbound

end Text

/-! ## Parameters -/

/-- The first value of the key stands for the number, which has 32 bits. -/
def Parameters.Usable (ps : Parameters) (key : String) (n : Nat) : Prop :=
  ∃ text, ps.first? key = some text ∧ Text.Denotes text n ∧ n < 2 ^ 32

namespace Parameters

variable {ps : Parameters} {key : String} {n : Nat}

theorem number?_eq_some_iff : ps.number? key = some n ↔ ps.Usable key n := by
  rw [number?, Option.bind_eq_some_iff]
  exact exists_congr fun text => and_congr_right fun _ => Text.numeral?_eq_some_iff

theorem number?_eq_none_iff : ps.number? key = none ↔ ∀ n, ¬ ps.Usable key n := by
  rw [Option.eq_none_iff_forall_ne_some]
  exact forall_congr' fun n => not_congr number?_eq_some_iff

/-- A number that is not zero. -/
theorem positive?_eq_some_iff_usable : ps.positive? key = some n ↔ ps.Usable key n ∧ n ≠ 0 := by
  rw [positive?_eq_some_iff, number?_eq_some_iff]

theorem positive?_eq_none_iff_usable :
    ps.positive? key = none ↔ ∀ n, ps.Usable key n → n = 0 := by
  rw [positive?_eq_none_iff]
  exact forall_congr' fun n => imp_congr number?_eq_some_iff Iff.rfl

end Parameters

/-! ## Ranges -/

namespace RowRange

/-- The parameters ask for so many rows from a position on, where a page has `pageSize` rows if they
do not say. -/
inductive Asked (ps : Parameters) (pageSize : Nat) : Nat → Nat → Prop where
  /-- a page of a size -/
  | sizedPage {page size limit : Nat} (hpage : ps.Usable "page" page)
    (hsize : ps.Usable "size" size) (hpos : size ≠ 0) (hlimit : limit = max 1 (min size 1000)) :
    Asked ps pageSize limit (min ((max page 1 - 1) * limit) (2 ^ 32 - 1))
  /-- a page, with no size that is usable and not zero -/
  | page {page limit : Nat} (hpage : ps.Usable "page" page)
    (hsize : ∀ size, ps.Usable "size" size → size = 0)
    (hlimit : limit = max 1 (min pageSize 1000)) :
    Asked ps pageSize limit (min ((max page 1 - 1) * limit) (2 ^ 32 - 1))
  /-- some rows from a position on -/
  | limitOffset {limit offset : Nat} (hpage : ∀ page, ¬ ps.Usable "page" page)
    (hlimit : ps.Usable "limit" limit) (hpos : limit ≠ 0) (hoffset : ps.Usable "offset" offset) :
    Asked ps pageSize (min limit 1000) offset
  /-- some rows, with no usable position -/
  | limit {limit : Nat} (hpage : ∀ page, ¬ ps.Usable "page" page)
    (hlimit : ps.Usable "limit" limit) (hpos : limit ≠ 0)
    (hoffset : ∀ offset, ¬ ps.Usable "offset" offset) : Asked ps pageSize (min limit 1000) 0
  /-- neither a page nor a number of rows -/
  | neither (hpage : ∀ page, ¬ ps.Usable "page" page)
    (hlimit : ∀ limit, ps.Usable "limit" limit → limit = 0) : Asked ps pageSize 25 0

open Parameters (number?_eq_some_iff number?_eq_none_iff positive?_eq_some_iff_usable
  positive?_eq_none_iff_usable)

variable {ps : Parameters} {pageSize : Nat}

theorem limit_clamp {limit : Nat} (hpos : limit ≠ 0) (start : Nat) :
    (clamp limit start).limit = min limit 1000 := by
  show max 1 (min limit 1000) = min limit 1000
  omega

theorem start_clamp {start : Nat} (hstart : start < 2 ^ 32) (limit : Nat) :
    (clamp limit start).start = start :=
  Nat.min_eq_left (Nat.le_sub_one_of_lt hstart)

/-- What is asked for is what is computed. -/
theorem Asked.bounds {limit start : Nat} (h : Asked ps pageSize limit start) :
    limit = (requestedPage ps pageSize).limit ∧ start = (requestedPage ps pageSize).start := by
  rw [requestedPage_eq]
  cases h with
  | sizedPage hpage hsize hpos hlimit =>
    rw [number?_eq_some_iff.mpr hpage, positive?_eq_some_iff_usable.mpr ⟨hsize, hpos⟩]
    subst hlimit
    exact ⟨rfl, rfl⟩
  | page hpage hsize hlimit =>
    rw [number?_eq_some_iff.mpr hpage, positive?_eq_none_iff_usable.mpr hsize]
    subst hlimit
    exact ⟨rfl, rfl⟩
  | limitOffset hpage hlimit hpos hoffset =>
    have ⟨_, _, _, hlt⟩ := hoffset
    rw [number?_eq_none_iff.mpr hpage, Option.elim_none, requested_eq,
      positive?_eq_some_iff_usable.mpr ⟨hlimit, hpos⟩, number?_eq_some_iff.mpr hoffset]
    exact ⟨(limit_clamp hpos _).symm, (start_clamp hlt _).symm⟩
  | limit hpage hlimit hpos hoffset =>
    rw [number?_eq_none_iff.mpr hpage, Option.elim_none, requested_eq,
      positive?_eq_some_iff_usable.mpr ⟨hlimit, hpos⟩, number?_eq_none_iff.mpr hoffset]
    exact ⟨(limit_clamp hpos _).symm, rfl⟩
  | neither hpage hlimit =>
    rw [number?_eq_none_iff.mpr hpage, Option.elim_none, requested_eq,
      positive?_eq_none_iff_usable.mpr hlimit]
    exact ⟨rfl, rfl⟩

/-- In every case something is asked for. -/
theorem exists_asked (ps : Parameters) (pageSize : Nat) :
    ∃ limit start, Asked ps pageSize limit start := by
  cases hpage : ps.number? "page" with
  | some page =>
    have hpage := number?_eq_some_iff.mp hpage
    cases hsize : ps.positive? "size" with
    | some size =>
      obtain ⟨hsize, hpos⟩ := positive?_eq_some_iff_usable.mp hsize
      exact ⟨_, _, .sizedPage hpage hsize hpos rfl⟩
    | none => exact ⟨_, _, .page hpage (positive?_eq_none_iff_usable.mp hsize) rfl⟩
  | none =>
    have hpage := number?_eq_none_iff.mp hpage
    cases hlimit : ps.positive? "limit" with
    | none => exact ⟨_, _, .neither hpage (positive?_eq_none_iff_usable.mp hlimit)⟩
    | some limit =>
      obtain ⟨hlimit, hpos⟩ := positive?_eq_some_iff_usable.mp hlimit
      cases hoffset : ps.number? "offset" with
      | some offset =>
        exact ⟨_, _, .limitOffset hpage hlimit hpos (number?_eq_some_iff.mp hoffset)⟩
      | none => exact ⟨_, _, .limit hpage hlimit hpos (number?_eq_none_iff.mp hoffset)⟩

theorem asked_iff {limit start : Nat} :
    Asked ps pageSize limit start ↔
      limit = (requestedPage ps pageSize).limit ∧ start = (requestedPage ps pageSize).start := by
  constructor
  · exact Asked.bounds
  · rintro ⟨rfl, rfl⟩
    obtain ⟨limit, start, h⟩ := exists_asked ps pageSize
    obtain ⟨hlimit, hstart⟩ := h.bounds
    rwa [← hlimit, ← hstart]

/-- The parameters that ask for a range. -/
def parameters (r : RowRange) : Parameters :=
  ⟨[("limit", Text.decimal r.limit), ("offset", Text.decimal r.start)]⟩

/-- A range that is asked for is the one that is computed. -/
theorem requested_parameters (r : RowRange) : requested r.parameters = r := by
  have hlimit : r.parameters.number? "limit" = some r.limit :=
    Text.numeral?_decimal (Nat.lt_of_le_of_lt r.limit_le (by decide))
  have hoffset : r.parameters.number? "offset" = some r.start := Text.numeral?_decimal r.start_lt
  have hpos : r.limit ≠ 0 := Nat.ne_of_gt r.limit_pos
  rw [requested_eq, Parameters.positive?_eq_some_iff.mpr ⟨hlimit, hpos⟩, hoffset]
  exact clamp_bounds r

/-- **The rows asked for are exact.** The bounds that are computed for a request are the ones that
its parameters ask for, and no others: there are between 1 and 1000 rows, and their start has 32
bits. Words in which steps could wrap around have the same numbers, up to the position after the
last row. And each range there is comes out for the decimal texts of its bounds. -/
theorem requestedPage_exact :
    (∀ ps pageSize limit start, Asked ps pageSize limit start ↔
      limit = (requestedPage ps pageSize).limit ∧ start = (requestedPage ps pageSize).start) ∧
    (∀ ps pageSize, 1 ≤ (requestedPage ps pageSize).limit ∧
      (requestedPage ps pageSize).limit ≤ 1000 ∧ (requestedPage ps pageSize).start < 2 ^ 32) ∧
    (∀ ps (pageSize : UInt32),
      (Words.requestedPage ps pageSize).Represents (requestedPage ps pageSize.toNat) ∧
      (Words.requestedPage ps pageSize).stop.toNat = (requestedPage ps pageSize.toNat).stop) ∧
    ∀ r : RowRange,
      requested ⟨[("limit", Text.decimal r.limit), ("offset", Text.decimal r.start)]⟩ = r := by
  refine ⟨fun ps pageSize limit start => asked_iff, fun ps pageSize => ?_, fun ps pageSize => ?_,
    requested_parameters⟩
  · exact ⟨(requestedPage ps pageSize).limit_pos, (requestedPage ps pageSize).limit_le,
      (requestedPage ps pageSize).start_lt⟩
  · have hwords := Words.represents_requestedPage ps pageSize
    exact ⟨hwords, Words.toNat_stop hwords⟩

/-- Zeros in front do not matter, and the first row of a page that is too far is the last one that
can be named. A number that does not fit is as good as none. -/
example :
    requestedPage ⟨[("page", "0004294967295"), ("size", "00")]⟩ 25 = clamp 25 4294967295 ∧
      requestedPage ⟨[("page", "4294967296"), ("limit", "4294967296"), ("offset", "7")]⟩ 10 =
        clamp 25 0 := by
  decide +kernel

end RowRange

end TableGateway

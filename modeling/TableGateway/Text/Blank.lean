/-!
# Blank characters

Names and rule words arrive with stray space around them, from query strings, configuration files
and command lines. This module says which characters count as space and what is left of a text
when they are taken away:

* `isBlank`: the characters with the Unicode property `White_Space`, a fixed list of 25;
* `trim`: a text without the blanks at its two ends;
* `withoutBlanks`: a text without any blank;
* `isBlankText`: nothing but blanks, so also the empty text.

Every function on `String` here is a function on its list of characters, which is the form that
proofs use.
-/

namespace TableGateway.Text

/-- The characters with the Unicode property `White_Space`. -/
def isBlank (c : Char) : Bool :=
  let n := c.toNat
  (0x09 ≤ n && n ≤ 0x0D) || n == 0x20 || n == 0x85 || n == 0xA0 || n == 0x1680 ||
    (0x2000 ≤ n && n ≤ 0x200A) || n == 0x2028 || n == 0x2029 || n == 0x202F || n == 0x205F ||
    n == 0x3000

/-- A text of blanks only; the empty text is one. -/
def isBlankText (s : String) : Bool := s.toList.all isBlank

theorem isBlankText_eq_false_iff {s : String} :
    isBlankText s = false ↔ ∃ c ∈ s.toList, isBlank c = false := by
  simp [isBlankText]

/-- The characters between the first and the last one that is not blank. -/
def trimChars (cs : List Char) : List Char :=
  ((cs.dropWhile isBlank).reverse.dropWhile isBlank).reverse

/-- A text without the blanks at its two ends. -/
def trim (s : String) : String := String.ofList (trimChars s.toList)

/-- A text without any of its blanks. -/
def withoutBlanks (s : String) : String := String.ofList (s.toList.filter fun c => !isBlank c)

@[simp] theorem toList_trim (s : String) : (trim s).toList = trimChars s.toList := by
  simp [trim]

@[simp] theorem toList_withoutBlanks (s : String) :
    (withoutBlanks s).toList = s.toList.filter fun c => !isBlank c := by
  simp [withoutBlanks]

/-- Dropping the leading blanks leaves nothing exactly when there was nothing but blanks. -/
theorem dropWhile_isBlank_eq_nil_iff {cs : List Char} :
    cs.dropWhile isBlank = [] ↔ cs.all isBlank = true := by
  induction cs with
  | nil => simp
  | cons c cs ih => by_cases h : isBlank c = true <;> simp [h, ih]

/-- Trimming leaves nothing exactly when there was nothing but blanks. -/
theorem trimChars_eq_nil_iff {cs : List Char} : trimChars cs = [] ↔ cs.all isBlank = true := by
  rw [trimChars, List.reverse_eq_nil_iff, dropWhile_isBlank_eq_nil_iff, List.all_reverse]
  constructor
  · intro h
    rw [← List.takeWhile_append_dropWhile (p := isBlank) (l := cs), List.all_append, h]
    simp [List.all_takeWhile]
  · intro h
    rw [dropWhile_isBlank_eq_nil_iff.mpr h, List.all_nil]

end TableGateway.Text

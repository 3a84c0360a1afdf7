/-!
# Letter case of keywords

Keywords (permissions, operators, directions, driver tags) are compared up to the case of the 26
English letters and nothing else: `ſ`, `ı` and `K` (Kelvin) are no spelling of a keyword, although
Unicode folds them to one. The two foldings below therefore leave every other character alone.
-/

namespace TableGateway.Text

/-- A text with its English capital letters replaced by small ones. -/
def lowerAscii (s : String) : String := String.ofList (s.toList.map Char.toLower)

/-- A text with its English small letters replaced by capital ones. -/
def upperAscii (s : String) : String := String.ofList (s.toList.map Char.toUpper)

@[simp] theorem toList_lowerAscii (s : String) :
    (lowerAscii s).toList = s.toList.map Char.toLower := by
  simp [lowerAscii]

@[simp] theorem toList_upperAscii (s : String) :
    (upperAscii s).toList = s.toList.map Char.toUpper := by
  simp [upperAscii]

/-! ## English letters -/

theorem isUpper_iff {c : Char} : c.isUpper = true ↔ 0x41 ≤ c.toNat ∧ c.toNat ≤ 0x5A :=
  decide_eq_true_iff

theorem isLower_iff {c : Char} : c.isLower = true ↔ 0x61 ≤ c.toNat ∧ c.toNat ≤ 0x7A :=
  Bool.and_eq_true_iff.trans (and_congr decide_eq_true_iff decide_eq_true_iff)

theorem isDigit_iff {c : Char} : c.isDigit = true ↔ 0x30 ≤ c.toNat ∧ c.toNat ≤ 0x39 :=
  Bool.and_eq_true_iff.trans (and_congr decide_eq_true_iff decide_eq_true_iff)

theorem isAlphanum_iff {c : Char} :
    c.isAlphanum = true ↔ (c.isUpper = true ∨ c.isLower = true) ∨ c.isDigit = true :=
  Bool.or_eq_true_iff.trans (or_congr Bool.or_eq_true_iff Iff.rfl)

/-- A capital has a small letter. -/
theorem isLower_toLower {c : Char} (h : c.isUpper = true) : c.toLower.isLower = true := by
  obtain ⟨hlow, hhigh⟩ := isUpper_iff.mp h
  have htoNat : c.toLower.toNat = (c.val + ('a'.val - 'A'.val)).toNat := by
    exact congrArg Char.toNat (dif_pos (of_decide_eq_true h))
  have hval : (c.val + ('a'.val - 'A'.val)).toNat = c.toNat + 32 := by
    rw [UInt32.toNat_add]
    exact Nat.mod_eq_of_lt (by change c.toNat + 32 < 4294967296; omega)
  rw [isLower_iff, htoNat, hval]
  omega

/-- What is no capital is its own small letter. -/
theorem toLower_of_not_isUpper {c : Char} (h : ¬ c.isUpper = true) : c.toLower = c :=
  dif_neg fun hrange => h (decide_eq_true hrange)

/-! ## Words -/

/-- Two texts are the same word when they differ in the case of English letters only. -/
def sameWord (s t : String) : Bool := lowerAscii s == lowerAscii t

@[simp] theorem sameWord_self (s : String) : sameWord s s = true := by
  simp [sameWord]

theorem sameWord_comm (s t : String) : sameWord s t = sameWord t s := by
  simp [sameWord, BEq.comm]

end TableGateway.Text

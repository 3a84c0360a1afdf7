import TableGateway.Text.Casing.Mapping
import TableGateway.Text.Casing.Properties

/-!
# Lower case

A finder names its columns in camel case, and the column is the text in lower case. Lower case is
Unicode's, which differs from character-by-character folding in two places:

* `İ` becomes two characters, `i` and a combining dot;
* `Σ` becomes `ς` at the end of a word and `σ` elsewhere. It ends a word when, case-ignorable
  characters aside, a cased character stands before it and none stands after it.

On ASCII text the result is the small letters one by one (`lowercaseChars_of_ascii`).
-/

namespace TableGateway.Text

/-- Case-ignorable characters aside, the text starts with a cased one. -/
def startsCased (cs : List Char) : Bool :=
  match cs.dropWhile isCaseIgnorable with
  | [] => false
  | c :: _ => isCased c

/-- The lower case of one character between the characters `before` it (nearest first) and those
`after` it. -/
def lowercaseAt (before : List Char) (c : Char) (after : List Char) : List Char :=
  if c = 'Σ' then [if startsCased before && !startsCased after then 'ς' else 'σ']
  else if c = 'İ' then ['i', '\u0307']
  else [smallLetter c]

/-- The lower case of a text that follows the characters `before` it (nearest first). -/
def lowercaseFrom (before : List Char) : List Char → List Char
  | [] => []
  | c :: cs => lowercaseAt before c cs ++ lowercaseFrom (c :: before) cs

/-- The lower case of a text. -/
def lowercaseChars (cs : List Char) : List Char := lowercaseFrom [] cs

/-- The lower case of a text. -/
def lowercase (s : String) : String := String.ofList (lowercaseChars s.toList)

@[simp] theorem toList_lowercase (s : String) : (lowercase s).toList = lowercaseChars s.toList := by
  simp [lowercase]

theorem lowercaseAt_of_ascii {before after : List Char} {c : Char} (h : c.toNat < 0x80) :
    lowercaseAt before c after = [c.toLower] := by
  have hsigma : c ≠ 'Σ' := by rintro rfl; exact absurd h (by decide)
  have hdot : c ≠ 'İ' := by rintro rfl; exact absurd h (by decide)
  simp [lowercaseAt, hsigma, hdot, smallLetter_of_ascii h]

/-- On ASCII text, lower case is the small letters one by one. -/
theorem lowercaseChars_of_ascii {cs : List Char} (h : ∀ c ∈ cs, c.toNat < 0x80) :
    lowercaseChars cs = cs.map Char.toLower := by
  have hfrom : ∀ (before cs : List Char), (∀ c ∈ cs, c.toNat < 0x80) →
      lowercaseFrom before cs = cs.map Char.toLower := by
    intro before cs
    induction cs generalizing before with
    | nil => simp [lowercaseFrom]
    | cons c cs ih =>
      intro hcs
      rw [lowercaseFrom, lowercaseAt_of_ascii (hcs c (by simp)),
        ih _ fun d hd => hcs d (by simp [hd])]
      simp
  exact hfrom [] cs h

end TableGateway.Text

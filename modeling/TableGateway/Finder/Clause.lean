import TableGateway.Operator
import TableGateway.Text.Casing

/-!
# Clauses of a finder name

Between two `And`s of a finder name stand the words of a clause: those of a column, and after them
those of an operator. The operator is the one of the longest spelling in `operatorSuffixes` that the
clause ends with; a clause that ends with none compares for equality (`Clause.ofWords_append`,
`Clause.exists_suffix`). So `AgeGreaterThanEquals` is `>=` on `age`, although it also ends with
`Equals`.
-/

namespace TableGateway.Finder

/-- The camel-case spelling of an operator. -/
@[ext]
structure OperatorSuffix where
  /-- the words that the operator is spelled with -/
  words : List String
  /-- the operator -/
  operator : Operator

/-- The spellings of the operators. None comes after one that is an end of it, so the first that
fits is the longest. -/
def operatorSuffixes : List OperatorSuffix := [
  ⟨["Greater", "Than", "Equals"], .greaterThanEquals⟩,
  ⟨["Less", "Than", "Equals"], .lessThanEquals⟩,
  ⟨["Is", "Not", "Null"], .isNotNull⟩,
  ⟨["Greater", "Than"], .greaterThan⟩,
  ⟨["Less", "Than"], .lessThan⟩,
  ⟨["Not", "Equals"], .notEquals⟩,
  ⟨["Is", "Null"], .isNull⟩,
  ⟨["I", "Like"], .ilike⟩,
  ⟨["Between"], .between⟩,
  ⟨["Like"], .like⟩,
  ⟨["Equals"], .equals⟩]

/-- A clause: the words of its column and its operator. -/
structure Clause where
  /-- the words that the column is spelled with -/
  columnWords : List String
  /-- the operator -/
  operator : Operator
deriving DecidableEq

/-- The clause that the given words spell. -/
def Clause.ofWords (words : List String) : Clause :=
  match operatorSuffixes.find? fun s => s.words.isSuffixOf words with
  | some s => ⟨words.take (words.length - s.words.length), s.operator⟩
  | none => ⟨words, .equals⟩

/-- The column of a clause: its words together, in lower case. -/
def Clause.column (c : Clause) : String := Text.lowercase (String.join c.columnWords)

theorem words_ne_nil_of_mem {s : OperatorSuffix} (h : s ∈ operatorSuffixes) : s.words ≠ [] := by
  have hall : ∀ x ∈ operatorSuffixes, x.words ≠ [] := by decide
  exact hall s h

/-- No spelling is an end of one that comes after it. -/
theorem pairwise_operatorSuffixes :
    operatorSuffixes.Pairwise fun s t => ¬ s.words <:+ t.words := by
  decide +kernel

/-- Equality, left unwritten. -/
def unwrittenEquals : OperatorSuffix := ⟨[], .equals⟩

/-- The ways to write an operator: the spellings, and nothing for equality. -/
def suffixes : List OperatorSuffix := unwrittenEquals :: operatorSuffixes

theorem compares_of_mem_suffixes {s : OperatorSuffix} (hs : s ∈ suffixes) :
    s.operator.arity ≠ .boolean := by
  have hall : ∀ s ∈ suffixes, s.operator.arity ≠ .boolean := by decide
  exact hall s hs

/-- The longest spelling that a clause ends with is that of its operator. -/
theorem Clause.ofWords_of_longest {words : List String} {s : OperatorSuffix}
    (hs : s ∈ operatorSuffixes) (hend : s.words <:+ words)
    (hlongest : ∀ x ∈ operatorSuffixes, x.words <:+ words → x.words.length ≤ s.words.length) :
    ofWords words = ⟨words.take (words.length - s.words.length), s.operator⟩ := by
  have hfirst : operatorSuffixes.find? (fun x => x.words.isSuffixOf words) = some s := by
    obtain ⟨before, after, hsuffixes⟩ := List.append_of_mem hs
    refine List.find?_eq_some_iff_append.mpr
      ⟨List.isSuffixOf_iff_suffix.mpr hend, before, after, hsuffixes, ?_⟩
    intro x hx
    rw [Bool.not_eq_true', Bool.eq_false_iff]
    intro hxend
    have hsuffix := List.isSuffixOf_iff_suffix.mp hxend
    -- an earlier spelling that fits is no longer than `s`, so it would be an end of `s`
    have hshorter := hlongest x (hsuffixes ▸ List.mem_append_left _ hx) hsuffix
    have hpairwise := pairwise_operatorSuffixes
    rw [hsuffixes] at hpairwise
    exact (List.pairwise_append.mp hpairwise).2.2 x hx s List.mem_cons_self
      (List.suffix_of_suffix_length_le hsuffix hend hshorter)
  rw [ofWords, hfirst]

/-- A clause that ends with no spelling compares for equality. -/
theorem Clause.ofWords_of_none {words : List String}
    (h : ∀ x ∈ operatorSuffixes, ¬ x.words <:+ words) : ofWords words = ⟨words, .equals⟩ := by
  have hnone : operatorSuffixes.find? (fun x => x.words.isSuffixOf words) = none := by
    rw [List.find?_eq_none]
    intro x hx hxend
    exact h x hx (List.isSuffixOf_iff_suffix.mp hxend)
  rw [ofWords, hnone]

/-- The words of a column and the longest way to write an operator that they end with are read as
that column and that operator. -/
theorem Clause.ofWords_append {columnWords : List String} {s : OperatorSuffix} (hs : s ∈ suffixes)
    (hlongest : ∀ x ∈ operatorSuffixes, x.words <:+ columnWords ++ s.words →
      x.words.length ≤ s.words.length) :
    ofWords (columnWords ++ s.words) = ⟨columnWords, s.operator⟩ := by
  rcases List.mem_cons.mp hs with rfl | hwritten
  · -- nothing is written, so a spelling at the end would be longer than what is
    have hnone : ∀ x ∈ operatorSuffixes, ¬ x.words <:+ columnWords ++ unwrittenEquals.words := by
      intro x hx hend
      have hlength : x.words.length ≤ 0 := hlongest x hx hend
      exact words_ne_nil_of_mem hx (List.eq_nil_of_length_eq_zero (Nat.le_zero.mp hlength))
    rw [ofWords_of_none hnone, unwrittenEquals, List.append_nil]
  · have hcolumn : (columnWords ++ s.words).take
        ((columnWords ++ s.words).length - s.words.length) = columnWords := by
      rw [List.length_append, Nat.add_sub_cancel, List.take_left]
    rw [ofWords_of_longest hwritten (List.suffix_append _ _) hlongest, hcolumn]

/-- Every clause is read that way. -/
theorem Clause.exists_suffix (words : List String) :
    ∃ s ∈ suffixes, words = (ofWords words).columnWords ++ s.words ∧
      (ofWords words).operator = s.operator ∧
      ∀ x ∈ operatorSuffixes, x.words <:+ words → x.words.length ≤ s.words.length := by
  rw [ofWords]
  split
  · rename_i s hfind
    obtain ⟨hfits, before, after, hsuffixes, hbefore⟩ := List.find?_eq_some_iff_append.mp hfind
    have hend : s.words <:+ words := List.isSuffixOf_iff_suffix.mp hfits
    refine ⟨s, List.mem_cons_of_mem _ (List.mem_of_find?_eq_some hfind),
      (List.suffix_iff_eq_append.mp hend).symm, rfl, ?_⟩
    intro x hx hxend
    have hpairwise := pairwise_operatorSuffixes
    rw [hsuffixes] at hx hpairwise
    rcases List.mem_append.mp hx with hx | hx
    · -- an earlier spelling would have been found
      have hmisses := hbefore x hx
      rw [List.isSuffixOf_iff_suffix.mpr hxend] at hmisses
      cases hmisses
    rcases List.mem_cons.mp hx with rfl | hx
    · exact Nat.le_refl _
    · -- the spelling is no end of a later one, so the later one is not longer
      have hno := List.rel_of_pairwise_cons (List.pairwise_append.mp hpairwise).2.1 hx
      refine Nat.le_of_not_le fun hlonger => ?_
      exact hno (List.suffix_of_suffix_length_le hend hxend hlonger)
  · rename_i hfind
    refine ⟨unwrittenEquals, List.mem_cons_self, (List.append_nil words).symm, rfl, ?_⟩
    intro x hx hxend
    exact absurd (List.isSuffixOf_iff_suffix.mpr hxend) (List.find?_eq_none.mp hfind x hx)

end TableGateway.Finder

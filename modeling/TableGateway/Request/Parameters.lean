import TableGateway.Text.Numeral

/-!
# Query parameters

A request carries a list of key and value pairs, in which a key may stand several times. Only the
first value of a key is ever consulted for paging and ordering, so `first?` is what the rest of the
library reads, and the order of different keys does not matter to it.
-/

namespace TableGateway

/-- The query parameters of a request, in the order in which they were given. -/
structure Parameters where
  /-- the pairs of key and value -/
  pairs : List (String × String)

namespace Parameters

/-- No parameters. -/
def empty : Parameters := ⟨[]⟩

instance : Inhabited Parameters := ⟨empty⟩

/-- The parameters with one more at the end. -/
def add (ps : Parameters) (key value : String) : Parameters := ⟨ps.pairs ++ [(key, value)]⟩

/-- The values of a key, in the order in which they were given. -/
def values (ps : Parameters) (key : String) : List String :=
  (ps.pairs.filter fun p => p.1 == key).map Prod.snd

/-- The first value of a key. -/
def first? (ps : Parameters) (key : String) : Option String := (ps.values key).head?

/-- The key has a value. -/
def contains (ps : Parameters) (key : String) : Bool := ps.pairs.any fun p => p.1 == key

/-- There are no parameters. -/
def isEmpty (ps : Parameters) : Bool := ps.pairs.isEmpty

/-- The first value of a key as a number of 32 bits. Anything but a run of digits, and any number
that does not fit, counts as no value. -/
def number? (ps : Parameters) (key : String) : Option Nat :=
  (ps.first? key).bind (Text.numeral? UInt32.size)

/-- The first value of a key as a number of 32 bits, if it is not zero. -/
def positive? (ps : Parameters) (key : String) : Option Nat := (ps.number? key).filter (· ≠ 0)

theorem positive?_eq_some_iff {ps : Parameters} {key : String} {n : Nat} :
    ps.positive? key = some n ↔ ps.number? key = some n ∧ n ≠ 0 := by
  rw [positive?, Option.filter_eq_some_iff, decide_eq_true_iff]

theorem positive?_eq_none_iff {ps : Parameters} {key : String} :
    ps.positive? key = none ↔ ∀ n, ps.number? key = some n → n = 0 := by
  simp [positive?, Option.filter_eq_none_iff]

/-- A value is appended to the values of its key and leaves those of the others. -/
theorem values_add (ps : Parameters) (key value other : String) :
    (ps.add key value).values other =
      ps.values other ++ (if key = other then [value] else []) := by
  by_cases h : key = other <;> simp [values, add, h]

/-- The first value of a key is the one given first. -/
theorem first?_add (ps : Parameters) (key value other : String) :
    (ps.add key value).first? other =
      (ps.first? other).or (if key = other then some value else none) := by
  rw [first?, values_add, List.head?_append]
  by_cases h : key = other <;> simp [first?, h]

end Parameters

end TableGateway

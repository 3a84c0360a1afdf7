import TableGateway.Identifier

/-!
# Conditions

A condition compares one column with the values that its operator takes. The type excludes what has
no meaning: a connective as operator, and too many or too few values. `build` is the constructor for
operator, values and column as they come from outside, and reports the first of the three that does
not fit, in this order: operator, number of values, column.
-/

namespace TableGateway

/-- The operator that a caller names. -/
def Operator.parse (name : String) : Except Error Operator :=
  match ofName? name with
  | some op => .ok op
  | none => .error (.invalidConfiguration (.unknownOperator name))

/-- The comparison of a column with values. -/
structure Condition where
  /-- the column -/
  column : Identifier
  /-- the comparison -/
  operator : Operator
  /-- the values that the column is compared with -/
  values : List String
  /-- the operator compares -/
  compares : operator.arity ≠ .boolean
  /-- there are as many values as the operator takes -/
  counted : values.length = operator.valueCount
deriving DecidableEq

namespace Condition

/-- The condition of the given parts, or what is wrong with them. -/
def build (column : String) (op : Operator) (values : List String) : Except Error Condition :=
  if hop : op.arity = .boolean then .error (.request (.booleanCondition op))
  else if hcount : values.length = op.valueCount then
    (Identifier.parse column).map fun c => ⟨c, op, values, hop, hcount⟩
  else .error (.request (.valueCount op values.length))

/-- The conditions are just what can be built of a column, an operator and values. -/
theorem build_eq_ok_iff {column : String} {op : Operator} {values : List String} {c : Condition} :
    build column op values = .ok c ↔
      c.column.name = column ∧ c.operator = op ∧ c.values = values := by
  constructor
  · rw [build]
    intro h
    split at h
    · cases h
    split at h
    · cases hparse : Identifier.parse column with
      | error e => rw [hparse] at h; cases h
      | ok i =>
        rw [hparse] at h
        cases h
        exact ⟨(Identifier.parse_eq_ok_iff.mp hparse).symm, rfl, rfl⟩
    · cases h
  · rintro ⟨rfl, rfl, rfl⟩
    rw [build, dif_neg c.compares, dif_pos c.counted, Identifier.parse_name]
    rfl

/-- The column has the value. -/
def equals (column : Identifier) (value : String) : Condition :=
  ⟨column, .equals, [value], by decide, rfl⟩

/-- The column lies between two values, both included. -/
def between (column : Identifier) (low high : String) : Condition :=
  ⟨column, .between, [low, high], by decide, rfl⟩

/-- The column has no value. -/
def isNull (column : Identifier) : Condition := ⟨column, .isNull, [], by decide, rfl⟩

/-- The column has a value. -/
def isNotNull (column : Identifier) : Condition := ⟨column, .isNotNull, [], by decide, rfl⟩

end Condition

end TableGateway

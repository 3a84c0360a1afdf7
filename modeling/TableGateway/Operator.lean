import TableGateway.Text.Ascii
import TableGateway.Text.Blank

/-!
# The catalog of operators

Fourteen operators in three classes, told apart by what they take:

* the *boolean* ones, `AND` and `OR`, connect conditions and take no value;
* the *unary* ones, `IS NULL` and `IS NOT NULL`, say something of a column alone;
* all others are *binary* and compare a column with one value, `BETWEEN` with two.

An operator has two texts: its catalog name, by which requests call it, and its SQL token.
-/

namespace TableGateway

/-- A comparison or connective of the catalog. -/
inductive Operator where
  | and
  | or
  | between
  | lessThan
  | lessThanEquals
  | greaterThan
  | greaterThanEquals
  | like
  | ilike
  | isNotNull
  | isNull
  | not
  | equals
  | notEquals
deriving DecidableEq

/-- What an operator takes. -/
inductive Arity where
  /-- a column alone -/
  | unary
  /-- a column and its values -/
  | binary
  /-- two conditions -/
  | boolean
deriving DecidableEq

namespace Operator

/-- The catalog, in its order. -/
def all : List Operator :=
  [and, or, between, lessThan, lessThanEquals, greaterThan, greaterThanEquals, like, ilike,
    isNotNull, isNull, not, equals, notEquals]

theorem mem_all (op : Operator) : op ∈ all := by
  cases op <;> decide

/-- The SQL token. -/
def sql : Operator → String
  | and => "AND"
  | or => "OR"
  | between => "BETWEEN"
  | lessThan => "<"
  | lessThanEquals => "<="
  | greaterThan => ">"
  | greaterThanEquals => ">="
  | like => "LIKE"
  | ilike => "ILIKE"
  | isNotNull => "IS NOT NULL"
  | isNull => "IS NULL"
  | not => "NOT"
  | equals => "="
  | notEquals => "<>"

/-- The catalog name. -/
def name : Operator → String
  | and => "AND"
  | or => "OR"
  | between => "BETWEEN"
  | lessThan => "LESSTHAN"
  | lessThanEquals => "LESSTHANEQUALS"
  | greaterThan => "GREATERTHAN"
  | greaterThanEquals => "GREATERTHANEQUALS"
  | like => "LIKE"
  | ilike => "ILIKE"
  | isNotNull => "ISNOTNULL"
  | isNull => "ISNULL"
  | not => "NOT"
  | equals => "EQUALS"
  | notEquals => "NOTEQUALS"

/-- The class of an operator. -/
def arity : Operator → Arity
  | isNull | isNotNull => .unary
  | and | or => .boolean
  | _ => .binary

/-- The number of values that an operator takes besides its column. -/
def valueCount (op : Operator) : Nat :=
  match op with
  | between => 2
  | _ => if op.arity = .binary then 1 else 0

/-- The words of which the camel-case spellings of the operators are made. -/
def keywords : List String :=
  ["Is", "Not", "Null", "Greater", "Less", "Than", "Between", "Equals", "And", "Or", "Like"]

/-- The operator with the given catalog name, in any letter case and between any blanks. -/
def ofName? (text : String) : Option Operator :=
  all.find? fun op => op.name == Text.upperAscii (Text.trim text)

/-- A catalog name is read as its operator. -/
theorem ofName?_name (op : Operator) : ofName? op.name = some op := by
  cases op <;> decide

/-- Different operators have different names. -/
theorem name_injective {a b : Operator} (h : a.name = b.name) : a = b :=
  Option.some.inj ((ofName?_name a).symm.trans (h ▸ ofName?_name b))

end Operator

end TableGateway

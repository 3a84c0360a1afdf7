/-!
# TOML values

What a TOML document holds. Text and truth values are given by what they mean; numbers and moments
(dates and times) by how they are written. Hardly anything computes with them, and an integer can
be written that is no number: `Scalar.integer?` says which one it is, where one is asked for.
-/

namespace TableGateway.Toml

/-- A value of a TOML document. -/
inductive Value where
  /-- a text -/
  | string (text : String)
  /-- an integer of a base, as written, without the mark of its base and underscores -/
  | integer (base : Nat) (written : String)
  /-- a floating point number, as written -/
  | float (written : String)
  /-- a truth value -/
  | boolean (b : Bool)
  /-- a date, a time or both, as written -/
  | moment (written : String)
  /-- a list of values -/
  | array (items : List Value)
  /-- keys and their values, no key twice -/
  | table (entries : List (String × Value))

/-- The entries of a table. -/
abbrev Entries := List (String × Value)

end TableGateway.Toml

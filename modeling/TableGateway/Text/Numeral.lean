/-!
# Decimal numerals

Numbers come in as text (`limit=10`) and go out as text (`LIMIT 10`). A numeral is a non-empty run
of the digits `0` to `9`, with any number of leading zeros; a sign, a blank or a digit of another
script makes it no numeral. Reading has a bound, and a numeral that reaches it counts as no numeral,
so a value that is read always fits where it goes.
-/

namespace TableGateway.Text

/-- A non-empty run of ASCII digits. -/
def isNumeral (s : String) : Bool := !s.toList.isEmpty && s.toList.all Char.isDigit

/-- The number that a numeral below `bound` stands for. -/
def numeral? (bound : Nat) (s : String) : Option Nat :=
  if isNumeral s then
    let n := Nat.ofDigitChars 10 s.toList 0
    if n < bound then some n else none
  else none

/-- The decimal text of a number. -/
def decimal (n : Nat) : String := String.ofList (Nat.toDigits 10 n)

@[simp] theorem toList_decimal (n : Nat) : (decimal n).toList = Nat.toDigits 10 n := by
  simp [decimal]

theorem toDigits_ne_nil (n : Nat) : Nat.toDigits 10 n ≠ [] := by
  intro h
  have hlen : 0 < (Nat.toDigits 10 n).length := Nat.length_toDigits_pos
  simp [h] at hlen

theorem isNumeral_decimal (n : Nat) : isNumeral (decimal n) = true := by
  simp only [isNumeral, toList_decimal, Bool.and_eq_true, Bool.not_eq_true',
    List.isEmpty_eq_false_iff, List.all_eq_true]
  exact ⟨toDigits_ne_nil n, fun c hc => Nat.isDigit_of_mem_toDigits (by decide) (by decide) hc⟩

/-- Writing and reading: the decimal text of a number below the bound reads back as it. -/
theorem numeral?_decimal {bound n : Nat} (h : n < bound) : numeral? bound (decimal n) = some n := by
  simp only [numeral?, isNumeral_decimal, if_true, toList_decimal,
    Nat.ofDigitChars_toDigits (b := 10) (by decide) (by decide), h]

end TableGateway.Text

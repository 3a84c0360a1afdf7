/-!
# Moments

A moment is a date, a time of day, or both with an optional distance from universal time, written as
in `1979-05-27T07:32:00Z`. The date is one of the calendar, and seconds can be left out.
-/

namespace TableGateway.Toml.Moment

/-- The number of exactly two digits at the start of a text, and what follows. -/
def twoDigits : List Char → Option (Nat × List Char)
  | a :: b :: rest =>
    if a.isDigit && b.isDigit then some (Nat.ofDigitChars 10 [a, b] 0, rest) else none
  | _ => none

/-- The year divides evenly into the leap years. -/
def isLeap (year : Nat) : Bool := year % 4 == 0 && (year % 100 != 0 || year % 400 == 0)

/-- The number of days in a month. -/
def daysIn (year month : Nat) : Nat :=
  if month = 2 then (if isLeap year then 29 else 28)
  else if month = 4 ∨ month = 6 ∨ month = 9 ∨ month = 11 then 30
  else 31

/-- What follows a date at the start of a text. -/
def date (cs : List Char) : Option (List Char) := do
  let (century, cs) ← twoDigits cs
  let (year, cs) ← twoDigits cs
  let cs ← ['-'].isPrefixOf? cs
  let (month, cs) ← twoDigits cs
  let cs ← ['-'].isPrefixOf? cs
  let (day, cs) ← twoDigits cs
  if 1 ≤ month ∧ month ≤ 12 ∧ 1 ≤ day ∧ day ≤ daysIn (100 * century + year) month then some cs
  else none

/-- What follows a part of a second, which needs a digit, or no part of a second. -/
def fraction : List Char → Option (List Char)
  | '.' :: c :: rest => if c.isDigit then some (rest.dropWhile Char.isDigit) else none
  | ['.'] => none
  | cs => some cs

/-- What follows the seconds of a time, or no seconds. -/
def seconds : List Char → Option (List Char)
  | ':' :: rest => do
    let (second, rest) ← twoDigits rest
    if second ≤ 60 then fraction rest else none
  | cs => some cs

/-- What follows an hour and a minute at the start of a text. -/
def hourMinute (cs : List Char) : Option (List Char) := do
  let (hour, cs) ← twoDigits cs
  let cs ← [':'].isPrefixOf? cs
  let (minute, cs) ← twoDigits cs
  if hour ≤ 23 ∧ minute ≤ 59 then some cs else none

/-- What follows a time of day at the start of a text. -/
def time (cs : List Char) : Option (List Char) := do seconds (← hourMinute cs)

/-- The text is a distance from universal time, or empty. -/
def isOffset : List Char → Bool
  | [] | ['Z'] | ['z'] => true
  | '+' :: rest | '-' :: rest => hourMinute rest == some []
  | _ => false

/-- The text is a date, a time, or a date and a time with or without an offset. -/
def isMoment (cs : List Char) : Bool :=
  match date cs with
  | none => time cs == some []
  | some [] => true
  | some (c :: rest) =>
    (c == 'T' || c == 't' || c == ' ') && ((time rest).map isOffset).getD false

end TableGateway.Toml.Moment

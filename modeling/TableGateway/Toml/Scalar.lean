import TableGateway.Toml.Moment
import TableGateway.Toml.Value

/-!
# Values without quotes

What a value is that is written without quotes or brackets: `true`, `0x19`, `1_000`, `6e23`,
`1979-05-27`. A text that is none of these is no value; a word in particular has to be quoted.

Truth values, floating point numbers and moments have to be well formed. Integers are taken with
less care. One with a mark of its base has digits of that base only, but need not have any: `0x` is
an integer. One without a mark is told by its digits up to its end or to the first underscore, and
behind that underscore anything may stand that is part of no other value: `1_0px` is an integer. The
underscores are left out then, if they stand between digits, and `Scalar.integer?` says which number
is left, if it is one.
-/

namespace TableGateway.Toml.Scalar

/-! ## Digits -/

/-- A digit of base 16. -/
def isHexDigit (c : Char) : Bool :=
  c.isDigit || ('a' ≤ c && c ≤ 'f') || ('A' ≤ c && c ≤ 'F')

/-- The value of a digit of a base up to 16. -/
def digitValue (c : Char) : Nat :=
  if c.isDigit then c.toNat - '0'.toNat
  else if 'a' ≤ c then c.toNat - 'a'.toNat + 10
  else c.toNat - 'A'.toNat + 10

/-- A digit of a base up to 16. -/
def isDigitOf (base : Nat) (c : Char) : Bool := isHexDigit c && digitValue c < base

/-- The number that digits of a base stand for. -/
def numberOf (base : Nat) (ds : List Char) : Nat :=
  ds.foldl (fun n d => base * n + digitValue d) 0

/-- A text without its underscores, each of which has to stand between two digits; `afterDigit` says
whether the text itself follows a digit. -/
def joinDigits (isDigit : Char → Bool) : (afterDigit : Bool) → List Char → Option (List Char)
  | _, [] => some []
  | _, ['_'] => none
  | afterDigit, '_' :: c :: rest =>
    if afterDigit && isDigit c then (joinDigits isDigit true rest).map (c :: ·) else none
  | _, c :: rest => (joinDigits isDigit (isDigit c) rest).map (c :: ·)

/-- The sign of a number, if it has one, and what follows. -/
def splitSign : List Char → Option Char × List Char
  | '+' :: rest => (some '+', rest)
  | '-' :: rest => (some '-', rest)
  | cs => (none, cs)

/-! ## Floating point numbers -/

/-- A character of the digits of a floating point number. -/
def isRunChar (c : Char) : Bool := c.isDigit || c == '_'

/-- What follows digits at the start of a text, of which there has to be one. -/
def digits (cs : List Char) : Option (List Char) :=
  if (cs.takeWhile isRunChar).any Char.isDigit then some (cs.dropWhile isRunChar) else none

/-- What follows the whole part of a floating point number, where a leading zero is the only
digit. -/
def whole (cs : List Char) : Option (List Char) :=
  let run := cs.takeWhile isRunChar
  if run.head? = some '0' ∧ 1 < run.countP Char.isDigit then none else digits cs

/-- What follows a decimal point and its digits, or no decimal point. -/
def fraction : List Char → Option (List Char)
  | '.' :: rest => digits rest
  | cs => some cs

/-- What follows an exponent, or no exponent. -/
def exponent : List Char → Option (List Char)
  | 'e' :: rest | 'E' :: rest => digits (splitSign rest).2
  | cs => some cs

/-- The text is a floating point number without a sign, up to where its underscores stand. -/
def isFloat (cs : List Char) : Bool :=
  ((whole cs).bind fraction).bind exponent == some []

/-- The floating point numbers that are written as words. -/
def floatWords : List String := ["inf", "+inf", "-inf", "nan", "+nan", "-nan"]

/-! ## Integers -/

/-- The base of which the character behind a leading zero is the mark. -/
def base? : Char → Option Nat
  | 'x' => some 16
  | 'o' => some 8
  | 'b' => some 2
  | _ => none

/-- The number that digits of a base stand for, which may have a sign. -/
def integer? (base : Nat) (written : String) : Option Int :=
  let (sign, ds) := splitSign written.toList
  if ds.isEmpty || !ds.all (isDigitOf base) then none
  else if sign = some '-' then some (-(numberOf base ds : Int))
  else some (numberOf base ds : Int)

/-- The integer with a mark of its base whose digits are given. -/
def based? (base : Nat) (cs : List Char) : Option Value :=
  if cs.all fun c => isDigitOf base c || c == '_' then
    (joinDigits isHexDigit false cs).map fun ds => .integer base (String.ofList ds)
  else none

/-! ## Values -/

/-- The moment or number without a mark of its base that a text is. What follows its first digits
tells which: a moment goes on with a dash or a colon, and only it may have spaces inside; a floating
point number has a point or an exponent somewhere; an integer ends, or goes on with an underscore,
and begins with no zero unless it is zero. -/
def number? (cs : List Char) : Option Value :=
  let (sign, unsigned) := splitSign cs
  let rest := unsigned.dropWhile Char.isDigit
  if rest.head? = some '-' ∨ rest.head? = some ':' then
    if Moment.isMoment cs then some (.moment (String.ofList cs)) else none
  else if unsigned.isEmpty || rest.contains ' ' then none
  else if rest.any fun c => c == '.' || c == 'e' || c == 'E' then
    if isFloat unsigned && (joinDigits Char.isDigit false unsigned).isSome then
      some (.float (String.ofList cs))
    else none
  else if (rest = [] ∨ rest.head? = some '_') ∧
      (unsigned = ['0'] ∨ unsigned.head? ≠ some '0') then
    (joinDigits isHexDigit false unsigned).map fun ds =>
      .integer 10 (String.ofList (sign.toList ++ ds))
  else none

/-- The value that a text without quotes is. -/
def value? (cs : List Char) : Option Value :=
  if cs = "true".toList then some (.boolean true)
  else if cs = "false".toList then some (.boolean false)
  else if floatWords.contains (String.ofList cs) then some (.float (String.ofList cs))
  else
    match cs with
    | '0' :: c :: rest =>
      match base? c with
      | some base => based? base rest
      | none => number? cs
    | _ => number? cs

/-- A character that is part of no value without quotes: it separates values, encloses them or
starts a comment. -/
def isDelimiter (c : Char) : Bool :=
  ['=', ',', '[', ']', '\x7b', '\x7d', '#', '\r', '\n'].contains c

/-- A blank. -/
def isSpace (c : Char) : Bool := c == ' ' || c == '\t'

/-- A quote. It starts no word, but can be in one. -/
def isQuote (c : Char) : Bool := c == '\x22' || c == '\x27'

/-- The words at the start of a text with all blanks between and behind them; `afterBlank` says
whether the text itself follows a blank. -/
def words : (afterBlank : Bool) → List Char → List Char
  | _, [] => []
  | afterBlank, c :: rest =>
    if isDelimiter c || (afterBlank && isQuote c) then [] else c :: words (isSpace c) rest

/-- The value without quotes at the start of a text, and what follows. Blanks belong to it when more
of it comes behind them. -/
def span (cs : List Char) : List Char × List Char :=
  let text := words false cs
  ((text.reverse.dropWhile isSpace).reverse, cs.drop text.length)

end TableGateway.Toml.Scalar

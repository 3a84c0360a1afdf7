import TableGateway.Toml.Scalar

/-!
# Quoted texts

TOML has four kinds of quotes: `"` and `"""` with escapes, `'` and three of them without. The triple
ones may span lines, drop a line break right after the opening quotes, and may end in one or two
quotes of their own before the closing ones. Each reader below takes what follows the opening quote
and gives the text and what follows the closing quote.
-/

namespace TableGateway.Toml.Quoted

/-- A character that a text on one line can hold as it stands: a tab or anything but a control
character. -/
def isPlain (c : Char) : Bool := c == '\t' || (0x20 ≤ c.toNat && c.toNat != 0x7F)

/-- The characters of escapes of one letter. -/
def shortEscape? : Char → Option Char
  | 'b' => some '\x08'
  | 't' => some '\t'
  | 'n' => some '\n'
  | 'f' => some '\x0c'
  | 'r' => some '\r'
  | 'e' => some '\x1b'
  | '\x22' => some '\x22'
  | '\\' => some '\\'
  | _ => none

/-- The number of digits of an escape by character code. -/
def codeWidth? : Char → Option Nat
  | 'x' => some 2
  | 'u' => some 4
  | 'U' => some 8
  | _ => none

/-- The character of the code that hexadecimal digits stand for. -/
def ofCode? (ds : List Char) : Option Char :=
  let n := Scalar.numberOf 16 ds
  if ds.all Scalar.isHexDigit && n.isValidChar then some (Char.ofNat n) else none

/-- The character that an escape stands for, and the number of characters after the backslash that
make it up. -/
def escape? : List Char → Option (Char × Nat)
  | [] => none
  | e :: rest =>
    match shortEscape? e with
    | some c => some (c, 1)
    | none => do
      let width ← codeWidth? e
      if rest.length < width then none
      else return (← ofCode? (rest.take width), width + 1)

/-- A text in double quotes. -/
def basic (cs : List Char) : Option (List Char × List Char) :=
  match cs with
  | [] => none
  | '\x22' :: rest => some ([], rest)
  | '\\' :: rest => do
    let (c, width) ← escape? rest
    let (text, rest) ← basic (rest.drop width)
    return (c :: text, rest)
  | c :: rest => do
    if !isPlain c then none
    let (text, rest) ← basic rest
    return (c :: text, rest)
termination_by cs.length
decreasing_by all_goals simp only [List.length_drop, List.length_cons]; omega

/-- A text in single quotes. -/
def literal : List Char → Option (List Char × List Char)
  | [] => none
  | '\x27' :: rest => some ([], rest)
  | c :: rest => do
    if !isPlain c then none
    let (text, rest) ← literal rest
    return (c :: text, rest)

/-- What follows a line break at the start of a text. -/
def afterLineBreak? : List Char → Option (List Char)
  | '\n' :: rest => some rest
  | '\r' :: '\n' :: rest => some rest
  | _ => none

/-- The text without a line break at its start. -/
def skipLineBreak (cs : List Char) : List Char := (afterLineBreak? cs).getD cs

/-- The text from the first character on that is neither a blank nor a line break. -/
def skipBlankLines : List Char → List Char
  | ' ' :: rest | '\t' :: rest | '\n' :: rest | '\r' :: '\n' :: rest => skipBlankLines rest
  | cs => cs

/-- What follows the backslash at the end of a line: the next line that is not blank, from its first
character on. -/
def afterContinuation? (cs : List Char) : Option (List Char) :=
  (afterLineBreak? (cs.dropWhile Scalar.isSpace)).map skipBlankLines

theorem length_afterLineBreak? {cs rest : List Char} (h : afterLineBreak? cs = some rest) :
    rest.length < cs.length := by
  unfold afterLineBreak? at h
  split at h <;> cases h <;> simp only [List.length_cons] <;> omega

theorem length_skipBlankLines_le (cs : List Char) : (skipBlankLines cs).length ≤ cs.length := by
  fun_induction skipBlankLines cs with
  | case5 => exact Nat.le_refl _
  | case1 _ ih | case2 _ ih | case3 _ ih => exact Nat.le_succ_of_le ih
  | case4 _ ih => exact Nat.le_succ_of_le (Nat.le_succ_of_le ih)

theorem length_afterContinuation? {cs rest : List Char} (h : afterContinuation? cs = some rest) :
    rest.length < cs.length := by
  obtain ⟨line, hline, rfl⟩ := Option.map_eq_some_iff.mp h
  have hbreak := length_afterLineBreak? hline
  have hleft := length_skipBlankLines_le line
  have hblank := (List.dropWhile_sublist (l := cs) Scalar.isSpace).length_le
  omega

/-- A text in triple double quotes, behind the line break after the opening quotes. -/
def basicLines (cs : List Char) : Option (List Char × List Char) :=
  match cs with
  | [] => none
  | '\x22' :: '\x22' :: '\x22' :: '\x22' :: '\x22' :: rest => some (['\x22', '\x22'], rest)
  | '\x22' :: '\x22' :: '\x22' :: '\x22' :: rest => some (['\x22'], rest)
  | '\x22' :: '\x22' :: '\x22' :: rest => some ([], rest)
  | '\\' :: rest =>
    match _h : afterContinuation? rest with
    | some next => basicLines next
    | none => do
      let (c, width) ← escape? rest
      let (text, rest) ← basicLines (rest.drop width)
      return (c :: text, rest)
  | '\r' :: '\n' :: rest => do
    let (text, rest) ← basicLines rest
    return ('\r' :: '\n' :: text, rest)
  | c :: rest => do
    if !(isPlain c || c == '\n') then none
    let (text, rest) ← basicLines rest
    return (c :: text, rest)
termination_by cs.length
decreasing_by
  · have := length_afterContinuation? _h
    simp only [List.length_cons]
    omega
  · simp only [List.length_drop, List.length_cons]
    omega
  · simp only [List.length_cons]
    omega
  · simp only [List.length_cons]
    omega

/-- A text in triple single quotes, behind the line break after the opening quotes. -/
def literalLines : List Char → Option (List Char × List Char)
  | [] => none
  | '\x27' :: '\x27' :: '\x27' :: '\x27' :: '\x27' :: rest => some (['\x27', '\x27'], rest)
  | '\x27' :: '\x27' :: '\x27' :: '\x27' :: rest => some (['\x27'], rest)
  | '\x27' :: '\x27' :: '\x27' :: rest => some ([], rest)
  | '\r' :: '\n' :: rest => do
    let (text, rest) ← literalLines rest
    return ('\r' :: '\n' :: text, rest)
  | c :: rest => do
    if !(isPlain c || c == '\n') then none
    let (text, rest) ← literalLines rest
    return (c :: text, rest)

/-- The quoted text at the start of `cs`, of any of the four kinds, and what follows it. -/
def text? : List Char → Option (String × List Char)
  | '\x22' :: '\x22' :: '\x22' :: rest =>
    (basicLines (skipLineBreak rest)).map (.map String.ofList id)
  | '\x22' :: rest => (basic rest).map (.map String.ofList id)
  | '\x27' :: '\x27' :: '\x27' :: rest =>
    (literalLines (skipLineBreak rest)).map (.map String.ofList id)
  | '\x27' :: rest => (literal rest).map (.map String.ofList id)
  | _ => none

end TableGateway.Toml.Quoted

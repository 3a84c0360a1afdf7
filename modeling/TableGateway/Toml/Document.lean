import TableGateway.Toml.Growth
import TableGateway.Toml.Quoted

/-!
# TOML documents

A document is read in two steps. Its lines are read into items, which are headers and assignments
(`Document.items`), and the items are carried out one after the other on a growing table
(`Document.build`). `Document.parse` gives the entries of the finished table, or nothing for a
document that is not TOML 1.1 or nests deeper than `maxDepth`.

The readers take text from the front of a list of characters and give what they read with the rest
of the list. Those that call each other count down a number of steps, which starts from the length
of the document and is never used up: between two steps of the same kind a character is read.
-/

namespace TableGateway.Toml.Document

/-! ## Blanks, comments and line ends -/

/-- The text from the first character that is no blank on. -/
def skipSpaces (cs : List Char) : List Char := cs.dropWhile Scalar.isSpace

/-- What follows a comment at the start of a text, up to the line break; a text without a comment is
left alone, and a comment with control characters is none. -/
def skipComment : List Char → Option (List Char)
  | '#' :: rest =>
    match rest.dropWhile Quoted.isPlain with
    | [] => some []
    | rest => if (Quoted.afterLineBreak? rest).isSome then some rest else none
  | cs => some cs

/-- The next line, if nothing but blanks and a comment is left of this one. -/
def endLine (cs : List Char) : Option (List Char) := do
  match ← skipComment (skipSpaces cs) with
  | [] => some []
  | rest => Quoted.afterLineBreak? rest

/-- The text from the first character on that is no blank and in no comment, on whatever line. -/
def skipLines : Nat → List Char → Option (List Char)
  | 0, _ => none
  | n + 1, cs => do
    let rest ← skipComment (skipSpaces cs)
    match Quoted.afterLineBreak? rest with
    | some next => skipLines n next
    | none => some rest

/-! ## Keys -/

/-- A character of a key without quotes. -/
def isBareKeyChar (c : Char) : Bool := c.isAlphanum || c == '_' || c == '-'

/-- A key without dots: bare, or in quotes of one line. -/
def simpleKey : List Char → Option (String × List Char)
  | '\x22' :: rest => (Quoted.basic rest).map (.map String.ofList id)
  | '\x27' :: rest => (Quoted.literal rest).map (.map String.ofList id)
  | cs =>
    let word := cs.takeWhile isBareKeyChar
    if word.isEmpty then none else some (String.ofList word, cs.dropWhile isBareKeyChar)

/-- The keys before the last dot, and the one after it. Blanks around them are skipped. -/
def dottedKey : Nat → List Char → Option (List String × String × List Char)
  | 0, _ => none
  | n + 1, cs => do
    let (name, rest) ← simpleKey (skipSpaces cs)
    match skipSpaces rest with
    | '.' :: rest =>
      let (path, last, rest) ← dottedKey n rest
      return (name :: path, last, rest)
    | rest => return ([], name, rest)

/-- How many brackets and braces may be open at once, and how many keys be joined by dots. -/
def maxDepth : Nat := 80

/-- A key: the keys before its last dot, and the one after it, together at most `maxDepth`. -/
def key (n : Nat) (cs : List Char) : Option (List String × String × List Char) :=
  (dottedKey n cs).filter fun (path, _) => path.length < maxDepth

/-! ## Values -/

mutual

/-- A value; arrays and inline tables may be nested `depth` deep in it. -/
def value : (steps depth : Nat) → List Char → Option (Value × List Char)
  | 0, _, _ => none
  | n + 1, depth, cs =>
    match cs, depth with
    | '[' :: _, 0 | '\x7b' :: _, 0 => none
    | '[' :: rest, depth + 1 => (arrayItems n depth rest).map (.map .array id)
    | '\x7b' :: rest, depth + 1 =>
      (inlineTable n depth [] rest).map (.map (fun t => .table (Growing.values t)) id)
    | '\x22' :: _, _ | '\x27' :: _, _ => (Quoted.text? cs).map (.map .string id)
    | _, _ =>
      let (text, rest) := Scalar.span cs
      (Scalar.value? text).map (·, rest)

/-- The items of an array that are left, up to its closing bracket. -/
def arrayItems : (steps depth : Nat) → List Char → Option (List Value × List Char)
  | 0, _, _ => none
  | n + 1, depth, cs => do
    match ← skipLines (cs.length + 1) cs with
    | ']' :: rest => return ([], rest)
    | cs =>
      let (first, rest) ← value n depth cs
      match ← skipLines (rest.length + 1) rest with
      | ',' :: rest =>
        let (more, rest) ← arrayItems n depth rest
        return (first :: more, rest)
      | ']' :: rest => return ([first], rest)
      | _ => none

/-- The inline table that has grown so far, with its entries that are left, up to the closing
brace. A line may end before and after a key, but not inside it. -/
def inlineTable : (steps depth : Nat) → Growing → List Char → Option (Growing × List Char)
  | 0, _, _, _ => none
  | n + 1, depth, table, cs => do
    match ← skipLines (cs.length + 1) cs with
    | '\x7d' :: rest => return (table, rest)
    | cs =>
      let (path, last, rest) ← key n cs
      let rest ← ['='].isPrefixOf? (← skipLines (rest.length + 1) rest)
      let (entry, rest) ← value n depth (← skipLines (rest.length + 1) rest)
      let table ← table.assign path last entry
      match ← skipLines (rest.length + 1) rest with
      | ',' :: rest => inlineTable n depth table rest
      | '\x7d' :: rest => return (table, rest)
      | _ => none

end

/-! ## Items -/

/-- What a line of a document says. -/
inductive Item where
  /-- the lines that follow are about this table -/
  | header (path : List String) (last : String)
  /-- the lines that follow are about a new element of this list of tables -/
  | element (path : List String) (last : String)
  /-- this key of the table has this value -/
  | assignment (path : List String) (last : String) (value : Value)

/-- The item at the start of a text. -/
def item (n : Nat) : List Char → Option (Item × List Char)
  | '[' :: '[' :: rest => do
    let (path, last, rest) ← key n rest
    let rest ← [']', ']'].isPrefixOf? rest
    return (.element path last, rest)
  | '[' :: rest => do
    let (path, last, rest) ← key n rest
    let rest ← [']'].isPrefixOf? rest
    return (.header path last, rest)
  | cs => do
    let (path, last, rest) ← key n cs
    let rest ← ['='].isPrefixOf? rest
    let (v, rest) ← value n maxDepth (skipSpaces rest)
    return (.assignment path last v, rest)

/-- The items of a document, at most one on a line. -/
def items : Nat → List Char → Option (List Item)
  | 0, _ => none
  | n + 1, cs => do
    match ← skipLines (n + 1) cs with
    | [] => return []
    | cs =>
      let (first, rest) ← item (2 * cs.length + 2) cs
      let more ← items n (← endLine rest)
      return first :: more

/-! ## The table of a document -/

/-- The table after some items, when the lines before them were about the table at `current`. -/
def build : List String → Growing → List Item → Option Growing
  | _, t, [] => some t
  | _, t, .header path last :: rest => do
    let t ← t.descend path (Growing.define last)
    build (path ++ [last]) t rest
  | _, t, .element path last :: rest => do
    let t ← t.descend path (Growing.extend last)
    build (path ++ [last]) t rest
  | current, t, .assignment path last v :: rest => do
    let t ← t.descend current (Growing.assign path last v)
    build current t rest

/-- The entries of a document. A byte order mark at its start is skipped. -/
def parse (text : String) : Option Entries := do
  let cs := match text.toList with
    | '\ufeff' :: rest => rest
    | cs => cs
  let found ← items (cs.length + 1) cs
  return Growing.values (← build [] [] found)

end TableGateway.Toml.Document

import TableGateway.Text.Numeral

/-!
# Printed JSON

Results are printed as JSON for people and programs to read: an entry a line, two blanks for each
level, an empty array as `[]`. In texts a quote, a backslash and the control characters below the
blank are escaped, the common ones by a letter and the others by their code; everything else, also
beyond ASCII, stands as it is.
-/

namespace TableGateway

/-- A value to be printed. -/
inductive Json where
  /-- a text -/
  | string (text : String)
  /-- a number -/
  | number (n : Nat)
  /-- a list -/
  | array (items : List Json)
  /-- named values, in the order in which they are printed -/
  | object (fields : List (String × Json))

namespace Json

/-- A character inside the quotes of a text. -/
def escaped (c : Char) : List Char :=
  match c with
  | '\x22' => "\\\"".toList
  | '\\' => "\\\\".toList
  | '\x08' => "\\b".toList
  | '\t' => "\\t".toList
  | '\n' => "\\n".toList
  | '\x0c' => "\\f".toList
  | '\r' => "\\r".toList
  | c =>
    if c.toNat < 0x20 then
      "\\u00".toList ++ [Nat.digitChar (c.toNat / 16), Nat.digitChar (c.toNat % 16)]
    else [c]

/-- A text in quotes. -/
def quoted (text : String) : String :=
  "\"" ++ String.ofList (text.toList.flatMap escaped) ++ "\""

/-- The start of a line at the given depth. -/
def lineStart (depth : Nat) : String := "\n" ++ String.ofList (List.replicate (2 * depth) ' ')

/-- Entries in brackets, each on a line of its own. -/
def bracketed (opening closing : String) (depth : Nat) (entries : List String) : String :=
  if entries.isEmpty then opening ++ closing
  else
    opening ++ lineStart (depth + 1) ++ ("," ++ lineStart (depth + 1)).intercalate entries ++
      lineStart depth ++ closing

mutual

/-- The text of a value that starts on a line of the given depth. -/
def textAt (depth : Nat) : Json → String
  | string text => quoted text
  | number n => Text.decimal n
  | array items => bracketed "[" "]" depth (itemsAt (depth + 1) items)
  | object fields => bracketed "\x7b" "\x7d" depth (fieldsAt (depth + 1) fields)

/-- The texts of the items of an array. -/
def itemsAt (depth : Nat) : List Json → List String
  | [] => []
  | v :: rest => textAt depth v :: itemsAt depth rest

/-- The texts of the fields of an object. -/
def fieldsAt (depth : Nat) : List (String × Json) → List String
  | [] => []
  | (name, v) :: rest => (quoted name ++ ": " ++ textAt depth v) :: fieldsAt depth rest

end

/-- The text of a value. -/
def pretty (v : Json) : String := textAt 0 v

end Json

end TableGateway

import TableGateway.Error

/-!
# Identifiers

Names of tables, schemas, columns and procedures are written into SQL as they stand, since they
cannot be bound as parameters. An `Identifier` is a name for which that is safe: an English letter
or `_`, followed by English letters, digits, `_` or `$`. The type carries the proof, so nothing else
can reach a statement as a name.

* `flaw?` names the first thing that is wrong with a text, from left to right;
* `parse` reads a name that a request gives, `parseConfigured` one that a configuration gives; they
  accept the same names and differ in the kind of error.
-/

namespace TableGateway

namespace Identifier

/-- A character that an identifier can start with. -/
def isStart (c : Char) : Bool := c == '_' || c.isAlpha

/-- A character that can follow in an identifier. -/
def isPart (c : Char) : Bool := c == '_' || c == '$' || c.isAlphanum

/-- The characters spell an identifier. -/
def wellFormed : List Char → Bool
  | [] => false
  | c :: cs => isStart c && cs.all isPart

/-- Names are ASCII. -/
theorem lt_of_isPart {c : Char} (h : isPart c = true) : c.toNat < 0x80 := by
  simp only [isPart, Bool.or_eq_true, beq_iff_eq, Text.isAlphanum_iff, Text.isUpper_iff,
    Text.isLower_iff, Text.isDigit_iff] at h
  rcases h with (rfl | rfl) | h
  · decide
  · decide
  · omega

/-- An identifier can start with the small letter of a capital. -/
theorem isStart_toLower {c : Char} (h : c.isUpper = true) : isStart c.toLower = true := by
  have hletter : c.toLower.isAlpha = true := Bool.or_eq_true_iff.mpr (.inr (Text.isLower_toLower h))
  rw [isStart, hletter, Bool.or_true]

/-- What can follow in an identifier can do so in lower case. -/
theorem isPart_toLower {c : Char} (h : isPart c = true) : isPart c.toLower = true := by
  by_cases hupper : c.isUpper = true
  · have hlower := Text.isLower_toLower hupper
    have halphanum := Text.isAlphanum_iff.mpr (.inl (.inr hlower))
    simp [isPart, halphanum]
  · rw [Text.toLower_of_not_isUpper hupper]
    exact h

/-- The first thing that keeps a text from being an identifier. -/
def flaw? (text : String) : Option Reason :=
  match text.toList with
  | [] => some .emptyIdentifier
  | c :: cs =>
    if isStart c then (cs.find? fun d => !isPart d).map (.identifierCharacter · text)
    else some (.identifierStart c text)

/-- A text without a flaw is an identifier, and no other. -/
theorem flaw?_eq_none_iff {text : String} : flaw? text = none ↔ wellFormed text.toList = true := by
  unfold flaw? wellFormed
  cases text.toList with
  | nil => simp
  | cons c cs => by_cases h : isStart c = true <;> simp [h]

end Identifier

/-- A name that can be written into SQL. -/
structure Identifier where
  /-- the name -/
  name : String
  /-- the name is spelled as an identifier -/
  valid : Identifier.wellFormed name.toList = true
deriving DecidableEq

namespace Identifier

/-- The identifier that a text spells, or its first flaw. -/
def read (text : String) : Except Reason Identifier :=
  match h : flaw? text with
  | none => .ok ⟨text, flaw?_eq_none_iff.mp h⟩
  | some reason => .error reason

/-- The identifier that a request names. -/
def parse (text : String) : Except Error Identifier := (read text).mapError .request

/-- The identifier that a configuration names. -/
def parseConfigured (text : String) : Except Error Identifier :=
  (read text).mapError .invalidConfiguration

/-- An identifier is its name. -/
theorem ext_name {a b : Identifier} (h : a.name = b.name) : a = b := by
  cases a
  cases b
  cases h
  rfl

/-- A text is read as an identifier exactly when it spells one, and then it is that name. -/
theorem read_eq_ok_iff {text : String} {i : Identifier} : read text = .ok i ↔ text = i.name := by
  unfold read
  split
  · constructor
    · rintro h
      cases h
      rfl
    · rintro rfl
      rfl
  · rename_i reason hflaw
    constructor
    · intro h
      cases h
    · rintro rfl
      rw [flaw?_eq_none_iff.mpr i.valid] at hflaw
      cases hflaw

theorem exists_read_iff {text : String} :
    (∃ i, read text = .ok i) ↔ ∃ i : Identifier, i.name = text :=
  exists_congr fun _ => read_eq_ok_iff.trans eq_comm

/-- A text is refused exactly for its first flaw. -/
theorem read_eq_error_iff {text : String} {reason : Reason} :
    read text = .error reason ↔ flaw? text = some reason := by
  unfold read
  split <;> rename_i h <;> simp [h]

@[simp] theorem read_name (i : Identifier) : read i.name = .ok i := read_eq_ok_iff.mpr rfl

theorem parse_eq_ok_iff {text : String} {i : Identifier} : parse text = .ok i ↔ text = i.name :=
  mapError_eq_ok_iff.trans read_eq_ok_iff

theorem parseConfigured_eq_ok_iff {text : String} {i : Identifier} :
    parseConfigured text = .ok i ↔ text = i.name :=
  mapError_eq_ok_iff.trans read_eq_ok_iff

@[simp] theorem parse_name (i : Identifier) : parse i.name = .ok i := parse_eq_ok_iff.mpr rfl

end Identifier

end TableGateway

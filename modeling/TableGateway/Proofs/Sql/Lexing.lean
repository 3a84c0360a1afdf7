import TableGateway.Identifier
import TableGateway.Sql.Piece
import TableGateway.Text.Numeral

/-!
# Lexemes of a statement

What a database sees of a statement before it looks at the grammar. The text is cut into *tokens* by
the rule of the longest match: a run of letters, digits, `_` and `$` is one token, so is a run of
the signs `<`, `>` and `=`, and every other character that is not white space is a token of its own.
Then each `?` takes the next parameter, and what comes out is a list of `Lexeme`s. Nothing here
knows which words are keywords: that is for the place in the grammar to say.

* `lexemes?` are the lexemes of a statement, if there is a parameter for each `?` and none left.
* `Spells cs vs ls` says that the text `cs` with the parameters `vs` is cut into `ls`. Its lemmas
  take a text apart from the left, one token at a time, and leave the rest open; this is how the
  spelling of everything that is rendered is proved.
-/

namespace TableGateway.Sql

/-- A sign of a comparison. -/
def isSign (c : Char) : Bool := c == '<' || c == '>' || c == '='

/-- The two characters belong to one token when they stand side by side. -/
def joins (c d : Char) : Bool :=
  (Identifier.isPart c && Identifier.isPart d) || (isSign c && isSign d)

/-- The tokens with a character put before the first one. -/
def glue (c : Char) : List (List Char) → List (List Char)
  | [] => [[c]]
  | t :: ts => (c :: t) :: ts

/-- The tokens of a text, by the rule of the longest match. -/
def tokens : List Char → List (List Char)
  | [] => []
  | c :: cs =>
    if c.isWhitespace then tokens cs
    else if cs.head?.any (joins c) then glue c (tokens cs)
    else [c] :: tokens cs

/-- A token of a statement, or the value in the place of a `?`. -/
inductive Lexeme where
  /-- a token of the text -/
  | token (text : List Char)
  /-- a bound value -/
  | value (v : String)
deriving DecidableEq

/-- The lexeme of a text that is one token. -/
abbrev word (s : String) : Lexeme := .token s.toList

/-- The lexemes of a list of tokens: each `?` takes the next of the values, and there have to be
just enough of them. -/
def fill : List (List Char) → List String → Option (List Lexeme)
  | [], [] => some []
  | [], _ :: _ => none
  | ['?'] :: _, [] => none
  | ['?'] :: ts, v :: vs => (fill ts vs).map (.value v :: ·)
  | t :: ts, vs => (fill ts vs).map (.token t :: ·)

/-- The lexemes of a statement. -/
def lexemes? (st : Statement) : Option (List Lexeme) := fill (tokens st.sql.toList) st.params

/-! ## Where a text can be cut -/

/-- The character is never a part of a longer token. -/
def standsAlone (c : Char) : Bool := !Identifier.isPart c && !isSign c

/-- The text starts with a character that no token before it can run into, or is empty. -/
def opens (cs : List Char) : Bool := cs.head?.all standsAlone

/-- The text starts with a character that no word before it can run into, or is empty. -/
def endsWord (cs : List Char) : Bool := cs.head?.all fun c => !Identifier.isPart c

/-- The text ends with a character that runs into no token behind it, or is empty. -/
def closes (cs : List Char) : Bool := cs.getLast?.all standsAlone

theorem not_joins_left {c d : Char} (h : standsAlone c = true) : joins c d = false := by
  simp only [standsAlone, Bool.and_eq_true, Bool.not_eq_true'] at h
  simp [joins, h.1, h.2]

theorem not_joins_right {c d : Char} (h : standsAlone d = true) : joins c d = false := by
  simp only [standsAlone, Bool.and_eq_true, Bool.not_eq_true'] at h
  simp [joins, h.1, h.2]

theorem tokens_cons_cons (c d : Char) (cs : List Char) :
    tokens (c :: d :: cs) =
      if c.isWhitespace then tokens (d :: cs)
      else if joins c d then glue c (tokens (d :: cs))
      else [c] :: tokens (d :: cs) := rfl

/-- A text that does not start with white space has a token. -/
theorem tokens_ne_nil {c : Char} {cs : List Char} (h : c.isWhitespace = false) :
    tokens (c :: cs) ≠ [] := by
  rw [tokens, if_neg (by simp [h])]
  split
  · cases tokens cs <;> simp [glue]
  · simp

theorem glue_append {c : Char} {ts us : List (List Char)} (h : ts ≠ []) :
    glue c (ts ++ us) = glue c ts ++ us := by
  cases ts with
  | nil => exact absurd rfl h
  | cons t ts => rfl

/-- White space joins with nothing. -/
theorem not_joins_of_isWhitespace {c d : Char} (h : d.isWhitespace = true) :
    joins c d = false := by
  apply not_joins_right
  simp only [Char.isWhitespace, Bool.or_eq_true, decide_eq_true_eq] at h
  rcases h with ((rfl | rfl) | rfl) | rfl <;> decide

/-- A text can be cut in two where the characters to the left and to the right do not join. -/
theorem tokens_append {a b : List Char}
    (h : ∀ c ∈ a.getLast?, ∀ d ∈ b.head?, joins c d = false) :
    tokens (a ++ b) = tokens a ++ tokens b := by
  induction a with
  | nil => rfl
  | cons c cs ih =>
    cases cs with
    | nil =>
      -- only the last character of the first text has the second one behind it
      have hb : b.head?.any (joins c) = false := by
        cases b with
        | nil => rfl
        | cons d ds => exact h c rfl d rfl
      by_cases hc : c.isWhitespace = true <;> simp [tokens, hc, hb]
    | cons d ds =>
      have ih := ih fun x hx => h x (by simpa [List.getLast?_cons_cons] using hx)
      have heq : tokens (d :: (ds ++ b)) = tokens (d :: ds) ++ tokens b := ih
      rw [List.cons_append, List.cons_append, tokens_cons_cons, tokens_cons_cons, heq]
      by_cases hc : c.isWhitespace = true
      · rw [if_pos hc, if_pos hc]
      · rw [if_neg hc, if_neg hc]
        by_cases hj : joins c d = true
        · -- characters that join are no white space, so there is a token to put `c` before
          have hd : d.isWhitespace = false := by
            cases hd : d.isWhitespace with
            | false => rfl
            | true => rw [not_joins_of_isWhitespace hd] at hj; cases hj
          rw [if_pos hj, if_pos hj, glue_append (tokens_ne_nil hd)]
        · rw [if_neg hj, if_neg hj, List.cons_append]

/-- A text can be cut behind an end that closes it. -/
theorem tokens_append_of_closes {a : List Char} (h : closes a = true) (b : List Char) :
    tokens (a ++ b) = tokens a ++ tokens b := by
  refine tokens_append fun c hc d _ => not_joins_left ?_
  rw [closes, Option.mem_def.mp hc] at h
  exact h

/-- A text can be cut before a start that opens the rest. -/
theorem tokens_append_of_opens {b : List Char} (h : opens b = true) (a : List Char) :
    tokens (a ++ b) = tokens a ++ tokens b := by
  refine tokens_append fun c _ d hd => not_joins_right ?_
  rw [opens, Option.mem_def.mp hd] at h
  exact h

/-! ## Words -/

/-- The text is a run of characters of identifiers and numbers. -/
def isWord (cs : List Char) : Bool := !cs.isEmpty && cs.all Identifier.isPart

theorem isWhitespace_of_isPart {c : Char} (h : Identifier.isPart c = true) :
    c.isWhitespace = false := by
  cases hc : c.isWhitespace with
  | false => rfl
  | true =>
    simp only [Char.isWhitespace, Bool.or_eq_true, decide_eq_true_eq] at hc
    rcases hc with ((rfl | rfl) | rfl) | rfl <;> cases h

/-- A word is one token. -/
theorem tokens_of_isWord {cs : List Char} (h : isWord cs = true) : tokens cs = [cs] := by
  induction cs with
  | nil => cases h
  | cons c cs ih =>
    simp only [isWord, List.isEmpty_cons, List.all_cons, Bool.not_false, Bool.true_and,
      Bool.and_eq_true] at h
    obtain ⟨hc, hcs⟩ := h
    rw [tokens, if_neg (by simp [isWhitespace_of_isPart hc])]
    cases cs with
    | nil => rfl
    | cons d ds =>
      have hd : Identifier.isPart d = true := (List.all_eq_true.mp hcs) d (List.mem_cons_self ..)
      rw [ih (by simp [isWord] at hcs ⊢; exact hcs), if_pos (by simp [joins, hc, hd])]
      rfl

theorem isPart_of_isStart {c : Char} (h : Identifier.isStart c = true) :
    Identifier.isPart c = true := by
  simp only [Identifier.isStart, Bool.or_eq_true] at h
  rcases h with h | h <;> simp [Identifier.isPart, Char.isAlphanum, h]

/-- An identifier is a word. -/
theorem isWord_name (i : Identifier) : isWord i.name.toList = true := by
  have h := i.valid
  cases hcs : i.name.toList with
  | nil => rw [hcs] at h; cases h
  | cons c cs =>
    rw [hcs, Identifier.wellFormed, Bool.and_eq_true] at h
    simp only [isWord, List.isEmpty_cons, List.all_cons, isPart_of_isStart h.1, h.2, Bool.not_false,
      Bool.and_self]

theorem endsWord_of_opens {cs : List Char} (h : opens cs = true) : endsWord cs = true := by
  cases cs with
  | nil => rfl
  | cons c cs =>
    have hc : standsAlone c = true := h
    simp only [standsAlone, Bool.and_eq_true] at hc
    exact hc.1

/-- A character of a word joins with nothing that does not belong to a word. -/
theorem not_joins_word {c d : Char} (hc : Identifier.isPart c = true)
    (hd : Identifier.isPart d = false) : joins c d = false := by
  have hsign : isSign c = false := by
    cases hsign : isSign c with
    | false => rfl
    | true =>
      simp only [isSign, Bool.or_eq_true, beq_iff_eq] at hsign
      rcases hsign with (rfl | rfl) | rfl <;> cases hc
  rw [joins, hd, hsign, Bool.and_false, Bool.false_and, Bool.or_false]

/-- A word is cut off a text that it does not run into. -/
theorem tokens_word_append {w cs : List Char} (hw : isWord w = true) (h : endsWord cs = true) :
    tokens (w ++ cs) = w :: tokens cs := by
  have hjoins : ∀ c ∈ w.getLast?, ∀ d ∈ cs.head?, joins c d = false := by
    intro c hc d hd
    rw [isWord, Bool.and_eq_true, List.all_eq_true] at hw
    rw [endsWord, Option.mem_def.mp hd] at h
    exact not_joins_word (hw.2 c (List.mem_of_getLast? hc)) (Bool.not_eq_true' _ ▸ h)
  rw [tokens_append hjoins, tokens_of_isWord hw]
  rfl

/-- A number in decimal is a word. -/
theorem isWord_toDigits (n : Nat) : isWord (Nat.toDigits 10 n) = true := by
  have hdigits : (Nat.toDigits 10 n).all Identifier.isPart = true := by
    refine List.all_eq_true.mpr fun c hc => ?_
    have h : c.isDigit = true := Nat.isDigit_of_mem_toDigits (by decide) (by decide) hc
    simp [Identifier.isPart, Char.isAlphanum, h]
  simp [isWord, hdigits, Text.toDigits_ne_nil n]

/-! ## Spelling -/

/-- The text `cs`, with the values `vs` in the place of its placeholders, is cut into `ls`. -/
def Spells (cs : List Char) (vs : List String) (ls : List Lexeme) : Prop :=
  fill (tokens cs) vs = some ls

theorem spells_nil : Spells [] [] [] := rfl

theorem fill_token {t : List Char} {ts : List (List Char)} {vs : List String} (h : t ≠ ['?']) :
    fill (t :: ts) vs = (fill ts vs).map (.token t :: ·) := by
  rw [fill]
  · intro _ ht
    exact h ht
  · intro _ _ _ ht
    exact h ht

/-- Tokens that are no placeholders stand before whatever follows. -/
theorem fill_append {ts : List (List Char)} {ls : List Lexeme} (hts : fill ts [] = some ls)
    (us : List (List Char)) (vs : List String) :
    fill (ts ++ us) vs = (fill us vs).map (ls ++ ·) := by
  induction ts generalizing ls with
  | nil =>
    cases hts
    simp
  | cons t ts ih =>
    by_cases ht : t = ['?']
    · -- a placeholder takes a value, and there is none
      subst ht
      cases hts
    · rw [fill_token ht] at hts
      obtain ⟨ls', hls', rfl⟩ := Option.map_eq_some_iff.mp hts
      rw [List.cons_append, fill_token ht, ih hls', Option.map_map]
      rfl

namespace Spells

variable {cs : List Char} {vs : List String} {ls : List Lexeme}

/-- A text without placeholders that cannot run into the rest. -/
theorem text_append {a : List Char} {ms : List Lexeme} (hcloses : closes a = true)
    (ha : Spells a [] ms) (h : Spells cs vs ls) : Spells (a ++ cs) vs (ms ++ ls) := by
  rw [Spells, tokens_append_of_closes hcloses, fill_append ha, h]
  rfl

/-- A text without placeholders before a rest that it cannot run into. -/
theorem append_opens {a : List Char} {ms : List Lexeme} (ha : Spells a [] ms)
    (hopens : opens cs = true) (h : Spells cs vs ls) : Spells (a ++ cs) vs (ms ++ ls) := by
  rw [Spells, tokens_append_of_opens hopens, fill_append ha, h]
  rfl

/-- A text that starts with another starts with its lexemes. -/
theorem of_text_append {a : List Char} {ms : List Lexeme} (hcloses : closes a = true)
    (ha : Spells a [] ms) (h : Spells (a ++ cs) vs ls) : ∃ more, ls = ms ++ more := by
  rw [Spells, tokens_append_of_closes hcloses, fill_append ha] at h
  obtain ⟨more, -, rfl⟩ := Option.map_eq_some_iff.mp h
  exact ⟨more, rfl⟩

/-- A word before a rest that it cannot run into. -/
theorem word_append {w : List Char} (hw : isWord w = true) (hends : endsWord cs = true)
    (h : Spells cs vs ls) : Spells (w ++ cs) vs (.token w :: ls) := by
  have hne : w ≠ ['?'] := by
    rintro rfl
    cases hw
  rw [Spells, tokens_word_append hw hends, fill_token hne, h]
  rfl

/-- A placeholder takes the first of the values. -/
theorem bound_append (v : String) (h : Spells cs vs ls) :
    Spells ('?' :: cs) (v :: vs) (.value v :: ls) := by
  rw [Spells, show '?' :: cs = ['?'] ++ cs from rfl, tokens_append_of_closes (by decide),
    show tokens ['?'] ++ tokens cs = ['?'] :: tokens cs from rfl, fill, h]
  rfl

end Spells

end TableGateway.Sql

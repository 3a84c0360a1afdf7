import Mathlib.Data.List.Forall2
import TableGateway.Console.Json

/-!
# What is printed can be read

A result is printed for other programs to read, and what they make of it is settled by JSON and not
by the way it was printed. `Json.read?` reads a text as such a program does: the text is cut into
tokens, between which blanks and line breaks count for nothing, and the tokens are put together by
the grammar. Of JSON it knows all but `null`, truth values and numbers that are no natural numbers,
none of which are printed, and characters that are escaped by two codes. It does not mind zeros in
front of a number.

* `Scan` is what the reader is in the middle of, and `Scan.next` what one more character does.
* `value?`, `items?` and `fields?` are the rules of the grammar.
* `Json.read?_pretty` is the main result: a value that has been printed is read again, whatever its
  texts are. So the printed text tells the value.
-/

namespace TableGateway.Json

/-! ## Tokens -/

/-- A token of a text. -/
inductive Token where
  /-- the start of an array -/
  | arrayStart
  /-- the end of an array -/
  | arrayEnd
  /-- the start of an object -/
  | objectStart
  /-- the end of an object -/
  | objectEnd
  /-- what stands between two entries -/
  | comma
  /-- what stands between a name and its value -/
  | colon
  /-- a text -/
  | text (cs : List Char)
  /-- a number -/
  | number (n : Nat)
deriving DecidableEq

/-- The token that a sign is. -/
def sign? : Char → Option Token
  | '[' => some .arrayStart
  | ']' => some .arrayEnd
  | '\x7b' => some .objectStart
  | '\x7d' => some .objectEnd
  | ',' => some .comma
  | ':' => some .colon
  | _ => none

/-- The character may stand between tokens. -/
def isBlank (c : Char) : Bool := c == ' ' || c == '\t' || c == '\n' || c == '\r'

/-- The character that a letter behind a backslash stands for. -/
def unescaped? : Char → Option Char
  | '\x22' => some '\x22'
  | '\\' => some '\\'
  | '/' => some '/'
  | 'b' => some '\x08'
  | 'f' => some '\x0c'
  | 'n' => some '\n'
  | 'r' => some '\r'
  | 't' => some '\t'
  | _ => none

/-- The number that a digit of a character code stands for. -/
def hexDigit? (c : Char) : Option Nat :=
  if c.isDigit then some (c.toNat - '0'.toNat)
  else if 'a' ≤ c ∧ c ≤ 'f' then some (c.toNat - 'a'.toNat + 10)
  else if 'A' ≤ c ∧ c ≤ 'F' then some (c.toNat - 'A'.toNat + 10)
  else none

/-- What the reader of a text is in the middle of. -/
inductive Scan where
  /-- it is between two tokens -/
  | between
  /-- it has read digits of a number -/
  | number (n : Nat)
  /-- it has read characters of a text -/
  | text (read : List Char)
  /-- it has read a backslash in a text -/
  | escape (read : List Char)
  /-- it has read digits of a character code in a text, and as many are missing -/
  | code (read : List Char) (missing n : Nat)

namespace Scan

/-- What a character between two tokens does: the tokens that it is, and what it begins. -/
def start (c : Char) : Option (List Token × Scan) :=
  match sign? c with
  | some t => some ([t], between)
  | none =>
    if isBlank c then some ([], between)
    else if c.isDigit then some ([], number (c.toNat - '0'.toNat))
    else if c = '\x22' then some ([], text [])
    else none

/-- What a character does: the tokens that are complete with it, and what is read then. -/
def next (s : Scan) (c : Char) : Option (List Token × Scan) :=
  match s with
  | between => start c
  | number n =>
    if c.isDigit then some ([], number (10 * n + (c.toNat - '0'.toNat)))
    else (start c).map fun p => (.number n :: p.1, p.2)
  | text read =>
    if c = '\x22' then some ([.text read], between)
    else if c = '\\' then some ([], escape read)
    else if c.toNat < 0x20 then none
    else some ([], text (read ++ [c]))
  | escape read =>
    if c = 'u' then some ([], code read 4 0)
    else (unescaped? c).map fun c => ([], text (read ++ [c]))
  | code read missing n =>
    (hexDigit? c).bind fun digit =>
      let n := 16 * n + digit
      if 1 < missing then some ([], code read (missing - 1) n)
      else if n.isValidChar then some ([], text (read ++ [Char.ofNat n]))
      else none

/-- The tokens that are complete at the end of the text. -/
def finish : Scan → Option (List Token)
  | between => some []
  | number n => some [.number n]
  | text _ | escape _ | code .. => none

end Scan

/-- The tokens of a text. -/
def lex (s : Scan) : List Char → Option (List Token)
  | [] => s.finish
  | c :: cs => (s.next c).bind fun p => (lex p.2 cs).map (p.1 ++ ·)

/-! ## The grammar -/

mutual

/-- The value at the start of the tokens, and what follows it. A value has fewer tokens in each of
its parts, so the number of tokens is a bound for the depth to which the rules are applied. -/
def value? : Nat → List Token → Option (Json × List Token)
  | 0, _ => none
  | bound + 1, ts =>
    match ts with
    | .text cs :: rest => some (.string (String.ofList cs), rest)
    | .number n :: rest => some (.number n, rest)
    | .arrayStart :: rest =>
      if rest.head? = some .arrayEnd then some (.array [], rest.tail)
      else (items? bound rest).map fun p => (.array p.1, p.2)
    | .objectStart :: rest =>
      if rest.head? = some .objectEnd then some (.object [], rest.tail)
      else (fields? bound rest).map fun p => (.object p.1, p.2)
    | _ => none

/-- The items up to the end of an array, of which there is one at least. -/
def items? : Nat → List Token → Option (List Json × List Token)
  | 0, _ => none
  | bound + 1, ts =>
    (value? bound ts).bind fun p =>
      match p.2 with
      | .arrayEnd :: rest => some ([p.1], rest)
      | .comma :: rest => (items? bound rest).map fun q => (p.1 :: q.1, q.2)
      | _ => none

/-- The fields up to the end of an object, of which there is one at least. -/
def fields? : Nat → List Token → Option (List (String × Json) × List Token)
  | 0, _ => none
  | bound + 1, ts =>
    match ts with
    | .text name :: .colon :: rest =>
      (value? bound rest).bind fun p =>
        match p.2 with
        | .objectEnd :: rest => some ([(String.ofList name, p.1)], rest)
        | .comma :: rest =>
          (fields? bound rest).map fun q => ((String.ofList name, p.1) :: q.1, q.2)
        | _ => none
    | _ => none

end

/-- The value that a text is. -/
def read? (text : String) : Option Json :=
  (lex .between text.toList).bind fun ts =>
    match value? (ts.length + 1) ts with
    | some (v, []) => some v
    | _ => none

/-! ## The tokens of a value -/

mutual

/-- The tokens of a value. -/
def tokens : Json → List Token
  | string text => [.text text.toList]
  | number n => [.number n]
  | array items => .arrayStart :: [.comma].intercalate (itemsTokens items) ++ [.arrayEnd]
  | object fields => .objectStart :: [.comma].intercalate (fieldsTokens fields) ++ [.objectEnd]

/-- The tokens of the items of an array. -/
def itemsTokens : List Json → List (List Token)
  | [] => []
  | v :: rest => tokens v :: itemsTokens rest

/-- The tokens of the fields of an object. -/
def fieldsTokens : List (String × Json) → List (List Token)
  | [] => []
  | (name, v) :: rest => (.text name.toList :: .colon :: tokens v) :: fieldsTokens rest

end

/-- Before the given rest the text is cut into the tokens. -/
def Lexes (text : List Char) (ts : List Token) (rest : List Char) : Prop :=
  lex .between (text ++ rest) = (lex .between rest).map (ts ++ ·)

/-- A number that stands before the text does not go on in it. -/
def EndsNumber (cs : List Char) : Prop := ∀ c ∈ cs.head?, c.isDigit = false

theorem endsNumber_cons {c : Char} (h : c.isDigit = false) (cs : List Char) :
    EndsNumber (c :: cs) := by
  rintro _ ⟨⟩
  exact h

namespace Lexes

variable {s t rest : List Char} {ts us : List Token}

theorem nil (rest : List Char) : Lexes [] [] rest := by
  show lex .between rest = (lex .between rest).map fun ts => [] ++ ts
  simp

theorem append (hs : Lexes s ts (t ++ rest)) (ht : Lexes t us rest) :
    Lexes (s ++ t) (ts ++ us) rest := by
  rw [Lexes, List.append_assoc, hs, ht]
  cases lex .between rest <;> simp

theorem sign {c : Char} {t : Token} (h : sign? c = some t) (rest : List Char) :
    Lexes [c] [t] rest := by
  rw [Lexes, List.singleton_append, lex, Scan.next, Scan.start, h]
  rfl

/-- Blanks are no tokens. -/
theorem blanks {cs : List Char} (h : ∀ c ∈ cs, isBlank c = true) (rest : List Char) :
    Lexes cs [] rest := by
  induction cs with
  | nil => exact nil rest
  | cons c cs ih =>
    obtain ⟨hc, hcs⟩ := List.forall_mem_cons.mp h
    have hsign : sign? c = none := by
      simp only [isBlank, Bool.or_eq_true, beq_iff_eq] at hc
      rcases hc with ((rfl | rfl) | rfl) | rfl <;> rfl
    have hstart : Scan.start c = some ([], .between) := by
      rw [Scan.start, hsign]
      exact if_pos hc
    have hone : Lexes [c] [] (cs ++ rest) := by
      rw [Lexes, List.singleton_append, lex, Scan.next, hstart]
      rfl
    exact hone.append (ih hcs)

end Lexes

/-! ## Texts and numbers -/

theorem lex_cons {s s' : Scan} {c : Char} (h : s.next c = some ([], s')) (cs : List Char) :
    lex s (c :: cs) = lex s' cs := by
  rw [lex, h]
  show (lex s' cs).map (fun ts => [] ++ ts) = lex s' cs
  simp

theorem hexDigit?_digitChar {n : Nat} (h : n < 16) : hexDigit? (Nat.digitChar n) = some n := by
  revert n
  decide

/-- A backslash and a letter are read as the character that the letter stands for. -/
theorem lex_letter (read : List Char) {letter c : Char} (hu : letter ≠ 'u')
    (hletter : unescaped? letter = some c) (cs : List Char) :
    lex (.text read) ('\\' :: letter :: cs) = lex (.text (read ++ [c])) cs := by
  have hnext : (Scan.escape read).next letter = some ([], .text (read ++ [c])) := by
    rw [Scan.next, if_neg hu, hletter]
    rfl
  rw [lex_cons rfl, lex_cons hnext]

/-- The code of a control character is read as the character. Its first two digits are zeros. -/
theorem lex_code (read : List Char) {c : Char} (hcontrol : c.toNat < 0x20) (cs : List Char) :
    lex (.text read) ('\\' :: 'u' :: '0' :: '0' :: Nat.digitChar (c.toNat / 16) ::
      Nat.digitChar (c.toNat % 16) :: cs) = lex (.text (read ++ [c])) cs := by
  have hvalid : c.toNat.isValidChar := c.valid
  have hzeros : ∀ ds, lex (.text read) ('\\' :: 'u' :: '0' :: '0' :: ds) =
      lex (.code read 2 0) ds := by
    intro ds
    rw [lex_cons rfl, lex_cons rfl, lex_cons rfl, lex_cons rfl]
    rfl
  have hhigh : (Scan.code read 2 0).next (Nat.digitChar (c.toNat / 16)) =
      some ([], .code read 1 (c.toNat / 16)) := by
    rw [Scan.next, hexDigit?_digitChar (by omega)]
    simp
  have hlow : (Scan.code read 1 (c.toNat / 16)).next (Nat.digitChar (c.toNat % 16)) =
      some ([], .text (read ++ [c])) := by
    rw [Scan.next, hexDigit?_digitChar (Nat.mod_lt _ (by decide)), Option.bind_some]
    dsimp only
    rw [if_neg (Nat.lt_irrefl 1), Nat.div_add_mod, if_pos hvalid, Char.ofNat_toNat]
  rw [hzeros, lex_cons hhigh, lex_cons hlow]

/-- A character that is escaped is read as the character. -/
theorem lex_escaped (read : List Char) (c : Char) (cs : List Char) :
    lex (.text read) (escaped c ++ cs) = lex (.text (read ++ [c])) cs := by
  unfold escaped
  split
  · exact lex_letter read (by decide) rfl cs
  · exact lex_letter read (by decide) rfl cs
  · exact lex_letter read (by decide) rfl cs
  · exact lex_letter read (by decide) rfl cs
  · exact lex_letter read (by decide) rfl cs
  · exact lex_letter read (by decide) rfl cs
  · exact lex_letter read (by decide) rfl cs
  -- what has no letter of its own has a code, or stands for itself
  · rename_i hquote hbackslash _ _ _ _ _
    split
    · rename_i hcontrol
      exact lex_code read hcontrol cs
    · rename_i hcontrol
      have hnext : (Scan.text read).next c = some ([], .text (read ++ [c])) := by
        rw [Scan.next, if_neg hquote, if_neg hbackslash, if_neg hcontrol]
      exact lex_cons hnext cs

/-- The characters in the quotes of a text are read up to the closing quote. -/
theorem lex_text (read cs rest : List Char) :
    lex (.text read) (cs.flatMap escaped ++ '\x22' :: rest) =
      (lex .between rest).map (.text (read ++ cs) :: ·) := by
  induction cs generalizing read with
  | nil =>
    rw [List.append_nil]
    rfl
  | cons c cs ih =>
    rw [List.flatMap_cons, List.append_assoc, lex_escaped, ih, List.append_assoc,
      List.singleton_append]

theorem lexes_quoted (text : String) (rest : List Char) :
    Lexes (quoted text).toList [.text text.toList] rest := by
  have hchars : (quoted text).toList ++ rest =
      '\x22' :: (text.toList.flatMap escaped ++ '\x22' :: rest) := by
    simp [quoted]
  rw [Lexes, hchars, lex_cons rfl, lex_text]
  rfl

/-- The digits of a number are read up to what is no digit. -/
theorem lex_number (n : Nat) {ds rest : List Char} (hds : ∀ d ∈ ds, d.isDigit = true)
    (hrest : EndsNumber rest) :
    lex (.number n) (ds ++ rest) =
      (lex .between rest).map (.number (Nat.ofDigitChars 10 ds n) :: ·) := by
  induction ds generalizing n with
  | nil =>
    cases rest with
    | nil => rfl
    | cons c rest =>
      have hc : ¬ c.isDigit = true := Bool.eq_false_iff.mp (hrest c rfl)
      rw [List.nil_append, lex, lex, Scan.next, Scan.next, if_neg hc]
      cases Scan.start c with
      | none => rfl
      | some p => cases h : lex p.2 rest <;> simp [h]
  | cons d ds ih =>
    obtain ⟨hd, hds⟩ := List.forall_mem_cons.mp hds
    have hnext : (Scan.number n).next d = some ([], .number (10 * n + (d.toNat - '0'.toNat))) := by
      rw [Scan.next, if_pos hd]
    rw [List.cons_append, lex_cons hnext, ih _ hds, Nat.ofDigitChars_cons]

theorem not_isDigit_of_isBlank {c : Char} (h : isBlank c = true) : c.isDigit = false := by
  simp only [isBlank, Bool.or_eq_true, beq_iff_eq] at h
  rcases h with ((rfl | rfl) | rfl) | rfl <;> rfl

/-- No digit is a sign or a blank. -/
theorem start_of_isDigit {c : Char} (h : c.isDigit = true) :
    Scan.start c = some ([], .number (c.toNat - '0'.toNat)) := by
  have hsign : sign? c = none := by
    unfold sign?
    split <;> first | rfl | exact absurd h (by decide)
  have hblank : ¬ isBlank c = true := by
    intro hblank
    rw [not_isDigit_of_isBlank hblank] at h
    cases h
  rw [Scan.start, hsign]
  dsimp only
  rw [if_neg hblank, if_pos h]

theorem lexes_decimal (n : Nat) {rest : List Char} (hrest : EndsNumber rest) :
    Lexes (Text.decimal n).toList [.number n] rest := by
  have hdigits : ∀ c ∈ Nat.toDigits 10 n, c.isDigit = true :=
    fun c hc => Nat.isDigit_of_mem_toDigits (by decide) (by decide) hc
  have hvalue := Nat.ofDigitChars_toDigits (b := 10) (n := n) (by decide) (by decide)
  rw [Lexes, Text.toList_decimal]
  cases hds : Nat.toDigits 10 n with
  | nil => exact absurd hds (Text.toDigits_ne_nil n)
  | cons d ds =>
    rw [hds] at hdigits hvalue
    obtain ⟨hd, hds⟩ := List.forall_mem_cons.mp hdigits
    have hnext : Scan.between.next d = some ([], .number (d.toNat - '0'.toNat)) :=
      start_of_isDigit hd
    rw [Nat.ofDigitChars_cons, Nat.mul_zero, Nat.zero_add] at hvalue
    rw [List.cons_append, lex_cons hnext, lex_number _ hds hrest, hvalue]
    rfl

/-! ## Values -/

theorem toList_lineStart (depth : Nat) :
    (lineStart depth).toList = '\n' :: List.replicate (2 * depth) ' ' := by
  simp [lineStart]

theorem isBlank_of_mem_lineStart (depth : Nat) :
    ∀ c ∈ (lineStart depth).toList, isBlank c = true := by
  intro c hc
  rw [toList_lineStart] at hc
  rcases List.mem_cons.mp hc with rfl | hc
  · rfl
  · rw [List.eq_of_mem_replicate hc]
    rfl

/-- Entries that are cut into tokens, with a comma and blanks between each two of them. -/
theorem lexes_intercalate {entries : List (List Char)} {tss : List (List Token)}
    (h : List.Forall₂ (fun e ts => ∀ rest, EndsNumber rest → Lexes e ts rest) entries tss)
    {blanks : List Char} (hblanks : ∀ c ∈ blanks, isBlank c = true) {rest : List Char}
    (hrest : EndsNumber rest) :
    Lexes ((',' :: blanks).intercalate entries) ([Token.comma].intercalate tss) rest := by
  induction h with
  | nil => exact .nil rest
  | @cons e ts entries tss he h ih =>
    cases h with
    | nil =>
      rw [List.intercalate_singleton, List.intercalate_singleton]
      exact he rest hrest
    | cons he' h =>
      -- a number is over at the comma behind it
      have hcomma : ∀ rest, Lexes (',' :: blanks) [.comma] rest :=
        fun rest => (Lexes.sign rfl (blanks ++ rest)).append (.blanks hblanks rest)
      rw [List.intercalate_cons_cons, List.intercalate_cons_cons, List.append_assoc,
        List.append_assoc]
      exact (he _ (endsNumber_cons rfl _)).append ((hcomma _).append ih)

/-- Entries in brackets are cut into the tokens of the brackets and those between them. -/
theorem lexes_bracketed {opening closing : String} {o c : Token}
    (ho : ∀ rest, Lexes opening.toList [o] rest) (hc : ∀ rest, Lexes closing.toList [c] rest)
    (depth : Nat) {entries : List String} {tss : List (List Token)}
    (h : List.Forall₂ (fun e ts => ∀ rest, EndsNumber rest → Lexes e.toList ts rest) entries tss)
    (rest : List Char) :
    Lexes (bracketed opening closing depth entries).toList
      (o :: [Token.comma].intercalate tss ++ [c]) rest := by
  have hline : ∀ depth rest, Lexes (lineStart depth).toList [] rest :=
    fun depth rest => .blanks (isBlank_of_mem_lineStart depth) rest
  rw [bracketed]
  split
  · rename_i hempty
    obtain rfl := List.isEmpty_iff.mp hempty
    cases h
    rw [String.toList_append]
    exact (ho _).append (hc rest)
  · have hends : EndsNumber ((lineStart depth).toList ++ (closing.toList ++ rest)) := by
      rw [toList_lineStart]
      exact endsNumber_cons rfl _
    have hentries := lexes_intercalate (List.forall₂_map_left_iff.mpr h)
      (isBlank_of_mem_lineStart (depth + 1)) hends
    have hseparator : ("," ++ lineStart (depth + 1)).toList =
        ',' :: (lineStart (depth + 1)).toList := by
      rw [String.toList_append]
      rfl
    have hall := ((((ho _).append (hline (depth + 1) _)).append hentries).append
      (hline depth _)).append (hc rest)
    rw [List.append_nil, List.append_nil, List.singleton_append] at hall
    simp only [String.toList_append, String.toList_intercalate, hseparator]
    exact hall

mutual

/-- The text of a value is cut into the tokens of the value. -/
theorem lexes_textAt (depth : Nat) (v : Json) (rest : List Char) (hrest : EndsNumber rest) :
    Lexes (textAt depth v).toList (tokens v) rest := by
  cases v with
  | string text =>
    rw [textAt, tokens]
    exact lexes_quoted text rest
  | number n =>
    rw [textAt, tokens]
    exact lexes_decimal n hrest
  | array items =>
    have hstart : ∀ rest, Lexes "[".toList [.arrayStart] rest := Lexes.sign rfl
    have hend : ∀ rest, Lexes "]".toList [.arrayEnd] rest := Lexes.sign rfl
    rw [textAt, tokens]
    exact lexes_bracketed hstart hend depth (lexes_itemsAt (depth + 1) items) rest
  | object fields =>
    have hstart : ∀ rest, Lexes "\x7b".toList [.objectStart] rest := Lexes.sign rfl
    have hend : ∀ rest, Lexes "\x7d".toList [.objectEnd] rest := Lexes.sign rfl
    rw [textAt, tokens]
    exact lexes_bracketed hstart hend depth (lexes_fieldsAt (depth + 1) fields) rest

theorem lexes_itemsAt (depth : Nat) (items : List Json) :
    List.Forall₂ (fun e ts => ∀ rest, EndsNumber rest → Lexes e.toList ts rest)
      (itemsAt depth items) (itemsTokens items) := by
  cases items with
  | nil => exact .nil
  | cons v items =>
    rw [itemsAt, itemsTokens]
    exact .cons (lexes_textAt depth v) (lexes_itemsAt depth items)

theorem lexes_fieldsAt (depth : Nat) (fields : List (String × Json)) :
    List.Forall₂ (fun e ts => ∀ rest, EndsNumber rest → Lexes e.toList ts rest)
      (fieldsAt depth fields) (fieldsTokens fields) := by
  cases fields with
  | nil => exact .nil
  | cons field fields =>
    obtain ⟨name, v⟩ := field
    rw [fieldsAt, fieldsTokens]
    refine .cons (fun rest hrest => ?_) (lexes_fieldsAt depth fields)
    have hblank : ∀ c ∈ [' '], isBlank c = true := List.forall_mem_singleton.mpr rfl
    have hcolon : Lexes ": ".toList [.colon] ((textAt depth v).toList ++ rest) :=
      (Lexes.sign rfl _).append (.blanks hblank _)
    rw [String.toList_append, String.toList_append]
    exact ((lexes_quoted name _).append hcolon).append (lexes_textAt depth v rest hrest)

end

/-! ## Reading -/

/-- A value starts with a token, which is not the end of an array. -/
theorem exists_tokens_eq_cons (v : Json) : ∃ t ts, tokens v = t :: ts ∧ t ≠ .arrayEnd := by
  cases v <;> rw [tokens] <;> refine ⟨_, _, rfl, ?_⟩ <;> intro h <;> cases h

theorem head?_intercalate_cons (t : Token) (ts : List Token) (tss : List (List Token))
    (rest : List Token) :
    ([Token.comma].intercalate ((t :: ts) :: tss) ++ rest).head? = some t := by
  cases tss with
  | nil => rw [List.intercalate_singleton, List.cons_append, List.head?_cons]
  | cons us tss =>
    rw [List.intercalate_cons_cons, List.cons_append, List.cons_append, List.cons_append,
      List.head?_cons]

theorem length_intercalate_cons_cons (ts us : List Token) (tss : List (List Token)) :
    ([Token.comma].intercalate (ts :: us :: tss)).length =
      ts.length + 1 + ([Token.comma].intercalate (us :: tss)).length := by
  rw [List.intercalate_cons_cons, List.length_append, List.length_append, List.length_singleton]

mutual

/-- The tokens of a value are read as the value. -/
theorem value?_tokens (v : Json) {bound : Nat} (hbound : (tokens v).length < bound)
    (rest : List Token) : value? bound (tokens v ++ rest) = some (v, rest) := by
  -- each rule that is applied takes one from the bound, and leaves more than the parts are long
  obtain ⟨bound, rfl⟩ := Nat.exists_eq_succ_of_ne_zero (Nat.ne_zero_of_lt hbound)
  cases v with
  | string text =>
    rw [tokens, List.singleton_append, value?, String.ofList_toList]
  | number n => rw [tokens, List.singleton_append, value?]
  | array items =>
    cases items with
    | nil => rfl
    | cons v items =>
      rw [tokens, List.length_append, List.length_cons, List.length_singleton] at hbound
      have hlength : ([Token.comma].intercalate (itemsTokens (v :: items))).length + 1 < bound := by
        omega
      have hitems := items?_tokens hlength rest
      have hhead : ([Token.comma].intercalate (itemsTokens (v :: items)) ++
          .arrayEnd :: rest).head? ≠ some .arrayEnd := by
        obtain ⟨t, ts, htokens, ht⟩ := exists_tokens_eq_cons v
        rw [itemsTokens, htokens, head?_intercalate_cons]
        exact mt Option.some.inj ht
      rw [tokens, List.append_assoc, List.cons_append, List.singleton_append, value?, if_neg hhead,
        hitems]
      rfl
  | object fields =>
    cases fields with
    | nil => rfl
    | cons field fields =>
      obtain ⟨name, v⟩ := field
      rw [tokens, List.length_append, List.length_cons, List.length_singleton] at hbound
      have hlength : ([Token.comma].intercalate (fieldsTokens ((name, v) :: fields))).length + 1 <
          bound := by
        omega
      have hfields := fields?_tokens hlength rest
      have hhead : ([Token.comma].intercalate (fieldsTokens ((name, v) :: fields)) ++
          .objectEnd :: rest).head? ≠ some .objectEnd := by
        rw [fieldsTokens, head?_intercalate_cons]
        intro h
        cases h
      rw [tokens, List.append_assoc, List.cons_append, List.singleton_append, value?, if_neg hhead,
        hfields]
      rfl
termination_by bound

theorem items?_tokens {v : Json} {items : List Json} {bound : Nat}
    (hbound : ([Token.comma].intercalate (itemsTokens (v :: items))).length + 1 < bound)
    (rest : List Token) :
    items? bound ([.comma].intercalate (itemsTokens (v :: items)) ++ .arrayEnd :: rest) =
      some (v :: items, rest) := by
  obtain ⟨bound, rfl⟩ := Nat.exists_eq_succ_of_ne_zero (Nat.ne_zero_of_lt hbound)
  rw [itemsTokens] at hbound ⊢
  cases items with
  | nil =>
    rw [itemsTokens, List.intercalate_singleton] at hbound ⊢
    have hlength : (tokens v).length < bound := by omega
    have hvalue := value?_tokens v hlength (.arrayEnd :: rest)
    rw [items?, hvalue]
    rfl
  | cons w items =>
    rw [itemsTokens, length_intercalate_cons_cons, ← itemsTokens] at hbound
    rw [itemsTokens, List.intercalate_cons_cons, ← itemsTokens, List.append_assoc,
      List.append_assoc, List.singleton_append]
    have hlength : (tokens v).length < bound := by omega
    have hlengths : ([Token.comma].intercalate (itemsTokens (w :: items))).length + 1 < bound := by
      omega
    have hvalue := value?_tokens v hlength
    have hitems := items?_tokens hlengths rest
    rw [items?, hvalue, Option.bind_some]
    dsimp only
    rw [hitems]
    rfl
termination_by bound

theorem fields?_tokens {name : String} {v : Json} {fields : List (String × Json)} {bound : Nat}
    (hbound : ([Token.comma].intercalate (fieldsTokens ((name, v) :: fields))).length + 1 < bound)
    (rest : List Token) :
    fields? bound ([.comma].intercalate (fieldsTokens ((name, v) :: fields)) ++
        .objectEnd :: rest) = some ((name, v) :: fields, rest) := by
  obtain ⟨bound, rfl⟩ := Nat.exists_eq_succ_of_ne_zero (Nat.ne_zero_of_lt hbound)
  rw [fieldsTokens] at hbound ⊢
  cases fields with
  | nil =>
    rw [fieldsTokens, List.intercalate_singleton, List.length_cons, List.length_cons] at hbound
    have hlength : (tokens v).length < bound := by omega
    have hvalue := value?_tokens v hlength (.objectEnd :: rest)
    rw [fieldsTokens, List.intercalate_singleton, List.cons_append, List.cons_append, fields?,
      hvalue, String.ofList_toList]
    rfl
  | cons field fields =>
    obtain ⟨name', w⟩ := field
    rw [fieldsTokens, length_intercalate_cons_cons, ← fieldsTokens, List.length_cons,
      List.length_cons] at hbound
    rw [fieldsTokens, List.intercalate_cons_cons, ← fieldsTokens, List.append_assoc,
      List.append_assoc, List.singleton_append, List.cons_append, List.cons_append]
    have hlength : (tokens v).length < bound := by omega
    have hlengths : ([Token.comma].intercalate (fieldsTokens ((name', w) :: fields))).length + 1 <
        bound := by
      omega
    have hvalue := value?_tokens v hlength
    have hfields := fields?_tokens hlengths rest
    rw [fields?, hvalue, Option.bind_some]
    dsimp only
    rw [hfields, String.ofList_toList]
    rfl
termination_by bound

end

/-- **What is printed is read as it was**, also with blanks behind it. -/
theorem read?_pretty (v : Json) {behind : String} (h : ∀ c ∈ behind.toList, isBlank c = true) :
    read? (v.pretty ++ behind) = some v := by
  have hends : EndsNumber behind.toList := fun c hc =>
    not_isDigit_of_isBlank (h c (List.mem_of_head? hc))
  have hbehind : lex .between behind.toList = some [] := by
    have hblanks := Lexes.blanks h []
    rwa [Lexes, List.append_nil] at hblanks
  have htokens : lex .between (v.pretty ++ behind).toList = some (tokens v) := by
    rw [String.toList_append, pretty, lexes_textAt 0 v _ hends, hbehind]
    exact congrArg some (List.append_nil _)
  have hvalue := value?_tokens v (Nat.lt_succ_self _) []
  rw [List.append_nil] at hvalue
  rw [read?, htokens, Option.bind_some, hvalue]

/-- Other spellings of a value are read too, and what is no value is not. -/
example : read? "[\"\\u0041\\/\" ,\x7b\"b\": 7\x7d]" =
      some (.array [.string "A/", .object [("b", .number 7)]]) ∧
    read? "[1,]" = none := by
  constructor <;> cbv

end TableGateway.Json

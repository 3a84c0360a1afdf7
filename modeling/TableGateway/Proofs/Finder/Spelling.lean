import TableGateway.Proofs.Finder.Reading

/-!
# Spelling finders

`Finder.parse` takes a finder name apart; here one is put together. A `SpelledClause` holds what a
clause says together with its spelling: the words of its column, those of its operator, and the
values. `spell` writes a command and clauses as a name, and reading the name gives them back
(`parse_spell`).

Nothing in a name marks where its parts end, so it has to be shown that they are told apart:

* words are found again since each has one capital, at its start (`CamelCase.words_flatten`);
* clauses are found again since no word inside one is `And` (`splitOn_nameWords`). A word that
  merely begins with it, such as `Android`, separates nothing;
* column and operator are found again since the clause ends with no longer spelling than the one
  that is meant (`SpelledClause.longest`, used in `SpelledClause.ofWords_words`).
-/

namespace TableGateway.Finder

/-! ## Words -/

/-- A character that can follow in a word of a column. -/
def isColumnPart (c : Char) : Bool := c.isLower || c.isDigit || c == '_' || c == '$'

/-- A word that a column can be spelled with: a capital, then no other. `And` and `Or` are none,
since they are read as connectives. -/
def isColumnWord (word : String) : Bool :=
  match word.toList with
  | [] => false
  | c :: cs => c.isUpper && cs.all isColumnPart && word != "And" && word != "Or"

theorem isUpper_of_isColumnPart {c : Char} (h : isColumnPart c = true) : c.isUpper = false := by
  rw [Bool.eq_false_iff]
  intro hupper
  obtain ⟨hlow, hhigh⟩ := Text.isUpper_iff.mp hupper
  simp only [isColumnPart, Bool.or_eq_true, beq_iff_eq, Text.isLower_iff, Text.isDigit_iff] at h
  rcases h with ((hletter | hdigit) | rfl) | rfl
  · omega
  · omega
  · exact absurd hhigh (by decide)
  · exact absurd hlow (by decide)

theorem isPart_of_isColumnPart {c : Char} (h : isColumnPart c = true) :
    Identifier.isPart c = true := by
  simp only [isColumnPart, Bool.or_eq_true, beq_iff_eq] at h
  simp only [Identifier.isPart, Bool.or_eq_true, beq_iff_eq, Text.isAlphanum_iff]
  rcases h with ((hletter | hdigit) | hmark) | hmark
  · exact .inr (.inl (.inr hletter))
  · exact .inr (.inr hdigit)
  · exact .inl (.inl hmark)
  · exact .inl (.inr hmark)

/-- A word of a column, taken apart. -/
theorem cases_of_isColumnWord {word : String} (h : isColumnWord word = true) :
    ∃ c cs, word.toList = c :: cs ∧ c.isUpper = true ∧ (∀ d ∈ cs, isColumnPart d = true) ∧
      word ≠ "And" ∧ word ≠ "Or" := by
  rw [isColumnWord] at h
  cases hword : word.toList with
  | nil =>
    rw [hword] at h
    cases h
  | cons c cs =>
    rw [hword] at h
    simp only [Bool.and_eq_true, bne_iff_ne, List.all_eq_true] at h
    obtain ⟨⟨⟨hc, hcs⟩, hand⟩, hor⟩ := h
    exact ⟨c, cs, rfl, hc, hcs, hand, hor⟩

/-- The word stands inside a clause: it is one word, and no connective. -/
def isClauseWord (word : String) : Bool :=
  CamelCase.isWord word.toList && word != "And" && word != "Or"

theorem isClauseWord_of_isColumnWord {word : String} (h : isColumnWord word = true) :
    isClauseWord word = true := by
  obtain ⟨c, cs, hword, hc, hcs, hand, hor⟩ := cases_of_isColumnWord h
  have hrest : ∀ d ∈ cs, d.isUpper = false := fun d hd => isUpper_of_isColumnPart (hcs d hd)
  simpa [isClauseWord, CamelCase.isWord, hword, hc, hand, hor] using hrest

theorem isPart_of_isColumnWord {word : String} (h : isColumnWord word = true) :
    ∀ d ∈ word.toList, Identifier.isPart d = true := by
  obtain ⟨c, cs, hword, hc, hcs, -, -⟩ := cases_of_isColumnWord h
  intro d hd
  rw [hword] at hd
  rcases List.mem_cons.mp hd with rfl | hd
  · have halphanum := Text.isAlphanum_iff.mpr (.inl (.inl hc))
    simp [Identifier.isPart, halphanum]
  · exact isPart_of_isColumnPart (hcs d hd)

/-! ## Clauses -/

theorem isClauseWord_of_mem_suffixes {s : OperatorSuffix} (hs : s ∈ suffixes) :
    ∀ w ∈ s.words, isClauseWord w = true := by
  have hall : ∀ s ∈ suffixes, ∀ w ∈ s.words, isClauseWord w = true := by decide +kernel
  exact hall s hs

/-- A clause of a finder, in words and with its values. -/
structure SpelledClause where
  /-- the words that the column is spelled with -/
  columnWords : List String
  /-- the operator and how it is written -/
  suffix : OperatorSuffix
  /-- the values that the operator takes -/
  values : List String
  /-- there is a column -/
  named : columnWords ≠ []
  /-- the words of the column are such -/
  spelled : ∀ w ∈ columnWords, isColumnWord w = true
  /-- the operator is written in one of the ways there are -/
  known : suffix ∈ suffixes
  /-- the clause ends with no longer spelling than the one that is written -/
  longest : ∀ s ∈ operatorSuffixes, s.words <:+ columnWords ++ suffix.words →
    s.words.length ≤ suffix.words.length
  /-- there are as many values as the operator takes -/
  counted : values.length = suffix.operator.valueCount

namespace SpelledClause

variable (c : SpelledClause)

/-- The words of the clause. -/
def words : List String := c.columnWords ++ c.suffix.words

/-- The column: its words together, in small letters. -/
def column : String := Text.lowerAscii (String.join c.columnWords)

theorem isClauseWord_of_mem_words : ∀ w ∈ c.words, isClauseWord w = true := by
  intro w hw
  rcases List.mem_append.mp hw with hw | hw
  · exact isClauseWord_of_isColumnWord (c.spelled w hw)
  · exact isClauseWord_of_mem_suffixes c.known w hw

theorem words_ne_nil : c.words ≠ [] := List.append_ne_nil_of_left_ne_nil c.named _

/-- The words of the clause are read as its column and its operator. -/
theorem ofWords_words : Clause.ofWords c.words = ⟨c.columnWords, c.suffix.operator⟩ :=
  Clause.ofWords_append c.known c.longest

theorem isPart_of_mem_join : ∀ d ∈ (String.join c.columnWords).toList,
    Identifier.isPart d = true := by
  intro d hd
  rw [String.toList_join, List.mem_flatMap] at hd
  obtain ⟨w, hw, hd⟩ := hd
  exact isPart_of_isColumnWord (c.spelled w hw) d hd

/-- The column starts with a capital in its spelling. -/
theorem exists_join_eq_cons : ∃ d ds, (String.join c.columnWords).toList = d :: ds ∧
    d.isUpper = true := by
  obtain ⟨w, ws, hwords⟩ := List.exists_cons_of_ne_nil c.named
  have hw : isColumnWord w = true := c.spelled w (hwords ▸ List.mem_cons_self)
  obtain ⟨d, ds, hword, hd, -⟩ := cases_of_isColumnWord hw
  refine ⟨d, ds ++ (String.join ws).toList, ?_, hd⟩
  rw [hwords, String.join_cons, String.toList_append, hword, List.cons_append]

theorem wellFormed_column : Identifier.wellFormed c.column.toList = true := by
  obtain ⟨d, ds, hjoin, hd⟩ := c.exists_join_eq_cons
  have hparts := c.isPart_of_mem_join
  rw [hjoin] at hparts
  rw [column, Text.toList_lowerAscii, hjoin, List.map_cons, Identifier.wellFormed,
    Bool.and_eq_true, List.all_eq_true]
  refine ⟨Identifier.isStart_toLower hd, ?_⟩
  intro e he
  obtain ⟨e', he', rfl⟩ := List.mem_map.mp he
  exact Identifier.isPart_toLower (hparts e' (List.mem_cons_of_mem d he'))

/-- The condition that the clause stands for. -/
def condition : Condition :=
  ⟨⟨c.column, c.wellFormed_column⟩, c.suffix.operator, c.values, compares_of_mem_suffixes c.known,
    c.counted⟩

/-- The column of the clause is ASCII, so lower case is that of its letters. -/
theorem lowercase_join : Text.lowercase (String.join c.columnWords) = c.column := by
  have hascii : ∀ d ∈ (String.join c.columnWords).toList, d.toNat < 0x80 := by
    intro d hd
    exact Identifier.lt_of_isPart (c.isPart_of_mem_join d hd)
  rw [← String.toList_inj, Text.toList_lowercase, Text.lowercaseChars_of_ascii hascii, column,
    Text.toList_lowerAscii]

theorem column_ofWords : (Clause.ofWords c.words).column = c.column := by
  rw [Clause.column, c.ofWords_words, c.lowercase_join]

end SpelledClause

/-! ## Names -/

/-- The words of a finder name: those of its clauses, with `And` between them. -/
def nameWords (cs : List SpelledClause) : List String := ["And"].intercalate (cs.map (·.words))

/-- The finder name of a command and clauses. -/
def spell (command : FinderCommand) (cs : List SpelledClause) : String :=
  command.word ++ "And".intercalate (cs.map fun c => String.join c.words)

variable {cs : List SpelledClause}

theorem intercalate_join (separator : String) (wss : List (List String)) :
    separator.intercalate (wss.map String.join) = String.join ([separator].intercalate wss) := by
  induction wss with
  | nil => rfl
  | cons ws wss ih =>
    cases wss with
    | nil => simp
    | cons ws' wss =>
      rw [List.map_cons, List.map_cons, String.intercalate_cons_cons, ← List.map_cons, ih,
        List.intercalate_cons_cons, String.join_append, String.join_append, String.join_cons,
        String.join_nil, String.append_empty]

/-- A finder name is the command, then the words. -/
theorem spell_eq (command : FinderCommand) (cs : List SpelledClause) :
    spell command cs = command.word ++ String.join (nameWords cs) := by
  have hjoin := intercalate_join "And" (cs.map (·.words))
  rw [List.map_map] at hjoin
  rw [nameWords, ← hjoin]
  rfl

/-- A word of a finder name connects clauses or stands inside one. -/
theorem cases_of_mem_nameWords {w : String} (h : w ∈ nameWords cs) :
    w = "And" ∨ isClauseWord w = true := by
  -- the last clause is a case of its own, since no `And` follows it
  induction cs with
  | nil => cases h
  | cons c cs ih =>
    cases cs with
    | nil =>
      rw [nameWords, List.map_singleton, List.intercalate_singleton] at h
      exact .inr (c.isClauseWord_of_mem_words w h)
    | cons c' cs =>
      rw [nameWords, List.map_cons, List.map_cons, List.intercalate_cons_cons, ← List.map_cons,
        List.mem_append, List.mem_append, List.mem_singleton] at h
      rcases h with (h | h) | h
      · exact .inr (c.isClauseWord_of_mem_words w h)
      · exact .inl h
      · exact ih h

theorem isWord_of_mem_nameWords {w : String} (h : w ∈ nameWords cs) :
    CamelCase.isWord w.toList = true := by
  rcases cases_of_mem_nameWords h with rfl | h
  · decide
  · rw [isClauseWord, Bool.and_eq_true, Bool.and_eq_true] at h
    exact h.1.1

/-- No alternatives are asked for. -/
theorem or_not_mem_nameWords : "Or" ∉ nameWords cs := by
  intro h
  rcases cases_of_mem_nameWords h with h | h
  · exact absurd h (by decide)
  · exact absurd h (by decide)

/-- The clauses are found again in the words of the name. -/
theorem splitOn_nameWords (h : cs ≠ []) : (nameWords cs).splitOn "And" = cs.map (·.words) := by
  refine List.splitOn_intercalate "And" ?_ (by simpa using h)
  intro ws hws hand
  obtain ⟨c, -, rfl⟩ := List.mem_map.mp hws
  exact absurd (c.isClauseWord_of_mem_words "And" hand) (by decide)

theorem nameWords_ne_nil (h : cs ≠ []) : nameWords cs ≠ [] := by
  intro hnil
  -- no words are split into one clause without words, which is none of those spelled
  have hclauses := splitOn_nameWords h
  rw [hnil, List.splitOn_nil] at hclauses
  obtain ⟨c, -, hc⟩ := List.mem_map.mp (hclauses ▸ List.mem_singleton_self [])
  exact c.words_ne_nil hc

/-! ## Reading what was spelled -/

/-- Each clause is read as its condition, takes its values and leaves those of the others. -/
theorem conditions_words (name : String) (cs : List SpelledClause) :
    conditions name (cs.map (·.words)) (cs.flatMap (·.values)) =
      .ok (cs.map (·.condition), []) := by
  induction cs with
  | nil => rfl
  | cons c cs ih =>
    have hclause : (Clause.ofWords c.words).columnWords ≠ [] := by
      rw [c.ofWords_words]
      exact c.named
    have hop : c.suffix.operator = (Clause.ofWords c.words).operator := by rw [c.ofWords_words]
    exact conditions_cons_eq_ok_iff.mpr
      ⟨hclause, c.condition, _, _, rfl, rfl, c.column_ofWords.symm, hop, ih⟩

/-- **Finder names are read as they are spelled.** The name that a command and clauses are spelled
with, and the values of the clauses one after the other, are read as the command with the condition
of each clause, in their order, and nothing else. -/
theorem parse_spell (t : Table) (command : FinderCommand) (h : cs ≠ []) :
    parse t (spell command cs) (cs.flatMap (·.values)) =
      .ok ⟨command, { table := t, conditions := cs.map (·.condition) }⟩ := by
  have hconditions : allConditions (spell command cs) (nameWords cs) (cs.flatMap (·.values)) =
      .ok (cs.map (·.condition)) := by
    rw [allConditions_eq_ok_iff, splitOn_nameWords h]
    exact ⟨or_not_mem_nameWords, conditions_words _ cs⟩
  exact parse_of_words (spell_eq command cs) (nameWords_ne_nil h)
    (fun _ => isWord_of_mem_nameWords) hconditions

/-- Words that are easily taken for connectives, and a clause that leaves its operator unwritten. -/
theorem parse_spell_android :
    let t := Table.named ⟨"cars", by decide⟩
    let clauses : List SpelledClause := [
      { columnWords := ["Android", "Id"]
        suffix := ⟨["Greater", "Than", "Equals"], .greaterThanEquals⟩
        values := ["3"]
        named := by decide
        spelled := by decide
        known := .tail _ (.head _)
        longest := by decide
        counted := rfl },
      { columnWords := ["Order"]
        suffix := unwrittenEquals
        values := ["findBy"]
        named := by decide
        spelled := by decide
        known := .head _
        longest := by decide
        counted := rfl }]
    let name := spell .findAllBy clauses
    name = "findAllByAndroidIdGreaterThanEqualsAndOrder" ∧
    ∃ f, parse t name ["3", "findBy"] = .ok f ∧ f.command = .findAllBy ∧
      f.selection.conditions.map (fun c => (c.column.name, c.operator, c.values)) =
        [("androidid", .greaterThanEquals, ["3"]), ("order", .equals, ["findBy"])] := by
  intro t clauses name
  have hclauses : clauses ≠ [] := List.cons_ne_nil _ _
  exact ⟨by decide, _, parse_spell t .findAllBy hclauses, rfl, by decide⟩

end TableGateway.Finder

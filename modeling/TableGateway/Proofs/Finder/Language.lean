import TableGateway.Proofs.Finder.Reading
import TableGateway.Proofs.Gateway.Failure
import TableGateway.Proofs.Text.Cutting

/-!
# The language of finders

Which names are finders, and for how many arguments, can be told from what a name is made of.

* `WrittenClause` is a clause as it stands in a name: the words of a column, and after them the
  longest way to write an operator that they end with.
* `Anatomy name` is what a finder name is made of: a command, and camel-case words with clauses in
  them. A name has at most one anatomy.
* `parse_language` says that just the names with an anatomy are read, with just as many arguments as
  their clauses take; that the arguments are the values of the conditions, one after the other; and
  how everything else is refused.
-/

namespace TableGateway.Finder

/-! ## Clauses -/

/-- A clause as it stands in a finder name. -/
structure WrittenClause where
  /-- the words that the column is spelled with -/
  columnWords : List String
  /-- the operator and how it is written -/
  suffix : OperatorSuffix
  /-- a word is left when the operator is taken off -/
  named : columnWords ≠ []
  /-- the clause is not cut any further -/
  unbroken : "And" ∉ columnWords
  /-- the operator is written in one of the ways there are, or it is equality and left unwritten -/
  known : suffix ∈ suffixes
  /-- the clause ends with no longer spelling than the one that is written -/
  longest : ∀ s ∈ operatorSuffixes, s.words <:+ columnWords ++ suffix.words →
    s.words.length ≤ suffix.words.length
  /-- the words of the column, together and in lower case, are an identifier -/
  valid : Identifier.wellFormed (Text.lowercase (String.join columnWords)).toList = true

namespace WrittenClause

variable (c : WrittenClause)

/-- The words of the clause. -/
def words : List String := c.columnWords ++ c.suffix.words

/-- The column of the clause. -/
def column : Identifier := ⟨Text.lowercase (String.join c.columnWords), c.valid⟩

/-- The number of values that the clause takes. -/
def valueCount : Nat :=
  match c.suffix.operator with
  | .isNull | .isNotNull => 0
  | .between => 2
  | _ => 1

/-- The condition is one that the clause stands for. -/
def Spells (x : Condition) : Prop :=
  x.column = c.column ∧ x.operator = c.suffix.operator ∧ x.values.length = c.valueCount

theorem ofWords_words : Clause.ofWords c.words = ⟨c.columnWords, c.suffix.operator⟩ :=
  Clause.ofWords_append c.known c.longest

theorem column_ofWords : (Clause.ofWords c.words).column = c.column.name := by
  rw [c.ofWords_words]
  rfl

theorem valueCount_operator : c.suffix.operator.valueCount = c.valueCount := by
  have hcompares := compares_of_mem_suffixes c.known
  rw [valueCount]
  cases hop : c.suffix.operator with
  | and | or =>
    rw [hop] at hcompares
    exact absurd rfl hcompares
  | _ => rfl

theorem and_not_mem_words : "And" ∉ c.words := by
  have hall : ∀ s ∈ suffixes, "And" ∉ s.words := by decide
  rw [words, List.mem_append]
  rintro (h | h)
  · exact c.unbroken h
  · exact hall _ c.known h

/-- A clause is known by its words. -/
theorem eq_of_words {c c' : WrittenClause} (h : c.words = c'.words) : c = c' := by
  have hread := c.ofWords_words
  rw [h, c'.ofWords_words] at hread
  obtain ⟨hcolumn, hop⟩ := Clause.mk.inj hread
  have hspelled : c'.suffix.words = c.suffix.words := by
    rw [words, words, hcolumn] at h
    exact (List.append_cancel_left h).symm
  have hsuffix : c'.suffix = c.suffix := OperatorSuffix.ext hspelled hop
  cases c
  cases c'
  cases hcolumn
  cases hsuffix
  rfl

/-- The condition that the clause stands for, with the given values. -/
def condition (values : List String) (h : values.length = c.valueCount) : Condition :=
  ⟨c.column, c.suffix.operator, values, compares_of_mem_suffixes c.known,
    h.trans c.valueCount_operator.symm⟩

/-- Words that are read as a clause are one. -/
theorem exists_of_condition {words : List String} (hand : "And" ∉ words) {x : Condition}
    (hnamed : (Clause.ofWords words).columnWords ≠ [])
    (hcolumn : x.column.name = (Clause.ofWords words).column)
    (hop : x.operator = (Clause.ofWords words).operator) :
    ∃ c : WrittenClause, c.words = words ∧ c.Spells x := by
  obtain ⟨s, hknown, hwords, hsop, hlongest⟩ := Clause.exists_suffix words
  have hvalid : Identifier.wellFormed
      (Text.lowercase (String.join (Clause.ofWords words).columnWords)).toList = true := by
    have hx := x.column.valid
    rwa [hcolumn] at hx
  have hunbroken : "And" ∉ (Clause.ofWords words).columnWords := by
    intro h
    rw [hwords] at hand
    exact hand (List.mem_append_left _ h)
  let c : WrittenClause :=
    ⟨(Clause.ofWords words).columnWords, s, hnamed, hunbroken, hknown, hwords ▸ hlongest, hvalid⟩
  have hspelled : x.operator = c.suffix.operator := hop.trans hsop
  refine ⟨c, hwords.symm, Identifier.ext_name hcolumn, hspelled, ?_⟩
  rw [x.counted, hspelled, c.valueCount_operator]

end WrittenClause

/-- The number of values that clauses take together. -/
def valueCount : List WrittenClause → Nat
  | [] => 0
  | c :: cs => c.valueCount + valueCount cs

variable {name : String} {args : List String}

/-- Words that are read as conditions are clauses. -/
theorem exists_clauses_of_conditions {wss : List (List String)} {found : List Condition}
    {left : List String} (hand : ∀ ws ∈ wss, "And" ∉ ws)
    (h : conditions name wss args = .ok (found, left)) :
    ∃ cs : List WrittenClause, cs.map (·.words) = wss ∧
      List.Forall₂ WrittenClause.Spells cs found := by
  induction wss generalizing args found with
  | nil =>
    cases h
    exact ⟨[], rfl, .nil⟩
  | cons words rest ih =>
    obtain ⟨hnamed, x, more, args', rfl, -, hcolumn, hop, hmore⟩ := conditions_cons_eq_ok_iff.mp h
    obtain ⟨hwords, hrest⟩ := List.forall_mem_cons.mp hand
    obtain ⟨c, hc, hspells⟩ := WrittenClause.exists_of_condition hwords hnamed hcolumn hop
    obtain ⟨cs, hcs, hmany⟩ := ih hrest hmore
    exact ⟨c :: cs, by rw [List.map_cons, hc, hcs], .cons hspells hmany⟩

/-- Clauses are read when there are as many arguments as they take. -/
theorem exists_conditions_of_clauses (name : String) {cs : List WrittenClause}
    (h : args.length = valueCount cs) :
    ∃ found, conditions name (cs.map (·.words)) args = .ok (found, []) := by
  induction cs generalizing args with
  | nil =>
    obtain rfl := List.eq_nil_of_length_eq_zero h
    exact ⟨[], rfl⟩
  | cons c cs ih =>
    rw [valueCount] at h
    have htake : (args.take c.valueCount).length = c.valueCount := by
      rw [List.length_take]
      omega
    have hdrop : (args.drop c.valueCount).length = valueCount cs := by
      rw [List.length_drop]
      omega
    obtain ⟨more, hmore⟩ := ih hdrop
    have hnamed : (Clause.ofWords c.words).columnWords ≠ [] := by
      rw [c.ofWords_words]
      exact c.named
    refine ⟨c.condition _ htake :: more, conditions_cons_eq_ok_iff.mpr
      ⟨hnamed, _, _, _, rfl, (List.take_append_drop _ _).symm, c.column_ofWords.symm, ?_, hmore⟩⟩
    rw [c.ofWords_words]
    rfl

/-- Conditions have as many values together as the clauses take that they stand for. -/
theorem length_flatMap_values {cs : List WrittenClause} {found : List Condition}
    (h : List.Forall₂ WrittenClause.Spells cs found) :
    (found.flatMap Condition.values).length = valueCount cs := by
  induction h with
  | nil => rfl
  | cons hspells _ ih =>
    rw [List.flatMap_cons, List.length_append, hspells.2.2, ih]
    rfl

/-! ## Names -/

/-- What a finder name is made of. -/
@[ext]
structure Anatomy (name : String) where
  /-- what is asked for -/
  command : FinderCommand
  /-- the words that follow the command -/
  words : List String
  /-- the clauses -/
  clauses : List WrittenClause
  /-- a capital starts each word and stands nowhere else, so the words are what the rest of the name
  is split into before each capital -/
  capitals : ∀ w ∈ words, CamelCase.isWord w.toList = true
  /-- there is a word, so a capital follows the command -/
  started : words ≠ []
  /-- the name is the command, then the words -/
  spelled : name = command.word ++ String.join words
  /-- no alternatives are asked for -/
  conjunctive : "Or" ∉ words
  /-- the clauses are what the words are cut into at each `And`; none is empty -/
  connected : words = ["And"].intercalate (clauses.map (·.words))

namespace Anatomy

/-- The number of values that the clauses of the name take. -/
def valueCount (a : Anatomy name) : Nat := Finder.valueCount a.clauses

theorem splitOn_words (a : Anatomy name) : a.words.splitOn "And" = a.clauses.map (·.words) := by
  rw [a.connected]
  refine List.splitOn_intercalate "And" ?_ ?_
  · intro ws hws
    obtain ⟨c, -, rfl⟩ := List.mem_map.mp hws
    exact c.and_not_mem_words
  · intro hnil
    have hwords := a.connected
    rw [hnil] at hwords
    exact a.started hwords

theorem isWord_of_mem_chars (a : Anatomy name) :
    ∀ w ∈ a.words.map String.toList, CamelCase.isWord w = true := by
  intro w hw
  obtain ⟨v, hv, rfl⟩ := List.mem_map.mp hw
  exact a.capitals v hv

/-- A name has one anatomy at most: each of its parts is found again by splitting what is left. -/
instance : Subsingleton (Anatomy name) := by
  constructor
  intro a a'
  have hsplit : ∀ b : Anatomy name, splitCommand name.toList =
      some (b.command, (b.words.map String.toList).flatten) := by
    intro b
    refine splitCommand_eq_some_iff.mpr ?_
    rw [← List.flatMap_def, ← String.toList_join, ← String.toList_append, ← b.spelled]
  have hcommand := hsplit a
  rw [hsplit a', Option.some.injEq, Prod.mk.injEq] at hcommand
  obtain ⟨hcommand, hflatten⟩ := hcommand
  have hchars : a.words.map String.toList = a'.words.map String.toList := by
    rw [← CamelCase.words_flatten a.isWord_of_mem_chars, ← hflatten,
      CamelCase.words_flatten a'.isWord_of_mem_chars]
  have hwords : a.words = a'.words :=
    List.map_injective_iff.mpr (fun _ _ h => String.toList_inj.mp h) hchars
  have hclauses : a.clauses.map (·.words) = a'.clauses.map (·.words) := by
    rw [← a.splitOn_words, hwords, a'.splitOn_words]
  exact Anatomy.ext hcommand.symm hwords
    (List.map_injective_iff.mpr (fun _ _ h => WrittenClause.eq_of_words h) hclauses)

end Anatomy

/-! ## Reading names -/

/-- A name that is read has an anatomy, and the finder is what this stands for. -/
theorem exists_anatomy_of_parse {t : Table} {f : Finder} (h : parse t name args = .ok f) :
    ∃ a : Anatomy name, f.command = a.command ∧ f.selection.table = t ∧
      List.Forall₂ WrittenClause.Spells a.clauses f.selection.conditions := by
  obtain ⟨command, c, rest, found, hname, hc, hfound, rfl⟩ := parse_eq_ok_iff.mp h
  obtain ⟨hor, hconditions⟩ := allConditions_eq_ok_iff.mp hfound
  obtain ⟨cs, hcs, hspells⟩ :=
    exists_clauses_of_conditions (fun _ => Text.not_mem_of_mem_splitOn) hconditions
  refine ⟨{
    command
    words := (CamelCase.words (c :: rest)).map String.ofList
    clauses := cs
    capitals := ?_
    started := ?_
    spelled := ?_
    conjunctive := hor
    connected := ?_ }, rfl, rfl, hspells⟩
  · intro w hw
    obtain ⟨v, hv, rfl⟩ := List.mem_map.mp hw
    rw [String.toList_ofList]
    exact CamelCase.isWord_of_mem_words hc hv
  · obtain ⟨v, vs, hwords⟩ := CamelCase.exists_words_cons c rest
    rw [hwords]
    exact List.cons_ne_nil _ _
  · rw [← String.toList_inj, hname, String.toList_append, String.toList_join, List.flatMap_map]
    simp [List.flatMap_id', CamelCase.flatten_words]
  · rw [hcs, List.intercalate_splitOn]

/-- A name with an anatomy is read with as many arguments as its clauses take. -/
theorem Anatomy.exists_parse (a : Anatomy name) (t : Table) (h : args.length = a.valueCount) :
    ∃ f, parse t name args = .ok f := by
  obtain ⟨found, hfound⟩ := exists_conditions_of_clauses name h
  have hall : allConditions name a.words args = .ok found := by
    rw [allConditions_eq_ok_iff, a.splitOn_words]
    exact ⟨a.conjunctive, hfound⟩
  exact ⟨_, parse_of_words a.spelled a.started a.capitals hall⟩

/-- Just the names with an anatomy are read, with as many arguments as their clauses take. -/
theorem exists_parse_iff {t : Table} :
    (∃ f, parse t name args = .ok f) ↔ ∃ a : Anatomy name, args.length = a.valueCount := by
  constructor
  · rintro ⟨f, hf⟩
    obtain ⟨a, -, -, hspells⟩ := exists_anatomy_of_parse hf
    refine ⟨a, ?_⟩
    rw [← values_of_parse hf]
    exact length_flatMap_values hspells
  · rintro ⟨a, ha⟩
    exact a.exists_parse t ha

/-- **The language of finders.** A name is read, on any table, just when it has an anatomy and there
are as many arguments as its clauses take. What is read is what the anatomy says: its command, and
on the table one condition for each clause, with as many values as the clause takes; the values are
the arguments, one after the other. Everything else is refused as an invalid request on the table. -/
theorem parse_language (t : Table) (name : String) (args : List String) :
    ((∃ f, parse t name args = .ok f) ↔ ∃ a : Anatomy name, args.length = a.valueCount) ∧
      (∀ f, parse t name args = .ok f →
        f.selection.conditions.flatMap Condition.values = args ∧ f.selection.table = t ∧
          ∀ a : Anatomy name, f.command = a.command ∧
            List.Forall₂ WrittenClause.Spells a.clauses f.selection.conditions) ∧
      ∀ error, parse t name args = .error error →
        ∃ reason, error = .invalidRequest reason (some t.name.name) := by
  refine ⟨exists_parse_iff, ?_, ?_⟩
  · intro f hf
    obtain ⟨a, hcommand, htable, hspells⟩ := exists_anatomy_of_parse hf
    refine ⟨values_of_parse hf, htable, fun a' => ?_⟩
    rw [Subsingleton.elim a' a]
    exact ⟨hcommand, hspells⟩
  · have hfinder : FailsOnlyWith (∃ reason, · = Error.invalidRequest reason (some t.name.name))
        (parse t name args) :=
      failsOnlyWith_finder (fun reason => ⟨reason, rfl⟩) name args
    exact hfinder

/-- A spelling without a column is no clause, even with as many arguments as it takes. -/
example : (parse (.named ⟨"cars", by decide⟩) "findByBetween" ["1", "2"]).toOption = none := by
  decide +kernel

end TableGateway.Finder

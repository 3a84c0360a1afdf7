import Mathlib.Data.List.Basic
import TableGateway.Finder

/-!
# How finders come about

A finder that is read has passed every check of reading. What the checks come to is said here once
for each of the functions that read a name, as an equivalence:

* `splitCommand_eq_some_iff`: a command is found where the name starts with it;
* `conditions_cons_eq_ok_iff`: one clause has a column, and takes its values off the front of the
  arguments;
* `allConditions_eq_ok_iff`: there is no `Or`, and no argument is left over;
* `parse_eq_ok_iff`: the name is a command and camel-case words with conditions in them.

From the step for one clause it follows that a finder uses up its arguments (`values_of_parse`).
-/

namespace TableGateway.Finder

theorem splitCommand_eq_some_iff {name rest : List Char} {command : FinderCommand} :
    splitCommand name = some (command, rest) ↔ name = command.word.toList ++ rest := by
  constructor
  · intro h
    rw [splitCommand] at h
    split at h
    · rename_i hall
      cases h
      exact (List.isPrefixOf?_eq_some_iff_append_eq.mp hall).symm
    · obtain ⟨rest', hrest', h⟩ := Option.map_eq_some_iff.mp h
      cases h
      exact (List.isPrefixOf?_eq_some_iff_append_eq.mp hrest').symm
  · rintro rfl
    cases command <;> rfl

/-! ## Conditions -/

variable {name : String} {args : List String}

/-- A clause is read when it has a column, that column is an identifier, and the values of the
clause stand at the front of the arguments. The clauses after it go on with the rest. -/
theorem conditions_cons_eq_ok_iff {words : List String} {rest : List (List String)}
    {found : List Condition} {left : List String} :
    conditions name (words :: rest) args = .ok (found, left) ↔
      (Clause.ofWords words).columnWords ≠ [] ∧
        ∃ c more args', found = c :: more ∧ args = c.values ++ args' ∧
          c.column.name = (Clause.ofWords words).column ∧
          c.operator = (Clause.ofWords words).operator ∧
          conditions name rest args' = .ok (more, left) := by
  rw [conditions]
  dsimp only
  constructor
  · intro h
    split at h
    · cases h
    split at h
    · cases h
    split at h
    · cases h
    · rename_i hcolumn hcount
      obtain ⟨c, hc, h⟩ := exists_of_bind_eq_ok h
      obtain ⟨⟨more, left'⟩, hmore, h⟩ := exists_of_bind_eq_ok h
      cases h
      obtain ⟨hname, hop, hvalues⟩ := Condition.build_eq_ok_iff.mp hc
      refine ⟨by simpa using hcolumn, c, more, _, rfl, ?_, hname, hop, hmore⟩
      rw [hvalues, List.take_append_drop]
  · rintro ⟨hcolumn, c, more, args', rfl, rfl, hname, hop, hmore⟩
    have hwords : words ≠ [] := by
      rintro rfl
      exact hcolumn rfl
    have henough : ¬ (c.values ++ args').length < (Clause.ofWords words).operator.valueCount := by
      rw [List.length_append, c.counted, hop]
      omega
    have hbuild : Condition.build (Clause.ofWords words).column (Clause.ofWords words).operator
        c.values = .ok c :=
      Condition.build_eq_ok_iff.mpr ⟨hname, hop, rfl⟩
    rw [if_neg (by simpa using hwords), if_neg (by simpa using hcolumn), if_neg henough, ← hop,
      ← c.counted, List.take_left, List.drop_left]
    rw [hop, hbuild, hmore]
    rfl

/-- Clauses take their values from the front of the arguments, one after the other. -/
theorem values_of_conditions {clauses : List (List String)} {left : List String}
    {cs : List Condition} (h : conditions name clauses args = .ok (cs, left)) :
    cs.flatMap Condition.values ++ left = args := by
  induction clauses generalizing args cs with
  | nil =>
    cases h
    rfl
  | cons words rest ih =>
    obtain ⟨-, c, more, args', rfl, rfl, -, -, hmore⟩ := conditions_cons_eq_ok_iff.mp h
    rw [List.flatMap_cons, List.append_assoc, ih hmore]

theorem allConditions_eq_ok_iff {words : List String} {found : List Condition} :
    allConditions name words args = .ok found ↔
      "Or" ∉ words ∧ conditions name (words.splitOn "And") args = .ok (found, []) := by
  rw [allConditions]
  by_cases hor : "Or" ∈ words
  · rw [if_pos (List.contains_iff_mem.mpr hor)]
    exact ⟨nofun, fun h => absurd hor h.1⟩
  · rw [if_neg (by simpa using hor)]
    constructor
    · intro h
      obtain ⟨⟨found', left⟩, hfound, h⟩ := exists_of_bind_eq_ok h
      dsimp only at h
      split at h
      · rename_i hleft
        cases h
        rw [List.isEmpty_iff.mp hleft] at hfound
        exact ⟨hor, hfound⟩
      · cases h
    · rintro ⟨-, hfound⟩
      rw [hfound]
      rfl

/-! ## Finders -/

variable {t : Table} {f : Finder}

/-- A name is read when it is a command and a text that starts with a capital, and the conditions of
the words of that text can be read. -/
theorem parse_eq_ok_iff :
    parse t name args = .ok f ↔
      ∃ (command : FinderCommand) (c : Char) (rest : List Char) (found : List Condition),
        name.toList = command.word.toList ++ c :: rest ∧ c.isUpper = true ∧
        allConditions name ((CamelCase.words (c :: rest)).map String.ofList) args = .ok found ∧
        f = ⟨command, { table := t, conditions := found }⟩ := by
  rw [parse, mapError_eq_ok_iff, decode]
  constructor
  · intro h
    split at h
    · cases h
    · rename_i command rest hcommand
      split at h
      · rename_i hstart
        obtain ⟨found, hfound, rfl⟩ := exists_of_map_eq_ok h
        cases rest with
        | nil => cases hstart
        | cons c rest =>
          exact ⟨command, c, rest, found, splitCommand_eq_some_iff.mp hcommand, hstart, hfound, rfl⟩
      · cases h
  · rintro ⟨command, c, rest, found, hname, hc, hfound, rfl⟩
    have hstart : ((c :: rest).head?.map Char.isUpper).getD false = true := hc
    rw [splitCommand_eq_some_iff.mpr hname]
    dsimp only
    rw [if_pos hstart, hfound]
    rfl

/-- A name that is spelled of words is read by the conditions of these words. -/
theorem parse_of_words {command : FinderCommand} {words : List String} {found : List Condition}
    (hname : name = command.word ++ String.join words) (hnonempty : words ≠ [])
    (hwords : ∀ w ∈ words, CamelCase.isWord w.toList = true)
    (hfound : allConditions name words args = .ok found) :
    parse t name args = .ok ⟨command, { table := t, conditions := found }⟩ := by
  have hchars : ∀ w ∈ words.map String.toList, CamelCase.isWord w = true := by
    intro w hw
    obtain ⟨v, hv, rfl⟩ := List.mem_map.mp hw
    exact hwords v hv
  have hsplit : (CamelCase.words (words.map String.toList).flatten).map String.ofList = words := by
    rw [CamelCase.words_flatten hchars, List.map_map]
    simp
  obtain ⟨c, rest, hrest, hc⟩ :=
    CamelCase.exists_flatten_cons (by simpa using hnonempty) hchars
  refine parse_eq_ok_iff.mpr ⟨command, c, rest, found, ?_, hc, ?_, rfl⟩
  · rw [hname, String.toList_append, String.toList_join, List.flatMap_def, hrest]
  · rw [← hrest, hsplit]
    exact hfound

/-- A finder that is read has conditions on the table, and nothing else. -/
theorem conditions_of_parse (h : parse t name args = .ok f) :
    ∃ words conditions, allConditions name words args = .ok conditions ∧
      f.selection = { table := t, conditions } := by
  obtain ⟨_, _, _, found, -, -, hfound, rfl⟩ := parse_eq_ok_iff.mp h
  exact ⟨_, found, hfound, rfl⟩

/-- A finder that is read has used up its arguments. -/
theorem values_of_parse (h : parse t name args = .ok f) :
    f.selection.conditions.flatMap Condition.values = args := by
  obtain ⟨_, _, _, found, -, -, hfound, rfl⟩ := parse_eq_ok_iff.mp h
  have hvalues := values_of_conditions (allConditions_eq_ok_iff.mp hfound).2
  rwa [List.append_nil] at hvalues

end TableGateway.Finder

import TableGateway.Proofs.Sql.Lexing
import TableGateway.Sql.Changing
import TableGateway.Sql.Reading

/-!
# What statements are composed of

A rendered statement is fixed SQL text, names, numbers and placeholders. `Composes ps vs` says that
the pieces `ps` are plain texts and bound values, and that these values are `vs`, in this order. It
has a rule for each kind of piece, and from it follow

* `Composes.count_placeholder`: there is a `?` in the SQL for each of the values and no other;
* `Composes.isStatementChar_of_mem`: the SQL has no character but those of `isStatementChar`.

There is one lemma for each part of a statement that is rendered, so that the values of a statement
are known without a look at its text: `composes_selectPieces`, `composes_countPieces`,
`composes_insertPieces`, `composes_updatePieces`, `composes_deletePieces` and `composes_callPieces`.
-/

namespace TableGateway

namespace Sql

/-! ## Plain text -/

/-- The characters of rendered statements: English letters, digits, the blank and the marks that are
listed here. -/
def isStatementChar (c : Char) : Bool := c.isAlphanum || "_$.,()*=<>?\x7b\x7d ".toList.contains c

/-- The text has nothing but characters of statements, and no placeholder. -/
def Plain (s : String) : Prop := ∀ c ∈ s.toList, isStatementChar c = true ∧ c ≠ '?'

instance (s : String) : Decidable (Plain s) :=
  decidable_of_iff (s.toList.all (fun c => isStatementChar c && c != '?') = true) (by simp [Plain])

/-- What a statement cannot hold: quotes, the marks that end a statement, start a comment, escape a
character or stand for any text, and all that is not printed ASCII. -/
theorem harmless_of_isStatementChar {c : Char} (h : isStatementChar c = true) :
    0x20 ≤ c.toNat ∧ c.toNat < 0x7F ∧ c ∉ "\x27\x22;-/\\%".toList := by
  have hcases : c.isAlphanum = true ∨ c ∈ "_$.,()*=<>?\x7b\x7d ".toList := by
    simpa [isStatementChar] using h
  rcases hcases with hletter | hmark
  · have hrange := Text.isAlphanum_iff.mp hletter
    rw [Text.isUpper_iff, Text.isLower_iff, Text.isDigit_iff] at hrange
    refine ⟨by omega, by omega, ?_⟩
    intro hmem
    have hforbidden : ("\x27\x22;-/\\%".toList.all fun d => !d.isAlphanum) = true := by decide
    have hc := List.all_eq_true.mp hforbidden c hmem
    rw [hletter] at hc
    cases hc
  · have hmarks : ("_$.,()*=<>?\x7b\x7d ".toList.all fun d =>
        0x20 ≤ d.toNat && d.toNat < 0x7F && !"\x27\x22;-/\\%".toList.contains d) = true := by
      decide
    have hc := List.all_eq_true.mp hmarks c hmark
    simpa [and_assoc] using hc

theorem plain_empty : Plain "" := nofun

theorem Plain.append {s t : String} (hs : Plain s) (ht : Plain t) : Plain (s ++ t) := by
  intro c hc
  rw [String.toList_append, List.mem_append] at hc
  rcases hc with hc | hc
  · exact hs c hc
  · exact ht c hc

/-- A character of an identifier is one of a statement, and no placeholder. -/
theorem plain_of_isPart {c : Char} (h : Identifier.isPart c = true) :
    isStatementChar c = true ∧ c ≠ '?' := by
  constructor
  · simp only [Identifier.isPart, Bool.or_eq_true, beq_iff_eq] at h
    rcases h with (rfl | rfl) | h
    · rfl
    · rfl
    · rw [isStatementChar, h, Bool.true_or]
  · rintro rfl
    cases h

/-- A name is plain text: this is what identifiers are for. -/
theorem plain_name (i : Identifier) : Plain i.name := by
  have hword := isWord_name i
  rw [isWord, Bool.and_eq_true, List.all_eq_true] at hword
  exact fun c hc => plain_of_isPart (hword.2 c hc)

theorem plain_decimal (n : Nat) : Plain (Text.decimal n) := by
  have hword := isWord_toDigits n
  rw [isWord, Bool.and_eq_true, List.all_eq_true] at hword
  intro c hc
  rw [Text.toList_decimal] at hc
  exact plain_of_isPart (hword.2 c hc)

theorem plain_qualifiedName (t : Table) : Plain t.qualifiedName := by
  rw [Table.qualifiedName]
  split
  · exact ((plain_name _).append (by decide)).append (plain_name _)
  · exact plain_name _

/-- Plain texts with commas between them. -/
theorem plain_commas {α : Type} {text : α → String} (h : ∀ a, Plain (text a)) (as : List α) :
    Plain (",".intercalate (as.map text)) := by
  induction as with
  | nil => exact plain_empty
  | cons a as ih =>
    cases as with
    | nil => simpa using h a
    | cons b bs =>
      rw [List.map_cons, List.map_cons, String.intercalate_cons_cons]
      exact ((h a).append (by decide)).append ih

/-! ## Pieces -/

/-- The pieces are plain texts and placeholders for the values, in this order. -/
inductive Composes : List Piece → List String → Prop where
  | nil : Composes [] []
  | text {s : String} {ps : List Piece} {vs : List String} (hs : Plain s) (h : Composes ps vs) :
    Composes (.text s :: ps) vs
  | bound (v : String) {ps : List Piece} {vs : List String} (h : Composes ps vs) :
    Composes (.bound v :: ps) (v :: vs)

namespace Composes

variable {ps qs : List Piece} {vs ws : List String}

theorem append (h : Composes ps vs) (h' : Composes qs ws) : Composes (ps ++ qs) (vs ++ ws) := by
  induction h with
  | nil => exact h'
  | text hs _ ih => exact .text hs ih
  | bound v _ ih => exact .bound v ih

/-- A plain text at the end. -/
theorem ending (h : Composes ps vs) {s : String} (hs : Plain s) :
    Composes (ps ++ [.text s]) vs := by
  simpa using h.append (.text hs .nil)

/-- Pieces for each element of a list, behind a text that separates them from what is before. -/
theorem separated {α : Type} {s : String} (hs : Plain s) {pieces : α → List Piece}
    {values : α → List String} (h : ∀ a, Composes (pieces a) (values a)) (as : List α) :
    Composes (as.flatMap fun a => .text s :: pieces a) (as.flatMap values) := by
  induction as with
  | nil => exact .nil
  | cons a as ih => exact (text hs (h a)).append ih

/-- The parameters are the bound values. -/
theorem params_eq (h : Composes ps vs) : Piece.params ps = vs := by
  induction h with
  | nil => rfl
  | text _ _ ih => rw [Piece.params_text_cons, ih]
  | bound v _ ih => rw [Piece.params_bound_cons, ih]

/-- There is one `?` for each bound value. -/
theorem count_placeholder (h : Composes ps vs) :
    (Piece.sql ps).toList.count '?' = vs.length := by
  rw [Piece.toList_sql]
  induction h with
  | nil => rfl
  | text hs _ ih =>
    have hnone : List.count '?' (Piece.chars (.text _)) = 0 :=
      List.count_eq_zero.mpr fun hmem => (hs _ hmem).2 rfl
    rw [List.flatMap_cons, List.count_append, hnone, ih, Nat.zero_add]
  | bound v _ ih =>
    rw [List.flatMap_cons, List.count_append, ih, Piece.chars, List.length_cons, Nat.add_comm]
    rfl

/-- The SQL has no other characters than those of statements. -/
theorem isStatementChar_of_mem (h : Composes ps vs) {c : Char} (hc : c ∈ (Piece.sql ps).toList) :
    isStatementChar c = true := by
  rw [Piece.toList_sql] at hc
  induction h with
  | nil => cases hc
  | text hs _ ih =>
    rcases List.mem_append.mp hc with hc | hc
    · exact (hs c hc).1
    · exact ih hc
  | bound v _ ih =>
    rcases List.mem_cons.mp hc with rfl | hc
    · rfl
    · exact ih hc

end Composes

end Sql

/-! ## The parts of statements -/

namespace Dialect

open Sql (Plain Composes plain_empty plain_name plain_decimal plain_qualifiedName plain_commas)

/-! ### Reads -/

theorem plain_qualifier (d : Dialect) (t : Table) : Plain (d.qualifier t) := by
  rw [qualifier]
  split
  · decide
  · exact (plain_name _).append (by decide)
  · decide

theorem plain_columnOf (d : Dialect) (t : Table) (c : Identifier) : Plain (d.columnOf t c) :=
  (plain_qualifier d t).append (plain_name c)

theorem plain_source (d : Dialect) (t : Table) : Plain (d.source t) := by
  rw [source]
  split
  · exact (plain_qualifiedName t).append (by decide)
  · exact plain_qualifiedName t
  · exact plain_name _

theorem plain_projection (d : Dialect) (s : Selection) : Plain (d.projection s) := by
  rw [projection]
  split
  · exact (plain_qualifier d s.table).append (by decide)
  · exact plain_commas (plain_columnOf d s.table) s.columns

theorem plain_orderItem (d : Dialect) (t : Table) (o : SortOrder) : Plain (d.orderItem t o) := by
  have hdirection : Plain o.direction.sql := by cases o.direction <;> decide
  exact ((plain_columnOf d t o.column).append (by decide)).append hdirection

theorem plain_orderClause (d : Dialect) (t : Table) (o : Option SortOrder) :
    Plain (d.orderClause t o) := by
  cases o with
  | none => exact plain_empty
  | some o => exact Plain.append (by decide) (plain_orderItem d t o)

theorem plain_clause (p : Paging) (r : RowRange) : Plain (p.clause r) := by
  cases p with
  | limitOffset =>
    exact ((Plain.append (by decide) (plain_decimal _)).append (by decide)).append
      (plain_decimal _)
  | limitComma =>
    exact ((Plain.append (by decide) (plain_decimal _)).append (by decide)).append
      (plain_decimal _)
  | offsetFetch =>
    exact (((Plain.append (by decide) (plain_decimal _)).append (by decide)).append
      (plain_decimal _)).append (by decide)
  | rowNumber => exact plain_empty

theorem plain_operator (op : Operator) : Plain op.sql := by
  cases op <;> decide

theorem composes_operands (vs : List String) : Composes (operands vs) vs := by
  cases vs with
  | nil => exact .nil
  | cons v vs =>
    have hmore := Composes.separated (s := " AND ") (by decide) (fun w => .bound w .nil) vs
    rw [List.flatMap_singleton'] at hmore
    exact .text (by decide) (.bound v hmore)

theorem composes_map_bound (vs : List String) : Composes (vs.map .bound) vs := by
  induction vs with
  | nil => exact .nil
  | cons v vs ih => exact .bound v ih

/-- A condition is rendered with its values and no others, in each of the ways that dialects have
to write it. -/
theorem composes_condition (d : Dialect) (t : Table) (c : Condition) :
    Composes (d.condition t c) c.values := by
  have hcolumn := plain_columnOf d t c.column
  rw [condition, comparison]
  split
  · exact .text ((Plain.append (by decide) hcolumn).append (by decide))
      ((composes_map_bound c.values).ending (by decide))
  split
  · exact .text ((Plain.append (by decide) hcolumn).append (by decide))
      ((composes_map_bound c.values).ending (by decide))
  · exact .text ((hcolumn.append (by decide)).append (plain_operator c.operator))
      (composes_operands c.values)

theorem composes_restriction (d : Dialect) (t : Table) (cs : List Condition) :
    Composes (d.restriction t cs) (cs.flatMap Condition.values) := by
  cases cs with
  | nil => exact .nil
  | cons c cs =>
    exact .text (by decide) ((composes_condition d t c).append
      (Composes.separated (by decide) (composes_condition d t) cs))

theorem composes_rows (d : Dialect) (s : Selection) :
    Composes (d.rows s) (s.conditions.flatMap Condition.values) :=
  .text (Plain.append (by decide) (plain_source d s.table))
    (composes_restriction d s.table s.conditions)

theorem composes_plainRead (d : Dialect) (s : Selection) :
    Composes (d.plainRead s) (s.conditions.flatMap Condition.values) :=
  .text (plain_projection d s) (composes_rows d s)

/-- The name that a dialect gives to an outer read is plain. -/
theorem plain_derivedName {d : Dialect} {name : Option String}
    (h : d.traits.paging = .rowNumber name) : Plain (name.elim "" (" AS " ++ ·)) := by
  cases d <;> cases h <;> decide

theorem composes_numberedRead {d : Dialect} {name : Option String}
    (h : d.traits.paging = .rowNumber name) (s : Selection) (r : RowRange) :
    Composes (d.numberedRead s r name) (s.conditions.flatMap Condition.values) := by
  have hopening := plain_orderItem d s.table (numberingOrder s)
  have hbounds : Plain (" )" ++ (name.elim "" (" AS " ++ ·)) ++ " WHERE ROW_NUMBER BETWEEN " ++
      Text.decimal (r.start + 1) ++ " AND " ++ Text.decimal r.stop) :=
    (((((Plain.append (by decide) (plain_derivedName h)).append (by decide)).append
      (plain_decimal _)).append (by decide)).append (plain_decimal _))
  exact .text ((Plain.append (by decide) hopening).append (by decide))
    ((composes_plainRead d s).ending hbounds)

/-- A read binds the values of its conditions. -/
theorem composes_selectPieces (d : Dialect) (s : Selection) :
    Composes (d.selectPieces s) (s.conditions.flatMap Condition.values) := by
  rw [selectPieces]
  split
  · rename_i hpaging
    exact composes_numberedRead hpaging s _
  · have hrange : Plain (s.range.elim "" d.traits.paging.clause) := by
      cases s.range with
      | none => exact plain_empty
      | some r => exact plain_clause _ r
    exact .text (by decide) ((composes_plainRead d s).ending
      ((plain_orderClause d s.table s.order).append hrange))

theorem composes_countPieces (d : Dialect) (s : Selection) :
    Composes (.text "SELECT COUNT(*)" :: d.rows s) (s.conditions.flatMap Condition.values) :=
  .text (by decide) (composes_rows d s)

/-! ### Changes and calls -/

theorem plain_changeTarget (d : Dialect) (t : Table) : Plain (d.changeTarget t) := by
  rw [changeTarget]
  split
  · exact plain_name _
  · exact plain_qualifiedName t
  · exact plain_qualifiedName t

theorem plain_changeColumn (d : Dialect) (t : Table) (c : Identifier) :
    Plain (d.changeColumn t c) := by
  rw [changeColumn]
  split
  · exact plain_name c
  · exact plain_name c
  · exact ((plain_name _).append (by decide)).append (plain_name c)

theorem composes_placeholders (vs : List String) : Composes (placeholders vs) vs := by
  cases vs with
  | nil => exact .nil
  | cons v vs =>
    have hmore := Composes.separated (s := ",") (by decide) (fun w => .bound w .nil) vs
    rw [List.flatMap_singleton'] at hmore
    exact .bound v hmore

theorem composes_assignment (d : Dialect) (t : Table) (e : Identifier × String) :
    Composes (d.assignment t e) [e.2] :=
  .text ((plain_changeColumn d t e.1).append (by decide)) (.bound e.2 .nil)

theorem composes_assignments (d : Dialect) (t : Table) (es : List (Identifier × String)) :
    Composes (d.assignments t es) (es.map Prod.snd) := by
  cases es with
  | nil => exact .nil
  | cons e es =>
    rw [List.map_cons, List.map_eq_flatMap]
    exact (composes_assignment d t e).append
      (Composes.separated (by decide) (composes_assignment d t) es)

theorem composes_keyClause (d : Dialect) (t : Table) (key : String) :
    Composes (d.keyClause t key) [key] :=
  .text (by decide) (composes_assignment d t (t.primaryKey, key))

theorem composes_insertPieces (d : Dialect) (t : Table) (values : Assignments) :
    Composes (d.insertPieces t values) values.values := by
  have hopening : Plain ("INSERT INTO " ++ d.changeTarget t ++ " (" ++
      ",".intercalate (values.keys.map Identifier.name) ++ ") VALUES (") :=
    (((Plain.append (by decide) (plain_changeTarget d t)).append (by decide)).append
      (plain_commas plain_name values.keys)).append (by decide)
  exact .text hopening ((composes_placeholders values.values).ending (by decide))

theorem composes_updatePieces (d : Dialect) (t : Table) (values : Assignments) (key : String) :
    Composes (d.updatePieces t values key) (values.values ++ [key]) :=
  .text ((Plain.append (by decide) (plain_changeTarget d t)).append (by decide))
    ((composes_assignments d t values.entries).append (composes_keyClause d t key))

theorem composes_deletePieces (d : Dialect) (t : Table) (key : String) :
    Composes (d.deletePieces t key) [key] :=
  .text (Plain.append (by decide) (plain_changeTarget d t)) (composes_keyClause d t key)

theorem composes_callPieces (c : ProcedureCall) : Composes (callPieces c) c.arguments :=
  .text ((Plain.append (by decide) (plain_name c.procedure)).append (by decide))
    ((composes_placeholders c.arguments).ending (by decide))

end Dialect

end TableGateway

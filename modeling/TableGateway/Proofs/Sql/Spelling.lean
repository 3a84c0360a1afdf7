import TableGateway.Proofs.Sql.RoundTrip
import TableGateway.Statement.Table

/-!
# Spelling commands

What has to be shown of a rendered statement is that it spells a command (`Spelled`); then it is
read as that command and no other. The proofs go through the text in the order in which it is put
together: `Writes a us ms` says that the text `a` with the values `us` is cut into `ms` in front of
any rest that a word cannot run into, and has one rule for each way in which texts are joined.
-/

namespace TableGateway.Sql

/-! ## Putting texts together -/

/-- The text `a` with the values `us` is cut into `ms`, whatever comes behind, as long as no word
runs into it. -/
def Writes (a : List Char) (us : List String) (ms : List Lexeme) : Prop :=
  ∀ ⦃cs vs ls⦄, opens cs = true → Spells cs vs ls → Spells (a ++ cs) (us ++ vs) (ms ++ ls)

theorem opens_append {a b : List Char} (ha : opens a = true) (hb : opens b = true) :
    opens (a ++ b) = true := by
  cases a with
  | nil => exact hb
  | cons c cs => exact ha

namespace Writes

variable {a b : List Char} {us ws : List String} {ms ns : List Lexeme}

theorem spells (h : Writes a us ms) : Spells a us ms := by
  simpa using h rfl spells_nil

theorem nil : Writes [] [] [] := fun _ _ _ _ h => h

theorem word {w : List Char} (hw : isWord w = true) : Writes w [] [.token w] :=
  fun _ _ _ hopens h => Spells.word_append hw (endsWord_of_opens hopens) h

/-- Texts of which the second cannot be run into. -/
theorem append (ha : Writes a us ms) (hopens : opens b = true) (hb : Writes b ws ns) :
    Writes (a ++ b) (us ++ ws) (ms ++ ns) := by
  intro cs vs ls hcs h
  rw [List.append_assoc, List.append_assoc, List.append_assoc]
  exact ha (opens_append hopens hcs) (hb hcs h)

/-- A fixed text that runs into nothing, before another text. -/
theorem literal {s : List Char} (ms : List Lexeme) (hcloses : closes s = true) (hs : Spells s [] ms)
    (hb : Writes b us ns) : Writes (s ++ b) us (ms ++ ns) := by
  intro cs vs ls hcs h
  rw [List.append_assoc, List.append_assoc]
  exact Spells.text_append hcloses hs (hb hcs h)

/-- A fixed text at the end. -/
theorem ending {s : List Char} (ms : List Lexeme) (hs : Spells s [] ms) : Writes s [] ms :=
  fun _ _ _ hopens h => Spells.append_opens hs hopens h

/-- A bound value, before another text. -/
theorem bound (v : String) (hb : Writes b us ns) :
    Writes ('?' :: b) (v :: us) (.value v :: ns) :=
  fun _ _ _ hcs h => Spells.bound_append v (hb hcs h)

end Writes

/-! ## Names and numbers -/

/-- The text of a column, behind a point if it is said which table it is of. -/
def Reference.text (r : Reference) : String :=
  match r.qualifier with
  | some q => q.name ++ "." ++ r.column.name
  | none => r.column.name

theorem writes_name (i : Identifier) : Writes i.name.toList [] [word i.name] :=
  Writes.word (isWord_name i)

theorem writes_reference (r : Reference) : Writes r.text.toList [] r.lexemes := by
  obtain ⟨_ | q, c⟩ := r
  · exact writes_name c
  · rw [Reference.text, String.toList_append, String.toList_append, List.append_assoc]
    exact (writes_name q).append rfl (Writes.literal [Sql.word "."] rfl rfl (writes_name c))

theorem writes_decimal (n : Nat) : Writes (Text.decimal n).toList [] [number n] := by
  rw [Text.toList_decimal]
  exact Writes.word (isWord_toDigits n)

theorem writes_qualifiedName (t : Table) :
    Writes t.qualifiedName.toList [] (TableName.lexemes ⟨t.schema, t.name⟩) := by
  have htext : t.qualifiedName = Reference.text ⟨t.schema, t.name⟩ := by
    unfold Table.qualifiedName Reference.text
    cases t.schema <;> rfl
  rw [htext]
  exact writes_reference _

/-! ## Lists -/

/-- Pieces with a fixed text between them that nothing runs into. -/
theorem writes_separated {α : Type} (s : String) (separator : Lexeme)
    (hopens : ∀ cs, opens (s.toList ++ cs) = true) (hcloses : closes s.toList = true)
    (hs : Spells s.toList [] [separator]) (pieces : α → List Piece) {lexemes : α → List Lexeme}
    (h : ∀ a, Writes ((pieces a).flatMap Piece.chars) (Piece.params (pieces a)) (lexemes a))
    (a : α) (as : List α) :
    Writes ((pieces a ++ as.flatMap fun b => .text s :: pieces b).flatMap Piece.chars)
      (Piece.params (pieces a ++ as.flatMap fun b => .text s :: pieces b))
      (listed separator ((a :: as).map lexemes)) := by
  have hrest : ∀ bs : List α,
      opens ((bs.flatMap fun b => .text s :: pieces b).flatMap Piece.chars) = true := by
    intro bs
    cases bs with
    | nil => rfl
    | cons b bs => exact hopens _
  have hmore : Writes ((as.flatMap fun b => .text s :: pieces b).flatMap Piece.chars)
      (Piece.params (as.flatMap fun b => .text s :: pieces b))
      ((as.map lexemes).flatMap (separator :: ·)) := by
    induction as with
    | nil => exact Writes.nil
    | cons b bs ih =>
      simp only [List.flatMap_cons, List.map_cons, List.flatMap_append, Piece.params_append,
        Piece.params_text_cons, List.cons_append]
      exact Writes.literal [separator] hcloses hs ((h b).append (hrest bs) ih)
  rw [List.flatMap_append, Piece.params_append, List.map_cons, listed]
  exact (h a).append (hrest as) hmore

/-- A list of texts with commas between them, if none of them is run into by a comma. -/
theorem writes_commas {α : Type} {text : α → String} {lexemes : α → List Lexeme}
    (h : ∀ a, Writes (text a).toList [] (lexemes a)) (as : List α) :
    Writes (",".intercalate (as.map text)).toList [] (listed (word ",") (as.map lexemes)) := by
  induction as with
  | nil => exact Writes.nil
  | cons a as ih =>
    cases as with
    | nil => simpa [listed] using h a
    | cons b bs =>
      have hlisted : listed (word ",") ((a :: b :: bs).map lexemes) =
          lexemes a ++ ([word ","] ++ listed (word ",") ((b :: bs).map lexemes)) := by
        simp [listed]
      rw [hlisted, List.map_cons, List.map_cons, String.intercalate_cons_cons,
        String.toList_append, String.toList_append, List.append_assoc]
      exact (h a).append rfl (Writes.literal _ rfl rfl ih)

/-! ## Statements -/

/-- The statement is cut into the lexemes of the command, which can be told from others by them. -/
structure Spelled (st : Statement) (c : Command) : Prop where
  spells : Spells st.sql.toList st.params c.lexemes
  wellFormed : c.WellFormed

namespace Spelled

variable {st : Statement} {c : Command}

theorem ofPieces {ps : List Piece} (hc : c.WellFormed)
    (h : Writes (ps.flatMap Piece.chars) (Piece.params ps) c.lexemes) :
    Spelled (.ofPieces ps) c := by
  refine ⟨?_, hc⟩
  rw [Statement.sql_ofPieces, Statement.params_ofPieces, Piece.toList_sql]
  exact h.spells

/-- A database reads what is spelled. -/
theorem read_eq (h : Spelled st c) : read st = some c := read_of_spells h.wellFormed h.spells

/-- A statement that starts with a text starts with the lexemes of the text. -/
theorem lexemes_of_prefix (h : Spelled st c) {s : List Char} {ms : List Lexeme}
    (hcloses : closes s = true) (hs : Spells s [] ms) (hstart : s <+: st.sql.toList) :
    ∃ more, c.lexemes = ms ++ more := by
  obtain ⟨rest, hrest⟩ := hstart
  have hspells := h.spells
  rw [← hrest] at hspells
  exact hs.of_text_append hcloses hspells

end Spelled

end TableGateway.Sql

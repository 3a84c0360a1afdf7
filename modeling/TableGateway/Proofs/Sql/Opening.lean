import TableGateway.Proofs.Sql.Spelling

/-!
# How commands start and what they name

The first words of a statement tell what kind of command it is, its `Verb`. A command names one
table at most (`Command.table?`), by which or by a label it calls it (`Command.calledName?`). Apart
from that tables are mentioned only as qualifiers of columns (`Command.qualifiers`).

* `Spelled.startsWith_iff`: a statement that spells a command starts with the opening of its verb
  and, apart from `SELECT `, with no other.
-/

namespace TableGateway

/-- The SQL of the statement starts with the text. -/
def Statement.startsWith (st : Statement) (s : String) : Prop := s.toList <+: st.sql.toList

theorem Statement.startsWith_ofPieces {o s : String} (h : o.toList <+: s.toList)
    (ps : List Piece) : (Statement.ofPieces (.text s :: ps)).startsWith o := by
  rw [startsWith, sql_ofPieces, Piece.toList_sql, List.flatMap_cons]
  exact h.trans (List.prefix_append _ _)

namespace Sql

/-! ## Verbs -/

/-- A kind of command. -/
inductive Verb where
  | select
  | count
  | insert
  | update
  | delete
  | call
deriving DecidableEq

namespace Verb

/-- The text that commands of this kind start with. -/
def opening : Verb → String
  | select => "SELECT "
  | count => "SELECT COUNT(*) FROM "
  | insert => "INSERT INTO "
  | update => "UPDATE "
  | delete => "DELETE FROM "
  | call => "\x7bCALL "

/-- The lexemes of the opening. -/
def lexemes : Verb → List Lexeme
  | select => [word "SELECT"]
  | count => countOpening ++ [word "FROM"]
  | insert => [word "INSERT", word "INTO"]
  | update => [word "UPDATE"]
  | delete => [word "DELETE", word "FROM"]
  | call => [word "\x7b", word "CALL"]

/-- Commands of this kind change rows. -/
def isWrite : Verb → Bool
  | insert | update | delete => true
  | select | count | call => false

theorem spells_opening (v : Verb) : Spells v.opening.toList [] v.lexemes := by
  cases v <;> rfl

theorem closes_opening (v : Verb) : closes v.opening.toList = true := by
  cases v <;> rfl

/-- Verbs are told apart by their first lexeme, but for `SELECT`. -/
theorem eq_of_head? {v w : Verb} (h : v.lexemes.head? = w.lexemes.head?) :
    v = w ∨ (v = select ∧ w = count) ∨ (v = count ∧ w = select) := by
  revert h
  cases v <;> cases w <;> decide

end Verb

/-! ## Names in a command -/

/-- The kind of a command. -/
def Command.verb : Command → Verb
  | query (.count _) => .count
  | query _ => .select
  | insert .. => .insert
  | update .. => .update
  | delete .. => .delete
  | call .. => .call

/-- The table that a command names. -/
def Command.table? : Command → Option TableName
  | query q => some q.rows.source.name
  | insert t _ _ => some t
  | update t _ _ => some t
  | delete t _ => some t
  | call _ _ => none

/-- The name by which a command calls its table. -/
def Command.calledName? : Command → Option Identifier
  | query q => some q.rows.source.calledName
  | insert t _ _ => some t.table
  | update t _ _ => some t.table
  | delete t _ => some t.table
  | call _ _ => none

def Reference.qualifiers (r : Reference) : List Identifier := r.qualifier.toList

def Scalar.qualifiers : Scalar → List Identifier
  | column r => r.qualifiers
  | value _ => []

def Operand.qualifiers : Operand → List Identifier
  | plain s => s.qualifiers
  | lowered s => s.qualifiers

def Predicate.qualifiers : Predicate → List Identifier
  | compare x _ y => x.qualifiers ++ y.qualifiers
  | between x low high => x.qualifiers ++ low.qualifiers ++ high.qualifiers
  | isNull x => x.qualifiers
  | isNotNull x => x.qualifiers

def Factor.qualifiers : Factor → List Identifier
  | plain p => p.qualifiers
  | negated p => p.qualifiers

def Rows.qualifiers (r : Rows) : List Identifier := r.conditions.flatMap Factor.qualifiers

def Projection.qualifiers : Projection → List Identifier
  | all q => q.toList
  | columns r rs => (r :: rs).flatMap Reference.qualifiers

def Query.qualifiers : Query → List Identifier
  | plain p r o _ =>
    p.qualifiers ++ r.qualifiers ++ o.toList.flatMap fun i => i.reference.qualifiers
  | numbered o p r _ _ _ => o.reference.qualifiers ++ p.qualifiers ++ r.qualifiers
  | count r => r.qualifiers

/-- The names that a command gives to the tables of its columns. -/
def Command.qualifiers : Command → List Identifier
  | query q => q.qualifiers
  | insert _ _ _ => []
  | update _ es key => (key :: es).flatMap fun e => e.reference.qualifiers
  | delete _ key => key.reference.qualifiers
  | call _ _ => []

/-! ## The start of a statement -/

theorem head?_lexemes (c : Command) : c.lexemes.head? = c.verb.lexemes.head? := by
  cases c with
  | query q => cases q <;> rfl
  | insert t cs vs => rfl
  | update t es key => rfl
  | delete t key => rfl
  | call p vs => rfl

/-- A query that does not count is not taken for one. -/
theorem after_countOpening {c : Command} (h : c.verb = .select) :
    after countOpening c.lexemes = none := by
  cases c with
  | query q =>
    cases q with
    | plain p r o w => exact (after_openings_plain p r o w).2
    | numbered o p r l first last =>
      obtain ⟨rest, hrest⟩ : ∃ rest, (Query.numbered o p r l first last).lexemes =
          word "SELECT" :: word "*" :: rest := ⟨_, rfl⟩
      rw [Command.lexemes, hrest, countOpening, after_cons_self]
      exact after_ne (by decide) _ _
    | count r => cases h
  | insert t cs vs => cases h
  | update t es key => cases h
  | delete t key => cases h
  | call p vs => cases h

theorem verb_of_lexemes {c : Command} {v : Verb} {more : List Lexeme}
    (h : c.lexemes = v.lexemes ++ more) : v = c.verb ∨ (v = .select ∧ c.verb = .count) := by
  have hhead : v.lexemes.head? = c.verb.lexemes.head? := by
    rw [← head?_lexemes c, h]
    cases v <;> rfl
  rcases Verb.eq_of_head? hhead with heq | hselect | ⟨rfl, hselect⟩
  · exact .inl heq
  · exact .inr hselect
  · -- the command starts as a count does, so it is one
    have hafter := after_countOpening hselect
    rw [h, Verb.lexemes, List.append_assoc, after_append] at hafter
    cases hafter

/-- A statement starts with the opening of its verb, a count also with that of other queries, and
with no other opening. -/
theorem Spelled.startsWith_iff {st : Statement} {c : Command} (h : Spelled st c)
    (hstart : st.startsWith c.verb.opening) (v : Verb) :
    st.startsWith v.opening ↔ v = c.verb ∨ (v = .select ∧ c.verb = .count) := by
  constructor
  · intro hv
    obtain ⟨more, hmore⟩ := h.lexemes_of_prefix v.closes_opening v.spells_opening hv
    exact verb_of_lexemes hmore
  · rintro (rfl | ⟨rfl, hcount⟩)
    · exact hstart
    · rw [hcount] at hstart
      exact List.IsPrefix.trans (by decide) hstart

end Sql

end TableGateway

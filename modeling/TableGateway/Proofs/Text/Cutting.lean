import Mathlib.Data.List.Forall2
import TableGateway.Text.Blank

/-!
# Texts that are cut up

A line is read by cutting it at its commas and trimming what is between them. What comes out can be
told from the line alone: `Trimmed` says what trimming leaves of a piece, `BetweenCommas` that texts
stand between the commas of a line with nothing but blanks around them. Each line has one such list
of texts (`betweenCommas_iff`), and texts that are joined by commas and blanks are it again.
-/

namespace TableGateway.Text

/-! ## Cutting -/

/-- What is cut at a separator holds it no longer. -/
theorem not_mem_of_mem_splitOn {α : Type} [BEq α] [LawfulBEq α] {a : α} {xs ws : List α}
    (h : ws ∈ xs.splitOn a) : a ∉ ws := by
  induction xs generalizing ws with
  | nil =>
    rw [List.splitOn_nil, List.mem_singleton] at h
    rw [h]
    nofun
  | cons x xs ih =>
    rw [List.splitOn_cons_eq_if_modifyHead] at h
    split at h
    · rcases List.mem_cons.mp h with rfl | h
      · nofun
      · exact ih h
    · rename_i hx
      obtain ⟨vs, wss, hsplit⟩ := List.exists_cons_of_ne_nil (List.splitOn_ne_nil a xs)
      rw [hsplit] at h ih
      rcases List.mem_cons.mp h with rfl | h
      · intro hmem
        rcases List.mem_cons.mp hmem with rfl | hmem
        · exact hx (beq_self_eq_true a)
        · exact ih List.mem_cons_self hmem
      · exact ih (List.mem_cons_of_mem _ h)

/-! ## Trimming -/

/-- The text is what is left of the characters without the blanks at their two ends. -/
structure Trimmed (cs : List Char) (s : String) : Prop where
  /-- nothing but blanks is taken away -/
  cut : ∃ before after, cs = before ++ s.toList ++ after ∧ before.all isBlank = true ∧
    after.all isBlank = true
  /-- no blank is left at the start -/
  start : ∀ c ∈ s.toList.head?, isBlank c = false
  /-- no blank is left at the end -/
  stop : ∀ c ∈ s.toList.getLast?, isBlank c = false

theorem dropWhile_isBlank_append {bs : List Char} (hbs : bs.all isBlank = true) (cs : List Char) :
    (bs ++ cs).dropWhile isBlank = cs.dropWhile isBlank :=
  List.dropWhile_append_of_pos (List.all_eq_true.mp hbs)

theorem dropWhile_isBlank_eq_self {cs : List Char} (h : ∀ c ∈ cs.head?, isBlank c = false) :
    cs.dropWhile isBlank = cs := by
  cases cs with
  | nil => rfl
  | cons c cs => exact List.dropWhile_cons_of_neg (Bool.eq_false_iff.mp (h c rfl))

theorem isBlank_head_dropWhile {cs : List Char} {c : Char}
    (h : c ∈ (cs.dropWhile isBlank).head?) : isBlank c = false := by
  have hnot := List.head?_dropWhile_not isBlank cs
  rw [Option.mem_def.mp h] at hnot
  exact hnot

/-- What is left does not depend on the blanks that there were. -/
theorem trimChars_append {before after : List Char} (hbefore : before.all isBlank = true)
    (hafter : after.all isBlank = true) (cs : List Char) :
    trimChars (before ++ cs ++ after) = trimChars cs := by
  rw [trimChars, List.append_assoc, dropWhile_isBlank_append hbefore, List.dropWhile_append]
  split
  · rename_i hempty
    have hcs : cs.all isBlank = true :=
      dropWhile_isBlank_eq_nil_iff.mp (List.isEmpty_iff.mp hempty)
    rw [dropWhile_isBlank_eq_nil_iff.mpr hafter, trimChars_eq_nil_iff.mpr hcs]
    rfl
  · have hreverse : after.reverse.all isBlank = true := by rw [List.all_reverse, hafter]
    rw [List.reverse_append, dropWhile_isBlank_append hreverse, trimChars]

theorem trimChars_eq_self {cs : List Char} (hstart : ∀ c ∈ cs.head?, isBlank c = false)
    (hstop : ∀ c ∈ cs.getLast?, isBlank c = false) : trimChars cs = cs := by
  rw [← List.head?_reverse] at hstop
  rw [trimChars, dropWhile_isBlank_eq_self hstart, dropWhile_isBlank_eq_self hstop,
    List.reverse_reverse]

/-- Behind what is left there are blanks, when those at the start are gone. -/
theorem exists_dropWhile_eq_append (cs : List Char) :
    ∃ after, cs.dropWhile isBlank = trimChars cs ++ after ∧ after.all isBlank = true := by
  refine ⟨((cs.dropWhile isBlank).reverse.takeWhile isBlank).reverse, ?_, ?_⟩
  · rw [trimChars, ← List.reverse_append, List.takeWhile_append_dropWhile, List.reverse_reverse]
  · rw [List.all_reverse]
    exact List.all_takeWhile

/-- Trimming leaves the text that there is to be left. -/
theorem trimmed_iff {cs : List Char} {s : String} : Trimmed cs s ↔ s.toList = trimChars cs := by
  constructor
  · rintro ⟨⟨before, after, rfl, hbefore, hafter⟩, hstart, hstop⟩
    rw [trimChars_append hbefore hafter, trimChars_eq_self hstart hstop]
  · intro h
    obtain ⟨after, hrest, hafter⟩ := exists_dropWhile_eq_append cs
    rw [← h] at hrest
    refine ⟨⟨cs.takeWhile isBlank, after, ?_, List.all_takeWhile, hafter⟩, ?_, ?_⟩
    · rw [List.append_assoc, ← hrest, List.takeWhile_append_dropWhile]
    · intro c hc
      have hhead : c ∈ (cs.dropWhile isBlank).head? := by
        rw [hrest, List.head?_append, Option.mem_def.mp hc]
        rfl
      exact isBlank_head_dropWhile hhead
    · intro c hc
      rw [h, trimChars, List.getLast?_reverse] at hc
      exact isBlank_head_dropWhile hc

/-! ## Between commas -/

/-- The texts stand between the commas of the line, with nothing but blanks around them. -/
def BetweenCommas (line : String) (texts : List String) : Prop :=
  ∃ pieces : List (List Char), pieces ≠ [] ∧ (∀ piece ∈ pieces, ',' ∉ piece) ∧
    line.toList = [','].intercalate pieces ∧ List.Forall₂ Trimmed pieces texts

theorem forall₂_trimmed_iff {pieces : List (List Char)} {texts : List String} :
    List.Forall₂ Trimmed pieces texts ↔
      texts = pieces.map fun cs => String.ofList (trimChars cs) := by
  have htrimmed : ∀ cs s, Trimmed cs s ↔ s = String.ofList (trimChars cs) := by
    intro cs s
    rw [trimmed_iff, ← String.toList_inj, String.toList_ofList]
  constructor
  · intro h
    induction h with
    | nil => rfl
    | cons hs _ ih => rw [List.map_cons, ← ih, (htrimmed _ _).mp hs]
  · rintro rfl
    exact List.forall₂_map_right_iff.mpr (List.forall₂_same.mpr fun cs _ => (htrimmed cs _).mpr rfl)

/-- There is one list of texts between the commas of a line. -/
theorem betweenCommas_iff {line : String} {texts : List String} :
    BetweenCommas line texts ↔
      texts = (line.toList.splitOn ',').map fun cs => String.ofList (trimChars cs) := by
  constructor
  · rintro ⟨pieces, hne, hcommas, hline, htexts⟩
    rw [hline, List.splitOn_intercalate ',' hcommas hne]
    exact forall₂_trimmed_iff.mp htexts
  · rintro rfl
    exact ⟨_, List.splitOn_ne_nil ',' _, fun _ => not_mem_of_mem_splitOn,
      (List.intercalate_splitOn ',').symm, forall₂_trimmed_iff.mpr rfl⟩

/-- In a blank line there is one text, and it is empty. -/
theorem BetweenCommas.eq_of_blank {line : String} {texts : List String}
    (h : BetweenCommas line texts) (hblank : isBlankText line = true) : texts = [""] := by
  have hall : ∀ c ∈ line.toList, isBlank c = true := List.all_eq_true.mp hblank
  have hcomma : ',' ∉ line.toList := by
    intro hmem
    exact absurd (hall ',' hmem) (by decide)
  rw [betweenCommas_iff.mp h, List.splitOn_eq_singleton hcomma, List.map_singleton,
    trimChars_eq_nil_iff.mpr hblank]

/-- A blank after a comma can as well be taken for one before the next piece. -/
theorem intercalate_comma_blank (cs : List Char) (css : List (List Char)) :
    [',', ' '].intercalate (cs :: css) = [','].intercalate (cs :: css.map (' ' :: ·)) := by
  induction css generalizing cs with
  | nil => rfl
  | cons ds css ih =>
    have hshift : [','].intercalate ((' ' :: ds) :: css.map (' ' :: ·)) =
        ' ' :: [','].intercalate (ds :: css.map (' ' :: ·)) := by
      cases css <;> simp
    rw [List.map_cons, List.intercalate_cons_cons, List.intercalate_cons_cons, ih, hshift]
    simp

/-- Texts without commas and blanks can be read again when they are joined by both. -/
theorem betweenCommas_intercalate {texts : List String} (hne : texts ≠ [])
    (hcommas : ∀ s ∈ texts, ',' ∉ s.toList)
    (hblanks : ∀ s ∈ texts, ∀ c ∈ s.toList, isBlank c = false) :
    BetweenCommas (", ".intercalate texts) texts := by
  obtain ⟨t, ts, rfl⟩ := List.exists_cons_of_ne_nil hne
  have hends : ∀ s ∈ t :: ts, (∀ c ∈ s.toList.head?, isBlank c = false) ∧
      ∀ c ∈ s.toList.getLast?, isBlank c = false := by
    intro s hs
    exact ⟨fun c hc => hblanks s hs c (List.mem_of_mem_head? hc),
      fun c hc => hblanks s hs c (List.mem_of_getLast? hc)⟩
  obtain ⟨hcomma, hcommas⟩ := List.forall_mem_cons.mp hcommas
  obtain ⟨hend, hends⟩ := List.forall_mem_cons.mp hends
  refine ⟨t.toList :: ts.map (' ' :: ·.toList), List.cons_ne_nil _ _, ?_, ?_, ?_⟩
  · intro piece hpiece
    rcases List.mem_cons.mp hpiece with rfl | hpiece
    · exact hcomma
    · obtain ⟨s, hs, rfl⟩ := List.mem_map.mp hpiece
      simpa using hcommas s hs
  · have hjoined := intercalate_comma_blank t.toList (ts.map String.toList)
    rw [List.map_map] at hjoined
    rw [String.toList_intercalate, List.map_cons]
    exact hjoined
  · refine .cons ⟨⟨[], [], by simp, rfl, rfl⟩, hend.1, hend.2⟩ ?_
    refine List.forall₂_map_left_iff.mpr (List.forall₂_same.mpr fun s hs => ?_)
    exact ⟨⟨[' '], [], by simp, by decide, rfl⟩, (hends s hs).1, (hends s hs).2⟩

end TableGateway.Text

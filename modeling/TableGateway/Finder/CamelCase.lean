/-!
# Camel-case words

A finder name is written in camel case: each capital starts a word. `words` splits a text there and
nowhere else. Capitals are the English ones; a capital of another alphabet stays inside its word.

* `flatten_words`: the words together are the text again;
* `ne_nil_of_mem_words`: no word is empty;
* `exists_of_mem_tail_words`, `isUpper_of_mem_tail`: a capital starts every word but the first, and
  stands nowhere else in a word;
* `words_flatten`: texts that each are one word are found again in what they are together.
-/

namespace TableGateway.CamelCase

/-- The words of a text: it is split before each capital but the first character. -/
def words : List Char → List (List Char)
  | [] => []
  | c :: cs =>
    match words cs with
    | [] => [[c]]
    | w :: ws => if (w.head?.map Char.isUpper).getD false then [c] :: w :: ws else (c :: w) :: ws

/-- The text is one word: it starts with a capital and has no other. -/
def isWord : List Char → Bool
  | [] => false
  | c :: cs => c.isUpper && cs.all fun d => !d.isUpper

@[simp] theorem words_nil : words [] = [] := rfl

/-- Splitting loses nothing. -/
theorem flatten_words (cs : List Char) : (words cs).flatten = cs := by
  induction cs with
  | nil => rfl
  | cons c cs ih =>
    simp only [words]
    cases hw : words cs with
    | nil =>
      rw [hw] at ih
      simp [← ih]
    | cons w ws =>
      rw [hw] at ih
      dsimp only
      split <;> simp_all

/-- No word is empty. -/
theorem ne_nil_of_mem_words {cs w : List Char} (h : w ∈ words cs) : w ≠ [] := by
  induction cs generalizing w with
  | nil => simp at h
  | cons c cs ih =>
    simp only [words] at h
    cases hw : words cs with
    | nil =>
      rw [hw] at h
      simp only [List.mem_singleton] at h
      simp [h]
    | cons v vs =>
      rw [hw] at h ih
      dsimp only at h
      split at h
      · rcases List.mem_cons.mp h with rfl | h
        · simp
        · exact ih h
      · rcases List.mem_cons.mp h with rfl | h
        · simp
        · exact ih (List.mem_cons_of_mem _ h)

/-- No word has a capital but in the first place. -/
theorem isUpper_of_mem_tail {cs w : List Char} (h : w ∈ words cs) :
    ∀ d ∈ w.tail, d.isUpper = false := by
  induction cs generalizing w with
  | nil => cases h
  | cons c cs ih =>
    rw [words] at h
    cases hw : words cs with
    | nil =>
      rw [hw] at h
      obtain rfl := List.mem_singleton.mp h
      nofun
    | cons v vs =>
      rw [hw] at h ih
      dsimp only at h
      split at h
      · rcases List.mem_cons.mp h with rfl | h
        · nofun
        · exact ih h
      · rename_i hhead
        rcases List.mem_cons.mp h with rfl | h
        · -- the text went on with `v`, which does not start with a capital
          intro d hd
          cases v with
          | nil => cases hd
          | cons e v =>
            rcases List.mem_cons.mp hd with rfl | hd
            · simpa using hhead
            · exact ih List.mem_cons_self d hd
        · exact ih (List.mem_cons_of_mem _ h)

/-- Every word but the first starts with a capital. -/
theorem exists_of_mem_tail_words {cs w : List Char} (h : w ∈ (words cs).tail) :
    ∃ d v, w = d :: v ∧ d.isUpper = true := by
  induction cs with
  | nil => cases h
  | cons c cs ih =>
    rw [words] at h
    cases hw : words cs with
    | nil =>
      rw [hw] at h
      cases h
    | cons v vs =>
      rw [hw] at h ih
      dsimp only at h
      split at h
      · rename_i hhead
        rcases List.mem_cons.mp h with rfl | h
        · cases w with
          | nil => cases hhead
          | cons d w => exact ⟨d, w, rfl, hhead⟩
        · exact ih h
      · exact ih h

/-- The first word starts where the text does. -/
theorem exists_words_cons (c : Char) (cs : List Char) :
    ∃ w ws, words (c :: cs) = (c :: w) :: ws := by
  rw [words]
  cases words cs with
  | nil => exact ⟨[], [], rfl⟩
  | cons w ws =>
    dsimp only
    split
    · exact ⟨[], w :: ws, rfl⟩
    · exact ⟨w, ws, rfl⟩

/-- A word has its capital in the first place. -/
theorem isWord_iff {w : List Char} :
    isWord w = true ↔ ∃ c cs, w = c :: cs ∧ c.isUpper = true ∧ ∀ d ∈ cs, d.isUpper = false := by
  cases w with
  | nil => simp [isWord]
  | cons c cs =>
    simp only [isWord, Bool.and_eq_true, List.all_eq_true, Bool.not_eq_true', List.cons.injEq]
    constructor
    · rintro ⟨hc, hcs⟩
      exact ⟨c, cs, ⟨rfl, rfl⟩, hc, hcs⟩
    · rintro ⟨_, _, ⟨rfl, rfl⟩, hc, hcs⟩
      exact ⟨hc, hcs⟩

/-- A text that starts with a capital is split into words that do. -/
theorem isWord_of_mem_words {c : Char} {cs w : List Char} (hc : c.isUpper = true)
    (h : w ∈ words (c :: cs)) : isWord w = true := by
  have hstart : ∃ d v, w = d :: v ∧ d.isUpper = true := by
    obtain ⟨v, vs, hwords⟩ := exists_words_cons c cs
    have htail : ∀ u ∈ (words (c :: cs)).tail, ∃ d v, u = d :: v ∧ d.isUpper = true :=
      fun _ => exists_of_mem_tail_words
    rw [hwords] at h htail
    rcases List.mem_cons.mp h with rfl | h
    · exact ⟨c, v, rfl, hc⟩
    · exact htail w h
  have hrest := isUpper_of_mem_tail h
  obtain ⟨d, v, rfl, hd⟩ := hstart
  exact isWord_iff.mpr ⟨d, v, rfl, hd, hrest⟩

/-- What stands before the second capital is the first word. -/
theorem words_append {c : Char} {w cs : List Char} (hw : ∀ d ∈ w, d.isUpper = false)
    (hcs : ∀ d ∈ cs.head?, d.isUpper = true) : words (c :: (w ++ cs)) = (c :: w) :: words cs := by
  induction w generalizing c with
  | nil =>
    cases cs with
    | nil => rfl
    | cons d cs =>
      have hd : d.isUpper = true := hcs d rfl
      obtain ⟨v, vs, hwords⟩ := exists_words_cons d cs
      rw [List.nil_append, words, hwords]
      exact if_pos hd
  | cons d w ih =>
    have hd : d.isUpper = false := hw d List.mem_cons_self
    have hrest : words (d :: (w ++ cs)) = (d :: w) :: words cs :=
      ih fun e he => hw e (List.mem_cons_of_mem d he)
    rw [List.cons_append, words, hrest]
    exact if_neg (by simp [hd])

/-- Words together start with a capital, if there are any. -/
theorem exists_flatten_cons {ws : List (List Char)} (hws : ws ≠ [])
    (h : ∀ w ∈ ws, isWord w = true) : ∃ c cs, ws.flatten = c :: cs ∧ c.isUpper = true := by
  obtain ⟨w, ws, rfl⟩ := List.exists_cons_of_ne_nil hws
  obtain ⟨c, cs, rfl, hc, -⟩ := isWord_iff.mp (h w List.mem_cons_self)
  exact ⟨c, cs ++ ws.flatten, rfl, hc⟩

/-- Texts that each are one word are found again in what they are together. -/
theorem words_flatten {ws : List (List Char)} (h : ∀ w ∈ ws, isWord w = true) :
    words ws.flatten = ws := by
  induction ws with
  | nil => rfl
  | cons w ws ih =>
    obtain ⟨hw, hws⟩ := List.forall_mem_cons.mp h
    obtain ⟨c, cs, rfl, -, hrest⟩ := isWord_iff.mp hw
    -- the text goes on with the next word, so with a capital
    have hhead : ∀ d ∈ ws.flatten.head?, d.isUpper = true := by
      cases ws with
      | nil => nofun
      | cons v ws =>
        obtain ⟨d, ds, hflatten, hd⟩ := exists_flatten_cons (List.cons_ne_nil v ws) hws
        rw [hflatten]
        rintro e ⟨⟩
        exact hd
    rw [List.flatten_cons, List.cons_append, words_append hrest hhead, ih hws]

end TableGateway.CamelCase

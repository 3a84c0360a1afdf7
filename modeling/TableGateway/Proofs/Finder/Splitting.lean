import Mathlib.Data.String.Basic
import TableGateway.Finder.CamelCase

/-!
# One way to split a name

A finder name is read word by word, so all that is said of finders rests on how a text is split into
words. `Splits cs ws` says what the words of a text are without splitting it: they make up the text,
none is empty, each but the first starts with a capital, and no capital stands elsewhere in a word.
A text has its words for its only split (`splits_iff`).

The same words are found by going through the UTF-8 bytes of a text: `spans` is the scan that keeps
the offset at which a word begins and passes on to the next word at each capital. Its offsets never
fall inside a character, and between them stand the words (`spans_eq`, `slice?_of_offsets`).
-/

namespace TableGateway.CamelCase

/-! ## The split of a text -/

/-- The texts are the words of the text. -/
structure Splits (cs : List Char) (ws : List (List Char)) : Prop where
  /-- together the words are the text -/
  flatten_eq : ws.flatten = cs
  /-- no word is empty -/
  ne_nil : ∀ w ∈ ws, w ≠ []
  /-- every word but the first starts with a capital -/
  start : ∀ w ∈ ws.tail, ∃ c v, w = c :: v ∧ c.isUpper = true
  /-- no word has a capital but in the first place -/
  rest : ∀ w ∈ ws, ∀ d ∈ w.tail, d.isUpper = false

theorem splits_words (cs : List Char) : Splits cs (words cs) where
  flatten_eq := flatten_words cs
  ne_nil _ := ne_nil_of_mem_words
  start _ := exists_of_mem_tail_words
  rest _ := isUpper_of_mem_tail

/-- What is behind the first word is split into the other words. -/
theorem Splits.tail {cs w : List Char} {ws : List (List Char)} (h : Splits cs (w :: ws)) :
    Splits ws.flatten ws where
  flatten_eq := rfl
  ne_nil v hv := h.ne_nil v (List.mem_cons_of_mem w hv)
  start v hv := h.start v (List.mem_of_mem_tail hv)
  rest v hv := h.rest v (List.mem_cons_of_mem w hv)

/-- What is behind the first word starts with a capital. -/
theorem Splits.isUpper_of_mem_head? {cs w : List Char} {ws : List (List Char)}
    (h : Splits cs (w :: ws)) : ∀ d ∈ ws.flatten.head?, d.isUpper = true := by
  cases ws with
  | nil => nofun
  | cons v ws =>
    obtain ⟨c, v, rfl, hc⟩ := h.start v List.mem_cons_self
    rintro d ⟨⟩
    exact hc

/-- A text has no other split than its words. -/
theorem Splits.eq_words {cs : List Char} {ws : List (List Char)} (h : Splits cs ws) :
    ws = words cs := by
  obtain rfl := h.flatten_eq
  induction ws with
  | nil => rfl
  | cons w ws ih =>
    obtain ⟨c, v, rfl⟩ := List.exists_cons_of_ne_nil (h.ne_nil w List.mem_cons_self)
    have hrest : ∀ d ∈ v, d.isUpper = false := h.rest _ List.mem_cons_self
    rw [List.flatten_cons, List.cons_append, words_append hrest h.isUpper_of_mem_head?,
      ← ih h.tail]

theorem splits_iff {cs : List Char} {ws : List (List Char)} : Splits cs ws ↔ ws = words cs := by
  constructor
  · exact Splits.eq_words
  · rintro rfl
    exact splits_words cs

/-! ## Byte offsets -/

/-- The offsets in bytes between which the words of a text stand. The word that is being read begins
at `start`, and the characters that are left begin at `offset`. -/
def spans (start offset : Nat) : List Char → List (Nat × Nat)
  | [] => if start < offset then [(start, offset)] else []
  | c :: cs =>
    if start < offset ∧ c.isUpper then (start, offset) :: spans offset (offset + c.utf8Size) cs
    else spans start (offset + c.utf8Size) cs

/-- The part of a text between two offsets in bytes; there is none if an offset is inside of a
character or outside of the text, or if the offsets are in the wrong order. -/
def slice? (text : String) (span : Nat × Nat) : Option String :=
  if (String.Pos.Raw.mk span.1).IsValid text ∧ (String.Pos.Raw.mk span.2).IsValid text ∧
      span.1 ≤ span.2 then
    some (String.Pos.Raw.extract text ⟨span.1⟩ ⟨span.2⟩)
  else none

/-- The offsets between which texts stand that follow each other from `start` on. -/
def offsets (start : Nat) : List (List Char) → List (Nat × Nat)
  | [] => []
  | w :: ws => (start, start + String.utf8Len w) :: offsets (start + String.utf8Len w) ws

theorem utf8Len_pos {w : List Char} (h : w ≠ []) : 0 < String.utf8Len w := by
  obtain ⟨c, cs, rfl⟩ := List.exists_cons_of_ne_nil h
  rw [String.utf8Len_cons]
  exact Nat.add_pos_right _ c.utf8Size_pos

/-- The scan finds the offsets of the words. What it has read of a word, `w`, has no capital but in
the first place. -/
theorem spans_eq {w : List Char} (hw : ∀ d ∈ w.tail, d.isUpper = false) (start : Nat)
    (cs : List Char) :
    spans start (start + String.utf8Len w) cs = offsets start (words (w ++ cs)) := by
  induction cs generalizing w start with
  | nil =>
    cases w with
    | nil => simp [spans, offsets]
    | cons c w =>
      have hlt : start < start + String.utf8Len (c :: w) :=
        Nat.lt_add_of_pos_right (utf8Len_pos (List.cons_ne_nil c w))
      have hwords : words (c :: (w ++ [])) = [c :: w] :=
        words_append hw (fun _ h => nomatch h)
      rw [spans, if_pos hlt, List.cons_append, hwords]
      rfl
  | cons d cs ih =>
    have hnext : start + String.utf8Len w + d.utf8Size = start + String.utf8Len (w ++ [d]) := by
      simp [String.utf8Len_append, Nat.add_assoc]
    cases w with
    | nil =>
      rw [spans, if_neg (by simp), hnext]
      exact ih (by nofun) start
    | cons c w =>
      have hlt : start < start + String.utf8Len (c :: w) :=
        Nat.lt_add_of_pos_right (utf8Len_pos (List.cons_ne_nil c w))
      by_cases hd : d.isUpper = true
      · -- a capital: the word that has been read ends, and `d` is what is read of the next one
        have hwords : words (c :: (w ++ d :: cs)) = (c :: w) :: words (d :: cs) :=
          words_append hw (by rintro e ⟨⟩; exact hd)
        have hd' : String.utf8Len [d] = d.utf8Size := by simp
        rw [spans, if_pos ⟨hlt, hd⟩, List.cons_append, hwords, offsets, ← hd', ih (by nofun)]
        rfl
      · have hw' : ∀ e ∈ (c :: (w ++ [d])).tail, e.isUpper = false := by
          intro e he
          rcases List.mem_append.mp he with he | he
          · exact hw e he
          · rw [List.mem_singleton.mp he]
            exact Bool.eq_false_iff.mpr hd
        rw [spans, if_neg (fun h => hd h.2), hnext, List.cons_append, ih hw' start]
        simp

/-- Texts are found between their offsets. -/
theorem slice?_of_offsets (before : List Char) (ws : List (List Char)) :
    (offsets (String.utf8Len before) ws).mapM (slice? (String.ofList (before ++ ws.flatten))) =
      some (ws.map String.ofList) := by
  induction ws generalizing before with
  | nil => rfl
  | cons w ws ih =>
    have hstart : (String.Pos.Raw.mk (String.utf8Len before)).IsValid
        (String.ofList (before ++ (w ++ ws.flatten))) := by
      refine String.Pos.Raw.isValid_ofList.mpr ⟨before.length, ?_⟩
      rw [List.take_left, String.utf8ByteSize_ofList]
    have hstop : (String.Pos.Raw.mk (String.utf8Len before + String.utf8Len w)).IsValid
        (String.ofList (before ++ (w ++ ws.flatten))) := by
      refine String.Pos.Raw.isValid_ofList.mpr ⟨(before ++ w).length, ?_⟩
      rw [← List.append_assoc, List.take_left, String.utf8ByteSize_ofList, String.utf8Len_append]
    have hslice : slice? (String.ofList (before ++ (w ++ ws.flatten)))
        (String.utf8Len before, String.utf8Len before + String.utf8Len w) =
          some (String.ofList w) := by
      rw [slice?, if_pos ⟨hstart, hstop, Nat.le_add_right _ _⟩, ← List.append_assoc,
        String.extract_of_valid]
    -- for the words behind it, this word is part of what comes before
    have hrest := ih (before ++ w)
    rw [String.utf8Len_append, List.append_assoc] at hrest
    rw [offsets, List.flatten_cons, List.mapM_cons, hslice, hrest]
    rfl

/-- **There is one way to split a name.** Going through the bytes of a text never cuts a character,
and what is cut out are the words of the text. They are its only split: together they are the text,
none is empty, and the capitals are where words start, except for the start of the text, which may
be no capital. So texts that each are one word are found again in what they are together. -/
theorem splits_uniquely (text : String) :
    (spans 0 0 text.toList).mapM (slice? text) = some ((words text.toList).map String.ofList) ∧
      (∀ ws, Splits text.toList ws ↔ ws = words text.toList) ∧
      ∀ ws : List (List Char), (∀ w ∈ ws, isWord w = true) → words ws.flatten = ws := by
  refine ⟨?_, fun _ => splits_iff, fun _ => words_flatten⟩
  have hspans := spans_eq (w := []) (by nofun) 0 text.toList
  have hslices := slice?_of_offsets [] (words text.toList)
  rw [flatten_words, List.nil_append, String.ofList_toList] at hslices
  rw [String.utf8Len_nil] at hspans hslices
  rw [hspans]
  exact hslices

/-- A capital with an accent starts no word, and takes two bytes. -/
theorem splits_uniquely_accented :
    let ws := ["Name".toList, "IsÉcole".toList, "Not".toList]
    (∀ w ∈ ws, isWord w = true) ∧ words "NameIsÉcoleNot".toList = ws ∧
      (spans 0 0 "NameIsÉcoleNot".toList).mapM (slice? "NameIsÉcoleNot") =
        some ["Name", "IsÉcole", "Not"] := by
  obtain ⟨hslices, -, hwords⟩ := splits_uniquely "NameIsÉcoleNot"
  have hws : ∀ w ∈ ["Name".toList, "IsÉcole".toList, "Not".toList], isWord w = true := by decide
  have hsplit := hwords _ hws
  refine ⟨hws, hsplit, ?_⟩
  rw [hslices]
  exact congrArg (fun ws => some (ws.map String.ofList)) hsplit

end TableGateway.CamelCase

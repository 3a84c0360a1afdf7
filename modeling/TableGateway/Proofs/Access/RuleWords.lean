import TableGateway.Access.Rule
import TableGateway.Proofs.Text.Cutting

/-!
# The words of a rule

A rule is read word by word, and only when all of its words are known it is judged what they stand
for together. `PermissionSet.Grants` says what the texts between the commas of a rule grant, without
words: all of them are `ALL`, or all are `NONE`, or all are names of permissions.

* `RuleWord.read_eq_ok_iff`: a text is read as the word that it is.
* `PermissionSet.ofRuleWords_eq_ok_iff`: words stand together for what their texts grant.
-/

namespace TableGateway

/-! ## Words -/

/-- Each member of the list is read, and nothing else. -/
theorem mapM_eq_ok_iff {ε α β : Type} {f : α → Except ε β} {as : List α} {bs : List β} :
    as.mapM f = .ok bs ↔ List.Forall₂ (fun a b => f a = .ok b) as bs := by
  induction as generalizing bs with
  | nil =>
    constructor
    · rintro ⟨⟩
      exact .nil
    · rintro ⟨⟩
      rfl
  | cons a as ih =>
    rw [List.mapM_cons]
    constructor
    · intro h
      obtain ⟨b, hb, h⟩ := exists_of_bind_eq_ok h
      obtain ⟨bs', hbs, h⟩ := exists_of_bind_eq_ok h
      cases h
      exact .cons hb (ih.mp hbs)
    · rintro (_ | ⟨hb, hbs⟩)
      rw [hb, ih.mpr hbs]
      rfl

namespace RuleWord

/-- How a word of a rule is written. -/
def name : RuleWord → String
  | all => "ALL"
  | none => "NONE"
  | permission p => p.name

/-- All words. -/
def words : List RuleWord := all :: none :: Permission.all.map permission

theorem mem_words (w : RuleWord) : w ∈ words := by
  cases w with
  | all => decide
  | none => decide
  | permission p => simp [words, Permission.mem_all]

variable {text : String} {w v : RuleWord}

/-- A text is one word at most. -/
theorem eq_of_sameWord (h : Text.sameWord text w.name = true)
    (h' : Text.sameWord text v.name = true) : w = v := by
  have hdistinct : ∀ w ∈ words, ∀ v ∈ words,
      Text.lowerAscii w.name = Text.lowerAscii v.name → w = v := by decide +kernel
  have hlower : Text.lowerAscii w.name = Text.lowerAscii v.name :=
    (beq_iff_eq.mp h).symm.trans (beq_iff_eq.mp h')
  exact hdistinct w w.mem_words v v.mem_words hlower

end RuleWord

theorem Permission.ofName?_eq_some_iff {text : String} {p : Permission} :
    ofName? text = some p ↔ Text.sameWord text p.name = true := by
  have hname : ∀ q, ofName? text = some q → Text.sameWord text q.name = true := by
    intro q hq
    rw [ofName?] at hq
    have hsame := List.find?_some hq
    rw [Text.sameWord_comm]
    exact hsame
  constructor
  · exact hname p
  · intro h
    have hfound : (ofName? text).isSome = true := by
      rw [ofName?, List.find?_isSome]
      exact ⟨p, p.mem_all, by rw [Text.sameWord_comm, h]⟩
    obtain ⟨q, hq⟩ := Option.isSome_iff_exists.mp hfound
    have hword : RuleWord.permission q = .permission p := RuleWord.eq_of_sameWord (hname q hq) h
    rw [hq, RuleWord.permission.inj hword]

/-- A text is read as the word that it is. -/
theorem RuleWord.read_eq_ok_iff {rule text : String} {w : RuleWord} :
    read rule text = .ok w ↔ Text.sameWord text w.name = true := by
  constructor
  · intro h
    unfold read at h
    split at h
    · rename_i hall
      cases h
      exact hall
    split at h
    · rename_i hnone
      cases h
      exact hnone
    split at h
    · cases h
    split at h
    · rename_i hname
      cases h
      exact Permission.ofName?_eq_some_iff.mp hname
    · cases h
  · intro h
    have hall : w ≠ .all → ¬ Text.sameWord text "ALL" = true :=
      fun hne hall => hne (eq_of_sameWord h hall)
    have hnone : w ≠ .none → ¬ Text.sameWord text "NONE" = true :=
      fun hne hnone => hne (eq_of_sameWord h hnone)
    have hempty : text ≠ "" := by
      have hnot : ∀ w ∈ words, ¬ Text.sameWord "" w.name = true := by decide +kernel
      rintro rfl
      exact hnot w w.mem_words h
    cases w with
    | all => exact if_pos h
    | none => exact (if_neg (hall nofun)).trans (if_pos h)
    | permission p =>
      rw [read, if_neg (hall nofun), if_neg (hnone nofun), if_neg hempty,
        Permission.ofName?_eq_some_iff.mpr h]

/-! ## Sets -/

namespace PermissionSet

/-- The texts between the commas of a rule grant the set: all of them are `ALL`, or all are `NONE`,
or all name permissions. -/
inductive Grants (texts : List String) : PermissionSet → Prop where
  /-- all permissions are granted -/
  | all (h : ∀ t ∈ texts, Text.sameWord t "ALL" = true) : Grants texts full
  /-- no permission is granted -/
  | none (h : ∀ t ∈ texts, Text.sameWord t "NONE" = true) : Grants texts none
  /-- just the permissions that are named are granted -/
  | named {set : PermissionSet} (h : ∀ t ∈ texts, ∃ p : Permission, Text.sameWord t p.name = true)
    (hset : ∀ p : Permission,
      set.contains p = true ↔ ∃ t ∈ texts, Text.sameWord t p.name = true) : Grants texts set

section

variable {words : List RuleWord} {set : PermissionSet}

theorem mem_named_iff {p : Permission} :
    p ∈ words.filterMap RuleWord.permission? ↔ .permission p ∈ words := by
  rw [List.mem_filterMap]
  constructor
  · rintro ⟨w, hw, hp⟩
    cases w with
    | all => cases hp
    | none => cases hp
    | permission q =>
      cases hp
      exact hw
  · intro h
    exact ⟨_, h, rfl⟩

theorem named_eq_nil_iff :
    words.filterMap RuleWord.permission? = [] ↔ ∀ p, .permission p ∉ words := by
  rw [List.eq_nil_iff_forall_not_mem]
  exact forall_congr' fun p => not_congr mem_named_iff

/-- Words that stand for a set are all of one kind. -/
theorem uniform_of_ofRuleWords {rule : String} (h : ofRuleWords rule words = .ok set) :
    (∀ w ∈ words, w = .all) ∨ (∀ w ∈ words, w = .none) ∨ ∀ w ∈ words, ∃ p, w = .permission p := by
  simp only [ofRuleWords, List.contains_iff_mem, Bool.or_eq_true, Bool.and_eq_true,
    Bool.not_eq_true', List.isEmpty_eq_false_iff] at h
  split at h
  · split at h
    · cases h
    · rename_i halone
      obtain ⟨hnone, hnamed⟩ := not_or.mp halone
      rw [ne_eq, Decidable.not_not, named_eq_nil_iff] at hnamed
      refine .inl fun w hw => ?_
      cases w with
      | all => rfl
      | none => exact absurd hw hnone
      | permission p => exact absurd hw (hnamed p)
  · rename_i hall
    split at h
    · cases h
    · rename_i halone
      by_cases hnone : .none ∈ words
      · have hnamed : ∀ p, .permission p ∉ words := by
          rw [← named_eq_nil_iff]
          exact Decidable.not_not.mp fun hnamed => halone ⟨hnone, hnamed⟩
        refine .inr (.inl fun w hw => ?_)
        cases w with
        | all => exact absurd hw hall
        | none => rfl
        | permission p => exact absurd hw (hnamed p)
      · refine .inr (.inr fun w hw => ?_)
        cases w with
        | all => exact absurd hw hall
        | none => exact absurd hw hnone
        | permission p => exact ⟨p, rfl⟩

theorem ofRuleWords_of_all (hne : words ≠ []) (h : ∀ w ∈ words, w = .all) (rule : String) :
    ofRuleWords rule words = .ok full := by
  have hall : .all ∈ words := by
    obtain ⟨w, ws, rfl⟩ := List.exists_cons_of_ne_nil hne
    rw [← h w List.mem_cons_self]
    exact List.mem_cons_self
  have hnone : .none ∉ words := fun hw => nomatch h _ hw
  have hnamed : words.filterMap RuleWord.permission? = [] :=
    named_eq_nil_iff.mpr fun p hp => nomatch h _ hp
  simp [ofRuleWords, hall, hnone, hnamed]

theorem ofRuleWords_of_none (h : ∀ w ∈ words, w = .none) (rule : String) :
    ofRuleWords rule words = .ok none := by
  have hall : .all ∉ words := fun hw => nomatch h _ hw
  have hnamed : words.filterMap RuleWord.permission? = [] :=
    named_eq_nil_iff.mpr fun p hp => nomatch h _ hp
  have hempty : ofList [] = none := rfl
  simp [ofRuleWords, hall, hnamed, hempty]

theorem ofRuleWords_of_named (h : ∀ w ∈ words, ∃ p, w = .permission p) (rule : String) :
    ofRuleWords rule words = .ok (ofList (words.filterMap RuleWord.permission?)) := by
  have hall : .all ∉ words := fun hw => nomatch h _ hw
  have hnone : .none ∉ words := fun hw => nomatch h _ hw
  simp [ofRuleWords, hall, hnone]

end

section

variable {texts : List String} {words : List RuleWord}
  (h : List.Forall₂ (fun t w => Text.sameWord t (RuleWord.name w) = true) texts words)

include h

theorem mem_words_iff {w : RuleWord} :
    w ∈ words ↔ ∃ t ∈ texts, Text.sameWord t w.name = true := by
  induction h with
  | nil => simp
  | @cons t v texts words hv _ ih =>
    have hhead : w = v ↔ Text.sameWord t w.name = true := by
      constructor
      · rintro rfl
        exact hv
      · intro hw
        exact RuleWord.eq_of_sameWord hw hv
    rw [List.mem_cons, ih, hhead]
    simp

theorem forall_words_iff {P : RuleWord → Prop} :
    (∀ w ∈ words, P w) ↔ ∀ t ∈ texts, ∃ w, P w ∧ Text.sameWord t w.name = true := by
  induction h with
  | nil => simp
  | @cons t v texts words hv _ ih =>
    have hhead : P v ↔ ∃ w, P w ∧ Text.sameWord t w.name = true := by
      constructor
      · intro hP
        exact ⟨v, hP, hv⟩
      · rintro ⟨w, hP, hw⟩
        rwa [RuleWord.eq_of_sameWord hv hw]
    rw [List.forall_mem_cons, List.forall_mem_cons, ih, hhead]

/-- Words stand together for the set that their texts grant, if for any. -/
theorem ofRuleWords_eq_ok_iff (hne : texts ≠ []) (rule : String) {set : PermissionSet} :
    ofRuleWords rule words = .ok set ↔ Grants texts set := by
  have hwords : words ≠ [] := by
    rintro rfl
    cases h
    exact hne rfl
  have hall : (∀ w ∈ words, w = .all) ↔ ∀ t ∈ texts, Text.sameWord t "ALL" = true := by
    rw [forall_words_iff h]
    simp [RuleWord.name]
  have hnone : (∀ w ∈ words, w = .none) ↔ ∀ t ∈ texts, Text.sameWord t "NONE" = true := by
    rw [forall_words_iff h]
    simp [RuleWord.name]
  have hnamed : (∀ w ∈ words, ∃ p, w = .permission p) ↔
      ∀ t ∈ texts, ∃ p : Permission, Text.sameWord t p.name = true := by
    rw [forall_words_iff h]
    refine forall_congr' fun t => imp_congr_right fun _ => ?_
    constructor
    · rintro ⟨_, ⟨p, rfl⟩, hp⟩
      exact ⟨p, hp⟩
    · rintro ⟨p, hp⟩
      exact ⟨.permission p, ⟨p, rfl⟩, hp⟩
  have hmembers : ∀ p, (ofList (words.filterMap RuleWord.permission?)).contains p = true ↔
      ∃ t ∈ texts, Text.sameWord t p.name = true := by
    intro p
    rw [contains_ofList, List.contains_iff_mem, mem_named_iff, mem_words_iff h]
    rfl
  constructor
  · intro hok
    rcases uniform_of_ofRuleWords hok with hkind | hkind | hkind
    · rw [ofRuleWords_of_all hwords hkind] at hok
      cases hok
      exact .all (hall.mp hkind)
    · rw [ofRuleWords_of_none hkind] at hok
      cases hok
      exact .none (hnone.mp hkind)
    · rw [ofRuleWords_of_named hkind] at hok
      cases hok
      exact .named (hnamed.mp hkind) hmembers
  · intro hgrants
    cases hgrants with
    | all hkind => exact ofRuleWords_of_all hwords (hall.mpr hkind) rule
    | none hkind => exact ofRuleWords_of_none (hnone.mpr hkind) rule
    | named hkind hset =>
      rw [ofRuleWords_of_named (hnamed.mpr hkind)]
      congr 1
      ext p
      rw [Bool.eq_iff_iff, hmembers, hset]

end

end PermissionSet

end TableGateway

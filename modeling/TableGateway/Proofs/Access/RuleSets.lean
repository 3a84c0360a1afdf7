import TableGateway.Proofs.Access.RuleWords

/-!
# Rules are sets

A rule is a list of words, and it stands for a set of permissions. Which set that is, and whether it
is any, does not depend on how the rule is written: not on the order of its words, their letter
case, the blanks around them or how often they stand there.

* `PermissionSet.Names` says which permissions a rule names, be it by `ALL`.
* `PermissionSet.parse_eq_ok_iff`: a rule that is not blank grants what its texts grant.
* `PermissionSet.rules_as_sets` is the main result.
-/

namespace TableGateway

namespace PermissionSet

/-- The rule names the permission, by its name or by `ALL`. -/
def Names (rule : String) (p : Permission) : Prop :=
  ∃ texts, Text.BetweenCommas rule texts ∧
    ∃ t ∈ texts, Text.sameWord t "ALL" = true ∨ Text.sameWord t p.name = true

/-! ## Rules -/

variable {rule rule' : String} {texts texts' : List String} {set set' : PermissionSet}

/-- The texts that are read are those between the commas. -/
theorem betweenCommas_ruleTexts (rule : String) : Text.BetweenCommas rule (ruleTexts rule) :=
  Text.betweenCommas_iff.mpr rfl

theorem ruleTexts_ne_nil (rule : String) : ruleTexts rule ≠ [] := by
  rw [ruleTexts, ne_eq, List.map_eq_nil_iff]
  exact List.splitOn_ne_nil ',' rule.toList

/-- Texts that grant a set are words. -/
theorem Grants.exists_word (h : Grants texts set) :
    ∀ t ∈ texts, ∃ w : RuleWord, Text.sameWord t w.name = true := by
  intro t ht
  cases h with
  | all hkind => exact ⟨.all, hkind t ht⟩
  | none hkind => exact ⟨.none, hkind t ht⟩
  | named hkind hset =>
    obtain ⟨p, hp⟩ := hkind t ht
    exact ⟨.permission p, hp⟩

theorem exists_words (h : ∀ t ∈ texts, ∃ w : RuleWord, Text.sameWord t w.name = true) :
    ∃ words, List.Forall₂ (fun t w => Text.sameWord t (RuleWord.name w) = true) texts words := by
  induction texts with
  | nil => exact ⟨[], .nil⟩
  | cons t texts ih =>
    obtain ⟨⟨w, hw⟩, hrest⟩ := List.forall_mem_cons.mp h
    obtain ⟨words, hwords⟩ := ih hrest
    exact ⟨w :: words, .cons hw hwords⟩

/-- A blank rule grants nothing. -/
theorem parse_of_blank (hblank : Text.isBlankText rule = true) : parse rule = .ok none := by
  rw [parse, readRule, if_pos hblank]
  rfl

/-- Any other rule grants what its texts grant. -/
theorem parse_eq_ok_iff (hblank : Text.isBlankText rule = false)
    (htexts : Text.BetweenCommas rule texts) : parse rule = .ok set ↔ Grants texts set := by
  obtain rfl : texts = ruleTexts rule := Text.betweenCommas_iff.mp htexts
  have hne := ruleTexts_ne_nil rule
  rw [parse, mapError_eq_ok_iff, readRule, if_neg (Bool.eq_false_iff.mp hblank)]
  constructor
  · intro h
    obtain ⟨words, hwords, h⟩ := exists_of_bind_eq_ok h
    have hread := (mapM_eq_ok_iff.mp hwords).imp fun t w => RuleWord.read_eq_ok_iff.mp
    exact (ofRuleWords_eq_ok_iff hread hne rule).mp h
  · intro h
    obtain ⟨words, hread⟩ := exists_words h.exists_word
    have hwords : (ruleTexts rule).mapM (RuleWord.read rule) = .ok words :=
      mapM_eq_ok_iff.mpr (hread.imp fun t w => RuleWord.read_eq_ok_iff.mpr)
    rw [hwords]
    exact (ofRuleWords_eq_ok_iff hread hne rule).mpr h

/-- A rule that grants no set is an invalid configuration. -/
theorem invalidConfiguration_of_parse {error : Error} (h : parse rule = .error error) :
    ∃ reason, error = .invalidConfiguration reason := by
  rw [parse] at h
  cases hread : readRule rule with
  | ok set => rw [hread] at h; cases h
  | error reason =>
    rw [hread] at h
    cases h
    exact ⟨reason, rfl⟩

/-- The members of the set that texts grant are named by them. -/
theorem Grants.contains_iff (hne : texts ≠ []) (h : Grants texts set) (p : Permission) :
    set.contains p = true ↔
      ∃ t ∈ texts, Text.sameWord t "ALL" = true ∨ Text.sameWord t p.name = true := by
  cases h with
  | all hkind =>
    obtain ⟨t, ts, rfl⟩ := List.exists_cons_of_ne_nil hne
    exact iff_of_true (contains_full p)
      ⟨t, List.mem_cons_self, .inl (hkind t List.mem_cons_self)⟩
  | none hkind =>
    rw [contains_none]
    refine iff_of_false nofun ?_
    rintro ⟨t, ht, hall | hp⟩
    · exact nomatch RuleWord.eq_of_sameWord (w := .none) (v := .all) (hkind t ht) hall
    · exact nomatch RuleWord.eq_of_sameWord (w := .none) (v := .permission p) (hkind t ht) hp
  | named hkind hset =>
    rw [hset]
    constructor
    · rintro ⟨t, ht, hp⟩
      exact ⟨t, ht, .inr hp⟩
    · rintro ⟨t, ht, hall | hp⟩
      · obtain ⟨q, hq⟩ := hkind t ht
        exact nomatch RuleWord.eq_of_sameWord (w := .permission q) (v := .all) hq hall
      · exact ⟨t, ht, hp⟩

/-- In a blank rule there is no word. -/
theorem not_names_of_blank (hblank : Text.isBlankText rule = true) (p : Permission) :
    ¬ Names rule p := by
  have hempty : ∀ w ∈ RuleWord.words, ¬ Text.sameWord "" w.name = true := by decide +kernel
  rintro ⟨texts, htexts, t, ht, hword⟩
  rw [htexts.eq_of_blank hblank] at ht
  obtain rfl := List.mem_singleton.mp ht
  rcases hword with hall | hp
  · exact hempty .all (RuleWord.mem_words _) hall
  · exact hempty (.permission p) (RuleWord.mem_words _) hp

/-- The members of the set that a rule grants are the permissions that it names. -/
theorem contains_of_parse (h : parse rule = .ok set) (p : Permission) :
    set.contains p = true ↔ Names rule p := by
  cases hblank : Text.isBlankText rule with
  | true =>
    rw [parse_of_blank hblank] at h
    cases h
    rw [contains_none]
    exact iff_of_false nofun (not_names_of_blank hblank p)
  | false =>
    have hgrants := (parse_eq_ok_iff hblank (betweenCommas_ruleTexts rule)).mp h
    rw [hgrants.contains_iff (ruleTexts_ne_nil rule) p]
    constructor
    · intro hnamed
      exact ⟨_, betweenCommas_ruleTexts rule, hnamed⟩
    · rintro ⟨texts, htexts, hnamed⟩
      rwa [Text.betweenCommas_iff.mp htexts] at hnamed

/-- Sets are granted alike just if the same permissions are named. -/
theorem eq_iff_of_parse (h : parse rule = .ok set) (h' : parse rule' = .ok set') :
    set = set' ↔ ∀ p, Names rule p ↔ Names rule' p := by
  constructor
  · rintro rfl p
    exact (contains_of_parse h p).symm.trans (contains_of_parse h' p)
  · intro hnames
    ext p
    rw [Bool.eq_iff_iff, contains_of_parse h, contains_of_parse h']
    exact hnames p

/-! ## Spellings -/

theorem betweenCommas_names {ps : List Permission} (hne : ps ≠ []) :
    Text.BetweenCommas (", ".intercalate (ps.map Permission.name)) (ps.map Permission.name) := by
  have hall : ∀ p : Permission,
      (p.name.toList.all fun c => c != ',' && !Text.isBlank c) = true := by
    intro p
    cases p <;> decide
  have hplain : ∀ (p : Permission) (c : Char), c ∈ p.name.toList →
      c ≠ ',' ∧ Text.isBlank c = false := by
    intro p c hc
    simpa using List.all_eq_true.mp (hall p) c hc
  refine Text.betweenCommas_intercalate (mt List.map_eq_nil_iff.mp hne) ?_ ?_
  · intro t ht hcomma
    obtain ⟨p, -, rfl⟩ := List.mem_map.mp ht
    exact (hplain p ',' hcomma).1 rfl
  · intro t ht c hc
    obtain ⟨p, -, rfl⟩ := List.mem_map.mp ht
    exact (hplain p c hc).2

/-- Names of permissions grant these. -/
theorem grants_names (ps : List Permission) : Grants (ps.map Permission.name) (ofList ps) := by
  refine .named (fun t ht => ?_) fun p => ?_
  · obtain ⟨p, -, rfl⟩ := List.mem_map.mp ht
    exact ⟨p, Text.sameWord_self p.name⟩
  · rw [contains_ofList, List.contains_iff_mem]
    constructor
    · intro hp
      exact ⟨p.name, List.mem_map_of_mem hp, Text.sameWord_self p.name⟩
    · rintro ⟨t, ht, hp⟩
      obtain ⟨q, hq, rfl⟩ := List.mem_map.mp ht
      have hword : RuleWord.permission q = .permission p :=
        RuleWord.eq_of_sameWord (Text.sameWord_self q.name) hp
      rwa [← RuleWord.permission.inj hword]

/-- Permissions that are listed by their names are granted. -/
theorem parse_names {ps : List Permission} (hne : ps ≠ []) :
    parse (", ".intercalate (ps.map Permission.name)) = .ok (ofList ps) := by
  have htexts := betweenCommas_names hne
  have hblank : Text.isBlankText (", ".intercalate (ps.map Permission.name)) = false := by
    have hsome : ∀ p : Permission, p.name ≠ "" := by
      intro p
      cases p <;> decide
    refine Bool.eq_false_iff.mpr fun hblank => ?_
    have hempty := htexts.eq_of_blank hblank
    obtain ⟨p, -, hp⟩ := List.mem_map.mp (hempty ▸ List.mem_singleton_self "")
    exact hsome p hp
  exact (parse_eq_ok_iff hblank htexts).mpr (grants_names ps)

/-- The text of a set is a rule that grants it. -/
theorem parse_text (set : PermissionSet) : parse set.text = .ok set := by
  rw [text]
  by_cases hfull : set = full
  · rw [if_pos hfull, hfull]
    exact eq_ok_of_toOption (by decide +kernel)
  by_cases hnone : set = none
  · rw [if_neg hfull, if_pos hnone, hnone]
    exact eq_ok_of_toOption (by decide +kernel)
  have hne : set.toList ≠ [] := by
    intro hnil
    refine hnone ?_
    rw [← ofList_toList set, hnil]
    rfl
  rw [if_neg hfull, if_neg hnone, parse_names hne, ofList_toList]

/-- The texts are the same up to their letter case, their order and how often they occur. -/
def SameTexts (texts texts' : List String) : Prop :=
  (∀ t ∈ texts, ∃ t' ∈ texts', Text.sameWord t t' = true) ∧
    ∀ t' ∈ texts', ∃ t ∈ texts, Text.sameWord t' t = true

theorem SameTexts.symm (h : SameTexts texts texts') : SameTexts texts' texts := And.symm h

/-- Texts grant what the same texts in other words grant. -/
theorem Grants.congr (hsame : SameTexts texts texts') (h : Grants texts set) :
    Grants texts' set := by
  have hword : ∀ {t t' : String}, Text.sameWord t t' = true →
      ∀ s, Text.sameWord t s = true ↔ Text.sameWord t' s = true := by
    intro t t' ht s
    rw [Text.sameWord, Text.sameWord, beq_iff_eq.mp ht]
  obtain ⟨hto, hfrom⟩ := hsame
  cases h with
  | all hkind =>
    refine .all fun t' ht' => ?_
    obtain ⟨t, ht, hsame⟩ := hfrom t' ht'
    exact (hword hsame _).mpr (hkind t ht)
  | none hkind =>
    refine .none fun t' ht' => ?_
    obtain ⟨t, ht, hsame⟩ := hfrom t' ht'
    exact (hword hsame _).mpr (hkind t ht)
  | named hkind hset =>
    refine .named (fun t' ht' => ?_) fun p => (hset p).trans ⟨?_, ?_⟩
    · obtain ⟨t, ht, hsame⟩ := hfrom t' ht'
      obtain ⟨p, hp⟩ := hkind t ht
      exact ⟨p, (hword hsame _).mpr hp⟩
    · rintro ⟨t, ht, hp⟩
      obtain ⟨t', ht', hsame⟩ := hto t ht
      exact ⟨t', ht', (hword hsame _).mp hp⟩
    · rintro ⟨t', ht', hp⟩
      obtain ⟨t, ht, hsame⟩ := hfrom t' ht'
      exact ⟨t, ht, (hword hsame _).mp hp⟩

/-- Rules in other words are read alike. -/
theorem parse_congr (hblank : Text.isBlankText rule = false)
    (hblank' : Text.isBlankText rule' = false) (htexts : Text.BetweenCommas rule texts)
    (htexts' : Text.BetweenCommas rule' texts') (hsame : SameTexts texts texts') :
    parse rule = .ok set ↔ parse rule' = .ok set := by
  rw [parse_eq_ok_iff hblank htexts, parse_eq_ok_iff hblank' htexts']
  exact ⟨fun h => h.congr hsame, fun h => h.congr hsame.symm⟩

/-- **Rules are sets.** There is one list of texts between the commas of a rule.

* A blank rule grants nothing. Any other grants what its texts grant; if they grant nothing that
  makes sense, it is an invalid configuration.
* Two rules that are read grant the same set just if they name the same permissions, and are equal
  just if they do so on the same scope.
* A rule in other words, the same ones in another letter case, in another order, more or less often
  or with other blanks around them, is read alike.
* The text of each set is a rule that grants it. -/
theorem rules_as_sets :
    (∀ rule, ∃! texts, Text.BetweenCommas rule texts) ∧
      (∀ rule, Text.isBlankText rule = true → parse rule = .ok none) ∧
      (∀ rule texts, Text.isBlankText rule = false → Text.BetweenCommas rule texts →
        (∀ set, parse rule = .ok set ↔ Grants texts set) ∧
          ((∀ set, ¬ Grants texts set) →
            ∃ reason, parse rule = .error (.invalidConfiguration reason))) ∧
      (∀ rule rule' set set', parse rule = .ok set → parse rule' = .ok set' →
        (set = set' ↔ ∀ p, Names rule p ↔ Names rule' p)) ∧
      (∀ scope scope' rule rule' r r', Rule.parse scope rule = .ok r →
        Rule.parse scope' rule' = .ok r' →
        (r = r' ↔ scope = scope' ∧ ∀ p, Names rule p ↔ Names rule' p)) ∧
      (∀ rule rule' texts texts', Text.isBlankText rule = false → Text.isBlankText rule' = false →
        Text.BetweenCommas rule texts → Text.BetweenCommas rule' texts' →
        SameTexts texts texts' → ∀ scope r, Rule.parse scope rule = .ok r ↔
          Rule.parse scope rule' = .ok r) ∧
      ∀ set : PermissionSet, parse set.text = .ok set := by
  refine ⟨fun rule => ?_, fun rule => parse_of_blank, fun rule texts hblank htexts => ⟨?_, ?_⟩,
    fun rule rule' set set' => eq_iff_of_parse, ?_, ?_, parse_text⟩
  · exact ⟨_, betweenCommas_ruleTexts rule, fun texts => Text.betweenCommas_iff.mp⟩
  · exact fun set => parse_eq_ok_iff hblank htexts
  · intro hnot
    cases hparse : parse rule with
    | ok set => exact absurd ((parse_eq_ok_iff hblank htexts).mp hparse) (hnot set)
    | error error =>
      obtain ⟨reason, rfl⟩ := invalidConfiguration_of_parse hparse
      exact ⟨reason, rfl⟩
  · intro scope scope' rule rule' r r' hr hr'
    obtain ⟨rfl, hset⟩ := Rule.parse_eq_ok_iff.mp hr
    obtain ⟨rfl, hset'⟩ := Rule.parse_eq_ok_iff.mp hr'
    rw [← eq_iff_of_parse hset hset', ← Rule.mk.injEq]
  · intro rule rule' texts texts' hblank hblank' htexts htexts' hsame scope r
    rw [Rule.parse_eq_ok_iff, Rule.parse_eq_ok_iff,
      parse_congr hblank hblank' htexts htexts' hsame]

end PermissionSet

end TableGateway

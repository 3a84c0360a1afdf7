import TableGateway.Gateway

/-!
# The access table of a configuration

An accepted configuration makes an access table and a gateway, and what the table grants on a scope
can be read off the configuration: `AliasConfiguration.statedPermissions` is what it says in so many
words about an alias and a resource, and `AccessTable.effective_ofConfiguration` that this holds.

No scope has two written rules, since aliases and resources are keys of maps. So it does not matter
in which order rules are added to the table.
-/

namespace TableGateway

/-! ## What a configuration says -/

namespace AliasConfiguration

/-- The rule that decides what can be done with a resource, or with the alias as a whole: the one
for the resource if there is one, else the one for the alias. -/
def statedRule (a : AliasConfiguration) (resource : Option String) : Option String :=
  (resource.bind a.resources.find?).or a.rule

/-- The permissions that this rule grants, none if there is no rule. -/
def statedGrant (a : AliasConfiguration) (resource : Option String) : Except Error PermissionSet :=
  match a.statedRule resource with
  | some rule => PermissionSet.parse rule
  | none => .ok .none

/-- The permissions that hold: those granted, but on a read-only alias without those to insert, to
update and to delete. -/
def statedPermissions (a : AliasConfiguration) (resource : Option String) :
    Except Error PermissionSet :=
  (a.statedGrant resource).map fun s =>
    if a.readOnly then ((s.remove .insert).remove .update).remove .delete else s

/-! ## Written rules -/

/-- The rule that is written for a resource, or for the alias as a whole. -/
def ruleFor? (a : AliasConfiguration) : Option String → Option String
  | some resource => a.resources.find? resource
  | none => a.rule

theorem mem_writtenRules_iff {a : AliasConfiguration} {name text : String} {scope : Scope} :
    (scope, text) ∈ a.writtenRules name ↔
      scope.aliasName = name ∧ a.ruleFor? scope.resource = some text := by
  obtain ⟨n, resource⟩ := scope
  rw [writtenRules, List.mem_append, List.mem_map, List.mem_map]
  cases resource with
  | none =>
    constructor
    · rintro (⟨rule, hrule, heq⟩ | ⟨e, -, heq⟩)
      · cases heq
        exact ⟨rfl, Option.mem_toList.mp hrule⟩
      · cases heq
    · rintro ⟨rfl, hrule⟩
      exact .inl ⟨text, Option.mem_toList.mpr hrule, rfl⟩
  | some r =>
    constructor
    · rintro (⟨rule, -, heq⟩ | ⟨e, he, heq⟩)
      · cases heq
      · cases heq
        exact ⟨rfl, SortedMap.mem_entries_iff.mp he⟩
    · rintro ⟨rfl, hrule⟩
      exact .inr ⟨(r, text), SortedMap.mem_entries_iff.mpr hrule, rfl⟩

/-- No scope of an alias has two written rules. -/
theorem nodup_writtenRules (a : AliasConfiguration) (name : String) :
    ((a.writtenRules name).map Prod.fst).Nodup := by
  have hresources : (a.resources.entries.map fun e => (⟨name, some e.1⟩ : Scope)).Nodup := by
    refine List.pairwise_map.mpr ((List.pairwise_map.mp a.resources.nodup_keys).imp ?_)
    intro e f hne heq
    exact hne (Option.some.inj (Scope.mk.inj heq).2)
  rw [writtenRules, List.map_append, List.map_map, List.map_map]
  cases a.rule with
  | none => exact hresources
  | some rule =>
    refine List.nodup_cons.mpr ⟨?_, hresources⟩
    intro hmem
    obtain ⟨e, -, he⟩ := List.mem_map.mp hmem
    cases he

end AliasConfiguration

/-! ## Accepted configurations -/

namespace Configuration

variable {c : Configuration}

/-- An accepted configuration makes sense. -/
theorem wellFormed_of_validate (hc : c.validate = .ok ()) : c.WellFormed :=
  defects_eq_nil_iff.mp (validate_eq_ok_iff.mp hc)

/-- An alias of an accepted configuration has no defects. -/
theorem defects_of_validate (hc : c.validate = .ok ()) {name : String} {a : AliasConfiguration}
    (ha : c.alias? name = some a) : a.defects = [] :=
  AliasConfiguration.defects_eq_nil_iff.mpr ((wellFormed_of_validate hc).aliases name a ha)

/-- The driver of every alias of an accepted configuration is known. -/
theorem dialect_of_validate (hc : c.validate = .ok ()) {name : String} {a : AliasConfiguration}
    (ha : c.alias? name = some a) : ∃ d, a.dialect = .ok d := by
  have hdriver : ∃ d : Dialect, Dialect.normalTag a.driver ∈ d.tags :=
    ((wellFormed_of_validate hc).aliases name a ha).driver
  obtain ⟨d, hd⟩ := Dialect.exists_ofDriver_iff.mpr hdriver
  refine ⟨d, ?_⟩
  rw [AliasConfiguration.dialect, Dialect.parse, hd]
  rfl

/-- The rule that is written on a scope. -/
def ruleOn? (c : Configuration) (scope : Scope) : Option String :=
  (c.alias? scope.aliasName).bind (·.ruleFor? scope.resource)

theorem mem_writtenRules_iff {scope : Scope} {text : String} :
    (scope, text) ∈ c.writtenRules ↔ c.ruleOn? scope = some text := by
  rw [writtenRules, List.mem_flatMap, ruleOn?, Option.bind_eq_some_iff]
  constructor
  · rintro ⟨⟨name, a⟩, he, hwritten⟩
    obtain ⟨rfl, htext⟩ := AliasConfiguration.mem_writtenRules_iff.mp hwritten
    exact ⟨a, SortedMap.mem_entries_iff.mp he, htext⟩
  · rintro ⟨a, ha, htext⟩
    exact ⟨(scope.aliasName, a), SortedMap.mem_entries_iff.mpr ha,
      AliasConfiguration.mem_writtenRules_iff.mpr ⟨rfl, htext⟩⟩

/-- All rules of an accepted configuration can be read. -/
theorem parse_of_mem_writtenRules (hc : c.validate = .ok ()) {r : Scope × String}
    (hr : r ∈ c.writtenRules) : ∃ s, PermissionSet.parse r.2 = .ok s := by
  obtain ⟨scope, text⟩ := r
  obtain ⟨a, ha, htext⟩ := Option.bind_eq_some_iff.mp (mem_writtenRules_iff.mp hr)
  have hwellFormed := (wellFormed_of_validate hc).aliases scope.aliasName a ha
  obtain ⟨name, _ | resource⟩ := scope
  · exact hwellFormed.rule text htext
  · exact hwellFormed.resourceRule resource text htext

/-- No scope has two written rules. -/
theorem nodup_writtenRules (c : Configuration) : (c.writtenRules.map Prod.fst).Nodup := by
  rw [writtenRules, List.map_flatMap]
  refine List.pairwise_flatMap.mpr ⟨fun e _ => e.2.nodup_writtenRules e.1, ?_⟩
  refine (List.pairwise_map.mp c.aliases.nodup_keys).imp ?_
  intro e f hne s hs s' hs' heq
  obtain ⟨⟨scope, text⟩, hw, rfl⟩ := List.mem_map.mp hs
  obtain ⟨⟨scope', text'⟩, hw', rfl⟩ := List.mem_map.mp hs'
  -- the two scopes are of different aliases
  have hname := (AliasConfiguration.mem_writtenRules_iff.mp hw).1
  have hname' := (AliasConfiguration.mem_writtenRules_iff.mp hw').1
  exact hne (hname.symm.trans ((congrArg Scope.aliasName heq).trans hname'))

end Configuration

/-! ## The table -/

/-- The rules that are read of written ones, on the same scopes. -/
theorem exists_rules {ws : List (Scope × String)}
    (h : ∀ w ∈ ws, ∃ s, PermissionSet.parse w.2 = .ok s) :
    ∃ rs : List Rule, (ws.mapM fun w => Rule.parse w.1 w.2) = .ok rs ∧
      rs.map Rule.scope = ws.map Prod.fst ∧
      ∀ w ∈ ws, ∃ r ∈ rs, r.scope = w.1 ∧ PermissionSet.parse w.2 = .ok r.permissions := by
  induction ws with
  | nil => exact ⟨[], rfl, rfl, nofun⟩
  | cons w ws ih =>
    obtain ⟨s, hs⟩ := h w (List.mem_cons_self ..)
    obtain ⟨rs, hrs, hscopes, hread⟩ := ih fun w' hw' => h w' (List.mem_cons_of_mem _ hw')
    have hw : Rule.parse w.1 w.2 = .ok ⟨w.1, s⟩ := Rule.parse_eq_ok_iff.mpr ⟨rfl, hs⟩
    refine ⟨⟨w.1, s⟩ :: rs, ?_, ?_, ?_⟩
    · rw [List.mapM_cons, hw, hrs]
      rfl
    · rw [List.map_cons, List.map_cons, hscopes]
    · intro w' hw'
      rcases List.mem_cons.mp hw' with rfl | hw'
      · exact ⟨_, List.mem_cons_self .., rfl, hs⟩
      · obtain ⟨r, hr, hparts⟩ := hread w' hw'
        exact ⟨r, List.mem_cons_of_mem _ hr, hparts⟩

namespace AccessTable

theorem rules_foldl_addRule (rs : List Rule) (t : AccessTable) :
    (rs.foldl addRule t).rules = rs.foldl (fun m r => m.set r.scope r.permissions) t.rules := by
  induction rs generalizing t with
  | nil => rfl
  | cons r rs ih => rw [List.foldl_cons, List.foldl_cons, ih, addRule]

theorem foldl_setReadOnly (es : List (String × AliasConfiguration)) (t : AccessTable) :
    es.foldl (fun t e => t.setReadOnly e.1 e.2.readOnly) t =
      ⟨t.rules, es.foldl (fun m e => m.set e.1 e.2.readOnly) t.readOnly⟩ := by
  induction es generalizing t with
  | nil => rfl
  | cons e es ih => rw [List.foldl_cons, List.foldl_cons, ih, setReadOnly]

/-- An accepted configuration makes a table. The rule on each scope is the written one, and an alias
is read-only if that is said. -/
theorem exists_ofConfiguration {c : Configuration} (hc : c.validate = .ok ()) :
    ∃ t, AccessTable.ofConfiguration c = .ok t ∧
      (∀ scope, (c.ruleOn? scope).mapM PermissionSet.parse = .ok (t.rules.find? scope)) ∧
      ∀ name a, c.alias? name = some a → t.isReadOnly name = a.readOnly := by
  obtain ⟨rs, hrs, hscopes, hread⟩ := exists_rules fun w hw =>
    Configuration.parse_of_mem_writtenRules hc hw
  have hdistinct : (rs.map Rule.scope).Nodup := by
    rw [hscopes]
    exact Configuration.nodup_writtenRules c
  refine ⟨_, by rw [AccessTable.ofConfiguration, hrs]; rfl, ?_, ?_⟩
  · intro scope
    rw [foldl_setReadOnly, rules_foldl_addRule]
    cases hrule : c.ruleOn? scope with
    | none =>
      have hno : scope ∉ rs.map Rule.scope := by
        rw [hscopes]
        intro hmem
        obtain ⟨⟨_, text⟩, hw, rfl⟩ := List.mem_map.mp hmem
        rw [Configuration.mem_writtenRules_iff.mp hw] at hrule
        cases hrule
      rw [OrderedMap.find?_foldl_set_of_not_mem Rule.scope Rule.permissions hno]
      rfl
    | some text =>
      obtain ⟨r, hr, rfl, hparse⟩ := hread _ (Configuration.mem_writtenRules_iff.mpr hrule)
      rw [OrderedMap.find?_foldl_set_of_mem Rule.scope Rule.permissions hdistinct hr]
      exact congrArg (Except.map some) hparse
  · intro name a ha
    have hmem : (name, a) ∈ c.aliases.entries := SortedMap.mem_entries_iff.mpr ha
    rw [foldl_setReadOnly, isReadOnly]
    rw [OrderedMap.find?_foldl_set_of_mem Prod.fst (fun e => e.2.readOnly) c.aliases.nodup_keys hmem]
    rfl

/-- What the table of an accepted configuration grants is what the configuration says. -/
theorem effective_ofConfiguration {c : Configuration} (hc : c.validate = .ok ()) :
    ∃ t, AccessTable.ofConfiguration c = .ok t ∧
      ∀ name a, c.alias? name = some a → ∀ resource,
        a.statedPermissions resource = .ok (t.effective ⟨name, resource⟩) := by
  obtain ⟨t, ht, hrules, hreadOnly⟩ := exists_ofConfiguration hc
  refine ⟨t, ht, fun name a ha resource => ?_⟩
  have hrule : ∀ r, (a.ruleFor? r).mapM PermissionSet.parse = .ok (t.rules.find? ⟨name, r⟩) := by
    intro r
    rw [← hrules, Configuration.ruleOn?, ha]
    rfl
  -- the configuration falls back on the rule for the alias where the table does
  have hdecides : (a.statedRule resource).mapM PermissionSet.parse =
      .ok ((t.rules.find? ⟨name, resource⟩).or (t.rules.find? ⟨name, none⟩)) := by
    cases resource with
    | none =>
      rw [Option.or_self]
      exact hrule none
    | some r => exact mapM_or_eq_ok (hrule (some r)) (hrule none)
  have hgrant : a.statedGrant resource = .ok (t.granted ⟨name, resource⟩) := by
    rw [AliasConfiguration.statedGrant, granted]
    cases hstated : a.statedRule resource with
    | none =>
      rw [hstated] at hdecides
      rw [← Except.ok.inj hdecides]
      rfl
    | some rule =>
      rw [hstated] at hdecides
      obtain ⟨s, hs, heq⟩ := exists_of_map_eq_ok hdecides
      rw [← heq]
      exact hs
  rw [AliasConfiguration.statedPermissions, hgrant, effective, hreadOnly name a ha,
    PermissionSet.withoutWrites_eq_remove]
  rfl

end AccessTable

/-! ## Aliases that may not be configured -/

/-- What a configuration says about an alias and a resource, which is nothing if it does not have
the alias. -/
def Configuration.statedPermissions (c : Configuration) (name : String)
    (resource : Option String) : Except Error PermissionSet :=
  match c.alias? name with
  | some a => a.statedPermissions resource
  | none => .ok .none

namespace AccessTable

variable {c c' : Configuration} {t t' : AccessTable} {name : String}

/-- Nothing holds on an alias that is not configured. -/
theorem effective_of_unknown (hc : c.validate = .ok ())
    (ht : AccessTable.ofConfiguration c = .ok t) (hname : c.alias? name = none)
    (resource : Option String) : t.effective ⟨name, resource⟩ = .none := by
  obtain ⟨t', ht', hrules, -⟩ := exists_ofConfiguration hc
  obtain rfl := Except.ok.inj (ht.symm.trans ht')
  have hrule : ∀ r, t.rules.find? ⟨name, r⟩ = none := by
    intro r
    have hread := hrules ⟨name, r⟩
    rw [Configuration.ruleOn?, hname] at hread
    exact (Except.ok.inj hread).symm
  have hgranted : t.granted ⟨name, resource⟩ = .none := by
    rw [granted, hrule, hrule]
    rfl
  rw [effective, hgranted]
  exact ite_self _

theorem statedPermissions_eq (hc : c.validate = .ok ())
    (ht : AccessTable.ofConfiguration c = .ok t) (resource : Option String) :
    c.statedPermissions name resource = .ok (t.effective ⟨name, resource⟩) := by
  rw [Configuration.statedPermissions]
  split
  · rename_i a ha
    obtain ⟨t', ht', hstated⟩ := effective_ofConfiguration hc
    obtain rfl := Except.ok.inj (ht.symm.trans ht')
    exact hstated name a ha resource
  · rename_i hname
    rw [effective_of_unknown hc ht hname]

/-- What holds on an alias is settled by what is said about it. -/
theorem effective_eq_of_stated (hc : c.validate = .ok ()) (hc' : c'.validate = .ok ())
    (ht : AccessTable.ofConfiguration c = .ok t) (ht' : AccessTable.ofConfiguration c' = .ok t')
    {resource : Option String}
    (h : c.statedPermissions name resource = c'.statedPermissions name resource) :
    t.effective ⟨name, resource⟩ = t'.effective ⟨name, resource⟩ := by
  rw [statedPermissions_eq hc ht, statedPermissions_eq hc' ht'] at h
  exact Except.ok.inj h

end AccessTable

end TableGateway

import TableGateway.Proofs.Gateway.KeyColumn
import TableGateway.Proofs.Text.ByteOrder

/-!
# What is accepted as a configuration

A configuration is accepted exactly when it is well-formed (`Configuration.WellFormed`), and of any
other the first thing that is wrong is reported.

What is first needs an order, and the order is one of checks: each text of a configuration that has
to make sense is one check (`Check`), and `Check.Before` says which of two is made first. Between
parts of different kinds the kinds decide; between entries of a map their keys do, by their bytes;
and in an entry the key comes before its value. `Configuration.defects` lists the failures of all
checks, and the list of checks that it goes through (`Configuration.checks`) is in this order.
-/

namespace TableGateway

/-- The outcome is that the configuration cannot be used, with the message. -/
def Refused {α : Type} (outcome : Except Error α) (message : String) : Prop :=
  ∃ reason, outcome = .error (.invalidConfiguration reason) ∧ reason.message = message

/-! ## Checks -/

/-- A text of an alias that is checked. -/
inductive AliasCheck where
  /-- the driver is known -/
  | driver (tag : String)
  /-- the schema is an identifier -/
  | schema (name : String)
  /-- the rule of the alias can be read -/
  | rule (text : String)
  /-- a resource with a rule is an identifier -/
  | resource (name : String)
  /-- the rule of a resource can be read -/
  | resourceRule (name text : String)
  /-- a resource with a key column is an identifier -/
  | keyedResource (name : String)
  /-- the key column of a resource is an identifier -/
  | keyColumn (name column : String)
deriving DecidableEq

/-- Something in a configuration that is checked. -/
inductive Check where
  /-- the page size is in its range -/
  | pageSize (size : Nat)
  /-- a text of the alias of the given name makes sense -/
  | ofAlias (name : String) (check : AliasCheck)
deriving DecidableEq

/-- The checks that are made for an alias. -/
inductive AliasConfiguration.Has (a : AliasConfiguration) : AliasCheck → Prop where
  | driver : a.Has (.driver a.driver)
  | schema {name : String} (h : a.schema = some name) : a.Has (.schema name)
  | rule {text : String} (h : a.rule = some text) : a.Has (.rule text)
  | resource {name text : String} (h : a.resources.find? name = some text) : a.Has (.resource name)
  | resourceRule {name text : String} (h : a.resources.find? name = some text) :
    a.Has (.resourceRule name text)
  | keyedResource {name column : String} (h : a.primaryKeys.find? name = some column) :
    a.Has (.keyedResource name)
  | keyColumn {name column : String} (h : a.primaryKeys.find? name = some column) :
    a.Has (.keyColumn name column)

/-- The checks that are made for a configuration. -/
inductive Configuration.Has (c : Configuration) : Check → Prop where
  | pageSize : c.Has (.pageSize c.pageSize)
  | ofAlias {name : String} {a : AliasConfiguration} {check : AliasCheck}
    (ha : c.alias? name = some a) (h : a.Has check) : c.Has (.ofAlias name check)

namespace AliasCheck

/-- The check fails with the message. -/
inductive Fails : AliasCheck → String → Prop where
  | driver {tag : String} (h : ∀ d : Dialect, Text.lowerAscii (Text.trim tag) ∉ d.tags) :
    Fails (.driver tag) ("Unknown driver '" ++ Text.lowerAscii (Text.trim tag) ++ "'")
  | schema {name message : String} (h : Refused (Identifier.parseConfigured name) message) :
    Fails (.schema name) message
  | rule {text message : String} (h : Refused (PermissionSet.parse text) message) :
    Fails (.rule text) message
  | resource {name message : String} (h : Refused (Identifier.parseConfigured name) message) :
    Fails (.resource name) message
  | resourceRule {name text message : String} (h : Refused (PermissionSet.parse text) message) :
    Fails (.resourceRule name text) ("resource '" ++ name ++ "': " ++ message)
  | keyedResource {name message : String} (h : Refused (Identifier.parseConfigured name) message) :
    Fails (.keyedResource name) message
  | keyColumn {name column message : String}
    (h : Refused (Identifier.parseConfigured column) message) :
    Fails (.keyColumn name column) message

/-- The kinds of parts of an alias, in the order in which they are checked. -/
def stage : AliasCheck → Nat
  | driver _ => 0
  | schema _ => 1
  | rule _ => 2
  | resource _ => 3
  | resourceRule _ _ => 3
  | keyedResource _ => 4
  | keyColumn _ _ => 4

/-- The key of the entry that is checked, if it is one of a map. -/
def key : AliasCheck → String
  | resource name => name
  | resourceRule name _ => name
  | keyedResource name => name
  | keyColumn name _ => name
  | _ => ""

/-- The key of an entry comes first, the value after it. -/
def part : AliasCheck → Nat
  | resourceRule _ _ => 1
  | keyColumn _ _ => 1
  | _ => 0

/-- One check of an alias is made before another one. -/
inductive Before (x y : AliasCheck) : Prop where
  /-- it is of an earlier kind -/
  | stage (h : x.stage < y.stage)
  /-- it is of an entry with a smaller key -/
  | key (hstage : x.stage = y.stage) (h : Text.bytes x.key < Text.bytes y.key)
  /-- it is of the key of the same entry -/
  | part (hstage : x.stage = y.stage) (hkey : x.key = y.key) (h : x.part < y.part)

theorem Before.asymm {x y : AliasCheck} (h : x.Before y) : ¬ y.Before x := by
  intro h'
  cases h with
  | stage h => cases h' <;> omega
  | key hstage h =>
    cases h' with
    | stage h' => omega
    | key _ h' => exact List.lt_asymm h h'
    | part _ hkey => exact List.lt_irrefl _ (hkey ▸ h)
  | part hstage hkey h =>
    cases h' with
    | stage h' => omega
    | key _ h' => exact List.lt_irrefl _ (hkey ▸ h')
    | part _ _ h' => omega

end AliasCheck

namespace Check

/-- The check fails with the message. -/
inductive Fails : Check → String → Prop where
  | pageSize {size : Nat} (h : ¬ (1 ≤ size ∧ size ≤ 1000)) :
    Fails (.pageSize size) ("page_size must be between 1 and 1000, got " ++ Text.decimal size)
  | ofAlias {name message : String} {check : AliasCheck} (h : check.Fails message) :
    Fails (.ofAlias name check) ("alias '" ++ name ++ "': " ++ message)

/-- One check is made before another one. -/
inductive Before : Check → Check → Prop where
  /-- the page size is checked before all aliases -/
  | pageSize {size : Nat} {name : String} {y : AliasCheck} :
    Before (.pageSize size) (.ofAlias name y)
  /-- aliases are checked in the order of their names -/
  | name {m n : String} {x y : AliasCheck} (h : Text.bytes m < Text.bytes n) :
    Before (.ofAlias m x) (.ofAlias n y)
  /-- within an alias its own order counts -/
  | inside {name : String} {x y : AliasCheck} (h : x.Before y) :
    Before (.ofAlias name x) (.ofAlias name y)

theorem Before.asymm {x y : Check} (h : x.Before y) : ¬ y.Before x := by
  intro h'
  cases h with
  | pageSize => cases h'
  | name h =>
    cases h' with
    | name h' => exact List.lt_asymm h h'
    | inside => exact List.lt_irrefl _ h
  | inside h =>
    cases h' with
    | name h' => exact List.lt_irrefl _ h'
    | inside h' => exact h.asymm h'

end Check

/-- The check is the first of a configuration that fails, and it fails with the message. -/
structure Configuration.FirstFailure (c : Configuration) (check : Check) (message : String) :
    Prop where
  /-- the check is made -/
  has : c.Has check
  /-- it fails -/
  fails : check.Fails message
  /-- every other check that fails comes after it, and not before it -/
  first : ∀ other message, c.Has other → other.Fails message → other ≠ check →
    check.Before other ∧ ¬ other.Before check

/-! ## Reasons of failures -/

/-- What cannot be read is refused for the reason. -/
theorem refused_mapError_iff {α : Type} {outcome : Except Reason α} {message : String} :
    Refused (outcome.mapError .invalidConfiguration) message ↔
      ∃ reason ∈ failures outcome, reason.message = message := by
  cases outcome <;> simp [Refused, failures, Except.mapError]

theorem Identifier.refused_iff {name message : String} :
    Refused (parseConfigured name) message ↔
      ∃ reason ∈ failures (read name), reason.message = message := by
  rw [parseConfigured, refused_mapError_iff]

theorem PermissionSet.refused_iff {text message : String} :
    Refused (parse text) message ↔
      ∃ reason ∈ failures (readRule text), reason.message = message := by
  rw [parse, refused_mapError_iff]

/-- Why a check of an alias fails. -/
def AliasCheck.reasons : AliasCheck → List Reason
  | driver tag => failures (Dialect.ofDriver tag)
  | schema name => failures (Identifier.read name)
  | rule text => failures (PermissionSet.readRule text)
  | resource name => failures (Identifier.read name)
  | resourceRule name text => (failures (PermissionSet.readRule text)).map (.inResource name)
  | keyedResource name => failures (Identifier.read name)
  | keyColumn _ column => failures (Identifier.read column)

/-- A check of an alias fails with the message of a reason. -/
theorem AliasCheck.fails_iff {check : AliasCheck} {message : String} :
    check.Fails message ↔ ∃ reason ∈ check.reasons, reason.message = message := by
  constructor
  · intro h
    cases h with
    | driver h =>
      rw [reasons]
      exact ⟨_, mem_failures_iff.mpr (Dialect.ofDriver_eq_error_iff.mpr ⟨h, rfl⟩), rfl⟩
    | schema h => exact Identifier.refused_iff.mp h
    | rule h => exact PermissionSet.refused_iff.mp h
    | resource h => exact Identifier.refused_iff.mp h
    | resourceRule h =>
      obtain ⟨reason, hreason, rfl⟩ := PermissionSet.refused_iff.mp h
      exact ⟨_, List.mem_map_of_mem hreason, rfl⟩
    | keyedResource h => exact Identifier.refused_iff.mp h
    | keyColumn h => exact Identifier.refused_iff.mp h
  · rintro ⟨reason, hreason, rfl⟩
    cases check with
    | driver tag =>
      rw [reasons, mem_failures_iff] at hreason
      obtain ⟨h, rfl⟩ := Dialect.ofDriver_eq_error_iff.mp hreason
      exact .driver h
    | schema name => exact .schema (Identifier.refused_iff.mpr ⟨reason, hreason, rfl⟩)
    | rule text => exact .rule (PermissionSet.refused_iff.mpr ⟨reason, hreason, rfl⟩)
    | resource name => exact .resource (Identifier.refused_iff.mpr ⟨reason, hreason, rfl⟩)
    | resourceRule name text =>
      obtain ⟨inner, hinner, rfl⟩ := List.mem_map.mp hreason
      exact .resourceRule (PermissionSet.refused_iff.mpr ⟨inner, hinner, rfl⟩)
    | keyedResource name => exact .keyedResource (Identifier.refused_iff.mpr ⟨reason, hreason, rfl⟩)
    | keyColumn name column => exact .keyColumn (Identifier.refused_iff.mpr ⟨reason, hreason, rfl⟩)

/-- Why a check fails. -/
def Check.reasons : Check → List Reason
  | pageSize size => Configuration.pageSizeDefects size
  | ofAlias name check => check.reasons.map (.inAlias name)

theorem Check.fails_iff {check : Check} {message : String} :
    check.Fails message ↔ ∃ reason ∈ check.reasons, reason.message = message := by
  constructor
  · intro h
    cases h with
    | pageSize h => exact ⟨_, Configuration.mem_pageSizeDefects_iff.mpr ⟨h, rfl⟩, rfl⟩
    | ofAlias h =>
      obtain ⟨reason, hreason, rfl⟩ := AliasCheck.fails_iff.mp h
      exact ⟨_, List.mem_map_of_mem hreason, rfl⟩
  · rintro ⟨reason, hreason, rfl⟩
    cases check with
    | pageSize size =>
      obtain ⟨h, rfl⟩ := Configuration.mem_pageSizeDefects_iff.mp hreason
      exact .pageSize h
    | ofAlias name check =>
      obtain ⟨inner, hinner, rfl⟩ := List.mem_map.mp hreason
      exact .ofAlias (AliasCheck.fails_iff.mpr ⟨inner, hinner, rfl⟩)

/-! ## The list of checks -/

namespace AliasCheck

/-- Checks in their order, of kinds before the given one. -/
structure Ordered (n : Nat) (checks : List AliasCheck) : Prop where
  /-- each check is made before all later ones -/
  pairwise : checks.Pairwise Before
  /-- the kinds come before the given one -/
  stage : ∀ check ∈ checks, check.stage < n

/-- Checks of the next kind can follow. -/
theorem Ordered.append {n : Nat} {xs ys : List AliasCheck} (hxs : Ordered n xs)
    (hpairwise : ys.Pairwise Before) (hstage : ∀ y ∈ ys, y.stage = n) :
    Ordered (n + 1) (xs ++ ys) := by
  constructor
  case pairwise =>
    refine List.pairwise_append.mpr ⟨hxs.pairwise, hpairwise, ?_⟩
    intro x hx y hy
    exact .stage (hstage y hy ▸ hxs.stage x hx)
  case stage =>
    intro z hz
    rcases List.mem_append.mp hz with hx | hy
    · exact Nat.lt_succ_of_lt (hxs.stage z hx)
    · exact hstage z hy ▸ Nat.lt_succ_self _

/-- The checks of the entries of a map can follow, entry by entry. -/
theorem Ordered.append_entries {n : Nat} {xs : List AliasCheck} (hxs : Ordered n xs)
    (m : SortedMap String) (f : String × String → List AliasCheck)
    (hpairwise : ∀ e, (f e).Pairwise Before) (hstage : ∀ e, ∀ x ∈ f e, x.stage = n)
    (hkey : ∀ e, ∀ x ∈ f e, x.key = e.1) : Ordered (n + 1) (xs ++ m.entries.flatMap f) := by
  refine hxs.append (List.pairwise_flatMap.mpr ⟨fun e _ => hpairwise e, ?_⟩) ?_
  · refine (List.pairwise_map.mp m.ascending).imp ?_
    intro e e' hlt x hx y hy
    refine .key ((hstage e x hx).trans (hstage e' y hy).symm) ?_
    rw [hkey e x hx, hkey e' y hy]
    exact Text.lt_iff_bytes_lt.mp hlt
  · intro x hx
    obtain ⟨e, -, hx⟩ := List.mem_flatMap.mp hx
    exact hstage e x hx

end AliasCheck

namespace AliasConfiguration

variable {a : AliasConfiguration}

/-- The checks for an alias. -/
def checks (a : AliasConfiguration) : List AliasCheck :=
  [.driver a.driver] ++ a.schema.toList.map .schema ++ a.rule.toList.map .rule ++
    (a.resources.entries.flatMap fun e => [.resource e.1, .resourceRule e.1 e.2]) ++
    a.primaryKeys.entries.flatMap fun e => [.keyedResource e.1, .keyColumn e.1 e.2]

theorem mem_checks_iff {check : AliasCheck} : check ∈ a.checks ↔ a.Has check := by
  simp only [checks, List.mem_append, List.mem_map, Option.mem_toList, List.mem_flatMap,
    Prod.exists, SortedMap.mem_entries_iff, List.mem_cons, List.not_mem_nil, or_false]
  constructor
  · rintro ((((rfl | ⟨name, h, rfl⟩) | ⟨text, h, rfl⟩) | ⟨name, text, h, rfl | rfl⟩) |
      ⟨name, column, h, rfl | rfl⟩)
    · exact .driver
    · exact .schema h
    · exact .rule h
    · exact .resource h
    · exact .resourceRule h
    · exact .keyedResource h
    · exact .keyColumn h
  · intro h
    cases h with
    | driver => exact .inl (.inl (.inl (.inl rfl)))
    | schema h => exact .inl (.inl (.inl (.inr ⟨_, h, rfl⟩)))
    | rule h => exact .inl (.inl (.inr ⟨_, h, rfl⟩))
    | resource h => exact .inl (.inr ⟨_, _, h, .inl rfl⟩)
    | resourceRule h => exact .inl (.inr ⟨_, _, h, .inr rfl⟩)
    | keyedResource h => exact .inr ⟨_, _, h, .inl rfl⟩
    | keyColumn h => exact .inr ⟨_, _, h, .inr rfl⟩

theorem pairwise_checks (a : AliasConfiguration) : a.checks.Pairwise AliasCheck.Before := by
  have hoption : ∀ (o : Option String) (f : String → AliasCheck),
      (o.toList.map f).Pairwise AliasCheck.Before := by
    rintro (_ | s) f
    · exact .nil
    · exact List.pairwise_singleton _ _
  have hdriver : AliasCheck.Ordered 1 [.driver a.driver] :=
    ⟨List.pairwise_singleton _ _, by simp [AliasCheck.stage]⟩
  have hschema := hdriver.append (hoption a.schema .schema) (by simp [AliasCheck.stage])
  have hrule := hschema.append (hoption a.rule .rule) (by simp [AliasCheck.stage])
  have hresources := hrule.append_entries a.resources
    (fun e => [.resource e.1, .resourceRule e.1 e.2])
    (fun e => List.pairwise_pair.mpr (.part rfl rfl Nat.zero_lt_one))
    (by simp [AliasCheck.stage]) (by simp [AliasCheck.key])
  have hkeys := hresources.append_entries a.primaryKeys
    (fun e => [.keyedResource e.1, .keyColumn e.1 e.2])
    (fun e => List.pairwise_pair.mpr (.part rfl rfl Nat.zero_lt_one))
    (by simp [AliasCheck.stage]) (by simp [AliasCheck.key])
  exact hkeys.pairwise

theorem defects_eq (a : AliasConfiguration) : a.defects = a.checks.flatMap AliasCheck.reasons := by
  simp [defects, checks, resourceDefects, primaryKeyDefects, AliasCheck.reasons, List.flatMap_map,
    List.flatMap_assoc]

end AliasConfiguration

namespace Configuration

variable {c : Configuration}

/-- The checks for a configuration. -/
def checks (c : Configuration) : List Check :=
  .pageSize c.pageSize :: c.aliases.entries.flatMap fun e => e.2.checks.map (.ofAlias e.1)

theorem mem_checks_iff {check : Check} : check ∈ c.checks ↔ c.Has check := by
  rw [checks, List.mem_cons, List.mem_flatMap]
  constructor
  · rintro (rfl | ⟨⟨name, a⟩, ha, hcheck⟩)
    · exact .pageSize
    · obtain ⟨check, h, rfl⟩ := List.mem_map.mp hcheck
      exact .ofAlias (SortedMap.mem_entries_iff.mp ha) (AliasConfiguration.mem_checks_iff.mp h)
  · intro h
    cases h with
    | pageSize => exact .inl rfl
    | ofAlias ha h =>
      exact .inr ⟨_, SortedMap.mem_entries_iff.mpr ha,
        List.mem_map_of_mem (AliasConfiguration.mem_checks_iff.mpr h)⟩

theorem pairwise_checks (c : Configuration) : c.checks.Pairwise Check.Before := by
  refine List.pairwise_cons.mpr ⟨?_, List.pairwise_flatMap.mpr ⟨?_, ?_⟩⟩
  · intro check hcheck
    obtain ⟨e, -, hcheck⟩ := List.mem_flatMap.mp hcheck
    obtain ⟨x, -, rfl⟩ := List.mem_map.mp hcheck
    exact .pageSize
  · rintro ⟨name, a⟩ -
    exact List.pairwise_map.mpr (a.pairwise_checks.imp .inside)
  · refine (List.pairwise_map.mp c.aliases.ascending).imp ?_
    intro e e' hlt x hx y hy
    obtain ⟨x, -, rfl⟩ := List.mem_map.mp hx
    obtain ⟨y, -, rfl⟩ := List.mem_map.mp hy
    exact .name (Text.lt_iff_bytes_lt.mp hlt)

/-- The defects are the failures of the checks, one check after the other. -/
theorem defects_eq (c : Configuration) : c.defects = c.checks.flatMap Check.reasons := by
  simp [defects, checks, Check.reasons, AliasConfiguration.defects_eq, List.flatMap_map,
    List.flatMap_assoc, List.map_flatMap]

/-- The first defect is the failure of the first check that fails. -/
theorem firstFailure_of_head? {reason : Reason} (h : c.defects.head? = some reason) :
    ∃ check, c.FirstFailure check reason.message := by
  rw [defects_eq, List.head?_flatMap, List.findSome?_eq_some_iff] at h
  obtain ⟨before, check, after, hchecks, hreason, hpassed⟩ := h
  have hpairwise := c.pairwise_checks
  rw [hchecks] at hpairwise
  obtain ⟨hafter, -⟩ := List.pairwise_cons.mp (List.pairwise_append.mp hpairwise).2.1
  refine ⟨check, ?_, Check.fails_iff.mpr ⟨reason, List.mem_of_head? hreason, rfl⟩, ?_⟩
  · exact mem_checks_iff.mp (hchecks ▸ List.mem_append_right _ List.mem_cons_self)
  · intro other message hother hfails hne
    obtain ⟨reason', hreason', -⟩ := Check.fails_iff.mp hfails
    rw [← mem_checks_iff, hchecks, List.mem_append, List.mem_cons] at hother
    rcases hother with hbefore | rfl | hother
    · -- what comes before the check has not failed
      have hnil := List.head?_eq_none_iff.mp (hpassed other hbefore)
      rw [hnil] at hreason'
      cases hreason'
    · exact absurd rfl hne
    · exact ⟨hafter other hother, (hafter other hother).asymm⟩

/-- Exactly the well-formed configurations are accepted, and every other one is refused with the
message of the first check that fails. In an accepted configuration every alias has a table for
every identifier. -/
theorem validate_reports_first (c : Configuration) :
    (c.validate = .ok () ↔ c.WellFormed) ∧
      (¬ c.WellFormed → ∃ check message, c.FirstFailure check message ∧
        Refused c.validate message) ∧
      (c.validate = .ok () → ∀ name a, c.alias? name = some a →
        ∀ r : Identifier, ∃ t, a.table r.name = .ok t) := by
  refine ⟨validate_eq_ok_iff.trans defects_eq_nil_iff, ?_, ?_⟩
  · intro hc
    obtain ⟨reason, rest, hdefects⟩ :=
      List.exists_cons_of_ne_nil (mt defects_eq_nil_iff.mp hc)
    obtain ⟨check, hcheck⟩ := firstFailure_of_head? (List.head?_eq_some_iff.mpr ⟨rest, hdefects⟩)
    refine ⟨check, reason.message, hcheck, reason, ?_, rfl⟩
    rw [validate, hdefects]
  · intro hc name a ha r
    obtain ⟨schema, key, htable, -⟩ :=
      AliasConfiguration.table_of_defects (defects_of_validate hc ha) r
    exact ⟨_, htable⟩

/-- The alias that comes first by its name is reported, and of its two rules that of the resource
that comes first. -/
example :
    let a : AliasConfiguration :=
      { driver := " H2 ", resources := .ofList [("users", "READ, "), ("cars", "READ, WRITE")],
        primaryKeys := .ofList [("cars", "no key")] }
    let c : Configuration := { aliases := .ofList [("é", { driver := "sqlite" }), ("z", a)] }
    c.validate.toOption = none ∧ (c.defects.head?.map Reason.message) =
      some "alias 'z': resource 'cars': Unknown permission 'WRITE'" := by
  decide +kernel

end Configuration

end TableGateway

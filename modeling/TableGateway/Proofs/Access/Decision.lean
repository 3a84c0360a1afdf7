import TableGateway.Console.Run
import TableGateway.Proofs.Access.Configured
import TableGateway.Proofs.Access.Denial
import TableGateway.Proofs.Access.RuleSets
import TableGateway.Proofs.Console.PrintedJson

/-!
# The access decision

What a configuration says about an alias and a resource is what is decided, and what is shown. Two
paths lead from the configuration to the permissions: the gateway that is opened from it refuses
requests by them, and the command `acl` prints them. `Configuration.decision_as_stated` follows both
to their ends, the second one to what is read from the printed text.
-/

namespace TableGateway

/-! ## Opening a gateway -/

namespace Catalog

variable {c : Configuration} {catalog : Catalog}

theorem ofConfiguration_eq_ok_iff :
    ofConfiguration c = .ok catalog ↔
      c.aliases.traverse CatalogEntry.ofAlias = .ok catalog.entries ∧
        catalog.pageSize = c.pageSize := by
  constructor
  · intro h
    obtain ⟨entries, hentries, h⟩ := exists_of_bind_eq_ok h
    cases h
    exact ⟨hentries, rfl⟩
  · rintro ⟨hentries, hpageSize⟩
    rw [ofConfiguration, hentries, ← hpageSize]
    rfl

/-- The catalog of an accepted configuration can be made up. -/
theorem exists_ofConfiguration (hc : c.validate = .ok ()) :
    ∃ catalog, ofConfiguration c = .ok catalog := by
  have hentry : ∀ e ∈ c.aliases.entries, ∃ entry, CatalogEntry.ofAlias e.2 = .ok entry := by
    rintro ⟨name, a⟩ ha
    obtain ⟨d, hd⟩ := Configuration.dialect_of_validate hc (SortedMap.mem_entries_iff.mp ha)
    exact ⟨⟨d, a⟩, CatalogEntry.ofAlias_eq_ok_iff.mpr ⟨hd, rfl⟩⟩
  obtain ⟨entries, hentries⟩ := SortedMap.exists_traverse hentry
  exact ⟨⟨entries, c.pageSize⟩, ofConfiguration_eq_ok_iff.mpr ⟨hentries, rfl⟩⟩

/-- An alias is in the catalog if it is configured, with the dialect that its driver chooses. -/
theorem find?_of_ofConfiguration (h : ofConfiguration c = .ok catalog) (name : String) :
    (c.alias? name).mapM CatalogEntry.ofAlias = .ok (catalog.entries.find? name) :=
  SortedMap.find?_of_traverse (ofConfiguration_eq_ok_iff.mp h).1 name

end Catalog

namespace Gateway

variable {c : Configuration}

/-- A gateway is opened from an accepted configuration, with the access table and the catalog that
the configuration makes up. -/
theorem ofConfiguration_eq_ok_iff {g : Gateway} :
    ofConfiguration c = .ok g ↔ c.validate = .ok () ∧
      AccessTable.ofConfiguration c = .ok g.access ∧ Catalog.ofConfiguration c = .ok g.catalog := by
  constructor
  · intro h
    obtain ⟨_, hc, h⟩ := exists_of_bind_eq_ok h
    obtain ⟨t, ht, h⟩ := exists_of_bind_eq_ok h
    obtain ⟨catalog, hcatalog, h⟩ := exists_of_bind_eq_ok h
    cases h
    exact ⟨hc, ht, hcatalog⟩
  · rintro ⟨hc, ht, hcatalog⟩
    rw [ofConfiguration, hc, ht, hcatalog]
    rfl

/-- A gateway can be opened from any accepted configuration. -/
theorem exists_gateway (hc : c.validate = .ok ()) : ∃ g, ofConfiguration c = .ok g := by
  obtain ⟨t, ht, -⟩ := AccessTable.exists_ofConfiguration hc
  obtain ⟨catalog, hcatalog⟩ := Catalog.exists_ofConfiguration hc
  exact ⟨⟨catalog, t⟩, ofConfiguration_eq_ok_iff.mpr ⟨hc, ht, hcatalog⟩⟩

variable {catalog : Catalog}

/-- Every configured alias can be used, with the dialect that its driver chooses. -/
theorem entry_of_alias (hcatalog : Catalog.ofConfiguration c = .ok catalog) (t : AccessTable)
    {name : String} {a : AliasConfiguration} (ha : c.alias? name = some a) :
    ∃ d, a.dialect = .ok d ∧ entry ⟨catalog, t⟩ name = .ok ⟨d, a⟩ := by
  have hfind := Catalog.find?_of_ofConfiguration hcatalog name
  rw [ha, Option.mapM_some] at hfind
  have hmap : (CatalogEntry.ofAlias a).map some = .ok (catalog.entries.find? name) := hfind
  obtain ⟨e, he, hentry⟩ := exists_of_map_eq_ok hmap
  obtain ⟨hd, rfl⟩ := CatalogEntry.ofAlias_eq_ok_iff.mp he
  refine ⟨e.dialect, hd, ?_⟩
  rw [entry, ← hentry]

end Gateway

/-! ## Printing permissions -/

namespace Console

/-- The command line that asks for the permissions on an alias, or on a resource of it. -/
def aclLine (path aliasName : String) (resource : Option String) : List String :=
  ["acl", "--config", path, "--alias", aliasName] ++ resource.elim [] (["--resource", ·])

theorem parse_aclLine (path aliasName : String) (resource : Option String) :
    Command.parse (aclLine path aliasName resource) = .ok (.acl path aliasName resource) := by
  cases resource <;> rfl

/-- The permissions that are chosen as a list of names, in the order in which permissions are
declared. -/
def listed (chosen : Permission → Bool) : Json :=
  .array (([.metadata, .read, .insert, .update, .delete, .exec].filter chosen).map fun p =>
    .string p.name)

/-- What is printed of a set lists its members and the others. -/
theorem permissionsJson_eq (aliasName : String) (resource : Option String) (s : PermissionSet) :
    permissionsJson aliasName resource s = .object (
      [("alias", .string aliasName)] ++ resource.toList.map (fun r => ("resource", .string r)) ++
      [("effective", .string s.text), ("allowed", listed fun p => p ∈ s.toList),
        ("denied", listed fun p => p ∉ s.toList)]) := by
  have hallowed : (fun p => decide (p ∈ s.toList)) = s.contains := by
    funext p
    rw [Bool.eq_iff_iff, decide_eq_true_iff, PermissionSet.mem_toList]
  have hdenied : (fun p => decide (p ∉ s.toList)) = fun p => !s.contains p := by
    funext p
    rw [decide_not, congrFun hallowed p]
  rw [hallowed, hdenied]
  cases resource <;> rfl

/-- Where the configuration can be loaded, the permissions that its table grants are printed. -/
theorem run_aclLine {env : Environment} {read : String → Except ReadError String}
    {path aliasName : String} {c : Configuration} (hload : loadFor env read path aliasName = .ok c)
    {t : AccessTable} (ht : AccessTable.ofConfiguration c = .ok t) (resource : Option String) :
    run env read (aclLine path aliasName resource) =
      .ok ((permissionsJson aliasName resource (t.effective ⟨aliasName, resource⟩)).pretty ++
        "\n") := by
  rw [run, parse_aclLine]
  show Command.result env read (.acl path aliasName resource) = _
  rw [Command.result, hload]
  show ((AccessTable.ofConfiguration c).mapError Failure.refused >>= _) = _
  rw [ht]
  rfl

end Console

namespace Configuration

/-- **The access decision is the stated one.** What an accepted configuration says about an alias
and a resource can be read, and a gateway can be opened from it. That gateway denies a request
exactly when the permission of its action is not among those stated, and says which permission is
missing on what. The command `acl` prints a text, and who reads it as JSON finds the stated
permissions listed as allowed and the others as denied, both in the order of their declaration, and
a rule that grants just those stated. -/
theorem decision_as_stated {c : Configuration} (hc : c.validate = .ok ()) {aliasName : String}
    {a : AliasConfiguration} (ha : c.alias? aliasName = some a) (resource : Option String) :
    ∃ s g, a.statedPermissions resource = .ok s ∧ Gateway.ofConfiguration c = .ok g ∧
      (∀ q : Request, q.aliasName = aliasName → q.resource = resource →
        ((∃ e, g.plan q = .error e ∧ e.isAccessDenied = true) ↔
          q.action.permission ∉ s.toList) ∧
        (q.action.permission ∉ s.toList →
          g.plan q = .error (.accessDenied q.action.permission aliasName resource))) ∧
      ∀ env read path, Console.loadFor env read path aliasName = .ok c →
        ∃ text rule, Console.run env read (Console.aclLine path aliasName resource) = .ok text ∧
          PermissionSet.parse rule = .ok s ∧
          Json.read? text = some (.object (
            [("alias", .string aliasName)] ++
            resource.toList.map (fun r => ("resource", .string r)) ++
            [("effective", .string rule), ("allowed", Console.listed fun p => p ∈ s.toList),
              ("denied", Console.listed fun p => p ∉ s.toList)])) := by
  obtain ⟨g, hg⟩ := Gateway.exists_gateway hc
  obtain ⟨-, ht, hcatalog⟩ := Gateway.ofConfiguration_eq_ok_iff.mp hg
  obtain ⟨_, -, he⟩ := Gateway.entry_of_alias hcatalog g.access ha
  have hstated : a.statedPermissions resource = .ok (g.access.effective ⟨aliasName, resource⟩) := by
    have hpermissions : c.statedPermissions aliasName resource =
        .ok (g.access.effective ⟨aliasName, resource⟩) :=
      AccessTable.statedPermissions_eq hc ht resource
    rwa [statedPermissions, ha] at hpermissions
  refine ⟨_, g, hstated, hg, ?_, ?_⟩
  · rintro q rfl rfl
    have hallows : g.access.allows q.scope q.action.permission = false ↔
        q.action.permission ∉ (g.access.effective ⟨q.aliasName, q.resource⟩).toList := by
      rw [PermissionSet.mem_toList, Bool.not_eq_true]
      exact Iff.rfl
    exact ⟨(Gateway.plan_eq_accessDenied_iff he).trans hallows,
      fun hdenied => Gateway.plan_of_not_allows he (hallows.mpr hdenied)⟩
  · intro env read path hload
    refine ⟨_, _, Console.run_aclLine hload ht resource, PermissionSet.parse_text _, ?_⟩
    have hbehind : ∀ ch ∈ "\n".toList, Json.isBlank ch = true := by simp [Json.isBlank]
    rw [← Console.permissionsJson_eq]
    exact Json.read?_pretty _ hbehind

/-- The rule `NONE` of a resource takes back what the alias grants, and a read-only alias does not
grant what its rule says. The command `acl` lists what is left. -/
theorem decision_as_stated_readOnly :
    let file := "[aliases.demo]\ndriver = 'h2'\nread_only = true\nacl = 'META, READ, INSERT'\n" ++
      "resources.users = 'NONE'"
    let env : Console.Environment := fun _ => none
    let read : String → Except Console.ReadError String := fun _ => .ok file
    let line := ["acl", "--config", "tables.toml", "--alias", "demo", "--resource", "posts"]
    ∃ c g, Console.loadFor env read "tables.toml" "demo" = .ok c ∧
      Gateway.ofConfiguration c = .ok g ∧
      g.plan { aliasName := "demo", resource := some "users", action := .describe } =
        .error (.accessDenied .metadata "demo" (some "users")) ∧
      g.plan { aliasName := "demo", resource := some "posts", action := .insert [("a", "1")] } =
        .error (.accessDenied .insert "demo" (some "posts")) ∧
      ∃ text rule, Console.run env read line = .ok text ∧
        PermissionSet.parse rule = .ok (.ofList [.metadata, .read]) ∧
        Json.read? text = some (.object
          [("alias", .string "demo"), ("resource", .string "posts"), ("effective", .string rule),
            ("allowed", .array [.string "META", .string "READ"]),
            ("denied", .array [.string "INSERT", .string "UPDATE", .string "DELETE",
              .string "EXEC"])]) := by
  intro file env read line
  have hloaded : ((Console.loadFor env read "tables.toml" "demo").toOption.any fun c =>
      decide (c.defects = []) && (c.alias? "demo").any fun a =>
        decide ((a.statedPermissions (some "users")).toOption = some .none) &&
        decide ((a.statedPermissions (some "posts")).toOption =
          some (.ofList [.metadata, .read]))) = true := by decide +kernel
  obtain ⟨c, hload, hread⟩ := (Option.any_eq_true _ _).mp hloaded
  obtain ⟨hdefects, hread⟩ := Bool.and_eq_true_iff.mp hread
  obtain ⟨a, ha, hread⟩ := (Option.any_eq_true _ _).mp hread
  obtain ⟨husers, hposts⟩ := Bool.and_eq_true_iff.mp hread
  have hload := eq_ok_of_toOption hload
  have hc : c.validate = .ok () := validate_eq_ok_iff.mpr (of_decide_eq_true hdefects)
  have husers : a.statedPermissions (some "users") = .ok .none :=
    eq_ok_of_toOption (of_decide_eq_true husers)
  have hposts : a.statedPermissions (some "posts") = .ok (.ofList [.metadata, .read]) :=
    eq_ok_of_toOption (of_decide_eq_true hposts)
  obtain ⟨s, g, hs, hg, hdescribe, -⟩ := decision_as_stated hc ha (some "users")
  obtain ⟨s', g', hs', hg', hinsert, hacl⟩ := decision_as_stated hc ha (some "posts")
  obtain rfl := Except.ok.inj (hg.symm.trans hg')
  obtain rfl := Except.ok.inj (hs.symm.trans husers)
  obtain rfl := Except.ok.inj (hs'.symm.trans hposts)
  obtain ⟨text, rule, hrun, hrule, htext⟩ := hacl env read "tables.toml" hload
  exact ⟨c, g, hload, hg, (hdescribe _ rfl rfl).2 (by decide), (hinsert _ rfl rfl).2 (by decide),
    text, rule, hrun, hrule, htext⟩

end Configuration

end TableGateway

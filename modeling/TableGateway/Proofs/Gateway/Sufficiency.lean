import TableGateway.Proofs.Gateway.Reloading

/-!
# Validation is sufficient

A configuration is validated once, when a gateway is opened from it. Its texts are read again later:
the drivers and the rules when the gateway is opened, the schemas and the key columns with each
request. Reading them again could fail with an error of its own, and then the caller of a request
would be told of something that only the operator can mend. It never does:

* `Gateway.ofConfiguration_eq_error_iff`: a gateway cannot be opened just when validation fails, and
  for the same reason;
* `Gateway.cases_of_error`: a request fails for its alias, for a permission, or for what is wrong
  with the request, and in the last case the error names the resource of the request;
* `Gateway.isClientError_of_plan` puts the two together.
-/

namespace TableGateway.Gateway

variable {c : Configuration}

/-- Once a configuration is accepted, nothing else keeps a gateway from being opened. -/
theorem ofConfiguration_eq_error_iff {error : Error} :
    ofConfiguration c = .error error ↔ c.validate = .error error := by
  cases hc : c.validate with
  | error e =>
    have hg : ofConfiguration c = .error e := by
      rw [ofConfiguration, hc]
      rfl
    rw [hg, Except.error.injEq, Except.error.injEq]
  | ok _ =>
    obtain ⟨g, hg⟩ := exists_gateway hc
    rw [hg]
    constructor
    · intro h
      cases h
    · intro h
      cases h

/-- The gateway of a configuration has the dialect that the driver of each alias chooses. -/
theorem dialect_of_alias {g : Gateway} (hg : ofConfiguration c = .ok g) {name : String}
    {a : AliasConfiguration} (ha : c.alias? name = some a) :
    ∃ d, a.dialect = .ok d ∧ g.dialect name = .ok d := by
  obtain ⟨-, -, hcatalog⟩ := ofConfiguration_eq_ok_iff.mp hg
  obtain ⟨d, hd, hentry⟩ := entry_of_alias hcatalog g.access ha
  refine ⟨d, hd, ?_⟩
  rw [dialect, hentry]
  rfl

/-- What a request fails for: the alias is not configured; or it is, and the table in force does not
grant the permission, or something is wrong with the request. -/
theorem cases_of_error (hc : c.validate = .ok ()) {catalog : Catalog}
    (hcatalog : Catalog.ofConfiguration c = .ok catalog) {t : AccessTable} {q : Request}
    {error : Error} (h : plan ⟨catalog, t⟩ q = .error error) :
    (c.alias? q.aliasName = none ∧ error = .unknownAlias q.aliasName) ∨
      c.alias? q.aliasName ≠ none ∧
        (error = .accessDenied q.action.permission q.aliasName q.resource ∨
          ∃ reason, error = .invalidRequest reason q.resource) := by
  cases ha : c.alias? q.aliasName with
  | none =>
    rw [plan_of_unknown hcatalog t ha] at h
    exact .inl ⟨rfl, (Except.error.inj h).symm⟩
  | some a =>
    refine .inr ⟨nofun, ?_⟩
    rw [plan_of_alias hcatalog t ha] at h
    split at h
    · exact .inr (invalidRequest_of_answer hc ha h)
    · exact .inl (Except.error.inj h).symm

/-- **Errors of requests are for the caller to mend.** A gateway cannot be opened from a
configuration exactly when validation fails, and the error is that of validation. In a gateway that
is open every configured alias can be used, with the dialect of its driver. Whatever tables come
into force later, a request on an alias fails as unknown exactly when the alias is not configured;
any other failure is a denial or an invalid request on what the request is about, and none is ever
put down to the configuration. -/
theorem isClientError_of_plan (c : Configuration) :
    (∀ error, ofConfiguration c = .error error ↔ c.validate = .error error) ∧
      ∀ g, ofConfiguration c = .ok g →
        (∀ name a, c.alias? name = some a → ∃ d, a.dialect = .ok d ∧ g.dialect name = .ok d) ∧
        ∀ (history : List Event) (q : Request),
          ((∃ name, (g.after history).plan q = .error (.unknownAlias name)) ↔
            c.alias? q.aliasName = none) ∧
          ∀ error, (g.after history).plan q = .error error →
            error.isClientError = true ∧
              (error = .unknownAlias q.aliasName ∨
                error = .accessDenied q.action.permission q.aliasName q.resource ∨
                ∃ reason, error = .invalidRequest reason q.resource) := by
  refine ⟨fun error => ofConfiguration_eq_error_iff, fun g hg => ⟨fun name a ha =>
    dialect_of_alias hg ha, fun history q => ?_⟩⟩
  obtain ⟨hc, -, hcatalog⟩ := ofConfiguration_eq_ok_iff.mp hg
  rw [after_eq]
  constructor
  · constructor
    · rintro ⟨name, h⟩
      rcases cases_of_error hc hcatalog h with ⟨hnone, -⟩ | ⟨-, hdenied | ⟨reason, hinvalid⟩⟩
      · exact hnone
      · cases hdenied
      · cases hinvalid
    · exact fun hnone => ⟨_, plan_of_unknown hcatalog _ hnone⟩
  · intro error h
    rcases cases_of_error hc hcatalog h with ⟨-, rfl⟩ | ⟨-, rfl | ⟨reason, rfl⟩⟩
    · exact ⟨rfl, .inl rfl⟩
    · exact ⟨rfl, .inr (.inl rfl)⟩
    · exact ⟨rfl, .inr (.inr ⟨reason, rfl⟩)⟩

/-- A driver in capitals between blanks is known all the same. A request for a key column that is no
name is told so, on its resource, under a table that came into force after opening. -/
theorem isClientError_of_plan_primaryKey :
    let a : AliasConfiguration :=
      { driver := " H2_MEM ", schema := some "app", primaryKeys := .ofList [("users", "uid")] }
    let c : Configuration := { aliases := .ofList [("demo", a)] }
    let q : Request :=
      { aliasName := "demo", resource := some "users", action := .count none,
        primaryKey := some "1x" }
    let access := AccessTable.empty.addRule ⟨⟨"demo", none⟩, .full⟩
    let history : List Event := [.request q, .reload access]
    let error : Error := .invalidRequest (.identifierStart '1' "1x") (some "users")
    ∃ g, ofConfiguration c = .ok g ∧ g.dialect "demo" = .ok .h2 ∧
      (g.after history).plan q = .error error ∧ error.isClientError = true := by
  intro a c q access history error
  have hdefects : c.defects = [] := by decide +kernel
  obtain ⟨g, hg⟩ := exists_gateway (Configuration.validate_eq_ok_iff.mpr hdefects)
  obtain ⟨-, hopen⟩ := isClientError_of_plan c
  obtain ⟨hdialect, hrequests⟩ := hopen _ hg
  obtain ⟨d, hd, hdemo⟩ := hdialect "demo" a rfl
  have hh2 : a.dialect = .ok .h2 := eq_ok_of_toOption (by decide +kernel)
  obtain rfl := Except.ok.inj (hd.symm.trans hh2)
  have hplan : (g.after history).plan q = .error error := by
    have hread : ((ofConfiguration c).toOption.map fun g => (g.after history).plan q) =
        some (.error error) := by decide +kernel
    rw [hg] at hread
    exact Option.some.inj hread
  exact ⟨_, hg, hdemo, hplan, ((hrequests history q).2 error hplan).1⟩

end TableGateway.Gateway

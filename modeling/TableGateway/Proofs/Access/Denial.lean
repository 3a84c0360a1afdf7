import TableGateway.Proofs.Gateway.Failure

/-!
# Where access is denied

Access is denied in one place, before anything is planned: `Gateway.authorize`. Whatever is wrong
with the rest of a request is told in another way, so a denial says just that the access table does
not grant the permission (`Gateway.plan_eq_accessDenied_iff`).

That planning itself never denies anything is one case of what is known of its errors
(`FailsOnlyWith`).
-/

namespace TableGateway

/-- Planning on the catalog never denies access. -/
theorem CatalogEntry.isAccessDenied_of_plan {e : CatalogEntry} {pageSize : Nat} {q : Request}
    {error : Error} (h : e.plan pageSize q = .error error) : error.isAccessDenied = false := by
  have hconfigured : ∀ r text,
      FailsOnlyWith (fun error => (error.onResource r).isAccessDenied = false)
        (Identifier.parseConfigured text) :=
    fun _ => failsOnlyWith_parseConfigured fun _ => rfl
  -- neither an invalid request is a denial nor a configuration that cannot be used
  have hplan : FailsOnlyWith (·.isAccessDenied = false) (e.plan pageSize q) :=
    failsOnlyWith_plan (fun _ => rfl) (fun r _ =>
      AliasConfiguration.failsOnlyWith_table (fun _ => rfl) (fun s _ => hconfigured r s)
        fun s _ => hconfigured r s) pageSize
  exact hplan error h

namespace Gateway

/-- A request that is not granted fails for that. -/
theorem plan_of_not_allows {g : Gateway} {q : Request} {e : CatalogEntry}
    (hentry : g.entry q.aliasName = .ok e)
    (hdenied : g.access.allows q.scope q.action.permission = false) :
    g.plan q = .error (.accessDenied q.action.permission q.aliasName q.resource) := by
  have hauthorize : g.authorize q =
      .error (.accessDenied q.action.permission q.aliasName q.resource) := by
    rw [authorize, hdenied]
    rfl
  rw [plan, hentry, hauthorize]
  rfl

/-- On an alias that can be used, access is denied exactly when the permission of the action is not
granted. -/
theorem plan_eq_accessDenied_iff {g : Gateway} {q : Request} {e : CatalogEntry}
    (hentry : g.entry q.aliasName = .ok e) :
    (∃ error, g.plan q = .error error ∧ error.isAccessDenied = true) ↔
      g.access.allows q.scope q.action.permission = false := by
  constructor
  · rintro ⟨error, hplan, hdenied⟩
    cases hallows : g.access.allows q.scope q.action.permission with
    | false => rfl
    | true =>
      have hauthorize : g.authorize q = .ok () := by rw [authorize, hallows]; rfl
      rw [plan, hentry, hauthorize] at hplan
      rw [CatalogEntry.isAccessDenied_of_plan hplan] at hdenied
      cases hdenied
  · intro hdenied
    exact ⟨_, plan_of_not_allows hentry hdenied, rfl⟩

end Gateway

end TableGateway

import TableGateway.Proofs.Gateway.Reloading

/-!
# Aliases are isolated

The aliases of a configuration share one catalog, and their rules share one access table. Still no
alias reaches another: what is answered to a request is settled by the page size and by the entry of
the alias that it names.

* `Gateway.map_plan_eq` compares the gateways of two accepted configurations. A view of their plans,
  be it the plans themselves, is the same if the configurations state the same permissions and give
  the same view of their answers.
* `Gateway.plan_of_agreesOn` draws the conclusion for configurations that agree on an alias.
-/

namespace TableGateway

namespace Gateway

variable {c c' : Configuration} {g g' : Gateway}

/-! ## Two gateways -/

variable (hg : ofConfiguration c = .ok g) (hg' : ofConfiguration c' = .ok g')
include hg hg'

/-- What is stated alike is granted alike by the tables that the gateways are opened with. -/
theorem allows_eq_of_stated {s : Scope}
    (hstated : c.statedPermissions s.aliasName s.resource =
      c'.statedPermissions s.aliasName s.resource) (p : Permission) :
    g.access.allows s p = g'.access.allows s p := by
  obtain ⟨hc, ht, -⟩ := ofConfiguration_eq_ok_iff.mp hg
  obtain ⟨hc', ht', -⟩ := ofConfiguration_eq_ok_iff.mp hg'
  have heffective : g.access.effective s = g'.access.effective s :=
    AccessTable.effective_eq_of_stated hc hc' ht ht' hstated
  show (g.access.effective s).contains p = (g'.access.effective s).contains p
  rw [heffective]

/-- It is granted alike after a history too, since a table that comes into force does so in both. -/
theorem allows_after_eq {s : Scope}
    (hstated : c.statedPermissions s.aliasName s.resource =
      c'.statedPermissions s.aliasName s.resource)
    (history : List Event) (p : Permission) :
    (g.after history).access.allows s p = (g'.after history).access.allows s p := by
  rw [after_eq, after_eq]
  cases lastTable? history with
  | some access => rfl
  | none => exact allows_eq_of_stated hg hg' hstated p

/-- Two gateways give the same view of their plans if the permissions are stated alike, and if the
alias is unknown to both or the view of its two answers is the same. -/
theorem map_plan_eq {β : Type} {view : Plan → β} {q : Request}
    (hstated : c.statedPermissions q.aliasName q.resource =
      c'.statedPermissions q.aliasName q.resource)
    (hanswer : Option.Rel
      (fun a a' => (a.answer c.pageSize q).map view = (a'.answer c'.pageSize q).map view)
      (c.alias? q.aliasName) (c'.alias? q.aliasName))
    (history : List Event) :
    ((g.after history).plan q).map view = ((g'.after history).plan q).map view := by
  have hallows := allows_after_eq (s := q.scope) hg hg' hstated history q.action.permission
  obtain ⟨-, -, hcatalog⟩ := ofConfiguration_eq_ok_iff.mp hg
  obtain ⟨-, -, hcatalog'⟩ := ofConfiguration_eq_ok_iff.mp hg'
  rw [after_eq, after_eq] at hallows ⊢
  generalize ha : c.alias? q.aliasName = entry at hanswer
  generalize ha' : c'.alias? q.aliasName = entry' at hanswer
  cases hanswer with
  | none => rw [plan_of_unknown hcatalog _ ha, plan_of_unknown hcatalog' _ ha']
  | some hanswer =>
    rw [plan_of_alias hcatalog _ ha, plan_of_alias hcatalog' _ ha', hallows]
    split
    · exact hanswer
    · rfl

end Gateway

/-! ## One alias -/

/-- The configurations have the same page size and say the same of an alias. They need have no other
alias in common. -/
structure Configuration.AgreesOn (name : String) (c c' : Configuration) : Prop where
  /-- the page size is the same -/
  pageSize : c.pageSize = c'.pageSize
  /-- the entry of the alias is the same, or there is none in either -/
  entry : c.alias? name = c'.alias? name

/-- Whatever is configured for another alias, it is agreed on this one. -/
theorem Configuration.agreesOn_insert (c : Configuration) {name other : String}
    (hother : other ≠ name) (b : AliasConfiguration) :
    AgreesOn name c { c with aliases := c.aliases.insert other b } where
  pageSize := rfl
  entry := by rw [alias?, alias?, SortedMap.find?_insert, if_neg hother]

namespace Gateway

/-- **Aliases are isolated.** Gateways can be opened from any two accepted configurations that agree
on an alias, and they answer every request on the alias alike, whether with a plan or with an error,
at first and after the same history. The access tables of the two grant the same permissions on the
alias as a whole and on each of its resources. -/
theorem plan_of_agreesOn {c c' : Configuration} (hc : c.validate = .ok ())
    (hc' : c'.validate = .ok ()) {name : String} (h : c.AgreesOn name c') :
    (∃ g g', ofConfiguration c = .ok g ∧ ofConfiguration c' = .ok g' ∧
      ∀ history q, q.aliasName = name → (g.after history).plan q = (g'.after history).plan q) ∧
    ∃ t t', AccessTable.ofConfiguration c = .ok t ∧ AccessTable.ofConfiguration c' = .ok t' ∧
      ∀ resource, t.effective ⟨name, resource⟩ = t'.effective ⟨name, resource⟩ := by
  have hstated : ∀ resource,
      c.statedPermissions name resource = c'.statedPermissions name resource := by
    intro resource
    rw [Configuration.statedPermissions, h.entry]
    rfl
  obtain ⟨g, hg⟩ := exists_gateway hc
  obtain ⟨g', hg'⟩ := exists_gateway hc'
  obtain ⟨-, ht, -⟩ := ofConfiguration_eq_ok_iff.mp hg
  obtain ⟨-, ht', -⟩ := ofConfiguration_eq_ok_iff.mp hg'
  refine ⟨⟨g, g', hg, hg', ?_⟩, g.access, g'.access, ht, ht', ?_⟩
  · rintro history q rfl
    have hanswer : Option.Rel
        (fun a a' => (a.answer c.pageSize q).map id = (a'.answer c'.pageSize q).map id)
        (c.alias? q.aliasName) (c'.alias? q.aliasName) := by
      rw [h.entry, h.pageSize]
      cases c'.alias? q.aliasName with
      | none => exact .none
      | some a => exact .some rfl
    have hplan := map_plan_eq hg hg' (hstated q.resource) hanswer history
    rwa [Except.map_id] at hplan
  · intro resource
    exact AccessTable.effective_eq_of_stated hc hc' ht ht' (hstated resource)

/-- Another alias with a name that starts alike, of another driver, read-only, and with a rule and a
key column for the same resources: posts of `demo` are still read and its users are not. -/
theorem plan_of_agreesOn_similar :
    let a : AliasConfiguration :=
      { driver := "postgres", schema := some "public", rule := some "READ",
        resources := .ofList [("users", "NONE")] }
    let b : AliasConfiguration :=
      { driver := "oracle", readOnly := true, resources := .ofList [("users", "READ")],
        primaryKeys := .ofList [("posts", "pid")] }
    let c : Configuration := { aliases := .ofList [("demo", a)] }
    let c' : Configuration := { aliases := .ofList [("demo", a), ("demo2", b)] }
    let q : Request :=
      { aliasName := "demo", resource := some "posts", action := .count (some ⟨none, "7"⟩) }
    let p : Plan :=
      ⟨.postgresql, ⟨"SELECT COUNT(*) FROM public.posts t WHERE t.id = ?", ["7"]⟩, none⟩
    c.AgreesOn "demo" c' ∧
      (∃ g g', ofConfiguration c = .ok g ∧ ofConfiguration c' = .ok g' ∧
        g.plan q = .ok p ∧ g'.plan q = .ok p) ∧
      ∃ t', AccessTable.ofConfiguration c' = .ok t' ∧
        t'.effective ⟨"demo", some "users"⟩ = .none := by
  intro a b c c' q p
  have hdefects : c.defects = [] ∧ c'.defects = [] := by decide +kernel
  have hc : c.validate = .ok () := Configuration.validate_eq_ok_iff.mpr hdefects.1
  have hc' : c'.validate = .ok () := Configuration.validate_eq_ok_iff.mpr hdefects.2
  have hagrees : c.AgreesOn "demo" c' := c.agreesOn_insert (by decide) b
  obtain ⟨⟨g, g', hg, hg', hplan⟩, t, t', ht, ht', heffective⟩ := plan_of_agreesOn hc hc' hagrees
  have hread : (ofConfiguration c >>= fun g => g.plan q) = .ok p :=
    eq_ok_of_toOption (by decide +kernel)
  rw [hg] at hread
  have hstated : c.statedPermissions "demo" (some "users") = .ok .none := rfl
  rw [AccessTable.statedPermissions_eq hc ht] at hstated
  refine ⟨hagrees, ⟨g, g', hg, hg', hread, (hplan [] q rfl).symm.trans hread⟩, t', ht', ?_⟩
  exact (heffective (some "users")).symm.trans (Except.ok.inj hstated)

end Gateway

end TableGateway

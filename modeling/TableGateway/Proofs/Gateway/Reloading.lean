import TableGateway.Proofs.Access.Decision

/-!
# Reloading access tables

A gateway is used for long, and its access table is replaced while it is in use. What happens to it
is a history of requests and of new tables, in any order. Nothing is left of such a history but the
table that came last (`Gateway.after_eq`): requests change nothing, and a new table changes nothing
but the decision whether a request is granted.

* `AliasConfiguration.answer` is what a granted request gets. It is computed from the configuration.
* `Gateway.plan_after` says that after any history a request on a configured alias is answered like
  that, or is denied by the last table; and that denials tell requests apart by no more than what
  the table is asked.
-/

namespace TableGateway

/-! ## Histories -/

/-- What happens to a gateway. -/
inductive Event where
  /-- an access table comes into force -/
  | reload (access : AccessTable)
  /-- a request comes in -/
  | request (q : Request)

/-- The access table that comes into force. -/
def Event.table? : Event → Option AccessTable
  | reload access => some access
  | request _ => none

/-- The access table that came into force last. -/
def lastTable? (history : List Event) : Option AccessTable :=
  (history.filterMap Event.table?).getLast?

theorem lastTable?_cons (e : Event) (history : List Event) :
    lastTable? (e :: history) = (lastTable? history).or e.table? := by
  cases e with
  | request q => exact (Option.or_none).symm
  | reload access =>
    show ([access] ++ history.filterMap Event.table?).getLast? = _
    rw [List.getLast?_append]
    rfl

namespace Gateway

/-- The gateway after an event, and the answer if the event was a request. -/
def step (g : Gateway) : Event → Gateway × Option (Except Error Plan)
  | .reload access => (g.reload access, none)
  | .request q => (g, some (g.plan q))

/-- The gateway after a history. -/
def after (g : Gateway) (history : List Event) : Gateway :=
  history.foldl (fun g e => (g.step e).1) g

/-- No event but a new table does anything to the gateway. -/
theorem fst_step (g : Gateway) (e : Event) :
    (g.step e).1 = ⟨g.catalog, e.table?.getD g.access⟩ := by
  cases e <;> rfl

/-- What is left of a history is the last table. -/
theorem after_eq (g : Gateway) (history : List Event) :
    g.after history = ⟨g.catalog, (lastTable? history).getD g.access⟩ := by
  induction history generalizing g with
  | nil => rfl
  | cons e history ih =>
    have hrest : g.after (e :: history) = (g.step e).1.after history := rfl
    rw [hrest, ih, fst_step, lastTable?_cons, Option.getD_or]

end Gateway

/-! ## Answers -/

/-- What is answered to a request that is granted: its plan, made with the dialect of the alias, its
schema and key columns, and the page size of the configuration. -/
def AliasConfiguration.answer (a : AliasConfiguration) (pageSize : Nat) (q : Request) :
    Except Error Plan := do
  let dialect ← a.dialect
  CatalogEntry.plan ⟨dialect, a⟩ pageSize q

theorem AliasConfiguration.answer_eq {a : AliasConfiguration} {d : Dialect} (hd : a.dialect = .ok d)
    (pageSize : Nat) (q : Request) : a.answer pageSize q = CatalogEntry.plan ⟨d, a⟩ pageSize q := by
  rw [answer, hd]
  rfl

namespace Gateway

section

variable {c : Configuration} {catalog : Catalog}
  (hcatalog : Catalog.ofConfiguration c = .ok catalog) (t : AccessTable)
  {q : Request} {a : AliasConfiguration}
include hcatalog

/-- No other aliases are in the catalog than those configured. -/
theorem plan_of_unknown (ha : c.alias? q.aliasName = none) :
    plan ⟨catalog, t⟩ q = .error (.unknownAlias q.aliasName) := by
  have hfind := Catalog.find?_of_ofConfiguration hcatalog q.aliasName
  rw [ha] at hfind
  rw [plan, entry, ← Except.ok.inj hfind]
  rfl

/-- On a configured alias the table decides between two answers, and gives none of its own to a
request that it grants. -/
theorem plan_of_alias (ha : c.alias? q.aliasName = some a) :
    plan ⟨catalog, t⟩ q =
      if t.allows q.scope q.action.permission then a.answer c.pageSize q
      else .error (.accessDenied q.action.permission q.aliasName q.resource) := by
  obtain ⟨d, hd, hentry⟩ := entry_of_alias hcatalog t ha
  split
  · rename_i hallows
    have hauthorize : authorize ⟨catalog, t⟩ q = .ok () := if_pos hallows
    rw [plan, hentry, hauthorize, AliasConfiguration.answer_eq hd,
      ← (Catalog.ofConfiguration_eq_ok_iff.mp hcatalog).2]
    rfl
  · rename_i hallows
    exact plan_of_not_allows hentry (Bool.not_eq_true _ ▸ hallows)

end

variable {c : Configuration} {q : Request} {a : AliasConfiguration}

/-- What is wrong with a granted request is told as such, and named by what the request is about. -/
theorem invalidRequest_of_answer (hc : c.validate = .ok ()) {name : String}
    (ha : c.alias? name = some a) {error : Error} (h : a.answer c.pageSize q = .error error) :
    ∃ reason, error = .invalidRequest reason q.resource := by
  obtain ⟨d, hd⟩ := Configuration.dialect_of_validate hc ha
  rw [AliasConfiguration.answer_eq hd] at h
  exact CatalogEntry.invalidRequest_of_plan (Configuration.defects_of_validate hc ha) h

/-- A denial tells no more of the request than its scope and its permission. -/
theorem eq_of_isAccessDenied (hc : c.validate = .ok ()) {catalog : Catalog}
    (hcatalog : Catalog.ofConfiguration c = .ok catalog) {t : AccessTable} {error : Error}
    (h : plan ⟨catalog, t⟩ q = .error error) (hdenied : error.isAccessDenied = true) :
    error = .accessDenied q.action.permission q.aliasName q.resource := by
  cases ha : c.alias? q.aliasName with
  | none =>
    rw [plan_of_unknown hcatalog t ha] at h
    cases h
    cases hdenied
  | some a =>
    rw [plan_of_alias hcatalog t ha] at h
    split at h
    · obtain ⟨reason, rfl⟩ := invalidRequest_of_answer hc ha h
      cases hdenied
    · cases h
      rfl

/-- **Reloading changes the access decision alone.** A gateway that is opened from a configuration
answers a request, after any history of requests and new tables, as follows. If the alias is not
configured, it is unknown. Otherwise, if the table that came into force last does not grant the
permission on what the request is about, the request is denied for that. Otherwise the answer is the
one that the configuration determines, a plan or an invalid request.

So two requests that are denied get the same error, at whatever time and whatever else they say, if
they are about the same resource and need the same permission. -/
theorem plan_after {g : Gateway} (hg : ofConfiguration c = .ok g) (history : List Event)
    (q : Request) :
    (g.after history).plan q =
        (match c.alias? q.aliasName with
        | none => .error (.unknownAlias q.aliasName)
        | some a =>
          if ((lastTable? history).getD g.access).allows q.scope q.action.permission then
            a.answer c.pageSize q
          else .error (.accessDenied q.action.permission q.aliasName q.resource)) ∧
      (∀ a error, c.alias? q.aliasName = some a → a.answer c.pageSize q = .error error →
        ∃ reason, error = .invalidRequest reason q.resource) ∧
      ∀ history' q', q.aliasName = q'.aliasName → q.resource = q'.resource →
        q.action.permission = q'.action.permission → ∀ error error',
        (g.after history).plan q = .error error → error.isAccessDenied = true →
        (g.after history').plan q' = .error error' → error'.isAccessDenied = true →
        error = error' := by
  obtain ⟨hc, -, hcatalog⟩ := ofConfiguration_eq_ok_iff.mp hg
  simp only [after_eq]
  refine ⟨?_, fun a error ha h => invalidRequest_of_answer hc ha h, ?_⟩
  · cases ha : c.alias? q.aliasName with
    | none => exact plan_of_unknown hcatalog _ ha
    | some a => exact plan_of_alias hcatalog _ ha
  · intro history' q' halias hresource hpermission error error' h hdenied h' hdenied'
    rw [eq_of_isAccessDenied hc hcatalog h hdenied, eq_of_isAccessDenied hc hcatalog h' hdenied',
      halias, hresource, hpermission]

/-- A finder with a bad name is told to be one, until the table that granted reading is gone; then
it is denied like any other read of the table, be it for a key column that is no name. -/
theorem plan_after_revoked :
    let c : Configuration :=
      { aliases := .ofList [("demo", { driver := "h2", rule := some "READ" })] }
    let q : Request :=
      { aliasName := "demo", resource := some "users", action := .find "findByAnd" [] }
    let q' : Request :=
      { aliasName := "demo", resource := some "users", action := .read (some ⟨none, ""⟩),
        primaryKey := some "1" }
    ∃ g, ofConfiguration c = .ok g ∧
      g.plan q = .error (.invalidRequest (.finderEmptyClause "findByAnd") (some "users")) ∧
      (g.after [.request q, .reload .empty, .request q]).plan q =
        .error (.accessDenied .read "demo" (some "users")) ∧
      (g.after [.reload .empty]).plan q' = .error (.accessDenied .read "demo" (some "users")) := by
  intro c q q'
  have hdefects : c.defects = [] := by decide +kernel
  have hc : c.validate = .ok () := Configuration.validate_eq_ok_iff.mpr hdefects
  obtain ⟨g, hg⟩ := exists_gateway hc
  have hgranted : g.access.allows q.scope q.action.permission = true := by
    have hread : ((ofConfiguration c).toOption.any fun g =>
        g.access.allows q.scope q.action.permission) = true := by decide +kernel
    rwa [hg] at hread
  obtain ⟨hfresh, -, -⟩ := plan_after hg [] q
  obtain ⟨hrevoked, -, -⟩ := plan_after hg [.request q, .reload .empty, .request q] q
  obtain ⟨hother, -, -⟩ := plan_after hg [.reload .empty] q'
  refine ⟨_, hg, hfresh.trans ?_, hrevoked, hother⟩
  exact (if_pos hgranted).trans rfl

end Gateway

end TableGateway

import TableGateway.Proofs.Gateway.Reloading
import TableGateway.Proofs.Request.Limits

/-!
# Which parameters are consulted

A request can carry any parameters, in any order and any number of times. Its plan depends on very
little of that: on the first values of six keys (`Parameters.consultedKeys`), and on these only as
far as the action reads rows. Where a page is asked for by its number, the number and the size of it
are all that matters of the stretch. Where none is, they do not matter at all, nor does the size of
a page that is configured.

* `Parameters.first?_addAll`: what the first value of a key is after a run of additions.
* `Action.plan_congr`: an action looks at the stretch of rows and at the order that are asked for.
* `Gateway.plan_congr`: so does a plan, since nothing before it looks at parameters.
* `Gateway.PlannedByFirstValues` lists what this means for requests, and
  `Gateway.plan_of_firstValues` says that it holds of all.
-/

namespace TableGateway

/-! ## Parameters -/

namespace Parameters

variable {ps ps' : Parameters}

/-- The parameters with more at the end, added one after the other. -/
def addAll (ps : Parameters) (pairs : List (String × String)) : Parameters :=
  pairs.foldl (fun ps p => ps.add p.1 p.2) ps

/-- The keys whose first values are consulted. -/
def consultedKeys : List String := ["limit", "offset", "page", "size", "sort", "dir"]

/-- The first values of the keys are the same, where no value counts as one. -/
def AgreeOn (keys : List String) (ps ps' : Parameters) : Prop :=
  ∀ key ∈ keys, ps.first? key = ps'.first? key

instance (keys : List String) : Decidable (AgreeOn keys ps ps') :=
  inferInstanceAs (Decidable (∀ key ∈ keys, ps.first? key = ps'.first? key))

/-- Values that are added come after those that were there. -/
theorem values_addAll (ps : Parameters) (pairs : List (String × String)) (key : String) :
    (ps.addAll pairs).values key = ps.values key ++ (⟨pairs⟩ : Parameters).values key := by
  induction pairs generalizing ps with
  | nil => exact (List.append_nil _).symm
  | cons p pairs ih =>
    have hstep : (ps.addAll (p :: pairs)).values key =
        (ps.add p.1 p.2).values key ++ (⟨pairs⟩ : Parameters).values key := ih (ps.add p.1 p.2)
    rw [hstep, values_add, List.append_assoc]
    by_cases h : p.1 = key <;> simp [values, h]

/-- The first value of a key is the one that was there, else the first one that is added. -/
theorem first?_addAll (ps : Parameters) (pairs : List (String × String)) (key : String) :
    (ps.addAll pairs).first? key = (ps.first? key).or ((⟨pairs⟩ : Parameters).first? key) := by
  rw [first?, values_addAll, List.head?_append]
  rfl

theorem AgreeOn.addAll {keys : List String} (h : AgreeOn keys ps ps')
    (pairs : List (String × String)) : AgreeOn keys (ps.addAll pairs) (ps'.addAll pairs) := by
  intro key hkey
  rw [first?_addAll, first?_addAll, h key hkey]

/-- A key that is there has a first value. -/
theorem first?_isSome_of_contains {key : String} (h : ps.contains key = true) :
    (ps.first? key).isSome = true := by
  obtain ⟨p, hp, hkey⟩ := List.any_eq_true.mp h
  have hmem : p.2 ∈ ps.values key := List.mem_map_of_mem (List.mem_filter.mpr ⟨hp, hkey⟩)
  obtain ⟨first, rest, hvalues⟩ := List.exists_cons_of_ne_nil (List.ne_nil_of_mem hmem)
  rw [first?, hvalues, List.head?_cons, Option.isSome_some]

/-- Nothing that counts is added by another value of a key that is there, or by a value of a key
that is not consulted. -/
theorem agreeOn_add {keys : List String} {key : String}
    (h : ps.contains key = true ∨ key ∉ keys) (value : String) :
    AgreeOn keys (ps.add key value) ps := by
  intro other hother
  rw [first?_add]
  by_cases heq : key = other
  · subst heq
    have hcontains : ps.contains key = true := h.resolve_right (fun hnot => hnot hother)
    obtain ⟨first, hfirst⟩ := Option.isSome_iff_exists.mp (first?_isSome_of_contains hcontains)
    rw [hfirst, Option.some_or]
  · rw [if_neg heq, Option.or_none]

/-- The first value of a key is one of its values, so the order of different keys does not count. -/
theorem agreeOn_of_values (h : ∀ key, ps.values key = ps'.values key) (keys : List String) :
    AgreeOn keys ps ps' := by
  intro key _
  rw [first?, first?, h key]

theorem AgreeOn.mono {keys keys' : List String} (h : AgreeOn keys ps ps') (hkeys : keys' ⊆ keys) :
    AgreeOn keys' ps ps' := fun key hkey => h key (hkeys hkey)

theorem number?_congr {key : String} (h : ps.first? key = ps'.first? key) :
    ps.number? key = ps'.number? key := by
  rw [number?, number?, h]

end Parameters

open Parameters

/-! ## Stretches and orders -/

section

variable {ps ps' : Parameters}

/-- A page that is asked for by its number is found by that and by the size of a page. -/
theorem RowRange.requestedPage_of_page {page : Nat} (hpage : ps.Usable "page" page)
    (h : AgreeOn ["page", "size"] ps ps') (pageSize : Nat) :
    requestedPage ps pageSize = requestedPage ps' pageSize := by
  have hnumber : ps.number? "page" = some page := number?_eq_some_iff.mpr hpage
  have hnumber' : ps'.number? "page" = some page := by
    rw [← number?_congr (h "page" (by simp)), hnumber]
  rw [requestedPage_eq, requestedPage_eq, hnumber, hnumber', positive?, positive?,
    number?_congr (h "size" (by simp))]
  rfl

/-- Where no page is asked for by its number, sizes of pages do not count. -/
theorem RowRange.requestedPage_of_no_page (hpage : ∀ page, ¬ ps.Usable "page" page)
    (hpage' : ∀ page, ¬ ps'.Usable "page" page) (h : AgreeOn ["limit", "offset"] ps ps')
    (pageSize pageSize' : Nat) : requestedPage ps pageSize = requestedPage ps' pageSize' := by
  rw [requestedPage_eq, requestedPage_eq, number?_eq_none_iff.mpr hpage,
    number?_eq_none_iff.mpr hpage', Option.elim_none, Option.elim_none, requested_eq, requested_eq,
    positive?, positive?, number?_congr (h "limit" (by simp)), number?_congr (h "offset" (by simp))]

/-- The stretch that is asked for is settled by four keys. -/
theorem RowRange.requestedPage_congr (h : AgreeOn ["limit", "offset", "page", "size"] ps ps')
    (pageSize : Nat) : requestedPage ps pageSize = requestedPage ps' pageSize := by
  rw [requestedPage_eq, requestedPage_eq, requested_eq, requested_eq, positive?, positive?,
    positive?, positive?, number?_congr (h "limit" (by simp)), number?_congr (h "offset" (by simp)),
    number?_congr (h "page" (by simp)), number?_congr (h "size" (by simp))]

/-- The order that is asked for is settled by two keys. -/
theorem SortOrder.requested_congr (h : AgreeOn ["sort", "dir"] ps ps')
    (otherwise : Except Error Identifier) : requested ps otherwise = requested ps' otherwise := by
  rw [requested, requested, requestedDirection, requestedDirection, requestedColumn,
    requestedColumn, h "sort" (by simp), h "dir" (by simp)]

theorem readOrder_congr (h : AgreeOn ["sort", "dir"] ps ps') (t : Table) :
    readOrder ps t = readOrder ps' t := by
  rw [readOrder, readOrder, SortOrder.isRequested, SortOrder.isRequested, h "sort" (by simp),
    h "dir" (by simp), SortOrder.requested_congr h]

end

/-! ## Plans -/

/-- The action reads rows, in some order and as far as a page. -/
def Action.readsRows : Action → Bool
  | read _ | find .. => true
  | describe | count _ | insert _ | update .. | delete _ | call .. => false

section

variable {ps ps' : Parameters} {pageSize pageSize' : Nat}

/-- Of all that parameters say, an action looks at the stretch of rows and at the order. -/
theorem Action.plan_congr (d : Dialect) (t : Table) (a : Action)
    (hrange : RowRange.requestedPage ps pageSize = RowRange.requestedPage ps' pageSize')
    (horder : AgreeOn ["sort", "dir"] ps ps') :
    a.plan d t pageSize ps = a.plan d t pageSize' ps' := by
  cases a with
  | read lookup => rw [plan, plan, hrange, readOrder_congr horder]
  | find name arguments => rw [plan, plan, hrange, SortOrder.requested_congr horder]
  | describe => rfl
  | count lookup => rfl
  | insert values => rfl
  | update key values => rfl
  | delete key => rfl
  | call procedure arguments => rfl

/-- An action that reads no rows does not look at parameters. -/
theorem Action.plan_of_not_readsRows (d : Dialect) (t : Table) {a : Action}
    (ha : a.readsRows = false) : a.plan d t pageSize ps = a.plan d t pageSize' ps' := by
  cases a with
  | read lookup => cases ha
  | find name arguments => cases ha
  | describe => rfl
  | count lookup => rfl
  | insert values => rfl
  | update key values => rfl
  | delete key => rfl
  | call procedure arguments => rfl

end

/-- The gateway with pages of another size. -/
def Gateway.withPageSize (g : Gateway) (pageSize : Nat) : Gateway :=
  { g with catalog := { g.catalog with pageSize } }

namespace Gateway

/-- Nothing before an action looks at the parameters or at the size of a page. -/
theorem plan_congr (g : Gateway) (q : Request) {ps ps' : Parameters} {pageSize pageSize' : Nat}
    (h : ∀ d t, q.action.plan d t pageSize ps = q.action.plan d t pageSize' ps') :
    (g.withPageSize pageSize).plan { q with parameters := ps } =
      (g.withPageSize pageSize').plan { q with parameters := ps' } := by
  have hresource : ∀ (e : CatalogEntry) (r : String),
      e.planResource pageSize r { q with parameters := ps } =
        e.planResource pageSize' r { q with parameters := ps' } := by
    intro e r
    simp only [CatalogEntry.planResource, h]
  have hanswer : ∀ e : CatalogEntry, e.plan pageSize { q with parameters := ps } =
      e.plan pageSize' { q with parameters := ps' } := by
    intro e
    simp only [CatalogEntry.plan, hresource]
  show (g.entry q.aliasName >>= fun e => g.authorize q >>= fun _ => e.plan pageSize _) = _
  simp only [hanswer]
  rfl

/-- Where pages of another size are configured, the gateways differ in that and in nothing else, at
any time. -/
theorem after_withPageSize {c : Configuration} {g g' : Gateway} {pageSize : Nat}
    (hg : ofConfiguration c = .ok g) (hg' : ofConfiguration { c with pageSize } = .ok g')
    (history : List Event) : g'.after history = (g.after history).withPageSize pageSize := by
  obtain ⟨-, ht, hcatalog⟩ := ofConfiguration_eq_ok_iff.mp hg
  obtain ⟨-, ht', hcatalog'⟩ := ofConfiguration_eq_ok_iff.mp hg'
  obtain ⟨hentries, -⟩ := Catalog.ofConfiguration_eq_ok_iff.mp hcatalog
  obtain ⟨hentries', hpageSize⟩ := Catalog.ofConfiguration_eq_ok_iff.mp hcatalog'
  have haccess : g'.access = g.access := Except.ok.inj (ht'.symm.trans ht)
  have hpage : g'.catalog.pageSize = pageSize := hpageSize
  have hcatalogs : g'.catalog = ⟨g.catalog.entries, pageSize⟩ := by
    rw [← Except.ok.inj (hentries'.symm.trans hentries), ← hpage]
  rw [after_eq, after_eq, haccess, hcatalogs]
  rfl

/-- The plans of a request and of those that differ from it in their parameters, on a gateway and on
those that differ from it in the size of a page. -/
structure PlannedByFirstValues (g : Gateway) (q : Request) : Prop where
  /-- the first values of the consulted keys settle the plan -/
  firstValues : ∀ ps ps', AgreeOn consultedKeys ps ps' →
    g.plan { q with parameters := ps } = g.plan { q with parameters := ps' }
  /-- another value of a key that is there or of a key that is not consulted does not matter,
  whatever is added after it -/
  added : ∀ (ps : Parameters) key value later, ps.contains key = true ∨ key ∉ consultedKeys →
    g.plan { q with parameters := (ps.add key value).addAll later } =
      g.plan { q with parameters := ps.addAll later }
  /-- the order of different keys does not matter -/
  reordered : ∀ ps ps', (∀ key, ps.values key = ps'.values key) →
    g.plan { q with parameters := ps } = g.plan { q with parameters := ps' }
  /-- if no rows are read, then neither the parameters matter nor the size of a page -/
  rowless : q.action.readsRows = false → ∀ ps ps' pageSize,
    (g.withPageSize pageSize).plan { q with parameters := ps' } =
      g.plan { q with parameters := ps }
  /-- if a page is asked for by its number, then `limit` and `offset` do not matter -/
  paged : ∀ (ps ps' : Parameters) page, ps.Usable "page" page →
    AgreeOn ["page", "size", "sort", "dir"] ps ps' →
    g.plan { q with parameters := ps' } = g.plan { q with parameters := ps }
  /-- if none is, then neither `size` matters nor the size of a page -/
  unpaged : ∀ ps ps' : Parameters, (∀ page, ¬ ps.Usable "page" page) →
    (∀ page, ¬ ps'.Usable "page" page) → AgreeOn ["limit", "offset", "sort", "dir"] ps ps' →
    ∀ pageSize, (g.withPageSize pageSize).plan { q with parameters := ps' } =
      g.plan { q with parameters := ps }

/-- **Plans depend on six first values.** On every gateway, whatever table is in force, a request is
planned by the first values of the keys that are consulted: `limit`, `offset`, `page`, `size`,
`sort` and `dir`. Actions that read no rows are planned without any. Those that do are planned
without `limit` and `offset` if there is a page number, and without `size` and the size that is
configured if there is none. -/
theorem plan_of_firstValues (g : Gateway) (q : Request) : g.PlannedByFirstValues q := by
  have hfirst : ∀ ps ps', AgreeOn consultedKeys ps ps' →
      g.plan { q with parameters := ps } = g.plan { q with parameters := ps' } := by
    intro ps ps' h
    refine plan_congr g q fun d t => q.action.plan_congr d t ?_ (h.mono (by decide))
    exact RowRange.requestedPage_congr (h.mono (by decide)) g.catalog.pageSize
  exact
    { firstValues := hfirst
      added := fun ps key value later h => hfirst _ _ ((agreeOn_add h value).addAll later)
      reordered := fun ps ps' h => hfirst _ _ (agreeOn_of_values h consultedKeys)
      rowless := fun ha ps ps' pageSize =>
        plan_congr g q fun d t => Action.plan_of_not_readsRows d t ha
      paged := fun ps ps' page hpage h => (plan_congr g q fun d t =>
        q.action.plan_congr d t
          (RowRange.requestedPage_of_page hpage (h.mono (by decide)) g.catalog.pageSize)
          (h.mono (by decide))).symm
      unpaged := fun ps ps' hpage hpage' h pageSize => (plan_congr g q fun d t =>
        q.action.plan_congr d t
          (RowRange.requestedPage_of_no_page hpage hpage' (h.mono (by decide)) _ _)
          (h.mono (by decide))).symm }

/-- The second page is the same, however it is asked for, also where pages of another size are
configured. -/
theorem plan_of_firstValues_page :
    let a : AliasConfiguration := { driver := "mysql", rule := some "READ" }
    let c : Configuration := { aliases := .ofList [("demo", a)] }
    let q : Request :=
      { aliasName := "demo", resource := some "users", action := .find "findById" ["7"] }
    let paged : Parameters := ⟨[("size", "5"), ("limit", "x"), ("page", "2"), ("page", "9")]⟩
    let paged' : Parameters := ⟨[("page", "2"), ("Page", "3"), ("size", "5"), ("offset", "8")]⟩
    let unpaged : Parameters := ⟨[("limit", "5"), ("offset", "5")]⟩
    let unpaged' : Parameters := ⟨[("offset", "5"), ("page", "+2"), ("size", "8"), ("limit", "5")]⟩
    let p : Plan :=
      ⟨.mysql, ⟨"SELECT t.* FROM users t WHERE t.id = ? ORDER BY t.id ASC LIMIT 5,5",
        ["7"]⟩, some (.clamp 5 5)⟩
    ∃ g g', ofConfiguration c = .ok g ∧ ofConfiguration { c with pageSize := 100 } = .ok g' ∧
      g.plan { q with parameters := paged } = .ok p ∧
      g.plan { q with parameters := paged' } = .ok p ∧
      g.plan { q with parameters := unpaged } = .ok p ∧
      g'.plan { q with parameters := unpaged' } = .ok p := by
  intro a c q paged paged' unpaged unpaged' p
  obtain ⟨g, hg, hpaged⟩ : ∃ g, ofConfiguration c = .ok g ∧
      g.plan { q with parameters := paged } = .ok p :=
    exists_of_bind_eq_ok (eq_ok_of_toOption (by decide +kernel))
  obtain ⟨g', hg', -⟩ : ∃ g', ofConfiguration { c with pageSize := 100 } = .ok g' ∧
      g'.plan { q with parameters := paged } = .ok p :=
    exists_of_bind_eq_ok (eq_ok_of_toOption (by decide +kernel))
  have hunpaged : (ofConfiguration c >>= (·.plan { q with parameters := unpaged })) = .ok p :=
    eq_ok_of_toOption (by decide +kernel)
  rw [hg] at hunpaged
  have hsize : g' = g.withPageSize 100 := after_withPageSize hg hg' []
  have hplanned := plan_of_firstValues g q
  refine ⟨g, g', hg, hg', hpaged, ?_, hunpaged, ?_⟩
  · rw [hplanned.paged paged paged' 2 (number?_eq_some_iff.mp (by decide)) (by decide), hpaged]
  · rw [hsize, hplanned.unpaged unpaged unpaged' (number?_eq_none_iff.mp (by decide))
      (number?_eq_none_iff.mp (by decide)) (by decide)]
    exact hunpaged

end Gateway

end TableGateway

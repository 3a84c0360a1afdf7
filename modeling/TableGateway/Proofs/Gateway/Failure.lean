import TableGateway.Proofs.Gateway.Planning

/-!
# How planning fails

Planning calls many functions, and each has errors of its own. `FailsOnlyWith P x` says that an
error of `x` has the property `P`. It is kept by the ways in which computations are put together, so
one lemma for each function that planning calls says which errors come of it:

* what reads a request fails with an invalid request that names no resource;
* a finder and a statement that changes rows name their table;
* finding a table can also find fault with the configuration, but not for an alias without defects.

`CatalogEntry.failsOnlyWith_plan` puts these together.
-/

namespace TableGateway

/-- If the computation fails, it does so with an error that has the property. -/
def FailsOnlyWith {ε α : Type} (P : ε → Prop) (x : Except ε α) : Prop := ∀ e, x = .error e → P e

namespace FailsOnlyWith

variable {ε ε' α β : Type} {P : ε → Prop} {x : Except ε α}

theorem ok (a : α) : FailsOnlyWith P (.ok a : Except ε α) := nofun

theorem error {e : ε} (h : P e) : FailsOnlyWith P (.error e : Except ε α) := by
  rintro _ ⟨⟩
  exact h

/-- The second step needs to be looked at only for what the first can come to. -/
theorem bind {f : α → Except ε β} (hx : FailsOnlyWith P x)
    (hf : ∀ a, x = .ok a → FailsOnlyWith P (f a)) : FailsOnlyWith P (x >>= f) := by
  intro e he
  cases x with
  | error e' =>
    cases he
    exact hx e rfl
  | ok a => exact hf a rfl e he

theorem map (hx : FailsOnlyWith P x) (f : α → β) : FailsOnlyWith P (x.map f) := by
  intro e he
  cases x with
  | error e' =>
    cases he
    exact hx e rfl
  | ok a => cases he

theorem mapError {Q : ε' → Prop} {f : ε → ε'} (hx : FailsOnlyWith P x)
    (hf : ∀ e, P e → Q (f e)) : FailsOnlyWith Q (x.mapError f) := by
  intro e he
  cases x with
  | error e' =>
    cases he
    exact hf e' (hx e' rfl)
  | ok a => cases he

/-- Errors that are all turned into such with the property. -/
theorem of_mapError {f : ε' → ε} (hf : ∀ e, P (f e)) (y : Except ε' α) :
    FailsOnlyWith P (y.mapError f) :=
  mapError (P := fun _ => True) (fun _ _ => trivial) fun e _ => hf e

theorem mapM_option {f : β → Except ε α} {o : Option β} (hf : ∀ b ∈ o, FailsOnlyWith P (f b)) :
    FailsOnlyWith P (o.mapM f) := by
  cases o with
  | none => exact ok none
  | some b => exact (hf b rfl).bind fun a _ => ok (some a)

theorem foldlM {f : β → α → Except ε β} (hf : ∀ b a, FailsOnlyWith P (f b a)) (as : List α)
    (b : β) : FailsOnlyWith P (as.foldlM f b) := by
  induction as generalizing b with
  | nil => exact ok b
  | cons a as ih =>
    rw [List.foldlM_cons]
    exact (hf b a).bind fun b' _ => ih b'

end FailsOnlyWith

open FailsOnlyWith

/-! ## Reading requests -/

section

variable {P : Error → Prop} (hP : ∀ reason, P (.request reason))

include hP

theorem failsOnlyWith_parse (text : String) : FailsOnlyWith P (Identifier.parse text) :=
  of_mapError hP _

theorem failsOnlyWith_build (column : String) (op : Operator) (values : List String) :
    FailsOnlyWith P (Condition.build column op values) := by
  rw [Condition.build]
  split
  · exact error (hP _)
  split
  · exact (failsOnlyWith_parse hP column).map _
  · exact error (hP _)

theorem failsOnlyWith_lookup (t : Table) (l : Option Lookup) :
    FailsOnlyWith P (Lookup.conditions t l) := by
  unfold Lookup.conditions
  split
  · exact ok _
  split
  · exact error (hP _)
  split
  · exact ok _
  · exact (failsOnlyWith_parse hP _).map _

theorem failsOnlyWith_order (ps : Parameters) {otherwise : Except Error Identifier}
    (h : FailsOnlyWith P otherwise) : FailsOnlyWith P (SortOrder.requested ps otherwise) := by
  have hdirection : FailsOnlyWith P (SortOrder.requestedDirection ps) := by
    unfold SortOrder.requestedDirection Direction.parse
    split
    · exact ok _
    split
    · exact ok _
    split
    · exact ok _
    · exact error (hP _)
  have hcolumn : FailsOnlyWith P (SortOrder.requestedColumn ps otherwise) := by
    rw [SortOrder.requestedColumn]
    split
    · exact h
    split
    · exact h
    · unfold SortOrder.parseColumn
      dsimp only
      split
      · exact error (hP _)
      · exact failsOnlyWith_parse hP _
  exact hdirection.bind fun _ _ => hcolumn.bind fun _ _ => ok _

theorem failsOnlyWith_readOrder (ps : Parameters) (t : Table) :
    FailsOnlyWith P (readOrder ps t) := by
  rw [readOrder]
  split
  · exact (failsOnlyWith_order hP ps (ok _)).map _
  · exact ok _

theorem failsOnlyWith_clauses (name : String) (clauses : List (List String))
    (args : List String) : FailsOnlyWith P (Finder.conditions name clauses args) := by
  induction clauses generalizing args with
  | nil => exact ok _
  | cons words rest ih =>
    rw [Finder.conditions]
    dsimp only
    split
    · exact error (hP _)
    split
    · exact error (hP _)
    split
    · exact error (hP _)
    · exact (failsOnlyWith_build hP _ _ _).bind fun _ _ => (ih _).bind fun _ _ => ok _

theorem failsOnlyWith_allConditions (name : String) (words args : List String) :
    FailsOnlyWith P (Finder.allConditions name words args) := by
  rw [Finder.allConditions]
  split
  · exact error (hP _)
  · refine (failsOnlyWith_clauses hP name _ args).bind ?_
    rintro ⟨found, left⟩ -
    dsimp only
    split
    · exact ok _
    · exact error (hP _)

theorem failsOnlyWith_decode (t : Table) (name : String) (args : List String) :
    FailsOnlyWith P (Finder.decode t name args) := by
  rw [Finder.decode]
  split
  · exact error (hP _)
  split
  · exact (failsOnlyWith_allConditions hP name _ args).map _
  · exact error (hP _)

theorem failsOnlyWith_assignments (pairs : List (String × String)) :
    FailsOnlyWith P (Assignments.ofPairs pairs) := by
  have hassign : ∀ (a : Assignments) (p : String × String), FailsOnlyWith P (a.assign p.1 p.2) :=
    fun _ p => (failsOnlyWith_parse hP p.1).map _
  exact foldlM hassign pairs _

end

/-! ## Planning on a table -/

section

variable {P : Error → Prop} {t : Table}

/-- What is wrong with a finder is said of its table. -/
theorem failsOnlyWith_finder (hnamed : ∀ reason, P (.invalidRequest reason (some t.name.name)))
    (name : String) (args : List String) : FailsOnlyWith P (Finder.parse t name args) := by
  have hdecode : FailsOnlyWith (∃ reason, · = Error.request reason) (Finder.decode t name args) :=
    failsOnlyWith_decode (fun reason => ⟨reason, rfl⟩) t name args
  refine hdecode.mapError ?_
  rintro _ ⟨reason, rfl⟩
  exact hnamed reason

theorem failsOnlyWith_insert (hnamed : ∀ reason, P (.invalidRequest reason (some t.name.name)))
    (d : Dialect) (values : Assignments) : FailsOnlyWith P (d.insert ⟨t, values⟩) := by
  rw [Dialect.insert]
  split
  · exact error (hnamed _)
  · exact ok _

theorem failsOnlyWith_update (hnamed : ∀ reason, P (.invalidRequest reason (some t.name.name)))
    (d : Dialect) (key : Option String) (values : Assignments) :
    FailsOnlyWith P (d.update ⟨t, key, values⟩) := by
  rw [Dialect.update]
  split
  · exact error (hnamed _)
  split
  · exact error (hnamed _)
  · exact ok _

theorem failsOnlyWith_delete (hnamed : ∀ reason, P (.invalidRequest reason (some t.name.name)))
    (d : Dialect) (key : Option String) : FailsOnlyWith P (d.delete ⟨t, key⟩) := by
  rw [Dialect.delete]
  split
  · exact error (hnamed _)
  · exact ok _

/-- What is done to a table fails with an invalid request, on this table if any is named. -/
theorem Action.failsOnlyWith_plan (hP : ∀ reason, P (.request reason))
    (hnamed : ∀ reason, P (.invalidRequest reason (some t.name.name))) (d : Dialect)
    (pageSize : Nat) (ps : Parameters) (a : Action) :
    FailsOnlyWith P (a.plan d t pageSize ps) := by
  cases a with
  | describe => exact ok _
  | read lookup =>
    exact (failsOnlyWith_lookup hP t lookup).bind fun _ _ =>
      (failsOnlyWith_readOrder hP ps t).bind fun _ _ => ok _
  | count lookup => exact (failsOnlyWith_lookup hP t lookup).bind fun _ _ => ok _
  | find name arguments =>
    exact (failsOnlyWith_order hP ps (ok _)).bind fun _ _ =>
      (failsOnlyWith_finder hnamed name arguments).bind fun _ _ => ok _
  | insert values =>
    exact (failsOnlyWith_assignments hP values).bind fun values _ =>
      (failsOnlyWith_insert hnamed d values).bind fun _ _ => ok _
  | update key values =>
    exact (failsOnlyWith_assignments hP values).bind fun values _ =>
      (failsOnlyWith_update hnamed d key values).bind fun _ _ => ok _
  | delete key => exact (failsOnlyWith_delete hnamed d key).bind fun _ _ => ok _
  | call procedure arguments => exact error (hP _)

end

/-! ## Planning on the catalog -/

theorem failsOnlyWith_parseConfigured {P : Error → Prop}
    (hP : ∀ reason, P (.invalidConfiguration reason)) (text : String) :
    FailsOnlyWith P (Identifier.parseConfigured text) :=
  of_mapError hP _

/-- Finding a table fails for its name, or for what is configured for it. -/
theorem AliasConfiguration.failsOnlyWith_table {P : Error → Prop} {a : AliasConfiguration}
    {resource : String} (hP : ∀ reason, P (.request reason))
    (hschema : ∀ s ∈ a.schema, FailsOnlyWith P (Identifier.parseConfigured s))
    (hkey : ∀ s ∈ a.primaryKeys.find? resource, FailsOnlyWith P (Identifier.parseConfigured s)) :
    FailsOnlyWith P (a.table resource) :=
  (failsOnlyWith_parse hP resource).bind fun _ _ =>
    (mapM_option hschema).bind fun _ _ => (mapM_option hkey).bind fun _ _ => ok _

/-- Nothing is wrong with what is configured for a table of an alias without defects. -/
theorem AliasConfiguration.failsOnlyWith_table_of_defects {P : Error → Prop}
    {a : AliasConfiguration} (ha : a.defects = []) (hP : ∀ reason, P (.request reason))
    (resource : String) : FailsOnlyWith P (a.table resource) := by
  have hname : ∀ {text}, (∃ i : Identifier, i.name = text) →
      FailsOnlyWith P (Identifier.parseConfigured text) := by
    rintro _ ⟨i, rfl⟩
    rw [Identifier.parseConfigured_eq_ok_iff.mpr rfl]
    exact ok i
  have hwellFormed := defects_eq_nil_iff.mp ha
  exact failsOnlyWith_table hP (fun s hs => hname (hwellFormed.schema s hs))
    fun column hcolumn => hname (hwellFormed.keyColumn resource column hcolumn)

namespace CatalogEntry

variable {P : Error → Prop} {e : CatalogEntry}

/-- What a request on a resource fails with, apart from what is wrong with the configuration. -/
theorem failsOnlyWith_planResource {resource : String} (hP : ∀ reason, P (.request reason))
    (hnamed : ∀ reason, P (.invalidRequest reason (some resource)))
    (htable : FailsOnlyWith P (e.configuration.table resource)) (pageSize : Nat) (q : Request) :
    FailsOnlyWith P (e.planResource pageSize resource q) := by
  have hrequested : FailsOnlyWith P (e.table resource q.primaryKey) := by
    refine htable.bind fun configured _ => ?_
    cases q.primaryKey with
    | none => exact ok _
    | some column => exact (failsOnlyWith_parse hP column).bind fun _ _ => ok _
  refine hrequested.bind fun t ht => ?_
  rw [← (parts_of_table ht).1] at hnamed
  exact Action.failsOnlyWith_plan hP hnamed e.dialect pageSize q.parameters q.action

theorem failsOnlyWith_planAlias (hP : ∀ reason, P (.request reason)) (a : Action) :
    FailsOnlyWith P (e.planAlias a) := by
  unfold planAlias
  split
  · exact ok _
  · exact ((failsOnlyWith_parse hP _).map _).map _
  · exact error (hP _)

/-- Planning fails with an invalid request on what the request is about, or with an error of finding
its table. -/
theorem failsOnlyWith_plan {q : Request} (hP : ∀ reason, P (.invalidRequest reason q.resource))
    (htable : ∀ r ∈ q.resource,
      FailsOnlyWith (fun error => P (error.onResource r)) (e.configuration.table r))
    (pageSize : Nat) : FailsOnlyWith P (e.plan pageSize q) := by
  rw [plan]
  cases hresource : q.resource with
  | none =>
    rw [hresource] at hP
    exact (failsOnlyWith_planAlias hP q.action).bind fun _ _ => ok _
  | some r =>
    rw [hresource] at hP htable
    -- the error names `r`, whether or not it did so before
    have hplan := failsOnlyWith_planResource (P := fun error => P (error.onResource r)) hP hP
      (htable r rfl) pageSize q
    exact (hplan.mapError fun _ h => h).bind fun _ _ => ok _

/-- On an alias without defects, planning fails with an invalid request alone, and names what the
request is about. -/
theorem invalidRequest_of_plan (hconfiguration : e.configuration.defects = []) {pageSize : Nat}
    {q : Request} {error : Error} (h : e.plan pageSize q = .error error) :
    ∃ reason, error = .invalidRequest reason q.resource := by
  have hplan : FailsOnlyWith (∃ reason, · = Error.invalidRequest reason q.resource)
      (e.plan pageSize q) := by
    refine failsOnlyWith_plan (fun reason => ⟨reason, rfl⟩) (fun r hr => ?_) pageSize
    rw [Option.mem_def.mp hr]
    exact AliasConfiguration.failsOnlyWith_table_of_defects hconfiguration
      (fun reason => ⟨reason, rfl⟩) r
  exact hplan error h

end CatalogEntry

end TableGateway

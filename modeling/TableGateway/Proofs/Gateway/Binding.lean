import TableGateway.Proofs.Gateway.Planning
import TableGateway.Proofs.Sql.Composition
import TableGateway.Proofs.Statement.Assignments

/-!
# What the statements of plans bind and hold

The values of a request are bound and never written into SQL: the parameters of a planned statement
are the values that the caller gave, and its text is made of names and fixed words.

* `Action.Binds a vs`: `vs` are the values that the action `a` gives, in the order in which a
  statement for it takes them.
* `Gateway.plan_binds`: these are the parameters of every plan, and there is a `?` for each.
* `Gateway.isStatementChar_of_plan`: whatever texts a request has as names, its statement has none
  but harmless characters.

Both are read off how the statement is composed (`CatalogEntry.composed_of_plan`).
-/

namespace TableGateway

/-- The values that the action gives, in the order in which a statement for it takes them. -/
def Action.Binds : Action → List String → Prop
  | describe, vs => vs = []
  | read lookup, vs | count lookup, vs => vs = lookup.toList.map Lookup.value
  | find _ arguments, vs => vs = arguments
  | insert pairs, vs =>
    vs.map some = (Assignments.namedColumns pairs).map (Assignments.lastValue? pairs)
  | update key pairs, vs =>
    ∃ ws : List String, vs = ws ++ [key] ∧
      ws.map some = (Assignments.namedColumns pairs).map (Assignments.lastValue? pairs)
  | delete key, vs => vs = [key]
  | call _ arguments, vs => vs = arguments

/-! ## The values of conditions -/

theorem Lookup.values_of_conditions {t : Table} {lookup : Option Lookup} {cs : List Condition}
    (h : Lookup.conditions t lookup = .ok cs) :
    cs.flatMap Condition.values = lookup.toList.map Lookup.value := by
  unfold conditions at h
  split at h
  · cases h
    rfl
  split at h
  · cases h
  split at h
  · cases h
    rfl
  · obtain ⟨c, -, rfl⟩ := exists_of_map_eq_ok h
    rfl

/-! ## How planned statements are composed -/

/-- The statement is composed of plain text and of placeholders for the values. -/
def Statement.Composed (st : Statement) (vs : List String) : Prop :=
  ∃ ps, Sql.Composes ps vs ∧ st = .ofPieces ps

namespace Statement.Composed

variable {st : Statement} {vs : List String}

theorem params_eq (h : st.Composed vs) : st.params = vs := by
  obtain ⟨ps, hps, rfl⟩ := h
  exact hps.params_eq

theorem count_placeholder (h : st.Composed vs) :
    st.sql.toList.count '?' = st.params.length := by
  obtain ⟨ps, hps, rfl⟩ := h
  rw [params_ofPieces, hps.params_eq]
  exact hps.count_placeholder

theorem isStatementChar_of_mem (h : st.Composed vs) {c : Char} (hc : c ∈ st.sql.toList) :
    Sql.isStatementChar c = true := by
  obtain ⟨ps, hps, rfl⟩ := h
  exact hps.isStatementChar_of_mem hc

end Statement.Composed

/-- What is planned on a table is composed with the values of the action. -/
theorem Action.Planned.composed {d : Dialect} {t : Table} {pageSize : Nat} {ps : Parameters}
    {a : Action} {st : Statement} {range : Option RowRange}
    (h : a.Planned d t pageSize ps st range) : ∃ vs, a.Binds vs ∧ st.Composed vs := by
  cases h with
  | describe => exact ⟨[], rfl, _, d.composes_selectPieces _, rfl⟩
  | read hconditions horder =>
    exact ⟨_, Lookup.values_of_conditions hconditions, _, d.composes_selectPieces _, rfl⟩
  | count hconditions =>
    exact ⟨_, Lookup.values_of_conditions hconditions, _, d.composes_countPieces _, rfl⟩
  | find horder hfinder =>
    rename_i f order
    have hread := d.composes_selectPieces (f.paged (RowRange.requestedPage ps pageSize) order)
    exact ⟨_, Finder.values_of_parse hfinder, _, hread, rfl⟩
  | insert hvalues hstatement =>
    obtain ⟨-, rfl⟩ := Dialect.insert_eq_ok_iff.mp hstatement
    exact ⟨_, (Assignments.holds_ofPairs hvalues).map_some_values, _,
      d.composes_insertPieces _ _, rfl⟩
  | update hvalues hstatement =>
    obtain ⟨key, hkey, -, rfl⟩ := Dialect.pieces_of_update hstatement
    cases hkey
    exact ⟨_, ⟨_, rfl, (Assignments.holds_ofPairs hvalues).map_some_values⟩, _,
      d.composes_updatePieces _ _ _, rfl⟩
  | delete hstatement =>
    obtain ⟨key, hkey, rfl⟩ := Dialect.pieces_of_delete hstatement
    cases hkey
    exact ⟨_, rfl, _, d.composes_deletePieces _ _, rfl⟩

/-- A plan that does not just list the tables is composed with the values of its action. -/
theorem CatalogEntry.composed_of_plan {e : CatalogEntry} {pageSize : Nat} {q : Request} {p : Plan}
    (h : e.plan pageSize q = .ok p) (hlist : ¬ (q.resource = none ∧ q.action = .describe)) :
    ∃ vs, q.action.Binds vs ∧ p.statement.Composed vs := by
  cases hresource : q.resource with
  | some r =>
    obtain ⟨t, -, hplanned⟩ := table_of_plan hresource h
    exact hplanned.composed
  | none =>
    rcases cases_of_plan hresource h with ⟨haction, -⟩ | ⟨c, haction, hst⟩
    · exact absurd ⟨hresource, haction⟩ hlist
    · rw [haction, hst]
      exact ⟨_, rfl, _, Dialect.composes_callPieces c, rfl⟩

/-- The texts that list tables bind nothing. -/
theorem Dialect.count_listTables (d : Dialect) :
    d.listTables.sql.toList.count '?' = d.listTables.params.length := by
  cases d <;> decide +kernel

/-! ## Plans -/

namespace Gateway

/-- **Placeholders and parameters line up.** There are as many placeholders in the SQL of a plan as
there are parameters, and the parameters are the values that the action of the request gives, as
they are: none is lost, none comes twice, and they keep their order. -/
theorem plan_binds {g : Gateway} {q : Request} {p : Plan} (h : g.plan q = .ok p) :
    p.statement.sql.toList.count '?' = p.statement.params.length ∧
      q.action.Binds p.statement.params := by
  obtain ⟨e, -, -, hplan⟩ := granted_of_plan h
  by_cases hlist : q.resource = none ∧ q.action = .describe
  · obtain ⟨hresource, haction⟩ := hlist
    rcases CatalogEntry.cases_of_plan hresource hplan with ⟨-, hst⟩ | ⟨c, hcall, -⟩
    · rw [hst, haction]
      exact ⟨e.dialect.count_listTables, rfl⟩
    · rw [haction] at hcall
      cases hcall
  · obtain ⟨vs, hbinds, hcomposed⟩ := CatalogEntry.composed_of_plan hplan hlist
    exact ⟨hcomposed.count_placeholder, hcomposed.params_eq.symm ▸ hbinds⟩

/-- A column that is set twice is bound once, where it was named first and with its last value; the
key value comes after all columns. -/
theorem plan_binds_update :
    let g : Gateway :=
      ⟨⟨.ofList [("demo", ⟨.oracle, { driver := "oracle" }⟩)], 25⟩,
        AccessTable.empty.addRule ⟨⟨"demo", none⟩, .ofList [.update]⟩⟩
    let q : Request :=
      { aliasName := "demo", resource := some "cars",
        action := .update "7" [("model", "T"), ("color", "?"), ("model", "A")] }
    let p : Plan :=
      ⟨.oracle, ⟨"UPDATE cars SET cars.model=?,cars.color=? WHERE cars.id=?", ["A", "?", "7"]⟩, none⟩
    g.plan q = .ok p ∧ p.statement.sql.toList.count '?' = p.statement.params.length ∧
      q.action.Binds ["A", "?", "7"] := by
  intro g q p
  have h : g.plan q = .ok p := eq_ok_of_toOption (by decide +kernel)
  exact ⟨h, plan_binds h⟩

/-- **No injection through names.** Whatever a request says, and whatever the configuration of the
gateway is, the SQL of its plan has only letters and digits of English, the marks of
`Sql.isStatementChar` and blanks. So no quote, semicolon, hyphen, slash, backslash, percent sign,
control character or character beyond ASCII is ever in it. The one statement that is not made for a
request, the list of tables, is left aside. -/
theorem isStatementChar_of_plan {g : Gateway} {q : Request} {p : Plan} (h : g.plan q = .ok p)
    (hlist : ¬ (q.resource = none ∧ q.action = .describe)) :
    ∀ c ∈ p.statement.sql.toList, Sql.isStatementChar c = true ∧
      0x20 ≤ c.toNat ∧ c.toNat < 0x7F ∧ c ∉ "\x27\x22;-/\\%".toList := by
  obtain ⟨e, -, -, hplan⟩ := granted_of_plan h
  obtain ⟨vs, -, hcomposed⟩ := CatalogEntry.composed_of_plan hplan hlist
  intro c hc
  have hchar := hcomposed.isStatementChar_of_mem hc
  exact ⟨hchar, Sql.harmless_of_isStatementChar hchar⟩

/-- A finder name beyond ASCII: the small letter of the Kelvin sign is an English one. The hostile
text among the arguments stays outside of the SQL. -/
theorem isStatementChar_of_plan_kelvin :
    let g : Gateway :=
      ⟨⟨.ofList [("demo", ⟨.h2, { driver := "h2" }⟩)], 25⟩,
        AccessTable.empty.addRule ⟨⟨"demo", some "users"⟩, .ofList [.read]⟩⟩
    let q : Request :=
      { aliasName := "demo", resource := some "users",
        action := .find "findByBan\u212A" ["\x27; DROP TABLE users --"] }
    let p : Plan :=
      ⟨.h2, ⟨"SELECT * FROM users WHERE bank = ? ORDER BY id ASC LIMIT 25 OFFSET 0",
        ["\x27; DROP TABLE users --"]⟩, some (.clamp 25 0)⟩
    g.plan q = .ok p ∧ ∀ c ∈ p.statement.sql.toList, Sql.isStatementChar c = true ∧
      0x20 ≤ c.toNat ∧ c.toNat < 0x7F ∧ c ∉ "\x27\x22;-/\\%".toList := by
  intro g q p
  have h : g.plan q = .ok p := eq_ok_of_toOption (by decide +kernel)
  exact ⟨h, isStatementChar_of_plan h (by simp [q])⟩

end Gateway

end TableGateway

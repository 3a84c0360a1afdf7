import TableGateway.Proofs.Statement.Assignments
import TableGateway.Statement.Change

/-!
# How changes are put together

A new row is begun for a table with the assignments of a list of pairs, and then more columns are
set. An update is begun in the same way, with or without a key value; then columns are set and key
values given in any order, any number of times. What counts in the end are the assignments in the
order in which they were made, and the key value that was given last: `Update.Made u t pairs key`
says so of an update `u`. One step carries it on (`Made.step`), and so it holds after any run of
steps (`Update.made_of_build`).
-/

namespace TableGateway

/-- The new row that is begun with the assignments of the pairs and then has more columns set. -/
def Insertion.build (t : Table) (pairs sets : List (String × String)) : Except Error Insertion := do
  let begun ← Assignments.ofPairs pairs
  let values ← sets.foldlM (fun a p => a.assign p.1 p.2) begun
  return ⟨t, values⟩

theorem Insertion.holds_of_build {t : Table} {pairs sets : List (String × String)} {i : Insertion}
    (h : build t pairs sets = .ok i) : i.table = t ∧ i.values.Holds (pairs ++ sets) := by
  obtain ⟨begun, hbegun, h⟩ := exists_of_bind_eq_ok h
  obtain ⟨values, hvalues, h⟩ := exists_of_bind_eq_ok h
  cases h
  exact ⟨rfl, Assignments.holds_foldlM (Assignments.holds_ofPairs hbegun) hvalues⟩

namespace Update

/-- A step of putting an update together. -/
inductive Step where
  /-- a column is set to a value -/
  | set (column value : String)
  /-- a key value is given -/
  | key (value : String)

/-- The pair of column and value that a step assigns. -/
def Step.pair? : Step → Option (String × String)
  | set column value => some (column, value)
  | key _ => none

/-- The key value that a step gives. -/
def Step.key? : Step → Option String
  | set .. => none
  | key value => some value

/-- The update after a step; it fails on a column that is no identifier. -/
def step (u : Update) : Step → Except Error Update
  | .set column value => (u.values.assign column value).map fun values => { u with values }
  | .key value => .ok (u.withKey value)

/-- An update of the table as it is begun: without or with a key value, and with the assignments of
the pairs. -/
def start (t : Table) (key : Option String) (pairs : List (String × String)) :
    Except Error Update :=
  (Assignments.ofPairs pairs).map fun values => ⟨t, key, values⟩

/-- The update that is begun like this and goes through the steps. -/
def build (t : Table) (key : Option String) (pairs : List (String × String))
    (steps : List Step) : Except Error Update := do
  let u ← start t key pairs
  steps.foldlM step u

/-- All pairs that are assigned, in their order. -/
def assigned (pairs : List (String × String)) (steps : List Step) : List (String × String) :=
  pairs ++ steps.filterMap Step.pair?

/-- The key value that is given last. -/
def lastKey? (key : Option String) (steps : List Step) : Option String :=
  (steps.filterMap Step.key?).getLast?.or key

/-- The update is one of the table, with the assignments of the pairs and with the key value. -/
structure Made (u : Update) (t : Table) (pairs : List (String × String)) (key : Option String) :
    Prop where
  /-- the table -/
  table : u.table = t
  /-- the assignments are those of the pairs, made one after the other -/
  values : u.values.Holds pairs
  /-- the key value -/
  key : u.key = key

namespace Made

variable {u v : Update} {t : Table} {pairs : List (String × String)} {key : Option String}

theorem start (h : start t key pairs = .ok u) : u.Made t pairs key := by
  obtain ⟨values, hvalues, rfl⟩ := exists_of_map_eq_ok h
  exact ⟨rfl, Assignments.holds_ofPairs hvalues, rfl⟩

/-- A step adds its assignment at the end, or replaces the key value. -/
theorem step (hu : u.Made t pairs key) {s : Step} (h : u.step s = .ok v) :
    v.Made t (pairs ++ s.pair?.toList) (s.key?.or key) := by
  cases s with
  | set column value =>
    obtain ⟨values, hvalues, rfl⟩ := exists_of_map_eq_ok h
    exact ⟨hu.table, hu.values.assign hvalues, hu.key⟩
  | key value =>
    cases h
    refine ⟨hu.table, ?_, rfl⟩
    rw [Step.pair?, Option.toList_none, List.append_nil]
    exact hu.values

end Made

theorem lastKey?_cons (key : Option String) (s : Step) (steps : List Step) :
    lastKey? (s.key?.or key) steps = lastKey? key (s :: steps) := by
  cases s with
  | set column value => rfl
  | key value =>
    show _ = ((value :: steps.filterMap Step.key?).getLast?).or key
    rw [lastKey?, List.getLast?_cons]
    cases (steps.filterMap Step.key?).getLast? <;> rfl

/-- After a run of steps, all of their assignments have been made, and the last key value counts. -/
theorem made_of_foldlM {u v : Update} {t : Table} {pairs : List (String × String)}
    {key : Option String} {steps : List Step} (hu : u.Made t pairs key)
    (h : steps.foldlM step u = .ok v) : v.Made t (assigned pairs steps) (lastKey? key steps) := by
  induction steps generalizing u pairs key with
  | nil =>
    cases h
    rw [assigned, List.filterMap_nil, List.append_nil]
    exact hu
  | cons s steps ih =>
    rw [List.foldlM_cons] at h
    obtain ⟨w, hw, h⟩ := exists_of_bind_eq_ok h
    have hrun := ih (hu.step hw) h
    have hpairs : assigned (pairs ++ s.pair?.toList) steps = assigned pairs (s :: steps) := by
      rw [assigned, assigned, List.append_assoc]
      cases s <;> rfl
    rwa [hpairs, lastKey?_cons] at hrun

/-- An update that comes out has all assignments that were made and the key value that was given
last. -/
theorem made_of_build {u : Update} {t : Table} {key : Option String}
    {pairs : List (String × String)} {steps : List Step} (h : build t key pairs steps = .ok u) :
    u.Made t (assigned pairs steps) (lastKey? key steps) := by
  obtain ⟨v, hv, h⟩ := exists_of_bind_eq_ok h
  exact made_of_foldlM (.start hv) h

end Update

end TableGateway

import Mathlib.Data.Finset.Card
import TableGateway.Proofs.Statement.Construction

/-!
# Assignments that may fail

A column is assigned by its name, which need not be one. Such an attempt fails and leaves the
assignments as they were, so a run of attempts of any length, with failures anywhere, comes to the
assignments that did not fail. `attempts` is what a run leaves; `Records a pairs` says that the
assignments `a` are an ordered map of the pairs that name a column, and holds of every run
(`records_attempts`). New rows and updates that are begun with pairs take all of them or none, and
what they take is what the run of attempts leaves (`ofPairs_eq_ok_iff`).
-/

namespace TableGateway

namespace Assignments

/-! ## One attempt -/

/-- A name of a column is an identifier. -/
def isColumn (column : String) : Bool := Identifier.wellFormed column.toList

theorem isColumn_iff {column : String} :
    isColumn column = true ↔ ∃ c : Identifier, c.name = column := by
  constructor
  · exact fun h => ⟨⟨column, h⟩, rfl⟩
  · rintro ⟨c, rfl⟩
    exact c.valid

theorem assign_name (a : Assignments) (c : Identifier) (value : String) :
    a.assign c.name value = .ok (OrderedMap.set a c value) := by
  rw [assign, Identifier.parse_name]
  rfl

/-- An assignment fails for its column alone, as an invalid request. -/
theorem assign_of_not_isColumn (a : Assignments) {column : String} (value : String)
    (h : isColumn column = false) :
    ∃ reason, a.assign column value = .error (.invalidRequest reason none) := by
  obtain ⟨reason, hflaw⟩ : ∃ reason, Identifier.flaw? column = some reason := by
    rw [← Option.isSome_iff_exists, Option.isSome_iff_ne_none, Ne, Identifier.flaw?_eq_none_iff]
    exact Bool.eq_false_iff.mp h
  refine ⟨reason, ?_⟩
  rw [assign, Identifier.parse, Identifier.read_eq_error_iff.mpr hflaw]
  rfl

theorem exists_assign_eq_error_iff {a : Assignments} {column value : String} :
    (∃ error, a.assign column value = .error error) ↔ isColumn column = false := by
  constructor
  · rintro ⟨error, herror⟩
    refine Bool.eq_false_iff.mpr fun h => ?_
    obtain ⟨c, rfl⟩ := isColumn_iff.mp h
    rw [assign_name] at herror
    cases herror
  · intro h
    obtain ⟨reason, hreason⟩ := assign_of_not_isColumn a value h
    exact ⟨_, hreason⟩

/-- The assignments after an attempt to assign the pair. -/
def attempt (a : Assignments) (p : String × String) : Assignments :=
  (a.assign p.1 p.2).toOption.getD a

theorem attempt_of_ok {a b : Assignments} {p : String × String} (h : a.assign p.1 p.2 = .ok b) :
    a.attempt p = b := by
  rw [attempt, h]
  rfl

theorem attempt_of_error {a : Assignments} {p : String × String} {error : Error}
    (h : a.assign p.1 p.2 = .error error) : a.attempt p = a := by
  rw [attempt, h]
  rfl

/-! ## Runs of attempts -/

/-- The pairs that name a column. -/
def assignable (pairs : List (String × String)) : List (String × String) :=
  pairs.filter fun p => isColumn p.1

/-- What is left of no assignments after a run of attempts. -/
def attempts (pairs : List (String × String)) : Assignments :=
  pairs.foldl attempt OrderedMap.empty

theorem attempts_concat (pairs : List (String × String)) (p : String × String) :
    attempts (pairs ++ [p]) = (attempts pairs).attempt p := by
  rw [attempts, List.foldl_append]
  rfl

/-- An attempt adds its pair to the assignments that have been made, if the pair names a column. -/
theorem Holds.attempt {a : Assignments} {pairs : List (String × String)}
    (h : a.Holds (assignable pairs)) (p : String × String) :
    (a.attempt p).Holds (assignable (pairs ++ [p])) := by
  rw [assignable, List.filter_append]
  cases hp : isColumn p.1 with
  | true =>
    obtain ⟨c, hc⟩ := isColumn_iff.mp hp
    have hassign : a.assign p.1 p.2 = .ok (OrderedMap.set a c p.2) := hc ▸ assign_name a c p.2
    rw [attempt_of_ok hassign, List.filter_singleton, hp]
    exact h.assign hassign
  | false =>
    obtain ⟨reason, hreason⟩ := assign_of_not_isColumn a p.2 hp
    rw [attempt_of_error hreason, List.filter_singleton, hp, cond_false, List.append_nil]
    exact h

/-- After a run of attempts, those of its pairs that name a column have been assigned. -/
theorem holds_attempts (pairs : List (String × String)) :
    (attempts pairs).Holds (assignable pairs) := by
  induction pairs using List.reverseRecOn with
  | nil => exact holds_empty
  | append_singleton pairs p ih =>
    rw [attempts_concat]
    exact ih.attempt p

/-- The assignments are a map of the pairs that name a column. -/
structure Records (a : Assignments) (pairs : List (String × String)) : Prop where
  /-- no column occurs twice -/
  distinct : (a.entries.map fun e => e.1.name).Nodup
  /-- the columns are in the order in which they were first named -/
  columns : a.entries.map (fun e => e.1.name) = ((pairs.map Prod.fst).filter isColumn).eraseDups
  /-- each column has the value that it was given last -/
  values : ∀ e ∈ a.entries, lastValue? (assignable pairs) e.1.name = some e.2
  /-- each column is counted once -/
  size : a.size = ((pairs.map Prod.fst).filter isColumn).toFinset.card

theorem namedColumns_assignable (pairs : List (String × String)) :
    namedColumns (assignable pairs) = ((pairs.map Prod.fst).filter isColumn).eraseDups := by
  rw [namedColumns, assignable, List.filter_map]
  rfl

theorem Holds.records {a : Assignments} {pairs : List (String × String)}
    (h : a.Holds (assignable pairs)) : a.Records pairs := by
  have hnames : a.keys.map Identifier.name = a.entries.map fun e => e.1.name := List.map_map
  have hcolumns : a.entries.map (fun e => e.1.name) =
      ((pairs.map Prod.fst).filter isColumn).eraseDups := by
    rw [← hnames, h.columns, namedColumns_assignable]
  have hdistinct : (a.entries.map fun e => e.1.name).Nodup := by
    rw [← hnames]
    exact a.distinct.map fun _ _ => Identifier.ext_name
  refine ⟨hdistinct, hcolumns, ?_, ?_⟩
  · intro e he
    rw [← h.value e.1]
    exact OrderedMap.findIn_of_mem a.distinct he
  · have hset : ((pairs.map Prod.fst).filter isColumn).toFinset =
        (a.entries.map fun e => e.1.name).toFinset := by
      ext column
      rw [hcolumns, List.mem_toFinset, List.mem_toFinset, List.mem_eraseDups]
    rw [hset, List.toFinset_card_of_nodup hdistinct, List.length_map]
    rfl

theorem records_attempts (pairs : List (String × String)) : (attempts pairs).Records pairs :=
  (holds_attempts pairs).records

/-! ## Runs in which nothing may fail -/

theorem foldlM_assign_eq_ok_iff {pairs : List (String × String)} {a b : Assignments} :
    pairs.foldlM (fun a p => assign a p.1 p.2) a = .ok b ↔
      (∀ p ∈ pairs, isColumn p.1 = true) ∧ b = pairs.foldl attempt a := by
  induction pairs generalizing a with
  | nil =>
    rw [List.foldlM_nil, List.foldl_nil]
    constructor
    · intro h
      cases h
      exact ⟨nofun, rfl⟩
    · rintro ⟨-, rfl⟩
      rfl
  | cons p pairs ih =>
    rw [List.foldlM_cons, List.forall_mem_cons, List.foldl_cons]
    cases hp : isColumn p.1 with
    | true =>
      obtain ⟨c, hc⟩ := isColumn_iff.mp hp
      have hassign : a.assign p.1 p.2 = .ok (OrderedMap.set a c p.2) := hc ▸ assign_name a c p.2
      rw [hassign, attempt_of_ok hassign]
      exact ih.trans (and_congr_left' (and_iff_right rfl).symm)
    | false =>
      obtain ⟨reason, hreason⟩ := assign_of_not_isColumn a p.2 hp
      rw [hreason]
      constructor
      · intro h
        cases h
      · rintro ⟨⟨h, -⟩, -⟩
        cases h

/-- Pairs are assigned together exactly if all of them name columns, and then as in a run. -/
theorem ofPairs_eq_ok_iff {pairs : List (String × String)} {a : Assignments} :
    ofPairs pairs = .ok a ↔ (∀ p ∈ pairs, isColumn p.1 = true) ∧ a = attempts pairs :=
  foldlM_assign_eq_ok_iff

end Assignments

open Assignments (attempts isColumn)

theorem Insertion.build_eq_ok_iff {t : Table} {pairs : List (String × String)} {i : Insertion} :
    build t pairs [] = .ok i ↔
      (∀ p ∈ pairs, isColumn p.1 = true) ∧ i = ⟨t, attempts pairs⟩ := by
  constructor
  · intro h
    obtain ⟨begun, hbegun, h⟩ := exists_of_bind_eq_ok h
    obtain ⟨hcolumns, rfl⟩ := Assignments.ofPairs_eq_ok_iff.mp hbegun
    cases h
    exact ⟨hcolumns, rfl⟩
  · rintro ⟨hcolumns, rfl⟩
    rw [build, Assignments.ofPairs_eq_ok_iff.mpr ⟨hcolumns, rfl⟩]
    rfl

theorem Update.start_eq_ok_iff {t : Table} {key : Option String} {pairs : List (String × String)}
    {u : Update} :
    start t key pairs = .ok u ↔
      (∀ p ∈ pairs, isColumn p.1 = true) ∧ u = ⟨t, key, attempts pairs⟩ := by
  constructor
  · intro h
    obtain ⟨values, hvalues, rfl⟩ := exists_of_map_eq_ok h
    obtain ⟨hcolumns, rfl⟩ := Assignments.ofPairs_eq_ok_iff.mp hvalues
    exact ⟨hcolumns, rfl⟩
  · rintro ⟨hcolumns, rfl⟩
    rw [start, Assignments.ofPairs_eq_ok_iff.mpr ⟨hcolumns, rfl⟩]
    rfl

namespace Assignments

/-- **Assignments are a map in the order of first mention.** Whatever has been attempted, the next
attempt fails exactly on a name that is no identifier, as an invalid request, and then changes
nothing. Every run leaves a map of the pairs that name a column: each column once, where it was first
named and with the value that it was given last. New rows and updates can be begun with pairs exactly
if all of them name columns, and then they have the map that the run leaves. -/
theorem ordered_by_first_mention (pairs : List (String × String)) :
    (∀ column value, ((∃ error, (attempts pairs).assign column value = .error error) ↔
        ¬ ∃ c : Identifier, c.name = column) ∧
      (∀ error, (attempts pairs).assign column value = .error error →
        (∃ reason, error = .invalidRequest reason none) ∧
          attempts (pairs ++ [(column, value)]) = attempts pairs) ∧
      ∀ a, (attempts pairs).assign column value = .ok a →
        attempts (pairs ++ [(column, value)]) = a) ∧
    (attempts pairs).Records pairs ∧
    ∀ t : Table,
      (∀ i, Insertion.build t pairs [] = .ok i ↔
        (∀ p ∈ pairs, ∃ c : Identifier, c.name = p.1) ∧ i = ⟨t, attempts pairs⟩) ∧
      ∀ key u, Update.start t (some key) pairs = .ok u ↔
        (∀ p ∈ pairs, ∃ c : Identifier, c.name = p.1) ∧ u = ⟨t, some key, attempts pairs⟩ := by
  refine ⟨fun column value => ⟨?_, ?_, ?_⟩, records_attempts pairs, fun t => ⟨?_, ?_⟩⟩
  · rw [exists_assign_eq_error_iff, ← isColumn_iff, Bool.not_eq_true]
  · intro error herror
    obtain ⟨reason, hreason⟩ :=
      assign_of_not_isColumn (attempts pairs) value (exists_assign_eq_error_iff.mp ⟨_, herror⟩)
    rw [hreason] at herror
    cases herror
    exact ⟨⟨reason, rfl⟩, (attempts_concat pairs _).trans (attempt_of_error hreason)⟩
  · exact fun a ha => (attempts_concat pairs _).trans (attempt_of_ok ha)
  · intro i
    simp only [← isColumn_iff]
    exact Insertion.build_eq_ok_iff
  · intro key u
    simp only [← isColumn_iff]
    exact Update.start_eq_ok_iff

/-- One column is named twice, and two attempts fail. -/
theorem ordered_by_first_mention_failing :
    let pairs := [("b", "1"), ("a", "2"), ("b b", "3"), ("b", "4")]
    (attempts pairs).entries.map (fun e => e.1.name) = ["b", "a"] ∧ (attempts pairs).size = 2 ∧
      (∀ e ∈ (attempts pairs).entries, e.1.name = "b" → e.2 = "4") ∧
      attempts (pairs ++ [("é", "5")]) = attempts pairs := by
  intro pairs
  obtain ⟨hnext, hrecords, -⟩ := ordered_by_first_mention pairs
  obtain ⟨hfails, hfailure, -⟩ := hnext "é" "5"
  obtain ⟨error, herror⟩ := hfails.mpr (mt isColumn_iff.mpr (by decide))
  have hcolumns : ((pairs.map Prod.fst).filter isColumn).eraseDups = ["b", "a"] := by
    decide +kernel
  have hvalue : lastValue? (assignable pairs) "b" = some "4" := by decide +kernel
  refine ⟨hrecords.columns.trans hcolumns, hrecords.size, ?_, (hfailure error herror).2⟩
  intro e he hname
  have hlast := hrecords.values e he
  rw [hname, hvalue] at hlast
  exact (Option.some.inj hlast).symm

end Assignments

end TableGateway

import TableGateway.Statement.Assignments

/-!
# Runs of assignments

What is left when pairs of a column and a value have been assigned one after the other: the columns
stand in the order in which they were first named, and each has the value that it was given last.
`Assignments.Holds a pairs` says this of the assignments `a`; one assignment carries it from a list
of pairs to the list with one pair more (`Holds.assign`), and so it holds after any run
(`holds_ofPairs`).
-/

namespace TableGateway.Assignments

/-- The columns that the pairs name, each at the place where it stands first. -/
def namedColumns (pairs : List (String × String)) : List String := (pairs.map Prod.fst).eraseDups

/-- The value that a column is given last. -/
def lastValue? (pairs : List (String × String)) (column : String) : Option String :=
  (pairs.reverse.find? fun p => p.1 == column).map Prod.snd

/-- The assignments are those of the pairs, made one after the other. -/
structure Holds (a : Assignments) (pairs : List (String × String)) : Prop where
  /-- the columns are in the order in which they were first named -/
  columns : a.keys.map Identifier.name = namedColumns pairs
  /-- each column has the value that it was given last -/
  value : ∀ c : Identifier, a.find? c = lastValue? pairs c.name

theorem namedColumns_concat (pairs : List (String × String)) (column value : String) :
    namedColumns (pairs ++ [(column, value)]) =
      namedColumns pairs ++ if column ∈ namedColumns pairs then [] else [column] := by
  rw [namedColumns, namedColumns, List.map_append, List.eraseDups_append]
  congr 1
  by_cases h : column ∈ pairs.map Prod.fst
  · rw [if_pos (List.mem_eraseDups.mpr h)]
    simp [List.removeAll, h]
  · rw [if_neg (mt List.mem_eraseDups.mp h)]
    simp [List.removeAll, List.eraseDups_cons, h]

theorem lastValue?_concat (pairs : List (String × String)) (column value other : String) :
    lastValue? (pairs ++ [(column, value)]) other =
      if column = other then some value else lastValue? pairs other := by
  rw [lastValue?, List.reverse_append, List.reverse_singleton, List.singleton_append,
    List.find?_cons]
  by_cases h : column = other
  · simp [h]
  · rw [if_neg h, beq_eq_false_iff_ne.mpr h]
    rfl

theorem holds_empty : Holds OrderedMap.empty [] := ⟨rfl, fun _ => rfl⟩

namespace Holds

variable {a b : Assignments} {pairs : List (String × String)}

/-- One more assignment. -/
theorem set (h : a.Holds pairs) (c : Identifier) (value : String) :
    Holds (OrderedMap.set a c value) (pairs ++ [(c.name, value)]) := by
  have hmem : c ∈ a.keys ↔ c.name ∈ namedColumns pairs := by
    rw [← h.columns, List.mem_map]
    constructor
    · exact fun hc => ⟨c, hc, rfl⟩
    · rintro ⟨d, hd, hname⟩
      exact Identifier.ext_name hname ▸ hd
  constructor
  · rw [OrderedMap.keys_set, namedColumns_concat]
    by_cases hc : c ∈ a.keys
    · rw [if_pos hc, if_pos (hmem.mp hc), h.columns, List.append_nil]
    · rw [if_neg hc, if_neg (mt hmem.mpr hc), List.map_append, h.columns, List.map_singleton]
  · intro d
    rw [OrderedMap.find?_set, lastValue?_concat, h.value]
    by_cases hcd : c = d
    · rw [if_pos hcd, if_pos (congrArg Identifier.name hcd)]
    · rw [if_neg hcd, if_neg (mt Identifier.ext_name hcd)]

theorem assign {column value : String} (h : a.Holds pairs) (hb : a.assign column value = .ok b) :
    b.Holds (pairs ++ [(column, value)]) := by
  obtain ⟨c, hc, rfl⟩ := exists_of_map_eq_ok hb
  rw [Identifier.parse_eq_ok_iff.mp hc]
  exact h.set c value

/-- The values are those that the columns are given last, in the order of the columns. -/
theorem map_some_values (h : a.Holds pairs) :
    a.values.map some = (namedColumns pairs).map (lastValue? pairs) := by
  rw [OrderedMap.map_some_values, ← h.columns, List.map_map]
  exact List.map_congr_left fun c _ => h.value c

end Holds

/-- After a run of assignments, those before it and those of the run have been made. -/
theorem holds_foldlM {a b : Assignments} {before pairs : List (String × String)}
    (ha : a.Holds before) (hb : pairs.foldlM (fun a p => assign a p.1 p.2) a = .ok b) :
    b.Holds (before ++ pairs) := by
  induction pairs generalizing a before with
  | nil =>
    cases hb
    rwa [List.append_nil]
  | cons p pairs ih =>
    rw [List.foldlM_cons] at hb
    obtain ⟨a', ha', hb⟩ := exists_of_bind_eq_ok hb
    have hstep : a'.Holds (before ++ [p]) := ha.assign ha'
    have hrun := ih hstep hb
    rwa [List.append_assoc, List.singleton_append] at hrun

theorem holds_ofPairs {pairs : List (String × String)} {a : Assignments}
    (h : ofPairs pairs = .ok a) : a.Holds pairs :=
  holds_foldlM holds_empty h

end TableGateway.Assignments

/-!
# Maps in key order

A configuration file lists its aliases, rules and keys in any order, but everything that is said
about them afterwards (which defect is reported first, the list of configured aliases) goes by
ascending key. `SortedMap` is a map from text that keeps its entries in that order, so that the
order needs no mention anywhere else.

* Keys ascend by the order of `String`, character code by character code; this is also the order of
  their UTF-8 bytes.
* `find?` looks a key up, `insert` sets one, `ofList` lets later entries replace earlier ones.
* `mem_entries_iff` says that looking up and being an entry are the same.
* `map` and `traverse` change the values and leave the keys.
-/

namespace TableGateway

universe u v w

/-- A map from text, its entries in ascending order of their keys. -/
structure SortedMap (α : Type u) where
  /-- the entries, in ascending order of their keys -/
  entries : List (String × α)
  /-- each key is smaller than every later one -/
  ascending : (entries.map Prod.fst).Pairwise (· < ·)

namespace SortedMap

variable {α : Type u} {β : Type v}

/-- The map without entries. -/
def empty : SortedMap α := ⟨[], List.Pairwise.nil⟩

instance : EmptyCollection (SortedMap α) := ⟨empty⟩

instance : Inhabited (SortedMap α) := ⟨empty⟩

/-- The keys, ascending. -/
def keys (m : SortedMap α) : List String := m.entries.map Prod.fst

/-- The value of the first entry with the given key. -/
def findIn (key : String) : List (String × α) → Option α
  | [] => none
  | (k, v) :: rest => if k = key then some v else findIn key rest

/-- The value at a key. -/
def find? (m : SortedMap α) (key : String) : Option α := findIn key m.entries

/-! ## Insertion -/

/-- The entries with `key` set to `value`, at its place in the order. -/
def insertEntry (key : String) (value : α) : List (String × α) → List (String × α)
  | [] => [(key, value)]
  | (k, v) :: rest =>
    if key < k then (key, value) :: (k, v) :: rest
    else if key = k then (key, value) :: rest
    else (k, v) :: insertEntry key value rest

/-- Insertion adds no key but the one inserted. -/
theorem eq_or_mem_of_mem_insertEntry {key x : String} {value : α} {es : List (String × α)}
    (h : x ∈ (insertEntry key value es).map Prod.fst) : x = key ∨ x ∈ es.map Prod.fst := by
  induction es with
  | nil => simpa [insertEntry] using h
  | cons e es ih =>
    obtain ⟨k, v⟩ := e
    simp only [insertEntry] at h
    split at h
    · simpa using h
    · split at h
      · rename_i heq
        subst heq
        simp only [List.map_cons, List.mem_cons] at h ⊢
        rcases h with h | h
        · exact .inl h
        · exact .inr (.inr h)
      · simp only [List.map_cons, List.mem_cons] at h ⊢
        rcases h with h | h
        · exact .inr (.inl h)
        · exact (ih h).imp id .inr

/-- Of two different texts one comes first. -/
theorem lt_of_not_lt_of_ne {a b : String} (hlt : ¬ a < b) (hne : a ≠ b) : b < a := by
  rcases Std.lt_trichotomy a b with h | h | h
  · exact absurd h hlt
  · exact absurd h hne
  · exact h

theorem ascending_insertEntry {key : String} {value : α} {es : List (String × α)}
    (h : (es.map Prod.fst).Pairwise (· < ·)) :
    ((insertEntry key value es).map Prod.fst).Pairwise (· < ·) := by
  induction es with
  | nil => simp [insertEntry]
  | cons e es ih =>
    obtain ⟨k, v⟩ := e
    obtain ⟨hhead, htail⟩ := List.pairwise_cons.mp h
    simp only [insertEntry]
    split
    · rename_i hlt
      refine List.pairwise_cons.mpr ⟨fun x hx => ?_, h⟩
      rcases List.mem_cons.mp hx with rfl | hx
      · exact hlt
      · exact String.lt_trans hlt (hhead x hx)
    · split
      · rename_i heq
        subst heq
        exact List.pairwise_cons.mpr ⟨hhead, htail⟩
      · rename_i hlt hne
        refine List.pairwise_cons.mpr ⟨fun x hx => ?_, ih htail⟩
        rcases eq_or_mem_of_mem_insertEntry hx with rfl | hx
        · exact lt_of_not_lt_of_ne hlt hne
        · exact hhead x hx

/-- The map with `key` set to `value`. -/
def insert (m : SortedMap α) (key : String) (value : α) : SortedMap α :=
  ⟨insertEntry key value m.entries, ascending_insertEntry m.ascending⟩

/-- The map of a list of entries; a later entry replaces an earlier one with its key. -/
def ofList (entries : List (String × α)) : SortedMap α :=
  entries.foldl (fun m e => m.insert e.1 e.2) empty

/-- An inserted key has its new value, and every other key the value it had. -/
theorem findIn_insertEntry (key other : String) (value : α) (es : List (String × α)) :
    findIn other (insertEntry key value es) =
      if key = other then some value else findIn other es := by
  induction es with
  | nil => simp [insertEntry, findIn]
  | cons e es ih =>
    obtain ⟨k, v⟩ := e
    simp only [insertEntry]
    split
    · simp [findIn]
    · split
      · rename_i heq
        subst heq
        by_cases h : key = other <;> simp [findIn, h]
      · rename_i hne
        by_cases h : k = other
        · subst h
          simp [findIn, hne]
        · simp [findIn, h, ih]

/-- An inserted key has its new value, and every other key the value it had. -/
theorem find?_insert (m : SortedMap α) (key other : String) (value : α) :
    (m.insert key value).find? other = if key = other then some value else m.find? other :=
  findIn_insertEntry key other value m.entries

@[simp] theorem find?_empty (key : String) : (empty : SortedMap α).find? key = none := rfl

/-! ## Entries -/

/-- No key occurs twice. -/
theorem nodup_keys (m : SortedMap α) : m.keys.Nodup := by
  refine List.Pairwise.imp ?_ m.ascending
  rintro a b hlt rfl
  exact String.lt_irrefl _ hlt

theorem findIn_eq_none {key : String} {es : List (String × α)} (h : key ∉ es.map Prod.fst) :
    findIn key es = none := by
  induction es with
  | nil => rfl
  | cons e es ih =>
    obtain ⟨k, v⟩ := e
    rw [List.map_cons, List.mem_cons, not_or] at h
    obtain ⟨hne, hrest⟩ := h
    rw [findIn, if_neg (Ne.symm hne), ih hrest]

theorem mem_iff_findIn {key : String} {value : α} {es : List (String × α)}
    (h : (es.map Prod.fst).Nodup) : (key, value) ∈ es ↔ findIn key es = some value := by
  induction es with
  | nil => simp [findIn]
  | cons e es ih =>
    obtain ⟨k, v⟩ := e
    obtain ⟨hk, hes⟩ := List.nodup_cons.mp h
    rw [List.mem_cons, ih hes, findIn]
    by_cases heq : k = key
    · subst heq
      rw [if_pos rfl, findIn_eq_none hk]
      simp [eq_comm]
    · rw [if_neg heq]
      simp [Ne.symm heq]

/-- The entries are the keys with the values at them. -/
theorem mem_entries_iff {m : SortedMap α} {key : String} {value : α} :
    (key, value) ∈ m.entries ↔ m.find? key = some value :=
  mem_iff_findIn m.nodup_keys

/-! ## Changing the values -/

/-- The map with `f` applied to every value. -/
def map (f : α → β) (m : SortedMap α) : SortedMap β :=
  ⟨m.entries.map fun e => (e.1, f e.2), by simpa [Function.comp_def] using m.ascending⟩

/-- The entries with `f` applied to every value, or the first failure. -/
def traverseEntries {ε : Type w} (f : α → Except ε β) :
    List (String × α) → Except ε (List (String × β))
  | [] => .ok []
  | (k, v) :: rest =>
    match f v with
    | .error e => .error e
    | .ok w =>
      match traverseEntries f rest with
      | .error e => .error e
      | .ok ws => .ok ((k, w) :: ws)

theorem keys_traverseEntries {ε : Type w} {f : α → Except ε β} {es : List (String × α)}
    {fs : List (String × β)} (h : traverseEntries f es = .ok fs) :
    fs.map Prod.fst = es.map Prod.fst := by
  induction es generalizing fs with
  | nil => cases h; rfl
  | cons e es ih =>
    obtain ⟨k, v⟩ := e
    simp only [traverseEntries] at h
    split at h
    · cases h
    · split at h
      · cases h
      · rename_i hws
        cases h
        simp [ih hws]

/-- The map with `f` applied to every value, in key order, or the first failure. -/
def traverse {ε : Type w} (f : α → Except ε β) (m : SortedMap α) : Except ε (SortedMap β) :=
  match h : traverseEntries f m.entries with
  | .error e => .error e
  | .ok es => .ok ⟨es, keys_traverseEntries h ▸ m.ascending⟩

section

variable {ε : Type w} {f : α → Except ε β}

theorem traverse_eq_ok_iff {m : SortedMap α} {m' : SortedMap β} :
    m.traverse f = .ok m' ↔ traverseEntries f m.entries = .ok m'.entries := by
  obtain ⟨es', hes'⟩ := m'
  unfold traverse
  split <;> rename_i hes <;> simp [hes]

/-- A map can be changed if all of its values can. -/
theorem exists_traverse {m : SortedMap α} (h : ∀ e ∈ m.entries, ∃ w, f e.2 = .ok w) :
    ∃ m', m.traverse f = .ok m' := by
  have hentries : ∀ es : List (String × α), (∀ e ∈ es, ∃ w, f e.2 = .ok w) →
      ∃ fs, traverseEntries f es = .ok fs := by
    intro es hes
    induction es with
    | nil => exact ⟨[], rfl⟩
    | cons e es ih =>
      obtain ⟨⟨w, hw⟩, hes⟩ := List.forall_mem_cons.mp hes
      obtain ⟨fs, hfs⟩ := ih hes
      exact ⟨(e.1, w) :: fs, by rw [traverseEntries, hw, hfs]⟩
  obtain ⟨fs, hfs⟩ := hentries m.entries h
  exact ⟨⟨fs, keys_traverseEntries hfs ▸ m.ascending⟩, traverse_eq_ok_iff.mpr hfs⟩

/-- What is at a key is what `f` makes of the value that was there. -/
theorem find?_of_traverse {m : SortedMap α} {m' : SortedMap β} (h : m.traverse f = .ok m')
    (key : String) : (m.find? key).mapM f = .ok (m'.find? key) := by
  have hentries : ∀ (es : List (String × α)) (fs : List (String × β)),
      traverseEntries f es = .ok fs → (findIn key es).mapM f = .ok (findIn key fs) := by
    intro es
    induction es with
    | nil =>
      intro fs hfs
      cases hfs
      rfl
    | cons e es ih =>
      intro fs hfs
      rw [traverseEntries] at hfs
      split at hfs
      · cases hfs
      · rename_i w hw
        split at hfs
        · cases hfs
        · rename_i ws hws
          cases hfs
          rw [findIn, findIn]
          split
          · rw [Option.mapM_some, hw]
            rfl
          · exact ih ws hws
  exact hentries m.entries m'.entries (traverse_eq_ok_iff.mp h)

end

end SortedMap

end TableGateway

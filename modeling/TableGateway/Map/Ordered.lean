/-!
# Maps in order of first mention

An INSERT lists its columns in the order in which they were first given, however often one is given
again. `OrderedMap` is a map that keeps its keys in that order:

* `set` puts a new key at the end and replaces the value of a known one where it stands;
* keys are pairwise distinct, so `size` counts them;
* `find?_set` says that setting a key changes that key and no other, and the lemmas on `foldl` say
  what this comes to when a list of keys is set.
-/

namespace TableGateway

universe u v w

/-- A map whose keys stand in the order in which they were first set. -/
structure OrderedMap (κ : Type u) (α : Type v) where
  /-- the entries, in the order in which their keys were first set -/
  entries : List (κ × α)
  /-- no key occurs twice -/
  distinct : (entries.map Prod.fst).Nodup

namespace OrderedMap

variable {κ : Type u} {α : Type v}

/-- The map without entries. -/
def empty : OrderedMap κ α := ⟨[], List.nodup_nil⟩

instance : EmptyCollection (OrderedMap κ α) := ⟨empty⟩

instance : Inhabited (OrderedMap κ α) := ⟨empty⟩

/-- The keys, in the order in which they were first set. -/
def keys (m : OrderedMap κ α) : List κ := m.entries.map Prod.fst

/-- The values, in the order of their keys. -/
def values (m : OrderedMap κ α) : List α := m.entries.map Prod.snd

/-- The number of keys. -/
def size (m : OrderedMap κ α) : Nat := m.entries.length

/-- No key is set. -/
def isEmpty (m : OrderedMap κ α) : Bool := m.entries.isEmpty

variable [DecidableEq κ]

/-- The value of the first entry with the given key. -/
def findIn (key : κ) : List (κ × α) → Option α
  | [] => none
  | (k, v) :: rest => if k = key then some v else findIn key rest

/-- The value at a key. -/
def find? (m : OrderedMap κ α) (key : κ) : Option α := findIn key m.entries

/-- The entries with `key` set to `value`: in place if it is there, else at the end. -/
def setEntry (key : κ) (value : α) : List (κ × α) → List (κ × α)
  | [] => [(key, value)]
  | (k, v) :: rest => if k = key then (k, value) :: rest else (k, v) :: setEntry key value rest

/-- Setting a key leaves a list of keys that has it, and appends it to one that has not. -/
theorem keys_setEntry (key : κ) (value : α) (es : List (κ × α)) :
    (setEntry key value es).map Prod.fst =
      if key ∈ es.map Prod.fst then es.map Prod.fst else es.map Prod.fst ++ [key] := by
  induction es with
  | nil => simp [setEntry]
  | cons e es ih =>
    obtain ⟨k, v⟩ := e
    by_cases h : k = key
    · subst h
      simp [setEntry]
    · have hne : key ≠ k := fun heq => h heq.symm
      simp only [setEntry, h, if_false, List.map_cons, ih, List.mem_cons, hne, false_or]
      split <;> simp

theorem nodup_setEntry {key : κ} {value : α} {es : List (κ × α)}
    (h : (es.map Prod.fst).Nodup) : ((setEntry key value es).map Prod.fst).Nodup := by
  rw [keys_setEntry]
  split
  · exact h
  · rename_i hmem
    refine List.nodup_append.mpr ⟨h, by simp, ?_⟩
    rintro a ha b hb rfl
    exact hmem (List.mem_singleton.mp hb ▸ ha)

/-- The map with `key` set to `value`. -/
def set (m : OrderedMap κ α) (key : κ) (value : α) : OrderedMap κ α :=
  ⟨setEntry key value m.entries, nodup_setEntry m.distinct⟩

theorem findIn_setEntry (key other : κ) (value : α) (es : List (κ × α)) :
    findIn other (setEntry key value es) =
      if key = other then some value else findIn other es := by
  induction es with
  | nil => simp [setEntry, findIn]
  | cons e es ih =>
    obtain ⟨k, v⟩ := e
    by_cases hk : k = key
    · subst hk
      by_cases h : k = other <;> simp [setEntry, findIn, h]
    · by_cases h : k = other
      · subst h
        have hne : ¬ key = k := fun heq => hk heq.symm
        simp [setEntry, findIn, hk, hne]
      · simp [setEntry, findIn, hk, h, ih]

/-- Setting a key changes that key and no other. -/
theorem find?_set (m : OrderedMap κ α) (key other : κ) (value : α) :
    (m.set key value).find? other = if key = other then some value else m.find? other :=
  findIn_setEntry key other value m.entries

@[simp] theorem find?_empty (key : κ) : (empty : OrderedMap κ α).find? key = none := rfl

/-- The keys after setting one: the same if it was there, else it comes last. -/
theorem keys_set (m : OrderedMap κ α) (key : κ) (value : α) :
    (m.set key value).keys = if key ∈ m.keys then m.keys else m.keys ++ [key] :=
  keys_setEntry key value m.entries

/-- An entry of different keys is found by its key. -/
theorem findIn_of_mem {es : List (κ × α)} (hdistinct : (es.map Prod.fst).Nodup) {e : κ × α}
    (he : e ∈ es) : findIn e.1 es = some e.2 := by
  induction es with
  | nil => cases he
  | cons f fs ih =>
    obtain ⟨k, v⟩ := f
    rw [List.map_cons, List.nodup_cons] at hdistinct
    obtain ⟨hk, hfs⟩ := hdistinct
    rcases List.mem_cons.mp he with rfl | he
    · rw [findIn, if_pos rfl]
    · have hmem : e.1 ∈ fs.map Prod.fst := List.mem_map_of_mem he
      have hne : k ≠ e.1 := fun heq => hk (heq ▸ hmem)
      rw [findIn, if_neg hne, ih hfs he]

/-- A key is set when there is a value at it. -/
theorem mem_keys_iff {m : OrderedMap κ α} {key : κ} :
    key ∈ m.keys ↔ (m.find? key).isSome = true := by
  have hentries : ∀ es : List (κ × α), key ∈ es.map Prod.fst ↔ (findIn key es).isSome = true := by
    intro es
    induction es with
    | nil => simp [findIn]
    | cons e es ih =>
      obtain ⟨k, v⟩ := e
      by_cases hk : k = key
      · simp [findIn, hk]
      · rw [List.map_cons, List.mem_cons, ih, findIn, if_neg hk]
        exact or_iff_right (Ne.symm hk)
  exact hentries m.entries

/-- The values are what is found at the keys. -/
theorem map_some_values (m : OrderedMap κ α) : m.values.map some = m.keys.map m.find? := by
  rw [values, keys, List.map_map, List.map_map]
  exact List.map_congr_left fun e he => (findIn_of_mem m.distinct he).symm

/-! ## Setting several keys -/

section

variable {γ : Type w} (key : γ → κ) (value : γ → α)

/-- Keys that are not among those set keep what they had. -/
theorem find?_foldl_set_of_not_mem {es : List γ} {k : κ} (h : k ∉ es.map key)
    (m : OrderedMap κ α) :
    (es.foldl (fun m e => m.set (key e) (value e)) m).find? k = m.find? k := by
  induction es generalizing m with
  | nil => rfl
  | cons e es ih =>
    rw [List.map_cons, List.mem_cons, not_or] at h
    obtain ⟨hne, hrest⟩ := h
    rw [List.foldl_cons, ih hrest, find?_set, if_neg (Ne.symm hne)]

/-- Of different keys that are set each gets its value. -/
theorem find?_foldl_set_of_mem {es : List γ} (hdistinct : (es.map key).Nodup) {e : γ} (he : e ∈ es)
    (m : OrderedMap κ α) :
    (es.foldl (fun m e => m.set (key e) (value e)) m).find? (key e) = some (value e) := by
  induction es generalizing m with
  | nil => cases he
  | cons f fs ih =>
    rw [List.map_cons, List.nodup_cons] at hdistinct
    obtain ⟨hf, hfs⟩ := hdistinct
    rw [List.foldl_cons]
    rcases List.mem_cons.mp he with rfl | he
    · rw [find?_foldl_set_of_not_mem key value hf, find?_set, if_pos rfl]
    · exact ih hfs he _

end

end OrderedMap

end TableGateway

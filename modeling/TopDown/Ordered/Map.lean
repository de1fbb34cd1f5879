import TopDown.Ordered.Set

/-!
# Finite maps in canonical order

A map is the list of its entries, keys strictly increasing, so that it too has one representation.

* `OrderedMap`, `get?`, `insert` (a later value replaces an earlier one), `keys`;
* `OrderedMap.ofEntries`: the entries of a list, and `entries_ofEntries`; `OrderedMap.ofSet`: one
  entry for every member of a set; `mapValues`, `filterValues`;
* `get?_insert`, `get?_ofSet`, `mem_keys`; `size_insert_of_get?_eq_none` and
  `size_insert_of_get?_eq_some`: only a new key makes another entry;
* `OrderedMap.ext`: maps that agree on every key are equal.
-/

namespace TopDown

/-- A finite map: its entries by increasing key. -/
structure OrderedMap (κ ν : Type) [CanonicalOrder κ] where
  entries : List (κ × ν)
  sorted : (entries.map Prod.fst).Pairwise (· < ·)

namespace OrderedMap

variable {κ ν : Type} [CanonicalOrder κ]

instance : EmptyCollection (OrderedMap κ ν) := ⟨⟨[], OrderedSet.pairwise_nil⟩⟩

instance : Inhabited (OrderedMap κ ν) := ⟨∅⟩

/-- The keys that have a value. -/
def keys (m : OrderedMap κ ν) : OrderedSet κ := ⟨m.entries.map Prod.fst, m.sorted⟩

/-- The number of entries. -/
def size (m : OrderedMap κ ν) : Nat := m.entries.length

/-- The value of a key. -/
def get? [DecidableEq κ] (m : OrderedMap κ ν) (k : κ) : Option ν :=
  (m.entries.find? (·.1 = k)).map Prod.snd

@[simp] theorem get?_empty [DecidableEq κ] (k : κ) : (∅ : OrderedMap κ ν).get? k = none := rfl

theorem eq_of_entries {m n : OrderedMap κ ν} (h : m.entries = n.entries) : m = n := by
  cases m; cases n; cases h; rfl

theorem mem_keys {m : OrderedMap κ ν} {k : κ} : k ∈ m.keys ↔ ∃ v, (k, v) ∈ m.entries := by
  refine List.mem_map.trans ⟨?_, fun ⟨v, h⟩ => ⟨(k, v), h, rfl⟩⟩
  rintro ⟨⟨_, v⟩, h, rfl⟩
  exact ⟨v, h⟩

/-- A key has one value. -/
theorem eq_of_mem_entries {m : OrderedMap κ ν} {k : κ} {v w : ν} (hv : (k, v) ∈ m.entries)
    (hw : (k, w) ∈ m.entries) : v = w := by
  have key : ∀ l : List (κ × ν), (l.map Prod.fst).Pairwise (· < ·) →
      (k, v) ∈ l → (k, w) ∈ l → v = w := by
    intro l
    induction l with
    | nil => intro _ h; exact absurd h List.not_mem_nil
    | cons e l ih =>
      intro hs hv hw
      obtain ⟨he, hs⟩ := List.pairwise_cons.1 hs
      have hne : ∀ u, (k, u) ∈ l → e.1 ≠ k := fun u hu =>
        CanonicalOrder.ne_of_lt (he k (List.mem_map.2 ⟨_, hu, rfl⟩))
      rcases List.mem_cons.1 hv with rfl | hv <;> rcases List.mem_cons.1 hw with h | hw
      · exact (Prod.mk.inj h).2.symm
      · exact absurd rfl (hne w hw)
      · exact absurd (congrArg Prod.fst h).symm (hne v hv)
      · exact ih hs hv hw
  exact key m.entries m.sorted hv hw

theorem get?_eq_some_iff [DecidableEq κ] {m : OrderedMap κ ν} {k : κ} {v : ν} :
    m.get? k = some v ↔ (k, v) ∈ m.entries := by
  have found : ∀ {w}, m.get? k = some w → (k, w) ∈ m.entries := by
    intro w h
    obtain ⟨e, he, rfl⟩ := Option.map_eq_some_iff.1 h
    have hk : e.1 = k := by simpa using List.find?_some he
    exact hk ▸ List.mem_of_find?_eq_some he
  refine ⟨found, fun h => ?_⟩
  match hf : m.get? k with
  | some w => rw [eq_of_mem_entries h (found hf)]
  | none =>
    have := List.find?_eq_none.1 (Option.map_eq_none_iff.1 hf) (k, v) h
    simp at this

/-! ## Insertion -/

/-- Put an entry into its place, in place of an entry with the same key. -/
def insertEntry (k : κ) (v : ν) : List (κ × ν) → List (κ × ν)
  | [] => [(k, v)]
  | (j, u) :: l =>
    if k < j then (k, v) :: (j, u) :: l
    else if j < k then (j, u) :: insertEntry k v l
    else (k, v) :: l

theorem map_fst_insertEntry (k : κ) (v : ν) (l : List (κ × ν)) :
    (insertEntry k v l).map Prod.fst = OrderedSet.insertSorted k (l.map Prod.fst) := by
  induction l with
  | nil => rfl
  | cons e l ih =>
    obtain ⟨j, u⟩ := e
    rw [insertEntry, List.map_cons, OrderedSet.insertSorted]
    split
    · rfl
    split
    · rw [List.map_cons, ih]
    · rename_i h h'
      rw [List.map_cons, CanonicalOrder.eq_of_not_lt h h']

theorem find?_insertEntry [DecidableEq κ] (k : κ) (v : ν) (j : κ) (l : List (κ × ν)) :
    (insertEntry k v l).find? (·.1 = j) =
      if j = k then some (k, v) else l.find? (·.1 = j) := by
  induction l with
  | nil =>
    rw [insertEntry, List.find?_cons]
    by_cases hj : j = k
    · subst hj; simp
    · simp [hj, Ne.symm hj]
  | cons e l ih =>
    obtain ⟨i, u⟩ := e
    rw [insertEntry]
    split
    · rw [List.find?_cons]
      by_cases hj : j = k
      · subst hj; simp
      · simp [hj, Ne.symm hj]
    split
    · rename_i h h'
      rw [List.find?_cons, ih, List.find?_cons]
      by_cases hj : j = k
      · subst hj; simp [CanonicalOrder.ne_of_lt h']
      · simp [hj]
    · rename_i h h'
      have hi : k = i := CanonicalOrder.eq_of_not_lt h h'
      subst hi
      rw [List.find?_cons, List.find?_cons]
      by_cases hj : j = k
      · subst hj; simp
      · simp [hj, Ne.symm hj]

/-- The map with the value of `k` set to `v`. -/
def insert (k : κ) (v : ν) (m : OrderedMap κ ν) : OrderedMap κ ν :=
  ⟨insertEntry k v m.entries,
    map_fst_insertEntry k v m.entries ▸ OrderedSet.pairwise_insertSorted m.sorted⟩

theorem get?_insert [DecidableEq κ] (k : κ) (v : ν) (m : OrderedMap κ ν) (j : κ) :
    (m.insert k v).get? j = if j = k then some v else m.get? j := by
  rw [get?, insert, find?_insertEntry]
  split <;> rfl

theorem keys_insert (k : κ) (v : ν) (m : OrderedMap κ ν) :
    (m.insert k v).keys = m.keys.insert k :=
  OrderedSet.eq_of_toList (map_fst_insertEntry k v m.entries)

theorem mem_keys_iff_get? [DecidableEq κ] {m : OrderedMap κ ν} {k : κ} :
    k ∈ m.keys ↔ (m.get? k).isSome = true := by
  rw [mem_keys, Option.isSome_iff_exists]
  exact exists_congr fun v => get?_eq_some_iff.symm

theorem size_keys (m : OrderedMap κ ν) : m.keys.size = m.size := List.length_map _

/-- A key that has no value yet is one more. -/
theorem size_insert_of_get?_eq_none [DecidableEq κ] {m : OrderedMap κ ν} {k : κ}
    (h : m.get? k = none) (v : ν) : (m.insert k v).size = m.size + 1 := by
  have hk : k ∉ m.keys := by simp [mem_keys_iff_get?, h]
  rw [← size_keys, keys_insert, OrderedSet.size_insert_of_not_mem hk, size_keys]

/-- A later value takes the place of the earlier one. -/
theorem size_insert_of_get?_eq_some [DecidableEq κ] {m : OrderedMap κ ν} {k : κ} {u : ν}
    (h : m.get? k = some u) (v : ν) : (m.insert k v).size = m.size := by
  have hk : k ∈ m.keys := by simp [mem_keys_iff_get?, h]
  rw [← size_keys, keys_insert, OrderedSet.insert_of_mem hk, size_keys]

/-! ## The entries of a list -/

/-- The map with these entries, of which an earlier one replaces a later one. -/
def ofEntries (l : List (κ × ν)) : OrderedMap κ ν := l.foldr (fun e m => m.insert e.1 e.2) ∅

/-- Entries by increasing key are the entries of their map. -/
theorem entries_ofEntries {l : List (κ × ν)} (h : (l.map Prod.fst).Pairwise (· < ·)) :
    (ofEntries l).entries = l := by
  induction l with
  | nil => rfl
  | cons e l ih =>
    obtain ⟨k, v⟩ := e
    obtain ⟨hk, hl⟩ := List.pairwise_cons.1 h
    have hinsert : (ofEntries ((k, v) :: l)).entries = insertEntry k v (ofEntries l).entries := rfl
    rw [hinsert, ih hl]
    cases l with
    | nil => rfl
    | cons e' l =>
      have hlt : k < e'.1 := hk e'.1 List.mem_cons_self
      rw [insertEntry, if_pos hlt]

@[simp] theorem ofEntries_entries (m : OrderedMap κ ν) : ofEntries m.entries = m :=
  eq_of_entries (entries_ofEntries m.sorted)

/-! ## One entry for every member of a set -/

/-- The map that gives every member of `s` its value under `f`. -/
def ofSet (s : OrderedSet κ) (f : κ → ν) : OrderedMap κ ν :=
  ⟨s.toList.map fun k => (k, f k), by
    rw [List.map_map, show Prod.fst ∘ (fun k => (k, f k)) = id from rfl, List.map_id]
    exact s.sorted⟩

@[simp] theorem keys_ofSet (s : OrderedSet κ) (f : κ → ν) : (ofSet s f).keys = s :=
  OrderedSet.eq_of_toList (by simp [keys, ofSet, Function.comp_def])

theorem get?_ofSet [DecidableEq κ] (s : OrderedSet κ) (f : κ → ν) (k : κ) :
    (ofSet s f).get? k = if k ∈ s then some (f k) else none := by
  split
  · rename_i h
    exact get?_eq_some_iff.2 (List.mem_map.2 ⟨k, h, rfl⟩)
  · rename_i h
    refine Option.eq_none_iff_forall_ne_some.2 fun v hv => h ?_
    obtain ⟨j, hj, e⟩ := List.mem_map.1 (get?_eq_some_iff.1 hv)
    obtain rfl : j = k := congrArg Prod.fst e
    exact hj

/-- The map with every value passed through `f`. -/
def mapValues {μ : Type} (f : ν → μ) (m : OrderedMap κ ν) : OrderedMap κ μ :=
  ⟨m.entries.map fun e => (e.1, f e.2), by
    rw [List.map_map, show Prod.fst ∘ (fun e : κ × ν => (e.1, f e.2)) = Prod.fst from rfl]
    exact m.sorted⟩

theorem get?_mapValues {μ : Type} [DecidableEq κ] (f : ν → μ) (m : OrderedMap κ ν) (k : κ) :
    (m.mapValues f).get? k = (m.get? k).map f := by
  simp [get?, mapValues, List.find?_map, Function.comp_def]

/-- The entries that pass a test of their values. -/
def filterValues (p : ν → Bool) (m : OrderedMap κ ν) : OrderedMap κ ν :=
  ⟨m.entries.filter (p ·.2), m.sorted.sublist (List.filter_sublist.map _)⟩

theorem get?_filterValues [DecidableEq κ] {p : ν → Bool} {m : OrderedMap κ ν} {k : κ} {v : ν} :
    (m.filterValues p).get? k = some v ↔ m.get? k = some v ∧ p v = true := by
  rw [get?_eq_some_iff, get?_eq_some_iff]
  exact List.mem_filter

/-- **Maps that agree on every key are equal.** -/
theorem ext [DecidableEq κ] {m n : OrderedMap κ ν} (h : ∀ k, m.get? k = n.get? k) : m = n := by
  have mem : ∀ k v, (k, v) ∈ m.entries ↔ (k, v) ∈ n.entries := fun k v => by
    rw [← get?_eq_some_iff, ← get?_eq_some_iff, h]
  have hkeys : m.keys = n.keys := by
    ext k
    rw [mem_keys, mem_keys]
    exact exists_congr fun v => mem k v
  refine eq_of_entries (List.ext_getElem ?_ fun i hi hi' => ?_)
  · have := congrArg (List.length ∘ OrderedSet.toList) hkeys
    simpa [keys] using this
  · have hfst : (m.entries[i]).1 = (n.entries[i]).1 := by
      have := congrArg (fun s : OrderedSet κ => s.toList[i]?) hkeys
      simpa [keys, List.getElem?_eq_getElem hi, List.getElem?_eq_getElem hi'] using this
    refine Prod.ext hfst (eq_of_mem_entries (List.getElem_mem hi) ((mem _ _).2 ?_))
    change ((m.entries[i]).1, (n.entries[i]).2) ∈ n.entries
    rw [hfst]
    exact List.getElem_mem hi'

end OrderedMap

end TopDown

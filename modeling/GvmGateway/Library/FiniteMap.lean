import Mathlib

/-!
# Finite maps with totals

Association lists with distinct keys (`AList`), used as the finite maps of a program's
state. Three things are added to the lookup, insertion and erasure the library has:

* `filter` and `mapVal`, the in-place traversals of a map, with what a lookup sees of them;
* `eraseAll`, a loop that erases a list of keys;
* `total f m`, the sum of `f` over the entries of `m`, in any commutative monoid: with `ℕ`
  it counts entries, with `Multiset` it collects them. The lemmas say what one insertion,
  replacement, erasure or traversal does to a total, which is how a counter kept elsewhere
  is shown to stay in step with the map.
-/

namespace AList

variable {K V W : Type*} [DecidableEq K]

/-! ## Lookup after an update -/

/-- After an insertion its key has the new value, and every other key its own. -/
theorem lookup_insert_eq_ite (m : AList fun _ : K => V) (k j : K) (v : V) :
    (m.insert k v).lookup j = if j = k then some v else m.lookup j := by
  by_cases h : j = k
  · subst h
    rw [lookup_insert, if_pos rfl]
  · rw [lookup_insert_ne h, if_neg h]

/-- What holds of the entry written, and of every other one, holds of all of them. -/
theorem forall_lookup_insert {P : K → V → Prop} {m : AList fun _ : K => V} {k : K} {v : V}
    (hnew : P k v) (hold : ∀ j w, j ≠ k → m.lookup j = some w → P j w) :
    ∀ j w, (m.insert k v).lookup j = some w → P j w := by
  intro j w hj
  rw [lookup_insert_eq_ite] at hj
  by_cases h : j = k
  · rw [if_pos h] at hj
    obtain rfl := Option.some.inj hj
    exact h ▸ hnew
  · rw [if_neg h] at hj
    exact hold j w h hj

/-- After a removal its key has no value, and every other key its own. -/
theorem lookup_erase_eq_ite (m : AList fun _ : K => V) (k j : K) :
    (m.erase k).lookup j = if j = k then none else m.lookup j := by
  by_cases h : j = k
  · subst h
    rw [lookup_erase, if_pos rfl]
  · rw [lookup_erase_ne h, if_neg h]

/-- A key is in a map when it has a value. -/
theorem mem_iff_lookup {m : AList fun _ : K => V} {k : K} :
    k ∈ m ↔ ∃ v, m.lookup k = some v := by
  rw [← lookup_isSome, Option.isSome_iff_exists]

/-- A key with a value is in the map. -/
theorem mem_of_lookup {m : AList fun _ : K => V} {k : K} {v : V}
    (h : m.lookup k = some v) : k ∈ m := mem_iff_lookup.mpr ⟨v, h⟩

/-- The entries of a map are its keys with their values. -/
theorem mem_entries_iff {m : AList fun _ : K => V} {k : K} {v : V} :
    (⟨k, v⟩ : Sigma fun _ : K => V) ∈ m.entries ↔ m.lookup k = some v :=
  mem_lookup_iff.symm

/-- The erasure of an entry found in the map leaves the other entries. -/
theorem entries_perm_of_lookup {m : AList fun _ : K => V} {k : K} {v : V}
    (h : m.lookup k = some v) : m.entries.Perm (⟨k, v⟩ :: (m.erase k).entries) := by
  have hmem : k ∈ m.entries.keys := mem_keys.mp (mem_of_lookup h)
  obtain ⟨w, l₁, l₂, -, hentries, herase⟩ := List.exists_of_kerase hmem
  have hw : m.lookup k = some w :=
    mem_entries_iff.mp (by rw [hentries]; simp)
  obtain rfl : v = w := Option.some.inj (h.symm.trans hw)
  have hdef : (m.erase k).entries = l₁ ++ l₂ := herase
  rw [hentries, hdef]
  exact List.perm_middle

/-- The keys of a map are those with a value. -/
theorem mem_keys_iff_lookup {m : AList fun _ : K => V} {k : K} :
    k ∈ m.keys ↔ ∃ v, m.lookup k = some v := by
  rw [← mem_keys, mem_iff_lookup]

/-! ## Traversals -/

omit [DecidableEq K] in
/-- Fewer entries have distinct keys. -/
theorem nodupKeys_filter {l : List (Sigma fun _ : K => V)} (h : l.NodupKeys)
    (p : Sigma (fun _ : K => V) → Bool) : (l.filter p).NodupKeys :=
  h.sublist List.filter_sublist

/-- The entries that satisfy `p`. -/
def filter (p : K → V → Bool) (m : AList fun _ : K => V) : AList fun _ : K => V :=
  ⟨m.entries.filter fun e => p e.1 e.2, nodupKeys_filter m.nodupKeys _⟩

omit [DecidableEq K] in
/-- The entries that are kept. -/
@[simp] theorem entries_filter (p : K → V → Bool) (m : AList fun _ : K => V) :
    (m.filter p).entries = m.entries.filter fun e => p e.1 e.2 := rfl

/-- A key keeps its value when the filter lets it through. -/
theorem lookup_filter (p : K → V → Bool) (m : AList fun _ : K => V) (k : K) :
    (m.filter p).lookup k = (m.lookup k).filter (p k) := by
  ext v
  rw [← Option.mem_def, mem_lookup_iff, entries_filter, List.mem_filter, mem_entries_iff,
    Option.filter_eq_some_iff]

/-- What is found after a filter was there and passes it. -/
theorem lookup_filter_eq_some {p : K → V → Bool} {m : AList fun _ : K => V} {k : K} {v : V} :
    (m.filter p).lookup k = some v ↔ m.lookup k = some v ∧ p k v = true := by
  rw [lookup_filter, Option.filter_eq_some_iff]

/-- The same keys with every value rewritten. -/
def mapVal (f : K → V → W) (m : AList fun _ : K => V) : AList fun _ : K => W :=
  ⟨m.entries.map fun e => ⟨e.1, f e.1 e.2⟩, by
    rw [List.NodupKeys, List.keys, List.map_map]
    exact m.nodupKeys⟩

/-- A key has the image of its value. -/
theorem lookup_mapVal (f : K → V → W) (m : AList fun _ : K => V) (k : K) :
    (m.mapVal f).lookup k = (m.lookup k).map (f k) := by
  ext w
  rw [← Option.mem_def, mem_lookup_iff, Option.map_eq_some_iff]
  constructor
  · intro h
    obtain ⟨⟨j, v⟩, hv, heq⟩ := List.mem_map.mp h
    obtain ⟨rfl, hw⟩ := Sigma.mk.inj_iff.mp heq
    exact ⟨v, mem_entries_iff.mp hv, eq_of_heq hw⟩
  · rintro ⟨v, hv, rfl⟩
    exact List.mem_map.mpr ⟨⟨k, v⟩, mem_entries_iff.mpr hv, rfl⟩

/-! ## Erasing a list of keys -/

/-- The loop that erases every key of a list. -/
def eraseAll (m : AList fun _ : K => V) (ks : List K) : AList fun _ : K => V :=
  ks.foldl (fun m k => m.erase k) m

/-- After a removal of several keys these have no value, and every other key its own. -/
theorem lookup_eraseAll (m : AList fun _ : K => V) (ks : List K) (j : K) :
    (m.eraseAll ks).lookup j = if j ∈ ks then none else m.lookup j := by
  induction ks generalizing m with
  | nil => simp [eraseAll]
  | cons k ks ih =>
    have hcons : m.eraseAll (k :: ks) = (m.erase k).eraseAll ks := rfl
    rw [hcons, ih, lookup_erase_eq_ite]
    by_cases hk : j = k <;> by_cases hks : j ∈ ks <;> simp [hk, hks]

/-! ## Totals -/

section Total

variable {M : Type*} [AddCommMonoid M]

/-- The sum of `f` over the entries of the map. -/
def total (f : K → V → M) (m : AList fun _ : K => V) : M :=
  (m.entries.map fun e => f e.1 e.2).sum

/-- A new entry adds its share to the total. -/
theorem total_insert_of_notMem (f : K → V → M) {m : AList fun _ : K => V} {k : K} (v : V)
    (h : m.lookup k = none) : (m.insert k v).total f = f k v + m.total f := by
  rw [total, entries_insert_of_notMem (lookup_eq_none.mp h), List.map_cons, List.sum_cons, total]

/-- An entry's share of a total is what its erasure takes away. -/
theorem total_of_lookup (f : K → V → M) {m : AList fun _ : K => V} {k : K} {v : V}
    (h : m.lookup k = some v) : m.total f = f k v + (m.erase k).total f := by
  rw [total, ((entries_perm_of_lookup h).map _).sum_eq, List.map_cons, List.sum_cons, total]

/-- An insertion replaces the share of its key. -/
theorem total_insert (f : K → V → M) (m : AList fun _ : K => V) (k : K) (v : V) :
    (m.insert k v).total f = f k v + (m.erase k).total f := by
  rw [total, entries_insert, List.map_cons, List.sum_cons, total]
  rfl

/-- A replaced entry trades the share of the old value for that of the new one. -/
theorem total_insert_of_lookup (f : K → V → M) {m : AList fun _ : K => V} {k : K} {old : V}
    (v : V) (h : m.lookup k = some old) :
    (m.insert k v).total f + f k old = m.total f + f k v := by
  rw [total_insert, total_of_lookup f h, add_assoc, add_comm (total f _), ← add_assoc,
    add_comm (f k v), add_right_comm]

/-- Replacing an entry by one with the same share keeps the total. -/
theorem total_insert_eq (f : K → V → M) {m : AList fun _ : K => V} {k : K} {old v : V}
    (h : m.lookup k = some old) (hf : f k v = f k old) :
    (m.insert k v).total f = m.total f := by
  rw [total_insert, total_of_lookup f h, hf]

/-- Removing nothing leaves the total. -/
theorem total_erase_of_notMem (f : K → V → M) {m : AList fun _ : K => V} {k : K}
    (h : m.lookup k = none) : (m.erase k).total f = m.total f := by
  have hk : k ∉ m.entries.keys := lookup_eq_none.mp h
  have herase : (m.erase k).entries = m.entries := List.kerase_of_notMem_keys hk
  rw [total, herase, total]

/-- A total depends on the entries only. -/
theorem total_congr {f g : K → V → M} {m : AList fun _ : K => V}
    (h : ∀ k v, m.lookup k = some v → f k v = g k v) : m.total f = m.total g := by
  rw [total, total]
  congr 1
  exact List.map_congr_left fun e he => h e.1 e.2 (mem_entries_iff.mp he)

omit [DecidableEq K] in
/-- Leaving entries out of the sum and leaving them out of the map come to the same. -/
theorem total_ite (f : K → V → M) (p : K → V → Bool) (m : AList fun _ : K => V) :
    (m.total fun k v => if p k v then f k v else 0) = (m.filter p).total f := by
  have key : ∀ l : List (Sigma fun _ : K => V),
      (l.map fun e => if p e.1 e.2 then f e.1 e.2 else 0).sum
        = ((l.filter fun e => p e.1 e.2).map fun e => f e.1 e.2).sum := by
    intro l
    induction l with
    | nil => rfl
    | cons e l ih => cases hp : p e.1 e.2 <;> simp [hp, ih]
  exact key m.entries

/-- A total depends on the map through its lookups only. -/
theorem total_eq_of_lookup_eq (f : K → V → M) {m n : AList fun _ : K => V}
    (h : ∀ k, m.lookup k = n.lookup k) : m.total f = n.total f := by
  have hperm : m.entries.Perm n.entries := by
    apply List.lookup_ext m.nodupKeys n.nodupKeys
    intro k v
    have hk : m.entries.dlookup k = n.entries.dlookup k := h k
    rw [hk]
  rw [total, total, (hperm.map _).sum_eq]

omit [DecidableEq K] in
/-- A total over mapped values. -/
theorem total_mapVal (f : K → W → M) (g : K → V → W) (m : AList fun _ : K => V) :
    (m.mapVal g).total f = m.total fun k v => f k (g k v) := by
  rw [total, total, mapVal, List.map_map]
  rfl

end Total

/-! ## Counting -/

/-- A summand is at most the total. -/
theorem le_total_of_lookup {f : K → V → ℕ} {m : AList fun _ : K => V} {k : K} {v : V}
    (h : m.lookup k = some v) : f k v ≤ m.total f := by
  rw [total_of_lookup f h]
  exact Nat.le_add_right _ _

omit [DecidableEq K] in
/-- The total of ones is the number of entries. -/
theorem total_one (m : AList fun _ : K => V) : (m.total fun _ _ => 1) = m.entries.length := by
  rw [total, List.map_const', List.sum_replicate, smul_eq_mul, mul_one]

/-- A key that is set again adds no entry. -/
theorem length_insert_of_mem {m : AList fun _ : K => V} {k : K} (v : V) (h : k ∈ m) :
    (m.insert k v).entries.length = m.entries.length := by
  obtain ⟨old, hold⟩ := mem_iff_lookup.mp h
  rw [← total_one, ← total_one]
  exact total_insert_eq _ hold rfl

theorem length_insert_le (m : AList fun _ : K => V) (k : K) (v : V) :
    (m.insert k v).entries.length ≤ m.entries.length + 1 := by
  by_cases h : k ∈ m
  · rw [length_insert_of_mem v h]
    exact Nat.le_succ _
  · rw [entries_insert_of_notMem h, List.length_cons]

/-- A positive total has an entry with a positive share. -/
theorem exists_of_total_pos {f : K → V → ℕ} {m : AList fun _ : K => V} (h : 0 < m.total f) :
    ∃ k v, m.lookup k = some v ∧ 0 < f k v := by
  by_contra hno
  push Not at hno
  have hzero : m.total f = m.total fun _ _ => 0 :=
    total_congr fun k v hv => Nat.le_zero.mp (hno k v hv)
  rw [hzero, total] at h
  simp at h

/-- A total is zero when every share is. -/
theorem total_eq_zero {f : K → V → ℕ} {m : AList fun _ : K => V} :
    m.total f = 0 ↔ ∀ k v, m.lookup k = some v → f k v = 0 := by
  constructor
  · intro h k v hv
    have := le_total_of_lookup (f := f) hv
    omega
  · intro h
    by_contra hne
    obtain ⟨k, v, hv, hpos⟩ := exists_of_total_pos (Nat.pos_of_ne_zero hne)
    have := h k v hv
    omega

/-- Erasing takes nothing but the erased entry's share away. -/
theorem total_erase_le (f : K → V → ℕ) (m : AList fun _ : K => V) (k : K) :
    (m.erase k).total f ≤ m.total f := by
  rcases hk : m.lookup k with _ | v
  · exact le_of_eq (total_erase_of_notMem f hk)
  · rw [total_of_lookup f hk]
    exact Nat.le_add_left _ _

/-- A removal does not increase a total. -/
theorem total_eraseAll_le (f : K → V → ℕ) (m : AList fun _ : K => V) (ks : List K) :
    (m.eraseAll ks).total f ≤ m.total f := by
  induction ks generalizing m with
  | nil => exact le_refl _
  | cons k ks ih => exact (ih (m.erase k)).trans (total_erase_le f m k)

/-- A total that one key alone contributes to. -/
theorem total_eq_single {f : K → V → ℕ} {m : AList fun _ : K => V} (k : K)
    (h : ∀ j v, m.lookup j = some v → j ≠ k → f j v = 0) :
    m.total f = (m.lookup k).elim 0 (f k) := by
  have hrest : (m.erase k).total f = 0 := by
    refine total_eq_zero.mpr fun j v hj => ?_
    rw [lookup_erase_eq_ite] at hj
    split at hj
    · cases hj
    · next hne => exact h j v hj hne
  rcases hk : m.lookup k with _ | v
  · rwa [← total_erase_of_notMem f hk]
  · rw [total_of_lookup f hk, hrest]
    rfl

omit [DecidableEq K] in
/-- How often a value comes up among the images of the entries. -/
theorem count_filterMap_entries {W : Type*} [DecidableEq W] (f : K → V → Option W)
    (m : AList fun _ : K => V) (w : W) :
    (m.entries.filterMap fun e => f e.1 e.2).count w =
      m.total fun k v => if f k v = some w then 1 else 0 := by
  have key : ∀ l : List (Sigma fun _ : K => V), (l.filterMap fun e => f e.1 e.2).count w =
      (l.map fun e => if f e.1 e.2 = some w then 1 else 0).sum := by
    intro l
    induction l with
    | nil => rfl
    | cons e l ih =>
      rw [List.filterMap_cons, List.map_cons, List.sum_cons, ← ih]
      rcases he : f e.1 e.2 with _ | w'
      · simp
      · by_cases hw : w' = w
        · subst hw
          simp [Nat.add_comm]
        · simp [hw]
  exact key m.entries

omit [DecidableEq K] in
theorem total_mono {f g : K → V → ℕ} {m : AList fun _ : K => V}
    (h : ∀ k v, f k v ≤ g k v) : m.total f ≤ m.total g := by
  rw [total, total]
  exact List.sum_le_sum fun e _ => h e.1 e.2

/-- The keys whose entries satisfy a property, as a map to nothing. -/
theorem lookup_filter_unit (p : K → V → Bool) (m : AList fun _ : K => V) (k : K) :
    ((m.filter p).mapVal fun _ _ => ()).lookup k = some () ↔
      ∃ v, m.lookup k = some v ∧ p k v = true := by
  rw [lookup_mapVal]
  constructor
  · intro h
    obtain ⟨v, hv, -⟩ := Option.map_eq_some_iff.mp h
    exact ⟨v, lookup_filter_eq_some.mp hv⟩
  · rintro ⟨v, hv⟩
    rw [lookup_filter_eq_some.mpr hv]
    rfl

omit [DecidableEq K] in
/-- The number of the entries that pass a test is that of a filtered map. -/
theorem total_ite_unit (p : K → V → Bool) (m : AList fun _ : K => V) :
    (m.total fun k v => if p k v then 1 else 0) =
      ((m.filter p).mapVal fun _ _ => ()).total fun _ _ => 1 := by
  rw [total_ite, total_mapVal]

/-- Two maps have as many entries of one kind each when the keys of these are the same. -/
theorem total_ite_eq {W : Type*} {p : K → V → Bool} {q : K → W → Bool} {m : AList fun _ : K => V}
    {n : AList fun _ : K => W}
    (h : ∀ k, (∃ v, m.lookup k = some v ∧ p k v = true) ↔
      ∃ w, n.lookup k = some w ∧ q k w = true) :
    (m.total fun k v => if p k v then 1 else 0) = n.total fun k w => if q k w then 1 else 0 := by
  rw [total_ite_unit, total_ite_unit]
  apply total_eq_of_lookup_eq
  intro k
  have hsame := (lookup_filter_unit p m k).trans ((h k).trans (lookup_filter_unit q n k).symm)
  cases hm : ((m.filter p).mapVal fun _ _ => ()).lookup k with
  | some u => exact (hsame.mp hm).symm
  | none =>
    cases hn : ((n.filter q).mapVal fun _ _ => ()).lookup k with
    | some u =>
      rw [hsame.mpr hn] at hm
      cases hm
    | none => rfl

end AList

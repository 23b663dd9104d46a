import Mathlib

/-!
# JSON values

JSON values, the fields of an object as a list of entries, and predicates on every node of a
value. The keys of an object are distinct where a lemma says so (`keys fields` has no
duplicates); the order of the fields means nothing.
-/

/-- A JSON value. An object is the list of its fields in the order of the text. -/
inductive Json where
  | null
  | bool (b : Bool)
  | number (n : ℚ)
  | string (s : String)
  | array (items : List Json)
  | object (fields : List (String × Json))
deriving Repr

namespace Json

/-- Induction on a value, with the hypothesis for every item and every field. -/
theorem induction {P : Json → Prop} (null : P null) (bool : ∀ b, P (bool b))
    (number : ∀ n, P (number n)) (string : ∀ s, P (string s))
    (array : ∀ items, (∀ v ∈ items, P v) → P (array items))
    (object : ∀ fields, (∀ e ∈ fields, P e.2) → P (object fields)) (v : Json) : P v := by
  refine @Json.rec P (fun items => ∀ v ∈ items, P v) (fun fields => ∀ e ∈ fields, P e.2)
    (fun e => P e.2) null bool number string array object ?_ ?_ ?_ ?_ ?_ v
  · intro v hv
    cases hv
  · intro v items hv hitems w hw
    rcases List.mem_cons.mp hw with rfl | hw
    · exact hv
    · exact hitems w hw
  · intro e he
    cases he
  · intro e fields he hfields f hf
    rcases List.mem_cons.mp hf with rfl | hf
    · exact he
    · exact hfields f hf
  · intro k v hv
    exact hv

/-- The values right below one. -/
def children : Json → List Json
  | .array items => items
  | .object fields => fields.map Prod.snd
  | _ => []

/-- Induction with the hypothesis for the children of a value and for theirs. -/
theorem induction_children {P : Json → Prop}
    (step : ∀ v, (∀ w ∈ v.children, P w ∧ ∀ u ∈ w.children, P u) → P v) (v : Json) : P v := by
  have key : P v ∧ ∀ w ∈ v.children, P w := by
    have hleaf : ∀ w : Json, w.children = [] → P w ∧ ∀ u ∈ w.children, P u := by
      intro w hw
      rw [hw]
      have hnone : ∀ u ∈ w.children, P u ∧ ∀ t ∈ u.children, P t := by
        rw [hw]
        exact fun u hu => by cases hu
      exact ⟨step w hnone, fun u hu => by cases hu⟩
    induction v using Json.induction with
    | null => exact hleaf _ rfl
    | bool b => exact hleaf _ rfl
    | number n => exact hleaf _ rfl
    | string s => exact hleaf _ rfl
    | array items ih => exact ⟨step _ ih, fun w hw => (ih w hw).1⟩
    | object fields ih =>
      have hchild : ∀ w ∈ (object fields).children, P w ∧ ∀ u ∈ w.children, P u := by
        intro w hw
        obtain ⟨e, he, rfl⟩ := List.mem_map.mp hw
        exact ih e he
      exact ⟨step _ hchild, fun w hw => (hchild w hw).1⟩
  exact key.1

/-! ## Fields -/

section Fields

variable {V : Type*}

/-- The keys of a list of fields, in order. -/
def keys (fields : List (String × V)) : List String := fields.map Prod.fst

/-- The entry of `k`, put in the place of the one that is there. -/
def insert : List (String × V) → String → V → List (String × V)
  | [], k, v => [(k, v)]
  | (j, w) :: rest, k, v => if j = k then (k, v) :: rest else (j, w) :: insert rest k v

/-- Without the fields of a key. -/
def remove (fields : List (String × V)) (k : String) : List (String × V) :=
  fields.filter fun e => e.1 ≠ k

/-- A key is not found exactly when no field has it. -/
theorem lookup_eq_none_iff {fields : List (String × V)} {k : String} :
    fields.lookup k = none ↔ k ∉ keys fields := by
  induction fields with
  | nil => simp [keys]
  | cons e rest ih =>
    unfold keys at ih ⊢
    rw [List.lookup_cons, List.map_cons, List.mem_cons, not_or, ← ih]
    by_cases h : k = e.1
    · simp [h]
    · have hne : (k == e.1) = false := by simpa using h
      simp [hne, h]

/-- What is found is a field. -/
theorem mem_of_lookup {fields : List (String × V)} {k : String} {v : V}
    (h : fields.lookup k = some v) : (k, v) ∈ fields := by
  induction fields with
  | nil => cases h
  | cons e rest ih =>
    rw [List.lookup_cons] at h
    by_cases heq : k = e.1
    · subst heq
      have hv : e.2 = v := by simpa using h
      subst hv
      exact List.mem_cons_self
    · have hne : (k == e.1) = false := by simpa using heq
      rw [hne] at h
      exact List.mem_cons_of_mem _ (ih h)

/-- The key of a field is among the keys. -/
theorem mem_keys_of_mem {fields : List (String × V)} {e : String × V} (h : e ∈ fields) :
    e.1 ∈ keys fields := List.mem_map_of_mem h

/-- With distinct keys every field is found. -/
theorem lookup_of_mem {fields : List (String × V)} {k : String} {v : V}
    (hdistinct : (keys fields).Nodup) (h : (k, v) ∈ fields) : fields.lookup k = some v := by
  induction fields with
  | nil => cases h
  | cons e rest ih =>
    have hkeys : e.1 ∉ keys rest ∧ (keys rest).Nodup := List.nodup_cons.mp hdistinct
    rw [List.lookup_cons]
    rcases List.mem_cons.mp h with rfl | hrest
    · simp
    · have hne : (k == e.1) = false := by
        have hk : k ≠ e.1 := fun heq => hkeys.1 (heq ▸ mem_keys_of_mem hrest)
        simpa using hk
      rw [hne]
      exact ih hkeys.2 hrest

/-- After an insertion its key has the new value, and every other key its own. -/
theorem lookup_insert (fields : List (String × V)) (k : String) (v : V) (j : String) :
    (insert fields k v).lookup j = if j = k then some v else fields.lookup j := by
  induction fields with
  | nil =>
    unfold insert
    by_cases h : j = k
    · simp [h]
    · have hne : (j == k) = false := by simpa using h
      simp [List.lookup_cons, hne, h]
  | cons e rest ih =>
    unfold insert
    by_cases he : e.1 = k
    · subst he
      by_cases h : j = e.1
      · simp [h]
      · have hne : (j == e.1) = false := by simpa using h
        rw [if_pos rfl, if_neg h, List.lookup_cons, List.lookup_cons, hne]
    · rw [if_neg he, List.lookup_cons, List.lookup_cons, ih]
      by_cases h : j = e.1
      · have hk : e.1 ≠ k := he
        simp [h, hk]
      · have hne : (j == e.1) = false := by simpa using h
        simp [hne]

/-- What an insertion leaves: the new entry, and the old ones of other keys. -/
theorem mem_insert {fields : List (String × V)} (hdistinct : (keys fields).Nodup) {k : String}
    {v : V} {e : String × V} :
    e ∈ insert fields k v ↔ e = (k, v) ∨ e ∈ fields ∧ e.1 ≠ k := by
  induction fields with
  | nil => simp [insert]
  | cons f rest ih =>
    have hkeys : f.1 ∉ keys rest ∧ (keys rest).Nodup := List.nodup_cons.mp hdistinct
    unfold insert
    by_cases hf : f.1 = k
    · rw [if_pos hf, List.mem_cons, List.mem_cons]
      have hrest : e ∈ rest → e.1 ≠ k := fun he heq =>
        hkeys.1 (hf.trans heq.symm ▸ mem_keys_of_mem he)
      grind
    · rw [if_neg hf, List.mem_cons, List.mem_cons, ih hkeys.2]
      grind

/-- An insertion adds no key but its own. -/
theorem keys_insert_subset {fields : List (String × V)} {k j : String} {v : V}
    (h : j ∈ keys (insert fields k v)) : j = k ∨ j ∈ keys fields := by
  by_contra hnot
  rw [not_or] at hnot
  have hlookup : (insert fields k v).lookup j = none := by
    rw [lookup_insert, if_neg hnot.1]
    exact lookup_eq_none_iff.mpr hnot.2
  exact lookup_eq_none_iff.mp hlookup h

theorem nodup_keys_insert {fields : List (String × V)} (hdistinct : (keys fields).Nodup)
    (k : String) (v : V) : (keys (insert fields k v)).Nodup := by
  induction fields with
  | nil => simp [insert, keys]
  | cons f rest ih =>
    have hkeys : f.1 ∉ keys rest ∧ (keys rest).Nodup := List.nodup_cons.mp hdistinct
    unfold insert
    by_cases hf : f.1 = k
    · rw [if_pos hf]
      exact List.nodup_cons.mpr ⟨hf ▸ hkeys.1, hkeys.2⟩
    · rw [if_neg hf]
      refine List.nodup_cons.mpr ⟨fun h => ?_, ih hkeys.2⟩
      rcases keys_insert_subset h with heq | hmem
      · exact hf heq
      · exact hkeys.1 hmem

/-- After a removal its key has no value, and every other key its own. -/
theorem lookup_remove (fields : List (String × V)) (k j : String) :
    (remove fields k).lookup j = if j = k then none else fields.lookup j := by
  induction fields with
  | nil => simp [remove]
  | cons e rest ih =>
    unfold remove at ih ⊢
    rw [List.filter_cons]
    by_cases he : e.1 = k
    · rw [if_neg (by simpa using he), ih, List.lookup_cons]
      by_cases h : j = k
      · simp [h]
      · have hne : (j == e.1) = false := by simpa [he] using h
        rw [hne]
    · rw [if_pos (by simpa using he), List.lookup_cons, List.lookup_cons, ih]
      by_cases h : j = e.1
      · simp [h, he]
      · have hne : (j == e.1) = false := by simpa using h
        rw [hne]

/-- A removal keeps the keys distinct. -/
theorem nodup_keys_remove {fields : List (String × V)} {k : String}
    (hdistinct : (keys fields).Nodup) : (keys (remove fields k)).Nodup :=
  hdistinct.sublist (List.filter_sublist.map _)

/-- A traversal rewrites the value that a lookup finds. -/
theorem lookup_map {W : Type*} (f : String → V → W) (fields : List (String × V)) (k : String) :
    (fields.map fun e => (e.1, f e.1 e.2)).lookup k = (fields.lookup k).map (f k) := by
  induction fields with
  | nil => rfl
  | cons e rest ih =>
    rw [List.map_cons, List.lookup_cons, List.lookup_cons, ih]
    by_cases h : k = e.1
    · simp [h]
    · have hne : (k == e.1) = false := by simpa using h
      rw [hne]

end Fields

/-! ## Nodes -/

mutual

/-- `p` holds of every node. -/
def all (p : Json → Bool) : Json → Bool
  | .array items => p (.array items) && allItems p items
  | .object fields => p (.object fields) && allFields p fields
  | v => p v

/-- The items and everything below them. -/
def allItems (p : Json → Bool) : List Json → Bool
  | [] => true
  | v :: items => all p v && allItems p items

/-- The values of the fields and everything below them. -/
def allFields (p : Json → Bool) : List (String × Json) → Bool
  | [] => true
  | (_, v) :: fields => all p v && allFields p fields

end

/-- All values of an array: itself, and all those of its items. -/
theorem all_array {p : Json → Bool} {items : List Json} :
    all p (.array items) = true ↔ p (.array items) = true ∧ ∀ v ∈ items, all p v = true := by
  have hitems : ∀ l : List Json, allItems p l = true ↔ ∀ v ∈ l, all p v = true := by
    intro l
    induction l with
    | nil => simp [allItems]
    | cons v l ih => simp [allItems, ih]
  rw [all, Bool.and_eq_true, hitems]

/-- All values of an object: itself, and all those of its fields. -/
theorem all_object {p : Json → Bool} {fields : List (String × Json)} :
    all p (.object fields) = true ↔
      p (.object fields) = true ∧ ∀ e ∈ fields, all p e.2 = true := by
  have hfields : ∀ l : List (String × Json),
      allFields p l = true ↔ ∀ e ∈ l, all p e.2 = true := by
    intro l
    induction l with
    | nil => simp [allFields]
    | cons e l ih => simp [allFields, ih]
  rw [all, Bool.and_eq_true, hfields]

/-- The value `null`. -/
def isNull : Json → Bool
  | .null => true
  | _ => false

/-- No node is null. -/
def NullFree (v : Json) : Prop := all (fun w => !w.isNull) v = true

/-- The keys of every object are distinct. -/
def hasDistinctKeys : Json → Bool
  | .object fields => decide (keys fields).Nodup
  | _ => true

/-- No object in the value has two fields of one key. -/
def Distinct (v : Json) : Prop := all hasDistinctKeys v = true

instance (v : Json) : Decidable v.NullFree := inferInstanceAs (Decidable (_ = true))

instance (v : Json) : Decidable v.Distinct := inferInstanceAs (Decidable (_ = true))

/-- A value without nulls is not one itself. -/
theorem NullFree.ne_null {v : Json} (h : v.NullFree) : v ≠ .null := by
  rintro rfl
  exact absurd h (by decide)

/-- The items of an array without nulls have none. -/
theorem NullFree.item {items : List Json} {v : Json} (h : (array items).NullFree)
    (hv : v ∈ items) : v.NullFree := (all_array.mp h).2 v hv

theorem NullFree.field {fields : List (String × Json)} {e : String × Json}
    (h : (object fields).NullFree) (he : e ∈ fields) : e.2.NullFree := (all_object.mp h).2 e he

/-- The keys of an object with distinct keys. -/
theorem Distinct.keys {fields : List (String × Json)} (h : (object fields).Distinct) :
    (Json.keys fields).Nodup := of_decide_eq_true (all_object.mp h).1

theorem Distinct.field {fields : List (String × Json)} {e : String × Json}
    (h : (object fields).Distinct) (he : e ∈ fields) : e.2.Distinct := (all_object.mp h).2 e he

theorem Distinct.item {items : List Json} {v : Json} (h : (array items).Distinct)
    (hv : v ∈ items) : v.Distinct := (all_array.mp h).2 v hv

/-- An array has distinct keys when its items have. -/
theorem distinct_array {items : List Json} (h : ∀ v ∈ items, v.Distinct) :
    (array items).Distinct := all_array.mpr ⟨rfl, h⟩

/-- An object has distinct keys when its own are, and those inside its fields. -/
theorem distinct_object {fields : List (String × Json)} (hkeys : (keys fields).Nodup)
    (h : ∀ e ∈ fields, e.2.Distinct) : (object fields).Distinct :=
  all_object.mpr ⟨decide_eq_true hkeys, h⟩

/-- A field may be set to a value with distinct keys. -/
theorem Distinct.insert {fields : List (String × Json)} {k : String} {v : Json}
    (h : (object fields).Distinct) (hv : v.Distinct) :
    (object (Json.insert fields k v)).Distinct := by
  refine distinct_object (nodup_keys_insert h.keys _ _) fun e he => ?_
  rcases (mem_insert h.keys).mp he with rfl | ⟨he, -⟩
  · exact hv
  · exact h.field he

end Json

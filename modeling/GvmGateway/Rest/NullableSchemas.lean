import GvmGateway.Rest.OpenApi

/-!
# Nullable schemas

`normalize_nullable_schema` keeps what a schema says about values without nulls.
-/

namespace GvmGateway.Rest

open Json (keys insert remove mem_of_lookup lookup_of_mem)
open JsonSchema

variable {M N : Meaning} {v x : Json} {object fields : List (String × Json)} {key : String}
  {options types : List Json}

/-! ## Traversals -/

/-- The items are normalized one by one. -/
theorem normalizeItems_eq_map (items : List Json) :
    normalizeItems items = items.map normalizeNullableSchema := by
  induction items with
  | nil => rfl
  | cons v items ih => rw [normalizeItems, ih, List.map_cons]

theorem normalizeFields_eq_map (fields : List (String × Json)) :
    normalizeFields fields = fields.map fun e => (e.1, normalizeNullableSchema e.2) := by
  induction fields with
  | nil => rfl
  | cons e fields ih => rw [normalizeFields, ih, List.map_cons]

/-- A key has its normalized value. -/
theorem lookup_normalizeFields (fields : List (String × Json)) (k : String) :
    (normalizeFields fields).lookup k = (fields.lookup k).map normalizeNullableSchema := by
  rw [normalizeFields_eq_map]
  exact Json.lookup_map (fun _ => normalizeNullableSchema) fields k

/-- The keys stay as they are. -/
theorem keys_normalizeFields (fields : List (String × Json)) :
    keys (normalizeFields fields) = keys fields := by
  rw [normalizeFields_eq_map]
  unfold keys
  rw [List.map_map]
  rfl

/-! ## What the pass can do to an object -/

/-- What an object can be once its null types are dropped. -/
inductive NullTypesDropped (object : List (String × Json)) : List (String × Json) → Prop where
  /-- The one type left stands alone. -/
  | single {types : List Json} {type : Json}
      (listed : object.lookup "type" = some (.array types))
      (left : types.filter (fun type => !isNullType type) = [type]) :
      NullTypesDropped object (insert object "type" type)
  | several {types : List Json} (listed : object.lookup "type" = some (.array types)) :
      NullTypesDropped object
        (insert object "type" (.array (types.filter fun type => !isNullType type)))
  | unchanged (notNull : ∀ types, object.lookup "type" = some (.array types) →
      ∀ type ∈ types, isNullType type = false) : NullTypesDropped object object

theorem dropNullTypes_cases (object : List (String × Json)) :
    NullTypesDropped object (dropNullTypes object) := by
  unfold dropNullTypes
  split
  · next types htypes =>
    dsimp only
    split
    · next type heq => exact .single htypes heq
    · split
      · exact .several htypes
      · next hlength =>
        have hsame := List.filter_eq_self.mp
          (List.filter_sublist.eq_of_length (not_not.mp hlength))
        refine .unchanged fun types' htypes' type htype => ?_
        obtain rfl := Json.array.inj (Option.some.inj (htypes.symm.trans htypes'))
        simpa using hsame type htype
  · next hnot => exact .unchanged fun types htypes => absurd htypes (hnot types)

/-- What the combinator of an object can collapse to. -/
inductive CollapsedAt (object : List (String × Json)) (key : String) (options : List Json) :
    Json → Prop where
  /-- The one alternative left takes the fields beside the combinator. -/
  | merged {remaining : List (String × Json)}
      (left : options.filter (fun option => !isNullSchema option) = [.object remaining]) :
      CollapsedAt object key options (.object (union remaining (remove object key)))
  /-- The one alternative left has no fields. -/
  | replaced {remaining : Json} (noObject : ∀ fields, remaining ≠ .object fields)
      (left : options.filter (fun option => !isNullSchema option) = [remaining]) :
      CollapsedAt object key options remaining
  | several : CollapsedAt object key options
      (.object (insert object key (.array (options.filter fun option => !isNullSchema option))))

theorem collapsedAt_of_eq_some (h : collapseNullableCombinator object key = some x) :
    ∃ options, object.lookup key = some (.array options) ∧ CollapsedAt object key options x := by
  unfold collapseNullableCombinator at h
  split at h
  · next options hoptions =>
    refine ⟨options, hoptions, ?_⟩
    dsimp only at h
    split at h
    · cases h
    · split at h
      · next remaining heq =>
        obtain rfl := Option.some.inj h
        exact .merged heq
      · next remaining hobject heq =>
        obtain rfl := Option.some.inj h
        exact .replaced (fun fields => hobject fields) heq
      · obtain rfl := Option.some.inj h
        exact .several
  · cases h

/-- What the two combinators of an object come to. -/
inductive Collapsed (object : List (String × Json)) : Json → Prop where
  | anyOf {t : Json} (collapsed : collapseNullableCombinator object "anyOf" = some t) :
      Collapsed object t
  | oneOf {t : Json} (anyOf : collapseNullableCombinator object "anyOf" = none)
      (collapsed : collapseNullableCombinator object "oneOf" = some t) : Collapsed object t
  | unchanged (anyOf : collapseNullableCombinator object "anyOf" = none)
      (oneOf : collapseNullableCombinator object "oneOf" = none) :
      Collapsed object (.object object)

theorem collapseNullable_cases (object : List (String × Json)) :
    Collapsed object (collapseNullable object) := by
  unfold collapseNullable
  cases hany : collapseNullableCombinator object "anyOf" with
  | some t => exact .anyOf hany
  | none =>
    cases hone : collapseNullableCombinator object "oneOf" with
    | some t => exact .oneOf hany hone
    | none => exact .unchanged hany hone

/-! ## What the pass does not touch -/

/-- The value is an array. -/
def isArray : Json → Bool
  | .array _ => true
  | _ => false

/-- The object has none of the three keywords that the pass rewrites. -/
def isPlainNode : Json → Bool
  | .object fields => ["type", "anyOf", "oneOf"].all fun k => !(fields.lookup k).any isArray
  | _ => true

/-- No schema in the value has anything to normalize. -/
def Plain (v : Json) : Prop := Json.all isPlainNode v = true

instance (v : Json) : Decidable (Plain v) := inferInstanceAs (Decidable (_ = true))

/-- Without a list of types nothing is dropped. -/
theorem dropNullTypes_of_plain (h : (object.lookup "type").any isArray = false) :
    dropNullTypes object = object := by
  unfold dropNullTypes
  generalize object.lookup "type" = type at h
  cases type with
  | none => rfl
  | some type => cases type <;> first | rfl | exact absurd h (by simp [isArray])

/-- Without a list of options nothing collapses. -/
theorem collapseNullableCombinator_of_plain (h : (object.lookup key).any isArray = false) :
    collapseNullableCombinator object key = none := by
  unfold collapseNullableCombinator
  generalize object.lookup key = options at h
  cases options with
  | none => rfl
  | some options => cases options <;> first | rfl | exact absurd h (by simp [isArray])

/-- Of a plain object only the fields are normalized. -/
theorem normalize_object_of_plain (h : isPlainNode (.object (normalizeFields fields)) = true) :
    normalizeNullableSchema (.object fields) = .object (normalizeFields fields) := by
  simp only [isPlainNode, List.all_cons, List.all_nil, Bool.and_true, Bool.and_eq_true,
    Bool.not_eq_true'] at h
  obtain ⟨htype, hany, hone⟩ := h
  rw [normalizeNullableSchema, collapseNullable, dropNullTypes_of_plain htype,
    collapseNullableCombinator_of_plain hany, collapseNullableCombinator_of_plain hone]
  rfl

/-- A value without nullable keywords stays as it is. -/
theorem normalize_of_plain (h : Plain v) : normalizeNullableSchema v = v := by
  induction v using Json.induction with
  | null => rfl
  | bool b => rfl
  | number n => rfl
  | string s => rfl
  | array items ih =>
    have hitems := (Json.all_array.mp h).2
    have hsame : items.map normalizeNullableSchema = items.map id :=
      List.map_congr_left fun v hv => ih v hv (hitems v hv)
    rw [normalizeNullableSchema, normalizeItems_eq_map, hsame, List.map_id]
  | object fields ih =>
    obtain ⟨hroot, hfields⟩ := Json.all_object.mp h
    have hsame : normalizeFields fields = fields := by
      rw [normalizeFields_eq_map]
      have hmap : (fields.map fun e => (e.1, normalizeNullableSchema e.2)) = fields.map id :=
        List.map_congr_left fun e he => Prod.ext rfl (ih e he (hfields e he))
      rw [hmap, List.map_id]
    rw [normalize_object_of_plain (by rw [hsame]; exact hroot), hsame]

/-! ## The keys stay distinct -/

/-- Keys stay distinct when null types are dropped. -/
theorem distinct_dropNullTypes (h : (Json.object object).Distinct) :
    (Json.object (dropNullTypes object)).Distinct := by
  have hdropped := dropNullTypes_cases object
  generalize dropNullTypes object = dropped at hdropped ⊢
  cases hdropped with
  | @single types type listed left =>
    have htypes : (Json.array types).Distinct := h.field (mem_of_lookup listed)
    exact h.insert (htypes.item (List.mem_of_mem_filter (left ▸ List.mem_cons_self)))
  | several listed =>
    have htypes : (Json.array _).Distinct := h.field (mem_of_lookup listed)
    exact h.insert (Json.distinct_array fun type hin => htypes.item (List.mem_of_mem_filter hin))
  | unchanged => exact h

theorem distinct_collapse (h : (Json.object object).Distinct)
    (hcollapse : collapseNullableCombinator object key = some x) : x.Distinct := by
  obtain ⟨options, hoptions, hcollapsed⟩ := collapsedAt_of_eq_some hcollapse
  have hdistinct : (Json.array options).Distinct := h.field (mem_of_lookup hoptions)
  have hmem : ∀ option ∈ options.filter fun option => !isNullSchema option, option.Distinct :=
    fun option hin => hdistinct.item (List.mem_of_mem_filter hin)
  cases hcollapsed with
  | @merged remaining left =>
    have hremaining : (Json.object remaining).Distinct := hmem _ (left ▸ List.mem_cons_self)
    have hrest := Json.nodup_keys_remove (k := key) h.keys
    refine Json.distinct_object (nodup_keys_union hremaining.keys) fun e he => ?_
    rcases (mem_union hremaining.keys hrest).mp he with he | ⟨he, -⟩
    · exact hremaining.field he
    · exact h.field (List.mem_of_mem_filter he)
  | replaced _ left => exact hmem _ (left ▸ List.mem_cons_self)
  | several => exact h.insert (Json.distinct_array hmem)

theorem distinct_normalizeFields (h : (Json.object fields).Distinct)
    (hfields : ∀ e ∈ fields, (normalizeNullableSchema e.2).Distinct) :
    (Json.object (normalizeFields fields)).Distinct := by
  refine Json.distinct_object (keys_normalizeFields fields ▸ h.keys) fun e he => ?_
  rw [normalizeFields_eq_map] at he
  obtain ⟨f, hf, rfl⟩ := List.mem_map.mp he
  exact hfields f hf

theorem distinct_normalize (h : v.Distinct) : (normalizeNullableSchema v).Distinct := by
  induction v using Json.induction with
  | null => exact h
  | bool b => exact h
  | number n => exact h
  | string s => exact h
  | array items ih =>
    rw [normalizeNullableSchema, normalizeItems_eq_map]
    refine Json.distinct_array fun v hv => ?_
    obtain ⟨w, hw, rfl⟩ := List.mem_map.mp hv
    exact ih w hw (h.item hw)
  | object fields ih =>
    have hfields : (Json.object (normalizeFields fields)).Distinct :=
      distinct_normalizeFields h fun e he => ih e he (h.field he)
    have hdropped := distinct_dropNullTypes hfields
    have hcollapsed := collapseNullable_cases (dropNullTypes (normalizeFields fields))
    rw [normalizeNullableSchema]
    generalize collapseNullable _ = t at hcollapsed ⊢
    cases hcollapsed with
    | anyOf collapsed | oneOf _ collapsed => exact distinct_collapse hdropped collapsed
    | unchanged => exact hdropped

/-! ## Null alternatives and null types -/

/-- Only null is of the type `null`. -/
theorem not_hasType_null (hv : v ≠ .null) : hasType "null" v = false := by
  cases v <;> first | exact absurd rfl hv | rfl

/-- The null schema has the type `null`. -/
theorem isNullSchema_object :
    isNullSchema (.object fields) = true ↔ fields.lookup "type" = some (.string "null") := by
  cases htype : fields.lookup "type" with
  | none => simp [isNullSchema, htype]
  | some type => cases type <;> simp [isNullSchema, htype]

theorem not_accepts_nullSchema (hv : v ≠ .null) (h : isNullSchema x = true) :
    ¬ Accepts M x v := by
  intro haccepts
  cases x with
  | object fields =>
    have htype := mem_of_lookup (isNullSchema_object.mp h)
    have hallow : typesAllow v (.string "null") = true :=
      acceptsField_type.mp (accepts_object.mp haccepts _ htype)
    have hnot : typesAllow v (.string "null") = false := not_hasType_null hv
    rw [hnot] at hallow
    cases hallow
  | null => cases h
  | bool b => cases h
  | number n => cases h
  | string s => cases h
  | array items => cases h

/-- The keywords whose null alternatives are dropped. -/
def Combines (key : String) : Prop := key = "anyOf" ∨ key = "oneOf"

/-- Without its null schemas a combinator accepts the same values but null. -/
theorem acceptsField_dropNull {names : List String} (hkey : Combines key) (hv : v ≠ .null) :
    AcceptsField M names (key, .array (options.filter fun option => !isNullSchema option)) v ↔
      AcceptsField M names (key, .array options) v := by
  have hdrop : ∀ x ∈ options, (!isNullSchema x) = false → ¬ Accepts M x v := fun x _ hx =>
    not_accepts_nullSchema hv (by simpa using hx)
  rcases hkey with rfl | rfl
  · rw [acceptsField_anyOf, acceptsField_anyOf]
    exact anyOf_filter hdrop
  · rw [acceptsField_oneOf, acceptsField_oneOf]
    exact oneOf_filter hdrop

/-- A combinator with one option accepts what the option does. -/
theorem acceptsField_single {names : List String} (hkey : Combines key) :
    AcceptsField M names (key, .array [x]) v ↔ Accepts M x v := by
  rcases hkey with rfl | rfl
  · rw [acceptsField_anyOf]
    simp
  · rw [acceptsField_oneOf]
    exact exactlyOne_single

/-- The value is a string. -/
def isString : Json → Bool
  | .string _ => true
  | _ => false

/-- The value of `type` is a name or a list of names. -/
def isTypes : Json → Bool
  | .array types => types.all isString
  | type => isString type

/-- Without `null` a list of types allows the same values but null. -/
theorem typesAllow_dropNull (hv : v ≠ .null) (htypes : types.all isString = true) :
    typesAllow v (.array (types.filter fun type => !isNullType type)) =
      typesAllow v (.array types) := by
  show (types.filter fun type => !isNullType type).any (isTypeOf v) = types.any (isTypeOf v)
  induction types with
  | nil => rfl
  | cons type types ih =>
    rw [List.all_cons, Bool.and_eq_true] at htypes
    rw [List.filter_cons]
    cases hnull : isNullType type with
    | false => rw [if_pos Bool.not_false, List.any_cons, List.any_cons, ih htypes.2]
    | true =>
      have hnot : isTypeOf v type = false := by
        cases type with
        | string s =>
          obtain rfl : s = "null" := of_decide_eq_true hnull
          exact not_hasType_null hv
        | null => cases hnull
        | bool b => cases hnull
        | number n => cases hnull
        | array items => cases hnull
        | object fields => cases hnull
      rw [if_neg (by simp), List.any_cons, hnot, Bool.false_or, ih htypes.2]

/-- A list of one type allows what the type does. -/
theorem typesAllow_single (hx : isString x = true) :
    typesAllow v (.array [x]) = typesAllow v x := by
  cases x with
  | string s =>
    show [Json.string s].any (isTypeOf v) = isTypeOf v (.string s)
    rw [List.any_cons, List.any_nil, Bool.or_false]
  | null => cases hx
  | bool b => cases hx
  | number n => cases hx
  | array items => cases hx
  | object fields => cases hx

/-- Without `null` among the types of a schema. -/
theorem accepts_dropNullTypes (hdistinct : (keys object).Nodup) (hv : v ≠ .null)
    (htypes : ∀ x, object.lookup "type" = some x → isTypes x = true) :
    Accepts M (.object (dropNullTypes object)) v ↔ Accepts M (.object object) v := by
  have hdropped := dropNullTypes_cases object
  generalize dropNullTypes object = dropped at hdropped ⊢
  cases hdropped with
  | @single types type listed left =>
    have hstrings : types.all isString = true := htypes _ listed
    have hstring : isString type = true :=
      List.all_eq_true.mp hstrings type (List.mem_of_mem_filter (left ▸ List.mem_cons_self))
    refine accepts_insert hdistinct (by decide) listed ?_
    rw [acceptsField_type, acceptsField_type, ← typesAllow_dropNull hv hstrings, left,
      typesAllow_single hstring]
  | several listed =>
    refine accepts_insert hdistinct (by decide) listed ?_
    rw [acceptsField_type, acceptsField_type, typesAllow_dropNull hv (htypes _ listed)]
  | unchanged => exact Iff.rfl

/-! ## Alternatives that take the place of their schema -/

/-- The fields that stand beside a collapsed combinator are still said by the alternative that
takes their place. -/
def collapsesAt (object : List (String × Json)) (key : String) : Bool :=
  match object.lookup key with
  | some (.array options) =>
    match options.filter fun option => !isNullSchema option with
    | [.object remaining] => Separate remaining (remove object key)
    | [_] => (remove object key).all fun e => keywordOf e.1 = .annotates
    | _ => true
  | _ => true

/-- A schema that collapses accepts the same values but null. -/
theorem accepts_collapse (hdistinct : (Json.object object).Distinct) (hkey : Combines key)
    (hv : v ≠ .null) (hat : collapsesAt object key = true)
    (h : collapseNullableCombinator object key = some x) :
    Accepts M x v ↔ Accepts M (.object object) v := by
  have hnames : key ≠ "properties" := by
    rcases hkey with rfl | rfl <;> decide
  obtain ⟨options, hoptions, hcollapsed⟩ := collapsedAt_of_eq_some h
  have hsplit : Accepts M (.object object) v ↔ _ := accepts_remove hdistinct.keys hnames hoptions
  -- null is not among the values, so the null alternatives say nothing
  have hdrop : AcceptsField M (propertyNames object)
      (key, .array (options.filter fun option => !isNullSchema option)) v ↔
        AcceptsField M (propertyNames object) (key, .array options) v :=
    acceptsField_dropNull hkey hv
  unfold collapsesAt at hat
  rw [hoptions] at hat
  dsimp only at hat
  cases hcollapsed with
  | @merged remaining left =>
    have hseparate : Separate remaining (remove object key) := by
      rw [left] at hat
      exact of_decide_eq_true hat
    have hremaining : (Json.object remaining).Distinct :=
      (hdistinct.field (mem_of_lookup hoptions)).item
        (List.mem_of_mem_filter (left ▸ List.mem_cons_self))
    rw [accepts_union hremaining.keys (Json.nodup_keys_remove hdistinct.keys) hseparate, hsplit,
      ← hdrop, left, acceptsField_single hkey]
  | replaced noObject left =>
    -- what stands beside the combinator is lost, and is annotation only
    have hannotations : Accepts M (.object (remove object key)) v := by
      refine accepts_object.mpr fun e he => acceptsField_annotates ?_
      rw [left] at hat
      have hall : ((remove object key).all fun e => keywordOf e.1 = .annotates) = true := by
        cases x <;> first | exact hat | exact absurd rfl (noObject _)
      exact of_decide_eq_true (List.all_eq_true.mp hall e he)
    rw [hsplit, ← hdrop, left, acceptsField_single hkey, and_iff_left hannotations]
  | several => exact accepts_insert hdistinct.keys hnames hoptions hdrop

end GvmGateway.Rest

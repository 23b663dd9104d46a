import GvmGateway.Rest.NullableSchemas

/-!
# The meaning of normalized schemas

A schema and what `normalize_nullable_schema` makes of it accept the same values, nulls apart.
-/

namespace GvmGateway.Rest

open Json (keys insert remove mem_of_lookup lookup_of_mem)
open JsonSchema

variable {M N : Meaning} {v x : Json} {object fields : List (String × Json)} {k : String}
  {names : List String}

/-! ## The schemas that the pass is for -/

/-- The combinator that is collapsed, if one is, may take the place of the schema. -/
def collapses (object : List (String × Json)) : Bool :=
  if (collapseNullableCombinator object "anyOf").isSome then collapsesAt object "anyOf"
  else collapsesAt object "oneOf"

mutual

/-- The value is a schema, its keywords have values of their kinds, and every combinator that the
pass collapses may take the place of its schema. -/
def isNormalizable : Json → Bool
  | .bool _ => true
  | .object fields =>
    normalizableFields fields && collapses (dropNullTypes (normalizeFields fields))
  | _ => false

/-- Every field of the object can be normalized. -/
def normalizableFields : List (String × Json) → Bool
  | [] => true
  | e :: fields => normalizableField e && normalizableFields fields

/-- The value of the field has the form that its keyword asks for. -/
def normalizableField : String × Json → Bool
  | (k, x) =>
    match keywordOf k with
    | .ref => isString x
    | .type => isTypes x
    | .allOf | .anyOf | .oneOf => normalizableOptions x
    | .not | .items | .additionalProperties => isNormalizable x
    | .properties => normalizableProperties x
    | .annotates => true
    | .assertion => Plain x

/-- The options of a combinator are schemas that can be normalized. -/
def normalizableOptions : Json → Bool
  | .array options => normalizableItems options
  | _ => false

/-- Each option is a schema that can be normalized. -/
def normalizableItems : List Json → Bool
  | [] => true
  | x :: options => isNormalizable x && normalizableItems options

/-- The properties are an object of schemas that can be normalized. -/
def normalizableProperties : Json → Bool
  | .object properties => normalizableEntries properties
  | _ => false

/-- Each property is a schema that can be normalized. -/
def normalizableEntries : List (String × Json) → Bool
  | [] => true
  | e :: properties => normalizableEntry e && normalizableEntries properties

/-- A property can be normalized when its value can. -/
def normalizableEntry : String × Json → Bool
  | (_, x) => isNormalizable x

end

/-- An object can be normalized when its fields can, and what remains of it collapses. -/
theorem isNormalizable_object : isNormalizable (.object fields) = true ↔
    (∀ e ∈ fields, normalizableField e = true) ∧
      collapses (dropNullTypes (normalizeFields fields)) = true := by
  have hfields : ∀ l, normalizableFields l = true ↔ ∀ e ∈ l, normalizableField e = true := by
    intro l
    induction l with
    | nil => simp [normalizableFields]
    | cons e l ih => simp [normalizableFields, ih]
  rw [isNormalizable, Bool.and_eq_true, hfields]

/-- Normalizable options as a statement about each of them. -/
theorem normalizableOptions_iff : normalizableOptions x = true ↔
    ∃ options, x = .array options ∧ ∀ y ∈ options, isNormalizable y = true := by
  have hitems : ∀ l, normalizableItems l = true ↔ ∀ y ∈ l, isNormalizable y = true := by
    intro l
    induction l with
    | nil => simp [normalizableItems]
    | cons y l ih => simp [normalizableItems, ih]
  cases x <;> simp [normalizableOptions, hitems]

/-- Normalizable properties as a statement about each of them. -/
theorem normalizableProperties_iff : normalizableProperties x = true ↔
    ∃ properties, x = .object properties ∧ ∀ e ∈ properties, isNormalizable e.2 = true := by
  have hentries : ∀ l : List (String × Json),
      normalizableEntries l = true ↔ ∀ e ∈ l, isNormalizable e.2 = true := by
    intro l
    induction l with
    | nil => simp [normalizableEntries]
    | cons e l ih =>
      have hentry : normalizableEntry e = isNormalizable e.2 := by
        rw [normalizableEntry.eq_def]
      simp [normalizableEntries, hentry, ih]
  cases x <;> simp [normalizableProperties, hentries]

/-! ## Normalized schemas are schemas -/

/-- A schema is an object or one of the two constants. -/
def isSchema : Json → Bool
  | .bool _ => true
  | .object _ => true
  | _ => false

/-- A combinator collapses into a schema. -/
theorem isSchema_collapse {key : String} {t : Json}
    (hoptions : ∀ options, object.lookup key = some (.array options) →
      ∀ option ∈ options, isSchema option = true)
    (h : collapseNullableCombinator object key = some t) : isSchema t = true := by
  obtain ⟨options, hlookup, hcollapsed⟩ := collapsedAt_of_eq_some h
  cases hcollapsed with
  | merged => rfl
  | replaced _ left =>
    exact hoptions options hlookup _ (List.mem_of_mem_filter (left ▸ List.mem_cons_self))
  | several => rfl

/-- Dropping null types changes `type` only. -/
theorem lookup_dropNullTypes (hk : k ≠ "type") :
    (dropNullTypes object).lookup k = object.lookup k := by
  have hdropped := dropNullTypes_cases object
  generalize dropNullTypes object = dropped at hdropped ⊢
  cases hdropped with
  | single | several => rw [Json.lookup_insert, if_neg hk]
  | unchanged => rfl

/-- An object is normalized to a schema when the alternatives of its combinators are schemas. -/
theorem isSchema_normalize_object (h : ∀ key, Combines key → ∀ options,
      fields.lookup key = some (.array options) →
        ∀ option ∈ options, isSchema (normalizeNullableSchema option) = true)
    (harrays : ∀ key, Combines key → ∀ y, fields.lookup key = some y →
      isArray (normalizeNullableSchema y) = true → isArray y = true) :
    isSchema (normalizeNullableSchema (.object fields)) = true := by
  have hoptions : ∀ key, Combines key → ∀ options,
      (dropNullTypes (normalizeFields fields)).lookup key = some (.array options) →
        ∀ option ∈ options, isSchema option = true := by
    intro key hkey options hlookup option hoption
    have hne : key ≠ "type" := by
      rcases hkey with rfl | rfl <;> decide
    rw [lookup_dropNullTypes hne, lookup_normalizeFields, Option.map_eq_some_iff] at hlookup
    obtain ⟨y, hy, hnormal⟩ := hlookup
    have harray := harrays key hkey y hy (hnormal ▸ rfl)
    cases y with
    | array items =>
      rw [normalizeNullableSchema, normalizeItems_eq_map] at hnormal
      obtain rfl := Json.array.inj hnormal
      obtain ⟨item, hitem, rfl⟩ := List.mem_map.mp hoption
      exact h key hkey items hy item hitem
    | _ => cases harray
  have hcollapsed := collapseNullable_cases (dropNullTypes (normalizeFields fields))
  rw [normalizeNullableSchema]
  generalize collapseNullable _ = t at hcollapsed ⊢
  cases hcollapsed with
  | anyOf collapsed => exact isSchema_collapse (hoptions _ (.inl rfl)) collapsed
  | oneOf _ collapsed => exact isSchema_collapse (hoptions _ (.inr rfl)) collapsed
  | unchanged => rfl

/-- A normalized schema is a schema. -/
theorem isSchema_normalize (h : isNormalizable x = true) :
    isSchema (normalizeNullableSchema x) = true := by
  induction x using Json.induction_children with
  | step x ih =>
    cases x with
    | bool b => rfl
    | object fields =>
      obtain ⟨hfields, -⟩ := isNormalizable_object.mp h
      -- only the options can replace the whole schema, when the rest collapses to one
      have hcombinator : ∀ key, Combines key → ∀ y, fields.lookup key = some y →
          ∃ items, y = .array items ∧ ∀ item ∈ items, isNormalizable item = true := by
        intro key hkey y hy
        have hentry : normalizableOptions y = true := by
          have hfield := hfields _ (mem_of_lookup hy)
          rcases hkey with rfl | rfl <;> exact hfield
        exact normalizableOptions_iff.mp hentry
      refine isSchema_normalize_object (fun key hkey options hlookup option hoption => ?_)
        fun key hkey y hy _ => ?_
      · obtain ⟨items, heq, hitems⟩ := hcombinator key hkey _ hlookup
        obtain rfl := Json.array.inj heq
        exact (ih _ (List.mem_map_of_mem (mem_of_lookup hlookup))).2 option hoption
          (hitems option hoption)
      · obtain ⟨items, rfl, -⟩ := hcombinator key hkey y hy
        rfl
    | null => cases h
    | number n => cases h
    | string s => cases h
    | array items => cases h

/-- A map of schemas is not taken for a schema. -/
theorem normalize_schemas (h : ∀ e ∈ fields, isNormalizable e.2 = true) :
    normalizeNullableSchema (.object fields) = .object (normalizeFields fields) := by
  apply normalize_object_of_plain
  simp only [isPlainNode, List.all_eq_true, Bool.not_eq_true']
  intro k _
  rw [lookup_normalizeFields]
  cases hlookup : fields.lookup k with
  | none => rfl
  | some x =>
    have hschema := isSchema_normalize (h _ (mem_of_lookup hlookup))
    show isArray (normalizeNullableSchema x) = false
    generalize normalizeNullableSchema x = y at hschema
    cases y <;> first | rfl | cases hschema

/-- Normalizing keeps the property names. -/
theorem propertyNames_normalizeFields (h : ∀ e ∈ fields, normalizableField e = true) :
    propertyNames (dropNullTypes (normalizeFields fields)) = propertyNames fields := by
  unfold propertyNames
  rw [lookup_dropNullTypes (by decide), lookup_normalizeFields]
  cases hlookup : fields.lookup "properties" with
  | none => rfl
  | some x =>
    have hentry : normalizableProperties x = true := h _ (mem_of_lookup hlookup)
    obtain ⟨properties, rfl, hproperties⟩ := normalizableProperties_iff.mp hentry
    rw [Option.map_some, normalize_schemas hproperties]
    exact keys_normalizeFields properties

/-- The value of `type` holds no schema. -/
theorem plain_of_isTypes (h : isTypes x = true) : Plain x := by
  have hstring : ∀ y, isString y = true → Plain y := by
    intro y hy
    cases y <;> first | exact rfl | cases hy
  cases x with
  | array types =>
    exact Json.all_array.mpr ⟨rfl, fun y hy => hstring y (List.all_eq_true.mp h y hy)⟩
  | string s => exact hstring _ h
  | null => cases h
  | bool b => cases h
  | number n => cases h
  | object fields => cases h

/-! ## What a normalized schema accepts -/

/-- The two meanings agree on everything but nulls. -/
structure Meaning.Agree (N M : Meaning) : Prop where
  ref : ∀ name v, v.NullFree → (N.ref name v ↔ M.ref name v)
  assertion : N.assertion = M.assertion

/-- Normalizing the schema keeps what it accepts of values without nulls. -/
def Preserved (N M : Meaning) (x : Json) : Prop :=
  isNormalizable x = true → x.Distinct →
    ∀ v, v.NullFree → (Accepts N (normalizeNullableSchema x) v ↔ Accepts M x v)

/-- The options of a combinator accept the same, one by one and together. -/
theorem alternatives_normalize {options : List Json}
    (h : ∀ y ∈ options, Accepts N (normalizeNullableSchema y) v ↔ Accepts M y v) :
    let normal := (options.map normalizeNullableSchema).map (Accepts N)
    let given := options.map (Accepts M)
    ((∀ p ∈ normal, p v) ↔ ∀ p ∈ given, p v) ∧ ((∀ p ∈ normal, ¬ p v) ↔ ∀ p ∈ given, ¬ p v) ∧
      (ExactlyOne v normal ↔ ExactlyOne v given) := by
  induction options with
  | nil => exact ⟨Iff.rfl, Iff.rfl, Iff.rfl⟩
  | cons y options ih =>
    have hy := h y List.mem_cons_self
    have hrest := ih fun z hz => h z (List.mem_cons_of_mem _ hz)
    simp only [List.map_cons, List.forall_mem_cons] at hrest ⊢
    obtain ⟨hall, hnone, hone⟩ := hrest
    rw [hy, hall, hnone]
    exact ⟨Iff.rfl, Iff.rfl, exactlyOne_congr hy hone hnone⟩

/-- One keyword says of a value without nulls what it said before. -/
theorem acceptsField_normalize (hagree : Meaning.Agree N M) (hx : Preserved N M x)
    (hchildren : ∀ y ∈ x.children, Preserved N M y) (h : normalizableField (k, x) = true)
    (hdistinct : x.Distinct) (hv : v.NullFree) :
    AcceptsField N names (k, normalizeNullableSchema x) v ↔ AcceptsField M names (k, x) v := by
  unfold normalizableField at h
  unfold AcceptsField
  have hoptions : normalizableOptions x = true → ∃ options, x = .array options ∧
      normalizeNullableSchema x = .array (options.map normalizeNullableSchema) ∧
      ∀ y ∈ options, (Accepts N (normalizeNullableSchema y) v ↔ Accepts M y v) := by
    intro hopts
    obtain ⟨options, rfl, hall⟩ := normalizableOptions_iff.mp hopts
    refine ⟨options, rfl, ?_, fun y hy => hchildren y hy (hall y hy) (hdistinct.item hy) v hv⟩
    rw [normalizeNullableSchema, normalizeItems_eq_map]
  cases hkeyword : keywordOf k with
  | ref =>
    rw [hkeyword] at h
    cases x with
    | string name =>
      show (∃ r, Json.string name = .string r ∧ N.ref r v) ↔
        ∃ r, Json.string name = .string r ∧ M.ref r v
      simp only [Json.string.injEq, exists_eq_left']
      exact hagree.ref name v hv
    | null => cases h
    | bool b => cases h
    | number n => cases h
    | array items => cases h
    | object fields => cases h
  -- names of types are no schemas
  | type =>
    rw [hkeyword] at h
    rw [normalize_of_plain (plain_of_isTypes h)]
  | allOf =>
    rw [hkeyword] at h
    obtain ⟨options, rfl, hnormal, hiff⟩ := hoptions h
    rw [hnormal]
    show (∀ p ∈ alternatives N (.array _), p v) ↔ ∀ p ∈ alternatives M (.array _), p v
    rw [alternatives_array, alternatives_array]
    exact (alternatives_normalize hiff).1
  | anyOf =>
    rw [hkeyword] at h
    obtain ⟨options, rfl, hnormal, hiff⟩ := hoptions h
    rw [hnormal]
    show (∃ p ∈ alternatives N (.array _), p v) ↔ ∃ p ∈ alternatives M (.array _), p v
    rw [alternatives_array, alternatives_array, ← not_iff_not]
    push Not
    exact (alternatives_normalize hiff).2.1
  | oneOf =>
    rw [hkeyword] at h
    obtain ⟨options, rfl, hnormal, hiff⟩ := hoptions h
    rw [hnormal]
    show ExactlyOne v (alternatives N (.array _)) ↔ ExactlyOne v (alternatives M (.array _))
    rw [alternatives_array, alternatives_array]
    exact (alternatives_normalize hiff).2.2
  | not =>
    rw [hkeyword] at h
    exact not_congr (hx h hdistinct v hv)
  -- the items of an array without nulls have none either
  | items =>
    rw [hkeyword] at h
    refine forall_congr' fun items => forall_congr' fun heq => ?_
    subst heq
    exact forall₂_congr fun w hw => hx h hdistinct w (hv.item hw)
  -- a map of schemas is normalized entry by entry
  | properties =>
    rw [hkeyword] at h
    obtain ⟨properties, rfl, hall⟩ := normalizableProperties_iff.mp h
    rw [normalize_schemas hall, normalizeFields_eq_map]
    refine forall_congr' fun fields => forall_congr' fun heq => ?_
    subst heq
    show (∀ p ∈ namedSchemas N (.object _), _) ↔ ∀ p ∈ namedSchemas M (.object _), _
    rw [namedSchemas_object, namedSchemas_object, List.map_map]
    simp only [List.forall_mem_map, Function.comp_apply]
    refine forall₂_congr fun p hp => forall₂_congr fun e he => forall_congr' fun _ => ?_
    exact hchildren p.2 (List.mem_map_of_mem hp) (hall p hp) (hdistinct.field hp) e.2
      (hv.field he)
  | additionalProperties =>
    rw [hkeyword] at h
    refine forall_congr' fun fields => forall_congr' fun heq => ?_
    subst heq
    exact forall₂_congr fun e he => forall_congr' fun _ => hx h hdistinct e.2 (hv.field he)
  | annotates => exact Iff.rfl
  | assertion =>
    rw [hkeyword] at h
    have hplain : Plain x := of_decide_eq_true h
    rw [normalize_of_plain hplain, hagree.assertion]

/-- An object with normalized fields accepts the same. -/
theorem accepts_normalizeFields (hagree : Meaning.Agree N M)
    (ih : ∀ e ∈ fields, Preserved N M e.2 ∧ ∀ y ∈ e.2.children, Preserved N M y)
    (h : ∀ e ∈ fields, normalizableField e = true) (hdistinct : (Json.object fields).Distinct)
    (hv : v.NullFree) :
    Accepts N (.object (normalizeFields fields)) v ↔ Accepts M (.object fields) v := by
  have hnames : propertyNames (normalizeFields fields) = propertyNames fields := by
    rw [← propertyNames_normalizeFields h]
    unfold propertyNames
    rw [lookup_dropNullTypes (by decide)]
  rw [accepts_object, accepts_object, hnames, normalizeFields_eq_map]
  simp only [List.forall_mem_map]
  exact forall₂_congr fun e he => acceptsField_normalize hagree (ih e he).1 (ih e he).2 (h e he)
    (hdistinct.field he) hv

/-- A schema and its normalized form accept the same values without nulls. -/
theorem accepts_normalize (hagree : Meaning.Agree N M) (x : Json) : Preserved N M x := by
  induction x using Json.induction_children with
  | step x ih =>
    intro h hdistinct v hv
    cases x with
    | bool b => exact Iff.rfl
    | object fields =>
      obtain ⟨hfields, hcollapses⟩ := isNormalizable_object.mp h
      have hchildren : ∀ e ∈ fields, Preserved N M e.2 ∧ ∀ y ∈ e.2.children, Preserved N M y :=
        fun e he => ih e.2 (List.mem_map_of_mem he)
      have hnormal : (Json.object (normalizeFields fields)).Distinct :=
        distinct_normalizeFields hdistinct fun e he => distinct_normalize (hdistinct.field he)
      have htypes : ∀ y, (normalizeFields fields).lookup "type" = some y → isTypes y = true := by
        intro y hy
        rw [lookup_normalizeFields, Option.map_eq_some_iff] at hy
        obtain ⟨z, hz, rfl⟩ := hy
        have hz : isTypes z = true := hfields _ (mem_of_lookup hz)
        rw [normalize_of_plain (plain_of_isTypes hz)]
        exact hz
      -- the two earlier passes, of the fields and of the types, change no answer
      have hdropped : Accepts N (.object (dropNullTypes (normalizeFields fields))) v ↔
          Accepts M (.object fields) v :=
        (accepts_dropNullTypes hnormal.keys hv.ne_null htypes).trans
          (accepts_normalizeFields hagree hchildren hfields hdistinct hv)
      have hdistinct' := distinct_dropNullTypes hnormal
      have hcollapsed := collapseNullable_cases (dropNullTypes (normalizeFields fields))
      unfold collapses at hcollapses
      rw [normalizeNullableSchema]
      generalize collapseNullable _ = t at hcollapsed ⊢
      cases hcollapsed with
      | anyOf collapsed =>
        rw [collapsed, if_pos Option.isSome_some] at hcollapses
        exact (accepts_collapse hdistinct' (.inl rfl) hv.ne_null hcollapses collapsed).trans
          hdropped
      | oneOf hany collapsed =>
        rw [hany, if_neg (by simp)] at hcollapses
        exact (accepts_collapse hdistinct' (.inr rfl) hv.ne_null hcollapses collapsed).trans
          hdropped
      | unchanged => exact hdropped
    | null => cases h
    | number n => cases h
    | string s => cases h
    | array items => cases h

/-! ## Nothing nullable is left -/

/-- The items of an array, and none of another value. -/
def itemsOf : Json → List Json
  | .array items => items
  | _ => []

/-- The items under a key of an object. -/
def itemsAt (object : List (String × Json)) (k : String) : List Json :=
  ((object.lookup k).map itemsOf).getD []

/-- The type of the node is not null, and null is not one of its types. -/
def isNullabilityFree : Json → Bool
  | .object object =>
    !isNullSchema (.object object) && (itemsAt object "type").all fun type => !isNullType type
  | _ => true

/-- The types of the node are names, and one of its combinators at most is nullable: the pass
collapses only one of them. -/
def isSinglyNullable : Json → Bool
  | .object fields =>
    (itemsAt (normalizeFields fields) "type").all isString &&
      ((collapseNullableCombinator (dropNullTypes (normalizeFields fields)) "anyOf").isNone ||
        (collapseNullableCombinator (dropNullTypes (normalizeFields fields)) "oneOf").isNone)
  | _ => true

/-- Schemas of the type null are found among the alternatives of a combinator, and nowhere else
in the node. -/
def hasNullsInOptionsOnly : Json → Bool
  | .object fields => fields.all fun e => !isNullSchema e.2 &&
      if e.1 = "anyOf" ∨ e.1 = "oneOf" then (itemsOf e.2).all isSchema
      else (itemsOf e.2).all fun x => !isNullSchema x
  | .array items => items.all fun x => (itemsOf x).all fun y => !isNullSchema y
  | _ => true

/-- Nothing in the value is nullable. -/
def Clean (v : Json) : Prop := Json.all isNullabilityFree v = true

/-- Nothing in the entry is nullable, or else it is a combinator, and what is nullable are some
of its alternatives. -/
def CleanBut (e : String × Json) : Prop :=
  Clean e.2 ∨ Combines e.1 ∧ ∃ options, e.2 = .array options ∧
    ∀ x ∈ options, isNullSchema x = true ∨ Clean x

/-- An object is neither the null schema nor lists a null type. -/
theorem isNullabilityFree_object : isNullabilityFree (.object object) = true ↔
    isNullSchema (.object object) = false ∧
      ∀ type ∈ itemsAt object "type", isNullType type = false := by
  simp [isNullabilityFree]

/-- The items under a key with an array. -/
theorem itemsAt_eq {items : List Json} (h : object.lookup k = some (.array items)) :
    itemsAt object k = items := by
  unfold itemsAt
  rw [h]
  rfl

/-- They depend on the value of the key only. -/
theorem itemsAt_of_lookup_eq {other : List (String × Json)} (h : object.lookup k = other.lookup k) :
    itemsAt object k = itemsAt other k := by
  unfold itemsAt
  rw [h]

/-- A schema is no list. -/
theorem itemsOf_of_isSchema (h : isSchema x = true) : itemsOf x = [] := by
  cases x with
  | array items => cases h
  | _ => rfl

/-- An array of clean values is clean. -/
theorem clean_array {items : List Json} (h : ∀ x ∈ items, Clean x) : Clean (.array items) :=
  Json.all_array.mpr ⟨rfl, h⟩

/-- A string is clean. -/
theorem clean_of_isString (h : isString x = true) : Clean x := by
  cases x with
  | string s => rfl
  | _ => cases h

/-- A combinator that is not collapsed has no null alternative. -/
theorem notNull_of_collapse_eq_none {options : List Json}
    (hoptions : object.lookup k = some (.array options))
    (h : collapseNullableCombinator object k = none) :
    ∀ x ∈ options, isNullSchema x = false := by
  intro x hx
  unfold collapseNullableCombinator at h
  rw [hoptions] at h
  dsimp only at h
  split at h
  · next hlength =>
    have hkeep := List.filter_eq_self.mp (List.filter_sublist.eq_of_length hlength) x hx
    simpa using hkeep
  · split at h <;> cases h

/-- Where nothing is collapsed, nothing in the entry is nullable. -/
theorem CleanBut.clean {e : String × Json} (h : CleanBut e) (hdistinct : (keys object).Nodup)
    (he : e ∈ object) (hnone : Combines e.1 → collapseNullableCombinator object e.1 = none) :
    Clean e.2 := by
  rcases h with hclean | ⟨hkey, options, heq, hoptions⟩
  · exact hclean
  · have hlookup : object.lookup e.1 = some (.array options) :=
      heq ▸ lookup_of_mem hdistinct he
    rw [heq]
    refine clean_array fun x hx => ?_
    rcases hoptions x hx with hnull | hclean
    · rw [notNull_of_collapse_eq_none hlookup (hnone hkey) x hx] at hnull
      cases hnull
    · exact hclean

/-! ### Types -/

/-- What the object has when its null types are dropped. -/
theorem forall_dropNullTypes {P : String × Json → Prop} (hdistinct : (keys object).Nodup)
    (htypes : (itemsAt object "type").all isString = true) (h : ∀ e ∈ object, P e)
    (hname : ∀ x, isString x = true → P ("type", x))
    (hnames : ∀ types, (∀ x ∈ types, isString x = true) → P ("type", .array types)) :
    ∀ e ∈ dropNullTypes object, P e := by
  have hinserted : ∀ x, P ("type", x) → ∀ e ∈ insert object "type" x, P e := by
    intro x hx e he
    rcases (Json.mem_insert hdistinct).mp he with rfl | ⟨he, -⟩
    · exact hx
    · exact h e he
  have hkept : ∀ {types : List Json}, object.lookup "type" = some (.array types) →
      ∀ x ∈ types.filter fun type => !isNullType type, isString x = true := by
    intro types hlookup x hx
    rw [itemsAt_eq hlookup, List.all_eq_true] at htypes
    exact htypes x (List.mem_of_mem_filter hx)
  have hdropped := dropNullTypes_cases object
  generalize dropNullTypes object = dropped at hdropped ⊢
  cases hdropped with
  | single listed left =>
    exact hinserted _ (hname _ (hkept listed _ (left ▸ List.mem_cons_self)))
  | several listed => exact hinserted _ (hnames _ (hkept listed))
  | unchanged => exact h

/-- No null type is left in a list of types. -/
theorem notNull_dropNullTypes (htypes : (itemsAt object "type").all isString = true) :
    ∀ type ∈ itemsAt (dropNullTypes object) "type", isNullType type = false := by
  have hdropped := dropNullTypes_cases object
  generalize dropNullTypes object = dropped at hdropped ⊢
  intro x hx
  cases hdropped with
  | @single types type listed left =>
    -- the type left is a name, and has no items
    rw [itemsAt_eq listed, List.all_eq_true] at htypes
    have hstring := htypes type (List.mem_of_mem_filter (left ▸ List.mem_cons_self))
    unfold itemsAt at hx
    rw [Json.lookup_insert, if_pos rfl] at hx
    cases type with
    | string s => cases hx
    | _ => cases hstring
  | several listed =>
    rw [itemsAt_eq (by rw [Json.lookup_insert, if_pos rfl])] at hx
    simpa using (List.mem_filter.mp hx).2
  | unchanged notNull =>
    unfold itemsAt at hx
    cases htype : object.lookup "type" with
    | none =>
      rw [htype] at hx
      cases hx
    | some value =>
      rw [htype] at hx
      cases value with
      | array types => exact notNull types htype x hx
      | _ => cases hx

/-! ### The pass makes no null schema -/

/-- Dropping null types makes no null schema of another. -/
theorem isNullSchema_dropNullTypes (h : isNullSchema (.object (dropNullTypes object)) = true) :
    object.lookup "type" = some (.string "null") := by
  have htype := isNullSchema_object.mp h
  have hdropped := dropNullTypes_cases object
  generalize dropNullTypes object = dropped at hdropped htype
  cases hdropped with
  | single _ left =>
    -- the type left is not null
    rw [Json.lookup_insert, if_pos rfl] at htype
    obtain rfl := Option.some.inj htype
    have hkept : Json.string "null" ∈ _ := left ▸ List.mem_cons_self
    exact absurd (List.mem_filter.mp hkept).2 (by decide)
  | several =>
    rw [Json.lookup_insert, if_pos rfl] at htype
    cases htype
  | unchanged => exact htype

/-- A collapsed combinator is the null schema only where the object was it. -/
theorem isNullSchema_collapse {t : Json} (hkey : Combines k)
    (h : collapseNullableCombinator object k = some t) (hnull : isNullSchema t = true) :
    isNullSchema (.object object) = true := by
  have hne : "type" ≠ k := by
    rcases hkey with rfl | rfl <;> decide
  obtain ⟨options, hoptions, hcollapsed⟩ := collapsedAt_of_eq_some h
  have hkept : ∀ x ∈ options.filter fun option => !isNullSchema option,
      isNullSchema x = false := by
    intro x hx
    simpa using (List.mem_filter.mp hx).2
  apply isNullSchema_object.mpr
  cases hcollapsed with
  | @merged remaining left =>
    have hremaining := hkept _ (left ▸ List.mem_cons_self)
    have htype := isNullSchema_object.mp hnull
    rw [lookup_union, Json.lookup_remove, if_neg hne] at htype
    -- the alternative left is not null, so the type is the object's
    cases hown : remaining.lookup "type" with
    | none =>
      rw [hown] at htype
      exact htype
    | some type =>
      rw [hown] at htype
      rw [isNullSchema_object.mpr (hown.trans htype)] at hremaining
      cases hremaining
  | replaced _ left =>
    rw [hkept _ (left ▸ List.mem_cons_self)] at hnull
    cases hnull
  | several =>
    have htype := isNullSchema_object.mp hnull
    rwa [Json.lookup_insert, if_neg hne] at htype

/-- What stands for a schema is one, once it is normalized. -/
theorem isSchema_normalize_of_nulls (hnulls : Json.all hasNullsInOptionsOnly x = true)
    (hschema : isSchema x = true) : isSchema (normalizeNullableSchema x) = true := by
  induction x using Json.induction_children with
  | step x ih =>
    cases x with
    | bool b => rfl
    | object fields =>
      obtain ⟨hroot, hfields⟩ := Json.all_object.mp hnulls
      refine isSchema_normalize_object (fun key hkey options hlookup option hoption => ?_)
        fun key hkey y hy harray => ?_
      · have hmem := mem_of_lookup hlookup
        have hentry := List.all_eq_true.mp hroot _ hmem
        have hcombines : key = "anyOf" ∨ key = "oneOf" := hkey
        rw [Bool.and_eq_true, if_pos hcombines] at hentry
        exact (ih _ (List.mem_map_of_mem hmem)).2 option hoption
          ((Json.all_array.mp (hfields _ hmem)).2 option hoption)
          (List.all_eq_true.mp hentry.2 option hoption)
      · cases y with
        | array items => rfl
        | object entries =>
          -- an object is normalized to a schema, which is no array
          have hsame := (ih _ (List.mem_map_of_mem (mem_of_lookup hy))).1
            (hfields _ (mem_of_lookup hy)) rfl
          cases hnormal : normalizeNullableSchema (.object entries) with
          | array items =>
            rw [hnormal] at hsame
            cases hsame
          | _ =>
            rw [hnormal] at harray
            cases harray
        | _ => cases harray
    | _ => cases hschema

/-- Normalizing makes no null schema of another. -/
theorem isNullSchema_normalize (hnulls : Json.all hasNullsInOptionsOnly v = true)
    (h : isNullSchema (normalizeNullableSchema v) = true) : isNullSchema v = true := by
  cases v with
  | object fields =>
    obtain ⟨-, hfields⟩ := Json.all_object.mp hnulls
    have hnull : isNullSchema (.object (dropNullTypes (normalizeFields fields))) = true := by
      have hcollapsed := collapseNullable_cases (dropNullTypes (normalizeFields fields))
      rw [normalizeNullableSchema] at h
      generalize collapseNullable _ = t at hcollapsed h
      cases hcollapsed with
      | anyOf collapsed => exact isNullSchema_collapse (.inl rfl) collapsed h
      | oneOf _ collapsed => exact isNullSchema_collapse (.inr rfl) collapsed h
      | unchanged => exact h
    have htype := isNullSchema_dropNullTypes hnull
    rw [lookup_normalizeFields, Option.map_eq_some_iff] at htype
    obtain ⟨y, hy, hnormal⟩ := htype
    apply isNullSchema_object.mpr
    rw [hy]
    cases y with
    | string s => exact congrArg some hnormal
    | object entries =>
      have hschema := isSchema_normalize_of_nulls (hfields _ (mem_of_lookup hy)) rfl
      rw [hnormal] at hschema
      cases hschema
    | array items =>
      rw [normalizeNullableSchema] at hnormal
      cases hnormal
    | _ => cases hnormal
  | _ => exact h

/-! ### What a collapse leaves -/

/-- Nothing nullable is left by a collapse, when the other combinator is not nullable. -/
theorem clean_collapse {key other : String} {t : Json}
    (hpair : (key = "anyOf" ∧ other = "oneOf") ∨ (key = "oneOf" ∧ other = "anyOf"))
    (hdistinct : (Json.object object).Distinct)
    (htype : ∀ type ∈ itemsAt object "type", isNullType type = false)
    (hfields : ∀ e ∈ object, CleanBut e)
    (hother : collapseNullableCombinator object other = none)
    (h : collapseNullableCombinator object key = some t) (hroot : isNullSchema t = false) :
    Clean t := by
  have hne : "type" ≠ key := by
    rcases hpair with ⟨rfl, -⟩ | ⟨rfl, -⟩ <;> decide
  -- the other entries of the object
  have hrest : ∀ e ∈ object, e.1 ≠ key → Clean e.2 := by
    intro e he hkey
    refine (hfields e he).clean hdistinct.keys he fun hcombines => ?_
    have heq : e.1 = other := by
      rcases hpair with ⟨rfl, rfl⟩ | ⟨rfl, rfl⟩
      · exact hcombines.resolve_left hkey
      · exact hcombines.resolve_right hkey
    rw [heq]
    exact hother
  obtain ⟨options, hoptions, hcollapsed⟩ := collapsedAt_of_eq_some h
  have hkept : ∀ x ∈ options.filter fun option => !isNullSchema option, Clean x := by
    intro x hx
    obtain ⟨hmem, hnot⟩ := List.mem_filter.mp hx
    rcases hfields _ (mem_of_lookup hoptions) with hclean | ⟨-, options', heq, hall⟩
    · exact (Json.all_array.mp hclean).2 x hmem
    · obtain rfl := Json.array.inj heq
      rcases hall x hmem with hnull | hclean
      · rw [hnull] at hnot
        cases hnot
      · exact hclean
  cases hcollapsed with
  | @merged remaining left =>
    have hclean := Json.all_object.mp (hkept _ (left ▸ List.mem_cons_self))
    have hremaining : (Json.object remaining).Distinct :=
      (hdistinct.field (mem_of_lookup hoptions)).item
        (List.mem_of_mem_filter (left ▸ List.mem_cons_self))
    refine Json.all_object.mpr ⟨isNullabilityFree_object.mpr ⟨hroot, ?_⟩, fun e he => ?_⟩
    · -- the alternative's own types, or the object's when it has none
      cases hown : remaining.lookup "type" with
      | some type =>
        have hsame : itemsAt (union remaining (remove object key)) "type" =
            itemsAt remaining "type" :=
          itemsAt_of_lookup_eq (by rw [lookup_union, hown, Option.some_or])
        rw [hsame]
        exact (isNullabilityFree_object.mp hclean.1).2
      | none =>
        have hsame : itemsAt (union remaining (remove object key)) "type" =
            itemsAt object "type" :=
          itemsAt_of_lookup_eq (by
            rw [lookup_union, hown, Option.none_or, Json.lookup_remove, if_neg hne])
        rw [hsame]
        exact htype
    · rcases (mem_union hremaining.keys (Json.nodup_keys_remove hdistinct.keys)).mp he with
        he | ⟨he, -⟩
      · exact hclean.2 e he
      · obtain ⟨hmem, hkey⟩ := List.mem_filter.mp he
        exact hrest e hmem (of_decide_eq_true hkey)
  | replaced _ left => exact hkept _ (left ▸ List.mem_cons_self)
  | several =>
    refine Json.all_object.mpr ⟨isNullabilityFree_object.mpr ⟨hroot, ?_⟩, fun e he => ?_⟩
    · have hsame : ∀ x, itemsAt (insert object key x) "type" = itemsAt object "type" :=
        fun x => itemsAt_of_lookup_eq (by rw [Json.lookup_insert, if_neg hne])
      rw [hsame]
      exact htype
    · rcases (Json.mem_insert hdistinct.keys).mp he with rfl | ⟨he, hkey⟩
      · exact clean_array hkept
      · exact hrest e he hkey

/-- The entry of a node, once its value is normalized. -/
theorem cleanBut_normalize {e : String × Json}
    (hentry : (!isNullSchema e.2 && if e.1 = "anyOf" ∨ e.1 = "oneOf" then
      (itemsOf e.2).all isSchema else (itemsOf e.2).all fun x => !isNullSchema x) = true)
    (hown : (∀ y ∈ itemsOf e.2, isNullSchema y = false) → Clean (normalizeNullableSchema e.2))
    (hoptions : ∀ options, e.2 = .array options → ∀ y ∈ options,
      (∀ z ∈ itemsOf y, isNullSchema z = false) →
        isNullSchema (normalizeNullableSchema y) = false → Clean (normalizeNullableSchema y)) :
    CleanBut (e.1, normalizeNullableSchema e.2) := by
  obtain ⟨key, x⟩ := e
  rw [Bool.and_eq_true] at hentry
  obtain ⟨-, hlists⟩ := hentry
  by_cases hkey : key = "anyOf" ∨ key = "oneOf"
  · rw [if_pos hkey] at hlists
    cases x with
    | array options =>
      -- the null alternatives are still there
      refine .inr ⟨hkey, options.map normalizeNullableSchema, ?_, fun x hx => ?_⟩
      · show normalizeNullableSchema (.array options) = _
        rw [normalizeNullableSchema, normalizeItems_eq_map]
      · obtain ⟨y, hy, rfl⟩ := List.mem_map.mp hx
        cases hnull : isNullSchema (normalizeNullableSchema y) with
        | true => exact .inl rfl
        | false =>
          refine .inr (hoptions options rfl y hy (fun z hz => ?_) hnull)
          have hnone : itemsOf y = [] := itemsOf_of_isSchema (List.all_eq_true.mp hlists y hy)
          rw [hnone] at hz
          cases hz
    | _ => exact .inl (hown fun _ h => absurd h List.not_mem_nil)
  · rw [if_neg hkey] at hlists
    exact .inl (hown fun y hy => by simpa using List.all_eq_true.mp hlists y hy)

/-- Nothing nullable is left once a schema is normalized. -/
theorem nullabilityFree_normalize (hdistinct : v.Distinct)
    (hsingle : Json.all isSinglyNullable v = true)
    (hnulls : Json.all hasNullsInOptionsOnly v = true)
    (hitems : ∀ x ∈ itemsOf v, isNullSchema x = false)
    (hnotNull : isNullSchema (normalizeNullableSchema v) = false) :
    Clean (normalizeNullableSchema v) := by
  -- what is no null schema before the pass is none after it
  have hstays : ∀ {x}, Json.all hasNullsInOptionsOnly x = true → isNullSchema x = false →
      isNullSchema (normalizeNullableSchema x) = false := by
    intro x hx hnot
    rw [← Bool.not_eq_true] at hnot ⊢
    exact fun hnull => hnot (isNullSchema_normalize hx hnull)
  induction v using Json.induction_children with
  | step v ih =>
    cases v with
    | array items =>
      obtain ⟨hroot, hall⟩ := Json.all_array.mp hnulls
      rw [normalizeNullableSchema, normalizeItems_eq_map]
      refine clean_array fun x hx => ?_
      obtain ⟨y, hy, rfl⟩ := List.mem_map.mp hx
      have hlists := List.all_eq_true.mp (List.all_eq_true.mp hroot y hy)
      exact (ih y hy).1 (hdistinct.item hy) ((Json.all_array.mp hsingle).2 y hy) (hall y hy)
        (fun z hz => by simpa using hlists z hz) (hstays (hall y hy) (hitems y hy))
    | object fields =>
      obtain ⟨hone, hsingles⟩ := Json.all_object.mp hsingle
      obtain ⟨hroot, hall⟩ := Json.all_object.mp hnulls
      rw [isSinglyNullable, Bool.and_eq_true, Bool.or_eq_true] at hone
      obtain ⟨htypes, hcombinators⟩ := hone
      have hentries : ∀ e ∈ normalizeFields fields, CleanBut e := by
        intro e he
        rw [normalizeFields_eq_map] at he
        obtain ⟨f, hf, rfl⟩ := List.mem_map.mp he
        have hchild := ih f.2 (List.mem_map_of_mem hf)
        have hnot : isNullSchema f.2 = false := by
          have hentry := (Bool.and_eq_true _ _ ▸ List.all_eq_true.mp hroot f hf).1
          simpa using hentry
        refine cleanBut_normalize (List.all_eq_true.mp hroot f hf) (fun hlists => ?_)
          fun options hoptions y hy hlists hnull => ?_
        · exact hchild.1 (hdistinct.field hf) (hsingles f hf) (hall f hf) hlists
            (hstays (hall f hf) hnot)
        · have hmem : y ∈ f.2.children := by rwa [hoptions]
          refine hchild.2 y hmem ?_ ?_ ?_ hlists hnull
          · exact (hoptions ▸ hdistinct.field hf).item hy
          · exact (Json.all_array.mp (hoptions ▸ hsingles f hf)).2 y hy
          · exact (Json.all_array.mp (hoptions ▸ hall f hf)).2 y hy
      have hnormal : (Json.object (normalizeFields fields)).Distinct :=
        distinct_normalizeFields hdistinct fun e he => distinct_normalize (hdistinct.field he)
      have hdropped := distinct_dropNullTypes hnormal
      have hnames := notNull_dropNullTypes htypes
      have hkept : ∀ e ∈ dropNullTypes (normalizeFields fields), CleanBut e :=
        forall_dropNullTypes hnormal.keys htypes hentries (fun x hx => .inl (clean_of_isString hx))
          fun types h => .inl (clean_array fun x hx => clean_of_isString (h x hx))
      have hcollapsed := collapseNullable_cases (dropNullTypes (normalizeFields fields))
      rw [normalizeNullableSchema] at hnotNull ⊢
      generalize collapseNullable _ = t at hcollapsed hnotNull ⊢
      cases hcollapsed with
      | anyOf collapsed =>
        -- one of the two combinators at most is nullable
        have hone : collapseNullableCombinator (dropNullTypes (normalizeFields fields)) "oneOf" =
            none := by
          rcases hcombinators with hnone | hnone
          · rw [collapsed] at hnone
            cases hnone
          · exact Option.isNone_iff_eq_none.mp hnone
        exact clean_collapse (.inl ⟨rfl, rfl⟩) hdropped hnames hkept hone collapsed hnotNull
      | oneOf hany collapsed =>
        exact clean_collapse (.inr ⟨rfl, rfl⟩) hdropped hnames hkept hany collapsed hnotNull
      | unchanged hany hone =>
        refine Json.all_object.mpr ⟨isNullabilityFree_object.mpr ⟨hnotNull, hnames⟩,
          fun e he => ?_⟩
        refine (hkept e he).clean hdropped.keys he fun hcombines => ?_
        rcases hcombines with heq | heq <;> rw [heq]
        · exact hany
        · exact hone
    | _ => rfl

end GvmGateway.Rest

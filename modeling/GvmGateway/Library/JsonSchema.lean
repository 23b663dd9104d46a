import GvmGateway.Library.Json

/-!
# JSON Schema

Which values a schema accepts, for the keywords that apply schemas to the value or to its parts
(`allOf`, `anyOf`, `oneOf`, `not`, `items`, `properties`, `additionalProperties`), for `type` and
for `$ref`. What a reference accepts, and what the other assertions (`format`, `enum`, `minimum`
and so on) say, is a parameter; annotations assert nothing. `patternProperties` is left out.

The rules at the end say when a schema may be rewritten: an entry replaced by one that accepts
the same, alternatives that accept nothing dropped, and the entries of two schemas put into one.
-/

namespace JsonSchema

open Json

/-- The keywords that have a meaning here; every other key annotates. -/
inductive Keyword where
  | ref
  | type
  | allOf
  | anyOf
  | oneOf
  | not
  | items
  | properties
  | additionalProperties
  | annotates
  | assertion
deriving DecidableEq, Repr

/-- Keys that say nothing about the values. -/
def annotations : List String :=
  ["title", "description", "default", "examples", "example", "deprecated", "readOnly",
    "writeOnly", "$comment"]

/-- The keyword of a key. -/
def keywordOf (k : String) : Keyword :=
  if k = "$ref" then .ref
  else if k = "type" then .type
  else if k = "allOf" then .allOf
  else if k = "anyOf" then .anyOf
  else if k = "oneOf" then .oneOf
  else if k = "not" then .not
  else if k = "items" then .items
  else if k = "properties" then .properties
  else if k = "additionalProperties" then .additionalProperties
  else if k ∈ annotations then .annotates
  else .assertion

/-- What a schema leaves open. -/
structure Meaning where
  ref : String → Json → Prop
  assertion : String → Json → Json → Prop

/-- A number without a fractional part is an integer. -/
def hasType (type : String) : Json → Bool
  | .null => type = "null"
  | .bool _ => type = "boolean"
  | .number n => type = "number" || (type = "integer" && n.den = 1)
  | .string _ => type = "string"
  | .array _ => type = "array"
  | .object _ => type = "object"

/-- The value is of the type named. -/
def isTypeOf (v : Json) : Json → Bool
  | .string type => hasType type v
  | _ => false

/-- The value of `type` is a type or a list of them. -/
def typesAllow (v : Json) : Json → Bool
  | .array types => types.any (isTypeOf v)
  | type => isTypeOf v type

/-- The properties that the schema's own `properties` names. -/
def propertyNames (fields : List (String × Json)) : List String :=
  match fields.lookup "properties" with
  | some (.object properties) => keys properties
  | _ => []

/-- One of the predicates holds, and no other. -/
def ExactlyOne (v : Json) : List (Json → Prop) → Prop
  | [] => False
  | p :: rest => p v ∧ (∀ q ∈ rest, ¬ q v) ∨ ¬ p v ∧ ExactlyOne v rest

mutual

/-- The schema accepts the value. -/
def Accepts (M : Meaning) : Json → Json → Prop
  | .bool b, _ => b = true
  | .object fields, v => AcceptsFields M (propertyNames fields) fields v
  | _, _ => False

/-- So do all its fields. -/
def AcceptsFields (M : Meaning) (names : List String) : List (String × Json) → Json → Prop
  | [], _ => True
  | e :: fields, v => AcceptsField M names e v ∧ AcceptsFields M names fields v

/-- One keyword of a schema whose `properties` are `names`. -/
def AcceptsField (M : Meaning) (names : List String) : String × Json → Json → Prop
  | (k, x), v =>
    match keywordOf k with
    | .ref => ∃ name, x = .string name ∧ M.ref name v
    | .type => typesAllow v x = true
    | .allOf => ∀ p ∈ alternatives M x, p v
    | .anyOf => ∃ p ∈ alternatives M x, p v
    | .oneOf => ExactlyOne v (alternatives M x)
    | .not => ¬ Accepts M x v
    | .items => ∀ items, v = .array items → ∀ w ∈ items, Accepts M x w
    | .properties => ∀ fields, v = .object fields →
        ∀ p ∈ namedSchemas M x, ∀ e ∈ fields, e.1 = p.1 → p.2 e.2
    | .additionalProperties => ∀ fields, v = .object fields →
        ∀ e ∈ fields, e.1 ∉ names → Accepts M x e.2
    | .annotates => True
    | .assertion => M.assertion k x v

/-- The schemas of a list. -/
def alternatives (M : Meaning) : Json → List (Json → Prop)
  | .array options => alternativesOf M options
  | _ => []

/-- The options of a combinator, as predicates. -/
def alternativesOf (M : Meaning) : List Json → List (Json → Prop)
  | [] => []
  | x :: options => Accepts M x :: alternativesOf M options

/-- The schemas of a map. -/
def namedSchemas (M : Meaning) : Json → List (String × (Json → Prop))
  | .object schemas => namedSchemasOf M schemas
  | _ => []

/-- The properties of a schema, as predicates. -/
def namedSchemasOf (M : Meaning) : List (String × Json) → List (String × (Json → Prop))
  | [] => []
  | e :: schemas => namedSchema M e :: namedSchemasOf M schemas

/-- One property, by its name. -/
def namedSchema (M : Meaning) : String × Json → String × (Json → Prop)
  | (name, x) => (name, Accepts M x)

end

variable {M : Meaning} {v : Json} {fields base extra : List (String × Json)}
  {names names' : List String} {k : String} {x y : Json} {options : List Json}

/-! ## The keywords one by one -/

/-- A schema accepts what all its fields accept. -/
theorem accepts_object : Accepts M (.object fields) v ↔
    ∀ e ∈ fields, AcceptsField M (propertyNames fields) e v := by
  have hfields : ∀ l, AcceptsFields M (propertyNames fields) l v ↔
      ∀ e ∈ l, AcceptsField M (propertyNames fields) e v := by
    intro l
    induction l with
    | nil => simp [AcceptsFields]
    | cons e l ih => simp [AcceptsFields, ih]
  exact hfields fields

/-- The options of an array, one by one. -/
theorem alternatives_array : alternatives M (.array options) = options.map (Accepts M) := by
  show alternativesOf M options = options.map (Accepts M)
  induction options with
  | nil => rfl
  | cons x options ih => rw [alternativesOf, ih, List.map_cons]

/-- The properties of an object, one by one. -/
theorem namedSchemas_object :
    namedSchemas M (.object fields) = fields.map fun e => (e.1, Accepts M e.2) := by
  show namedSchemasOf M fields = fields.map fun e => (e.1, Accepts M e.2)
  induction fields with
  | nil => rfl
  | cons e fields ih => rw [namedSchemasOf, ih, List.map_cons, namedSchema]

/-- `type` accepts the values of its types. -/
theorem acceptsField_type : AcceptsField M names ("type", x) v ↔ typesAllow v x = true := Iff.rfl

/-- `anyOf` accepts what some option accepts. -/
theorem acceptsField_anyOf : AcceptsField M names ("anyOf", .array options) v ↔
    ∃ x ∈ options, Accepts M x v := by
  show (∃ p ∈ alternatives M (.array options), p v) ↔ _
  rw [alternatives_array]
  simp

theorem acceptsField_oneOf : AcceptsField M names ("oneOf", .array options) v ↔
    ExactlyOne v (options.map (Accepts M)) := by
  show ExactlyOne v (alternatives M (.array options)) ↔ _
  rw [alternatives_array]

/-- Only `additionalProperties` reads another keyword. -/
theorem acceptsField_names {e : String × Json}
    (h : e.1 = "additionalProperties" → names = names') :
    AcceptsField M names e v ↔ AcceptsField M names' e v := by
  obtain ⟨k, x⟩ := e
  by_cases hk : k = "additionalProperties"
  · rw [h hk]
  · have hkeyword : keywordOf k ≠ .additionalProperties := by
      unfold keywordOf
      grind
    unfold AcceptsField
    generalize keywordOf k = keyword at hkeyword
    cases keyword <;> first | exact Iff.rfl | exact absurd rfl hkeyword

/-- An annotation accepts everything. -/
theorem acceptsField_annotates {e : String × Json} (h : keywordOf e.1 = .annotates) :
    AcceptsField M names e v := by
  obtain ⟨k, x⟩ := e
  unfold AcceptsField
  rw [show keywordOf k = .annotates from h]
  trivial

/-! ## Alternatives -/

/-- Alternatives that do not accept the value may be dropped from `anyOf`. -/
theorem anyOf_filter {keep : Json → Bool}
    (h : ∀ x ∈ options, keep x = false → ¬ Accepts M x v) :
    (∃ x ∈ options.filter keep, Accepts M x v) ↔ ∃ x ∈ options, Accepts M x v := by
  constructor
  · rintro ⟨x, hx, haccepts⟩
    exact ⟨x, List.mem_of_mem_filter hx, haccepts⟩
  · rintro ⟨x, hx, haccepts⟩
    cases hkeep : keep x with
    | false => exact absurd haccepts (h x hx hkeep)
    | true => exact ⟨x, List.mem_filter.mpr ⟨hx, hkeep⟩, haccepts⟩

/-- Alternatives that do not accept the value may be dropped from `oneOf`. -/
theorem oneOf_filter {keep : Json → Bool}
    (h : ∀ x ∈ options, keep x = false → ¬ Accepts M x v) :
    ExactlyOne v ((options.filter keep).map (Accepts M)) ↔
      ExactlyOne v (options.map (Accepts M)) := by
  induction options with
  | nil => rfl
  | cons x options ih =>
    have hrest : ∀ y ∈ options, keep y = false → ¬ Accepts M y v := fun y hy =>
      h y (List.mem_cons_of_mem _ hy)
    have hany := anyOf_filter hrest
    rw [List.filter_cons]
    cases hkeep : keep x with
    | false =>
      have hnot : ¬ Accepts M x v := h x List.mem_cons_self hkeep
      rw [if_neg Bool.false_ne_true, ih hrest, List.map_cons, ExactlyOne]
      tauto
    | true =>
      rw [if_pos rfl, List.map_cons, List.map_cons, ExactlyOne, ExactlyOne, ih hrest]
      have hnone : (∀ q ∈ (options.filter keep).map (Accepts M), ¬ q v) ↔
          ∀ q ∈ options.map (Accepts M), ¬ q v := by
        simp only [List.forall_mem_map]
        rw [← not_iff_not]
        push Not
        exact hany
      rw [hnone]

/-- Of one predicate exactly one holds when it does. -/
theorem exactlyOne_single {p : Json → Prop} : ExactlyOne v [p] ↔ p v := by
  simp [ExactlyOne]

/-- Options may be replaced by equivalent ones. -/
theorem exactlyOne_congr {p q : Json → Prop} {ps qs : List (Json → Prop)}
    (h : p v ↔ q v) (hs : ExactlyOne v ps ↔ ExactlyOne v qs)
    (hall : (∀ r ∈ ps, ¬ r v) ↔ ∀ r ∈ qs, ¬ r v) :
    ExactlyOne v (p :: ps) ↔ ExactlyOne v (q :: qs) := by
  rw [ExactlyOne, ExactlyOne, h, hs, hall]

/-! ## Rewriting the entries of a schema -/

/-- An entry may be replaced by one that accepts the same. -/
theorem accepts_insert (hdistinct : (keys fields).Nodup) (hnames : k ≠ "properties")
    (hx : fields.lookup k = some x)
    (h : AcceptsField M (propertyNames fields) (k, y) v ↔
      AcceptsField M (propertyNames fields) (k, x) v) :
    Accepts M (.object (insert fields k y)) v ↔ Accepts M (.object fields) v := by
  have hsame : propertyNames (insert fields k y) = propertyNames fields := by
    unfold propertyNames
    rw [lookup_insert, if_neg hnames.symm]
  rw [accepts_object, accepts_object, hsame]
  constructor
  · intro hall e he
    by_cases hk : e.1 = k
    · have hvalue : e.2 = x := by
        have hlookup : fields.lookup e.1 = some e.2 := lookup_of_mem hdistinct he
        rw [hk, hx] at hlookup
        exact (Option.some.inj hlookup).symm
      have hold : AcceptsField M (propertyNames fields) (k, x) v :=
        h.mp (hall _ ((mem_insert hdistinct).mpr (.inl rfl)))
      rwa [← hk, ← hvalue] at hold
    · exact hall e ((mem_insert hdistinct).mpr (.inr ⟨he, hk⟩))
  · intro hall e he
    rcases (mem_insert hdistinct).mp he with rfl | ⟨hold, -⟩
    · exact h.mpr (hall _ (mem_of_lookup hx))
    · exact hall e hold

/-- The entries of `extra` whose keys `base` does not have, added to `base`. -/
def union (base extra : List (String × Json)) : List (String × Json) :=
  extra.foldl (fun fields e => if (fields.lookup e.1).isNone then insert fields e.1 e.2
    else fields) base

/-- The union has the fields of the first object, and those of the second that it lacks. -/
theorem lookup_union (base extra : List (String × Json)) (k : String) :
    (union base extra).lookup k = (base.lookup k).or (extra.lookup k) := by
  unfold union
  induction extra generalizing base with
  | nil => simp
  | cons e extra ih =>
    rw [List.foldl_cons, ih, List.lookup_cons]
    cases hbase : base.lookup e.1 with
    | none =>
      rw [if_pos Option.isNone_none, lookup_insert]
      by_cases hk : k = e.1
      · simp [hk, hbase]
      · have hne : (k == e.1) = false := by simpa using hk
        rw [if_neg hk, hne]
    | some w =>
      rw [if_neg (by simp)]
      by_cases hk : k = e.1
      · simp [hk, hbase]
      · have hne : (k == e.1) = false := by simpa using hk
        rw [hne]

/-- The keys of a union are distinct. -/
theorem nodup_keys_union (hbase : (keys base).Nodup) : (keys (union base extra)).Nodup := by
  unfold union
  induction extra generalizing base with
  | nil => exact hbase
  | cons e extra ih =>
    rw [List.foldl_cons]
    apply ih
    split
    · exact nodup_keys_insert hbase _ _
    · exact hbase

theorem mem_union (hbase : (keys base).Nodup) (hextra : (keys extra).Nodup)
    {e : String × Json} :
    e ∈ union base extra ↔ e ∈ base ∨ e ∈ extra ∧ e.1 ∉ keys base := by
  have hmem : ∀ {l : List (String × Json)}, (keys l).Nodup →
      (e ∈ l ↔ l.lookup e.1 = some e.2) := fun hl => ⟨lookup_of_mem hl, mem_of_lookup⟩
  rw [hmem (nodup_keys_union hbase), hmem hbase, hmem hextra, lookup_union,
    ← lookup_eq_none_iff]
  cases base.lookup e.1 <;> simp

/-- No keyword of `extra` is shadowed by one of `base` or changes what one of `base` says,
annotations apart. -/
def Separate (base extra : List (String × Json)) : Prop :=
  ∀ e ∈ extra, keywordOf e.1 = .annotates ∨ e.1 ∉ keys base ∧
    (e.1 = "properties" → "additionalProperties" ∉ keys base) ∧
    (e.1 = "additionalProperties" → "properties" ∉ keys base)

instance : Decidable (Separate base extra) :=
  inferInstanceAs (Decidable (∀ e ∈ extra, _))

/-- Two schemas in one accept what both accept. -/
theorem accepts_union (hbase : (keys base).Nodup) (hextra : (keys extra).Nodup)
    (h : Separate base extra) :
    Accepts M (.object (union base extra)) v ↔
      Accepts M (.object base) v ∧ Accepts M (.object extra) v := by
  have hnames : ∀ {l : List (String × Json)},
      (union base extra).lookup "properties" = l.lookup "properties" →
      propertyNames (union base extra) = propertyNames l := by
    intro l heq
    unfold propertyNames
    rw [heq]
  -- `additionalProperties` reads the names beside it: they have to be the same in the union
  have hold : ∀ e ∈ base, AcceptsField M (propertyNames (union base extra)) e v ↔
      AcceptsField M (propertyNames base) e v := by
    intro e he
    refine acceptsField_names fun hkey => hnames ?_
    have hnone : extra.lookup "properties" = none := by
      refine lookup_eq_none_iff.mpr fun hmem => ?_
      obtain ⟨f, hf, hname⟩ := List.mem_map.mp hmem
      rcases h f hf with hannotates | ⟨-, hadditional, -⟩
      · rw [hname] at hannotates
        exact absurd hannotates (by decide)
      · exact hadditional hname (hkey ▸ mem_keys_of_mem he)
    rw [lookup_union, hnone, Option.or_none]
  have hnew : ∀ e ∈ extra, e.1 ∉ keys base →
      (AcceptsField M (propertyNames (union base extra)) e v ↔
        AcceptsField M (propertyNames extra) e v) := by
    intro e he _
    refine acceptsField_names fun hkey => hnames ?_
    have hnone : base.lookup "properties" = none := by
      refine lookup_eq_none_iff.mpr ?_
      rcases h e he with hannotates | ⟨-, -, hproperties⟩
      · rw [hkey] at hannotates
        exact absurd hannotates (by decide)
      · exact hproperties hkey
    rw [lookup_union, hnone, Option.none_or]
  rw [accepts_object, accepts_object, accepts_object]
  constructor
  · intro hall
    refine ⟨fun e he => (hold e he).mp (hall e ((mem_union hbase hextra).mpr (.inl he))),
      fun e he => ?_⟩
    by_cases hkey : e.1 ∈ keys base
    -- a name of both is one of an annotation
    · rcases h e he with hannotates | ⟨hnot, -⟩
      · exact acceptsField_annotates hannotates
      · exact absurd hkey hnot
    · exact (hnew e he hkey).mp (hall e ((mem_union hbase hextra).mpr (.inr ⟨he, hkey⟩)))
  · rintro ⟨hl, hr⟩ e he
    rcases (mem_union hbase hextra).mp he with he | ⟨he, hkey⟩
    · exact (hold e he).mpr (hl e he)
    · exact (hnew e he hkey).mpr (hr e he)

/-- A schema is one of its entries, and the rest, when that entry is not read by another one. -/
theorem accepts_remove (hdistinct : (keys fields).Nodup) (hnames : k ≠ "properties")
    (hx : fields.lookup k = some x) :
    Accepts M (.object fields) v ↔
      AcceptsField M (propertyNames fields) (k, x) v ∧ Accepts M (.object (remove fields k)) v := by
  have hsame : propertyNames (remove fields k) = propertyNames fields := by
    unfold propertyNames
    rw [lookup_remove, if_neg hnames.symm]
  rw [accepts_object, accepts_object, hsame]
  constructor
  · intro hall
    exact ⟨hall _ (mem_of_lookup hx), fun e he => hall e (List.mem_of_mem_filter he)⟩
  · rintro ⟨hentry, hrest⟩ e he
    by_cases hk : e.1 = k
    · have hlookup : fields.lookup e.1 = some e.2 := lookup_of_mem hdistinct he
      rw [hk, hx] at hlookup
      have heq : (k, x) = e := Prod.ext hk.symm (Option.some.inj hlookup)
      exact heq ▸ hentry
    · exact hrest e (List.mem_filter.mpr ⟨he, by simpa using hk⟩)

end JsonSchema

import GvmGateway.Rest.NullableSchemaTheorems

/-!
# The schemas of the served document

What the served document says about the schemas of the generated one: references are followed
to any depth, in either document.
-/

namespace GvmGateway.Rest

open Json (keys insert mem_of_lookup)
open JsonSchema

variable {document fields : List (String × Json)} {assertion : String → Json → Json → Prop}

/-! ## Named schemas -/

def fieldOf (value : Json) (k : String) : Option Json :=
  match value with
  | .object fields => fields.lookup k
  | _ => none

/-- The schema that a reference into the document names. -/
def componentSchema (document : Json) (reference : String) : Option Json := do
  let name ← stripPrefix reference "#/components/schemas/"
  let components ← fieldOf document "components"
  let schemas ← fieldOf components "schemas"
  fieldOf schemas name

/-- The meaning of a document's references, followed to depth `n`. -/
def meaningAt (assertion : String → Json → Json → Prop) (document : Json) : ℕ → Meaning
  | 0 => { ref := fun _ _ => True, assertion := assertion }
  | n + 1 =>
    { ref := fun reference v => ∃ x, componentSchema document reference = some x ∧
        Accepts (meaningAt assertion document n) x v
      assertion := assertion }

/-- The object is no schema: it has none of the keywords that the pass rewrites. -/
def hasNoKeyword (fields : List (String × Json)) : Bool :=
  ["type", "anyOf", "oneOf"].all fun k => (fields.lookup k).isNone

/-- A generated document: its schemas can be normalized, and nothing around them is one. -/
structure GeneratedDocument (document components schemas : List (String × Json)) : Prop where
  distinct : (Json.object document).Distinct
  componentsAt : document.lookup "components" = some (.object components)
  schemasAt : components.lookup "schemas" = some (.object schemas)
  noKeyword : hasNoKeyword document = true
  noKeywordInComponents : hasNoKeyword components = true
  normalizable : ∀ e ∈ schemas, isNormalizable e.2 = true

/-- Null is found among the types of a node and among the alternatives of one combinator, and has
no other schema of its own. -/
structure NullsInOptions (x : Json) : Prop where
  notNull : isNullSchema x = false
  optionsOnly : Json.all hasNullsInOptionsOnly x = true
  singlyNullable : Json.all isSinglyNullable x = true

/-! ## Where the named schemas are in the served document -/

theorem normalize_of_hasNoKeyword (h : hasNoKeyword fields = true) :
    normalizeNullableSchema (.object fields) = .object (normalizeFields fields) := by
  apply normalize_object_of_plain
  simp only [isPlainNode, List.all_eq_true, Bool.not_eq_true']
  intro k hk
  have hnone : fields.lookup k = none :=
    Option.isNone_iff_eq_none.mp (List.all_eq_true.mp h k hk)
  rw [lookup_normalizeFields, hnone]
  rfl

theorem hasNoKeyword_insert {k : String} {v : Json} (h : hasNoKeyword fields = true)
    (hk : k ∉ ["type", "anyOf", "oneOf"]) : hasNoKeyword (insert fields k v) = true := by
  refine List.all_eq_true.mpr fun j hj => ?_
  have hne : j ≠ k := fun heq => hk (heq ▸ hj)
  rw [Json.lookup_insert, if_neg hne]
  exact List.all_eq_true.mp h j hj

/-- The document with the fields that do not depend on its routes. -/
def titledDocument (document : List (String × Json)) : List (String × Json) :=
  insert (insert (insert document "servers" baseServers) "security" documentSecurity) "tags"
    openapiTagsValue

/-- The document that is normalized. -/
def editedDocument (document : List (String × Json)) : List (String × Json) :=
  insert (titledDocument document) "paths" (.object (servedPaths (titledDocument document)))

theorem lookup_titledDocument {k : String} (hk : k ∉ ["servers", "security", "tags"]) :
    (titledDocument document).lookup k = document.lookup k := by
  simp only [List.mem_cons, List.not_mem_nil, or_false, not_or] at hk
  obtain ⟨hservers, hsecurity, htags⟩ := hk
  unfold titledDocument
  rw [Json.lookup_insert, if_neg htags, Json.lookup_insert, if_neg hsecurity,
    Json.lookup_insert, if_neg hservers]

theorem hasNoKeyword_titledDocument (h : hasNoKeyword document = true) :
    hasNoKeyword (titledDocument document) = true := by
  refine List.all_eq_true.mpr fun k hk => ?_
  have hother : ∀ k ∈ ["type", "anyOf", "oneOf"], k ∉ ["servers", "security", "tags"] := by
    decide
  rw [lookup_titledDocument (hother k hk)]
  exact List.all_eq_true.mp h k hk

theorem finalizeDocument_eq (h : hasNoKeyword document = true) :
    finalizeDocument document = .object (normalizeFields (editedDocument document)) := by
  have hedited : hasNoKeyword (editedDocument document) = true :=
    hasNoKeyword_insert (hasNoKeyword_titledDocument h) (by decide)
  exact normalize_of_hasNoKeyword hedited

theorem lookup_editedDocument {k : String} (hk : k ∉ ["servers", "security", "tags"])
    (hpaths : k ≠ "paths") : (editedDocument document).lookup k = document.lookup k := by
  unfold editedDocument
  rw [Json.lookup_insert, if_neg hpaths, lookup_titledDocument hk]

namespace GeneratedDocument

variable {components schemas : List (String × Json)} {x y v : Json} {reference : String}

theorem lookup_componentSchema (h : GeneratedDocument document components schemas) :
    componentSchema (.object document) reference =
      (stripPrefix reference "#/components/schemas/").bind fun name => schemas.lookup name := by
  unfold componentSchema
  cases stripPrefix reference "#/components/schemas/" with
  | none => rfl
  | some name =>
    have hcomponents : fieldOf (.object document) "components" = some (.object components) :=
      h.componentsAt
    have hschemas : fieldOf (.object components) "schemas" = some (.object schemas) := h.schemasAt
    simp only [Option.bind_eq_bind, Option.bind_some, hcomponents, hschemas]
    rfl

/-- A reference leads to the normalized schema. -/
theorem componentSchema_finalize (h : GeneratedDocument document components schemas) :
    componentSchema (finalizeDocument document) reference =
      (componentSchema (.object document) reference).map normalizeNullableSchema := by
  rw [h.lookup_componentSchema, finalizeDocument_eq h.noKeyword]
  unfold componentSchema
  cases stripPrefix reference "#/components/schemas/" with
  | none => rfl
  | some name =>
    have hcomponents : fieldOf (.object (normalizeFields (editedDocument document))) "components" =
        some (.object (normalizeFields components)) := by
      show (normalizeFields (editedDocument document)).lookup "components" = _
      rw [lookup_normalizeFields, lookup_editedDocument (by decide) (by decide), h.componentsAt,
        Option.map_some, normalize_of_hasNoKeyword h.noKeywordInComponents]
    have hschemas : fieldOf (.object (normalizeFields components)) "schemas" =
        some (.object (normalizeFields schemas)) := by
      show (normalizeFields components).lookup "schemas" = _
      rw [lookup_normalizeFields, h.schemasAt, Option.map_some, normalize_schemas h.normalizable]
    simp only [Option.bind_eq_bind, Option.bind_some, hcomponents, hschemas]
    exact lookup_normalizeFields schemas name

theorem mem_schemas (h : GeneratedDocument document components schemas)
    (hx : componentSchema (.object document) reference = some x) : ∃ name, (name, x) ∈ schemas := by
  rw [h.lookup_componentSchema, Option.bind_eq_some_iff] at hx
  obtain ⟨name, -, hlookup⟩ := hx
  exact ⟨name, mem_of_lookup hlookup⟩

theorem distinct_schema (h : GeneratedDocument document components schemas)
    (hx : componentSchema (.object document) reference = some x) : x.Distinct := by
  obtain ⟨name, hmem⟩ := h.mem_schemas hx
  have hcomponents : (Json.object components).Distinct :=
    h.distinct.field (mem_of_lookup h.componentsAt)
  have hschemas : (Json.object schemas).Distinct :=
    hcomponents.field (mem_of_lookup h.schemasAt)
  exact hschemas.field hmem

/-- One more level of references: what they lead to means the same in both documents. -/
theorem agree (h : GeneratedDocument document components schemas) (n : ℕ) :
    Meaning.Agree (meaningAt assertion (finalizeDocument document) n)
      (meaningAt assertion (.object document) n) := by
  induction n with
  | zero => exact ⟨fun _ _ _ => Iff.rfl, rfl⟩
  | succ n ih =>
    refine ⟨fun reference v hv => ?_, rfl⟩
    show (∃ y, componentSchema (finalizeDocument document) reference = some y ∧ _) ↔
      ∃ x, componentSchema (.object document) reference = some x ∧ _
    rw [h.componentSchema_finalize]
    cases hx : componentSchema (.object document) reference with
    | none => simp
    | some x =>
      obtain ⟨name, hmem⟩ := h.mem_schemas hx
      have hsame := accepts_normalize ih x (h.normalizable _ hmem) (h.distinct_schema hx) v hv
      simpa using hsame

end GeneratedDocument

/-- Every named schema of a generated document is served under its name. To whatever depth the
references are followed, the served one accepts the same values, nulls apart; and when null was
only among the types and the alternatives, no schema in the served one is of the type null, alone
or among other types. -/
theorem served_schemas_keep_meaning {components schemas : List (String × Json)}
    (h : GeneratedDocument document components schemas) {reference : String} {x : Json}
    (hx : componentSchema (.object document) reference = some x) :
    ∃ y, componentSchema (finalizeDocument document) reference = some y ∧
      (∀ n v, v.NullFree → (Accepts (meaningAt assertion (finalizeDocument document) n) y v ↔
        Accepts (meaningAt assertion (.object document) n) x v)) ∧
      (NullsInOptions x → Json.all isNullabilityFree y = true) := by
  obtain ⟨name, hmem⟩ := h.mem_schemas hx
  have hdistinct := h.distinct_schema hx
  refine ⟨normalizeNullableSchema x, ?_, fun n v hv => ?_, fun hnulls => ?_⟩
  · rw [h.componentSchema_finalize, hx]
    rfl
  · exact accepts_normalize (h.agree n) x (h.normalizable _ hmem) hdistinct v hv
  · have hitems : itemsOf x = [] := by
      cases x with
      | array items => cases h.normalizable _ hmem
      | _ => rfl
    refine nullabilityFree_normalize hdistinct hnulls.singlyNullable hnulls.optionsOnly ?_ ?_
    · rw [hitems]
      exact fun _ hin => absurd hin List.not_mem_nil
    · have hnot := hnulls.notNull
      rw [← Bool.not_eq_true] at hnot ⊢
      exact fun hnull => hnot (isNullSchema_normalize hnulls.optionsOnly hnull)

/-- A target with a nullable comment and a nullable reference. -/
def targetSchema : Json :=
  .object [
    ("type", .string "object"),
    ("required", .array [.string "name"]),
    ("properties", .object [
      ("comment", .object [("type", .array [.string "string", .string "null"])]),
      ("name", .object [("type", .string "string")]),
      ("portList", .object [
        ("anyOf", .array [.object [("$ref", .string "#/components/schemas/PortList")],
          .object [("type", .string "null")]]),
        ("description", .string "The port list of the target")])])]

def targetSchemas : List (String × Json) :=
  [("PortList", .object [("type", .string "string"), ("format", .string "uuid")]),
    ("Target", targetSchema)]

def targetDocument : List (String × Json) :=
  [("components", .object [("schemas", .object targetSchemas)]),
    ("openapi", .string "3.1.0"),
    ("paths", .object [])]

theorem targetDocument_generated :
    GeneratedDocument targetDocument [("schemas", .object targetSchemas)] targetSchemas where
  distinct := by decide
  componentsAt := rfl
  schemasAt := rfl
  noKeyword := by decide
  noKeywordInComponents := by decide
  normalizable := by decide

theorem targetSchema_nullsInOptions : NullsInOptions targetSchema where
  notNull := by decide
  optionsOnly := by decide
  singlyNullable := by decide

/-- The document of a target without its nulls. -/
theorem served_schemas_keep_meaning_target :
    ∃ y, componentSchema (finalizeDocument targetDocument) "#/components/schemas/Target" =
        some y ∧
      (∀ n v, v.NullFree →
        (Accepts (meaningAt (fun _ _ _ => True) (finalizeDocument targetDocument) n) y v ↔
          Accepts (meaningAt (fun _ _ _ => True) (.object targetDocument) n) targetSchema v)) ∧
      Json.all isNullabilityFree y = true := by
  have hx : componentSchema (.object targetDocument) "#/components/schemas/Target" =
      some targetSchema := rfl
  obtain ⟨y, hserved, hsame, hfree⟩ := @served_schemas_keep_meaning targetDocument
    (fun _ _ _ => True) _ _ targetDocument_generated _ _ hx
  exact ⟨y, hserved, hsame, hfree targetSchema_nullsInOptions⟩

end GvmGateway.Rest

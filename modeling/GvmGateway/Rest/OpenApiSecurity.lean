import GvmGateway.Rest.OpenApiSchemas

/-!
# The documented operations of a route

The served document gives every operation the security that the auth policy of its route asks of
the requests that the router sends there, and a `502` response by the policy of its route. The
router comes from a package and is a parameter.
-/

namespace GvmGateway.Rest

open Json (keys insert remove mem_of_lookup lookup_of_mem)
open JsonSchema

variable {document paths methods operation fields : List (String × Json)}
  {path methodName value pattern suffix : String} {method : Method} {policy : RestRouteAuthPolicy}

/-! ## Paths -/

/-- A prefix is stripped where the text starts with it. -/
theorem stripPrefix_eq_some :
    stripPrefix value pattern = some suffix ↔ value = pattern ++ suffix := by
  unfold stripPrefix
  constructor
  · intro h
    split_ifs at h with hmatches
    · obtain ⟨rest, hrest⟩ := List.isPrefixOf_iff_prefix.mp hmatches
      have hsuffix := Option.some.inj h
      rw [← hrest, ← String.length_toList, List.drop_left] at hsuffix
      apply String.toList_inj.mp
      rw [String.toList_append, ← hsuffix, String.toList_ofList, hrest]
  · rintro rfl
    have hmatches : pattern.toList.isPrefixOf (pattern ++ suffix).toList = true := by
      rw [String.toList_append]
      exact List.isPrefixOf_iff_prefix.mpr (List.prefix_append _ _)
    rw [if_pos hmatches, String.toList_append, ← String.length_toList, List.drop_left,
      String.ofList_toList]

/-- A text starts with what it is put behind. -/
theorem startsWith_append : startsWith (pattern ++ suffix) pattern = true := by
  unfold startsWith
  rw [String.toList_append]
  exact List.isPrefixOf_iff_prefix.mpr (List.prefix_append _ _)

/-- The paths of the router that the document is generated from: the probes, and the paths under
`/api/v1/` that the gateway does not publish on its own account. -/
inductive IsRoute : String → Prop
  | health : IsRoute "/health"
  | ready : IsRoute "/ready"
  | api (suffix : String) (free : "/" ++ suffix ∉ ["/health", "/ready", "/openapi.json"]) :
      IsRoute ("/api/v1" ++ ("/" ++ suffix))

/-- What starts with a slash is not empty. -/
theorem append_slash_ne (suffix : String) : "/" ++ suffix ≠ "" := by
  intro h
  have hlist := congrArg String.toList h
  rw [String.toList_append] at hlist
  cases hlist

/-- The paths below `/api/v1` are published without it. -/
theorem publishedPath_api (suffix : String) :
    publishedPath ("/api/v1" ++ ("/" ++ suffix)) = "/" ++ suffix := by
  unfold publishedPath
  rw [stripPrefix_eq_some.mpr rfl]
  exact if_neg (append_slash_ne suffix)

/-- A published path leads back to its route. -/
theorem runtimePath_publishedPath (h : IsRoute path) :
    runtimePathFromOpenapiPath (publishedPath path) = path := by
  cases h with
  | health => decide
  | ready => decide
  | api suffix free =>
    simp only [List.mem_cons, List.not_mem_nil, or_false, not_or] at free
    rw [publishedPath_api]
    unfold runtimePathFromOpenapiPath
    rw [if_neg (by tauto)]
    by_cases hversion : "/" ++ suffix = "/version"
    · rw [if_pos hversion, hversion]
      decide
    · rw [if_neg hversion, if_neg free.2.2]

/-- Different routes are published under different paths. -/
theorem publishedPath_injOn {other : String} (h : IsRoute path) (hother : IsRoute other)
    (heq : publishedPath path = publishedPath other) : path = other := by
  rw [← runtimePath_publishedPath h, heq, runtimePath_publishedPath hother]

/-- A route is published under a path that starts with a slash. -/
theorem publishedPath_slash (h : IsRoute path) : ∃ suffix, publishedPath path = "/" ++ suffix := by
  cases h with
  | health => exact ⟨"health", by decide⟩
  | ready => exact ⟨"ready", by decide⟩
  | api suffix free => exact ⟨suffix, publishedPath_api suffix⟩

theorem publishedPath_ne_openapi (h : IsRoute path) : publishedPath path ≠ "/openapi.json" := by
  cases h with
  | health => decide
  | ready => decide
  | api suffix free =>
    rw [publishedPath_api]
    simp only [List.mem_cons, List.not_mem_nil, or_false, not_or] at free
    exact free.2.2

/-! ## Where an operation is in the served document -/

/-- What the fold over the paths publishes is found under the published path. -/
theorem lookup_foldl_publish (source acc : List (String × Json)) (hdistinct : (keys source).Nodup)
    (hinj : ∀ e ∈ source, publishedPath e.1 = publishedPath path → e.1 = path) :
    (source.foldl (fun paths e => insert paths (publishedPath e.1) e.2) acc).lookup
        (publishedPath path) = (source.lookup path).or (acc.lookup (publishedPath path)) := by
  induction source generalizing acc with
  | nil => rfl
  | cons e source ih =>
    have hkeys : e.1 ∉ keys source ∧ (keys source).Nodup := List.nodup_cons.mp hdistinct
    rw [List.foldl_cons, ih _ hkeys.2 fun f hf => hinj f (List.mem_cons_of_mem _ hf),
      Json.lookup_insert, List.lookup_cons]
    by_cases hpath : path = e.1
    · have hnone : source.lookup e.1 = none := Json.lookup_eq_none_iff.mpr hkeys.1
      rw [hpath, hnone, if_pos rfl]
      simp
    · have hne : publishedPath path ≠ publishedPath e.1 := fun heq =>
        hpath (hinj e List.mem_cons_self heq.symm).symm
      have hbeq : (path == e.1) = false := by simpa using hpath
      rw [if_neg hne, hbeq]

/-- The paths published hold the operations of their routes. -/
theorem lookup_normalizePaths (hdistinct : (keys paths).Nodup)
    (hroutes : ∀ e ∈ paths, IsRoute e.1) (hpath : IsRoute path) :
    (normalizePaths paths).lookup (publishedPath path) = paths.lookup path := by
  unfold normalizePaths
  rw [lookup_foldl_publish paths [] hdistinct fun e he heq =>
    publishedPath_injOn (hroutes e he) hpath heq]
  simp

/-- Every path published is that of a source path. -/
theorem keys_normalizePaths {k : String} (h : k ∈ keys (normalizePaths paths)) :
    ∃ e ∈ paths, k = publishedPath e.1 := by
  have key : ∀ (source acc : List (String × Json)),
      k ∈ keys (source.foldl (fun paths e => insert paths (publishedPath e.1) e.2) acc) →
      k ∈ keys acc ∨ ∃ e ∈ source, k = publishedPath e.1 := by
    intro source
    induction source with
    | nil => exact fun acc hk => .inl hk
    | cons e source ih =>
      intro acc hk
      rcases ih _ hk with hacc | ⟨f, hf, heq⟩
      · rcases Json.keys_insert_subset hacc with heq | hmem
        · exact .inr ⟨e, List.mem_cons_self, heq⟩
        · exact .inl hmem
      · exact .inr ⟨f, List.mem_cons_of_mem _ hf, heq⟩
  rcases key paths [] h with hnil | hpath
  · cases hnil
  · exact hpath

/-- One probe's item gets its servers, and every item keeps its methods. -/
def overrideServers (paths : List (String × Json)) (probe : String) : List (String × Json) :=
  match paths.lookup probe with
  | some (.object item) => insert paths probe (.object (insert item "servers" probeServers))
  | _ => paths

/-- The two probes get their own servers, one after the other. -/
theorem addProbeServerOverrides_eq : addProbeServerOverrides paths =
    overrideServers (overrideServers paths "/health") "/ready" := rfl

/-- The servers of a probe are set, and its operations stay as they are. -/
theorem overrideServers_keeps (probe : String)
    (h : paths.lookup path = some (.object methods)) (hplain : hasNoKeyword methods = true) :
    ∃ methods', (overrideServers paths probe).lookup path = some (.object methods') ∧
      hasNoKeyword methods' = true ∧
      ∀ m, m ≠ "servers" → methods'.lookup m = methods.lookup m := by
  unfold overrideServers
  split
  · next item hitem =>
    rw [Json.lookup_insert]
    by_cases hpath : path = probe
    · rw [if_pos hpath]
      rw [hpath, hitem] at h
      obtain rfl := Json.object.inj (Option.some.inj h)
      refine ⟨_, rfl, hasNoKeyword_insert hplain (by decide), fun m hm => ?_⟩
      rw [Json.lookup_insert, if_neg hm]
    · rw [if_neg hpath]
      exact ⟨methods, h, hplain, fun _ _ => rfl⟩
  · exact ⟨methods, h, hplain, fun _ _ => rfl⟩

/-- No path is added. -/
theorem keys_overrideServers {probe k : String} (h : k ∈ keys (overrideServers paths probe)) :
    k ∈ keys paths := by
  unfold overrideServers at h
  split at h
  · next item hitem =>
    rcases Json.keys_insert_subset h with rfl | hmem
    · exact Json.mem_keys_of_mem (mem_of_lookup hitem)
    · exact hmem
  · exact h

/-- An edit of the operations is found at each method of a path. -/
theorem lookup_mapOperations {edit : String → String → Json → Json}
    (h : paths.lookup path = some (.object methods)) :
    (mapOperations edit paths).lookup path =
      some (.object (methods.map fun m => (m.1, edit path m.1 m.2))) := by
  have hmap := Json.lookup_map (editMethods edit) paths path
  rw [h] at hmap
  exact hmap

/-- An edit of the operations keeps the paths. -/
theorem keys_mapOperations {edit : String → String → Json → Json} :
    keys (mapOperations edit paths) = keys paths := by
  unfold mapOperations keys
  rw [List.map_map]
  rfl

/-! ## What the edits do to an operation -/

/-- The `security` that `apply_security` writes for a policy. -/
def policySecurity : RestRouteAuthPolicy → Json
  | .publicRoute => .array []
  | .sessionCreate => .array [scheme "basicAuth"]
  | .sessionCurrent => .array [scheme "bearerAuth"]
  | .protectedRoute => documentSecurity

/-- Removing a field adds no keyword. -/
theorem hasNoKeyword_remove {k : String} (h : hasNoKeyword fields = true) :
    hasNoKeyword (remove fields k) = true := by
  refine List.all_eq_true.mpr fun j hj => ?_
  rw [Json.lookup_remove]
  split
  · rfl
  · exact List.all_eq_true.mp h j hj

/-- The response for an unavailable backend leaves an operation without schema keywords. -/
theorem documentBackendUnavailable_object (path methodName : String)
    (h : hasNoKeyword operation = true) :
    ∃ operation', documentBackendUnavailable path methodName (.object operation) =
        .object operation' ∧ hasNoKeyword operation' = true := by
  unfold documentBackendUnavailable
  split
  · exact ⟨_, rfl, hasNoKeyword_insert h (by decide)⟩
  · exact ⟨_, rfl, h⟩

/-- The security that the pass leaves in an operation. -/
theorem lookup_applyPolicy : (applyPolicy policy operation).lookup "security" =
    if policy = .protectedRoute then none else some (policySecurity policy) := by
  cases policy with
  | protectedRoute =>
    rw [applyPolicy, Json.lookup_remove]
    rfl
  | publicRoute =>
    rw [applyPolicy, Json.lookup_insert]
    rfl
  | sessionCreate =>
    rw [applyPolicy, Json.lookup_insert]
    rfl
  | sessionCurrent =>
    rw [applyPolicy, Json.lookup_insert]
    rfl

/-- So does the security of a policy. -/
theorem hasNoKeyword_applyPolicy (h : hasNoKeyword operation = true) :
    hasNoKeyword (applyPolicy policy operation) = true := by
  cases policy with
  | protectedRoute => exact hasNoKeyword_remove h
  | publicRoute => exact hasNoKeyword_insert h (by decide)
  | sessionCreate => exact hasNoKeyword_insert h (by decide)
  | sessionCurrent => exact hasNoKeyword_insert h (by decide)

/-- A security is no schema. -/
theorem plain_policySecurity : Plain (policySecurity policy) := by
  cases policy <;> decide

/-! ## Routes and requests -/

/-- The paths that a route matches: `{name}` stands for a segment. -/
inductive MatchesRoute : List Char → List Char → Prop
  | done : MatchesRoute [] []
  | literal {route request : List Char} (c : Char) (hc : c ≠ '{')
      (rest : MatchesRoute route request) :
      MatchesRoute (c :: route) (c :: request)
  | parameter {route request : List Char} (name segment : List Char) (hname : '}' ∉ name)
      (hne : segment ≠ []) (hsegment : '/' ∉ segment) (rest : MatchesRoute route request) :
      MatchesRoute ('{' :: name ++ '}' :: route) (segment ++ request)

/-- A route without parameters has one path. -/
theorem MatchesRoute.eq_of_literal {route request : List Char} (h : MatchesRoute route request)
    (hliteral : '{' ∉ route) : request = route := by
  induction h with
  | done => rfl
  | literal c hc rest ih =>
    rw [ih fun hmem => hliteral (List.mem_cons_of_mem _ hmem)]
  | parameter name segment hname hne hsegment rest ih =>
    exact absurd (by simp) hliteral

/-- A request path starts with the text before the first parameter of its route. -/
theorem MatchesRoute.literal_start {start : List Char} (hstart : '{' ∉ start) :
    ∀ {route request : List Char}, MatchesRoute (start ++ route) request →
      ∃ rest, request = start ++ rest := by
  induction start with
  | nil => exact fun {_ request} _ => ⟨request, rfl⟩
  | cons c start ih =>
    intro route request h
    rw [List.cons_append] at h
    generalize hroute : c :: (start ++ route) = full at h
    cases h with
    | done => cases hroute
    | literal d hd rest =>
      obtain ⟨rfl, rfl⟩ := List.cons.inj hroute
      obtain ⟨tail, htail⟩ := ih (fun hmem => hstart (List.mem_cons_of_mem _ hmem)) rest
      exact ⟨tail, by rw [htail, List.cons_append]⟩
    | parameter name segment hname hne hsegment rest =>
      obtain ⟨rfl, -⟩ := List.cons.inj hroute
      exact absurd List.mem_cons_self hstart

/-- Literal text in front of a route and of the request matches itself. -/
theorem MatchesRoute.literals {start route request : List Char} (hstart : '{' ∉ start)
    (h : MatchesRoute route request) : MatchesRoute (start ++ route) (start ++ request) := by
  induction start with
  | nil => exact h
  | cons c start ih =>
    have hc : c ≠ '{' := fun heq => hstart (heq ▸ List.mem_cons_self)
    exact .literal c hc (ih fun hmem => hstart (List.mem_cons_of_mem _ hmem))

/-- The paths with a policy of their own. -/
def fixedPaths : List String :=
  ["/health", "/ready", "/api/v1/version", "/api/v1/openapi.json", "/api/v1/docs",
    "/api/v1/docs/redoc.standalone.js", "/api/v1/session"]

/-- Below `/api/v1` every path that is not listed is protected. -/
theorem classify_of_not_fixed (h : path ∉ fixedPaths) (hapi : startsWith path "/api/v1/" = true) :
    classifyRuntimeRoute method path = some .protectedRoute := by
  simp only [fixedPaths, List.mem_cons, List.not_mem_nil, or_false, not_or] at h
  unfold classifyRuntimeRoute
  rw [if_neg (by tauto), if_neg (by tauto), if_neg (by tauto), if_neg (by tauto), if_pos hapi]

/-- A route is a listed path or lies below `/api/v1`. -/
theorem IsRoute.startsWith_or_fixed (h : IsRoute path) :
    path ∈ fixedPaths ∨ ∃ suffix, path = "/api/v1/" ++ suffix := by
  cases h with
  | health => exact .inl (by decide)
  | ready => exact .inl (by decide)
  | api suffix free =>
    refine .inr ⟨suffix, ?_⟩
    rw [← String.append_assoc]
    rfl

/-- What the router's package documents: a request is sent to a route that its path matches, and
one for a path with a policy of its own to no other route, for a route without parameters comes
first. -/
structure IsRouter (router : String → Option String) : Prop where
  sends : ∀ request route, router request = some route →
    MatchesRoute route.toList request.toList
  prefers : ∀ request ∈ fixedPaths, ∀ route, router request = some route → route = request

/-- A request gets the policy of the route it is sent to. -/
theorem classify_routed {request : String} (hroute : IsRoute path)
    (h : MatchesRoute path.toList request.toList)
    (hprefers : request ≠ path → request ∉ fixedPaths) :
    classifyRuntimeRoute method request = classifyRuntimeRoute method path := by
  by_cases heq : request = path
  · rw [heq]
  · have hnot : path ∉ fixedPaths := by
      intro hfixed
      have hliteral : ∀ fixed ∈ fixedPaths, '{' ∉ fixed.toList := by decide
      exact heq (String.toList_inj.mp (h.eq_of_literal (hliteral path hfixed)))
    rcases hroute.startsWith_or_fixed with hfixed | ⟨suffix, rfl⟩
    · exact absurd hfixed hnot
    · rw [String.toList_append] at h
      obtain ⟨rest, hrest⟩ := h.literal_start (by decide)
      have hrequest : request = "/api/v1/" ++ String.ofList rest := by
        apply String.toList_inj.mp
        rw [hrest, String.toList_append]
        simp
      rw [classify_of_not_fixed hnot startsWith_append,
        classify_of_not_fixed (hprefers heq) (hrequest ▸ startsWith_append)]

/-- Every route has a policy for every method. -/
theorem IsRoute.classified (h : IsRoute path) (method : Method) :
    ∃ policy, classifyRuntimeRoute method path = some policy := by
  rcases h.startsWith_or_fixed with hfixed | ⟨suffix, rfl⟩
  · unfold classifyRuntimeRoute
    simp only [fixedPaths, List.mem_cons, List.not_mem_nil, or_false] at hfixed
    rcases hfixed with rfl | rfl | rfl | rfl | rfl | rfl | rfl
    · exact ⟨_, rfl⟩
    · exact ⟨_, rfl⟩
    · exact ⟨_, rfl⟩
    · exact ⟨_, rfl⟩
    · exact ⟨_, rfl⟩
    · exact ⟨_, rfl⟩
    · by_cases hpost : method = .post
      · subst hpost
        exact ⟨_, rfl⟩
      · refine ⟨.sessionCurrent, ?_⟩
        rw [if_neg (by decide), if_neg (by decide), if_neg (by tauto), if_pos rfl]
  · have hstarts : startsWith ("/api/v1/" ++ suffix) "/api/v1/" = true := startsWith_append
    unfold classifyRuntimeRoute
    split_ifs
    · exact ⟨_, rfl⟩
    · exact ⟨_, rfl⟩
    · exact ⟨_, rfl⟩
    · exact ⟨_, rfl⟩
    · exact ⟨_, rfl⟩

/-! ## The served operations -/

/-- A document generated from the routes, with operations that are no schemas. -/
structure RoutedDocument (document : List (String × Json)) : Prop where
  noKeyword : hasNoKeyword document = true
  distinct : (keys (sourcePaths document)).Nodup
  routes : ∀ e ∈ sourcePaths document, IsRoute e.1
  items : ∀ e ∈ sourcePaths document, ∀ methods, e.2 = .object methods →
    hasNoKeyword methods = true ∧
      ∀ m ∈ methods, ∀ operation, m.2 = .object operation → hasNoKeyword operation = true

/-- Editing the values of fields adds no keyword. -/
theorem hasNoKeyword_map {f : String → Json → Json} (h : hasNoKeyword fields = true) :
    hasNoKeyword (fields.map fun e => (e.1, f e.1 e.2)) = true := by
  refine List.all_eq_true.mpr fun k hk => ?_
  have hnone : fields.lookup k = none :=
    Option.isNone_iff_eq_none.mp (List.all_eq_true.mp h k hk)
  rw [Json.lookup_map, hnone]
  rfl

/-- Paths are no schema keywords. -/
theorem hasNoKeyword_of_slash (h : ∀ k ∈ keys fields, ∃ suffix, k = "/" ++ suffix) :
    hasNoKeyword fields = true := by
  refine List.all_eq_true.mpr fun k hk => Option.isNone_iff_eq_none.mpr ?_
  refine Json.lookup_eq_none_iff.mpr fun hmem => ?_
  obtain ⟨suffix, rfl⟩ := h k hmem
  have hstarts : ∀ keyword ∈ ["type", "anyOf", "oneOf"], startsWith keyword "/" = false := by
    decide
  have hslash : startsWith ("/" ++ suffix) "/" = true := startsWith_append
  rw [hstarts _ hk] at hslash
  cases hslash

namespace RoutedDocument

/-- The paths that are served start with a slash. -/
theorem slash_servedPaths (h : RoutedDocument document) :
    ∀ k ∈ keys (servedPaths document), ∃ suffix, k = "/" ++ suffix := by
  intro k hk
  unfold servedPaths at hk
  rw [keys_mapOperations, keys_mapOperations] at hk
  rcases Json.keys_insert_subset hk with rfl | hk
  · exact ⟨"openapi.json", by decide⟩
  · rw [addProbeServerOverrides_eq] at hk
    obtain ⟨e, he, rfl⟩ := keys_normalizePaths (keys_overrideServers (keys_overrideServers hk))
    exact publishedPath_slash (h.routes e he)

/-- An operation is served under its published path and its method, with its policy applied. -/
theorem served_operation (h : RoutedDocument document)
    (hpath : (sourcePaths document).lookup path = some (.object methods))
    (hoperation : methods.lookup methodName = some (.object operation))
    (hmethod : openapiMethod methodName = some method)
    (hpolicy : classifyRuntimeRoute method path = some policy) :
    ∃ item operation',
      documentBackendUnavailable (publishedPath path) methodName (.object operation) =
        .object operation' ∧
      (servedPaths document).lookup (publishedPath path) = some (.object item) ∧
      hasNoKeyword item = true ∧ hasNoKeyword operation' = true ∧
      item.lookup methodName = some (.object (applyPolicy policy operation')) := by
  have hmem := mem_of_lookup hpath
  have hroute : IsRoute path := h.routes _ hmem
  obtain ⟨hmethods, hoperations⟩ := h.items _ hmem methods rfl
  have hplain : hasNoKeyword operation = true :=
    hoperations _ (mem_of_lookup hoperation) operation rfl
  -- the item, as the passes find it
  have hsource : (normalizePaths (sourcePaths document)).lookup (publishedPath path) =
      some (.object methods) := by
    rw [lookup_normalizePaths h.distinct h.routes hroute, hpath]
  obtain ⟨first, hfirst, hfirstPlain, hfirstSame⟩ :=
    overrideServers_keeps "/health" hsource hmethods
  obtain ⟨item, hitem, hitemPlain, hitemSame⟩ :=
    overrideServers_keeps "/ready" hfirst hfirstPlain
  have hservers : methodName ≠ "servers" := by
    rintro rfl
    cases hmethod
  have hentry : item.lookup methodName = some (.object operation) := by
    rw [hitemSame _ hservers, hfirstSame _ hservers, hoperation]
  have hinserted : (insert (addProbeServerOverrides (normalizePaths (sourcePaths document)))
      "/openapi.json" openApiDocumentItem).lookup (publishedPath path) = some (.object item) := by
    rw [Json.lookup_insert, if_neg (publishedPath_ne_openapi hroute), addProbeServerOverrides_eq,
      hitem]
  obtain ⟨operation', hbackend, hplain'⟩ :=
    documentBackendUnavailable_object (publishedPath path) methodName hplain
  refine ⟨_, operation', hbackend, lookup_mapOperations (lookup_mapOperations hinserted),
    hasNoKeyword_map (hasNoKeyword_map hitemPlain), hplain', ?_⟩
  rw [Json.lookup_map, Json.lookup_map, hentry, Option.map_some, Option.map_some, hbackend]
  unfold applyRouteAuth
  dsimp only
  rw [hmethod]
  dsimp only
  rw [runtimePath_publishedPath hroute, hpolicy]

end RoutedDocument

/-- The operation of a document at a path and a method. -/
def operationOf (document : Json) (path methodName : String) : Option Json := do
  let paths ← fieldOf document "paths"
  let item ← fieldOf paths path
  fieldOf item methodName

/-- The security that a document asks of an operation: its own, or else the document's. -/
def operationSecurity (document : Json) (path methodName : String) : Option Json := do
  let operation ← operationOf document path methodName
  (fieldOf operation "security").or (fieldOf document "security")

/-- Titles leave the paths alone. -/
theorem sourcePaths_titledDocument :
    sourcePaths (titledDocument document) = sourcePaths document := by
  unfold sourcePaths
  rw [lookup_titledDocument (by decide)]

/-- A document whose schemas are titled has the same routes. -/
theorem RoutedDocument.titled (h : RoutedDocument document) :
    RoutedDocument (titledDocument document) where
  noKeyword := hasNoKeyword_titledDocument h.noKeyword
  distinct := by
    rw [sourcePaths_titledDocument]
    exact h.distinct
  routes := by
    rw [sourcePaths_titledDocument]
    exact h.routes
  items := by
    rw [sourcePaths_titledDocument]
    exact h.items

/-- The operation in the served document: edited, and normalized. -/
theorem operationOf_finalize (h : RoutedDocument document)
    (hpath : (sourcePaths document).lookup path = some (.object methods))
    (hoperation : methods.lookup methodName = some (.object operation))
    (hmethod : openapiMethod methodName = some method)
    (hpolicy : classifyRuntimeRoute method path = some policy) :
    ∃ operation', documentBackendUnavailable (publishedPath path) methodName (.object operation) =
        .object operation' ∧
      operationOf (finalizeDocument document) (publishedPath path) methodName =
        some (.object (normalizeFields (applyPolicy policy operation'))) := by
  obtain ⟨item, operation', hbackend, hserved, hitem, hplain, hentry⟩ :=
    h.titled.served_operation (by rw [sourcePaths_titledDocument]; exact hpath) hoperation hmethod
      hpolicy
  refine ⟨operation', hbackend, ?_⟩
  -- down the document, a level at a time: paths, path item, operation
  have hpaths : fieldOf (finalizeDocument document) "paths" =
      some (.object (normalizeFields (servedPaths (titledDocument document)))) := by
    rw [finalizeDocument_eq h.noKeyword]
    show (normalizeFields (editedDocument document)).lookup "paths" = _
    rw [lookup_normalizeFields, editedDocument, Json.lookup_insert, if_pos rfl, Option.map_some,
      normalize_of_hasNoKeyword (hasNoKeyword_of_slash h.titled.slash_servedPaths)]
  have hitem' : fieldOf (.object (normalizeFields (servedPaths (titledDocument document))))
      (publishedPath path) = some (.object (normalizeFields item)) := by
    show (normalizeFields (servedPaths _)).lookup (publishedPath path) = _
    rw [lookup_normalizeFields, hserved, Option.map_some, normalize_of_hasNoKeyword hitem]
  have hoperation' : fieldOf (.object (normalizeFields item)) methodName =
      some (.object (normalizeFields (applyPolicy policy operation'))) := by
    show (normalizeFields item).lookup methodName = _
    rw [lookup_normalizeFields, hentry, Option.map_some,
      normalize_of_hasNoKeyword (hasNoKeyword_applyPolicy hplain)]
  unfold operationOf
  simp only [hpaths, hitem', hoperation', Option.bind_eq_bind, Option.bind_some]

/-- The served document asks of an operation the security of its policy. -/
theorem operationSecurity_finalize (h : RoutedDocument document)
    (hpath : (sourcePaths document).lookup path = some (.object methods))
    (hoperation : methods.lookup methodName = some (.object operation))
    (hmethod : openapiMethod methodName = some method)
    (hpolicy : classifyRuntimeRoute method path = some policy) :
    operationSecurity (finalizeDocument document) (publishedPath path) methodName =
      some (policySecurity policy) := by
  obtain ⟨operation', -, hserved⟩ :=
    operationOf_finalize h hpath hoperation hmethod hpolicy
  have hown : fieldOf (.object (normalizeFields (applyPolicy policy operation'))) "security" =
      if policy = .protectedRoute then none else some (policySecurity policy) := by
    show (normalizeFields (applyPolicy policy operation')).lookup "security" = _
    rw [lookup_normalizeFields, lookup_applyPolicy]
    split
    · rfl
    · rw [Option.map_some, normalize_of_plain plain_policySecurity]
  have hdocument : fieldOf (finalizeDocument document) "security" = some documentSecurity := by
    rw [finalizeDocument_eq h.noKeyword]
    show (normalizeFields (editedDocument document)).lookup "security" = _
    rw [lookup_normalizeFields, editedDocument, Json.lookup_insert, if_neg (by decide),
      titledDocument, Json.lookup_insert, if_neg (by decide), Json.lookup_insert, if_pos rfl,
      Option.map_some, normalize_of_plain (by decide)]
  unfold operationSecurity
  simp only [hserved, hown, hdocument, Option.bind_eq_bind, Option.bind_some]
  cases policy <;> rfl

/-- The served document asks of every operation the security that the auth policy gives to the
requests of its method that the router sends to its route; it lets an operation choose between
a bearer token and Basic credentials where, and only where, the middleware takes the Basic
credentials of such a request for a session of their own. -/
theorem documented_security_is_enforced {router : String → Option String}
    (hrouter : IsRouter router) (h : RoutedDocument document)
    (hpath : (sourcePaths document).lookup path = some (.object methods))
    (hoperation : methods.lookup methodName = some (.object operation)) {request : Request}
    (hmethod : openapiMethod methodName = some request.method)
    (hrouted : router request.path = some path) :
    ∃ policy, classifyRuntimeRoute request.method request.path = some policy ∧
      operationSecurity (finalizeDocument document) (publishedPath path) methodName =
        some (policySecurity policy) ∧
      (usesRequestScopedBasicAuth request = true ↔ (isBasicAuth request).isSome = true ∧
        operationSecurity (finalizeDocument document) (publishedPath path) methodName =
          some documentSecurity) := by
  have hroute : IsRoute path := h.routes _ (mem_of_lookup hpath)
  obtain ⟨policy, hpolicy⟩ := hroute.classified request.method
  have hrequest : classifyRuntimeRoute request.method request.path = some policy := by
    have hprefers : request.path ≠ path → request.path ∉ fixedPaths := fun hne hfixed =>
      hne (hrouter.prefers _ hfixed path hrouted).symm
    rw [classify_routed hroute (hrouter.sends _ _ hrouted) hprefers, hpolicy]
  have hdocumented := operationSecurity_finalize h hpath hoperation hmethod hpolicy
  refine ⟨policy, hrequest, hdocumented, ?_⟩
  rw [hdocumented, usesRequestScopedBasicAuth, hrequest, Bool.and_eq_true]
  refine and_congr_right fun _ => ?_
  cases policy <;> simp [policySecurity, documentSecurity, scheme]

/-- The operation that reads one task. -/
def taskOperation : List (String × Json) :=
  [("operationId", .string "getTask"), ("responses", .object [("200", .object [])])]

/-- The methods of the path of a task. -/
def taskMethods : List (String × Json) := [("get", .object taskOperation)]

/-- A document with a login, a task and a probe. -/
def taskDocument : List (String × Json) :=
  [("openapi", .string "3.1.0"),
    ("paths", .object [
      ("/api/v1/session", .object [("post", .object [("operationId", .string "createSession")])]),
      ("/api/v1/tasks/{id}", .object taskMethods),
      ("/health", .object [("get", .object [("operationId", .string "health")])])])]

/-- The routes of this document are those of the gateway. -/
theorem taskDocument_routed : RoutedDocument taskDocument where
  noKeyword := by decide
  distinct := by decide
  routes := by
    have hsession : IsRoute "/api/v1/session" := .api "session" (by decide)
    have htask : IsRoute "/api/v1/tasks/{id}" := .api "tasks/{id}" (by decide)
    intro e he
    rcases List.mem_cons.mp he with rfl | he
    · exact hsession
    rcases List.mem_cons.mp he with rfl | he
    · exact htask
    rcases List.mem_cons.mp he with rfl | he
    · exact .health
    cases he
  items := by
    intro e he methods heq
    have hall : ∀ e ∈ sourcePaths taskDocument, ∃ name operation,
        e.2 = .object [(name, .object operation)] ∧
          hasNoKeyword [(name, Json.object operation)] = true ∧ hasNoKeyword operation = true := by
      intro e he
      rcases List.mem_cons.mp he with rfl | he
      · exact ⟨"post", _, rfl, by decide, by decide⟩
      rcases List.mem_cons.mp he with rfl | he
      · exact ⟨"get", _, rfl, by decide, by decide⟩
      rcases List.mem_cons.mp he with rfl | he
      · exact ⟨"get", _, rfl, by decide, by decide⟩
      cases he
    obtain ⟨name, operation, hitem, hmethods, hoperation⟩ := hall e he
    rw [hitem] at heq
    obtain rfl := Json.object.inj heq
    refine ⟨hmethods, fun m hm fields hfields => ?_⟩
    rcases List.mem_cons.mp hm with rfl | hm
    · obtain rfl := Json.object.inj hfields
      exact hoperation
    · cases hm

/-- A request for one task, with Basic credentials. -/
def oneTask : Request where
  method := .get
  path := "/api/v1/tasks/7"
  authorization := some "Basic YTpi"
  forwardedFor := none
  peer := none

/-- The router of the document, for that request and for the paths without parameters. -/
def taskRouter (path : String) : Option String :=
  if path = "/api/v1/tasks/7" then some "/api/v1/tasks/{id}"
  else if path ∈ fixedPaths then some path
  else none

/-- The router of its three routes sends each request to the one that it matches. -/
theorem isRouter_taskRouter : IsRouter taskRouter where
  sends request route hrouted := by
    unfold taskRouter at hrouted
    split_ifs at hrouted with htask hfixed
    · obtain rfl := Option.some.inj hrouted
      rw [htask]
      exact @MatchesRoute.literals "/api/v1/tasks/".toList _ _ (by decide)
        (.parameter ['i', 'd'] ['7'] (by decide) (by decide) (by decide) .done)
    · obtain rfl := Option.some.inj hrouted
      have hliteral : ∀ fixed ∈ fixedPaths, '{' ∉ fixed.toList := by decide
      have hself := MatchesRoute.literals (hliteral request hfixed) .done
      rwa [List.append_nil] at hself
  prefers request hfixed route hrouted := by
    have hne : request ≠ "/api/v1/tasks/7" := by
      rintro rfl
      exact absurd hfixed (by decide)
    rw [taskRouter, if_neg hne, if_pos hfixed] at hrouted
    exact (Option.some.inj hrouted).symm

/-- A request for one task needs what its operation documents. -/
theorem documented_security_is_enforced_task :
    ∃ policy, classifyRuntimeRoute oneTask.method oneTask.path = some policy ∧
      operationSecurity (finalizeDocument taskDocument) (publishedPath "/api/v1/tasks/{id}") "get" =
        some (policySecurity policy) ∧
      (usesRequestScopedBasicAuth oneTask = true ↔ (isBasicAuth oneTask).isSome = true ∧
        operationSecurity (finalizeDocument taskDocument) (publishedPath "/api/v1/tasks/{id}")
          "get" = some documentSecurity) := by
  have hpath : (sourcePaths taskDocument).lookup "/api/v1/tasks/{id}" =
      some (.object taskMethods) := rfl
  have hrouted : taskRouter oneTask.path = some "/api/v1/tasks/{id}" := by decide
  have hoperation : taskMethods.lookup "get" =
      some (.object taskOperation) := rfl
  exact documented_security_is_enforced isRouter_taskRouter taskDocument_routed hpath hoperation
    rfl hrouted

/-! ## The documented failures of gvmd -/

/-- The document lists a failing gvmd for the protected routes, for the login, and for two of the
public paths: the readiness and the version. -/
def ListsBackendFailure (policy : RestRouteAuthPolicy) (path : String) : Prop :=
  policy = .protectedRoute ∨ policy = .sessionCreate ∨ path = "/ready" ∨ path = "/api/v1/version"

instance : Decidable (ListsBackendFailure policy path) := inferInstanceAs (Decidable (_ ∨ _))

/-- The paths that may answer for an unavailable backend, by policy and route. -/
theorem operationCanProxyToBackend_iff (hroute : IsRoute path)
    (hmethod : openapiMethod methodName = some method)
    (hpolicy : classifyRuntimeRoute method path = some policy) :
    operationCanProxyToBackend (publishedPath path) methodName = true ↔
      ListsBackendFailure policy path := by
  unfold operationCanProxyToBackend
  rw [hmethod]
  dsimp only
  rw [runtimePath_publishedPath hroute, hpolicy]
  have hown : path = "/ready" ∨ path = "/api/v1/version" → policy = .publicRoute := by
    rintro (rfl | rfl) <;> exact (Option.some.inj hpolicy).symm
  cases policy with
  | protectedRoute => simp [ListsBackendFailure]
  | publicRoute => simp [ListsBackendFailure]
  | sessionCreate => simp [ListsBackendFailure]
  | sessionCurrent =>
    have hnot : ¬ (path = "/ready" ∨ path = "/api/v1/version") := fun h => by cases hown h
    simpa [ListsBackendFailure] using hnot

/-- A policy only writes the security of an operation. -/
theorem lookup_applyPolicy_of_ne {k : String} (hk : k ≠ "security") :
    (applyPolicy policy operation).lookup k = operation.lookup k := by
  cases policy with
  | protectedRoute => rw [applyPolicy, Json.lookup_remove, if_neg hk]
  | publicRoute => rw [applyPolicy, Json.lookup_insert, if_neg hk]
  | sessionCreate => rw [applyPolicy, Json.lookup_insert, if_neg hk]
  | sessionCurrent => rw [applyPolicy, Json.lookup_insert, if_neg hk]

/-- The responses after the pass that adds the `502`. -/
theorem responses_documentBackendUnavailable {responses operation' : List (String × Json)}
    (hresponses : operation.lookup "responses" = some (.object responses))
    (hcodes : hasNoKeyword responses = true)
    (h : documentBackendUnavailable path methodName (.object operation) = .object operation') :
    ∃ responses', operation'.lookup "responses" = some (.object responses') ∧
      hasNoKeyword responses' = true ∧
      ∀ code, responses'.lookup code = (responses.lookup code).or
        (if code = "502" ∧ operationCanProxyToBackend path methodName = true
          then some badGatewayResponse else none) := by
  unfold documentBackendUnavailable at h
  split at h
  · next hproxy =>
    have hfields := Json.object.inj h
    rw [hresponses] at hfields
    dsimp only at hfields
    subst hfields
    rw [Json.lookup_insert, if_pos rfl]
    split
    -- a response that the handler documents itself stays
    · next hthere =>
      refine ⟨responses, rfl, hcodes, fun code => ?_⟩
      obtain ⟨response, hresponse⟩ := Option.isSome_iff_exists.mp hthere
      by_cases hcode : code = "502"
      · rw [hcode, hresponse]
        rfl
      · rw [if_neg fun hboth => hcode hboth.1, Option.or_none]
    · next hmissing =>
      refine ⟨_, rfl, hasNoKeyword_insert hcodes (by decide), fun code => ?_⟩
      have hnone : responses.lookup "502" = none :=
        Option.not_isSome_iff_eq_none.mp hmissing
      rw [Json.lookup_insert]
      by_cases hcode : code = "502"
      · rw [if_pos hcode, if_pos ⟨hcode, hproxy⟩, hcode, hnone]
        rfl
      · rw [if_neg hcode, if_neg fun hboth => hcode hboth.1, Option.or_none]
  · next hnot =>
    obtain rfl := Json.object.inj h
    refine ⟨responses, hresponses, hcodes, fun code => ?_⟩
    rw [if_neg fun hboth => hnot hboth.2, Option.or_none]

/-- The served document has the responses that the generated one gives to an operation, with
their schemas normalized, and a response for a failing gvmd, if there was none, exactly for the
protected routes, the login, the readiness and the version. -/
theorem documented_backend_failures (h : RoutedDocument document)
    (hpath : (sourcePaths document).lookup path = some (.object methods))
    (hoperation : methods.lookup methodName = some (.object operation))
    (hmethod : openapiMethod methodName = some method) {responses : List (String × Json)}
    (hresponses : operation.lookup "responses" = some (.object responses))
    (hcodes : hasNoKeyword responses = true) :
    ∃ policy served, classifyRuntimeRoute method path = some policy ∧
      (operationOf (finalizeDocument document) (publishedPath path) methodName).bind
        (fieldOf · "responses") = some (.object served) ∧
      ∀ code, served.lookup code = ((responses.lookup code).map normalizeNullableSchema).or
        (if code = "502" ∧ ListsBackendFailure policy path then
          some badGatewayResponse else none) := by
  have hroute : IsRoute path := h.routes _ (mem_of_lookup hpath)
  obtain ⟨policy, hpolicy⟩ := hroute.classified method
  obtain ⟨operation', hbackend, hserved⟩ :=
    operationOf_finalize h hpath hoperation hmethod hpolicy
  obtain ⟨responses', hlookup, hplain, hall⟩ :=
    responses_documentBackendUnavailable hresponses hcodes hbackend
  refine ⟨policy, normalizeFields responses', hpolicy, ?_, fun code => ?_⟩
  · rw [hserved]
    show (normalizeFields (applyPolicy policy operation')).lookup "responses" = _
    rw [lookup_normalizeFields, lookup_applyPolicy_of_ne (by decide), hlookup, Option.map_some,
      normalize_of_hasNoKeyword hplain]
  · have hlists := operationCanProxyToBackend_iff hroute hmethod hpolicy
    -- the added response has nothing to normalize
    have hplainResponse : normalizeNullableSchema badGatewayResponse = badGatewayResponse :=
      normalize_of_plain (by decide)
    rw [lookup_normalizeFields, hall]
    cases responses.lookup code with
    | some response => rfl
    | none =>
      by_cases hadded : code = "502" ∧ ListsBackendFailure policy path
      · rw [if_pos hadded, if_pos ⟨hadded.1, hlists.mpr hadded.2⟩]
        show some (normalizeNullableSchema badGatewayResponse) = some badGatewayResponse
        rw [hplainResponse]
      · rw [if_neg hadded, if_neg fun hproxy => hadded ⟨hproxy.1, hlists.mp hproxy.2⟩]
        rfl

/-- The task's `200` stays, and gvmd's `502` is added. -/
theorem documented_backend_failures_task :
    ∃ policy served, classifyRuntimeRoute .get "/api/v1/tasks/{id}" = some policy ∧
      (operationOf (finalizeDocument taskDocument) (publishedPath "/api/v1/tasks/{id}") "get").bind
        (fieldOf · "responses") = some (.object served) ∧
      ∀ code, served.lookup code =
        (([("200", Json.object [])].lookup code).map normalizeNullableSchema).or
          (if code = "502" ∧ ListsBackendFailure policy "/api/v1/tasks/{id}" then
            some badGatewayResponse else none) := by
  have hpath : (sourcePaths taskDocument).lookup "/api/v1/tasks/{id}" =
      some (.object taskMethods) := rfl
  have hoperation : taskMethods.lookup "get" = some (.object taskOperation) := rfl
  exact documented_backend_failures taskDocument_routed hpath hoperation rfl rfl (by decide)

end GvmGateway.Rest

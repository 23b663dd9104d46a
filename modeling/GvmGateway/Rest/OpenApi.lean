import GvmGateway.Library.JsonSchema
import GvmGateway.Rest.AuthPolicy

/-!
# The served OpenAPI document

`crates/gvm-gateway-rest/src/openapi.rs`: what the gateway makes of the generated document before
it serves it. Nullable schemas are written without `null`, every path becomes relative to
`/api/v1`, every operation gets the security of its route, and operations that reach gvmd get
their `502` response. The fields of an object are listed in the order of the source's map.
-/

namespace GvmGateway.Rest

open Json (keys insert remove)
open JsonSchema (union)

/-! ## Nullable schemas -/

/-- `is_null_schema`. -/
def isNullSchema : Json → Bool
  | .object fields =>
    match fields.lookup "type" with
    | some (.string type) => type = "null"
    | _ => false
  | _ => false

/-- The entry `"null"` of a list of types. -/
def isNullType : Json → Bool
  | .string type => type = "null"
  | _ => false

/-- An alternative that is left alone takes the place of the object, and keeps the object's other
fields that it does not have itself. -/
def collapseNullableCombinator (object : List (String × Json)) (key : String) : Option Json :=
  match object.lookup key with
  | some (.array options) =>
    let filtered := options.filter fun option => !isNullSchema option
    if filtered.length = options.length then none
    else
      match filtered with
      | [.object remaining] => some (.object (union remaining (remove object key)))
      | [remaining] => some remaining
      | filtered => some (.object (insert object key (.array filtered)))
  | _ => none

/-- The part of `normalize_nullable_schema` about `type`. -/
def dropNullTypes (object : List (String × Json)) : List (String × Json) :=
  match object.lookup "type" with
  | some (.array types) =>
    let filtered := types.filter fun type => !isNullType type
    match filtered with
    | [type] => insert object "type" type
    | filtered =>
      if filtered.length ≠ types.length then insert object "type" (.array filtered) else object
  | _ => object

/-- The first of the two combinators that collapses takes the place of the object. -/
def collapseNullable (object : List (String × Json)) : Json :=
  ((collapseNullableCombinator object "anyOf").or
    (collapseNullableCombinator object "oneOf")).getD (.object object)

mutual

/-- `normalize_nullable_schema`. -/
def normalizeNullableSchema : Json → Json
  | .object fields => collapseNullable (dropNullTypes (normalizeFields fields))
  | .array items => .array (normalizeItems items)
  | other => other

/-- Every item of an array is normalized. -/
def normalizeItems : List Json → List Json
  | [] => []
  | v :: items => normalizeNullableSchema v :: normalizeItems items

/-- Every field of an object is normalized. -/
def normalizeFields : List (String × Json) → List (String × Json)
  | [] => []
  | (k, v) :: fields => (k, normalizeNullableSchema v) :: normalizeFields fields

end

/-! ## Paths -/

/-- Maps a served OpenAPI path back to the runtime path used by the router. -/
def runtimePathFromOpenapiPath (path : String) : String :=
  if path = "/health" ∨ path = "/ready" then path
  else if path = "/version" then "/api/v1/version"
  else if path = "/openapi.json" then "/api/v1/openapi.json"
  else "/api/v1" ++ path

/-- The path of an operation below the base path of the document. -/
def publishedPath (sourcePath : String) : String :=
  match stripPrefix sourcePath "/api/v1" with
  | none => sourcePath
  | some suffix => if suffix = "" then "/" else suffix

/-- A path that is published twice has the item of the last one. -/
def normalizePaths (sourcePaths : List (String × Json)) : List (String × Json) :=
  sourcePaths.foldl (fun paths e => insert paths (publishedPath e.1) e.2) []

/-- The servers of a probe, which are not below the base path. -/
def probeServers : Json :=
  .array [.object [("url", .string "/"),
    ("description", .string "Root path for unversioned liveness and readiness probes")]]

/-- `add_probe_server_overrides`. -/
def addProbeServerOverrides (paths : List (String × Json)) : List (String × Json) :=
  ["/health", "/ready"].foldl (fun paths path =>
    match paths.lookup path with
    | some (.object item) => insert paths path (.object (insert item "servers" probeServers))
    | _ => paths) paths

/-- `openapi_method`: the methods that a path item may have. -/
def openapiMethod : String → Option Method
  | "get" => some .get
  | "post" => some .post
  | "put" => some .put
  | "delete" => some .delete
  | "patch" => some .patch
  | "options" => some .options
  | "head" => some .head
  | _ => none

/-- An edit of every operation of a path item. -/
def editMethods (edit : String → String → Json → Json) (path : String) (item : Json) : Json :=
  match item with
  | .object methods => .object (methods.map fun m : String × Json => (m.1, edit path m.1 m.2))
  | item => item

/-- The two passes over the operations: `edit` gets the path, the method and the operation. -/
def mapOperations (edit : String → String → Json → Json) (paths : List (String × Json)) :
    List (String × Json) :=
  paths.map fun e => (e.1, editMethods edit e.1 e.2)

/-! ## The `502` responses -/

/-- `operation_can_proxy_to_backend`. -/
def operationCanProxyToBackend (path methodName : String) : Bool :=
  match openapiMethod methodName with
  | none => false
  | some method =>
    let runtimePath := runtimePathFromOpenapiPath path
    match classifyRuntimeRoute method runtimePath with
    | some .protectedRoute | some .sessionCreate => true
    -- two public routes ask gvmd themselves
    | some .publicRoute => runtimePath = "/ready" || runtimePath = "/api/v1/version"
    | some .sessionCurrent | none => false

/-- `ProblemDetailDoc::example`. -/
def problemDetailExample : Json :=
  .object [("type", .string "https://gvm-gateway.greenbone.net/errors/bad-request"),
    ("code", .string "bad_request"),
    ("title", .string "Bad Request"),
    ("status", .number 400),
    ("detail", .string "request validation failed"),
    ("instance", .string "/api/v1/targets")]

/-- The response that documents an unavailable backend. -/
def badGatewayResponse : Json :=
  .object [("description", .string "Backend service unreachable or connection failed"),
    ("content", .object [("application/problem+json", .object [
      ("schema", .object [("$ref", .string "#/components/schemas/ProblemDetail")]),
      ("example", problemDetailExample)])])]

/-- `operation["responses"]` is null from here on where it was missing. -/
def documentBackendUnavailable (path methodName : String) (operation : Json) : Json :=
  if operationCanProxyToBackend path methodName then
    match operation with
    | .object fields =>
      .object (insert fields "responses"
        (match fields.lookup "responses" with
        | some (.object responses) =>
          if (responses.lookup "502").isSome then .object responses
          else .object (insert responses "502" badGatewayResponse)
        | some responses => responses
        | none => .null))
    | .null => .object [("responses", .null)]
    -- the source panics on any other value; an operation is an object
    | operation => operation
  else operation

/-! ## Security -/

/-- A security requirement of one scheme, without scopes. -/
def scheme (name : String) : Json := .object [(name, .array [])]

/-- The `security` of an operation under a policy; a protected one inherits the document's. -/
def applyPolicy (policy : RestRouteAuthPolicy) (operation : List (String × Json)) :
    List (String × Json) :=
  match policy with
  | .protectedRoute => remove operation "security"
  | .publicRoute => insert operation "security" (.array [])
  | .sessionCreate => insert operation "security" (.array [scheme "basicAuth"])
  | .sessionCurrent => insert operation "security" (.array [scheme "bearerAuth"])

/-- The `security` of one operation, by the policy of its route. -/
def applyRouteAuth (openapiPath methodName : String) (operation : Json) : Json :=
  match operation with
  | .object fields =>
    match openapiMethod methodName with
    | none => operation
    | some method =>
      match classifyRuntimeRoute method (runtimePathFromOpenapiPath openapiPath) with
      | none => operation
      | some policy => .object (applyPolicy policy fields)
  | operation => operation

/-! ## The document -/

/-- The tags of the document, with their descriptions. -/
def openapiTags : List (String × String) :=
  [("Sessions", "Session lifecycle"),
   ("Targets", "Scan target management"),
   ("Agents", "Current GVMD agent management"),
   ("Agent Groups", "Current GVMD agent-group management"),
   ("Assets", "Generic current GVMD asset management"),
   ("Configs", "Generic current GVMD config management"),
   ("OCI Image Targets", "OCI image target management"),
   ("Web Application Targets", "Web application target management"),
   ("Alerts", "Alert management"),
   ("Schedules", "Schedule management"),
   ("Credentials", "Credential management"),
   ("Port Lists", "Port list management"),
   ("Feeds", "Feed status"),
   ("Hosts", "Discovered host inventory"),
   ("TLS Certificates", "TLS certificate assets"),
   ("Report Formats", "Report export format discovery"),
   ("Filters", "Saved filter discovery"),
   ("Tags", "Tag discovery"),
   ("Tickets", "Ticket discovery"),
   ("Notes", "Note discovery"),
   ("Overrides", "Override discovery"),
   ("NVTs", "NVT catalog discovery"),
   ("Vulnerabilities", "SecInfo vulnerability discovery"),
   ("CVEs", "SecInfo CVE discovery"),
   ("CPEs", "SecInfo CPE discovery"),
   ("CERT-Bund Advisories", "SecInfo CERT-Bund advisory discovery"),
   ("DFN-CERT Advisories", "SecInfo DFN-CERT advisory discovery"),
   ("NVT Families", "NVT family discovery"),
   ("Users", "User management"),
   ("Groups", "Group management"),
   ("Roles", "Role management"),
   ("Permissions", "Permission management"),
   ("User Settings", "Current-user settings"),
   ("Jobs", "Asynchronous job management"),
   ("Tasks", "Scan task management"),
   ("Audits", "Compliance audit management"),
   ("Reports", "Scan report management"),
   ("Report Exports", "Asynchronous report artifact exports"),
   ("Results", "Scan result management"),
   ("Policies", "Compliance policy management"),
   ("Scan Configs", "Scan configuration management"),
   ("Scanners", "Scanner information"),
   ("Operating Systems", "Operating-system asset management"),
   ("System", "System and health endpoints")]

/-- The tags as they are published. -/
def openapiTagsValue : Json :=
  .array (openapiTags.map fun tag =>
    .object [("name", .string tag.1), ("description", .string tag.2)])

/-- The server of the document. -/
def baseServers : Json :=
  .array [.object [("url", .string "/api/v1"),
    ("description", .string "Base path for versioned API endpoints")]]

/-- What every operation needs that does not say otherwise. -/
def documentSecurity : Json := .array [scheme "bearerAuth", scheme "basicAuth"]

/-- The operation that serves the document itself. -/
def openApiDocumentItem : Json :=
  .object [("get", .object [
    ("operationId", .string "getOpenApiDocument"),
    ("tags", .array [.string "System"]),
    ("summary", .string "Get generated OpenAPI document"),
    ("description", .string ("Returns the generated OpenAPI document for the implemented REST " ++
      "surface.")),
    ("security", .array []),
    ("responses", .object [("200", .object [
      ("description", .string "Generated OpenAPI document"),
      ("content", .object [("application/json", .object [
        ("schema", .object [("type", .string "object")])])])])])])]

/-- The paths of a generated document. -/
def sourcePaths (document : List (String × Json)) : List (String × Json) :=
  match document.lookup "paths" with
  | some (.object paths) => paths
  | _ => []

/-- The paths of the served document, before its schemas are normalized. -/
def servedPaths (document : List (String × Json)) : List (String × Json) :=
  let paths := addProbeServerOverrides (normalizePaths (sourcePaths document))
  let paths := insert paths "/openapi.json" openApiDocumentItem
  mapOperations applyRouteAuth (mapOperations documentBackendUnavailable paths)

/-- Finalize the generated OpenAPI document so its served contract shape matches the curated
repository spec for the implemented REST surface. -/
def finalizeDocument (document : List (String × Json)) : Json :=
  let document := insert document "servers" baseServers
  let document := insert document "security" documentSecurity
  let document := insert document "tags" openapiTagsValue
  normalizeNullableSchema (.object (insert document "paths" (.object (servedPaths document))))

end GvmGateway.Rest

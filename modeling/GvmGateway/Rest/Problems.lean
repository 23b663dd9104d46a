import GvmGateway.Domain.Error

/-!
# Problem details

The responses that the REST adapter makes of its errors (RFC 9457).
-/

namespace GvmGateway.Rest

/-! ## Headers -/

/-- The fields of an `http::HeaderMap`, whose names are in lower case. -/
structure HeaderMap where
  fields : List (String × String)
deriving DecidableEq, Repr

namespace HeaderMap

/-- No header fields. -/
def empty : HeaderMap := ⟨[]⟩

/-- `HeaderMap::insert`: the value replaces all those that the name has. -/
def insert (headers : HeaderMap) (name value : String) : HeaderMap :=
  ⟨headers.fields.filter (fun field => field.1 ≠ name) ++ [(name, value)]⟩

/-- `HeaderMap::get_all`. -/
def values (headers : HeaderMap) (name : String) : List String :=
  (headers.fields.filter fun field => field.1 = name).map Prod.snd

/-- Without fields no name has a value. -/
@[simp] theorem values_empty (name : String) : empty.values name = [] := rfl

/-- A field that is set replaces those of its name. -/
theorem values_insert (headers : HeaderMap) (name value other : String) :
    (headers.insert name value).values other =
      if other = name then [value] else headers.values other := by
  unfold insert values
  rw [List.filter_append, List.filter_filter, List.map_append]
  by_cases h : other = name
  · subst h
    have hgone : (headers.fields.filter fun field =>
        decide (field.1 = other) && decide (field.1 ≠ other)) = [] := by
      apply List.filter_eq_nil_iff.mpr
      intro field _
      by_cases heq : field.1 = other <;> simp [heq]
    rw [hgone]
    simp
  · have hsame : (headers.fields.filter fun field =>
        decide (field.1 = other) && decide (field.1 ≠ name)) =
          headers.fields.filter fun field => decide (field.1 = other) := by
      apply List.filter_congr
      intro field _
      by_cases heq : field.1 = other <;> simp [heq, h]
    rw [hsame, if_neg h]
    simp [Ne.symm h]

@[simp] theorem values_insert_self (headers : HeaderMap) (name value : String) :
    (headers.insert name value).values name = [value] := by
  rw [values_insert, if_pos rfl]

theorem values_insert_of_ne (headers : HeaderMap) {name other : String} (value : String)
    (h : other ≠ name) : (headers.insert name value).values other = headers.values other := by
  rw [values_insert, if_neg h]

/-- Insertions one after another. -/
def insertAll (headers : HeaderMap) (fields : List (String × String)) : HeaderMap :=
  fields.foldl (fun headers field => headers.insert field.1 field.2) headers

/-- Setting no fields changes nothing. -/
@[simp] theorem insertAll_nil (headers : HeaderMap) : headers.insertAll [] = headers := rfl

@[simp] theorem insertAll_cons (headers : HeaderMap) (field : String × String)
    (fields : List (String × String)) :
    headers.insertAll (field :: fields) = (headers.insert field.1 field.2).insertAll fields := rfl

/-- Fields of other names leave a name alone. -/
theorem values_insertAll_of_notMem (headers : HeaderMap) {fields : List (String × String)}
    {name : String} (h : name ∉ fields.map Prod.fst) :
    (headers.insertAll fields).values name = headers.values name := by
  induction fields generalizing headers with
  | nil => rfl
  | cons field fields ih =>
    rw [List.map_cons, List.mem_cons, not_or] at h
    rw [insertAll_cons, ih _ h.2, values_insert_of_ne _ _ h.1]

theorem values_insertAll_of_mem (headers : HeaderMap) {fields : List (String × String)}
    {name value : String} (hnodup : (fields.map Prod.fst).Nodup) (h : (name, value) ∈ fields) :
    (headers.insertAll fields).values name = [value] := by
  induction fields generalizing headers with
  | nil => exact absurd h List.not_mem_nil
  | cons field fields ih =>
    rw [List.map_cons, List.nodup_cons] at hnodup
    rw [insertAll_cons]
    rcases List.mem_cons.mp h with heq | htail
    · subst heq
      rw [values_insertAll_of_notMem _ hnodup.1, values_insert_self]
    · exact ih _ hnodup.2 htail

end HeaderMap

/-! ## `error.rs` -/

/-- `PROBLEM_TYPE_BASE_URL`. -/
def problemTypeBaseUrl : String := "https://gvm-gateway.greenbone.net/errors"

/-- The body of an error response. -/
structure ProblemDetails where
  type : String
  code : String
  title : String
  status : ℕ
  detail : Option String
  instance_ : Option String
deriving DecidableEq, Repr

/-- A response; `problem` is its body when that is a problem, and any other body is left out. -/
structure Response where
  status : ℕ
  headers : HeaderMap
  problem : Option ProblemDetails
deriving DecidableEq, Repr

/-- An error of the REST layer, with its status. -/
structure RestError where
  status : ℕ
  problem : ProblemDetails
deriving DecidableEq, Repr

/-- `status_for_gateway_error`. -/
def statusForGatewayError : GatewayError → ℕ
  | .backendUnavailable _ => 502
  | .notImplemented _ => 501
  | .notFound _ => 404
  | .invalidInput _ => 400
  | .unauthorized _ | .sessionExpired _ | .sessionInvalidated _ => 401
  | .forbidden _ => 403
  | .conflict _ => 409
  | .tooManyRequests _ => 429
  | .internal _ => 500
  | .gatewayTimeout _ => 504

/-- The detail that a client reads; the hidden ones go to the log. -/
def publicDetailForGatewayError : GatewayError → String
  | .backendUnavailable _ => "The backend service is unavailable."
  | .internal _ => "An internal server error occurred."
  | error => error.detail

/-- `title_for_code`. -/
def titleForCode : GatewayErrorCode → String
  | .backendUnavailable => "Bad Gateway"
  | .notImplemented => "Not Implemented"
  | .notFound => "Not Found"
  | .badRequest => "Bad Request"
  | .unauthorized => "Unauthorized"
  | .sessionExpired => "Session Expired"
  | .sessionInvalidated => "Session Invalidated"
  | .forbidden => "Forbidden"
  | .conflict => "Conflict"
  | .tooManyRequests => "Too Many Requests"
  | .internalServerError => "Internal Server Error"
  | .gatewayTimeout => "Gateway Timeout"

namespace RestError

/-- `RestError::from_custom_parts`. -/
def fromCustomParts (slug code title : String) (status : ℕ) (detail instance_ : Option String) :
    RestError where
  status := status
  problem := ⟨problemTypeBaseUrl ++ "/" ++ slug, code, title, status, detail, instance_⟩

/-- `RestError::from_parts`. -/
def fromParts (code : GatewayErrorCode) (title : String) (status : ℕ)
    (detail instance_ : Option String) : RestError :=
  fromCustomParts code.problemSlug code.asStr title status detail instance_

/-- `RestError::from_gateway_error`. -/
def fromGatewayError (error : GatewayError) (instance_ : String) : RestError :=
  fromParts error.code (titleForCode error.code) (statusForGatewayError error)
    (some (publicDetailForGatewayError error)) (some instance_)

/-- `RestError::service_unavailable`. -/
def serviceUnavailable (detail instance_ : String) : RestError :=
  fromCustomParts "service-unavailable" "service_unavailable" "Service Unavailable" 503
    (some detail) (some instance_)

/-- `RestError::into_response`. -/
def intoResponse (error : RestError) : Response where
  status := error.status
  headers := HeaderMap.empty.insert "content-type" "application/problem+json"
  problem := some error.problem

end RestError

end GvmGateway.Rest

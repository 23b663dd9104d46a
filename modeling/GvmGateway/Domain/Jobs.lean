import GvmGateway.Domain.Error

/-!
# Domain types for asynchronous jobs
-/

namespace GvmGateway

/-- Report export request backed by a gvmd report format. -/
structure GvmdReportFormatExportRequest where
  reportFormatId : String
  reportConfigId : Option String
  filter : Option String
  filterId : Option String
deriving DecidableEq, Repr

/-- Report export request for the gateway JSON format. -/
structure JsonReportExportRequest where
  filter : Option String
  filterId : Option String
deriving DecidableEq, Repr

/-- Request to create a report export job. -/
inductive CreateReportExportRequest where
  | gvmdReportFormat (request : GvmdReportFormatExportRequest)
  | json (request : JsonReportExportRequest)
deriving DecidableEq, Repr

/-- Asynchronous job status. -/
inductive JobStatus where
  | queued
  | running
  | succeeded
  | failed
  | cancelling
  | cancelled
  | expired
deriving DecidableEq, Repr

/-- `JobStatus::is_terminal`. -/
def JobStatus.isTerminal : JobStatus → Bool
  | .succeeded | .failed | .cancelled | .expired => true
  | .queued | .running | .cancelling => false

/-- How far a job has come. -/
structure JobProgress where
  percent : Option ℕ
  message : Option String
deriving DecidableEq, Repr

/-- Result metadata of a succeeded job. -/
structure JobResult where
  contentType : Option String
  filename : Option String
  size : Option ℕ
  location : Option String
deriving DecidableEq, Repr

/-- Public problem shape stored on failed jobs. -/
structure JobProblem where
  type : String
  code : String
  title : String
  status : ℕ
  detail : Option String
deriving DecidableEq, Repr

/-- `status_for_code`. -/
def statusForCode : GatewayErrorCode → ℕ
  | .backendUnavailable => 502
  | .notImplemented => 501
  | .notFound => 404
  | .badRequest => 400
  | .unauthorized | .sessionExpired | .sessionInvalidated => 401
  | .forbidden => 403
  | .conflict => 409
  | .tooManyRequests => 429
  | .internalServerError => 500
  | .gatewayTimeout => 504

/-- `title_for_code`. -/
def titleForCode : GatewayErrorCode → String
  | .backendUnavailable => "Bad Gateway"
  | .notImplemented => "Not Implemented"
  | .notFound => "Not Found"
  | .badRequest => "Bad Request"
  | .unauthorized => "Unauthorized"
  | .sessionExpired => "Session Expired"
  | .sessionInvalidated => "Session Invalidated"
  | .forbidden => "Forbidden"
  | .conflict => "Conflict"
  | .tooManyRequests => "Too Many Requests"
  | .internalServerError => "Internal Server Error"
  | .gatewayTimeout => "Gateway Timeout"

/-- `JobProblem::from_gateway_error`. -/
def JobProblem.fromGatewayError (error : GatewayError) : JobProblem :=
  let code := error.code
  { type := "https://gvm-gateway.greenbone.net/errors/" ++ code.problemSlug
    code := code.asStr
    title := titleForCode code
    status := statusForCode code
    detail := some error.detail }

/-- `ReportExportFormat`. -/
inductive ReportExportFormat where
  | gvmdReportFormat
  | json
deriving DecidableEq, Repr

/-- A reference to a resource by its identifier. -/
structure ResourceRef where
  id : String
  name : Option String
deriving DecidableEq, Repr

/-- Public report export job representation. -/
structure ReportExportJob where
  id : String
  kind : String
  status : JobStatus
  progress : Option JobProgress
  createdAt : String
  startedAt : Option String
  completedAt : Option String
  expiresAt : Option String
  resultLocation : Option String
  error : Option JobProblem
  report : ResourceRef
  format : ReportExportFormat
  reportFormatId : Option String
  result : Option JobResult
deriving DecidableEq, Repr

/-- Completed job artifact. -/
structure JobArtifact where
  bytes : List UInt8
  contentType : String
  filename : String
deriving DecidableEq, Repr

/-- Outcome of a cancellation request. -/
inductive JobCancelOutcome where
  | cancellationRequested
  | alreadyTerminal
deriving DecidableEq, Repr

end GvmGateway

import GvmGateway.App.Gateway

/-!
# Commands and the audit log

Every command of a client runs inside `execute_with_resource`: an audit line, a touch of the
session, the operation, a second line. `Service` puts any number of such commands beside the
calls of `Gateway`, and keeps the audit log that all of them write. A step is again what a
call does under one lock, or between two awaits.
-/

namespace GvmGateway

open SessionTokenDigest

/-! ## The audit log -/

/-- The fields of `emit_audit_event`. The log prints the first bytes of the digest
(`safe_id`), and never the token. -/
structure AuditLine (Digest : Type) where
  event : String
  outcome : String
  username : String
  session : Digest
  resource : Option String := none
  action : Option String := none
  error : Option GatewayError := none
deriving DecidableEq, Repr

/-- The name that stands in a line about a session that the registry does not know. -/
def unknownUser : String := "unknown"

namespace AuditLine

variable {Digest : Type}

/-- The line that `disconnect_expired_sessions` writes, under the name it was given. -/
def cleanup (username : String) (session : Digest) : AuditLine Digest :=
  { event := "session.expired", outcome := "cleanup", username := username, session := session,
    action := some "expire" }

def sessionCreate (username : String) (session : Digest) (result : Except GatewayError Unit) :
    AuditLine Digest :=
  match result with
  | .ok () =>
    { event := "session.create", outcome := "success", username := username,
      session := session }
  | .error err =>
    { event := "session.create", outcome := "failure", username := username,
      session := session, error := some err }

def sessionDelete (username : String) (session : Digest) (result : Except GatewayError Unit) :
    AuditLine Digest :=
  match result with
  | .ok () =>
    { event := "session.delete", outcome := "success", username := username,
      session := session }
  | .error err =>
    { event := "session.delete", outcome := "failure", username := username,
      session := session, error := some err }

/-- The line of `touch_session_with_audit`. -/
def touchFailed (username : String) (session : Digest) (err : GatewayError) :
    AuditLine Digest :=
  let reason := match err with
    | .sessionExpired _ => "session.expired"
    | .sessionInvalidated _ => "session.invalidated"
    | _ => "session.lookup_failed"
  { event := reason, outcome := "failure", username := username, session := session,
    error := some err }

end AuditLine

/-! ## Commands -/

/-- What a command does once its session is touched. -/
inductive Operation where
  /-- A call of a backend port. -/
  | backend (resource action : String)
  | createReportExport (reportId : String) (request : CreateReportExportRequest)
  | getJob (jobId : String)
  | cancelJob (jobId : String)
  | downloadJobResult (jobId : String)
deriving DecidableEq, Repr

namespace Operation

/-- The resource of an operation in the audit log. -/
def resource : Operation → String
  | backend resource _ => resource
  | createReportExport _ _ => "report_export"
  | getJob _ => "job"
  | cancelJob _ => "job"
  | downloadJobResult _ => "job_result"

/-- The action of an operation in the audit log. -/
def action : Operation → String
  | backend _ action => action
  | createReportExport _ _ => "create"
  | getJob _ => "read"
  | cancelJob _ => "cancel"
  | downloadJobResult _ => "read"

/-- Whether the operation is a step on the job registry, and waits for nobody. -/
def isJob : Operation → Bool
  | getJob _ | cancelJob _ | downloadJobResult _ => true
  | backend _ _ | createReportExport _ _ => false

/-- The step of the gateway that touches the session: an export goes on from there by the
gateway's own steps. -/
def touch {Digest : Type} (id : ℕ) (token : String) : Operation → Gateway.Action Digest
  | createReportExport reportId request => .createReportExportJob id token reportId request
  | backend _ _ | getJob _ | cancelJob _ | downloadJobResult _ => .touch token

/-- The step on the job registry that an operation on a job is, made for `user`. -/
def jobStep {Digest : Type} (user : String) : Operation → Option (Gateway.Action Digest)
  | getJob jobId => some (.jobSnapshot user jobId)
  | cancelJob jobId => some (.cancelJobRecord user jobId)
  | downloadJobResult jobId => some (.jobArtifact user jobId)
  | backend _ _ | createReportExport _ _ => none

/-- The job that an operation is about. -/
def jobId : Operation → Option String
  | getJob jobId | cancelJob jobId | downloadJobResult jobId => some jobId
  | backend _ _ | createReportExport _ _ => none

/-- What an operation on a job answers; the other ones answer what the backend does. -/
def jobResult {Digest : Type} (g : Gateway Digest) (user : String) :
    Operation → Except GatewayError Unit
  | getJob jobId => (g.jobs.jobSnapshot g.now user jobId).1.map fun _ => ()
  | cancelJob jobId => (g.jobs.cancelJobRecord g.now g.now user jobId).1.map fun _ => ()
  | downloadJobResult jobId => (g.jobs.jobArtifact g.now user jobId).1.map fun _ => ()
  | backend _ _ | createReportExport _ _ => .ok ()

end Operation

/-- Where `execute_with_resource` stands. -/
inductive ExecuteStage where
  /-- The first line is written. -/
  | started
  /-- The touch failed; its line is about to be written. -/
  | refused (err : GatewayError)
  /-- The operation runs, in the session that the touch returned. -/
  | running (session : Session)
  | rejected (err : GatewayError)
  | returned (result : Except GatewayError Unit)
  /-- The request was dropped while it waited for the backend. -/
  | dropped
deriving DecidableEq, Repr

/-- A command under way. -/
structure ExecuteCall where
  token : String
  operation : Operation
  stage : ExecuteStage
deriving DecidableEq, Repr

def ExecuteCall.atStage (c : ExecuteCall) (stage : ExecuteStage) : ExecuteCall :=
  { c with stage := stage }

/-- The line that opens or closes a command. -/
def ExecuteCall.line {Digest : Type} [SessionTokenDigest Digest] (c : ExecuteCall)
    (outcome username : String) (error : Option GatewayError) : AuditLine Digest :=
  { event := "command.execution", outcome := outcome, username := username,
    session := fromToken c.token, resource := some c.operation.resource,
    action := some c.operation.action, error := error }

/-- The line that closes a command. -/
def ExecuteCall.closing {Digest : Type} [SessionTokenDigest Digest] (c : ExecuteCall)
    (username : String) (result : Except GatewayError Unit) : AuditLine Digest :=
  match result with
  | .ok () => c.line "success" username none
  | .error err => c.line "failure" username (some err)

/-- Which steps of the gateway are made by commands, and only by them. -/
def Gateway.Action.isCommand {Digest : Type} : Gateway.Action Digest → Bool
  | .touch _ | .createReportExportJob _ _ _ _ | .cancelJobRecord _ _ | .jobSnapshot _ _
  | .jobArtifact _ _ => true
  | _ => false

/-! ## The system -/

/-- The gateway, its commands and the log, the oldest line first. A line of a command stands
beside the command's number. `users` holds the name that each `create_session` was called
with, and `removed` the user of the session that a `delete_session` has removed. -/
structure Service (Digest : Type) where
  gateway : Gateway Digest
  users : AList fun _ : Digest => String
  removed : AList fun _ : ℕ => String
  calls : AList fun _ : ℕ => ExecuteCall
  audit : List (Option ℕ × AuditLine Digest)

namespace Service

variable {Digest : Type} [DecidableEq Digest] [SessionTokenDigest Digest]

/-- A service without users or commands. -/
def new (Digest : Type) (now idleTimeoutSecs : ℕ) (limits : SessionLimits) (policy : JobPolicy) :
    Service Digest :=
  { gateway := .new Digest now idleTimeoutSecs limits policy
    users := ∅
    removed := ∅
    calls := ∅
    audit := [] }

omit [DecidableEq Digest] [SessionTokenDigest Digest] in
def setGateway (s : Service Digest) (g : Gateway Digest) : Service Digest :=
  { s with gateway := g }

omit [DecidableEq Digest] [SessionTokenDigest Digest] in
def setCall (s : Service Digest) (id : ℕ) (c : ExecuteCall) : Service Digest :=
  { s with calls := s.calls.insert id c }

omit [DecidableEq Digest] [SessionTokenDigest Digest] in
/-- A command writes a line. -/
def write (s : Service Digest) (id : ℕ) (line : AuditLine Digest) : Service Digest :=
  { s with audit := s.audit ++ [(some id, line)] }

/-- `get_username_for_audit`. -/
def usernameForAudit (s : Service Digest) (token : String) : Option String :=
  (s.gateway.sessions.get token).map Session.user

omit [SessionTokenDigest Digest] in
/-- The user that a `create_session` was called for. -/
def userOf (s : Service Digest) (d : Digest) : String := (s.users.lookup d).getD unknownUser

/-! ### Sessions -/

/-- The lines that the lifecycle calls of sessions write. -/
def sessionLines (s : Service Digest) : Gateway.Action Digest → List (AuditLine Digest)
  | .createStep token =>
    let d : Digest := fromToken token
    match s.gateway.creates.lookup d with
    -- the cleanup is on behalf of the user who logs in
    | some (.disconnecting (expired :: _)) => [.cleanup (s.userOf d) expired]
    | some .connected => [.sessionCreate (s.userOf d) d (.ok ())]
    | some (.rejecting err) => [.sessionCreate (s.userOf d) d (.error err)]
    | _ => []
  | .sweepStep id =>
    match s.gateway.sweeps.lookup id with
    -- the reaper has no user
    | some (expired :: _) => [.cleanup unknownUser expired]
    | _ => []
  | .deleteSession _ token =>
    match s.gateway.sessions.inner.lookup (fromToken token) with
    | none =>
      [.sessionDelete unknownUser (fromToken token) (.error (.notFound "session not found"))]
    | some _ => []
  | .deleteStep id =>
    match s.gateway.deletes.lookup id with
    | some ⟨d, .disconnecting⟩ =>
      [.sessionDelete ((s.removed.lookup id).getD unknownUser) d (.ok ())]
    | _ => []
  | _ => []

/-- The names known after a step: a login that was admitted adds one. -/
def usersAfter (s : Service Digest) (g : Gateway Digest) :
    Gateway.Action Digest → AList fun _ : Digest => String
  | .createSession token user _ =>
    if (g.creates.lookup (fromToken token)).isSome then s.users.insert (fromToken token) user
    else s.users
  | _ => s.users

/-- The users of removed sessions after a step. -/
def removedAfter (s : Service Digest) : Gateway.Action Digest → AList fun _ : ℕ => String
  | .deleteSession id token =>
    match s.gateway.sessions.inner.lookup (fromToken token) with
    | none => s.removed
    | some stored => s.removed.insert id stored.user
  | _ => s.removed

/-- A step of the gateway that no command makes. -/
def gatewayStep (s : Service Digest) (a : Gateway.Action Digest) : Option (Service Digest) :=
  -- commands go through `execute_with_resource`
  if a.isCommand then none
  else
    (s.gateway.step a).map fun g =>
      { s with
        gateway := g
        users := s.usersAfter g a
        removed := s.removedAfter a
        audit := s.audit ++ (s.sessionLines a).map fun line => (none, line) }

/-! ### Commands -/

/-- `execute_with_resource`, up to the touch. -/
def execute (s : Service Digest) (id : ℕ) (token : String) (operation : Operation) :
    Option (Service Digest) :=
  if (s.calls.lookup id).isSome then none
  else
    let c : ExecuteCall := { token := token, operation := operation, stage := .started }
    let user := (s.usernameForAudit token).getD unknownUser
    some ((s.setCall id c).write id (c.line "start" user none))

/-- The touch of the session. -/
def touchSession (s : Service Digest) (id : ℕ) : Option (Service Digest) :=
  (s.calls.lookup id).bind fun c =>
    if c.stage = .started then
      (s.gateway.step (c.operation.touch id c.token)).map fun g =>
        match (s.gateway.sessions.touch s.gateway.now c.token).1 with
        | .ok session => (s.setGateway g).setCall id (c.atStage (.running session))
        | .error err => (s.setGateway g).setCall id (c.atStage (.refused err))
    else none

/-- The rest of a command whose touch failed. -/
def refuse (s : Service Digest) (id : ℕ) : Option (Service Digest) :=
  (s.calls.lookup id).bind fun c =>
    match c.stage with
    | .refused err =>
      let user := (s.usernameForAudit c.token).getD unknownUser
      some ((s.setCall id (c.atStage (.rejected err))).write id
        (.touchFailed user (fromToken c.token) err))
    | _ => none

/-- The operation of a command has the result, and the command returns it. -/
def finish (s : Service Digest) (id : ℕ) (c : ExecuteCall) (user : String)
    (result : Except GatewayError Unit) : Service Digest :=
  (s.setCall id (c.atStage (.returned result))).write id (c.closing user result)

/-- The backend, or the gateway's own export calls, answer. -/
def answer (s : Service Digest) (id : ℕ) (result : Except GatewayError Unit) :
    Option (Service Digest) :=
  (s.calls.lookup id).bind fun c =>
    match c.stage, c.operation.isJob with
    | .running session, false => some (s.finish id c session.user result)
    | _, _ => none

/-- A command on a job, which makes one step on the job registry. -/
def answerJob (s : Service Digest) (id : ℕ) : Option (Service Digest) :=
  (s.calls.lookup id).bind fun c =>
    match c.stage with
    | .running session =>
      (c.operation.jobStep session.user).bind fun a =>
        (s.gateway.step a).map fun g =>
          (s.setGateway g).finish id c session.user
            (c.operation.jobResult s.gateway session.user)
    | _ => none

/-- The request of a command that waits for the backend is dropped. -/
def dropCommand (s : Service Digest) (id : ℕ) : Option (Service Digest) :=
  (s.calls.lookup id).bind fun c =>
    match c.stage, c.operation.isJob with
    | .running _, false => some (s.setCall id (c.atStage .dropped))
    | _, _ => none

/-! ### Steps -/

/-- What can happen next. -/
inductive Action (Digest : Type) where
  | gateway (a : Gateway.Action Digest)
  | execute (id : ℕ) (token : String) (operation : Operation)
  | touchSession (id : ℕ)
  | refuse (id : ℕ)
  | answer (id : ℕ) (result : Except GatewayError Unit)
  | answerJob (id : ℕ)
  | dropCommand (id : ℕ)

/-- One step of the service. -/
def step (s : Service Digest) : Action Digest → Option (Service Digest)
  | .gateway a => s.gatewayStep a
  | .execute id token operation => s.execute id token operation
  | .touchSession id => s.touchSession id
  | .refuse id => s.refuse id
  | .answer id result => s.answer id result
  | .answerJob id => s.answerJob id
  | .dropCommand id => s.dropCommand id

end Service
end GvmGateway

import GvmGateway.App.Gateway
import GvmGateway.Gvmd.SessionClientTheorems

/-!
# Requests and export workers on one connection

The gateway together with the `SessionClient` of one session. Requests come and go as they
please and may be dropped at any await. A worker makes its calls while its export runs, one
after the other, and its call is dropped with it, which takes an abort by `cancel_job_record`
or `cancel_jobs_for_session`.
-/

namespace GvmGateway

open TransitionSystem

namespace SessionClient

/-- The calls of a caller that are not over. -/
def inProgress (c : SessionClient) (caller : Caller) : List ℕ :=
  (c.calls.filter fun _ call => call.caller = caller && !call.stage.isOver).keys

/-- Calls are dropped with the task that makes them, where it awaits. -/
def dropAll (c : SessionClient) (ids : List ℕ) : Option SessionClient :=
  run step c (ids.map .drop)

end SessionClient

structure SharedSession (Digest : Type) where
  gateway : Gateway Digest
  session : Digest
  client : SessionClient

namespace SharedSession

variable {Digest : Type} [DecidableEq Digest] [SessionTokenDigest Digest]

omit [DecidableEq Digest] [SessionTokenDigest Digest] in
/-- A gateway, and the client of a session on which nobody has made a call. -/
def new (g : Gateway Digest) (d : Digest) : SharedSession Digest :=
  { gateway := g, session := d, client := .new }

/-- What can happen next: a step of the gateway, or of a call on the client. -/
inductive Action (Digest : Type) where
  | gateway (a : Gateway.Action Digest)
  | call (id : ℕ) (caller : Caller)
  | lock (id : ℕ)
  | acquire
  | write (id : ℕ)
  | answer
  | read (id : ℕ)
  | dropRequest (id : ℕ)

omit [DecidableEq Digest] [SessionTokenDigest Digest] in
def setClient (s : SharedSession Digest) (c : SessionClient) : SharedSession Digest :=
  { s with client := c }

omit [SessionTokenDigest Digest] in
/-- Whether the worker of a job may make a call on this client now. -/
def workerReady (s : SharedSession Digest) (jobId : String) : Bool :=
  match s.gateway.exports.lookup jobId with
  | none => false
  | some e => e.session = s.session && e.worker.map Worker.stage = some .running &&
      s.client.inProgress (.worker jobId) = []

omit [SessionTokenDigest Digest] in
/-- `session_client`. -/
def call (s : SharedSession Digest) (id : ℕ) (caller : Caller) : Option (SharedSession Digest) :=
  if s.session ∈ s.gateway.clients then
    match caller with
    | .request => (s.client.enter id caller).map s.setClient
    | .worker jobId =>
      if s.workerReady jobId then (s.client.enter id caller).map s.setClient else none
  else none

/-- A step of the gateway. The call of a worker is dropped with it, and its export is not
over before its call is. -/
def gatewayStep (s : SharedSession Digest) (a : Gateway.Action Digest) :
    Option (SharedSession Digest) :=
  match a with
  | .dropWorker jobId =>
    match s.client.dropAll (s.client.inProgress (.worker jobId)) with
    | none => none
    | some c => (s.gateway.step a).map fun g => { s with gateway := g, client := c }
  | .exportDone jobId _ =>
    if s.client.inProgress (.worker jobId) = [] then
      (s.gateway.step a).map fun g => { s with gateway := g }
    else none
  | _ => (s.gateway.step a).map fun g => { s with gateway := g }

omit [DecidableEq Digest] [SessionTokenDigest Digest] in
/-- The future of a request is dropped where it awaits. -/
def dropRequest (s : SharedSession Digest) (id : ℕ) : Option (SharedSession Digest) :=
  match s.client.calls.lookup id with
  | some ⟨.request, _⟩ => (s.client.drop id).map s.setClient
  | _ => none

def step (s : SharedSession Digest) : Action Digest → Option (SharedSession Digest)
  | .gateway a => s.gatewayStep a
  | .call id caller => s.call id caller
  | .lock id => (s.client.lock id).map s.setClient
  | .acquire => s.client.acquire.map s.setClient
  | .write id => (s.client.write id).map s.setClient
  | .answer => s.client.answer.map s.setClient
  | .read id => (s.client.read id).map s.setClient
  | .dropRequest id => s.dropRequest id

/-! ## The client under the gateway -/

variable {s t : SharedSession Digest} {a : Action Digest} {as : List (Action Digest)}

omit [DecidableEq Digest] [SessionTokenDigest Digest] in
theorem run_of_map {op : SessionClient.Op} (h : (s.client.step op).map s.setClient = some t) :
    s.client.step op = some t.client := by
  rcases Option.map_eq_some_iff.mp h with ⟨c, hc, rfl⟩
  exact hc

/-- A step is a read, or a run of the client without reads. -/
theorem client_step (h : s.step a = some t) :
    (∃ id, a = .read id ∧ s.client.step (.read id) = some t.client) ∨
    (∀ id, a ≠ .read id) ∧ ∃ ops, (∀ id, .read id ∉ ops) ∧
      run SessionClient.step s.client ops = some t.client := by
  have hone : ∀ op, (∀ id, op ≠ .read id) → s.client.step op = some t.client →
      ∃ ops, (∀ id, .read id ∉ ops) ∧ run SessionClient.step s.client ops = some t.client := by
    intro op hread hop
    exact ⟨[op], by simpa using fun id => (hread id).symm, run_cons.mpr ⟨_, hop, rfl⟩⟩
  cases a with
  | read id => exact .inl ⟨id, rfl, run_of_map h⟩
  | lock id => exact .inr ⟨nofun, hone (.lock id) nofun (run_of_map h)⟩
  | acquire => exact .inr ⟨nofun, hone .acquire nofun (run_of_map h)⟩
  | write id => exact .inr ⟨nofun, hone (.write id) nofun (run_of_map h)⟩
  | answer => exact .inr ⟨nofun, hone .answer nofun (run_of_map h)⟩
  | dropRequest id =>
    change s.dropRequest id = some t at h
    unfold dropRequest at h
    split at h
    · exact .inr ⟨nofun, hone (.drop id) nofun (run_of_map h)⟩
    · cases h
  | call id caller =>
    rcases Option.ite_none_right_eq_some.mp h with ⟨_, hcall⟩
    split at hcall
    · exact .inr ⟨nofun, hone (.enter id .request) nofun (run_of_map hcall)⟩
    -- a worker calls under the id of its job
    · next jobId =>
      rcases Option.ite_none_right_eq_some.mp hcall with ⟨_, hlock⟩
      exact .inr ⟨nofun, hone (.enter id (.worker jobId)) nofun (run_of_map hlock)⟩
  | gateway a =>
    change s.gatewayStep a = some t at h
    unfold gatewayStep at h
    split at h
    -- a worker is dropped with the calls it is waiting in
    · split at h
      · cases h
      · next c hdrop =>
        rcases Option.map_eq_some_iff.mp h with ⟨g, _, rfl⟩
        exact .inr ⟨nofun, _, by simp, hdrop⟩
    · rcases Option.ite_none_right_eq_some.mp h with ⟨_, hdone⟩
      rcases Option.map_eq_some_iff.mp hdone with ⟨g, _, rfl⟩
      exact .inr ⟨nofun, [], by simp, rfl⟩
    · rcases Option.map_eq_some_iff.mp h with ⟨g, _, rfl⟩
      exact .inr ⟨nofun, [], by simp, rfl⟩

theorem inv_step (hs : s.client.Inv) (h : s.step a = some t) : t.client.Inv := by
  rcases client_step h with ⟨id, -, hread⟩ | ⟨-, ops, -, hrun⟩
  · exact SessionClient.inv_step hs hread
  · exact invariant (fun _ _ _ hc hop => SessionClient.inv_step hc hop) hrun hs

/-! ## Responses -/

omit [DecidableEq Digest] [SessionTokenDigest Digest] in
/-- When a call reads its response, no call has been dropped between its write and its
read. -/
def ReadsInStep (s : SharedSession Digest) (a : Action Digest) : Prop :=
  ∀ id, a = .read id → ∀ e ∈ s.client.calls.entries, e.2.stage ≠ .dropped true

omit [DecidableEq Digest] [SessionTokenDigest Digest] in
instance decidableReadsInStep (s : SharedSession Digest) :
    (a : Action Digest) → Decidable (s.ReadsInStep a)
  | .read _ => decidable_of_iff (∀ e ∈ s.client.calls.entries, e.2.stage ≠ .dropped true)
      ⟨fun h _ _ => h, fun h => h _ rfl⟩
  | .gateway _ | .call _ _ | .lock _ | .acquire | .write _ | .answer | .dropRequest _ =>
    .isTrue fun _ hread => nomatch hread

theorem abandoned_eq_zero {c : SessionClient} :
    c.abandoned = 0 ↔ ∀ e ∈ c.calls.entries, e.2.stage ≠ .dropped true := by
  unfold SessionClient.abandoned
  rw [AList.total_eq_zero]
  constructor
  · intro h e he habandoned
    have hone := h e.1 e.2 (AList.mem_entries_iff.mp he)
    rw [if_pos habandoned] at hone
    exact absurd hone one_ne_zero
  · intro h id call hcall
    exact if_neg (h ⟨id, call⟩ (AList.mem_entries_iff.mpr hcall))

theorem ownResponses_keep (hs : s.client.Inv) (hown : s.client.OwnResponses)
    (ha : s.ReadsInStep a) (h : s.step a = some t) : t.client.OwnResponses := by
  rcases client_step h with ⟨id, hread, hop⟩ | ⟨-, ops, hreads, hrun⟩
  · exact SessionClient.ownResponses_step hs hown
      (fun _ _ => abandoned_eq_zero.mpr (ha id hread)) hop
  · have hnoread : Along SessionClient.step (fun _ op _ => ∀ id, op ≠ .read id) s.client ops := by
      refine along_of_mem (fun op hop _ _ id hid => ?_) _
      exact hreads id (hid ▸ hop)
    have hboth := invariant_along (I := fun c => c.Inv ∧ c.OwnResponses)
      (fun c op c' hc hread hop => ⟨SessionClient.inv_step hc.1 hop,
        SessionClient.ownResponses_step hc.1 hc.2 (fun id hid => absurd hid (hread id)) hop⟩)
      hrun hnoread ⟨hs, hown⟩
    exact hboth.2

theorem ownResponses_break (hs : s.client.Inv) (ha : ¬ s.ReadsInStep a)
    (h : s.step a = some t) : ¬ t.client.OwnResponses := by
  rcases client_step h with ⟨id, -, hop⟩ | ⟨hread, -⟩
  · refine SessionClient.not_ownResponses_read hs (fun hzero => ha fun id' _ => ?_) hop
    exact abandoned_eq_zero.mp hzero
  · exact absurd (fun id hid => absurd hid (hread id)) ha

theorem ownResponses_perm (hs : s.client.Inv) (hbad : ¬ s.client.OwnResponses)
    (h : s.step a = some t) : ¬ t.client.OwnResponses := by
  rcases client_step h with ⟨id, -, hop⟩ | ⟨-, ops, -, hrun⟩
  · exact fun hown => hbad (SessionClient.ownResponses_of_step hs hop hown)
  · have hboth := invariant (I := fun c => c.Inv ∧ ¬ c.OwnResponses)
      (fun c op c' hc hop => ⟨SessionClient.inv_step hc.1 hop,
        fun hown => hc.2 (SessionClient.ownResponses_of_step hc.1 hop hown)⟩)
      hrun ⟨hs, hbad⟩
    exact hboth.2

/-- In every run, all calls that have returned got the response to their own command iff no
call read after another had been dropped between its write and its read. -/
theorem own_responses_iff {g : Gateway Digest} {d : Digest}
    (h : run step (new g d) as = some s) :
    Along step (fun s a _ => s.ReadsInStep a) (new g d) as ↔ s.client.OwnResponses :=
  along_iff_of_permanent (I := fun s => s.client.Inv)
    (fun _ _ _ hs ht => inv_step hs ht)
    (fun _ _ _ hs hown ha ht => ownResponses_keep hs hown ha ht)
    (fun _ _ _ hs _ ha ht => ownResponses_break hs ha ht)
    (fun _ _ _ hs hbad ht => ownResponses_perm hs hbad ht)
    h SessionClient.inv_new fun _ _ _ hcall => absurd hcall (by simp [new, SessionClient.new])

/-- Of three requests the first is dropped while it has the guard and has written nothing, and the
others make their calls one after the other. -/
def droppedBeforeWrite : List (Action String) :=
  [.gateway (.createSession "a" "alice" []), .gateway (.createStep "a"),
    .gateway (.authenticate "a" (.ok ())), .call 0 .request, .lock 0, .call 1 .request, .lock 1,
    .acquire, .call 2 .request, .dropRequest 0, .acquire, .lock 2, .write 1, .answer, .read 1,
    .acquire, .write 2, .answer, .read 2]

/-- The drop before the write costs the other two nothing. -/
theorem own_responses_iff_drop_before_write :
    ∃ s : SharedSession String,
      run step (new (.new String 0 300 {} {}) "a") droppedBeforeWrite = some s ∧
      s.client.calls.lookup 0 = some ⟨.request, .dropped false⟩ ∧
      (∃ response, s.client.calls.lookup 1 = some ⟨.request, .returned response⟩) ∧
      (∃ response, s.client.calls.lookup 2 = some ⟨.request, .returned response⟩) ∧
      s.client.OwnResponses := by
  have hrun : ∃ s : SharedSession String,
      run step (new (.new String 0 300 {} {}) "a") droppedBeforeWrite = some s ∧
      s.client.calls.lookup 0 = some ⟨.request, .dropped false⟩ ∧
      (∃ response, s.client.calls.lookup 1 = some ⟨.request, .returned response⟩) ∧
      ∃ response, s.client.calls.lookup 2 = some ⟨.request, .returned response⟩ :=
    ⟨_, rfl, rfl, ⟨_, rfl⟩, ⟨_, rfl⟩⟩
  obtain ⟨s, hs, hdropped, hfirst, hsecond⟩ := hrun
  have hreads : Along step (fun s a _ => s.ReadsInStep a) (new (.new String 0 300 {} {}) "a")
      droppedBeforeWrite := by decide
  exact ⟨s, hs, hdropped, hfirst, hsecond, (own_responses_iff hs).mp hreads⟩

/-- The worker of an export is aborted by `cancel_job_record` while it awaits its response,
and a request makes the next call. -/
def abortedWorker : List (Action String) :=
  [.gateway (.createSession "a" "alice" []), .gateway (.createStep "a"),
    .gateway (.authenticate "a" (.ok ())), .gateway (.createStep "a"),
    .gateway (.createReportExportJob 0 "a" "report" (.json ⟨none, none⟩)),
    .gateway (.holdSession 0 "j"), .gateway (.enqueueStep "j"), .gateway (.enqueueStep "j"),
    .gateway (.enqueueStep "j"), .gateway (.workerStep "j"),
    .call 0 (.worker "j"), .lock 0, .acquire, .write 0,
    .gateway (.cancelJobRecord "alice" "j"), .gateway (.dropWorker "j"),
    .call 1 .request, .lock 1, .acquire, .write 1, .answer, .read 1]

/-- The request gets the response to the command of the aborted worker. -/
theorem foreign_response_reachable :
    ∃ s : SharedSession String,
      run step (new (.new String 0 300 {} {}) "a") abortedWorker = some s ∧
      s.client.calls.lookup 1 = some ⟨.request, .returned 0⟩ ∧ ¬ s.client.OwnResponses := by
  have hrun : ∃ s : SharedSession String,
      run step (new (.new String 0 300 {} {}) "a") abortedWorker = some s ∧
      s.client.calls.lookup 1 = some ⟨.request, .returned 0⟩ := ⟨_, rfl, rfl⟩
  rcases hrun with ⟨s, hs, hcall⟩
  refine ⟨s, hs, hcall, fun hown => ?_⟩
  exact absurd (hown 1 _ 0 hcall rfl) (by decide)

end SharedSession
end GvmGateway

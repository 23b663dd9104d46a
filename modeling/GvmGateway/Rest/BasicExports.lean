import GvmGateway.Rest.BasicAuthSteps

/-!
# Who cancels an export

An export is cancelled by its owner, or by a client that deletes the session it was created from,
as long as no Basic request is torn down while an export of its session is open.
-/

namespace GvmGateway.Rest

open BasicRequest SessionTokenDigest SessionManager TransitionSystem

namespace RestGateway

variable {Digest : Type} [DecidableEq Digest] [SessionTokenDigest Digest]

/-- The owner asked to cancel the job, or a client deleted its session. -/
def EndedByClient (as : List (Action Digest)) (j : String) (r : JobRecord Digest) : Prop :=
  .gateway (.cancelJobRecord r.ownerUser j) ∈ as ∨
  ∃ id token, .gateway (.deleteSession id token) ∈ as ∧ fromToken token = r.sessionTokenDigest

/-- The `delete_session` call is that of a Basic request. -/
def IsTeardown (s : RestGateway Digest) (id : ℕ) : Prop :=
  ∃ e ∈ s.basic.entries, e.2.teardown = some id

/-- The `cancel_jobs_for_session` of a teardown finds no open job of the session. -/
def TeardownFindsNoJob (s : RestGateway Digest) : Action Digest → Prop
  | .gateway (.cancelJobs id _) => s.IsTeardown id → ∀ c ∈ s.gateway.deletes.lookup id,
      ∀ e ∈ s.gateway.jobs.jobs.entries, e.2.sessionTokenDigest = c.session →
        e.2.job.status.isTerminal = true
  | _ => True

instance (s : RestGateway Digest) (id : ℕ) : Decidable (s.IsTeardown id) :=
  inferInstanceAs (Decidable (∃ e ∈ _, _))

instance (s : RestGateway Digest) (a : Action Digest) : Decidable (s.TeardownFindsNoJob a) := by
  unfold TeardownFindsNoJob
  split <;> infer_instance

variable {s t : RestGateway Digest} {a : Action Digest} {as : List (Action Digest)} {rid : ℕ}

/-! ## Teardowns -/

omit [DecidableEq Digest] [SessionTokenDigest Digest] in
theorem isTeardown_iff {id : ℕ} :
    s.IsTeardown id ↔ ∃ k r, s.basic.lookup k = some r ∧ r.teardown = some id := by
  constructor
  · rintro ⟨⟨k, r⟩, hmem, hid⟩
    exact ⟨k, r, AList.mem_entries_iff.mp hmem, hid⟩
  · rintro ⟨k, r, hlookup, hid⟩
    exact ⟨⟨k, r⟩, AList.mem_entries_iff.mpr hlookup, hid⟩

omit [DecidableEq Digest] [SessionTokenDigest Digest] in
/-- A request that goes on keeps its teardown. -/
theorem IsTeardown.setBasic {id : ℕ} {g : Gateway Digest} {r' : BasicRequest}
    (h : s.IsTeardown id)
    (hkeep : ∀ r, s.basic.lookup rid = some r → r.teardown = some id → r'.teardown = some id) :
    ((s.setGateway g).setBasic rid r').IsTeardown id := by
  obtain ⟨k, r, hr, hid⟩ := isTeardown_iff.mp h
  apply isTeardown_iff.mpr
  by_cases hk : k = rid
  · refine ⟨rid, r', ?_, hkeep r (hk ▸ hr) hid⟩
    rw [lookup_setBasic, if_pos rfl]
  · refine ⟨k, r, ?_, hid⟩
    rw [lookup_setBasic, if_neg hk]
    exact hr

/-- What is known after a run: who began each deletion, and why each cancelled job is so. -/
structure Explained (as : List (Action Digest)) (s : RestGateway Digest) : Prop where
  early : ∀ k r, s.basic.lookup k = some r → r.inProgress = true → r.teardown = none
  deletes : ∀ id c, s.gateway.deletes.lookup id = some c → s.IsTeardown id ∨
    ∃ token, .gateway (.deleteSession id token) ∈ as ∧ fromToken token = c.session
  jobs : ∀ j r, s.gateway.jobs.jobs.lookup j = some r → r.job.status = .cancelled →
    EndedByClient as j r

omit [DecidableEq Digest] in
theorem EndedByClient.append {j : String} {r : JobRecord Digest} (h : EndedByClient as j r)
    (bs : List (Action Digest)) : EndedByClient (as ++ bs) j r := by
  rcases h with hcancel | ⟨id, token, hdelete, hdigest⟩
  · exact .inl (List.mem_append_left bs hcancel)
  · exact .inr ⟨id, token, List.mem_append_left bs hdelete, hdigest⟩

omit [DecidableEq Digest] in
theorem EndedByClient.congr {j : String} {r r' : JobRecord Digest} (h : EndedByClient as j r)
    (howner : r.ownerUser = r'.ownerUser)
    (hdigest : r.sessionTokenDigest = r'.sessionTokenDigest) : EndedByClient as j r' := by
  unfold EndedByClient at h ⊢
  rwa [← howner, ← hdigest]

/-- A call that cancels no job leaves every cancelled one explained. -/
theorem Explained.jobs_of_call (h : Explained as s) {b : Gateway.Action Digest}
    {g : Gateway Digest} (call : s.gateway.step b = some g)
    (hrecord : ∀ owner j, b ≠ .cancelJobRecord owner j)
    (hsession : ∀ id order, b ≠ .cancelJobs id order) (bs : List (Action Digest)) :
    ∀ j r, g.jobs.jobs.lookup j = some r → r.job.status = .cancelled →
      EndedByClient (as ++ bs) j r := by
  intro j r hr hcancelled
  rcases Gateway.cancelled_origin call hr hcancelled with
    ⟨r₀, hr₀, hcancelled₀, howner, hdigest⟩ | hcancel | ⟨id, order, _, _, hcancel, _⟩
  · exact ((h.jobs j r₀ hr₀ hcancelled₀).congr howner hdigest).append bs
  · exact absurd hcancel (hrecord _ _)
  · exact absurd hcancel (hsession id order)

omit [DecidableEq Digest] in
/-- A request goes on, or is new. -/
theorem Explained.setBasic (h : Explained as s) {r' : BasicRequest}
    (hkeep : ∀ r, s.basic.lookup rid = some r → r'.teardown = r.teardown)
    (hearly : r'.inProgress = true → r'.teardown = none) :
    Explained as (s.setBasic rid r') where
  early := AList.forall_lookup_insert hearly fun k r _ hr => h.early k r hr
  deletes id c hc := by
    rcases h.deletes id c hc with hteardown | hclient
    · refine .inl (hteardown.setBasic (g := s.gateway) fun r hr hid => ?_)
      rw [hkeep r hr, hid]
    · exact .inr hclient
  jobs := h.jobs

omit [DecidableEq Digest] in
/-- A request that was in progress goes on to another stage. -/
theorem Explained.goesOn (h : Explained as s) {r : BasicRequest} (r' : BasicRequest)
    (found : s.basic.lookup rid = some r) (hsame : r'.teardown = r.teardown)
    (hprogress : r.inProgress = true ∨ r'.inProgress = false) :
    Explained as (s.setBasic rid r') := by
  apply h.setBasic
  · intro r₀ hr₀
    rw [found] at hr₀
    rw [← Option.some.inj hr₀, hsame]
  · intro hgoes
    rcases hprogress with hr | hr'
    · rw [hsame, h.early rid r found hr]
    · rw [hr'] at hgoes
      exact nomatch hgoes

omit [DecidableEq Digest] in
theorem Explained.mono (h : Explained as s) (bs : List (Action Digest)) :
    Explained (as ++ bs) s where
  early := h.early
  deletes id c hc := by
    rcases h.deletes id c hc with hteardown | ⟨token, hdelete, hdigest⟩
    · exact .inl hteardown
    · exact .inr ⟨token, List.mem_append_left bs hdelete, hdigest⟩
  jobs j r hr hcancelled := (h.jobs j r hr hcancelled).append bs

/-- A call that neither deletes a session nor cancels a job. -/
theorem Explained.call (h : Explained as s) {b : Gateway.Action Digest} {g : Gateway Digest}
    (call : s.gateway.step b = some g)
    (hdelete : ∀ id token, b ≠ .deleteSession id token)
    (hrecord : ∀ owner j, b ≠ .cancelJobRecord owner j)
    (hsession : ∀ id order, b ≠ .cancelJobs id order) : Explained as (s.setGateway g) where
  early := h.early
  deletes id c hc := by
    rcases Gateway.deletes_origin call hc with ⟨c₀, hc₀, hsame, _⟩ | ⟨token, hfirst, _⟩
    · rw [← hsame]
      exact h.deletes id c₀ hc₀
    · exact absurd hfirst (hdelete id token)
  jobs j r hr hcancelled := by
    have hended := h.jobs_of_call call hrecord hsession [] j r hr hcancelled
    rwa [List.append_nil] at hended

/-- The first step of a teardown. -/
theorem Explained.deleted (h : Explained as s) {id : ℕ} {r : BasicRequest} {g : Gateway Digest}
    (found : s.basic.lookup rid = some r) (stage : r.stage = .leaving)
    (call : s.gateway.step (.deleteSession id r.token) = some g) :
    Explained as
      ((s.setGateway g).setBasic rid { r with stage := .deleting, teardown := some id }) where
  early := by
    apply AList.forall_lookup_insert
    · intro hprogress
      simp [inProgress] at hprogress
    · intro k r' _ hr'
      exact h.early k r' hr'
  deletes id' c hc := by
    have hnone : r.teardown = none := h.early rid r found (by simp [BasicRequest.inProgress, stage])
    rcases Gateway.deletes_origin call hc with ⟨c₀, hc₀, hsame, _⟩ | ⟨token, hfirst, _⟩
    · rcases h.deletes id' c₀ hc₀ with hteardown | hclient
      · refine .inl (hteardown.setBasic fun r₀ hr₀ hid => ?_)
        obtain rfl := Option.some.inj (found.symm.trans hr₀)
        rw [hnone] at hid
        cases hid
      · rw [← hsame]
        exact .inr hclient
    · -- the deletion is the teardown of this request
      left
      apply isTeardown_iff.mpr
      refine ⟨rid, _, by rw [lookup_setBasic, if_pos rfl], ?_⟩
      exact congrArg some (Gateway.Action.deleteSession.inj hfirst).1
  jobs j r' hr' hcancelled := by
    have hended := h.jobs_of_call call (by simp) (by simp) [] j r' hr' hcancelled
    rwa [List.append_nil] at hended

/-- A call of the gateway that no Basic request makes. -/
theorem Explained.gateway (h : Explained as s) {b : Gateway.Action Digest} {g : Gateway Digest}
    (call : s.gateway.step b = some g) (hcond : s.TeardownFindsNoJob (.gateway b)) :
    Explained (as ++ [.gateway b]) (s.setGateway g) where
  early := h.early
  deletes id c hc := by
    rcases Gateway.deletes_origin call hc with ⟨c₀, hc₀, hsame, _⟩ | ⟨token, hfirst, hc'⟩
    · rw [← hsame]
      exact (h.mono [.gateway b]).deletes id c₀ hc₀
    · refine .inr ⟨token, ?_, by rw [hc']⟩
      rw [hfirst]
      simp
  jobs j r hr hcancelled := by
    rcases Gateway.cancelled_origin call hr hcancelled with
      ⟨r₀, hr₀, hcancelled₀, howner, hdigest⟩ | hcancel |
      ⟨id, order, c, r₀, hcancel, hc, hr₀, hopen, hdigest, hsame⟩
    · exact ((h.jobs j r₀ hr₀ hcancelled₀).congr howner hdigest).append _
    · left
      rw [hcancel]
      simp
    · rcases h.deletes id c hc with hteardown | ⟨token, hdelete, hclient⟩
      · -- a teardown would have found the job open
        subst hcancel
        have hclosed := hcond hteardown c hc ⟨j, r₀⟩ (AList.mem_entries_iff.mpr hr₀) hdigest.symm
        rw [hopen] at hclosed
        exact nomatch hclosed
      · refine .inr ⟨id, token, List.mem_append_left _ hdelete, ?_⟩
        rw [hclient, hdigest, hsame]

theorem explained_step (h : Explained as s) (hcond : s.TeardownFindsNoJob a)
    (hstep : s.step a = some t) : Explained (as ++ [a]) t := by
  -- only the teardown and the calls of others can explain more than before
  cases move_of_step hstep with
  | gateway other call => exact h.gateway call hcond
  | refused => exact h.mono _
  | started free fresh login call =>
    apply Explained.mono
    refine (h.call call (fun _ _ => nofun) (fun _ _ => nofun) fun _ _ => nofun).setBasic ?_ ?_
    · intro r hr
      exact nomatch free.symm.trans hr
    · exact fun _ => rfl
  | entered found stage login =>
    apply Explained.mono
    exact h.goesOn _ found rfl (.inl (inProgress_iff.mpr (.inl stage)))
  | unprepared found stage login =>
    apply Explained.mono
    exact h.goesOn _ found rfl (.inl (inProgress_iff.mpr (.inl stage)))
  | loginFailed found stage login =>
    apply Explained.mono
    exact h.goesOn _ found rfl (.inr rfl)
  | responded found stage =>
    apply Explained.mono
    exact h.goesOn _ found rfl (.inl (inProgress_iff.mpr (.inr (.inl stage))))
  | deleted found stage call session => exact (h.deleted found stage call).mono _
  | @missed rid id r g found stage call session =>
    apply Explained.mono
    cases Gateway.move_of_step call with
    | deleteMissed missing =>
      have hsame : Explained as
          (s.setGateway (s.gateway.setSessions (s.gateway.sessions.remove r.token).2)) :=
        ⟨h.early, h.deletes, h.jobs⟩
      exact hsame.goesOn _ found rfl (.inr rfl)
    | deleteRemoved free hsession =>
      rw [registered_of_lookup hsession] at session
      exact nomatch session
  | answered found stage returned =>
    apply Explained.mono
    exact h.goesOn _ found rfl (.inr rfl)
  | droppedLogin found stage call =>
    apply Explained.mono
    have hcall := h.call call (fun _ _ => nofun) (fun _ _ => nofun) fun _ _ => nofun
    exact hcall.goesOn _ found rfl (.inr rfl)
  | droppedHandler found stage =>
    apply Explained.mono
    exact h.goesOn _ found rfl (.inr rfl)

/-! ## Runs -/

variable {now idle : ℕ} {limits : SessionLimits} {policy : JobPolicy}

theorem explained_run (h : run step (new Digest now idle limits policy) as = some s)
    (hcond : Along step (fun s a _ => s.TeardownFindsNoJob a)
      (new Digest now idle limits policy) as) : Explained as s := by
  -- from the last action, since what is explained names the actions so far
  induction as using List.reverseRecOn generalizing s with
  | nil =>
    obtain rfl := Option.some.inj h
    exact ⟨fun k r hr => (nomatch hr), fun id c hc => (nomatch hc), fun j r hr => (nomatch hr)⟩
  | append_singleton as a ih =>
    obtain ⟨u, hu, hlast⟩ := run_append.mp h
    obtain ⟨t, hstep, ht⟩ := run_cons.mp hlast
    obtain rfl := Option.some.inj ht
    obtain ⟨hbefore, hnow⟩ := (along_append hu).mp hcond
    exact explained_step (ih hu hbefore) (hnow t hstep).1 hstep

/-- In a run whose teardowns find no open job of their sessions, every cancelled job was ended by
a client: its owner cancelled it, or a client deleted its session. -/
theorem exports_cancelled_by_clients
    (h : run step (new Digest now idle limits policy) as = some s)
    (hcond : Along step (fun s a _ => s.TeardownFindsNoJob a)
      (new Digest now idle limits policy) as) (j : String) (r : JobRecord Digest)
    (hr : s.gateway.jobs.jobs.lookup j = some r) (hcancelled : r.job.status = .cancelled) :
    EndedByClient as j r :=
  (explained_run h hcond).jobs j r hr hcancelled

def exportRequest : Request :=
  { method := .post, path := "/api/v1/reports/report/exports",
    authorization := some "Basic YWxpY2U6cHc=", forwardedFor := none, peer := none }

/-- A login for a Basic request of alice. -/
def basicLogin (request : Request) : List (Action String) :=
  [.basicStart 0 request (.ok "alice:pw") "a" [], .gateway (.createStep "a"),
    .gateway (.authenticate "a" (.ok ())), .gateway (.createStep "a"), .basicCreated 0]

/-- The teardown of the request. -/
def basicTeardown (handles : List AbortHandle) : List (Action String) :=
  [.basicDelete 0 0, .gateway (.cancelJobs 0 handles)] ++
    handles.map (fun _ => .gateway (.deleteStep 0)) ++
    [.gateway (.deleteStep 0), .gateway (.deleteStep 0), .basicAnswer 0]

/-- The handler of an export: job "j" under the session of `token`. -/
def exportHandler (token : String) : List (Action String) :=
  [.gateway (.createReportExportJob 0 token "report" (.json ⟨none, none⟩)),
    .gateway (.holdSession 0 "j"), .gateway (.enqueueStep "j"), .gateway (.enqueueStep "j"),
    .gateway (.enqueueStep "j")]

/-- An export of a Bearer session that its owner cancels, beside a Basic request. -/
theorem exports_cancelled_by_clients_bearer :
    ∃ (s : RestGateway String) (r : JobRecord String) (as : List (Action String)),
      run step (new String 0 300 {} {}) as = some s ∧
      s.gateway.jobs.jobs.lookup "j" = some r ∧ r.job.status = .cancelled ∧
      EndedByClient as "j" r := by
  have hrun : ∃ (s : RestGateway String) (r : JobRecord String),
      run step (new String 0 300 {} {}) ([.gateway (.createSession "b" "bob" []),
        .gateway (.createStep "b"), .gateway (.authenticate "b" (.ok ())),
        .gateway (.createStep "b")] ++ exportHandler "b" ++ basicLogin exportRequest ++
        [.basicResponse 0 404] ++ basicTeardown [] ++
        [.gateway (.cancelJobRecord "bob" "j")]) = some s ∧
      s.gateway.jobs.jobs.lookup "j" = some r ∧ r.job.status = .cancelled :=
    ⟨_, _, rfl, rfl, rfl⟩
  obtain ⟨s, r, hs, hr, hcancelled⟩ := hrun
  exact ⟨s, r, _, hs, hr, hcancelled,
    exports_cancelled_by_clients hs (by decide) "j" r hr hcancelled⟩

/-- A Basic export: the job is accepted, and its own request cancels it. -/
theorem accepted_export_cancelled_by_teardown :
    ∃ (s : RestGateway String) (r : JobRecord String),
      run step (new String 0 300 {} {}) (basicLogin exportRequest ++ exportHandler "a" ++
        [.basicResponse 0 202] ++ basicTeardown [⟨"j"⟩]) = some s ∧
      (s.basic.lookup 0).map BasicRequest.stage = some (.answered (.handler 202)) ∧
      s.gateway.jobs.jobs.lookup "j" = some r ∧ r.job.status = .cancelled ∧
      ¬ EndedByClient (basicLogin exportRequest ++ exportHandler "a" ++
        [.basicResponse 0 202] ++ basicTeardown [⟨"j"⟩]) "j" r := by
  refine ⟨_, _, rfl, rfl, rfl, rfl, ?_⟩
  rintro (hcancel | ⟨id, token, hdelete, -⟩)
  · simp [basicLogin, exportHandler, basicTeardown] at hcancel
  · simp [basicLogin, exportHandler, basicTeardown] at hdelete

end RestGateway
end GvmGateway.Rest

import GvmGateway.Rest.BasicAuthSteps

/-!
# The sessions of Basic requests

Whether a session outlives the Basic request that opened it, and whether the request gets the
response of its handler.
-/

namespace GvmGateway.Rest

open BasicRequest SessionTokenDigest SessionManager TransitionSystem

namespace RestGateway

variable {Digest : Type} [DecidableEq Digest] [SessionTokenDigest Digest]

/-- Every registered session of a Basic request belongs to one in progress. -/
def SessionsBelong (s : RestGateway Digest) : Prop :=
  ∀ rid r, s.basic.lookup rid = some r → ∀ stored,
    s.gateway.sessions.inner.lookup (fromToken r.token) = some stored → r.inProgress = true

/-- A request that is dropped has no registered session. -/
def DropsNoSession (s : RestGateway Digest) : Action Digest → Prop
  | .basicDrop rid => ∀ r ∈ s.basic.lookup rid,
      s.gateway.sessions.inner.lookup (fromToken r.token) = none
  | _ => True

/-- Every request whose handler succeeded is answered with the handler's response. -/
def ResponsesDelivered (s : RestGateway Digest) : Prop :=
  ∀ rid r status answer, s.basic.lookup rid = some r → r.response = some status →
    isSuccess status = true → r.stage = .answered answer → answer = .handler status

/-- When a request whose handler succeeded is torn down, its session is still registered. -/
def DeletesRegistered (s : RestGateway Digest) : Action Digest → Prop
  | .basicDelete rid _ => ∀ r ∈ s.basic.lookup rid, ∀ status ∈ r.response,
      isSuccess status = true →
        (s.gateway.sessions.inner.lookup (fromToken r.token)).isSome = true
  | _ => True

/-- No login or sweep finds the session of a request in progress expired, and no client deletes
it. -/
def KeepsSessions (s : RestGateway Digest) : Action Digest → Prop
  | .gateway (.createSession _ _ _) | .gateway (.sweepOnce _ _) | .basicStart _ _ _ _ _ =>
    ∀ e ∈ s.basic.entries, e.2.inProgress = true →
      ∀ stored ∈ s.gateway.sessions.inner.lookup (fromToken e.2.token),
        stored.isExpiredAt s.gateway.now s.gateway.sessions.idleTimeoutSecs = false
  | .gateway (.deleteSession _ token) =>
    ∀ e ∈ s.basic.entries, e.2.inProgress = true →
      (fromToken e.2.token : Digest) ≠ fromToken token
  | _ => True

variable {s t : RestGateway Digest} {a : Action Digest} {as : List (Action Digest)} {rid : ℕ}
  {r : BasicRequest} {g : Gateway Digest} {b : Gateway.Action Digest}

/-! ## Sessions that outlive their requests -/

/-- A request has opened its session, and closed it once it is over. -/
structure Owned (s : RestGateway Digest) (r : BasicRequest) : Prop where
  issued : s.gateway.login (fromToken r.token) ≠ .unissued
  closed : r.inProgress = false → registered s.gateway.sessions (fromToken r.token) = 0

/-- Every session of a Basic request belongs to one. -/
structure OwnedAll (s : RestGateway Digest) : Prop where
  lives : ∀ d, (s.gateway.life d).Inv
  failed : ∀ d err, s.gateway.creates.lookup d = some (.failed err) →
    registered s.gateway.sessions d = 0
  requests : ∀ rid r, s.basic.lookup rid = some r → s.Owned r

/-- A call of the gateway opens no session that has been opened before. -/
theorem gone_call {d : Digest} (hlife : (s.gateway.life d).Inv)
    (call : s.gateway.step b = some g) (hissued : s.gateway.login d ≠ .unissued)
    (hgone : registered s.gateway.sessions d = 0) : registered g.sessions d = 0 :=
  Life.gone_step hissued hgone (Gateway.life_step hlife call)

theorem issued_call {d : Digest} (hlife : (s.gateway.life d).Inv)
    (call : s.gateway.step b = some g) (hissued : s.gateway.login d ≠ .unissued) :
    g.login d ≠ .unissued :=
  Life.issued_step hissued (Gateway.life_step hlife call)

theorem OwnedAll.call (h : OwnedAll s) (call : s.gateway.step b = some g) :
    OwnedAll (s.setGateway g) where
  lives d := Life.inv_step (h.lives d) (Gateway.life_step (h.lives d) call)
  failed d err hfailed := by
    rcases Gateway.failed_origin call hfailed with hbefore | hgone
    · have hissued : s.gateway.login d ≠ .unissued := by
        rw [Gateway.login_of_lookup hbefore]
        simp [CreateStage.login]
      exact gone_call (h.lives d) call hissued (h.failed d err hbefore)
    · exact hgone
  requests rid r hr := by
    have howned := h.requests rid r hr
    refine ⟨issued_call (h.lives _) call howned.issued, fun hover => ?_⟩
    exact gone_call (h.lives _) call howned.issued (howned.closed hover)

theorem OwnedAll.setBasic (h : OwnedAll s) (howned : s.Owned r) : OwnedAll (s.setBasic rid r) where
  lives := h.lives
  failed := h.failed
  requests := by
    apply AList.forall_lookup_insert
    · exact ⟨howned.issued, howned.closed⟩
    · intro k r' _ hr'
      exact ⟨(h.requests k r' hr').issued, (h.requests k r' hr').closed⟩

/-- After a deletion the session is gone, found or not. -/
theorem registered_deleted {id : ℕ} {token : String} {g g' : Gateway Digest}
    (call : g.step (.deleteSession id token) = some g') :
    registered g'.sessions (fromToken token) = 0 := by
  have hremoved : registered (g.sessions.remove token).2 (fromToken token) = 0 := by
    rw [registered_remove, if_pos rfl]
  cases Gateway.move_of_step call with
  | deleteMissed => exact hremoved
  | deleteRemoved => exact hremoved

omit [SessionTokenDigest Digest] in
theorem login_ne_unissued {d : Digest} {stage : CreateStage Digest} (g : Gateway Digest)
    (h : g.creates.lookup d = some stage) : g.login d ≠ .unissued := by
  rw [Gateway.login_of_lookup h]
  cases stage <;> simp [CreateStage.login]

theorem ownedAll_step (h : OwnedAll s) (hdrop : s.DropsNoSession a) (hstep : s.step a = some t) :
    OwnedAll t := by
  cases move_of_step hstep with
  | gateway other call => exact h.call call
  | refused => exact h
  | started free fresh login call =>
    obtain ⟨stage, hstage⟩ := Option.isSome_iff_exists.mp login
    exact (h.call call).setBasic ⟨login_ne_unissued _ hstage, fun hover => nomatch hover⟩
  | entered found stage login =>
    exact h.setBasic ⟨(h.requests _ _ found).issued, fun hover => nomatch hover⟩
  | unprepared found stage login =>
    exact h.setBasic ⟨(h.requests _ _ found).issued, fun hover => nomatch hover⟩
  -- a login that failed has removed its session
  | loginFailed found stage login =>
    exact h.setBasic ⟨(h.requests _ _ found).issued, fun _ => h.failed _ _ login⟩
  | responded found stage =>
    exact h.setBasic ⟨(h.requests _ _ found).issued, fun hover => nomatch hover⟩
  | deleted found stage call session =>
    exact (h.call call).setBasic
      ⟨((h.call call).requests _ _ found).issued, fun _ => registered_deleted call⟩
  | missed found stage call session =>
    exact (h.call call).setBasic
      ⟨((h.call call).requests _ _ found).issued, fun _ => registered_deleted call⟩
  | answered found stage returned =>
    have howned := h.requests _ _ found
    refine h.setBasic ⟨howned.issued, fun _ => howned.closed ?_⟩
    simp [BasicRequest.inProgress, stage]
  | droppedLogin found stage call =>
    have hissued := (h.requests _ _ found).issued
    have hgone := registered_eq_zero.mpr (hdrop _ found)
    exact (h.call call).setBasic ⟨issued_call (h.lives _) call hissued,
      fun _ => gone_call (h.lives _) call hissued hgone⟩
  -- dropped after its session was gone, which the condition asks for
  | droppedHandler found stage =>
    have hgone := registered_eq_zero.mpr (hdrop _ found)
    exact h.setBasic ⟨(h.requests _ _ found).issued, fun _ => hgone⟩

theorem OwnedAll.sessionsBelong (h : OwnedAll s) : s.SessionsBelong := by
  intro rid r hr stored hstored
  by_contra hover
  have hgone := (h.requests rid r hr).closed (Bool.not_eq_true _ ▸ hover)
  rw [registered_of_lookup hstored] at hgone
  exact nomatch hgone

/-- A drop that finds a registered session leaves one behind. -/
theorem dropsNoSession_of_belong (hstep : s.step a = some t) (ht : t.SessionsBelong) :
    s.DropsNoSession a := by
  -- the dropped request keeps its token, and the registry is not touched
  have hnone : ∀ rid r, s.basic.lookup rid = some r → (r.atStage .dropped).inProgress = false →
      t.basic.lookup rid = some (r.atStage .dropped) → t.gateway.sessions = s.gateway.sessions →
      s.gateway.sessions.inner.lookup (fromToken r.token) = none := by
    intro rid r found hover hdropped hsame
    by_contra hsome
    obtain ⟨stored, hstored⟩ := Option.ne_none_iff_exists'.mp hsome
    have hprogress := ht rid _ hdropped stored (by rw [hsame]; exact hstored)
    rw [hover] at hprogress
    exact nomatch hprogress
  cases move_of_step hstep with
  | gateway | refused | started | entered | unprepared | loginFailed | responded | deleted
  | missed | answered => trivial
  | @droppedLogin rid r g found stage call =>
    intro r' found'
    obtain rfl := Option.some.inj (found.symm.trans found')
    refine hnone rid r found rfl ?_ ?_
    · rw [lookup_setBasic, if_pos rfl]
    · cases Gateway.move_of_step call with
      | loginDropped => rfl
  | @droppedHandler rid r found stage =>
    intro r' found'
    obtain rfl := Option.some.inj (found.symm.trans found')
    refine hnone rid r found rfl ?_ rfl
    rw [lookup_setBasic, if_pos rfl]

/-! ## Responses that are lost -/

/-- What holds of the answers. -/
structure AnsweredAll (s : RestGateway Digest) : Prop where
  delivered : s.ResponsesDelivered
  early : ∀ rid r, s.basic.lookup rid = some r → r.stage = .creating → r.response = none

omit [DecidableEq Digest] [SessionTokenDigest Digest] in
/-- A request that goes on. -/
theorem AnsweredAll.setBasic (h : AnsweredAll s)
    (hanswer : ∀ status answer, r.response = some status → isSuccess status = true →
      r.stage = .answered answer → answer = .handler status)
    (hearly : r.stage = .creating → r.response = none) :
    AnsweredAll ((s.setGateway g).setBasic rid r) where
  delivered k r' status answer hr' :=
    AList.forall_lookup_insert (P := fun _ r => r.response = some status →
      isSuccess status = true → r.stage = .answered answer → answer = .handler status)
      (hanswer status answer) (fun k r' _ hr' => h.delivered k r' status answer hr') k r' hr'
  early := AList.forall_lookup_insert hearly fun k r' _ hr' => h.early k r' hr'

omit [DecidableEq Digest] [SessionTokenDigest Digest] in
/-- A request that goes on to a stage where it has no answer yet. -/
theorem AnsweredAll.goesOn (h : AnsweredAll s) {stage : BasicStage} {response teardown : Option ℕ}
    {token : String} (hopen : ∀ answer, stage ≠ .answered answer) (hlate : stage ≠ .creating) :
    AnsweredAll ((s.setGateway g).setBasic rid
      { token := token, stage := stage, response := response, teardown := teardown }) :=
  h.setBasic (fun _ answer _ _ hstage => absurd hstage (hopen answer))
    fun hstage => absurd hstage hlate

theorem answeredAll_step (h : AnsweredAll s) (hcond : s.DeletesRegistered a)
    (hstep : s.step a = some t) : AnsweredAll t := by
  cases move_of_step hstep with
  | gateway other call => exact ⟨h.delivered, h.early⟩
  | refused => exact h
  | started free fresh login call =>
    exact h.setBasic (fun _ _ hresponse => nomatch hresponse) fun _ => rfl
  | entered found stage login => exact h.goesOn (g := s.gateway) nofun nofun
  | unprepared found stage login => exact h.goesOn (g := s.gateway) nofun nofun
  | loginFailed found stage login =>
    refine h.setBasic (g := s.gateway) (fun status answer hresponse => ?_) nofun
    exact nomatch (h.early _ _ found stage).symm.trans hresponse
  | responded found stage => exact h.goesOn (g := s.gateway) nofun nofun
  | deleted found stage call session => exact h.goesOn nofun nofun
  -- the middleware then answers with the error of `delete_session`
  | @missed rid id r g found stage call session =>
    refine h.setBasic (fun status answer hresponse hsuccess hanswer => ?_) nofun
    have hregistered := hcond r found status hresponse hsuccess
    rw [registered_eq_zero.mp session] at hregistered
    exact nomatch hregistered
  | @answered rid r found stage returned =>
    refine h.setBasic (g := s.gateway) (fun status answer hresponse _ hanswer => ?_) nofun
    have hresponse : r.response = some status := hresponse
    rw [← BasicStage.answered.inj hanswer, hresponse]
    rfl
  | droppedLogin found stage call => exact h.goesOn nofun nofun
  | droppedHandler found stage => exact h.goesOn (g := s.gateway) nofun nofun

/-- A teardown that misses the session answers with an error. -/
theorem deletesRegistered_of_delivered (hstep : s.step a = some t) (ht : t.ResponsesDelivered) :
    s.DeletesRegistered a := by
  cases move_of_step hstep with
  | gateway | refused | started | entered | unprepared | loginFailed | responded | answered
  | droppedLogin | droppedHandler => trivial
  | @deleted rid id r g found stage call session =>
    intro r' found' status _ _
    obtain rfl := Option.some.inj (found.symm.trans found')
    unfold registered at session
    by_contra hnone
    rw [if_neg hnone] at session
    exact nomatch session
  | @missed rid id r g found stage call session =>
    intro r' found' status hresponse hsuccess
    obtain rfl := Option.some.inj (found.symm.trans found')
    have hresponse : r.response = some status := hresponse
    have hanswer := ht rid _ status _ (AList.lookup_insert s.basic) hresponse hsuccess rfl
    rw [hresponse, teardownAnswer, hsuccess] at hanswer
    exact nomatch hanswer

/-! ## Sessions that are kept -/

/-- A request that has not begun its teardown has its session. -/
structure Kept (s : RestGateway Digest) (r : BasicRequest) : Prop where
  issued : s.gateway.login (fromToken r.token) ≠ .unissued
  creating : r.stage = .creating → s.gateway.login (fromToken r.token) = .ended ∨
    registered s.gateway.sessions (fromToken r.token) = 1
  handling : r.stage = .handling ∨ r.stage = .leaving →
    s.gateway.login (fromToken r.token) = .returned ∧
      registered s.gateway.sessions (fromToken r.token) = 1

/-- Every request in progress has its session. -/
structure KeptAll (s : RestGateway Digest) : Prop where
  lives : ∀ d, (s.gateway.life d).Inv
  distinct : ∀ k k' r r', s.basic.lookup k = some r → s.basic.lookup k' = some r' →
    (fromToken r.token : Digest) = fromToken r'.token → k = k'
  requests : ∀ k r, s.basic.lookup k = some r → s.Kept r

/-- A call that removes no session of a request in progress. -/
theorem KeptAll.call (h : KeptAll s) (call : s.gateway.step b = some g)
    (hkeep : ∀ k r, s.basic.lookup k = some r → r.inProgress = true →
      ¬ s.gateway.Removes (fromToken r.token) b) : KeptAll (s.setGateway g) where
  lives d := Life.inv_step (h.lives d) (Gateway.life_step (h.lives d) call)
  distinct := h.distinct
  requests k r hr := by
    have hkept := h.requests k r hr
    have hlife := Gateway.life_step (h.lives (fromToken r.token)) call
    have houtcome : s.gateway.login (fromToken r.token) = .returned ∨
        s.gateway.login (fromToken r.token) = .ended →
        g.login (fromToken r.token) = s.gateway.login (fromToken r.token) :=
      fun hover => Life.outcome_step hover hlife
    refine ⟨issued_call (h.lives _) call hkept.issued, fun hstage => ?_, fun hstage => ?_⟩
    -- the session goes only when its own login is turned down
    · rcases hkept.creating hstage with hended | hregistered
      · exact .inl ((houtcome (.inr hended)).trans hended)
      · have hprogress : r.inProgress = true := inProgress_iff.mpr (.inl hstage)
        exact (Gateway.registered_step call hregistered (hkeep k r hr hprogress)).symm
    · obtain ⟨hreturned, hregistered⟩ := hkept.handling hstage
      have hprogress : r.inProgress = true := inProgress_iff.mpr (.inr hstage)
      have hlogin := (houtcome (.inl hreturned)).trans hreturned
      rcases Gateway.registered_step call hregistered (hkeep k r hr hprogress) with hreg | hended
      · exact ⟨hlogin, hreg⟩
      · exact nomatch hlogin.symm.trans hended

theorem KeptAll.setBasic (h : KeptAll s) (hkept : s.Kept r)
    (hdistinct : ∀ k r', k ≠ rid → s.basic.lookup k = some r' →
      (fromToken r'.token : Digest) ≠ fromToken r.token) : KeptAll (s.setBasic rid r) where
  lives := h.lives
  distinct k k' r₁ r₂ hr₁ hr₂ hsame := by
    rw [lookup_setBasic] at hr₁ hr₂
    -- two requests with one token: the new one is compared with each of the old
    by_cases hk : k = rid
    · rw [if_pos hk] at hr₁
      obtain rfl := Option.some.inj hr₁
      by_cases hk' : k' = rid
      · rw [hk, hk']
      · rw [if_neg hk'] at hr₂
        exact absurd hsame.symm (hdistinct k' r₂ hk' hr₂)
    · rw [if_neg hk] at hr₁
      by_cases hk' : k' = rid
      · rw [if_pos hk'] at hr₂
        obtain rfl := Option.some.inj hr₂
        exact absurd hsame (hdistinct k r₁ hk hr₁)
      · rw [if_neg hk'] at hr₂
        exact h.distinct k k' r₁ r₂ hr₁ hr₂ hsame
  requests := by
    apply AList.forall_lookup_insert
    · exact ⟨hkept.issued, hkept.creating, hkept.handling⟩
    · intro k r' _ hr'
      have hother := h.requests k r' hr'
      exact ⟨hother.issued, hother.creating, hother.handling⟩

/-- A request that keeps its token goes on. -/
theorem KeptAll.goesOn (h : KeptAll s) {r' : BasicRequest} (found : s.basic.lookup rid = some r)
    (htoken : r'.token = r.token) (hkept : s.Kept r') : KeptAll (s.setBasic rid r') := by
  apply h.setBasic hkept
  intro k r₀ hk hr₀ hsame
  rw [htoken] at hsame
  exact hk (h.distinct k rid r₀ r hr₀ found hsame)

/-- Once a request is over, or has begun its teardown, only its login counts. -/
theorem Kept.leave (h : s.Kept r) {stage : BasicStage} {response teardown : Option ℕ}
    (hstage : stage ≠ .creating ∧ stage ≠ .handling ∧ stage ≠ .leaving) :
    s.Kept { token := r.token, stage := stage, response := response, teardown := teardown } where
  issued := h.issued
  creating heq := absurd heq hstage.1
  handling heq := by
    rcases heq with heq | heq
    · exact absurd heq hstage.2.1
    · exact absurd heq hstage.2.2

/-- A request whose login has returned goes on with its session. -/
theorem Kept.enter (h : s.Kept r) (hstage : r.stage = .creating)
    (hlogin : s.gateway.creates.lookup (fromToken r.token) = some .returned)
    (stage : BasicStage) (hlate : stage ≠ .creating) : s.Kept (r.atStage stage) where
  issued := h.issued
  creating heq := absurd heq hlate
  handling _ := by
    have hreturned : s.gateway.login (fromToken r.token) = .returned :=
      Gateway.login_of_lookup hlogin
    rcases h.creating hstage with hended | hregistered
    · exact nomatch hreturned.symm.trans hended
    · exact ⟨hreturned, hregistered⟩

/-- A login that opens a session registers it. -/
theorem registered_started {token user : String} {order : List Digest} {g g' : Gateway Digest}
    (fresh : g.creates.lookup (fromToken token) = none)
    (login : (g'.creates.lookup (fromToken token)).isSome)
    (call : g.step (.createSession token user order) = some g') :
    registered g'.sessions (fromToken token) = 1 := by
  cases Gateway.move_of_step call with
  | loginRefused =>
    rw [fresh] at login
    exact nomatch login
  | loginOpened =>
    show registered (SessionManager.put _ _ _) (fromToken token) = 1
    rw [registered_put, if_pos rfl]

/-- The drain of a step that keeps the sessions finds none of them expired. -/
theorem not_expired_of_keeps {k : ℕ} (hr : s.basic.lookup k = some r)
    (hprogress : r.inProgress = true)
    (hlive : ∀ e ∈ s.basic.entries, e.2.inProgress = true →
      ∀ stored ∈ s.gateway.sessions.inner.lookup (fromToken e.2.token),
        stored.isExpiredAt s.gateway.now s.gateway.sessions.idleTimeoutSecs = false) :
    ¬ ∃ stored, s.gateway.sessions.inner.lookup (fromToken r.token) = some stored ∧
      stored.isExpiredAt s.gateway.now s.gateway.sessions.idleTimeoutSecs = true := by
  rintro ⟨stored, hstored, hexpired⟩
  have hkept := hlive ⟨k, r⟩ (AList.mem_entries_iff.mpr hr) hprogress stored hstored
  rw [hexpired] at hkept
  exact nomatch hkept

theorem not_removes_of_keeps {k : ℕ} (hcond : s.KeepsSessions (.gateway b))
    (hr : s.basic.lookup k = some r) (hprogress : r.inProgress = true) :
    ¬ s.gateway.Removes (fromToken r.token) b := by
  cases b with
  | createSession | sweepOnce => exact not_expired_of_keeps hr hprogress hcond
  | deleteSession => exact hcond ⟨k, r⟩ (AList.mem_entries_iff.mpr hr) hprogress
  | tick | touch | expire | createStep | authenticate | dropCreate | sweepStep | cancelJobs
  | deleteStep | createReportExportJob | dropCheck | holdSession | enqueueStep | workerStep
  | exportDone | dropWorker | cancelJobRecord | jobSnapshot | jobArtifact | sweepExpiredJobs =>
    exact fun hremoves => hremoves

theorem keptAll_step (h : KeptAll s) (hcond : s.KeepsSessions a) (hstep : s.step a = some t) :
    KeptAll t := by
  cases move_of_step hstep with
  | gateway other call =>
    exact h.call call fun k r hr hprogress => not_removes_of_keeps hcond hr hprogress
  | refused => exact h
  | @started rid request decoded token user order g free fresh login call =>
    have hcall := h.call call fun k r hr hprogress => not_expired_of_keeps hr hprogress hcond
    obtain ⟨stage, hstage⟩ := Option.isSome_iff_exists.mp login
    apply hcall.setBasic
    · exact ⟨login_ne_unissued g hstage, fun _ => .inr (registered_started fresh login call),
        fun heq => by simp at heq⟩
    · -- the token is fresh
      intro k r hk hr hsame
      have hissued := (h.requests k r hr).issued
      rw [hsame] at hissued
      exact hissued (Gateway.login_eq_unissued fresh)
  | entered found stage login =>
    exact h.goesOn found rfl ((h.requests _ _ found).enter stage login _ nofun)
  | unprepared found stage login =>
    exact h.goesOn found rfl ((h.requests _ _ found).enter stage login _ nofun)
  | loginFailed found stage login =>
    exact h.goesOn found rfl ((h.requests _ _ found).leave (by simp))
  | responded found stage =>
    have hkept := h.requests _ _ found
    exact h.goesOn found rfl ⟨hkept.issued, nofun, fun _ => hkept.handling (.inl stage)⟩
  | @deleted rid id r g found stage call session =>
    have hleft : KeptAll (s.setBasic rid { r with stage := .deleting, teardown := some id }) :=
      h.goesOn found rfl ((h.requests _ _ found).leave (by simp))
    -- the deletion removes the session of this request, and tokens are distinct
    refine hleft.call call fun k r' hr' hprogress hremoves => ?_
    have hr' : (s.basic.insert rid _).lookup k = some r' := hr'
    rw [AList.lookup_insert_eq_ite] at hr'
    split at hr'
    · obtain rfl := Option.some.inj hr'
      exact nomatch hprogress
    · next hk => exact hk (h.distinct k rid r' r hr' found hremoves)
  -- a kept session is found
  | missed found stage call session =>
    have hregistered := ((h.requests _ _ found).handling (.inr stage)).2
    rw [session] at hregistered
    exact nomatch hregistered
  | answered found stage returned =>
    exact h.goesOn found rfl ((h.requests _ _ found).leave (by simp))
  | @droppedLogin rid r g found stage call =>
    have hleft : KeptAll (s.setBasic rid (r.atStage .dropped)) :=
      h.goesOn found rfl ((h.requests _ _ found).leave (by simp))
    exact hleft.call call fun _ _ _ _ hremoves => hremoves
  | droppedHandler found stage =>
    exact h.goesOn found rfl ((h.requests _ _ found).leave (by simp))

/-- Kept sessions are there when they are deleted. -/
theorem KeptAll.deletesRegistered (h : KeptAll s) (hstep : s.step a = some t) :
    s.DeletesRegistered a := by
  cases move_of_step hstep with
  | gateway | refused | started | entered | unprepared | loginFailed | responded | answered
  | droppedLogin | droppedHandler => trivial
  | deleted found stage call session | missed found stage call session =>
    intro r' found' _ _ _
    obtain rfl := Option.some.inj (found.symm.trans found')
    have hregistered := ((h.requests _ _ found).handling (.inr stage)).2
    unfold registered at hregistered
    by_contra hnone
    rw [if_neg hnone] at hregistered
    exact nomatch hregistered

/-! ## Runs -/

variable {now idle : ℕ} {limits : SessionLimits} {policy : JobPolicy}

/-- The sessions of Basic requests end with them in every state of a run, if and only if no
request is dropped while its session is registered. Every request whose handler succeeded is
answered with its response, if and only if its session is still registered when the request is torn
down, as it is in a run in which no login, sweep or client removes the session of a request in
progress. -/
theorem basic_sessions_end_with_requests (now idle : ℕ) (limits : SessionLimits)
    (policy : JobPolicy) (as : List (Action Digest)) :
    (Along step (fun s a _ => s.DropsNoSession a) (new Digest now idle limits policy) as ↔
      Along step (fun _ _ t => t.SessionsBelong) (new Digest now idle limits policy) as) ∧
    (Along step (fun s a _ => s.DeletesRegistered a) (new Digest now idle limits policy) as ↔
      Along step (fun _ _ t => t.ResponsesDelivered) (new Digest now idle limits policy) as) ∧
    (Along step (fun s a _ => s.KeepsSessions a) (new Digest now idle limits policy) as →
      Along step (fun s a _ => s.DeletesRegistered a) (new Digest now idle limits policy) as) := by
  refine ⟨?_, ?_, ?_⟩
  -- the sessions of Basic requests belong to requests in progress
  · refine along_congr (I := OwnedAll) ?_ ?_ ?_
    · intro s a t h hC ht
      exact ownedAll_step h hC ht
    · intro s a t h ht
      constructor
      · intro hC
        exact (ownedAll_step h hC ht).sessionsBelong
      · exact dropsNoSession_of_belong ht
    · exact ⟨Gateway.life_inv_new now idle limits policy, fun _ _ hfailed => (nomatch hfailed),
        fun _ _ hr => (nomatch hr)⟩
  · refine along_congr (I := AnsweredAll) ?_ ?_ ?_
    · intro s a t h hC ht
      exact answeredAll_step h hC ht
    · intro s a t h ht
      constructor
      · intro hC
        exact (answeredAll_step h hC ht).delivered
      · exact deletesRegistered_of_delivered ht
    · exact ⟨fun _ _ _ _ hr => (nomatch hr), fun _ _ hr => (nomatch hr)⟩
  · refine along_imp (I := KeptAll) ?_ ?_ ?_
    · intro s a t h hC ht
      exact keptAll_step h hC ht
    · intro s a t h _ ht
      exact h.deletesRegistered ht
    · exact ⟨Gateway.life_inv_new now idle limits policy, fun _ _ _ _ hr => (nomatch hr),
        fun _ _ hr => (nomatch hr)⟩

/-- A request for the tasks with Basic credentials. -/
def tasksRequest : Request :=
  { method := .get, path := "/api/v1/tasks", authorization := some "Basic YWxpY2U6cHc=",
    forwardedFor := none, peer := none }

/-- A login for the request that has reached gvmd. -/
def tasksLogin : List (Action String) :=
  [.basicStart 0 tasksRequest (.ok "alice:pw") "a" [], .gateway (.createStep "a")]

/-- A handler that takes 400 seconds, during which the reaper finds the session expired. -/
def slowHandler : List (Action String) :=
  [.gateway (.authenticate "a" (.ok ())), .gateway (.createStep "a"), .basicCreated 0,
    .gateway (.tick 400), .gateway (.sweepOnce 0 ["a"]), .basicResponse 0 200]

/-- A handler that takes 100 seconds, during which the reaper passes by and another client logs in
and out. -/
def quickHandler : List (Action String) :=
  [.gateway (.authenticate "a" (.ok ())), .gateway (.createStep "a"), .basicCreated 0,
    .gateway (.tick 100), .gateway (.sweepOnce 0 []), .gateway (.createSession "b" "bob" []),
    .gateway (.createStep "b"), .gateway (.authenticate "b" (.ok ())),
    .gateway (.createStep "b"), .gateway (.deleteSession 0 "b"), .basicResponse 0 200,
    .basicDelete 0 1, .gateway (.cancelJobs 1 []), .gateway (.deleteStep 1),
    .gateway (.deleteStep 1), .basicAnswer 0]

instance decidableKeepsSessions (s : RestGateway String) :
    (a : Action String) → Decidable (s.KeepsSessions a)
  | a => by
    unfold KeepsSessions
    split <;> infer_instance

/-- The session is kept, and the response arrives. -/
example : ∃ s : RestGateway String,
    run step (new String 0 300 {} {}) (tasksLogin ++ quickHandler) = some s ∧
    s.basic.lookup 0 = some
      { token := "a", stage := .answered (.handler 200), response := some 200,
        teardown := some 1 } ∧
    Along step (fun s a _ => s.KeepsSessions a) (new String 0 300 {} {})
      (tasksLogin ++ quickHandler) :=
  ⟨_, rfl, rfl, by decide⟩

/-- A request that is dropped while gvmd authenticates leaves its session behind; one whose handler
outlasts the idle timeout is answered with the error of its own teardown. -/
theorem basic_session_outlives_or_precedes_request :
    (∃ s : RestGateway String,
      run step (new String 0 300 {} {}) (tasksLogin ++ [.basicDrop 0]) = some s ∧
      ¬ s.SessionsBelong) ∧
    (∃ s : RestGateway String,
      run step (new String 0 300 {} {}) (tasksLogin ++ slowHandler ++ [.basicDelete 0 0]) = some s ∧
      s.basic.lookup 0 = some
        { token := "a", stage := .answered (.error (.notFound "session not found")),
          response := some 200, teardown := none } ∧
      ¬ s.ResponsesDelivered) := by
  constructor
  · refine ⟨_, rfl, fun hbelong => ?_⟩
    have hprogress := hbelong 0 _ rfl _ rfl
    exact nomatch hprogress
  · refine ⟨_, rfl, rfl, fun hdelivered => ?_⟩
    have hanswer := hdelivered 0 _ 200 _ rfl rfl rfl rfl
    exact nomatch hanswer

end RestGateway
end GvmGateway.Rest

import GvmGateway.Rest.RateLimitBursts
import GvmGateway.Server.RequestTheorems

/-!
# How many requests get past the limiter

The limiter is asked by the security middleware alone, once in each stage of `check_request`. So
what it admits in a stretch of time bounds the requests that reach the gate and their handlers.
A request may be delayed between its reading of the clock and a lock, and again before the next
lock; the bounds are for the runs in which the readings reach the limiter in their order.
-/

namespace GvmGateway

open Shutdown TransitionSystem Rest
open FixedWindow (admissions)
open RateLimiter (inquire)

namespace Http

/-- A stage of `check_request` for a request, and its answer. -/
structure Asked where
  id : ℕ
  inquiry : Inquiry
  answer : Option ℕ
deriving DecidableEq

/-- The answers that let a request through the stage. -/
def passedAt (stage : CheckStage) (os : List Asked) : List Asked :=
  os.filter fun e => e.inquiry.stage = stage ∧ e.answer = none

/-- The requests that the limiter has admitted, with the readings of the clock for them. -/
def admitted (os : List Asked) : List (ℕ × Arrival) :=
  (passedAt .subject os).map fun e => (e.id, ⟨e.inquiry.request, e.inquiry.now⟩)

/-- The request has still to go through the stage of `check_request`. -/
def RequestStage.awaits (stage : CheckStage) : RequestStage → Bool
  | .received | .checking _ .global => true
  | .checking _ .subject => stage = .subject
  | _ => false

/-- What the stage before the subject's has answered. -/
def Asked.global (e : Asked) : Asked := ⟨e.id, { e.inquiry with stage := .global }, none⟩

theorem map_inquiry_admissions (os : List Asked) :
    (os.filter fun e => e.answer = none).map Asked.inquiry =
      admissions (os.map Asked.inquiry) (os.map Asked.answer) := by
  induction os with
  | nil => rfl
  | cons e os ih =>
    obtain ⟨id, inquiry, answer⟩ := e
    cases answer with
    | none => exact congrArg (inquiry :: ·) ih
    | some retryAfter => exact ih

namespace HttpServer

variable {s t : HttpServer} {config : RestSecurityConfig} {os : List Asked}

/-- What the limiter is asked in a step. -/
def asked (s : HttpServer) : Action → List Asked
  | .check id =>
    match s.requests.lookup id with
    | some ⟨request, .checking now stage⟩ =>
      [⟨id, ⟨request.toRequest, now, stage⟩,
        (s.security.limiter.checkStage request.toRequest now stage).1⟩]
    | _ => []
  | _ => []

/-- What the limiter has been asked so far has made it what it is, and a request that has got
past a stage is among those that the stage has let through. -/
structure History (config : RestSecurityConfig) (os : List Asked) (s : HttpServer) : Prop where
  limiter : s.security.limiter = Mealy.final inquire
    (.new config.rateLimit config.trustedProxyCidrs) (os.map Asked.inquiry)
  answers : os.map Asked.answer = Mealy.outputs inquire
    (.new config.rateLimit config.trustedProxyCidrs) (os.map Asked.inquiry)
  once : (os.map fun e => (e.id, e.inquiry.stage)).Nodup
  known : ∀ e ∈ os, ∃ call, s.requests.lookup e.id = some call ∧
    call.stage.awaits e.inquiry.stage = false
  /-- The subject's stage comes after the global one, with the same reading. -/
  ordered : ∀ e ∈ os, e.inquiry.stage = .subject → e.global ∈ os
  halfway : ∀ id request now, s.requests.lookup id = some ⟨request, .checking now .subject⟩ →
    ⟨id, ⟨request.toRequest, now, .global⟩, none⟩ ∈ os
  admitted : ∀ id call, s.requests.lookup id = some call → call.stage.isAdmitted = true →
    isRateLimitedPath call.request.path = true →
      ∃ now, ⟨id, ⟨call.request.toRequest, now, .subject⟩, none⟩ ∈ os

theorem awaits_of_isAdmitted {stage : RequestStage} {other : CheckStage}
    (h : stage.isAdmitted = true) : stage.awaits other = false := by
  cases stage with
  | received | checking => cases h
  | _ => rfl

theorem history_new (now drainTimeout : ℕ) : History config [] (new config now drainTimeout) where
  limiter := rfl
  answers := rfl
  once := List.nodup_nil
  known _ h := absurd h List.not_mem_nil
  ordered _ h := absurd h List.not_mem_nil
  halfway _ _ _ h := by cases h
  admitted _ _ h := by cases h

/-- A request goes on without a question to the limiter. -/
theorem History.unasked {id : ℕ} {request : HttpRequest} {stage : RequestStage}
    (hs : History config os s) (hsecurity : t.security = s.security)
    (hrequests : t.requests = s.requests.insert id ⟨request, stage⟩)
    (hknown : ∀ other, (∃ call, s.requests.lookup id = some call ∧ call.stage.awaits other = false) →
      stage.awaits other = false)
    (hhalfway : ∀ now, stage ≠ .checking now .subject)
    (hadmitted : stage.isAdmitted = true → isRateLimitedPath request.path = true →
      ∃ now, ⟨id, ⟨request.toRequest, now, .subject⟩, none⟩ ∈ os) : History config os t where
  limiter := by rw [hsecurity, hs.limiter]
  answers := hs.answers
  once := hs.once
  known e he := by
    obtain ⟨call, hcall, hpast⟩ := hs.known e he
    rw [hrequests, AList.lookup_insert_eq_ite]
    split
    · next heq => exact ⟨_, rfl, hknown _ ⟨call, heq ▸ hcall, hpast⟩⟩
    · exact ⟨call, hcall, hpast⟩
  ordered := hs.ordered
  halfway j r now hj := by
    rw [hrequests, AList.lookup_insert_eq_ite] at hj
    split at hj
    · next heq =>
      obtain ⟨-, hstage⟩ := HttpCall.mk.inj (Option.some.inj hj)
      exact absurd hstage (hhalfway now)
    · exact hs.halfway j r now hj
  admitted := by
    rw [hrequests]
    apply AList.forall_lookup_insert
    · exact hadmitted
    · intro j call _
      exact hs.admitted j call

/-- A request that is past the limiter goes on. -/
theorem History.goesOn {id : ℕ} {request : HttpRequest} {stage stage' : RequestStage}
    (hs : History config os s) (hcall : s.requests.lookup id = some ⟨request, stage⟩)
    (hstage : stage.isAdmitted = true) (hnew : stage'.isAdmitted = true)
    (hsecurity : t.security = s.security)
    (hrequests : t.requests = s.requests.insert id ⟨request, stage'⟩) : History config os t := by
  refine hs.unasked hsecurity hrequests (fun other _ => awaits_of_isAdmitted hnew) ?_ fun _ => ?_
  · rintro now rfl
    cases hnew
  · exact hs.admitted id ⟨request, stage⟩ hcall hstage

/-- The middleware meets a request. -/
theorem History.screened {id now : ℕ} {request : HttpRequest} (hs : History config os s)
    (hcall : s.requests.lookup id = some ⟨request, .received⟩) :
    History config os (s.setCall id request (stageOf now (s.security.screen request))) := by
  refine hs.unasked rfl rfl ?_ ?_ ?_
  · rintro other ⟨call, hlookup, hpast⟩
    obtain rfl := Option.some.inj (hlookup.symm.trans hcall)
    cases hpast
  · intro moment
    cases s.security.screen request <;> exact fun h => by cases h
  · unfold SecurityRuntime.screen
    split
    · exact fun h => by cases h
    · split
      · exact fun h => by cases h
      · next hlimited => exact fun _ h => absurd h hlimited

/-- A stage of `check_request` gives its answer. -/
theorem History.asked {id now : ℕ} {request : HttpRequest} {stage : CheckStage}
    {next : RequestStage} {answer : Option ℕ} {limiter : RateLimiter} (hs : History config os s)
    (hcall : s.requests.lookup id = some ⟨request, .checking now stage⟩)
    (hchecked : s.security.limiter.checkStage request.toRequest now stage = (answer, limiter))
    (hpast : next.awaits stage = false)
    (hlater : ∀ other, (RequestStage.checking now stage).awaits other = false →
      next.awaits other = false)
    (hhalfway : ∀ moment, next = .checking moment .subject →
      moment = now ∧ stage = .global ∧ answer = none)
    (hadmitted : next.isAdmitted = true → stage = .subject ∧ answer = none) :
    History config (os ++ [⟨id, ⟨request.toRequest, now, stage⟩, answer⟩])
      ((s.withLimiter limiter).setCall id request next) := by
  have hinquire : inquire (Mealy.final inquire (.new config.rateLimit config.trustedProxyCidrs)
      (os.map Asked.inquiry)) ⟨request.toRequest, now, stage⟩ = (answer, limiter) := by
    rw [← hs.limiter]
    exact hchecked
  -- what has been asked before is still on record
  have hold : ∀ {e}, e ∈ os → e ∈ os ++ [⟨id, ⟨request.toRequest, now, stage⟩, answer⟩] :=
    fun he => List.mem_append_left _ he
  constructor
  · rw [List.map_append, List.map_singleton, Mealy.final_concat, hinquire]
    rfl
  · rw [List.map_append, List.map_append, List.map_singleton, List.map_singleton,
      Mealy.outputs_concat, hinquire, hs.answers]
  -- no request asks at one stage twice: it would have to await the stage still
  · rw [List.map_append, List.map_singleton, ← List.concat_eq_append]
    refine List.Nodup.concat (fun hmem => ?_) hs.once
    obtain ⟨e, he, heq⟩ := List.mem_map.mp hmem
    obtain ⟨hid, hstage⟩ := Prod.mk.inj heq
    obtain ⟨call, hknown, hawaits⟩ := hs.known e he
    rw [hid, hcall] at hknown
    obtain rfl := Option.some.inj hknown
    rw [hstage] at hawaits
    cases stage <;> cases hawaits
  · intro e he
    show ∃ call, (s.requests.insert id _).lookup e.id = some call ∧ _
    rw [AList.lookup_insert_eq_ite]
    rcases List.mem_append.mp he with hearlier | hlast
    · obtain ⟨call, hknown, hawaits⟩ := hs.known e hearlier
      split
      · next heq =>
        rw [heq, hcall] at hknown
        obtain rfl := Option.some.inj hknown
        exact ⟨_, rfl, hlater _ hawaits⟩
      · exact ⟨call, hknown, hawaits⟩
    · obtain rfl := List.mem_singleton.mp hlast
      rw [if_pos rfl]
      exact ⟨_, rfl, hpast⟩
  -- the stage of the subject is reached from the global one, which has just let the request through
  · intro e he hsubject
    rcases List.mem_append.mp he with hearlier | hlast
    · exact hold (hs.ordered e hearlier hsubject)
    · obtain rfl := List.mem_singleton.mp hlast
      obtain rfl : stage = .subject := hsubject
      exact hold (hs.halfway id request now hcall)
  · intro j other moment hj
    have hj' : (s.requests.insert id ⟨request, next⟩).lookup j =
        some ⟨other, .checking moment .subject⟩ := hj
    rw [AList.lookup_insert_eq_ite] at hj'
    split at hj'
    · next heq =>
      subst heq
      obtain ⟨rfl, hnext⟩ := HttpCall.mk.inj (Option.some.inj hj')
      obtain ⟨rfl, rfl, rfl⟩ := hhalfway moment hnext
      exact List.mem_append_right _ List.mem_cons_self
    · exact hold (hs.halfway j other moment hj')
  -- admitted, by the last stage
  · apply AList.forall_lookup_insert
    · intro hnext _
      obtain ⟨rfl, rfl⟩ := hadmitted hnext
      exact ⟨now, List.mem_append_right _ List.mem_cons_self⟩
    · intro j call _ hj hstage hlimited
      obtain ⟨moment, hmem⟩ := hs.admitted j call hj hstage hlimited
      exact ⟨moment, hold hmem⟩

theorem history_step {a : Action} (hs : History config os s) (h : s.step a = some t) :
    History config (os ++ s.asked a) t := by
  have hasked : ∀ {id request now stage},
      s.requests.lookup id = some ⟨request, .checking now stage⟩ →
      s.asked (.check id) = [⟨id, ⟨request.toRequest, now, stage⟩,
        (s.security.limiter.checkStage request.toRequest now stage).1⟩] := by
    intro id request now stage hcall
    simp only [HttpServer.asked, hcall]
  -- most steps ask the limiter nothing
  have hquiet : s.asked a = [] → (History config os t → History config (os ++ s.asked a) t) := by
    intro hnone ht
    rw [hnone, List.append_nil]
    exact ht
  cases move_of_step h with
  | @received id request _ fresh =>
    refine hquiet rfl (hs.unasked rfl rfl ?_ (fun now h => by cases h) fun h => by cases h)
    rintro other ⟨call, hlookup, -⟩
    rw [fresh] at hlookup
    cases hlookup
  | screened call => exact hquiet rfl (hs.screened call)
  | @refused id now request stage retryAfter limiter call checked =>
    rw [hasked call, checked]
    exact hs.asked call checked rfl (fun _ _ => rfl) (fun _ h => by cases h) fun h => by cases h
  | @granted id now request stage limiter call checked =>
    rw [hasked call, checked]
    cases stage with
    -- halfway: the same reading goes on to the stage of the subject
    | global =>
      refine hs.asked call checked rfl (fun other h => by cases h) (fun moment h => ?_)
        fun h => by cases h
      obtain ⟨rfl, -⟩ := RequestStage.checking.inj h
      exact ⟨rfl, rfl, rfl⟩
    | subject =>
      exact hs.asked call checked rfl (fun _ _ => rfl) (fun _ h => by cases h)
        fun _ => ⟨rfl, rfl⟩
  | bypassed call => exact hquiet rfl (hs.goesOn call rfl rfl rfl rfl)
  | @asked id request r call =>
    obtain ⟨stage, hrequests, hnew, hsecurity⟩ := s.tracked_goesOn r id request
    exact hquiet rfl (hs.goesOn call rfl hnew hsecurity hrequests)
  | @asking id request r call =>
    obtain ⟨stage, hrequests, hnew, hsecurity⟩ := s.tracked_goesOn r id request
    exact hquiet rfl (hs.goesOn call rfl hnew hsecurity hrequests)
  | responded call => exact hquiet rfl (hs.goesOn call rfl rfl rfl rfl)
  | dropped call => exact hquiet rfl (hs.goesOn call rfl rfl rfl rfl)
  | @left id request response r a leaves call =>
    have hnone : s.asked a = [] := by
      cases a with
      | check => cases leaves
      | _ => rfl
    obtain ⟨stage, hrequests, hnew, hsecurity⟩ := s.released_goesOn r id request response
    exact hquiet hnone (hs.goesOn call rfl hnew hsecurity hrequests)
  | @finished id request response r call =>
    obtain ⟨stage, hrequests, hnew, hsecurity⟩ := s.released_goesOn r id request response
    exact hquiet rfl (hs.goesOn call rfl hnew hsecurity hrequests)
  | processed => exact hquiet rfl { hs with }

/-! ## Runs -/

/-- The requests that the limiter has admitted in a run, with the readings of the clock that
were taken for them. -/
def admittedRequests (config : RestSecurityConfig) (now drainTimeout : ℕ) (as : List Action) :
    List (ℕ × Arrival) :=
  admitted (trace step asked (new config now drainTimeout) as)

/-- What the limiter is asked in a run, in the order in which the stages take its lock. -/
def inquiries (config : RestSecurityConfig) (now drainTimeout : ℕ) (as : List Action) :
    List Inquiry :=
  locked config.rateLimit
    ((trace step asked (new config now drainTimeout) as).map Asked.inquiry)

variable {now drainTimeout : ℕ} {as : List Action}

theorem history_run (h : run step (new config now drainTimeout) as = some s) :
    History config (trace step asked (new config now drainTimeout) as) s :=
  trace_invariant (I := fun os s => History config os s)
    (fun _ _ _ _ hs hstep => history_step hs hstep) h (history_new now drainTimeout)

/-! ### Counting the admitted -/

/-- The stage lets through at most twice its limit less one of a key's requests. -/
theorem History.countP_passedAt_le (hs : History config os s)
    (hclock : Mealy.Clocked Inquiry.now 0 (locked config.rateLimit (os.map Asked.inquiry)))
    {stage : CheckStage} {limit : ℕ} (hlimit : config.rateLimit.limitAt stage = some limit)
    {key : String} (hkey : ∀ i : Inquiry, i.key config.trustedProxyCidrs = key → i.stage = stage)
    (since : ℕ) :
    (passedAt stage os).countP (fun e => e.inquiry.key config.trustedProxyCidrs = key ∧
      since ≤ e.inquiry.now ∧ e.inquiry.now < since + config.rateLimit.window) ≤
        2 * limit - 1 := by
  have hlimits : Limits config.rateLimit config.trustedProxyCidrs key limit := by
    intro i l hi hl
    rw [hkey i hi, hlimit] at hl
    exact le_of_eq (Option.some.inj hl).symm
  have hle := admittedIn_le hlimits hclock since
  rw [← hs.answers, ← map_inquiry_admissions, admittedIn, locked, List.filter_map,
    List.countP_map, List.filter_filter, List.countP_filter] at hle
  refine le_trans ?_ hle
  rw [passedAt, List.countP_filter]
  apply List.countP_mono_left
  intro e _ he
  simp only [Function.comp_apply, Bool.and_eq_true, decide_eq_true_eq] at he ⊢
  obtain ⟨hin, hstage, hanswer⟩ := he
  refine ⟨hin, ?_, hanswer⟩
  rw [hstage, hlimit]
  rfl

/-- The stage asks about a request once. -/
theorem History.nodup_passedAt (hs : History config os s) (stage : CheckStage) :
    ((passedAt stage os).map Asked.id).Nodup := by
  have hsub : ((passedAt stage os).map fun e => (e.id, e.inquiry.stage)).Nodup :=
    hs.once.sublist (List.filter_sublist.map _)
  have hpairs : ((passedAt stage os).map fun e => (e.id, e.inquiry.stage)) =
      ((passedAt stage os).map Asked.id).map fun id => (id, stage) := by
    rw [List.map_map]
    apply List.map_congr_left
    intro e he
    have hstage : e.inquiry.stage = stage :=
      (of_decide_eq_true (List.mem_filter.mp he).2).1
    rw [Function.comp_apply, hstage]
  rw [hpairs] at hsub
  exact hsub.of_map

/-- What the subject's stage has let through, the global stage has let through before. -/
theorem History.countP_subject_le (hs : History config os s) (p : ℕ → Bool) :
    (passedAt .subject os).countP (fun e => p e.inquiry.now) ≤
      (passedAt .global os).countP fun e => p e.inquiry.now := by
  rw [List.countP_eq_length_filter, List.countP_eq_length_filter, ← List.length_map Asked.global]
  refine List.Subperm.length_le (List.Nodup.subperm ?_ ?_)
  · apply List.Nodup.of_map Asked.id
    rw [List.map_map]
    exact (hs.nodup_passedAt .subject).sublist (List.filter_sublist.map _)
  · intro e he
    obtain ⟨e', he', rfl⟩ := List.mem_map.mp he
    obtain ⟨hpassed, hnow⟩ := List.mem_filter.mp he'
    obtain ⟨hmem, hstage⟩ := List.mem_filter.mp hpassed
    apply List.mem_filter.mpr
    refine ⟨List.mem_filter.mpr ⟨hs.ordered e' hmem (of_decide_eq_true hstage).1, rfl⟩, hnow⟩

/-- While the limiter is asked in the order of the readings of the clock: a request on a limited
path that is past the limiter has been admitted by it, once, and in no stretch of time of one
window's length are there more of them than twice the global limit less one, nor, for any one
subject, than twice the subject's limit less one. -/
theorem admitted_requests_bounded (h : run step (new config now drainTimeout) as = some s)
    (hclock : Mealy.Clocked Inquiry.now 0 (inquiries config now drainTimeout as)) :
    ((admittedRequests config now drainTimeout as).map Prod.fst).Nodup ∧
    (∀ id call, s.requests.lookup id = some call → call.stage.isAdmitted = true →
      isRateLimitedPath call.request.path = true →
        ∃ moment, (id, ⟨call.request.toRequest, moment⟩) ∈
          admittedRequests config now drainTimeout as) ∧
    ∀ since,
      (∀ g, config.rateLimit.globalPerWindow = some g →
        (admittedRequests config now drainTimeout as).countP (fun e =>
          since ≤ e.2.now ∧ e.2.now < since + config.rateLimit.window) ≤ 2 * g - 1) ∧
      ∀ l, config.rateLimit.subjectPerWindow = some l → ∀ subject,
        (admittedRequests config now drainTimeout as).countP (fun e =>
          rateLimitSubject e.2.request config.trustedProxyCidrs = subject ∧
            since ≤ e.2.now ∧ e.2.now < since + config.rateLimit.window) ≤ 2 * l - 1 := by
  have hs := history_run h
  refine ⟨?_, fun id call hcall hstage hlimited => ?_,
    fun since => ⟨fun g hg => ?_, fun l hl subject => ?_⟩⟩
  · rw [admittedRequests, admitted, List.map_map]
    exact hs.nodup_passedAt .subject
  · obtain ⟨moment, hmem⟩ := hs.admitted id call hcall hstage hlimited
    exact ⟨moment, List.mem_map_of_mem (List.mem_filter.mpr ⟨hmem, rfl⟩)⟩
  · have hkey : ∀ i : Inquiry, i.key config.trustedProxyCidrs = "global" → i.stage = .global := by
      rintro ⟨request, moment, stage⟩ hi
      cases stage with
      | global => rfl
      | subject => exact absurd hi (rateLimitSubject_ne_global _ _)
    have hlimit : config.rateLimit.limitAt .global = some g := hg
    have hglobal := hs.countP_passedAt_le hclock hlimit hkey since
    rw [admittedRequests, admitted, List.countP_map]
    -- an admitted request has passed the global stage before, with the same clock reading
    calc _ ≤ (passedAt .global (trace step asked (new config now drainTimeout) as)).countP
          (fun e => decide (since ≤ e.inquiry.now ∧
            e.inquiry.now < since + config.rateLimit.window)) :=
          hs.countP_subject_le fun moment => decide (since ≤ moment ∧
            moment < since + config.rateLimit.window)
      _ ≤ _ := by
          apply List.countP_mono_left
          intro e he hin
          have hstage := (of_decide_eq_true (List.mem_filter.mp he).2).1
          apply decide_eq_true
          refine ⟨?_, of_decide_eq_true hin⟩
          rw [Inquiry.key, hstage]
      _ ≤ 2 * g - 1 := hglobal
  -- "global" is the key of the first stage, and no request has it as its subject
  · by_cases hsubject : subject = "global"
    · rw [List.countP_eq_zero.mpr]
      · exact Nat.zero_le _
      · intro e _ he
        exact rateLimitSubject_ne_global _ _ ((of_decide_eq_true he).1.trans hsubject)
    · have hkey : ∀ i : Inquiry, i.key config.trustedProxyCidrs = subject → i.stage = .subject := by
        rintro ⟨request, moment, stage⟩ hi
        cases stage with
        | global => exact absurd hi.symm hsubject
        | subject => rfl
      have hlimit : config.rateLimit.limitAt .subject = some l := hl
      refine le_trans ?_ (hs.countP_passedAt_le hclock hlimit hkey since)
      rw [admittedRequests, admitted, List.countP_map]
      apply List.countP_mono_left
      intro e he hin
      have hstage := (of_decide_eq_true (List.mem_filter.mp he).2).1
      obtain ⟨hname, hstretch⟩ := of_decide_eq_true hin
      apply decide_eq_true
      refine ⟨?_, hstretch⟩
      rw [Inquiry.key, hstage]
      exact hname

def tasksRequest : HttpRequest := { plainRequest with path := "/api/v1/tasks" }

def twoPerMinute : RestSecurityConfig := ⟨[], ⟨60, some 2, none⟩, [], false⟩

/-- The second request of one window, and the two of the next one. -/
def burst : List Action :=
  [.receive 3 tasksRequest, .secure 3 100, .check 3, .check 3,
    .receive 4 tasksRequest, .secure 4 159, .receive 5 tasksRequest, .secure 5 160,
    .check 4, .check 4, .check 5, .receive 6 tasksRequest, .secure 6 160, .check 6, .check 5,
    .check 6]

theorem admitted_requests_bounded_burst :
    ∃ s, run step (new twoPerMinute 0 30) burst = some s ∧
      (admittedRequests twoPerMinute 0 30 burst).countP (fun e =>
        159 ≤ e.2.now ∧ e.2.now < 159 + twoPerMinute.rateLimit.window) = 3 ∧ 3 ≤ 2 * 2 - 1 := by
  have hrun : ∃ s, run step (new twoPerMinute 0 30) burst = some s := ⟨_, rfl⟩
  rcases hrun with ⟨s, hs⟩
  have hclock : Mealy.Clocked Inquiry.now 0 (inquiries twoPerMinute 0 30 burst) := by decide
  have hcount : (admittedRequests twoPerMinute 0 30 burst).countP (fun e =>
      159 ≤ e.2.now ∧ e.2.now < 159 + twoPerMinute.rateLimit.window) = 3 := by decide
  have hle := ((admitted_requests_bounded hs hclock).2.2 159).1 2 rfl
  rw [hcount] at hle
  exact ⟨s, hs, hcount, hle⟩

end HttpServer
end Http
end GvmGateway

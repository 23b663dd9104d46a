import GvmGateway.Rest.RateLimitQuota

/-!
# Sequences of requests

What a sequence of requests consumes of the global quota and of the quota of one subject.
-/

namespace GvmGateway.Rest

open FixedWindow (Window Windows Accounts admissions check)
open RateLimiter RateLimitState

/-- A request and the second in which it arrives. -/
structure Arrival where
  request : Request
  now : ℕ
deriving DecidableEq, Repr

/-- One request as an input of the limiter. -/
def RateLimiter.arrive (limiter : RateLimiter) (a : Arrival) : Option ℕ × RateLimiter :=
  limiter.checkRequest a.request a.now

/-! ## The calls behind the requests -/

/-- The windows that the limiter's buckets stand for are in step with the calls `cs` that it
has admitted up to the time `t`. -/
def Tracks (t : ℕ) (limiter : RateLimiter) (cs : List (FixedWindow.Call String)) : Prop :=
  ∃ m, Refines limiter.config.window t limiter m ∧ Accounts limiter.config.window t cs m

/-- A new limiter has admitted nothing. -/
theorem tracks_new (config : RateLimitConfig) (trustedProxyCidrs : List TrustedProxyCidr) (t : ℕ) :
    Tracks t (new config trustedProxyCidrs) [] :=
  ⟨∅, refines_new config trustedProxyCidrs t, FixedWindow.accounts_empty _ t⟩

/-- The windows stay right as time goes on. -/
theorem Refines.later {windowSecs t u : ℕ} {limiter : RateLimiter} {m : Windows String}
    (h : Refines windowSecs t limiter m) (hle : t ≤ u) : Refines windowSecs u limiter m :=
  { h with
    pruned := h.pruned.trans hle
    started := fun key bucket hk => (h.started key bucket hk).trans hle
    agree := fun now hnow key => h.agree now (hle.trans hnow) key }

theorem Tracks.later {t u : ℕ} {limiter : RateLimiter} {cs : List (FixedWindow.Call String)}
    (h : Tracks t limiter cs) (hle : t ≤ u) : Tracks u limiter cs := by
  obtain ⟨m, hrefines, hacc⟩ := h
  exact ⟨m, hrefines.later hle, hacc.later hle⟩

/-- One call, admitted or not. -/
theorem Tracks.checkKey {t now : ℕ} {limiter : RateLimiter} {cs : List (FixedWindow.Call String)}
    (h : Tracks t limiter cs) (key : String) (limit : ℕ) (hle : t ≤ now) :
    Tracks now (limiter.checkKey key limit now).2
      (cs ++ admissions [⟨key, limit, now⟩] [(limiter.checkKey key limit now).1]) := by
  by_cases hzero : limit = 0
  · subst hzero
    rw [checkKey_zero, FixedWindow.append_admissions_refused]
    exact h.later hle
  · obtain ⟨m, hrefines, hacc⟩ := h
    have hpos : 1 ≤ limit := Nat.one_le_iff_ne_zero.mpr hzero
    obtain ⟨hanswer, hnext⟩ := refines_call (c := ⟨key, limit, now⟩) limiter.config.window_pos
      hpos hrefines hle
    have hafter : Accounts limiter.config.window now
        (cs ++ admissions [⟨key, limit, now⟩]
          [(check maxRateLimitBuckets limiter.config.window m ⟨key, limit, now⟩).1])
        (check maxRateLimitBuckets limiter.config.window m ⟨key, limit, now⟩).2 :=
      FixedWindow.accounts_check (c := ⟨key, limit, now⟩) limiter.config.window_pos hacc hle
    rw [← hanswer] at hafter
    unfold Tracks
    rw [checkKey_config]
    exact ⟨_, hnext, hafter⟩

/-- An unexpired bucket has counted the calls admitted since its window started. -/
theorem Tracks.count_eq {t : ℕ} {limiter : RateLimiter} {cs : List (FixedWindow.Call String)}
    (h : Tracks t limiter cs) {key : String} {bucket : RateBucket}
    (hlookup : limiter.state.buckets.lookup key = some bucket)
    (hopen : bucket.Unexpired t limiter.config.window) :
    bucket.count = FixedWindow.used key bucket.windowStartedAt cs := by
  obtain ⟨m, hrefines, hacc⟩ := h
  have hcur := hrefines.current_of_bucket (le_refl t) hlookup hopen
  exact hacc.counts key _ (FixedWindow.current_eq_some.mp hcur).1

/-! ## The global budget -/

/-- The call that the global stage has admitted for a request, if it has. -/
def globalCall (limiter : RateLimiter) (now : ℕ) : List (FixedWindow.Call String) :=
  match limiter.config.globalPerWindow with
  | some limit => admissions [⟨"global", limit, now⟩] [(limiter.checkKey "global" limit now).1]
  | none => []

/-- The call of the subject's stage, if admitted. -/
def subjectCall (limiter : RateLimiter) (request : Request) (now : ℕ) :
    List (FixedWindow.Call String) :=
  match limiter.config.subjectPerWindow with
  | some limit =>
    admissions [⟨rateLimitSubject request limiter.trustedProxyCidrs, limit, now⟩]
      [(limiter.checkKey (rateLimitSubject request limiter.trustedProxyCidrs) limit now).1]
  | none => []

/-- The global stage adds its call to the record. -/
theorem Tracks.checkGlobal {t now : ℕ} {limiter : RateLimiter} {cs : List (FixedWindow.Call String)}
    (h : Tracks t limiter cs) (hle : t ≤ now) :
    Tracks now (limiter.checkGlobal now).2 (cs ++ globalCall limiter now) := by
  unfold RateLimiter.checkGlobal globalCall
  rcases limiter.config.globalPerWindow with _ | limit
  · rw [List.append_nil]
    exact h.later hle
  · exact h.checkKey "global" limit hle

theorem Tracks.checkSubject {t now : ℕ} {limiter : RateLimiter}
    {cs : List (FixedWindow.Call String)} (h : Tracks t limiter cs) (request : Request)
    (hle : t ≤ now) : Tracks now (limiter.checkSubject request now).2
      (cs ++ subjectCall limiter request now) := by
  unfold RateLimiter.checkSubject subjectCall
  rcases limiter.config.subjectPerWindow with _ | limit
  · rw [List.append_nil]
    exact h.later hle
  · exact h.checkKey _ limit hle

/-- What is used in two parts of a record, together. -/
theorem used_append (key : String) (since : ℕ) (cs ds : List (FixedWindow.Call String)) :
    FixedWindow.used key since (cs ++ ds) =
      FixedWindow.used key since cs + FixedWindow.used key since ds :=
  List.countP_append

/-- One call uses one unit if it is admitted. -/
theorem used_admissions_one (key : String) (since : ℕ) (c : FixedWindow.Call String)
    (answer : Option ℕ) :
    FixedWindow.used key since (admissions [c] [answer]) =
      if answer = none ∧ c.key = key ∧ since ≤ c.time then 1 else 0 := by
  cases answer with
  | none => exact (FixedWindow.used_concat key since [] c).trans (by simp [FixedWindow.used])
  | some r => rfl

/-- An admission of the global stage uses one unit of the global budget. -/
theorem used_globalCall {limiter : RateLimiter} {g : ℕ}
    (hg : limiter.config.globalPerWindow = some g) (now since : ℕ) :
    FixedWindow.used "global" since (globalCall limiter now) =
      if (limiter.checkGlobal now).1 = none ∧ since ≤ now then 1 else 0 := by
  unfold globalCall RateLimiter.checkGlobal
  rw [hg]
  dsimp only
  rw [used_admissions_one]
  simp only [true_and]

theorem used_subjectCall (limiter : RateLimiter) (request : Request) (now since : ℕ) :
    FixedWindow.used "global" since (subjectCall limiter request now) = 0 := by
  unfold subjectCall
  rcases limiter.config.subjectPerWindow with _ | limit
  · rfl
  · dsimp only
    rw [used_admissions_one, if_neg fun hc => rateLimitSubject_ne_global _ _ hc.2.1]

/-- One request: the global calls that the limiter has admitted grow by one if the request is
admitted or wasteful. -/
theorem Tracks.arrive {t : ℕ} {limiter : RateLimiter} {cs : List (FixedWindow.Call String)}
    {a : Arrival} {g : ℕ} (h : Tracks t limiter cs) (hg : limiter.config.globalPerWindow = some g)
    (hle : t ≤ a.now) (hkeep : ¬ limiter.WastesGlobal a.request a.now) :
    ∃ ds, Tracks a.now (limiter.arrive a).2 ds ∧ ∀ since,
      FixedWindow.used "global" since ds = FixedWindow.used "global" since cs +
        if (limiter.arrive a).1 = none ∧ since ≤ a.now then 1 else 0 := by
  unfold RateLimiter.arrive
  rcases hglobal : (limiter.checkGlobal a.now).1 with _ | retryAfter
  · rw [checkRequest_of_passed hglobal]
    refine ⟨_, (h.checkGlobal hle).checkSubject a.request (le_refl _), fun since => ?_⟩
    -- a request that is not wasteful and passes the global stage is admitted
    have hgranted : ((limiter.checkGlobal a.now).2.checkSubject a.request a.now).1 = none := by
      by_contra hrejected
      rw [← checkRequest_of_passed hglobal] at hrejected
      exact hkeep ((wastesGlobal_iff _ _ _).mpr ⟨by rw [hg]; rfl, hglobal, hrejected⟩)
    rw [used_append, used_append, used_subjectCall, used_globalCall hg, Nat.add_zero]
    simp only [hglobal, hgranted]
  · rw [checkRequest_of_rejected hglobal]
    refine ⟨_, h.checkGlobal hle, fun since => ?_⟩
    rw [used_append, used_globalCall hg]

/-- What every call keeps, a request keeps. -/
theorem arrive_keeps {P : RateLimiter → Prop} {limiter : RateLimiter} {a : Arrival}
    (hcall : ∀ (l : RateLimiter) key limit, P l → P (l.checkKey key limit a.now).2)
    (h : P limiter) : P (limiter.arrive a).2 := by
  have hglobal : P (limiter.checkGlobal a.now).2 := by
    unfold RateLimiter.checkGlobal
    split
    · exact hcall _ _ _ h
    · exact h
  unfold RateLimiter.arrive
  rcases hanswer : (limiter.checkGlobal a.now).1 with _ | retryAfter
  · rw [checkRequest_of_passed hanswer]
    unfold RateLimiter.checkSubject
    split
    · exact hcall _ _ _ hglobal
    · exact hglobal
  · rw [checkRequest_of_rejected hanswer]
    exact hglobal

/-- A request leaves the configuration as it is. -/
theorem arrive_config (limiter : RateLimiter) (a : Arrival) :
    (limiter.arrive a).2.config = limiter.config := by
  apply arrive_keeps (P := fun l => l.config = limiter.config)
  · intro l key limit h
    rw [checkKey_config, h]
  · rfl

theorem final_config (config : RateLimitConfig) (trustedProxyCidrs : List TrustedProxyCidr)
    (arrivals : List Arrival) :
    (Mealy.final arrive (new config trustedProxyCidrs) arrivals).config = config := by
  apply Mealy.final_invariant (P := fun l : RateLimiter => l.config = config)
  · intro limiter a _ h
    rw [arrive_config, h]
  · rfl

/-- Along requests none of which is wasteful, the global calls admitted are the requests
admitted. -/
theorem global_calls_eq {config : RateLimitConfig} {trustedProxyCidrs : List TrustedProxyCidr}
    {g : ℕ} (hg : config.globalPerWindow = some g) {arrivals : List Arrival}
    (hclock : Mealy.Clocked Arrival.now 0 arrivals)
    (hkeep : Mealy.Along arrive (fun limiter a => ¬ limiter.WastesGlobal a.request a.now)
      (new config trustedProxyCidrs) arrivals) :
    ∃ cs, Tracks (Mealy.lastTime Arrival.now 0 arrivals)
        (Mealy.final arrive (new config trustedProxyCidrs) arrivals) cs ∧
      ∀ since, FixedWindow.used "global" since cs =
        (admissions arrivals (Mealy.outputs arrive (new config trustedProxyCidrs)
          arrivals)).countP fun a => since ≤ a.now := by
  induction arrivals using List.reverseRecOn with
  | nil => exact ⟨[], tracks_new config trustedProxyCidrs 0, fun _ => rfl⟩
  | append_singleton arrivals a ih =>
    obtain ⟨hclock, hlast⟩ := Mealy.clocked_concat.mp hclock
    obtain ⟨hkeep, hlastKeep⟩ := Mealy.along_concat.mp hkeep
    obtain ⟨cs, htracks, hcount⟩ := ih hclock hkeep
    have hconfig : (Mealy.final arrive (new config trustedProxyCidrs)
        arrivals).config.globalPerWindow = some g := by rw [final_config, hg]
    obtain ⟨ds, hnext, hused⟩ := htracks.arrive hconfig hlast hlastKeep
    refine ⟨ds, ?_, fun since => ?_⟩
    · rw [Mealy.lastTime_concat, Mealy.final_concat]
      exact hnext
    · rw [hused, hcount, FixedWindow.countP_admissions_concat]
      simp only [decide_eq_true_eq]

/-- A rejected request consumes nothing iff it is not wasteful, in every state and at every
time; and along requests none of which is wasteful, the count of the unexpired global bucket
is the number of requests admitted since its window started. -/
theorem rejected_request_consumes_no_quota (config : RateLimitConfig)
    (trustedProxyCidrs : List TrustedProxyCidr) :
    (∀ (limiter : RateLimiter) (request : Request) (now : ℕ),
      ((limiter.checkRequest request now).1 ≠ none →
        ∀ key, (limiter.checkRequest request now).2.used now key ≤ limiter.used now key) ↔
      ¬ limiter.WastesGlobal request now) ∧
    ∀ (g : ℕ) (arrivals : List Arrival), config.globalPerWindow = some g →
      Mealy.Clocked Arrival.now 0 arrivals →
      Mealy.Along arrive (fun limiter a => ¬ limiter.WastesGlobal a.request a.now)
        (new config trustedProxyCidrs) arrivals →
      ∀ bucket, (Mealy.final arrive (new config trustedProxyCidrs) arrivals).state.buckets.lookup
          "global" = some bucket →
        bucket.Unexpired (Mealy.lastTime Arrival.now 0 arrivals) config.window →
        bucket.count = (admissions arrivals (Mealy.outputs arrive (new config trustedProxyCidrs)
          arrivals)).countP fun a => bucket.windowStartedAt ≤ a.now := by
  constructor
  · intro limiter request now
    constructor
    · intro hnothing hwaste
      have hrejected := ((wastesGlobal_iff _ _ _).mp hwaste).2.2
      -- the global key is one that the rejected request did use up
      have hmore := used_of_rejected hrejected "global"
      rw [if_pos ⟨hwaste, rfl⟩] at hmore
      have hle := hnothing hrejected "global"
      omega
    · intro hkeep hrejected key
      rw [used_of_rejected hrejected, if_neg fun hc => hkeep hc.1]
      omega
  · intro g arrivals hg hclock hkeep bucket hlookup hopen
    obtain ⟨cs, htracks, hcount⟩ := global_calls_eq hg hclock hkeep
    rw [← hcount]
    apply htracks.count_eq hlookup
    rw [final_config]
    exact hopen

/-- Two requests of one subject with a limit of one: the second is rejected by the subject's
stage and has used up the global budget, so that another subject is rejected although only
one request was admitted. -/
theorem rejected_request_uses_global_budget :
    (Mealy.outputs arrive (new ⟨60, some 2, some 1⟩ [])
        [⟨⟨.get, "/api/v1/tasks", some "Bearer a", none, none⟩, 100⟩,
          ⟨⟨.get, "/api/v1/tasks", some "Bearer a", none, none⟩, 100⟩,
          ⟨⟨.get, "/api/v1/tasks", some "Bearer b", none, none⟩, 100⟩] =
      [none, some 60, some 60]) ∧
    (Mealy.final arrive (new ⟨60, some 2, some 1⟩ [])
        [⟨⟨.get, "/api/v1/tasks", some "Bearer a", none, none⟩, 100⟩]).used 100 "global" = 1 ∧
    (Mealy.final arrive (new ⟨60, some 2, some 1⟩ [])
        [⟨⟨.get, "/api/v1/tasks", some "Bearer a", none, none⟩, 100⟩,
          ⟨⟨.get, "/api/v1/tasks", some "Bearer a", none, none⟩, 100⟩]).used 100 "global" = 2 := by
  decide

/-- Three subjects, one request each. The global bucket has counted the two that were admitted, and
not the third, which its stage rejected. -/
theorem rejected_request_consumes_no_quota_two :
    ∃ bucket, (Mealy.final arrive (new ⟨60, some 2, some 1⟩ [])
        [⟨⟨.get, "/api/v1/tasks", some "Bearer a", none, none⟩, 100⟩,
          ⟨⟨.get, "/api/v1/tasks", some "Bearer b", none, none⟩, 101⟩,
          ⟨⟨.get, "/api/v1/tasks", some "Bearer c", none, none⟩, 102⟩]).state.buckets.lookup
        "global" = some bucket ∧
      Mealy.outputs arrive (new ⟨60, some 2, some 1⟩ [])
          [⟨⟨.get, "/api/v1/tasks", some "Bearer a", none, none⟩, 100⟩,
            ⟨⟨.get, "/api/v1/tasks", some "Bearer b", none, none⟩, 101⟩,
            ⟨⟨.get, "/api/v1/tasks", some "Bearer c", none, none⟩, 102⟩] =
        [none, none, some 58] ∧
      bucket.count =
      (admissions [(⟨⟨.get, "/api/v1/tasks", some "Bearer a", none, none⟩, 100⟩ : Arrival),
          ⟨⟨.get, "/api/v1/tasks", some "Bearer b", none, none⟩, 101⟩,
          ⟨⟨.get, "/api/v1/tasks", some "Bearer c", none, none⟩, 102⟩]
        (Mealy.outputs arrive (new ⟨60, some 2, some 1⟩ [])
          [⟨⟨.get, "/api/v1/tasks", some "Bearer a", none, none⟩, 100⟩,
            ⟨⟨.get, "/api/v1/tasks", some "Bearer b", none, none⟩, 101⟩,
            ⟨⟨.get, "/api/v1/tasks", some "Bearer c", none, none⟩, 102⟩])).countP
        fun a => bucket.windowStartedAt ≤ a.now := by
  refine ⟨⟨100, 2⟩, by decide, by decide, ?_⟩
  exact (rejected_request_consumes_no_quota ⟨60, some 2, some 1⟩ []).2 2 _ rfl (by decide)
    (by decide) _ (by decide) (by decide)

/-! ## The budget of a subject -/

/-- No window started before `t`. -/
def StartedSince (t : ℕ) (state : RateLimitState) : Prop :=
  ∀ key bucket, state.buckets.lookup key = some bucket → t ≤ bucket.windowStartedAt

/-- Pruning starts no window. -/
theorem StartedSince.prune {t : ℕ} {state : RateLimitState} (h : StartedSince t state)
    (now windowSecs : ℕ) : StartedSince t (pruneExpiredBuckets state now windowSecs) := by
  intro key bucket hlookup
  exact h key bucket (AList.lookup_filter_eq_some.mp hlookup).1

theorem StartedSince.sweepsFor {t : ℕ} {state : RateLimitState} (h : StartedSince t state)
    (key : String) (now windowSecs : ℕ) :
    StartedSince t (Rest.sweepsFor state key now windowSecs) := by
  apply sweepsFor_keeps (P := StartedSince t)
  · intro s hs
    exact hs.prune now windowSecs
  · exact h

theorem StartedSince.countRequest {t now : ℕ} {state : RateLimitState} (h : StartedSince t state)
    (key : String) (limit windowSecs : ℕ) (hle : t ≤ now) :
    StartedSince t (Rest.countRequest state key limit now windowSecs).2 := by
  -- a bucket that is reset starts now
  have hbucket : t ≤ (openBucket state key now windowSecs).windowStartedAt := by
    unfold openBucket bucketFor
    split
    · exact hle
    · rcases hlookup : state.buckets.lookup key with _ | bucket
      · exact hle
      · exact h key bucket hlookup
  have hinsert : ∀ bucket : RateBucket, t ≤ bucket.windowStartedAt →
      StartedSince t ⟨state.buckets.insert key bucket, state.lastPrunedAt⟩ := by
    intro bucket hstart
    exact AList.forall_lookup_insert hstart fun k b _ hlookup => h k b hlookup
  rw [countRequest_eq]
  split
  · exact hinsert _ hbucket
  · exact hinsert _ hbucket

theorem StartedSince.checkKey {t now : ℕ} {limiter : RateLimiter}
    (h : StartedSince t limiter.state) (key : String) (limit : ℕ) (hle : t ≤ now) :
    StartedSince t (limiter.checkKey key limit now).2.state := by
  have hcheck : StartedSince t
      (checkBuckets limiter.state key limit now limiter.config.window).2 := by
    rw [checkBuckets_eq]
    split
    · exact h.sweepsFor key now _
    · exact (h.sweepsFor key now _).countRequest key limit _ hle
  unfold RateLimiter.checkKey
  split_ifs
  · exact h
  · exact h
  · exact hcheck

theorem StartedSince.arrive {t : ℕ} {limiter : RateLimiter} {a : Arrival}
    (h : StartedSince t limiter.state) (hle : t ≤ a.now) :
    StartedSince t (limiter.arrive a).2.state := by
  apply arrive_keeps (P := fun l => StartedSince t l.state)
  · intro l key limit hl
    exact hl.checkKey key limit hle
  · exact h

/-- Within one window length of the first window nothing runs out. -/
theorem StartedSince.used_eq {t now u : ℕ} {limiter : RateLimiter}
    (h : StartedSince t limiter.state) (hnow : now < t + limiter.config.window)
    (hu : u < t + limiter.config.window) (key : String) :
    limiter.used now key = limiter.used u key := by
  unfold RateLimiter.used
  rcases hlookup : limiter.state.buckets.lookup key with _ | bucket
  · rw [used_of_none hlookup, used_of_none hlookup]
  · have hstart := h key bucket hlookup
    have hwindow := limiter.config.window_pos
    have hopen : ∀ v, v < t + limiter.config.window →
        bucket.Unexpired v limiter.config.window := by
      intro v hv
      show v - bucket.windowStartedAt < limiter.config.window
      omega
    rw [used_of_lookup hlookup, used_of_lookup hlookup, if_pos (hopen now hnow),
      if_pos (hopen u hu)]

/-- A request leaves the trusted ranges as they are. -/
theorem arrive_trustedProxyCidrs (limiter : RateLimiter) (a : Arrival) :
    (limiter.arrive a).2.trustedProxyCidrs = limiter.trustedProxyCidrs := by
  apply arrive_keeps (P := fun l => l.trustedProxyCidrs = limiter.trustedProxyCidrs)
  · intro l key limit h
    rw [checkKey_trustedProxyCidrs, h]
  · rfl

/-- What a request consumes of a subject's quota, and the room it needs for that. -/
theorem arrive_used_subject {limiter : RateLimiter} {a : Arrival} {key : String} {l : ℕ}
    (hl : limiter.config.subjectPerWindow = some l) (hkey : key ≠ "global") :
    (limiter.arrive a).2.used a.now key = limiter.used a.now key +
        (if (limiter.arrive a).1 = none ∧
          rateLimitSubject a.request limiter.trustedProxyCidrs = key then 1 else 0) ∧
      ((limiter.arrive a).1 = none →
        rateLimitSubject a.request limiter.trustedProxyCidrs = key →
        limiter.used a.now key < l) := by
  -- the global stage counts under another key
  have hsame : (limiter.checkGlobal a.now).2.used a.now key = limiter.used a.now key := by
    rw [checkGlobal_used, if_neg fun hc => hkey hc.2.2, Nat.add_zero]
  unfold RateLimiter.arrive
  rcases hglobal : (limiter.checkGlobal a.now).1 with _ | retryAfter
  · rw [checkRequest_of_passed hglobal]
    constructor
    · rw [checkSubject_used, hsame, checkGlobal_config, hl, checkGlobal_trustedProxyCidrs]
      simp only [Option.isSome_some, true_and, eq_comm]
    · intro hgranted hsubject
      unfold RateLimiter.checkSubject at hgranted
      rw [checkGlobal_config, hl, checkGlobal_trustedProxyCidrs] at hgranted
      have hroom := ((checkKey_none_iff _ _ _ _).mp hgranted).2.1
      rw [hsubject] at hroom
      exact hsame ▸ hroom
  · rw [checkRequest_of_rejected hglobal, hsame, hglobal]
    simp

theorem final_trustedProxyCidrs (config : RateLimitConfig)
    (trustedProxyCidrs : List TrustedProxyCidr) (arrivals : List Arrival) :
    (Mealy.final arrive (new config trustedProxyCidrs) arrivals).trustedProxyCidrs =
      trustedProxyCidrs := by
  apply Mealy.final_invariant (P := fun l : RateLimiter =>
    l.trustedProxyCidrs = trustedProxyCidrs)
  · intro limiter a _ h
    rw [arrive_trustedProxyCidrs, h]
  · rfl

/-- Within one window length a key's bucket counts every request admitted for it, and stays
within the limit. -/
theorem subject_requests_counted {config : RateLimitConfig}
    (trustedProxyCidrs : List TrustedProxyCidr) {l t : ℕ} {key : String}
    (hl : config.subjectPerWindow = some l) (hkey : key ≠ "global") {arrivals : List Arrival}
    (htime : ∀ a ∈ arrivals, t ≤ a.now ∧ a.now < t + config.window) :
    StartedSince t (Mealy.final arrive (new config trustedProxyCidrs) arrivals).state ∧
    (∀ u, u < t + config.window →
      (Mealy.final arrive (new config trustedProxyCidrs) arrivals).used u key =
        (admissions arrivals (Mealy.outputs arrive (new config trustedProxyCidrs)
          arrivals)).countP (fun a => rateLimitSubject a.request trustedProxyCidrs = key)) ∧
    (admissions arrivals (Mealy.outputs arrive (new config trustedProxyCidrs)
      arrivals)).countP (fun a => rateLimitSubject a.request trustedProxyCidrs = key) ≤ l := by
  -- from the last request: the state before it is that of a shorter sequence
  induction arrivals using List.reverseRecOn with
  | nil => exact ⟨(fun _ _ h => nomatch h), fun _ _ => rfl, Nat.zero_le l⟩
  | append_singleton arrivals a ih =>
    obtain ⟨hstarted, hused, hle⟩ :=
      ih fun b hb => htime b (List.mem_append_left _ hb)
    obtain ⟨hstart, hend⟩ := htime a (by simp)
    have hconfig : (Mealy.final arrive (new config trustedProxyCidrs)
        arrivals).config = config := final_config _ _ _
    have hcidrs : (Mealy.final arrive (new config trustedProxyCidrs)
        arrivals).trustedProxyCidrs = trustedProxyCidrs := final_trustedProxyCidrs _ _ _
    have hl' : (Mealy.final arrive (new config trustedProxyCidrs)
        arrivals).config.subjectPerWindow = some l := by rw [hconfig, hl]
    obtain ⟨hmore, hroom⟩ := arrive_used_subject (a := a) hl' hkey
    rw [hcidrs, hused a.now hend] at hmore hroom
    -- the bucket has counted this request if and only if it was admitted
    have hcount : (admissions (arrivals ++ [a]) (Mealy.outputs arrive
        (new config trustedProxyCidrs) (arrivals ++ [a]))).countP
          (fun a => rateLimitSubject a.request trustedProxyCidrs = key) =
        ((Mealy.final arrive (new config trustedProxyCidrs) arrivals).arrive a).2.used
          a.now key := by
      rw [hmore, FixedWindow.countP_admissions_concat]
      simp only [decide_eq_true_eq]
    have hnext := hstarted.arrive hstart
    rw [Mealy.final_concat, hcount]
    refine ⟨hnext, fun u hu => ?_, ?_⟩
    · apply hnext.used_eq
      · rw [arrive_config, hconfig]
        exact hu
      · rw [arrive_config, hconfig]
        exact hend
    · rw [hmore]
      split
      · next hgranted => exact hroom hgranted.1 hgranted.2
      · exact hle

/-! ## Guessing credentials -/

/-- The subject of a login is its source. -/
theorem rateLimitSubject_of_session {request : Request} (h : request.path = "/api/v1/session")
    (trustedProxyCidrs : List TrustedProxyCidr) :
    rateLimitSubject request trustedProxyCidrs = "session-create:" ++
      sourceSubject request trustedProxyCidrs := by
  rw [rateLimitSubject, if_pos h]

/-- A text with the one scheme does not have the other. -/
theorem not_bearer_of_basic {auth credentials : String}
    (h : stripPrefix auth "Basic " = some credentials) : stripPrefix auth "Bearer " = none := by
  unfold stripPrefix at h ⊢
  split at h
  · next hbasic =>
    rw [if_neg]
    intro hbearer
    have hstarts : "Basic ".toList <+: "Bearer ".toList :=
      List.prefix_of_prefix_length_le (List.isPrefixOf_iff_prefix.mp hbasic)
        (List.isPrefixOf_iff_prefix.mp hbearer) (by decide)
    exact absurd hstarts (by decide)
  · cases h

theorem rateLimitSubject_of_basic {request : Request} {credentials : String}
    (huses : usesRequestScopedBasicAuth request = true)
    (hbasic : isBasicAuth request = some credentials)
    (trustedProxyCidrs : List TrustedProxyCidr) :
    rateLimitSubject request trustedProxyCidrs = "basic:" ++ stableHash credentials := by
  have hroute : classifyRuntimeRoute request.method request.path = some .protectedRoute := by
    unfold usesRequestScopedBasicAuth at huses
    simpa using (Bool.and_eq_true_iff.mp huses).2
  obtain ⟨auth, hauth, hstrip⟩ := Option.bind_eq_some_iff.mp hbasic
  rw [rateLimitSubject, if_neg (classify_protected hroute).2.1, hauth, Option.getD_some]
  dsimp only
  rw [not_bearer_of_basic hstrip, hstrip]

/-- Requests from one source that arrive within one window length: at most the subject's limit
is admitted to `POST /api/v1/session`, whatever their credentials, and on the protected routes
at most the limit with any one text of Basic credentials. -/
theorem session_creation_throttled_per_source (config : RateLimitConfig)
    (trustedProxyCidrs : List TrustedProxyCidr) (l : ℕ) (source : Option IpAddr) (t : ℕ)
    (arrivals : List Arrival) (hl : config.subjectPerWindow = some l)
    (hsource : ∀ a ∈ arrivals, sourceIp a.request trustedProxyCidrs = source)
    (htime : ∀ a ∈ arrivals, t ≤ a.now ∧ a.now < t + config.windowSecs) :
    (admissions arrivals (Mealy.outputs arrive (new config trustedProxyCidrs) arrivals)).countP
        (fun a => a.request.method = .post ∧ a.request.path = "/api/v1/session") ≤ l ∧
    ∀ credentials : String,
      (admissions arrivals (Mealy.outputs arrive (new config trustedProxyCidrs) arrivals)).countP
        (fun a => usesRequestScopedBasicAuth a.request ∧
          isBasicAuth a.request = some credentials) ≤ l := by
  -- the window is at least one second long, also when none is configured
  have hwithin : ∀ a ∈ arrivals, t ≤ a.now ∧ a.now < t + config.window := by
    intro a ha
    obtain ⟨hstart, hend⟩ := htime a ha
    exact ⟨hstart, hend.trans_le (Nat.add_le_add_left (le_max_left _ _) t)⟩
  -- requests that share a subject share its budget
  have hkeyed : ∀ key, key ≠ "global" → ∀ p : Arrival → Bool,
      (∀ a ∈ arrivals, p a = true → rateLimitSubject a.request trustedProxyCidrs = key) →
      (admissions arrivals (Mealy.outputs arrive (new config trustedProxyCidrs)
        arrivals)).countP p ≤ l := by
    intro key hkey p hp
    obtain ⟨-, -, hcounted⟩ := subject_requests_counted trustedProxyCidrs hl hkey hwithin
    refine le_trans ?_ hcounted
    apply List.countP_mono_left
    intro a ha hpa
    exact decide_eq_true (hp a (FixedWindow.mem_of_mem_admissions ha) hpa)
  constructor
  · apply hkeyed ("session-create:" ++
      (source.map fun ip => "ip:" ++ ip.display).getD "unknown-source")
    · exact append_ne_global 's' (by decide) (by decide)
    · intro a ha hpost
      obtain ⟨-, hpath⟩ := of_decide_eq_true hpost
      rw [rateLimitSubject_of_session hpath, sourceSubject, hsource a ha]
  · intro credentials
    apply hkeyed ("basic:" ++ stableHash credentials)
    · exact append_ne_global 'b' (by decide) (by decide)
    · intro a ha huses
      obtain ⟨huses, hbasic⟩ := of_decide_eq_true huses
      exact rateLimitSubject_of_basic huses hbasic trustedProxyCidrs

/-- With a limit of one, a source that logs in twice with different passwords is admitted
once. -/
theorem session_creation_throttled_per_source_twice :
    (admissions [(⟨⟨.post, "/api/v1/session", some "Basic YWRtaW46YQ==", none,
          some ⟨.v4 0xc000020a, 40000⟩⟩, 100⟩ : Arrival),
        ⟨⟨.post, "/api/v1/session", some "Basic YWRtaW46Yg==", none,
          some ⟨.v4 0xc000020a, 40001⟩⟩, 130⟩]
      (Mealy.outputs arrive (new ⟨60, none, some 1⟩ [])
        [⟨⟨.post, "/api/v1/session", some "Basic YWRtaW46YQ==", none,
            some ⟨.v4 0xc000020a, 40000⟩⟩, 100⟩,
          ⟨⟨.post, "/api/v1/session", some "Basic YWRtaW46Yg==", none,
            some ⟨.v4 0xc000020a, 40001⟩⟩, 130⟩])).countP
      (fun a => a.request.method = .post ∧ a.request.path = "/api/v1/session") ≤ 1 :=
  (session_creation_throttled_per_source ⟨60, none, some 1⟩ [] 1 (some (.v4 0xc000020a)) 100 _
    rfl (by decide) (by decide)).1

/-- The same two passwords on a protected route, which creates a session for each request:
both requests come from one source and both are admitted. -/
theorem basic_guesses_have_own_budgets :
    sourceIp ⟨.get, "/api/v1/targets", some "Basic YWRtaW46YQ==", none,
        some ⟨.v4 0xc000020a, 40000⟩⟩ [] =
      sourceIp ⟨.get, "/api/v1/targets", some "Basic YWRtaW46Yg==", none,
        some ⟨.v4 0xc000020a, 40001⟩⟩ [] ∧
    usesRequestScopedBasicAuth ⟨.get, "/api/v1/targets", some "Basic YWRtaW46YQ==", none,
      some ⟨.v4 0xc000020a, 40000⟩⟩ = true ∧
    usesRequestScopedBasicAuth ⟨.get, "/api/v1/targets", some "Basic YWRtaW46Yg==", none,
      some ⟨.v4 0xc000020a, 40001⟩⟩ = true ∧
    Mealy.outputs arrive (new ⟨60, none, some 1⟩ [])
        [⟨⟨.get, "/api/v1/targets", some "Basic YWRtaW46YQ==", none,
            some ⟨.v4 0xc000020a, 40000⟩⟩, 100⟩,
          ⟨⟨.get, "/api/v1/targets", some "Basic YWRtaW46Yg==", none,
            some ⟨.v4 0xc000020a, 40001⟩⟩, 130⟩] = [none, none] := by
  decide

end GvmGateway.Rest

import GvmGateway.Rest.RateLimitWindows

/-!
# What a request consumes

What one call and one request do to the quota that is used up, in any state of the limiter and
whatever the clock says. A call consumes a unit of its own key's quota if it is admitted and
nothing otherwise; a request is two calls, and one that passes the global stage and fails in
its subject's has consumed a unit of the global quota.
-/

namespace GvmGateway.Rest

/-- The requests counted in the key's window that is open at `now`. -/
def RateLimitState.used (state : RateLimitState) (now windowSecs : ℕ) (key : String) : ℕ :=
  match state.buckets.lookup key with
  | some bucket => if bucket.Unexpired now windowSecs then bucket.count else 0
  | none => 0

/-- The key can take one more request of the given limit: its quota is not used up, and it has
a bucket or there is room for another one. -/
def RateLimitState.HasRoom (state : RateLimitState) (key : String) (limit now windowSecs : ℕ) :
    Prop :=
  state.used now windowSecs key < limit ∧
    (key ∈ (pruneIfDue state now windowSecs).buckets ∨
      state.unexpired now windowSecs < maxRateLimitBuckets)

instance (state : RateLimitState) (key : String) (limit now windowSecs : ℕ) :
    Decidable (state.HasRoom key limit now windowSecs) :=
  inferInstanceAs (Decidable (_ ∧ _))

namespace RateLimitState

variable {state : RateLimitState} {key : String} {limit now windowSecs : ℕ}

/-! ## Sweeps consume nothing -/

/-- What a key has used is the count of its open bucket. -/
theorem used_of_lookup {bucket : RateBucket} (h : state.buckets.lookup key = some bucket) :
    state.used now windowSecs key =
      if bucket.Unexpired now windowSecs then bucket.count else 0 := by
  rw [used, h]

theorem used_of_none (h : state.buckets.lookup key = none) :
    state.used now windowSecs key = 0 := by
  rw [used, h]

/-- Pruning leaves what every key has used. -/
theorem used_prune (state : RateLimitState) (now windowSecs : ℕ) (key : String) :
    (pruneExpiredBuckets state now windowSecs).used now windowSecs key =
      state.used now windowSecs key := by
  have hlookup : (pruneExpiredBuckets state now windowSecs).buckets.lookup key =
      (state.buckets.lookup key).filter fun bucket => decide (bucket.Unexpired now windowSecs) :=
    AList.lookup_filter _ _ _
  rcases hold : state.buckets.lookup key with _ | bucket
  · rw [used_of_none hold, used_of_none (by rw [hlookup, hold]; rfl)]
  · rw [used_of_lookup hold]
    by_cases hopen : bucket.Unexpired now windowSecs
    · have hkept : (pruneExpiredBuckets state now windowSecs).buckets.lookup key = some bucket := by
        rw [hlookup, hold, Option.filter_some, if_pos (decide_eq_true hopen)]
      rw [used_of_lookup hkept]
    · have hgone : (pruneExpiredBuckets state now windowSecs).buckets.lookup key = none := by
        rw [hlookup, hold, Option.filter_some, if_neg (by simpa using hopen)]
      rw [used_of_none hgone, if_neg hopen]

theorem used_sweepsFor (state : RateLimitState) (k key : String) (now windowSecs : ℕ) :
    (sweepsFor state k now windowSecs).used now windowSecs key =
      state.used now windowSecs key := by
  apply sweepsFor_keeps (P := fun s => s.used now windowSecs key = state.used now windowSecs key)
  · intro s h
    exact (used_prune s now windowSecs key).trans h
  · rfl

/-- A bucket that is stored is what its key has used while it is open. -/
theorem used_insert (key k : String) (bucket : RateBucket) (prunedAt : ℕ) :
    used ⟨state.buckets.insert key bucket, prunedAt⟩ now windowSecs k =
      if k = key then (if bucket.Unexpired now windowSecs then bucket.count else 0)
      else state.used now windowSecs k := by
  have hlookup : (RateLimitState.mk (state.buckets.insert key bucket) prunedAt).buckets.lookup k =
      if k = key then some bucket else state.buckets.lookup k :=
    AList.lookup_insert_eq_ite _ _ _ _
  by_cases hk : k = key
  · rw [if_pos hk] at hlookup ⊢
    exact used_of_lookup hlookup
  · rw [if_neg hk] at hlookup ⊢
    rw [used, used, hlookup]

/-- The sweeps of a call remove nothing that pruning would keep. -/
theorem prune_sweepsFor (state : RateLimitState) (key : String) (now windowSecs : ℕ) :
    pruneExpiredBuckets (sweepsFor state key now windowSecs) now windowSecs =
      pruneExpiredBuckets state now windowSecs := by
  apply sweepsFor_keeps (P := fun s => pruneExpiredBuckets s now windowSecs =
    pruneExpiredBuckets state now windowSecs)
  · intro s h
    exact (prune_prune s now windowSecs).trans h
  · rfl

/-- A sweep that is due is done now. -/
theorem prunedAt_pruneIfDue (state : RateLimitState) (now windowSecs : ℕ) :
    now - (pruneIfDue state now windowSecs).lastPrunedAt = 0 := by
  unfold pruneIfDue
  split
  · exact Nat.sub_self now
  · next hdue => omega

/-- After the sweeps of a call none is due. -/
theorem prunedAt_sweepsFor (state : RateLimitState) (key : String) (now windowSecs : ℕ) :
    now - (sweepsFor state key now windowSecs).lastPrunedAt = 0 := by
  unfold sweepsFor
  dsimp only
  split
  · exact Nat.sub_self now
  · exact prunedAt_pruneIfDue state now windowSecs

end RateLimitState

open RateLimitState

/-! ## One call -/

section Call

variable {state : RateLimitState} {key : String} {limit now windowSecs : ℕ}

/-- The bucket that counts a request is open. -/
theorem openBucket_unexpired (hwindow : 0 < windowSecs) :
    (openBucket state key now windowSecs).Unexpired now windowSecs := by
  unfold openBucket RateBucket.Unexpired
  split
  · exact (Nat.sub_self now).trans_lt hwindow
  · next hopen => exact Nat.not_le.mp hopen

theorem openBucket_count :
    (openBucket state key now windowSecs).count = state.used now windowSecs key := by
  unfold openBucket bucketFor
  rcases hlookup : state.buckets.lookup key with _ | bucket
  · rw [used_of_none hlookup, Option.getD_none, ite_self]
  · rw [used_of_lookup hlookup, Option.getD_some]
    by_cases hopen : bucket.Unexpired now windowSecs
    · rw [if_pos hopen, if_neg (Nat.not_le.mpr hopen)]
    · rw [if_neg hopen, if_pos (Nat.not_lt.mp hopen)]

/-- A request is counted as long as its key has not used up its limit. -/
theorem countRequest_none_iff :
    (countRequest state key limit now windowSecs).1 = none ↔
      state.used now windowSecs key < limit := by
  rw [countRequest_eq, openBucket_count]
  by_cases hfull : limit ≤ state.used now windowSecs key
  · rw [if_pos hfull]
    simp [hfull]
  · rw [if_neg hfull]
    simp [Nat.not_le.mp hfull]

/-- Counting adds one to what the key has used. -/
theorem countRequest_used (hwindow : 0 < windowSecs) (k : String) :
    (countRequest state key limit now windowSecs).2.used now windowSecs k =
      state.used now windowSecs k +
        if (countRequest state key limit now windowSecs).1 = none ∧ k = key then 1 else 0 := by
  have hopen : (openBucket state key now windowSecs).Unexpired now windowSecs :=
    openBucket_unexpired hwindow
  have hcount : (openBucket state key now windowSecs).count = state.used now windowSecs key :=
    openBucket_count
  rw [countRequest_eq]
  by_cases hfull : limit ≤ (openBucket state key now windowSecs).count
  · rw [if_pos hfull, if_neg (fun hc => nomatch hc.1), used_insert, if_pos hopen, hcount]
    split
    · next hk => rw [hk, Nat.add_zero]
    · rfl
  · rw [if_neg hfull, used_insert]
    by_cases hk : k = key
    · have hmore : (⟨(openBucket state key now windowSecs).windowStartedAt,
          (openBucket state key now windowSecs).count + 1⟩ : RateBucket).Unexpired now windowSecs :=
        hopen
      rw [if_pos hk, if_pos hmore, if_pos ⟨rfl, hk⟩, hk, ← hcount]
    · rw [if_neg hk, if_neg fun hc => hk hc.2, Nat.add_zero]

/-- A call admits as long as its key has room. -/
theorem checkBuckets_none_iff :
    (checkBuckets state key limit now windowSecs).1 = none ↔
      state.HasRoom key limit now windowSecs := by
  rw [checkBuckets_eq, HasRoom]
  by_cases hcrowded : key ∉ (pruneIfDue state now windowSecs).buckets ∧
      maxRateLimitBuckets ≤ state.unexpired now windowSecs
  · rw [if_pos hcrowded]
    have hno : ¬ (key ∈ (pruneIfDue state now windowSecs).buckets ∨
        state.unexpired now windowSecs < maxRateLimitBuckets) := by
      rintro (hmem | hlt)
      · exact hcrowded.1 hmem
      · exact absurd hcrowded.2 (Nat.not_le.mpr hlt)
    simp [hno]
  · have hyes : key ∈ (pruneIfDue state now windowSecs).buckets ∨
        state.unexpired now windowSecs < maxRateLimitBuckets := by
      by_contra hno
      push Not at hno
      exact hcrowded hno
    rw [if_neg hcrowded, countRequest_none_iff, used_sweepsFor]
    simp [hyes]

theorem checkBuckets_used (hwindow : 0 < windowSecs) (k : String) :
    (checkBuckets state key limit now windowSecs).2.used now windowSecs k =
      state.used now windowSecs k +
        if (checkBuckets state key limit now windowSecs).1 = none ∧ k = key then 1 else 0 := by
  rw [checkBuckets_eq]
  split
  · rw [used_sweepsFor, if_neg (fun hc => nomatch hc.1), Nat.add_zero]
  · rw [countRequest_used hwindow, used_sweepsFor]

end Call

namespace RateLimiter

/-- The requests counted in the key's window that is open at `now`. -/
def used (limiter : RateLimiter) (now : ℕ) (key : String) : ℕ :=
  limiter.state.used now limiter.config.window key

section

variable (limiter : RateLimiter) (request : Request) (key : String) (limit now : ℕ)

/-- A call leaves the configuration as it is. -/
@[simp] theorem checkKey_config : (limiter.checkKey key limit now).2.config = limiter.config := by
  unfold checkKey
  split_ifs <;> rfl

@[simp] theorem checkKey_trustedProxyCidrs :
    (limiter.checkKey key limit now).2.trustedProxyCidrs = limiter.trustedProxyCidrs := by
  unfold checkKey
  split_ifs <;> rfl

@[simp] theorem checkKey_poisoned :
    (limiter.checkKey key limit now).2.poisoned = limiter.poisoned := by
  unfold checkKey
  split_ifs <;> rfl

/-- A limit of zero refuses every call and leaves the limiter as it is. -/
theorem checkKey_zero :
    limiter.checkKey key 0 now = (some limiter.config.window, limiter) :=
  if_pos rfl

/-- A call admits when the lock is not poisoned and the key has room. -/
theorem checkKey_none_iff : (limiter.checkKey key limit now).1 = none ↔
    limiter.poisoned = false ∧ limiter.state.HasRoom key limit now limiter.config.window := by
  unfold checkKey
  by_cases hzero : limit = 0
  · rw [if_pos hzero]
    have hno : ¬ limiter.state.HasRoom key limit now limiter.config.window := by
      intro hroom
      exact absurd hroom.1 (by omega)
    simp [hno]
  · rw [if_neg hzero]
    by_cases hpoisoned : limiter.poisoned = true
    · rw [if_pos hpoisoned]
      simp [hpoisoned]
    · rw [if_neg hpoisoned]
      exact checkBuckets_none_iff.trans (by simp [Bool.eq_false_iff.mpr hpoisoned])

/-- A call consumes one unit of its key if it is admitted, and nothing else. -/
theorem checkKey_used (k : String) : (limiter.checkKey key limit now).2.used now k =
    limiter.used now k +
      if (limiter.checkKey key limit now).1 = none ∧ k = key then 1 else 0 := by
  have hnone : ∀ l : RateLimiter, l.used now k = l.state.used now l.config.window k :=
    fun _ => rfl
  rw [hnone, hnone, checkKey_config]
  unfold checkKey
  by_cases hzero : limit = 0
  · rw [if_pos hzero, if_neg (fun hc => nomatch hc.1), Nat.add_zero]
  · rw [if_neg hzero]
    by_cases hpoisoned : limiter.poisoned = true
    · rw [if_pos hpoisoned, if_neg (fun hc => nomatch hc.1), Nat.add_zero]
    · rw [if_neg hpoisoned]
      exact checkBuckets_used limiter.config.window_pos k

/-! ## One request -/

/-- The global stage leaves the configuration as it is. -/
@[simp] theorem checkGlobal_config : (limiter.checkGlobal now).2.config = limiter.config := by
  unfold checkGlobal
  split
  · exact checkKey_config _ _ _ _
  · rfl

@[simp] theorem checkGlobal_trustedProxyCidrs :
    (limiter.checkGlobal now).2.trustedProxyCidrs = limiter.trustedProxyCidrs := by
  unfold checkGlobal
  split
  · exact checkKey_trustedProxyCidrs _ _ _ _
  · rfl

/-- The global stage counts what it admits under its own key. -/
theorem checkGlobal_used (k : String) : (limiter.checkGlobal now).2.used now k =
    limiter.used now k + if limiter.config.globalPerWindow.isSome ∧
      (limiter.checkGlobal now).1 = none ∧ k = "global" then 1 else 0 := by
  unfold checkGlobal
  rcases limiter.config.globalPerWindow with _ | limit
  · simp
  · simpa using checkKey_used limiter "global" limit now k

theorem checkSubject_used (k : String) : (limiter.checkSubject request now).2.used now k =
    limiter.used now k + if limiter.config.subjectPerWindow.isSome ∧
      (limiter.checkSubject request now).1 = none ∧
      k = rateLimitSubject request limiter.trustedProxyCidrs then 1 else 0 := by
  unfold checkSubject
  rcases limiter.config.subjectPerWindow with _ | limit
  · simp
  · simpa using checkKey_used limiter (rateLimitSubject request limiter.trustedProxyCidrs) limit
      now k

variable {limiter request now}

/-- A request that the global stage rejects does not get to its subject. -/
theorem checkRequest_of_rejected {retryAfter : ℕ}
    (h : (limiter.checkGlobal now).1 = some retryAfter) :
    limiter.checkRequest request now = limiter.checkGlobal now := by
  unfold checkRequest
  rcases hglobal : limiter.checkGlobal now with ⟨answer, next⟩
  obtain rfl : answer = some retryAfter := by rw [hglobal] at h; exact h
  rfl

theorem checkRequest_of_passed (h : (limiter.checkGlobal now).1 = none) :
    limiter.checkRequest request now =
      (limiter.checkGlobal now).2.checkSubject request now := by
  unfold checkRequest
  rcases hglobal : limiter.checkGlobal now with ⟨answer, next⟩
  obtain rfl : answer = none := by rw [hglobal] at h; exact h
  rfl

end

end RateLimiter

/-- A key with another first letter is not the global one. -/
theorem append_ne_global {pattern rest : String} (c : Char)
    (hc : pattern.toList.head? = some c) (hne : c ≠ 'g') : pattern ++ rest ≠ "global" := by
  intro heq
  have hlist : (pattern ++ rest).toList.head? = some 'g' := by rw [heq]; decide
  rw [String.toList_append, List.head?_append, hc, Option.some_or] at hlist
  exact hne (Option.some.inj hlist)

/-- No subject shares the global stage's bucket. -/
theorem rateLimitSubject_ne_global (request : Request) (trustedProxyCidrs : List TrustedProxyCidr) :
    rateLimitSubject request trustedProxyCidrs ≠ "global" := by
  unfold rateLimitSubject
  split
  · exact append_ne_global 's' (by decide) (by decide)
  · dsimp only
    split
    · exact append_ne_global 'b' (by decide) (by decide)
    · split
      · exact append_ne_global 'b' (by decide) (by decide)
      · exact append_ne_global 'a' (by decide) (by decide)

/-! ## A rejected request -/

/-- The key has a bucket that a sweep at `now` leaves. -/
def RateLimitState.Holds (state : RateLimitState) (key : String) (now windowSecs : ℕ) : Prop :=
  key ∈ (pruneExpiredBuckets state now windowSecs).buckets

instance (state : RateLimitState) (key : String) (now windowSecs : ℕ) :
    Decidable (state.Holds key now windowSecs) :=
  inferInstanceAs (Decidable (key ∈ (pruneExpiredBuckets state now windowSecs).buckets))

/-- A key holds a bucket when one is stored and open. -/
theorem holds_iff {state : RateLimitState} {key : String} {now windowSecs : ℕ} :
    state.Holds key now windowSecs ↔
      ∃ bucket, state.buckets.lookup key = some bucket ∧ bucket.Unexpired now windowSecs := by
  rw [RateLimitState.Holds, AList.mem_iff_lookup]
  constructor
  · rintro ⟨bucket, h⟩
    obtain ⟨hlookup, hopen⟩ := AList.lookup_filter_eq_some.mp h
    exact ⟨bucket, hlookup, of_decide_eq_true hopen⟩
  · rintro ⟨bucket, hlookup, hopen⟩
    exact ⟨bucket, AList.lookup_filter_eq_some.mpr ⟨hlookup, decide_eq_true hopen⟩⟩

/-- An open bucket that is stored adds to the open ones unless its key holds one. -/
theorem unexpired_insert {state : RateLimitState} {key : String} {bucket : RateBucket}
    {now windowSecs prunedAt : ℕ} (hopen : bucket.Unexpired now windowSecs) :
    unexpired ⟨state.buckets.insert key bucket, prunedAt⟩ now windowSecs =
      state.unexpired now windowSecs + if state.Holds key now windowSecs then 0 else 1 := by
  -- as a sum over the keys, of which the insertion changes one summand
  have htotal : ∀ s : RateLimitState, s.unexpired now windowSecs = s.buckets.total fun _ b =>
      if decide (b.Unexpired now windowSecs) = true then 1 else 0 := by
    intro s
    rw [AList.total_ite, AList.total_one]
    rfl
  rw [htotal, htotal]
  dsimp only
  rw [AList.total_insert, if_pos (decide_eq_true hopen)]
  rcases hlookup : state.buckets.lookup key with _ | old
  · have hno : ¬ state.Holds key now windowSecs := by
      intro h
      obtain ⟨b, hb, -⟩ := holds_iff.mp h
      cases hlookup.symm.trans hb
    rw [if_neg hno, AList.total_erase_of_notMem _ hlookup, Nat.add_comm]
  · have hiff : state.Holds key now windowSecs ↔ old.Unexpired now windowSecs := by
      constructor
      · intro h
        obtain ⟨b, hb, hb'⟩ := holds_iff.mp h
        obtain rfl : old = b := Option.some.inj (hlookup.symm.trans hb)
        exact hb'
      · intro h
        exact holds_iff.mpr ⟨old, hlookup, h⟩
    rw [AList.total_of_lookup _ hlookup]
    by_cases hold : old.Unexpired now windowSecs
    · rw [if_pos (decide_eq_true hold), if_pos (hiff.mpr hold), Nat.add_zero]
    · rw [if_neg (by simpa using hold), if_neg fun hc => hold (hiff.mp hc)]
      omega

namespace RateLimiter

/-- The request passes the global stage and finds no room in its subject's: the subject's
quota is used up, or it has no bucket and the map is full once the global one is in it. -/
def WastesGlobal (limiter : RateLimiter) (request : Request) (now : ℕ) : Prop :=
  ∃ g ∈ limiter.config.globalPerWindow, ∃ l ∈ limiter.config.subjectPerWindow,
    limiter.poisoned = false ∧
    limiter.state.HasRoom "global" g now limiter.config.window ∧
    ¬ (limiter.used now (rateLimitSubject request limiter.trustedProxyCidrs) < l ∧
      (rateLimitSubject request limiter.trustedProxyCidrs ∈
          (sweepsFor limiter.state "global" now limiter.config.window).buckets ∨
        limiter.state.unexpired now limiter.config.window +
            (if limiter.state.Holds "global" now limiter.config.window then 0 else 1) <
          maxRateLimitBuckets))

/-- The state after an admitted call: its key counted in a bucket of the swept map. -/
theorem checkKey_state_of_none {limiter : RateLimiter} {key : String} {limit now : ℕ}
    (h : (limiter.checkKey key limit now).1 = none) :
    ∃ bucket, bucket.Unexpired now limiter.config.window ∧
      (limiter.checkKey key limit now).2.state =
        ⟨(sweepsFor limiter.state key now limiter.config.window).buckets.insert key bucket,
          (sweepsFor limiter.state key now limiter.config.window).lastPrunedAt⟩ := by
  obtain ⟨hlock, hroom⟩ := (checkKey_none_iff limiter key limit now).mp h
  have hlimit : limit ≠ 0 := by
    have := hroom.1
    omega
  have hstate : (limiter.checkKey key limit now).2.state =
      (checkBuckets limiter.state key limit now limiter.config.window).2 := by
    unfold checkKey
    rw [if_neg hlimit, if_neg (by rw [hlock]; exact Bool.false_ne_true)]
  have hcount := checkBuckets_none_iff.mpr hroom
  rw [hstate]
  rw [checkBuckets_eq] at hcount ⊢
  split at hcount
  · cases hcount
  · next hfits =>
    rw [if_neg hfits]
    have hused := countRequest_none_iff.mp hcount
    rw [← openBucket_count] at hused
    rw [countRequest_eq, if_neg (Nat.not_le.mpr hused)]
    have hopen : (openBucket (sweepsFor limiter.state key now limiter.config.window) key now
        limiter.config.window).Unexpired now limiter.config.window :=
      openBucket_unexpired limiter.config.window_pos
    refine ⟨_, ?_, rfl⟩
    exact hopen

/-- The room that a second key finds after the call for a first one was admitted. -/
theorem hasRoom_after {limiter : RateLimiter} {key k : String} {limit l now : ℕ}
    (h : (limiter.checkKey key limit now).1 = none) (hne : k ≠ key) :
    (limiter.checkKey key limit now).2.state.HasRoom k l now limiter.config.window ↔
      limiter.used now k < l ∧
        (k ∈ (sweepsFor limiter.state key now limiter.config.window).buckets ∨
          limiter.state.unexpired now limiter.config.window +
              (if limiter.state.Holds key now limiter.config.window then 0 else 1) <
            maxRateLimitBuckets) := by
  obtain ⟨bucket, hopen, hstate⟩ := checkKey_state_of_none h
  have hused := checkKey_used limiter key limit now k
  rw [if_neg fun hc => hne hc.2, Nat.add_zero, used, checkKey_config] at hused
  have hswept := prunedAt_sweepsFor limiter.state key now limiter.config.window
  -- the first call has swept at `now`, so the second does not sweep again
  have hdue : ¬ 1 ≤ now - (limiter.checkKey key limit now).2.state.lastPrunedAt := by
    rw [hstate]
    dsimp only
    omega
  have hmem : k ∈ (limiter.checkKey key limit now).2.state.buckets ↔
      k ∈ (sweepsFor limiter.state key now limiter.config.window).buckets := by
    rw [hstate, AList.mem_insert]
    exact or_iff_right hne
  have hheld : (sweepsFor limiter.state key now limiter.config.window).Holds key now
      limiter.config.window ↔ limiter.state.Holds key now limiter.config.window := by
    rw [RateLimitState.Holds, RateLimitState.Holds, prune_sweepsFor]
  have hcount : (limiter.checkKey key limit now).2.state.unexpired now limiter.config.window =
      limiter.state.unexpired now limiter.config.window +
        (if limiter.state.Holds key now limiter.config.window then 0 else 1) := by
    rw [hstate, unexpired_insert hopen]
    simp only [hheld]
    rw [unexpired, prune_sweepsFor, unexpired]
  rw [RateLimitState.HasRoom, hused, hcount]
  unfold pruneIfDue
  rw [if_neg hdue, hmem]

/-- What the subject's stage answers after the global one has counted the request. -/
theorem checkRequest_granted_iff {limiter : RateLimiter} {request : Request} {now g l : ℕ}
    (hg : limiter.config.globalPerWindow = some g) (hl : limiter.config.subjectPerWindow = some l)
    (hpass : (limiter.checkKey "global" g now).1 = none) :
    (limiter.checkRequest request now).1 = none ↔
      limiter.used now (rateLimitSubject request limiter.trustedProxyCidrs) < l ∧
        (rateLimitSubject request limiter.trustedProxyCidrs ∈
            (sweepsFor limiter.state "global" now limiter.config.window).buckets ∨
          limiter.state.unexpired now limiter.config.window +
              (if limiter.state.Holds "global" now limiter.config.window then 0 else 1) <
            maxRateLimitBuckets) := by
  have hne := rateLimitSubject_ne_global request limiter.trustedProxyCidrs
  have hglobal : limiter.checkGlobal now = limiter.checkKey "global" g now := by
    unfold checkGlobal
    rw [hg]
  have hlock := ((checkKey_none_iff limiter "global" g now).mp hpass).1
  rw [checkRequest_of_passed (hglobal ▸ hpass), hglobal, checkSubject, checkKey_config, hl,
    checkKey_trustedProxyCidrs]
  dsimp only
  rw [checkKey_none_iff, checkKey_poisoned, checkKey_config, hasRoom_after hpass hne]
  exact and_iff_right hlock

/-- A wasteful request is one that passes the global stage and is rejected all the same. -/
theorem wastesGlobal_iff (limiter : RateLimiter) (request : Request) (now : ℕ) :
    limiter.WastesGlobal request now ↔
      limiter.config.globalPerWindow.isSome ∧ (limiter.checkGlobal now).1 = none ∧
        (limiter.checkRequest request now).1 ≠ none := by
  constructor
  · rintro ⟨g, hg, l, hl, hlock, hroom, hfull⟩
    have hpass := (checkKey_none_iff limiter "global" g now).mpr ⟨hlock, hroom⟩
    refine ⟨Option.isSome_iff_exists.mpr ⟨g, hg⟩, ?_, ?_⟩
    · unfold checkGlobal
      rw [hg]
      exact hpass
    · intro hgranted
      exact hfull ((checkRequest_granted_iff hg hl hpass).mp hgranted)
  · rintro ⟨hsome, hpass, hrejected⟩
    obtain ⟨g, hg⟩ := Option.isSome_iff_exists.mp hsome
    rw [checkRequest_of_passed hpass, checkSubject, checkGlobal_config] at hrejected
    -- without a limit for subjects the second stage rejects nothing
    rcases hl : limiter.config.subjectPerWindow with _ | l
    · rw [hl] at hrejected
      exact absurd rfl hrejected
    -- so it is the subject that has no room, in the state that the global stage left
    · have hkey : (limiter.checkKey "global" g now).1 = none := by
        unfold checkGlobal at hpass
        rw [hg] at hpass
        exact hpass
      obtain ⟨hlock, hroom⟩ := (checkKey_none_iff limiter "global" g now).mp hkey
      refine ⟨g, hg, l, hl, hlock, hroom, ?_⟩
      intro hfits
      have hgranted := (checkRequest_granted_iff hg hl hkey).mpr hfits
      rw [checkRequest_of_passed hpass, checkSubject, checkGlobal_config] at hgranted
      exact hrejected hgranted

instance (limiter : RateLimiter) (request : Request) (now : ℕ) :
    Decidable (limiter.WastesGlobal request now) :=
  decidable_of_iff _ (wastesGlobal_iff limiter request now).symm

/-- A rejected request leaves every key's used quota as it was, unless it is wasteful. -/
theorem used_of_rejected {limiter : RateLimiter} {request : Request} {now : ℕ}
    (hrejected : (limiter.checkRequest request now).1 ≠ none) (key : String) :
    (limiter.checkRequest request now).2.used now key =
      limiter.used now key +
        if limiter.WastesGlobal request now ∧ key = "global" then 1 else 0 := by
  have hwaste := wastesGlobal_iff limiter request now
  rcases hglobal : (limiter.checkGlobal now).1 with _ | retryAfter
  · rw [checkRequest_of_passed hglobal] at hrejected hwaste ⊢
    rw [checkSubject_used, if_neg fun hc => hrejected hc.2.1, Nat.add_zero, checkGlobal_used]
    simp only [hwaste, hglobal, hrejected, true_and, and_true, ne_eq, not_false_eq_true]
  · rw [checkRequest_of_rejected hglobal] at hwaste ⊢
    rw [checkGlobal_used]
    simp only [hwaste, hglobal, reduceCtorEq, false_and, and_false]

end RateLimiter

end GvmGateway.Rest

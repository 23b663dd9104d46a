import GvmGateway.Library.FixedWindow
import GvmGateway.Rest.RateLimit

/-!
# The rate limiter counts fixed windows

The pruned bucket map answers every call as a never-pruned map of windows would
(`FixedWindow.check`), as long as the clock does not go back. Right after the sweep at the
start of a call the map holds the buckets that are unexpired at that moment and no others, so
the second sweep of a full map finds nothing and no bucket is ever reset in place.
-/

namespace GvmGateway.Rest

open FixedWindow (Window Windows current openCount check charge)

/-- A bucket as a window. -/
def RateBucket.toWindow (bucket : RateBucket) : Window := ⟨bucket.windowStartedAt, bucket.count⟩

namespace RateLimitState

/-- The buckets read as windows. -/
def windows (state : RateLimitState) : Windows String :=
  state.buckets.mapVal fun _ bucket => bucket.toWindow

/-- The windows of a state are its buckets. -/
theorem lookup_windows (state : RateLimitState) (key : String) :
    state.windows.lookup key = (state.buckets.lookup key).map RateBucket.toWindow :=
  AList.lookup_mapVal _ _ _

theorem lookup_windows_of_bucket {state : RateLimitState} {key : String} {bucket : RateBucket}
    (h : state.buckets.lookup key = some bucket) :
    state.windows.lookup key = some bucket.toWindow := by
  rw [lookup_windows, h, Option.map_some]

theorem length_windows (state : RateLimitState) :
    state.windows.entries.length = state.buckets.entries.length :=
  List.length_map _

/-- A bucket that is stored is a window that is stored. -/
theorem current_windows_insert (state : RateLimitState) (key : String) (bucket : RateBucket)
    (len now prunedAt : ℕ) (k : String) :
    current len now (windows ⟨state.buckets.insert key bucket, prunedAt⟩) k =
      current len now (state.windows.insert key bucket.toWindow) k := by
  rw [current, current, lookup_windows, AList.lookup_insert_eq_ite, AList.lookup_insert_eq_ite,
    lookup_windows]
  split
  · rfl
  · rfl

/-! ## Sweeps -/

/-- What every sweep keeps, the one at the start of a call keeps, due or not. -/
theorem pruneIfDue_keeps {P : RateLimitState → Prop} {state : RateLimitState}
    {now windowSecs : ℕ} (hprune : ∀ s, P s → P (pruneExpiredBuckets s now windowSecs))
    (h : P state) : P (pruneIfDue state now windowSecs) := by
  unfold pruneIfDue
  split
  · exact hprune state h
  · exact h

/-- Pruning removes no open window, now or later. -/
theorem current_prune {state : RateLimitState} {windowSecs now later : ℕ} (hle : now ≤ later)
    (key : String) :
    current windowSecs later (pruneExpiredBuckets state now windowSecs).windows key =
      current windowSecs later state.windows key := by
  ext w
  rw [FixedWindow.current_eq_some, FixedWindow.current_eq_some, lookup_windows, lookup_windows,
    Option.map_eq_some_iff, Option.map_eq_some_iff]
  constructor
  · rintro ⟨⟨bucket, hlookup, rfl⟩, hopen⟩
    exact ⟨⟨bucket, (AList.lookup_filter_eq_some.mp hlookup).1, rfl⟩, hopen⟩
  · rintro ⟨⟨bucket, hlookup, rfl⟩, hopen⟩
    -- what is open later is not swept now
    have hnow : bucket.Unexpired now windowSecs := hopen.anti hle
    exact ⟨⟨bucket, AList.lookup_filter_eq_some.mpr ⟨hlookup, decide_eq_true hnow⟩, rfl⟩, hopen⟩

/-- The state right after a sweep at `now`: nothing expired is left. -/
structure Swept (state : RateLimitState) (now windowSecs : ℕ) : Prop where
  prunedAt : state.lastPrunedAt = now
  fresh : ∀ key bucket, state.buckets.lookup key = some bucket →
    bucket.Unexpired now windowSecs

/-- Pruning leaves open windows only. -/
theorem swept_prune (state : RateLimitState) (now windowSecs : ℕ) :
    (pruneExpiredBuckets state now windowSecs).Swept now windowSecs where
  prunedAt := rfl
  fresh _ _ h := of_decide_eq_true (AList.lookup_filter_eq_some.mp h).2

/-- Every bucket has been unexpired at the time of the last sweep. -/
def SweptOnce (state : RateLimitState) (windowSecs : ℕ) : Prop :=
  state.Swept state.lastPrunedAt windowSecs

theorem swept_pruneIfDue {state : RateLimitState} {now windowSecs : ℕ}
    (h : state.SweptOnce windowSecs) (hle : state.lastPrunedAt ≤ now) :
    (pruneIfDue state now windowSecs).Swept now windowSecs := by
  unfold pruneIfDue
  by_cases hdue : 1 ≤ now - state.lastPrunedAt
  · rw [if_pos hdue]
    exact swept_prune state now windowSecs
  · rw [if_neg hdue]
    have hnow : state.lastPrunedAt = now := by omega
    exact hnow ▸ h

/-- A sweep removes no open window. -/
theorem current_pruneIfDue {state : RateLimitState} {windowSecs now later : ℕ}
    (hle : now ≤ later) (key : String) :
    current windowSecs later (pruneIfDue state now windowSecs).windows key =
      current windowSecs later state.windows key := by
  apply pruneIfDue_keeps (P := fun s => current windowSecs later s.windows key =
    current windowSecs later state.windows key)
  · intro s h
    exact (current_prune hle key).trans h
  · rfl

/-- A second sweep at the same time changes nothing. -/
theorem Swept.prune_eq {state : RateLimitState} {now windowSecs : ℕ}
    (h : state.Swept now windowSecs) : pruneExpiredBuckets state now windowSecs = state := by
  obtain ⟨buckets, lastPrunedAt⟩ := state
  obtain ⟨hpruned, hfresh⟩ := h
  obtain rfl : lastPrunedAt = now := hpruned
  have hkeep : buckets.filter (fun _ bucket => decide (bucket.Unexpired lastPrunedAt windowSecs)) =
      buckets := by
    apply AList.ext
    rw [AList.entries_filter, List.filter_eq_self]
    intro e he
    exact decide_eq_true (hfresh e.1 e.2 (AList.mem_entries_iff.mp he))
  rw [pruneExpiredBuckets, hkeep]

/-- A sweep at the same time as another leaves what the other would have left. -/
theorem prune_prune (state : RateLimitState) (now windowSecs : ℕ) :
    pruneExpiredBuckets (pruneExpiredBuckets state now windowSecs) now windowSecs =
      pruneExpiredBuckets state now windowSecs :=
  (swept_prune state now windowSecs).prune_eq

/-- Pruning after a sweep is pruning. -/
theorem prune_pruneIfDue (state : RateLimitState) (now windowSecs : ℕ) :
    pruneExpiredBuckets (pruneIfDue state now windowSecs) now windowSecs =
      pruneExpiredBuckets state now windowSecs := by
  apply pruneIfDue_keeps (P := fun s => pruneExpiredBuckets s now windowSecs =
    pruneExpiredBuckets state now windowSecs)
  · intro s h
    exact (prune_prune s now windowSecs).trans h
  · rfl

/-- Pruning adds no bucket. -/
theorem length_prune_le (state : RateLimitState) (now windowSecs : ℕ) :
    (pruneExpiredBuckets state now windowSecs).buckets.entries.length ≤
      state.buckets.entries.length :=
  List.length_filter_le _ _

/-- The number of buckets that a sweep at `now` would leave. -/
def unexpired (state : RateLimitState) (now windowSecs : ℕ) : ℕ :=
  (pruneExpiredBuckets state now windowSecs).buckets.entries.length

/-- After a sweep the buckets are the open windows. -/
theorem Swept.length_eq {state : RateLimitState} {now windowSecs : ℕ}
    (h : state.Swept now windowSecs) :
    state.buckets.entries.length = openCount windowSecs now state.windows := by
  rw [FixedWindow.openCount_eq_length, length_windows]
  intro key w hw
  rw [lookup_windows, Option.map_eq_some_iff] at hw
  obtain ⟨bucket, hbucket, rfl⟩ := hw
  exact h.fresh key bucket hbucket

theorem Swept.current_eq {state : RateLimitState} {now windowSecs : ℕ}
    (h : state.Swept now windowSecs) (key : String) :
    current windowSecs now state.windows key =
      (state.buckets.lookup key).map RateBucket.toWindow := by
  rw [current, lookup_windows]
  rcases hlookup : state.buckets.lookup key with _ | bucket
  · rfl
  · have hopen : bucket.toWindow.Open windowSecs now := h.fresh key bucket hlookup
    rw [Option.map_some, Option.filter_some, if_pos (decide_eq_true hopen)]

end RateLimitState

open RateLimitState

/-! ## One call -/

/-- The bucket that a call is counted in after the sweep of its start. -/
def bucketFor (state : RateLimitState) (key : String) (now : ℕ) : RateBucket :=
  (state.buckets.lookup key).getD ⟨now, 0⟩

/-- The bucket a call counts in: the key's own, started afresh if its window has run out. -/
def openBucket (state : RateLimitState) (key : String) (now windowSecs : ℕ) : RateBucket :=
  if windowSecs ≤ now - (bucketFor state key now).windowStartedAt then ⟨now, 0⟩
  else bucketFor state key now

/-- The sweeps of a call for `key`: the one that is due, and a second one when the key is new
and the map full. -/
def sweepsFor (state : RateLimitState) (key : String) (now windowSecs : ℕ) : RateLimitState :=
  let state := pruneIfDue state now windowSecs
  if key ∉ state.buckets ∧ maxRateLimitBuckets ≤ state.buckets.entries.length then
    pruneExpiredBuckets state now windowSecs
  else state

/-- What pruning keeps, the sweeps of a call keep. -/
theorem sweepsFor_keeps {P : RateLimitState → Prop} {state : RateLimitState} {now windowSecs : ℕ}
    (hprune : ∀ s, P s → P (pruneExpiredBuckets s now windowSecs)) (h : P state)
    (key : String) : P (sweepsFor state key now windowSecs) := by
  have hdue : P (pruneIfDue state now windowSecs) := pruneIfDue_keeps hprune h
  unfold sweepsFor
  dsimp only
  split
  · exact hprune _ hdue
  · exact hdue

/-- Counting a request, in terms of the open bucket. -/
theorem countRequest_eq {state : RateLimitState} {key : String} {limit now windowSecs : ℕ} :
    countRequest state key limit now windowSecs =
    if limit ≤ (openBucket state key now windowSecs).count then
      (some (max (windowSecs - (now - (openBucket state key now windowSecs).windowStartedAt)) 1),
        ⟨state.buckets.insert key (openBucket state key now windowSecs), state.lastPrunedAt⟩)
    else
      (none, ⟨state.buckets.insert key ⟨(openBucket state key now windowSecs).windowStartedAt,
        (openBucket state key now windowSecs).count + 1⟩, state.lastPrunedAt⟩) := rfl

/-- A call turns the key away if the map stays full, and counts it otherwise. -/
theorem checkBuckets_eq {state : RateLimitState} {key : String} {limit now windowSecs : ℕ} :
    checkBuckets state key limit now windowSecs =
    if key ∉ (pruneIfDue state now windowSecs).buckets ∧
        maxRateLimitBuckets ≤ state.unexpired now windowSecs then
      (some windowSecs, sweepsFor state key now windowSecs)
    else countRequest (sweepsFor state key now windowSecs) key limit now windowSecs := by
  have hprune := prune_pruneIfDue state now windowSecs
  have hle := length_prune_le (pruneIfDue state now windowSecs) now windowSecs
  rw [hprune] at hle
  unfold checkBuckets sweepsFor RateLimitState.unexpired
  dsimp only
  rw [hprune]
  -- a known key, room without a sweep, room after it, and no room at all
  by_cases hnew : key ∉ (pruneIfDue state now windowSecs).buckets
  · by_cases hfull : maxRateLimitBuckets ≤
        (pruneIfDue state now windowSecs).buckets.entries.length
    · by_cases hstill : maxRateLimitBuckets ≤
          (pruneExpiredBuckets state now windowSecs).buckets.entries.length
      · simp only [hnew, hfull, hstill, not_false_eq_true, and_self, if_true]
      · simp only [hnew, hfull, hstill, not_false_eq_true, and_self, and_false, if_true, if_false]
    · have hroom : ¬ maxRateLimitBuckets ≤
          (pruneExpiredBuckets state now windowSecs).buckets.entries.length := by omega
      simp only [hfull, hroom, and_false, if_false]
  · simp only [hnew, false_and, if_false]

/-- A state that its sweep leaves fresh is not swept again. -/
theorem checkBuckets_of_swept {state : RateLimitState} {key : String} {limit now windowSecs : ℕ}
    (h : (pruneIfDue state now windowSecs).Swept now windowSecs) :
    checkBuckets state key limit now windowSecs =
      if key ∉ (pruneIfDue state now windowSecs).buckets ∧
          maxRateLimitBuckets ≤ (pruneIfDue state now windowSecs).buckets.entries.length then
        (some windowSecs, pruneIfDue state now windowSecs)
      else countRequest (pruneIfDue state now windowSecs) key limit now windowSecs := by
  -- all three sweeps come to the same
  have hprune : pruneExpiredBuckets state now windowSecs = pruneIfDue state now windowSecs := by
    rw [← prune_pruneIfDue, h.prune_eq]
  have hsweeps : sweepsFor state key now windowSecs = pruneIfDue state now windowSecs := by
    unfold sweepsFor
    dsimp only
    rw [h.prune_eq, ite_self]
  rw [checkBuckets_eq, hsweeps, unexpired, hprune]

theorem countRequest_of_swept {state : RateLimitState} {key : String} {limit now windowSecs : ℕ}
    (hwindow : 0 < windowSecs) (h : state.Swept now windowSecs) :
    countRequest state key limit now windowSecs =
      if limit ≤ (bucketFor state key now).count then
        (some (max (windowSecs - (now - (bucketFor state key now).windowStartedAt)) 1),
          ⟨state.buckets.insert key (bucketFor state key now), now⟩)
      else
        (none, ⟨state.buckets.insert key ⟨(bucketFor state key now).windowStartedAt,
          (bucketFor state key now).count + 1⟩, now⟩) := by
  -- the window of the bucket has not run out, so it is not reset
  have hopen : (bucketFor state key now).Unexpired now windowSecs := by
    unfold bucketFor
    rcases hlookup : state.buckets.lookup key with _ | bucket
    · show now - now < windowSecs
      omega
    · exact h.fresh key bucket hlookup
  have hkeep : openBucket state key now windowSecs = bucketFor state key now :=
    if_neg (Nat.not_le.mpr hopen)
  rw [countRequest_eq, hkeep, h.prunedAt]

/-- The limiter at the time `t` of its last call, and the windows that a limiter without
pruning would have: from `t` on the same windows are open. -/
structure Refines (windowSecs t : ℕ) (limiter : RateLimiter) (m : Windows String) : Prop where
  lock : limiter.poisoned = false
  window : limiter.config.window = windowSecs
  pruned : limiter.state.lastPrunedAt ≤ t
  swept : limiter.state.SweptOnce windowSecs
  started : ∀ key bucket, limiter.state.buckets.lookup key = some bucket →
    bucket.windowStartedAt ≤ t
  agree : ∀ now, t ≤ now → ∀ key,
    current windowSecs now limiter.state.windows key = current windowSecs now m key

/-- A new limiter has no windows. -/
theorem refines_new (config : RateLimitConfig) (trustedProxyCidrs : List TrustedProxyCidr) (t : ℕ) :
    Refines config.window t (RateLimiter.new config trustedProxyCidrs) ∅ where
  lock := rfl
  window := rfl
  pruned := Nat.zero_le t
  swept := ⟨rfl, fun _ _ h => nomatch h⟩
  started _ _ h := nomatch h
  agree _ _ _ := rfl

namespace RateLimiter

/-- One call as an input of the limiter. -/
def call (limiter : RateLimiter) (c : FixedWindow.Call String) : Option ℕ × RateLimiter :=
  limiter.checkKey c.key c.limit c.time

/-- A call with a limit under a sound lock is a check of the buckets. -/
theorem call_eq {limiter : RateLimiter} {c : FixedWindow.Call String} (hlimit : 1 ≤ c.limit)
    (hlock : limiter.poisoned = false) :
    limiter.call c =
      ((checkBuckets limiter.state c.key c.limit c.time limiter.config.window).1,
        ⟨limiter.config, limiter.trustedProxyCidrs,
          (checkBuckets limiter.state c.key c.limit c.time limiter.config.window).2,
          limiter.poisoned⟩) := by
  rw [call, checkKey, if_neg (by omega), if_neg (by rw [hlock]; exact Bool.false_ne_true)]

end RateLimiter

/-- The sweep at the start of a call keeps the relation and brings it to the call's time. -/
theorem Refines.sweep {windowSecs t now : ℕ} {limiter : RateLimiter} {m : Windows String}
    (h : Refines windowSecs t limiter m) (hle : t ≤ now) :
    Refines windowSecs now ⟨limiter.config, limiter.trustedProxyCidrs,
      pruneIfDue limiter.state now windowSecs, limiter.poisoned⟩ m := by
  have hswept := swept_pruneIfDue h.swept (h.pruned.trans hle)
  constructor
  · exact h.lock
  · exact h.window
  · exact le_of_eq hswept.prunedAt
  · show (pruneIfDue limiter.state now windowSecs).Swept _ windowSecs
    rw [hswept.prunedAt]
    exact hswept
  · intro key bucket hlookup
    have hbefore : limiter.state.buckets.lookup key = some bucket := by
      revert hlookup
      apply pruneIfDue_keeps (P := fun s => s.buckets.lookup key = some bucket →
        limiter.state.buckets.lookup key = some bucket)
      · intro s hs hswept
        exact hs (AList.lookup_filter_eq_some.mp hswept).1
      · exact id
    exact (h.started key bucket hbefore).trans hle
  · intro later hlater key
    exact (current_pruneIfDue hlater key).trans (h.agree later (hle.trans hlater) key)

/-- Both limiters enter the same window for a key at the time the relation speaks of. -/
theorem Refines.insert {windowSecs t : ℕ} {limiter : RateLimiter} {m : Windows String}
    (h : Refines windowSecs t limiter m) (key : String) {bucket : RateBucket}
    (hopen : bucket.Unexpired t windowSecs) (hstart : bucket.windowStartedAt ≤ t)
    (hnow : limiter.state.lastPrunedAt = t) :
    Refines windowSecs t ⟨limiter.config, limiter.trustedProxyCidrs,
      ⟨limiter.state.buckets.insert key bucket, t⟩, limiter.poisoned⟩
      (m.insert key bucket.toWindow) := by
  constructor
  · exact h.lock
  · exact h.window
  · exact le_refl t
  · constructor
    · rfl
    · apply AList.forall_lookup_insert
      · exact hopen
      · intro k b _ hk
        exact hnow ▸ h.swept.fresh k b hk
  · apply AList.forall_lookup_insert
    · exact hstart
    · intro k b _ hk
      exact h.started k b hk
  · intro now hnow k
    rw [current_windows_insert, FixedWindow.current_insert, FixedWindow.current_insert,
      h.agree now hnow k]

/-- Only the windows from now on matter. -/
theorem Refines.congr {windowSecs t : ℕ} {limiter : RateLimiter} {m n : Windows String}
    (h : Refines windowSecs t limiter m)
    (heq : ∀ now, t ≤ now → ∀ key, current windowSecs now m key = current windowSecs now n key) :
    Refines windowSecs t limiter n :=
  { h with agree := fun now hnow key => (h.agree now hnow key).trans (heq now hnow key) }

/-- Entering a window that a key already has changes nothing. -/
theorem current_insert_self {windowSecs now later : ℕ} {m : Windows String} {key : String}
    {w : Window} (h : current windowSecs now m key = some w) (k : String) :
    current windowSecs later (m.insert key w) k = current windowSecs later m k := by
  rw [FixedWindow.current_insert]
  split
  · next hk =>
    rw [hk, current, (FixedWindow.current_eq_some.mp h).1]
  · rfl

/-- A call counted in the window `w`, which is the open window of its key or a new one. -/
theorem refines_charge {windowSecs : ℕ} {limiter : RateLimiter} {m : Windows String}
    {c : FixedWindow.Call String} (hwindow : 0 < windowSecs) (hlimit : 1 ≤ c.limit)
    (h : Refines windowSecs c.time limiter m)
    (hswept : limiter.state.Swept c.time windowSecs) :
    (countRequest limiter.state c.key c.limit c.time windowSecs).1 =
        (charge windowSecs m c (bucketFor limiter.state c.key c.time).toWindow).1 ∧
      Refines windowSecs c.time ⟨limiter.config, limiter.trustedProxyCidrs,
        (countRequest limiter.state c.key c.limit c.time windowSecs).2, limiter.poisoned⟩
        (charge windowSecs m c (bucketFor limiter.state c.key c.time).toWindow).2 := by
  have hbucket : (bucketFor limiter.state c.key c.time).Unexpired c.time windowSecs ∧
      (bucketFor limiter.state c.key c.time).windowStartedAt ≤ c.time := by
    unfold bucketFor
    rcases hlookup : limiter.state.buckets.lookup c.key with _ | bucket
    · refine ⟨?_, le_refl _⟩
      show c.time - c.time < windowSecs
      omega
    · exact ⟨hswept.fresh c.key bucket hlookup, h.started c.key bucket hlookup⟩
  obtain ⟨hopen, hstart⟩ := hbucket
  rw [countRequest_of_swept hwindow hswept]
  by_cases hfull : c.limit ≤ (bucketFor limiter.state c.key c.time).count
  · rw [if_pos hfull, FixedWindow.charge_full hfull]
    constructor
    · have hleft : max (windowSecs - (c.time -
          (bucketFor limiter.state c.key c.time).windowStartedAt)) 1 =
          (bucketFor limiter.state c.key c.time).windowStartedAt + windowSecs - c.time := by
        unfold RateBucket.Unexpired at hopen
        omega
      exact congrArg some hleft
    · -- a full bucket is not a new one, so it is put back as it was found
      have hfound : current windowSecs c.time m c.key =
          some (bucketFor limiter.state c.key c.time).toWindow := by
        rw [← h.agree c.time (le_refl _) c.key, hswept.current_eq]
        unfold bucketFor at hfull ⊢
        rcases hlookup : limiter.state.buckets.lookup c.key with _ | bucket
        · rw [hlookup] at hfull
          exact absurd (hlimit.trans hfull) (Nat.not_succ_le_zero 0)
        · rfl
      exact (h.insert c.key hopen hstart hswept.prunedAt).congr fun now _ k =>
        current_insert_self hfound k
  · rw [if_neg hfull, FixedWindow.charge_room (Nat.not_le.mp hfull)]
    exact ⟨rfl, h.insert c.key hopen hstart hswept.prunedAt⟩

/-- One call: the same answer, and the relation at the time of the call. -/
theorem refines_call {windowSecs t : ℕ} {limiter : RateLimiter} {m : Windows String}
    {c : FixedWindow.Call String} (hwindow : 0 < windowSecs) (hlimit : 1 ≤ c.limit)
    (h : Refines windowSecs t limiter m) (hle : t ≤ c.time) :
    (limiter.call c).1 = (check maxRateLimitBuckets windowSecs m c).1 ∧
      Refines windowSecs c.time (limiter.call c).2 (check maxRateLimitBuckets windowSecs m c).2 := by
  -- both sides are compared at the time of the call, past the buckets that have expired by then
  have hnow := h.sweep hle
  have hswept := swept_pruneIfDue h.swept (h.pruned.trans hle)
  have hcurrent := (hnow.agree c.time (le_refl _) c.key).symm.trans (hswept.current_eq c.key)
  have hcount : (pruneIfDue limiter.state c.time windowSecs).buckets.entries.length =
      openCount windowSecs c.time m := by
    rw [hswept.length_eq]
    exact FixedWindow.openCount_congr (hnow.agree c.time (le_refl _))
  have hcharge := refines_charge hwindow hlimit hnow hswept
  rw [RateLimiter.call_eq hlimit h.lock, h.window, checkBuckets_of_swept hswept]
  rcases hlookup : (pruneIfDue limiter.state c.time windowSecs).buckets.lookup c.key with _ | bucket
  · have hnew : c.key ∉ (pruneIfDue limiter.state c.time windowSecs).buckets :=
      AList.lookup_eq_none.mp hlookup
    rw [hlookup, Option.map_none] at hcurrent
    -- a new key needs room
    by_cases hfull : maxRateLimitBuckets ≤ openCount windowSecs c.time m
    · rw [if_pos ⟨hnew, hcount ▸ hfull⟩, FixedWindow.check_crowded hcurrent hfull]
      exact ⟨rfl, hnow⟩
    · have hbucket : bucketFor (pruneIfDue limiter.state c.time windowSecs) c.key c.time =
          ⟨c.time, 0⟩ := by
        rw [bucketFor, hlookup, Option.getD_none]
      rw [if_neg fun hc => hfull (hcount ▸ hc.2),
        FixedWindow.check_fresh hcurrent (Nat.not_le.mp hfull)]
      rw [hbucket] at hcharge
      exact hcharge
  · have hknown : c.key ∈ (pruneIfDue limiter.state c.time windowSecs).buckets :=
      AList.mem_of_lookup hlookup
    have hbucket : bucketFor (pruneIfDue limiter.state c.time windowSecs) c.key c.time = bucket := by
      rw [bucketFor, hlookup, Option.getD_some]
    rw [hlookup, Option.map_some] at hcurrent
    rw [if_neg fun hc => hc.1 hknown, FixedWindow.check_current hcurrent]
    rw [hbucket] at hcharge
    exact hcharge

/-! ## Sequences of calls -/

open RateLimiter

/-- The limiter answers every list of calls as the windows do. -/
theorem refines_calls (config : RateLimitConfig) (trustedProxyCidrs : List TrustedProxyCidr)
    {calls : List (FixedWindow.Call String)} (hlimit : ∀ c ∈ calls, 1 ≤ c.limit)
    (hclock : Mealy.Clocked FixedWindow.Call.time 0 calls) :
    Mealy.outputs call (new config trustedProxyCidrs) calls =
        Mealy.outputs (check maxRateLimitBuckets config.window) ∅ calls ∧
      Refines config.window (Mealy.lastTime FixedWindow.Call.time 0 calls)
        (Mealy.final call (new config trustedProxyCidrs) calls)
        (Mealy.final (check maxRateLimitBuckets config.window) ∅ calls) := by
  apply Mealy.clocked_simulation
  · intro t limiter m c hc h hle
    exact refines_call config.window_pos (hlimit c hc) h hle
  · exact hclock
  · exact refines_new config trustedProxyCidrs 0

/-- The bucket of an open window. -/
theorem Refines.bucket_of_current {windowSecs t now : ℕ} {limiter : RateLimiter}
    {m : Windows String} (h : Refines windowSecs t limiter m) (hle : t ≤ now) {key : String}
    {w : Window} (hcur : current windowSecs now m key = some w) :
    ∃ bucket, limiter.state.buckets.lookup key = some bucket ∧ bucket.toWindow = w := by
  rw [← h.agree now hle key] at hcur
  have hlookup := (FixedWindow.current_eq_some.mp hcur).1
  rw [lookup_windows, Option.map_eq_some_iff] at hlookup
  exact hlookup

/-- An open bucket of the limiter is the current window of its key. -/
theorem Refines.current_of_bucket {windowSecs t now : ℕ} {limiter : RateLimiter}
    {m : Windows String} (h : Refines windowSecs t limiter m) (hle : t ≤ now) {key : String}
    {bucket : RateBucket} (hlookup : limiter.state.buckets.lookup key = some bucket)
    (hopen : bucket.Unexpired now windowSecs) :
    current windowSecs now m key = some bucket.toWindow := by
  rw [← h.agree now hle key]
  exact FixedWindow.current_eq_some.mpr ⟨lookup_windows_of_bucket hlookup, hopen⟩

/-! ## The size of the map -/

/-- Counting keeps within the capacity. -/
theorem length_countRequest_le {state : RateLimitState} (key : String) (limit now windowSecs : ℕ)
    (h : state.buckets.entries.length ≤ maxRateLimitBuckets)
    (hroom : key ∈ state.buckets ∨ state.buckets.entries.length < maxRateLimitBuckets) :
    (countRequest state key limit now windowSecs).2.buckets.entries.length ≤
      maxRateLimitBuckets := by
  have hinsert : ∀ bucket : RateBucket,
      (state.buckets.insert key bucket).entries.length ≤ maxRateLimitBuckets := by
    intro bucket
    obtain hmem | hlt := hroom
    · exact (AList.length_insert_of_mem bucket hmem).trans_le h
    · exact (AList.length_insert_le _ _ _).trans hlt
  unfold countRequest
  dsimp only
  split_ifs <;> exact hinsert _

/-- No call lets the map grow beyond its bound, whatever the clock says. -/
theorem length_call_le {limiter : RateLimiter} (c : FixedWindow.Call String)
    (h : limiter.state.buckets.entries.length ≤ maxRateLimitBuckets) :
    (limiter.call c).2.state.buckets.entries.length ≤ maxRateLimitBuckets := by
  have hdue : (pruneIfDue limiter.state c.time limiter.config.window).buckets.entries.length ≤
      maxRateLimitBuckets := by
    apply pruneIfDue_keeps (P := fun s => s.buckets.entries.length ≤ maxRateLimitBuckets)
    · intro s hs
      exact (length_prune_le s _ _).trans hs
    · exact h
  have hcheck : (checkBuckets limiter.state c.key c.limit c.time
      limiter.config.window).2.buckets.entries.length ≤ maxRateLimitBuckets := by
    unfold checkBuckets
    dsimp only
    -- full after both sweeps, room after the second, or room at once
    split_ifs with hfull hstill
    · exact (length_prune_le _ _ _).trans hdue
    · exact length_countRequest_le _ _ _ _ ((length_prune_le _ _ _).trans hdue)
        (.inr (Nat.not_le.mp hstill))
    · apply length_countRequest_le _ _ _ _ hdue
      by_contra hno
      push Not at hno
      exact hfull hno
  unfold call checkKey
  split_ifs
  · exact h
  · exact h
  · exact hcheck

/-! ## The limiter as a fixed-window counter -/

section Calls

variable {config : RateLimitConfig} {trustedProxyCidrs : List TrustedProxyCidr}
variable {calls : List (FixedWindow.Call String)} {c : FixedWindow.Call String}

/-- The limiter and the windows before the last of some calls. -/
theorem refines_before (config : RateLimitConfig) (trustedProxyCidrs : List TrustedProxyCidr)
    (hlimit : ∀ d ∈ calls ++ [c], 1 ≤ d.limit)
    (hclock : Mealy.Clocked FixedWindow.Call.time 0 (calls ++ [c])) :
    Refines config.window (Mealy.lastTime FixedWindow.Call.time 0 calls)
        (Mealy.final call (new config trustedProxyCidrs) calls)
        (Mealy.final (check maxRateLimitBuckets config.window) ∅ calls) ∧
      Mealy.lastTime FixedWindow.Call.time 0 calls ≤ c.time := by
  obtain ⟨hclock, hlast⟩ := Mealy.clocked_concat.mp hclock
  have hcalls : ∀ d ∈ calls, 1 ≤ d.limit := fun d hd => hlimit d (List.mem_append_left _ hd)
  exact ⟨(refines_calls config trustedProxyCidrs hcalls hclock).2, hlast⟩

/-- The last of some calls, when it is admitted. -/
theorem admitted_counted (hlimit : ∀ d ∈ calls ++ [c], 1 ≤ d.limit)
    (hclock : Mealy.Clocked FixedWindow.Call.time 0 (calls ++ [c]))
    (hgranted : ((Mealy.final call (new config trustedProxyCidrs) calls).call c).1 = none) :
    ∃ bucket, ((Mealy.final call (new config trustedProxyCidrs) (calls ++ [c])).state.buckets.lookup
        c.key = some bucket) ∧
      bucket.windowStartedAt ≤ c.time ∧ c.time < bucket.windowStartedAt + config.window ∧
      bucket.count = FixedWindow.used c.key bucket.windowStartedAt
        (FixedWindow.admissions (calls ++ [c])
          (Mealy.outputs call (new config trustedProxyCidrs) (calls ++ [c]))) ∧
      bucket.count ≤ c.limit := by
  obtain ⟨houtputs, hafter⟩ := refines_calls config trustedProxyCidrs hlimit hclock
  obtain ⟨hbefore, hlast⟩ := refines_before config trustedProxyCidrs hlimit hclock
  have hsame := (refines_call config.window_pos (hlimit c (by simp)) hbefore hlast).1
  obtain ⟨w, hcur, hstart, hcount, hle⟩ :=
    FixedWindow.admitted_le_limit config.window_pos hclock (hsame ▸ hgranted)
  rw [Mealy.lastTime_concat] at hafter
  obtain ⟨bucket, hlookup, rfl⟩ := hafter.bucket_of_current (le_refl _) hcur
  refine ⟨bucket, hlookup, hstart, (FixedWindow.current_eq_some.mp hcur).2.lt, ?_, hle⟩
  rw [houtputs]
  exact hcount

/-- The last of some calls, when it is rejected although its key has an unexpired bucket. -/
theorem rejected_later {bucket : RateBucket} {retryAfter : ℕ}
    (hlimit : ∀ d ∈ calls ++ [c], 1 ≤ d.limit)
    (hclock : Mealy.Clocked FixedWindow.Call.time 0 (calls ++ [c]))
    (hlookup : (Mealy.final call (new config trustedProxyCidrs) calls).state.buckets.lookup c.key =
      some bucket)
    (hopen : bucket.Unexpired c.time config.window)
    (hanswer : ((Mealy.final call (new config trustedProxyCidrs) calls).call c).1 =
      some retryAfter) :
    (∀ t, c.time ≤ t → t < c.time + retryAfter →
      ((Mealy.final call (new config trustedProxyCidrs) (calls ++ [c])).call
        ⟨c.key, c.limit, t⟩).1 ≠ none) ∧
    ∀ limit, 1 ≤ limit →
      ((Mealy.final call (new config trustedProxyCidrs) (calls ++ [c])).call
        ⟨c.key, limit, c.time + retryAfter⟩).1 = none := by
  obtain ⟨hbefore, hlast⟩ := refines_before config trustedProxyCidrs hlimit hclock
  obtain ⟨hsame, hafter⟩ := refines_call config.window_pos (hlimit c (by simp)) hbefore hlast
  have hcur := hbefore.current_of_bucket hlast hlookup hopen
  have hroom : openCount config.window c.time
      (Mealy.final (check maxRateLimitBuckets config.window) ∅ calls) ≤ maxRateLimitBuckets :=
    (FixedWindow.openCount_anti _ hlast).trans
      (FixedWindow.openCount_final_le (Mealy.clocked_concat.mp hclock).1)
  rw [hsame] at hanswer
  -- the windows are as they were, since the call was turned away
  have hkept : (check maxRateLimitBuckets config.window
      (Mealy.final (check maxRateLimitBuckets config.window) ∅ calls) c).2 =
      Mealy.final (check maxRateLimitBuckets config.window) ∅ calls := by
    obtain ⟨-, hkept⟩ | ⟨w, -, -, heq⟩ | ⟨-, -, -, heq⟩ := FixedWindow.check_cases
      maxRateLimitBuckets config.window
      (Mealy.final (check maxRateLimitBuckets config.window) ∅ calls) c
    · exact hkept
    · rw [heq] at hanswer
      cases hanswer
    · rw [heq] at hanswer
      cases hanswer
  obtain ⟨hrejected, hadmitted⟩ := FixedWindow.check_later hroom hcur hanswer
  rw [hkept] at hafter
  rw [Mealy.final_concat]
  constructor
  · intro t hle hlt
    have hnext := (refines_call (c := ⟨c.key, c.limit, t⟩) config.window_pos
      (hlimit c (by simp)) hafter hle).1
    rw [hnext]
    exact hrejected t hle hlt
  · intro limit hpos
    have hnext := (refines_call (c := ⟨c.key, limit, c.time + retryAfter⟩) config.window_pos
      hpos hafter (Nat.le_add_right _ _)).1
    rw [hnext]
    exact hadmitted limit hpos

end Calls

/-- Every answer is the one that never-pruned windows give. A call that is admitted is counted
in a bucket of its key that is open, and of the calls admitted since that bucket's window
started there are at most its limit; the map never holds more than `maxRateLimitBuckets`
buckets; and a call rejected while its key has an unexpired bucket would, if made again next,
be rejected before its own time plus the answer and admitted then. -/
theorem check_key_refines_fixed_window (config : RateLimitConfig)
    (trustedProxyCidrs : List TrustedProxyCidr) (calls : List (FixedWindow.Call String))
    (hlimit : ∀ c ∈ calls, 1 ≤ c.limit) (hclock : Mealy.Clocked FixedWindow.Call.time 0 calls) :
    Mealy.outputs call (new config trustedProxyCidrs) calls =
      Mealy.outputs (check maxRateLimitBuckets config.window) ∅ calls ∧
    (∀ pre c post, calls = (pre ++ [c]) ++ post →
      ((Mealy.final call (new config trustedProxyCidrs) pre).call c).1 = none →
      ∃ bucket, ((Mealy.final call (new config trustedProxyCidrs) (pre ++ [c])).state.buckets.lookup
          c.key = some bucket) ∧
        bucket.windowStartedAt ≤ c.time ∧ c.time < bucket.windowStartedAt + config.window ∧
        bucket.count = FixedWindow.used c.key bucket.windowStartedAt
          (FixedWindow.admissions (pre ++ [c])
            (Mealy.outputs call (new config trustedProxyCidrs) (pre ++ [c]))) ∧
        bucket.count ≤ c.limit) ∧
    (∀ pre post, calls = pre ++ post →
      (Mealy.final call (new config trustedProxyCidrs) pre).state.buckets.entries.length ≤
        maxRateLimitBuckets) ∧
    (∀ pre c post bucket retryAfter, calls = (pre ++ [c]) ++ post →
      (Mealy.final call (new config trustedProxyCidrs) pre).state.buckets.lookup c.key =
        some bucket →
      bucket.Unexpired c.time config.window →
      ((Mealy.final call (new config trustedProxyCidrs) pre).call c).1 = some retryAfter →
      (∀ t, c.time ≤ t → t < c.time + retryAfter →
        ((Mealy.final call (new config trustedProxyCidrs) (pre ++ [c])).call
          ⟨c.key, c.limit, t⟩).1 ≠ none) ∧
      ∀ limit, 1 ≤ limit →
        ((Mealy.final call (new config trustedProxyCidrs) (pre ++ [c])).call
          ⟨c.key, limit, c.time + retryAfter⟩).1 = none) := by
  constructor
  -- the answers are those of the windows that are never pruned
  · exact (refines_calls config trustedProxyCidrs hlimit hclock).1
  constructor
  · intro pre c post hcalls hgranted
    apply admitted_counted _ _ hgranted
    · intro d hd
      exact hlimit d (hcalls ▸ List.mem_append_left post hd)
    · exact (Mealy.clocked_append.mp (hcalls ▸ hclock)).1
  constructor
  -- the capacity needs neither the clock nor the limits
  · intro pre _ _
    apply Mealy.final_invariant (P := fun l : RateLimiter =>
      l.state.buckets.entries.length ≤ maxRateLimitBuckets)
    · intro limiter c _ h
      exact length_call_le c h
    · exact Nat.zero_le _
  · intro pre c post bucket retryAfter hcalls hlookup hopen hanswer
    apply rejected_later _ _ hlookup hopen hanswer
    · intro d hd
      exact hlimit d (hcalls ▸ List.mem_append_left post hd)
    · exact (Mealy.clocked_append.mp (hcalls ▸ hclock)).1

/-- A key at its limit: two calls admitted in a window of two seconds, one rejected, and a
second key in between. -/
theorem check_key_refines_fixed_window_two :
    Mealy.outputs call (new ⟨2, none, none⟩ [])
        [⟨"a", 2, 1⟩, ⟨"b", 1, 1⟩, ⟨"a", 2, 2⟩, ⟨"a", 2, 2⟩, ⟨"a", 2, 3⟩] =
      [none, none, none, some 1, none] := by
  have h := (check_key_refines_fixed_window ⟨2, none, none⟩ []
    [⟨"a", 2, 1⟩, ⟨"b", 1, 1⟩, ⟨"a", 2, 2⟩, ⟨"a", 2, 2⟩, ⟨"a", 2, 3⟩] (by decide) (by decide)).1
  rw [h]
  decide

end GvmGateway.Rest

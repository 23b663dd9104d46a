import GvmGateway.Library.FixedWindowBursts
import GvmGateway.Rest.RateLimitRequests

/-!
# Bursts of requests

What the limiter admits in a stretch of time of one window's length. The two stages of
`check_request` work with one reading of the clock and take the lock one after the other, so
the stages of several requests interleave; what they ask is a sequence of `Inquiry`s.
-/

namespace GvmGateway.Rest

open FixedWindow (Windows Accounts Bursts admissions check during)
open RateLimiter

/-- A stage of `check_request`, and what it works with: the request, and the reading of the clock
that was taken for it. -/
structure Inquiry where
  request : Request
  now : ℕ
  stage : CheckStage
deriving DecidableEq, Repr

/-- The key that the stage asks for. -/
def Inquiry.key (i : Inquiry) (trustedProxyCidrs : List TrustedProxyCidr) : String :=
  match i.stage with
  | .global => "global"
  | .subject => rateLimitSubject i.request trustedProxyCidrs

/-- One stage as an input of the limiter. -/
def RateLimiter.inquire (limiter : RateLimiter) (i : Inquiry) : Option ℕ × RateLimiter :=
  limiter.checkStage i.request i.now i.stage

/-- The stages that call `check_key`: those with a limit. -/
def locked (config : RateLimitConfig) (inquiries : List Inquiry) : List Inquiry :=
  inquiries.filter fun i => (config.limitAt i.stage).isSome

/-! ## Calls -/

/-- The windows that the limiter's buckets stand for admit no more calls of `key` than they may,
of the calls `cs` admitted up to the time `t`. -/
def Bounded (t : ℕ) (limiter : RateLimiter) (key : String) (limit : ℕ)
    (cs : List (FixedWindow.Call String)) : Prop :=
  ∃ m, Refines limiter.config.window t limiter m ∧ Accounts limiter.config.window t cs m ∧
    Bursts limiter.config.window limit key cs m

variable {t now limit : ℕ} {limiter : RateLimiter} {key : String}
variable {cs : List (FixedWindow.Call String)}

theorem bounded_new (config : RateLimitConfig) (trustedProxyCidrs : List TrustedProxyCidr)
    (t limit : ℕ) (key : String) : Bounded t (new config trustedProxyCidrs) key limit [] :=
  ⟨∅, refines_new config trustedProxyCidrs t, FixedWindow.accounts_empty _ t,
    FixedWindow.bursts_empty _ limit key⟩

theorem Bounded.later {u : ℕ} (h : Bounded t limiter key limit cs) (hle : t ≤ u) :
    Bounded u limiter key limit cs := by
  obtain ⟨m, hrefines, hacc, hbursts⟩ := h
  exact ⟨m, hrefines.later hle, hacc.later hle, hbursts⟩

/-- One call, admitted or not. -/
theorem Bounded.checkKey (h : Bounded t limiter key limit cs) (other : String) (l : ℕ)
    (hle : t ≤ now) (hlimit : other = key → l ≤ limit) :
    Bounded now (limiter.checkKey other l now).2 key limit
      (cs ++ admissions [⟨other, l, now⟩] [(limiter.checkKey other l now).1]) := by
  by_cases hzero : l = 0
  · subst hzero
    rw [checkKey_zero, FixedWindow.append_admissions_refused]
    exact h.later hle
  · obtain ⟨m, hrefines, hacc, hbursts⟩ := h
    have hpos : 1 ≤ l := Nat.one_le_iff_ne_zero.mpr hzero
    have hwindow := limiter.config.window_pos
    obtain ⟨hanswer, hnext⟩ := refines_call (c := ⟨other, l, now⟩) hwindow hpos hrefines hle
    unfold Bounded
    rw [checkKey_config]
    refine ⟨_, hnext, ?_, ?_⟩
    · rw [show (limiter.checkKey other l now).1 = _ from hanswer]
      exact FixedWindow.accounts_check (c := ⟨other, l, now⟩) hwindow hacc hle
    · rw [show (limiter.checkKey other l now).1 = _ from hanswer]
      exact FixedWindow.bursts_check (c := ⟨other, l, now⟩) hwindow hbursts hacc hle hlimit

theorem during_append (k : String) (since len : ℕ) (cs ds : List (FixedWindow.Call String)) :
    during k since len (cs ++ ds) = during k since len cs + during k since len ds :=
  List.countP_append

/-! ## Stages of requests -/

variable {i : Inquiry}

theorem inquire_of_limit {l : ℕ} (hl : limiter.config.limitAt i.stage = some l) :
    limiter.inquire i = limiter.checkKey (i.key limiter.trustedProxyCidrs) l i.now := by
  obtain ⟨request, now, stage⟩ := i
  cases stage with
  | global =>
    have hlimit : limiter.config.globalPerWindow = some l := hl
    show limiter.checkGlobal now = limiter.checkKey "global" l now
    unfold checkGlobal
    rw [hlimit]
  | subject =>
    have hlimit : limiter.config.subjectPerWindow = some l := hl
    show limiter.checkSubject request now = limiter.checkKey _ l now
    unfold checkSubject
    rw [hlimit]
    rfl

theorem inquire_of_none (hl : limiter.config.limitAt i.stage = none) :
    limiter.inquire i = (none, limiter) := by
  obtain ⟨request, now, stage⟩ := i
  cases stage with
  | global =>
    have hlimit : limiter.config.globalPerWindow = none := hl
    show limiter.checkGlobal now = (none, limiter)
    unfold checkGlobal
    rw [hlimit]
  | subject =>
    have hlimit : limiter.config.subjectPerWindow = none := hl
    show limiter.checkSubject request now = (none, limiter)
    unfold checkSubject
    rw [hlimit]

/-- A stage leaves the settings of the limiter as they are. -/
theorem inquire_settings (limiter : RateLimiter) (i : Inquiry) :
    (limiter.inquire i).2.config = limiter.config ∧
      (limiter.inquire i).2.trustedProxyCidrs = limiter.trustedProxyCidrs := by
  cases hl : limiter.config.limitAt i.stage with
  | none =>
    rw [inquire_of_none hl]
    exact ⟨rfl, rfl⟩
  | some l =>
    rw [inquire_of_limit hl]
    exact ⟨checkKey_config _ _ _ _, checkKey_trustedProxyCidrs _ _ _ _⟩

variable {config : RateLimitConfig} {trustedProxyCidrs : List TrustedProxyCidr}
variable {inquiries : List Inquiry}

theorem final_settings (config : RateLimitConfig) (trustedProxyCidrs : List TrustedProxyCidr)
    (inquiries : List Inquiry) :
    (Mealy.final inquire (new config trustedProxyCidrs) inquiries).config = config ∧
      (Mealy.final inquire (new config trustedProxyCidrs) inquiries).trustedProxyCidrs =
        trustedProxyCidrs := by
  apply Mealy.final_invariant (P := fun limiter : RateLimiter => limiter.config = config ∧
    limiter.trustedProxyCidrs = trustedProxyCidrs)
  · intro limiter i _ h
    obtain ⟨hconfig, hcidrs⟩ := inquire_settings limiter i
    exact ⟨hconfig.trans h.1, hcidrs.trans h.2⟩
  · exact ⟨rfl, rfl⟩

/-- The inquiries for a key, of those admitted, in a stretch of time of one window's length. -/
def admittedIn (config : RateLimitConfig) (trustedProxyCidrs : List TrustedProxyCidr)
    (key : String) (since : ℕ) (admitted : List Inquiry) : ℕ :=
  (locked config admitted).countP fun i => i.key trustedProxyCidrs = key ∧ since ≤ i.now ∧
    i.now < since + config.window

/-- The limits on the calls of a key. -/
def Limits (config : RateLimitConfig) (trustedProxyCidrs : List TrustedProxyCidr) (key : String)
    (limit : ℕ) : Prop :=
  ∀ (i : Inquiry) l, i.key trustedProxyCidrs = key → config.limitAt i.stage = some l → l ≤ limit

theorem bounded_final (hlimits : Limits config trustedProxyCidrs key limit)
    (hclock : Mealy.Clocked Inquiry.now 0 (locked config inquiries)) :
    ∃ cs, Bounded (Mealy.lastTime Inquiry.now 0 (locked config inquiries))
        (Mealy.final inquire (new config trustedProxyCidrs) inquiries) key limit cs ∧
      ∀ since, admittedIn config trustedProxyCidrs key since (admissions inquiries
        (Mealy.outputs inquire (new config trustedProxyCidrs) inquiries)) ≤
          during key since config.window cs := by
  induction inquiries using List.reverseRecOn with
  | nil => exact ⟨[], bounded_new config trustedProxyCidrs 0 limit key, fun _ => le_refl _⟩
  | append_singleton inquiries i ih =>
    obtain ⟨hconfig, hcidrs⟩ := final_settings config trustedProxyCidrs inquiries
    generalize hlimiter : Mealy.final inquire (new config trustedProxyCidrs) inquiries = limiter
      at ih hconfig hcidrs
    have hcount : ∀ since, admittedIn config trustedProxyCidrs key since (admissions
        (inquiries ++ [i]) (Mealy.outputs inquire (new config trustedProxyCidrs)
          (inquiries ++ [i]))) =
        admittedIn config trustedProxyCidrs key since (admissions inquiries
          (Mealy.outputs inquire (new config trustedProxyCidrs) inquiries)) +
        if (limiter.inquire i).1 = none ∧ (config.limitAt i.stage).isSome = true ∧
          i.key trustedProxyCidrs = key ∧ since ≤ i.now ∧ i.now < since + config.window
        then 1 else 0 := by
      intro since
      unfold admittedIn locked
      rw [List.countP_filter, List.countP_filter, FixedWindow.countP_admissions_concat, hlimiter]
      simp only [Bool.and_eq_true, decide_eq_true_eq]
      congr 1
      split_ifs <;> grind
    unfold locked at hclock ih ⊢
    rw [List.filter_append] at hclock ⊢
    rw [Mealy.final_concat, hlimiter]
    cases hl : config.limitAt i.stage with
    | none =>
      -- a stage without a limit asks nothing
      have hskip : [i].filter (fun i => (config.limitAt i.stage).isSome) = [] := by simp [hl]
      rw [hskip, List.append_nil] at hclock ⊢
      obtain ⟨cs, hbounded, hbefore⟩ := ih hclock
      rw [inquire_of_none (by rw [hconfig]; exact hl)]
      refine ⟨cs, hbounded, fun since => ?_⟩
      rw [hcount, hl, if_neg (by simp), Nat.add_zero]
      exact hbefore since
    | some l =>
      have htakes : [i].filter (fun i => (config.limitAt i.stage).isSome) = [i] := by simp [hl]
      rw [htakes] at hclock ⊢
      obtain ⟨hclock, hlast⟩ := Mealy.clocked_concat.mp hclock
      obtain ⟨cs, hbounded, hbefore⟩ := ih hclock
      have hlimit : limiter.config.limitAt i.stage = some l := by
        rw [hconfig]
        exact hl
      have hcall := inquire_of_limit hlimit
      rw [hcidrs] at hcall
      have hnext := hbounded.checkKey (i.key trustedProxyCidrs) l hlast
        fun heq => hlimits i l heq hl
      rw [← hcall] at hnext
      refine ⟨_, by rw [Mealy.lastTime_concat]; exact hnext, fun since => ?_⟩
      have hle := hbefore since
      rw [hcount, during_append]
      split
      · next hone =>
        obtain ⟨hadmitted, -, hkey, hin⟩ := hone
        have hone : during key since config.window (admissions
            [⟨i.key trustedProxyCidrs, l, i.now⟩] [(limiter.inquire i).1]) = 1 := by
          rw [hadmitted, hkey]
          show during key since config.window [⟨key, l, i.now⟩] = 1
          simp [during, hin]
        omega
      · omega

/-- While the limiter is asked in the order of the readings: in any stretch of time of one
window's length at most twice the limit of a key, less one, of its inquiries are admitted. -/
theorem admittedIn_le (hlimits : Limits config trustedProxyCidrs key limit)
    (hclock : Mealy.Clocked Inquiry.now 0 (locked config inquiries)) (since : ℕ) :
    admittedIn config trustedProxyCidrs key since (admissions inquiries
      (Mealy.outputs inquire (new config trustedProxyCidrs) inquiries)) ≤ 2 * limit - 1 := by
  have hfinal : ∃ cs, Bounded (Mealy.lastTime Inquiry.now 0 (locked config inquiries))
        (Mealy.final inquire (new config trustedProxyCidrs) inquiries) key limit cs ∧ _ :=
    bounded_final hlimits hclock
  obtain ⟨cs, ⟨m, -, -, hbursts⟩, hcount⟩ := hfinal
  have hle := hbursts.during_le since
  rw [(final_settings config trustedProxyCidrs inquiries).1] at hle
  exact (hcount since).trans hle

/-- Out of order, one second may see more than three of a subject's requests admitted, although
its limit is two. -/
example :
    let config : RateLimitConfig := ⟨1, none, some 2⟩
    let request : Request := ⟨.get, "/api/v1/tasks", none, none, none⟩
    let inquiries := [5, 5, 6, 5, 7, 5].map fun now => (⟨request, now, .subject⟩ : Inquiry)
    admittedIn config [] (rateLimitSubject request []) 5 (admissions inquiries
      (Mealy.outputs inquire (new config []) inquiries)) = 4 := by decide

end GvmGateway.Rest

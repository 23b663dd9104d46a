import GvmGateway.Library.FiniteMap
import GvmGateway.Library.Mealy

/-!
# Fixed-window counters

The limiter that a rate limiter is compared with: one window for each key, never forgotten,
counted up by every call that is admitted and opened afresh by the first call after it has
run out. A call whose key has no open window is turned away while `cap` windows are open.

* `check`, one call;
* `Accounts`, what the windows say about the calls admitted so far, and `accounts_final`,
  that they do after every list of calls whose times never go back;
* `admitted_le_limit`, the quota of a window, and `check_later`, what a call turned away for
  its count can rely on.
-/

namespace FixedWindow

variable {K : Type*} [DecidableEq K]

/-- The time at which a window was opened and the calls admitted in it. -/
structure Window where
  start : ℕ
  count : ℕ
deriving DecidableEq, Repr

/-- `w` has not run out at the time `now`. -/
def Window.Open (len now : ℕ) (w : Window) : Prop := now - w.start < len

instance (len now : ℕ) (w : Window) : Decidable (w.Open len now) :=
  inferInstanceAs (Decidable (now - w.start < len))

/-- The last window of every key. -/
abbrev Windows (K : Type*) := AList fun _ : K => Window

/-- A request for one unit of a key's budget. -/
structure Call (K : Type*) where
  key : K
  limit : ℕ
  time : ℕ
deriving DecidableEq, Repr

/-- The window of `k` that is open at `now`. -/
def current (len now : ℕ) (m : Windows K) (k : K) : Option Window :=
  (m.lookup k).filter fun w => decide (w.Open len now)

/-- The number of keys with an open window. -/
def openCount (len now : ℕ) (m : Windows K) : ℕ :=
  m.total fun _ w => if w.Open len now then 1 else 0

/-- Counts the call in the window `w`, or tells it when that window runs out. -/
def charge (len : ℕ) (m : Windows K) (c : Call K) (w : Window) : Option ℕ × Windows K :=
  if c.limit ≤ w.count then (some (w.start + len - c.time), m)
  else (none, m.insert c.key ⟨w.start, w.count + 1⟩)

/-- One call: `none` if it is admitted, otherwise the time after which to come back. -/
def check (cap len : ℕ) (m : Windows K) (c : Call K) : Option ℕ × Windows K :=
  match current len c.time m c.key with
  | some w => charge len m c w
  | none =>
    if cap ≤ openCount len c.time m then (some len, m) else charge len m c ⟨c.time, 0⟩

/-! ## Windows in the course of time -/

/-- An open window has an end ahead. -/
theorem Window.Open.lt {len now : ℕ} {w : Window} (h : w.Open len now) :
    now < w.start + len := by
  unfold Window.Open at h
  omega

/-- A window that is still open later is open now. -/
theorem Window.Open.anti {len now later : ℕ} {w : Window} (h : w.Open len later)
    (hle : now ≤ later) : w.Open len now := by
  unfold Window.Open at h ⊢
  omega

/-- The current window of a key is the stored one, if open. -/
theorem current_eq_some {len now : ℕ} {m : Windows K} {k : K} {w : Window} :
    current len now m k = some w ↔ m.lookup k = some w ∧ w.Open len now := by
  rw [current, Option.filter_eq_some_iff, decide_eq_true_eq]

/-- A key has none when it has no open window. -/
theorem current_eq_none {len now : ℕ} {m : Windows K} {k : K} :
    current len now m k = none ↔ ∀ w, m.lookup k = some w → ¬ w.Open len now := by
  rw [current, Option.filter_eq_none_iff]
  simp only [decide_eq_true_eq]

/-- A window that is stored is current while it is open. -/
theorem current_insert (len now : ℕ) (m : Windows K) (k j : K) (w : Window) :
    current len now (m.insert k w) j =
      if j = k then (some w).filter fun w => decide (w.Open len now) else current len now m j := by
  rw [current, AList.lookup_insert_eq_ite]
  split
  · rfl
  · rfl

/-- The number of open windows depends on what is open only. -/
theorem openCount_congr {len now : ℕ} {m n : Windows K}
    (h : ∀ k, current len now m k = current len now n k) :
    openCount len now m = openCount len now n := by
  have hite : ∀ m : Windows K, openCount len now m =
      (m.filter fun _ w => decide (w.Open len now)).total fun _ _ => 1 := by
    intro m
    rw [← AList.total_ite]
    simp only [openCount, decide_eq_true_eq]
  rw [hite, hite]
  apply AList.total_eq_of_lookup_eq
  intro k
  rw [AList.lookup_filter, AList.lookup_filter]
  exact h k

omit [DecidableEq K] in
/-- Windows close as time goes on. -/
theorem openCount_anti {len now later : ℕ} (m : Windows K) (hle : now ≤ later) :
    openCount len later m ≤ openCount len now m := by
  apply AList.total_mono
  intro k w
  by_cases h : w.Open len later
  · rw [if_pos h, if_pos (h.anti hle)]
  · rw [if_neg h]
    exact Nat.zero_le _

/-- A window that runs out leaves room for another. -/
theorem openCount_lt {len now later : ℕ} {m : Windows K} {k : K} {w : Window}
    (hk : current len now m k = some w) (hle : now ≤ later) (hout : ¬ w.Open len later) :
    openCount len later m < openCount len now m := by
  obtain ⟨hlookup, hopen⟩ := current_eq_some.mp hk
  have hrest : openCount len later (m.erase k) ≤ openCount len now (m.erase k) :=
    openCount_anti _ hle
  have hnow := AList.total_of_lookup (fun (_ : K) w => if w.Open len now then 1 else 0) hlookup
  have hlater :=
    AList.total_of_lookup (fun (_ : K) w => if w.Open len later then 1 else 0) hlookup
  rw [if_pos hopen] at hnow
  rw [if_neg hout] at hlater
  unfold openCount at *
  omega

/-- If everything in the map is open, all of it counts. -/
theorem openCount_eq_length {len now : ℕ} {m : Windows K}
    (h : ∀ k w, m.lookup k = some w → w.Open len now) :
    openCount len now m = m.entries.length := by
  rw [← AList.total_one]
  apply AList.total_congr
  intro k w hk
  rw [if_pos (h k w hk)]

/-! ## One call -/

/-- A full window refuses until its end. -/
theorem charge_full {len : ℕ} {m : Windows K} {c : Call K} {w : Window}
    (h : c.limit ≤ w.count) : charge len m c w = (some (w.start + len - c.time), m) :=
  if_pos h

theorem charge_room {len : ℕ} {m : Windows K} {c : Call K} {w : Window}
    (h : w.count < c.limit) :
    charge len m c w = (none, m.insert c.key ⟨w.start, w.count + 1⟩) :=
  if_neg (Nat.not_le.mpr h)

/-- A key with a window is charged to it. -/
theorem check_current {cap len : ℕ} {m : Windows K} {c : Call K} {w : Window}
    (h : current len c.time m c.key = some w) : check cap len m c = charge len m c w := by
  rw [check, h]

theorem check_fresh {cap len : ℕ} {m : Windows K} {c : Call K}
    (h : current len c.time m c.key = none) (hroom : openCount len c.time m < cap) :
    check cap len m c = charge len m c ⟨c.time, 0⟩ := by
  rw [check, h]
  exact if_neg (Nat.not_le.mpr hroom)

theorem check_crowded {cap len : ℕ} {m : Windows K} {c : Call K}
    (h : current len c.time m c.key = none) (hcap : cap ≤ openCount len c.time m) :
    check cap len m c = (some len, m) := by
  rw [check, h]
  exact if_pos hcap

/-- What a call can do: nothing to the windows if it is turned away, otherwise count itself
in its open window, or in a window that it opens. -/
theorem check_cases (cap len : ℕ) (m : Windows K) (c : Call K) :
    ((check cap len m c).1 ≠ none ∧ (check cap len m c).2 = m) ∨
    (∃ w, current len c.time m c.key = some w ∧ w.count < c.limit ∧
      check cap len m c = (none, m.insert c.key ⟨w.start, w.count + 1⟩)) ∨
    (current len c.time m c.key = none ∧ openCount len c.time m < cap ∧ 0 < c.limit ∧
      check cap len m c = (none, m.insert c.key ⟨c.time, 1⟩)) := by
  rcases hcur : current len c.time m c.key with _ | w
  · by_cases hcap : cap ≤ openCount len c.time m
    · left
      rw [check_crowded hcur hcap]
      exact ⟨nofun, rfl⟩
    · rw [check_fresh hcur (Nat.not_le.mp hcap)]
      by_cases hfull : c.limit ≤ 0
      · left
        rw [charge_full hfull]
        exact ⟨nofun, rfl⟩
      · right; right
        exact ⟨rfl, Nat.not_le.mp hcap, Nat.not_le.mp hfull, charge_room (Nat.not_le.mp hfull)⟩
  · rw [check_current hcur]
    by_cases hfull : c.limit ≤ w.count
    · left
      rw [charge_full hfull]
      exact ⟨nofun, rfl⟩
    · right; left
      exact ⟨w, rfl, Nat.not_le.mp hfull, charge_room (Nat.not_le.mp hfull)⟩

/-- Opening a window in place of one that has run out adds at most one open window. -/
theorem openCount_insert_le {len now : ℕ} {m : Windows K} (k : K) (w : Window) :
    openCount len now (m.insert k w) ≤ openCount len now m + 1 := by
  have hle := AList.total_erase_le (fun (_ : K) w => if w.Open len now then 1 else 0) m k
  unfold openCount at *
  rw [AList.total_insert]
  split <;> omega

/-- A key with a window takes no further place. -/
theorem openCount_insert_of_open {len now : ℕ} {m : Windows K} {k : K} {w : Window} (v : Window)
    (h : current len now m k = some w) : openCount len now (m.insert k v) ≤ openCount len now m := by
  obtain ⟨hlookup, hopen⟩ := current_eq_some.mp h
  have hsum := AList.total_of_lookup (fun (_ : K) w => if w.Open len now then 1 else 0) hlookup
  rw [if_pos hopen] at hsum
  unfold openCount at *
  rw [AList.total_insert]
  split <;> omega

/-- No call opens a window beyond the cap. -/
theorem openCount_check_le {cap len : ℕ} {m : Windows K} {c : Call K}
    (h : openCount len c.time m ≤ cap) :
    openCount len c.time (check cap len m c).2 ≤ cap := by
  obtain ⟨-, hsame⟩ | ⟨w, hcur, -, heq⟩ | ⟨-, hroom, -, heq⟩ := check_cases cap len m c
  · rw [hsame]
    exact h
  · rw [heq]
    exact (openCount_insert_of_open _ hcur).trans h
  · rw [heq]
    exact (openCount_insert_le _ _).trans hroom

/-! ## The calls admitted -/

/-- The inputs of a list that were admitted, by the answers to them. -/
def admissions {I : Type*} : List I → List (Option ℕ) → List I
  | c :: cs, none :: os => c :: admissions cs os
  | _ :: cs, some _ :: os => admissions cs os
  | _, _ => []

/-- The calls of `k` among `cs` that came at `since` or later. -/
def used (k : K) (since : ℕ) (cs : List (Call K)) : ℕ :=
  cs.countP fun c => c.key = k ∧ since ≤ c.time

/-- A refused call adds nothing to what is admitted. -/
theorem append_admissions_refused {I : Type*} (cs : List I) (c : I) (r : ℕ) :
    cs ++ admissions [c] [some r] = cs :=
  List.append_nil cs

/-- What a machine admits of two lists, one after the other. -/
theorem admissions_append {I : Type*} {cs ds : List I} {os ps : List (Option ℕ)}
    (h : os.length = cs.length) :
    admissions (cs ++ ds) (os ++ ps) = admissions cs os ++ admissions ds ps := by
  induction cs generalizing os with
  | nil =>
    obtain rfl := List.length_eq_zero_iff.mp h
    rfl
  | cons c cs ih =>
    rcases os with _ | ⟨o, os⟩
    · cases h
    · have hrest := @ih os (Nat.succ.inj h)
      cases o with
      | none => exact congrArg (c :: ·) hrest
      | some r => exact hrest

/-- One input more counts if it is admitted. -/
theorem countP_admissions_concat {S I : Type*} (f : S → I → Option ℕ × S) (s : S) (cs : List I)
    (c : I) (p : I → Bool) :
    (admissions (cs ++ [c]) (Mealy.outputs f s (cs ++ [c]))).countP p =
      (admissions cs (Mealy.outputs f s cs)).countP p +
        if (f (Mealy.final f s cs) c).1 = none ∧ p c = true then 1 else 0 := by
  rw [Mealy.outputs_concat, admissions_append (Mealy.length_outputs _ _ _), List.countP_append]
  congr 1
  rcases (f (Mealy.final f s cs) c).1 with _ | r
  · by_cases hp : p c = true
    · simp [admissions, hp]
    · simp [admissions, hp]
  · rfl

/-- What is admitted was asked for. -/
theorem mem_of_mem_admissions {I : Type*} {c : I} {cs : List I} {os : List (Option ℕ)}
    (h : c ∈ admissions cs os) : c ∈ cs := by
  induction cs generalizing os with
  | nil => simp [admissions] at h
  | cons d cs ih =>
    rcases os with _ | ⟨_ | r, os⟩
    · simp [admissions] at h
    · obtain rfl | h := List.mem_cons.mp h
      · exact List.mem_cons_self
      · exact List.mem_cons_of_mem d (ih h)
    · exact List.mem_cons_of_mem d (ih h)

/-- The calls that the limiter has admitted, of those made so far. -/
def admittedCalls (cap len : ℕ) (calls : List (Call K)) : List (Call K) :=
  admissions calls (Mealy.outputs (check cap len) ∅ calls)

/-- One more call adds itself if it is admitted. -/
theorem admittedCalls_concat (cap len : ℕ) (calls : List (Call K)) (c : Call K) :
    admittedCalls cap len (calls ++ [c]) = admittedCalls cap len calls ++
      admissions [c] [(check cap len (Mealy.final (check cap len) ∅ calls) c).1] := by
  rw [admittedCalls, Mealy.outputs_concat, admissions_append (Mealy.length_outputs _ _ _)]
  rfl

/-- One more admission is counted if it is of the key and not too early. -/
theorem used_concat (k : K) (since : ℕ) (cs : List (Call K)) (c : Call K) :
    used k since (cs ++ [c]) = used k since cs + if c.key = k ∧ since ≤ c.time then 1 else 0 := by
  rw [used, List.countP_append, used]
  by_cases h : c.key = k ∧ since ≤ c.time
  · rw [if_pos h, List.countP_cons_of_pos (by simpa using h), List.countP_nil]
  · rw [if_neg h, List.countP_cons_of_neg (by simpa using h), List.countP_nil]

/-- Without admissions of the key since then, nothing is used. -/
theorem used_eq_zero {k : K} {since : ℕ} {cs : List (Call K)}
    (h : ∀ c ∈ cs, c.key = k → c.time < since) : used k since cs = 0 := by
  apply List.countP_eq_zero.mpr
  intro c hc
  simp only [decide_eq_true_eq]
  rintro ⟨hk, hle⟩
  exact absurd (h c hc hk) (Nat.not_lt.mpr hle)

/-- What the windows say at the time `t` about the calls `cs` admitted up to then: a key
without a window was never admitted; a window has started, all that was admitted of its key
came before it runs out, and it has counted exactly what came since it started. -/
structure Accounts (len t : ℕ) (cs : List (Call K)) (m : Windows K) : Prop where
  fresh : ∀ k, m.lookup k = none → ∀ c ∈ cs, c.key ≠ k
  started : ∀ k w, m.lookup k = some w → w.start ≤ t
  past : ∀ k w, m.lookup k = some w → ∀ c ∈ cs, c.key = k → c.time < w.start + len
  counts : ∀ k w, m.lookup k = some w → w.count = used k w.start cs

omit [DecidableEq K] in
/-- At the start there is nothing to account for. -/
theorem accounts_empty (len t : ℕ) [DecidableEq K] : Accounts len t [] (∅ : Windows K) where
  fresh _ _ _ hc := absurd hc List.not_mem_nil
  started _ _ h := nomatch h
  past _ _ h := nomatch h
  counts _ _ h := nomatch h

/-- Accounts stay right as time goes on. -/
theorem Accounts.later {len t u : ℕ} {cs : List (Call K)} {m : Windows K}
    (h : Accounts len t cs m) (hle : t ≤ u) : Accounts len u cs m :=
  { h with started := fun k w hk => (h.started k w hk).trans hle }

/-- One more admitted call, counted in a window that holds it. -/
theorem Accounts.insert {len t : ℕ} {cs : List (Call K)} {m : Windows K} {c : Call K}
    {start count : ℕ} (h : Accounts len t cs m) (hstart : start ≤ c.time)
    (hopen : c.time < start + len) (htime : t ≤ c.time)
    (hpast : ∀ d ∈ cs, d.key = c.key → d.time < start + len)
    (hcount : count = used c.key start cs) :
    Accounts len c.time (cs ++ [c]) (m.insert c.key ⟨start, count + 1⟩) := by
  constructor
  -- a key without a window has no calls
  · intro k hk d hd
    rw [AList.lookup_insert_eq_ite] at hk
    split at hk
    · cases hk
    · next hne =>
      obtain hd | hd := List.mem_append.mp hd
      · exact h.fresh k hk d hd
      · obtain rfl := List.mem_singleton.mp hd
        exact fun heq => hne heq.symm
  · apply AList.forall_lookup_insert
    · exact hstart
    · intro k w _ hk
      exact (h.started k w hk).trans htime
  -- no call of the key came after the end of its window
  · apply AList.forall_lookup_insert
    · intro d hd hdk
      obtain hd | hd := List.mem_append.mp hd
      · exact hpast d hd hdk
      · obtain rfl := List.mem_singleton.mp hd
        exact hopen
    · intro k w hne hk d hd hdk
      obtain hd | hd := List.mem_append.mp hd
      · exact h.past k w hk d hd hdk
      · obtain rfl := List.mem_singleton.mp hd
        exact absurd hdk.symm hne
  · apply AList.forall_lookup_insert
    -- one call more in this window, and in no other
    · rw [used_concat, if_pos ⟨rfl, hstart⟩, hcount]
    · intro k w hne hk
      rw [used_concat, if_neg fun hc => hne hc.1.symm]
      exact h.counts k w hk

/-- The accounts after one more call. -/
theorem accounts_check {cap len t : ℕ} (hlen : 0 < len) {cs : List (Call K)} {m : Windows K}
    {c : Call K} (h : Accounts len t cs m) (htime : t ≤ c.time) :
    Accounts len c.time (cs ++ admissions [c] [(check cap len m c).1]) (check cap len m c).2 := by
  obtain ⟨hout, hsame⟩ | ⟨w, hcur, -, heq⟩ | ⟨hcur, -, -, heq⟩ := check_cases cap len m c
  · obtain ⟨r, hr⟩ := Option.ne_none_iff_exists'.mp hout
    rw [hr, hsame, append_admissions_refused]
    exact h.later htime
  · obtain ⟨hlookup, hopen⟩ := current_eq_some.mp hcur
    rw [heq]
    exact h.insert ((h.started _ _ hlookup).trans htime) hopen.lt htime (h.past _ _ hlookup)
      (h.counts _ _ hlookup)
  · -- the key's last window has run out, so nothing admitted of it came at `c.time` or later
    have hbefore : ∀ d ∈ cs, d.key = c.key → d.time < c.time := by
      intro d hd hdk
      rcases hlookup : m.lookup c.key with _ | w
      · exact absurd hdk (h.fresh _ hlookup d hd)
      · have hclosed := current_eq_none.mp hcur w hlookup
        have hlast := h.past _ w hlookup d hd hdk
        unfold Window.Open at hclosed
        omega
    rw [heq]
    apply h.insert (le_refl _) (by omega) htime
    · intro d hd hdk
      have := hbefore d hd hdk
      omega
    · exact (used_eq_zero hbefore).symm

/-- After any calls the windows account for what was admitted. -/
theorem accounts_final (cap : ℕ) {len t : ℕ} (hlen : 0 < len) {calls : List (Call K)}
    (hclock : Mealy.Clocked Call.time t calls) :
    Accounts len (Mealy.lastTime Call.time t calls) (admittedCalls cap len calls)
      (Mealy.final (check cap len) ∅ calls) := by
  induction calls using List.reverseRecOn with
  | nil => exact accounts_empty len t
  | append_singleton calls c ih =>
    obtain ⟨hclock, hlast⟩ := Mealy.clocked_concat.mp hclock
    rw [Mealy.lastTime_concat, Mealy.final_concat, admittedCalls_concat]
    exact accounts_check hlen (ih hclock) hlast

/-- A call that is admitted is counted in a window of its key that is open, and of the calls
admitted since that window started there are, this one included, at most its limit. -/
theorem admitted_le_limit {cap len t : ℕ} (hlen : 0 < len) {calls : List (Call K)} {c : Call K}
    (hclock : Mealy.Clocked Call.time t (calls ++ [c]))
    (hgranted : (check cap len (Mealy.final (check cap len) ∅ calls) c).1 = none) :
    ∃ w, current len c.time (Mealy.final (check cap len) ∅ (calls ++ [c])) c.key = some w ∧
      w.start ≤ c.time ∧ w.count = used c.key w.start (admittedCalls cap len (calls ++ [c])) ∧
      w.count ≤ c.limit := by
  have hacc := accounts_final cap hlen hclock
  obtain ⟨hclock, hlast⟩ := Mealy.clocked_concat.mp hclock
  have hbefore := accounts_final cap hlen hclock
  rw [Mealy.final_concat] at hacc ⊢
  -- refused, counted in the open window, or the first call of a new one
  obtain ⟨hout, -⟩ | ⟨w, hcur, hroom, heq⟩ | ⟨-, -, hroom, heq⟩ :=
    check_cases cap len (Mealy.final (check cap len) ∅ calls) c
  · exact absurd hgranted hout
  · obtain ⟨hlookup, hopen⟩ := current_eq_some.mp hcur
    have hkey := AList.lookup_insert (s := Mealy.final (check cap len) ∅ calls) (a := c.key)
      (b := (⟨w.start, w.count + 1⟩ : Window))
    rw [heq] at hacc ⊢
    refine ⟨_, current_eq_some.mpr ⟨hkey, hopen⟩, ?_, hacc.counts _ _ hkey, hroom⟩
    exact (hbefore.started _ _ hlookup).trans hlast
  · have hkey := AList.lookup_insert (s := Mealy.final (check cap len) ∅ calls) (a := c.key)
      (b := (⟨c.time, 1⟩ : Window))
    have hopen : (⟨c.time, 1⟩ : Window).Open len c.time := by
      show c.time - c.time < len
      omega
    rw [heq] at hacc ⊢
    exact ⟨_, current_eq_some.mpr ⟨hkey, hopen⟩, le_refl _, hacc.counts _ _ hkey, hroom⟩

/-- There are never more open windows than places. -/
theorem openCount_final_le {cap len t : ℕ} {calls : List (Call K)}
    (hclock : Mealy.Clocked Call.time t calls) :
    openCount len (Mealy.lastTime Call.time t calls) (Mealy.final (check cap len) ∅ calls)
      ≤ cap := by
  apply Mealy.clocked_invariant (P := fun t m => openCount len t m ≤ cap)
  · intro t m c _ hle htime
    exact openCount_check_le ((openCount_anti m htime).trans hle)
  · exact hclock
  · exact Nat.zero_le _

/-- A call turned away for its count with the answer `r` would be turned away again at every
time before its own time plus `r`, and admitted then. -/
theorem check_later {cap len : ℕ} {m : Windows K} {c : Call K} {w : Window} {r : ℕ}
    (hcap : openCount len c.time m ≤ cap) (hcur : current len c.time m c.key = some w)
    (hr : (check cap len m c).1 = some r) :
    (∀ t, c.time ≤ t → t < c.time + r → (check cap len m ⟨c.key, c.limit, t⟩).1 ≠ none) ∧
    ∀ limit, 0 < limit → (check cap len m ⟨c.key, limit, c.time + r⟩).1 = none := by
  obtain ⟨hlookup, hopen⟩ := current_eq_some.mp hcur
  have hlt := hopen.lt
  -- the answer is the time left in the window
  have hfull : c.limit ≤ w.count ∧ r = w.start + len - c.time := by
    rw [check_current hcur] at hr
    by_cases h : c.limit ≤ w.count
    · rw [charge_full h] at hr
      exact ⟨h, (Option.some.inj hr).symm⟩
    · rw [charge_room (Nat.not_le.mp h)] at hr
      cases hr
  obtain ⟨hfull, rfl⟩ := hfull
  constructor
  · intro t htime ht
    have hstill : w.Open len t := by
      unfold Window.Open at hopen ⊢
      omega
    have hcurrent : current len t m c.key = some w := current_eq_some.mpr ⟨hlookup, hstill⟩
    have hagain : (⟨c.key, c.limit, t⟩ : Call K).limit ≤ w.count := hfull
    rw [check_current hcurrent, charge_full hagain]
    exact nofun
  · intro limit hlimit
    have hout : ¬ w.Open len (c.time + (w.start + len - c.time)) := by
      unfold Window.Open
      omega
    have hnone : current len (c.time + (w.start + len - c.time)) m c.key = none := by
      apply current_eq_none.mpr
      intro v hv
      obtain rfl := Option.some.inj (hlookup.symm.trans hv)
      exact hout
    have hroom := openCount_lt hcur (Nat.le_add_right _ (w.start + len - c.time)) hout
    rw [check_fresh hnone (hroom.trans_le hcap), charge_room hlimit]

end FixedWindow

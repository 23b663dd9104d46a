import GvmGateway.Library.FixedWindow

/-!
# Bursts at the edge of two windows

A fixed-window counter admits its limit in every window, but a stretch of time may lie over
two windows. `Bursts.during_le` says what it then admits: at most twice the limit less one, for
the call that opened the first of the two windows lies before the stretch.
-/

namespace FixedWindow

variable {K : Type*} [DecidableEq K]

/-- The calls of `k` among `cs` in the `len` seconds from `since` on. -/
def during (k : K) (since len : ℕ) (cs : List (Call K)) : ℕ :=
  cs.countP fun c => c.key = k ∧ since ≤ c.time ∧ c.time < since + len

/-- The calls of `k` among `cs` before `start` and less than `len` seconds from it. -/
def shortlyBefore (k : K) (start len : ℕ) (cs : List (Call K)) : ℕ :=
  cs.countP fun c => c.key = k ∧ c.time < start ∧ start < c.time + len

theorem countP_concat {A : Type*} (p : A → Bool) (cs : List A) (c : A) :
    (cs ++ [c]).countP p = cs.countP p + if p c = true then 1 else 0 := by
  rw [List.countP_append, List.countP_singleton]

theorem countP_le_add {A : Type*} {p q r : A → Bool} {cs : List A}
    (h : ∀ c ∈ cs, p c = true → q c = true ∨ r c = true) :
    cs.countP p ≤ cs.countP q + cs.countP r := by
  induction cs with
  | nil => exact Nat.zero_le _
  | cons c cs ih =>
    have hrest := ih fun d hd => h d (List.mem_cons_of_mem c hd)
    have hhead := h c List.mem_cons_self
    rw [List.countP_cons, List.countP_cons, List.countP_cons]
    by_cases hp : p c = true
    · rcases hhead hp with hq | hr
      · rw [if_pos hp, if_pos hq]
        omega
      · rw [if_pos hp, if_pos hr]
        omega
    · rw [if_neg hp]
      omega

/-- A stretch that reaches beyond `start` has calls from then on, and from shortly before. -/
theorem during_le_add (k : K) {start since len : ℕ} (cs : List (Call K))
    (h : start < since + len) :
    during k since len cs ≤ used k start cs + shortlyBefore k start len cs := by
  apply countP_le_add
  intro c _ hc
  obtain ⟨hkey, hfrom, hto⟩ := of_decide_eq_true hc
  by_cases hstart : start ≤ c.time
  · exact .inl (decide_eq_true ⟨hkey, hstart⟩)
  · right
    apply decide_eq_true
    refine ⟨hkey, ?_, ?_⟩ <;> omega

/-- The windows of a key whose calls have one limit: the last one has counted no more than
that, and shortly before it less than that was admitted. -/
structure Bursts (len limit : ℕ) (k : K) (cs : List (Call K)) (m : Windows K) : Prop where
  opened : ∀ w, m.lookup k = some w → ∃ c ∈ cs, c.key = k ∧ c.time = w.start
  full : ∀ w, m.lookup k = some w → w.count ≤ limit
  earlier : ∀ w, m.lookup k = some w → shortlyBefore k w.start len cs ≤ limit - 1
  during_le : ∀ since, during k since len cs ≤ 2 * limit - 1

variable {len limit t : ℕ} {k : K} {cs : List (Call K)} {m : Windows K}

omit [DecidableEq K] in
theorem bursts_empty (len limit : ℕ) (k : K) [DecidableEq K] :
    Bursts len limit k [] (∅ : Windows K) where
  opened _ h := nomatch h
  full _ h := nomatch h
  earlier _ h := nomatch h
  during_le _ := Nat.zero_le _

/-- Calls of other keys change nothing. -/
theorem Bursts.other {c : Call K} {w : Window} (h : Bursts len limit k cs m) (hne : c.key ≠ k) :
    Bursts len limit k (cs ++ [c]) (m.insert c.key w) := by
  have hlookup : (m.insert c.key w).lookup k = m.lookup k := by
    rw [AList.lookup_insert_eq_ite, if_neg (Ne.symm hne)]
  constructor
  · intro v hv
    obtain ⟨d, hd, hopened⟩ := h.opened v (hlookup ▸ hv)
    exact ⟨d, List.mem_append_left _ hd, hopened⟩
  · intro v hv
    exact h.full v (hlookup ▸ hv)
  · intro v hv
    rw [shortlyBefore, countP_concat, if_neg (by simp [hne]), Nat.add_zero]
    exact h.earlier v (hlookup ▸ hv)
  · intro since
    rw [during, countP_concat, if_neg (by simp [hne]), Nat.add_zero]
    exact h.during_le since

/-- One more call of the key, in a window that meets the bounds. -/
theorem Bursts.insert {c : Call K} {start count : ℕ} (h : Bursts len limit k cs m)
    (hkey : c.key = k) (hlimit : 0 < limit) (hstart : start ≤ c.time)
    (hopened : ∃ d ∈ cs ++ [c], d.key = k ∧ d.time = start) (hcount : count ≤ limit)
    (hused : used k start (cs ++ [c]) = count)
    (hearlier : shortlyBefore k start len cs ≤ limit - 1) :
    Bursts len limit k (cs ++ [c]) (m.insert c.key ⟨start, count⟩) := by
  have hwindow : ∀ w, (m.insert c.key ⟨start, count⟩).lookup k = some w → w = ⟨start, count⟩ := by
    intro w hw
    rw [hkey, AList.lookup_insert] at hw
    exact (Option.some.inj hw).symm
  have hbefore : shortlyBefore k start len (cs ++ [c]) ≤ limit - 1 := by
    rw [shortlyBefore, countP_concat, if_neg, Nat.add_zero]
    · exact hearlier
    · intro hc
      have hlt := (of_decide_eq_true hc).2.1
      omega
  constructor
  · intro w hw
    rw [hwindow w hw]
    exact hopened
  · intro w hw
    rw [hwindow w hw]
    exact hcount
  · intro w hw
    rw [hwindow w hw]
    exact hbefore
  · intro since
    -- a stretch with the new call holds calls of the window and calls shortly before it
    by_cases hin : since ≤ c.time ∧ c.time < since + len
    · have hle := during_le_add k (cs ++ [c]) (Nat.lt_of_le_of_lt hstart hin.2)
      omega
    · rw [during, countP_concat, if_neg, Nat.add_zero]
      · exact h.during_le since
      · intro hc
        exact hin (of_decide_eq_true hc).2

/-- What was admitted shortly before a window that takes the place of another came after the
call that opened the other one. -/
theorem Bursts.shortlyBefore_le {now : ℕ} (h : Bursts len limit k cs m)
    (hacc : Accounts len t cs m) (hlimit : 0 < limit) (hlast : t ≤ now)
    (hcur : current len now m k = none) : shortlyBefore k now len cs ≤ limit - 1 := by
  rcases hlookup : m.lookup k with _ | w
  · have hnone : shortlyBefore k now len cs = 0 := by
      apply List.countP_eq_zero.mpr
      intro c hc hcount
      exact hacc.fresh k hlookup c hc (of_decide_eq_true hcount).1
    omega
  · have hclosed := current_eq_none.mp hcur w hlookup
    have hstarted := hacc.started k w hlookup
    have hcounts := hacc.counts k w hlookup
    have hfull := h.full w hlookup
    obtain ⟨d, hd, hdkey, hdtime⟩ := h.opened w hlookup
    -- the opening call is used, and not shortly before
    have hlt : shortlyBefore k now len cs + 1 ≤ used k w.start cs := by
      obtain ⟨l₁, l₂, rfl⟩ := List.append_of_mem hd
      have hrest : ∀ l : List (Call K), shortlyBefore k now len l ≤ used k w.start l := by
        intro l
        apply List.countP_mono_left
        intro c _ hc
        obtain ⟨hkey, -, hto⟩ := of_decide_eq_true hc
        apply decide_eq_true
        unfold Window.Open at hclosed
        refine ⟨hkey, ?_⟩
        omega
      have hleft := hrest l₁
      have hright := hrest l₂
      have hnot : ¬ (d.key = k ∧ d.time < now ∧ now < d.time + len) := by
        rintro ⟨-, -, hto⟩
        unfold Window.Open at hclosed
        omega
      have hyes : d.key = k ∧ w.start ≤ d.time := ⟨hdkey, le_of_eq hdtime.symm⟩
      unfold shortlyBefore used at *
      rw [List.countP_append, List.countP_append, List.countP_cons_of_neg (by simpa using hnot),
        List.countP_cons_of_pos (by simpa using hyes)]
      omega
    omega

/-- The bounds after one more call. -/
theorem bursts_check {cap : ℕ} {c : Call K} (hlen : 0 < len) (h : Bursts len limit k cs m)
    (hacc : Accounts len t cs m) (htime : t ≤ c.time) (hlimit : c.key = k → c.limit ≤ limit) :
    Bursts len limit k (cs ++ admissions [c] [(check cap len m c).1]) (check cap len m c).2 := by
  have hnext : Accounts len c.time (cs ++ admissions [c] [(check cap len m c).1])
      (check cap len m c).2 := accounts_check hlen hacc htime
  -- refused, counted in the open window, or the first call of a new one
  obtain ⟨hout, hsame⟩ | ⟨w, hcur, hroom, heq⟩ | ⟨hcur, -, hroom, heq⟩ := check_cases cap len m c
  · obtain ⟨r, hr⟩ := Option.ne_none_iff_exists'.mp hout
    rw [hr, hsame, append_admissions_refused]
    exact h
  · obtain ⟨hlookup, hopen⟩ := current_eq_some.mp hcur
    rw [heq] at hnext ⊢
    have hused := (hnext.counts c.key _ (AList.lookup_insert m)).symm
    by_cases hkey : c.key = k
    · subst hkey
      have hle := hlimit rfl
      obtain ⟨d, hd, hopened⟩ := h.opened w hlookup
      refine h.insert rfl (by omega) ((hacc.started _ _ hlookup).trans htime)
        ⟨d, List.mem_append_left _ hd, hopened⟩ (by omega) hused (h.earlier w hlookup)
    · exact h.other hkey
  · rw [heq] at hnext ⊢
    have hused := (hnext.counts c.key _ (AList.lookup_insert m)).symm
    by_cases hkey : c.key = k
    · subst hkey
      have hle := hlimit rfl
      refine h.insert rfl (by omega) (le_refl _) ⟨c, by simp, rfl, rfl⟩ (by omega) hused ?_
      exact h.shortlyBefore_le hacc (by omega) htime hcur
    · exact h.other hkey

end FixedWindow

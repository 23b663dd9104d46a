import Mathlib

/-!
# Runs of a transition system

A system is a partial step function `step : S → A → Option S`: an action that is not
enabled in a state leads nowhere. Choices that the environment makes (who moves next,
which value arrives) are part of the action, so a run is a list of actions and every
interleaving of any number of parties is some list.

* `run`, the state a list of actions leads to, and its induction rules;
* `exists_step`, the step in which a property begins to hold;
* `Along`, a condition on every step of a run, and the rules for invariants that only
  hold while the condition does and for conditions that follow from one another;
* `along_iff_of_permanent`, the rule for exact conditions: when a step that breaks the
  condition does damage that no later step repairs, the condition held along the whole run
  iff the last state is undamaged;
* `trace`, what the steps of a run give out, and the rule that relates it to the last state.
-/

namespace TransitionSystem

variable {S A : Type*} {step : S → A → Option S}

/-- The state a list of actions leads to, `none` if one of them is not enabled. -/
def run (step : S → A → Option S) : S → List A → Option S
  | s, [] => some s
  | s, a :: as => (step s a).bind fun t => run step t as

@[simp] theorem run_nil (s : S) : run step s [] = some s := rfl

theorem run_cons {s u : S} {a : A} {as : List A} :
    run step s (a :: as) = some u ↔ ∃ t, step s a = some t ∧ run step t as = some u := by
  rw [run, Option.bind_eq_some_iff]

theorem run_append {s u : S} {as bs : List A} :
    run step s (as ++ bs) = some u ↔
      ∃ t, run step s as = some t ∧ run step t bs = some u := by
  induction as generalizing s with
  | nil => simp
  | cons a as ih =>
    simp only [List.cons_append, run_cons, ih]
    constructor
    · rintro ⟨t, ht, v, hv, hu⟩
      exact ⟨v, ⟨t, ht, hv⟩, hu⟩
    · rintro ⟨v, ⟨t, ht, hv⟩, hu⟩
      exact ⟨t, ht, v, hv, hu⟩

/-- A property that every step preserves is preserved by every run. -/
theorem invariant {I : S → Prop} (hstep : ∀ s a t, I s → step s a = some t → I t)
    {s t : S} {as : List A} (hrun : run step s as = some t) (hs : I s) : I t := by
  induction as generalizing s with
  | nil =>
    obtain rfl : s = t := Option.some.inj hrun
    exact hs
  | cons a as ih =>
    obtain ⟨u, hu, hrun⟩ := run_cons.mp hrun
    exact ih hrun (hstep s a u hs hu)

/-- What holds at the end of a run and not at its start begins to hold in some step. -/
theorem exists_step {P : S → Prop} {s t : S} {as : List A} (hrun : run step s as = some t)
    (hs : ¬ P s) (ht : P t) :
    ∃ as₁ a as₂ u v, as = as₁ ++ a :: as₂ ∧ run step s as₁ = some u ∧ step u a = some v ∧
      ¬ P u ∧ P v := by
  induction as generalizing s with
  | nil =>
    obtain rfl : s = t := Option.some.inj hrun
    exact absurd ht hs
  | cons a as ih =>
    obtain ⟨u, hu, hrun⟩ := run_cons.mp hrun
    by_cases hPu : P u
    · exact ⟨[], a, as, s, u, rfl, rfl, hu, hs, hPu⟩
    · obtain ⟨as₁, b, as₂, v, w, has, hv, hw, hPv, hPw⟩ := ih hrun hPu
      exact ⟨a :: as₁, b, as₂, v, w, by rw [has]; rfl, run_cons.mpr ⟨u, hu, hv⟩, hw, hPv, hPw⟩

/-! ## Conditions on the steps of a run -/

/-- Every step that the run takes satisfies `C`, a condition on the state before it, the
action and the state after it. -/
def Along (step : S → A → Option S) (C : S → A → S → Prop) : S → List A → Prop
  | _, [] => True
  | s, a :: as => ∀ t, step s a = some t → C s a t ∧ Along step C t as

@[simp] theorem along_nil {C : S → A → S → Prop} (s : S) : Along step C s [] := trivial

theorem along_cons {C : S → A → S → Prop} {s t : S} {a : A} {as : List A}
    (ht : step s a = some t) : Along step C s (a :: as) ↔ C s a t ∧ Along step C t as := by
  constructor
  · intro h
    exact h t ht
  · intro h u hu
    obtain rfl : t = u := Option.some.inj (ht.symm.trans hu)
    exact h

theorem along_append {C : S → A → S → Prop} {s t : S} {as bs : List A}
    (ht : run step s as = some t) :
    Along step C s (as ++ bs) ↔ Along step C s as ∧ Along step C t bs := by
  induction as generalizing s with
  | nil =>
    obtain rfl : s = t := Option.some.inj ht
    simp
  | cons a as ih =>
    obtain ⟨u, hu, hrun⟩ := run_cons.mp ht
    rw [List.cons_append, along_cons hu, along_cons hu, ih hrun, and_assoc]

theorem along_of_mem {C : S → A → S → Prop} {as : List A} (h : ∀ a ∈ as, ∀ s t, C s a t)
    (s : S) : Along step C s as := by
  induction as generalizing s with
  | nil => exact along_nil s
  | cons a as ih =>
    intro t _
    exact ⟨h a (by simp) s t, ih (fun b hb => h b (List.mem_cons_of_mem a hb)) t⟩

theorem along_and {C D : S → A → S → Prop} {s : S} {as : List A} (hC : Along step C s as)
    (hD : Along step D s as) : Along step (fun s a t => C s a t ∧ D s a t) s as := by
  induction as generalizing s with
  | nil => exact along_nil s
  | cons a as ih =>
    intro t ht
    exact ⟨⟨(hC t ht).1, (hD t ht).1⟩, ih (hC t ht).2 (hD t ht).2⟩

instance decidableAlong {C : S → A → S → Prop} [∀ s a t, Decidable (C s a t)] :
    (s : S) → (as : List A) → Decidable (Along step C s as)
  | s, [] => isTrue (along_nil s)
  | s, a :: as =>
    match ht : step s a with
    | none => isTrue fun _ h => absurd (ht.symm.trans h) nofun
    | some t =>
      have := decidableAlong (C := C) t as
      decidable_of_iff _ (along_cons ht).symm

/-- A property that every step satisfying `C` preserves is preserved by every run whose
steps all satisfy `C`. -/
theorem invariant_along {I : S → Prop} {C : S → A → S → Prop}
    (hstep : ∀ s a t, I s → C s a t → step s a = some t → I t)
    {s t : S} {as : List A} (hrun : run step s as = some t) (hC : Along step C s as)
    (hs : I s) : I t := by
  induction as generalizing s with
  | nil =>
    obtain rfl : s = t := Option.some.inj hrun
    exact hs
  | cons a as ih =>
    obtain ⟨u, hu, hrun⟩ := run_cons.mp hrun
    obtain ⟨hCu, hC⟩ := (along_cons hu).mp hC
    exact ih hrun hC (hstep s a u hs hCu hu)

/-- A condition that follows from another one on the steps taken from states with the
invariant, which the steps that meet the other one preserve, follows along every run. -/
theorem along_imp {I : S → Prop} {C D : S → A → S → Prop}
    (hstep : ∀ s a t, I s → C s a t → step s a = some t → I t)
    (hCD : ∀ s a t, I s → C s a t → step s a = some t → D s a t)
    {s : S} {as : List A} (hs : I s) (h : Along step C s as) : Along step D s as := by
  induction as generalizing s with
  | nil => exact along_nil s
  | cons a as ih =>
    intro t ht
    have hC := (h t ht).1
    exact ⟨hCD s a t hs hC ht, ih (hstep s a t hs hC ht) (h t ht).2⟩

/-- Two conditions that agree on the steps taken from states with the invariant, which the
steps that meet them preserve, agree along every run from such a state. -/
theorem along_congr {I : S → Prop} {C D : S → A → S → Prop}
    (hstep : ∀ s a t, I s → C s a t → step s a = some t → I t)
    (hCD : ∀ s a t, I s → step s a = some t → (C s a t ↔ D s a t))
    {s : S} {as : List A} (hs : I s) : Along step C s as ↔ Along step D s as := by
  constructor
  · exact along_imp hstep (fun s a t h hC ht => (hCD s a t h ht).mp hC) hs
  · apply along_imp (I := I) _ _ hs
    · intro s a t h hD ht
      exact hstep s a t h ((hCD s a t h ht).mpr hD) ht
    · intro s a t h hD ht
      exact (hCD s a t h ht).mpr hD

/-- The rule for exact conditions. A step that satisfies `C` keeps a good state good, one
that does not makes it bad, and no step makes a bad state good again: then the last state
of a run is good iff `C` held along the run. -/
theorem along_iff_of_permanent {I Good : S → Prop} {C : S → A → S → Prop}
    (hI : ∀ s a t, I s → step s a = some t → I t)
    (hkeep : ∀ s a t, I s → Good s → C s a t → step s a = some t → Good t)
    (hbreak : ∀ s a t, I s → Good s → ¬ C s a t → step s a = some t → ¬ Good t)
    (hperm : ∀ s a t, I s → ¬ Good s → step s a = some t → ¬ Good t)
    {s t : S} {as : List A} (hrun : run step s as = some t) (hs : I s) (hgood : Good s) :
    Along step C s as ↔ Good t := by
  constructor
  · intro hC
    have hboth := invariant_along (I := fun s => I s ∧ Good s)
      (fun s a t h hCs ht => ⟨hI s a t h.1 ht, hkeep s a t h.1 h.2 hCs ht⟩) hrun hC
      ⟨hs, hgood⟩
    exact hboth.2
  · intro ht
    induction as generalizing s with
    | nil => exact along_nil s
    | cons a as ih =>
      obtain ⟨u, hu, hrun⟩ := run_cons.mp hrun
      -- a bad intermediate state would stay bad up to `t`
      have hgu : Good u := by
        by_contra hbad
        have hend := invariant (I := fun s => I s ∧ ¬ Good s)
          (fun s a t h ht => ⟨hI s a t h.1 ht, hperm s a t h.1 h.2 ht⟩) hrun
          ⟨hI s a u hs hu, hbad⟩
        exact hend.2 ht
      have hCu : C s a u := by
        by_contra hbad
        exact hbreak s a u hs hgood hbad hu hgu
      exact (along_cons hu).mpr ⟨hCu, ih hrun (hI s a u hs hu) hgu⟩

/-! ## What a run gives out -/

section Trace

variable {O : Type*}

/-- What the steps of a run give out, one after another. -/
def trace (step : S → A → Option S) (out : S → A → List O) : S → List A → List O
  | _, [] => []
  | s, a :: as => out s a ++ ((step s a).elim [] fun t => trace step out t as)

/-- What relates the output of a run to the state it leads to, every step preserving it. -/
theorem trace_invariant {out : S → A → List O} {I : List O → S → Prop}
    (hstep : ∀ os s a t, I os s → step s a = some t → I (os ++ out s a) t)
    {s t : S} {as : List A} (hrun : run step s as = some t) (hs : I [] s) :
    I (trace step out s as) t := by
  suffices h : ∀ os, I os s → I (os ++ trace step out s as) t from h [] hs
  clear hs
  induction as generalizing s with
  | nil =>
    intro os hos
    obtain rfl : s = t := Option.some.inj hrun
    rw [trace, List.append_nil]
    exact hos
  | cons a as ih =>
    intro os hos
    obtain ⟨u, hu, hrun⟩ := run_cons.mp hrun
    rw [trace, hu, Option.elim_some, ← List.append_assoc]
    exact ih hrun _ (hstep os s a u hos hu)

end Trace

end TransitionSystem

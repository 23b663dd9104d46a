import Mathlib.Data.List.Basic

/-!
# Loops that read an input in every turn

A turn reads the next input and ends the loop with a result, or goes on in a new state:
`turn : S → I → O ⊕ S`. The inputs are an infinite sequence, of which a loop that ends reads
finitely many.

* `run`, the states in which inputs are read and what a number of turns leads to;
* `exists_result`, the rule for loops with a rank;
* `result_rule`, the rule for loops with an invariant that may speak about the inputs read so
  far, and `map_run`, the one for counters.
-/

namespace InputLoop

variable {S I O : Type*} {turn : S → I → O ⊕ S}

/-- At most `n` turns. A loop that has ended reads no more inputs. -/
def run (turn : S → I → O ⊕ S) : ℕ → (ℕ → I) → S → List S × (O ⊕ S)
  | 0, _, s => ([], .inr s)
  | n + 1, inputs, s =>
    match turn s (inputs 0) with
    | .inl o => ([s], .inl o)
    | .inr t =>
      let rest := run turn n (fun i => inputs (i + 1)) t
      (s :: rest.1, rest.2)

theorem run_succ_of_ended {n : ℕ} {inputs : ℕ → I} {s : S} {o : O}
    (hturn : turn s (inputs 0) = .inl o) : run turn (n + 1) inputs s = ([s], .inl o) := by
  rw [run, hturn]

theorem run_succ_of_next {n : ℕ} {inputs : ℕ → I} {s t : S}
    (hturn : turn s (inputs 0) = .inr t) :
    run turn (n + 1) inputs s =
      (s :: (run turn n (fun i => inputs (i + 1)) t).1,
        (run turn n (fun i => inputs (i + 1)) t).2) := by
  rw [run, hturn]

theorem length_run_le (n : ℕ) (inputs : ℕ → I) (s : S) :
    (run turn n inputs s).1.length ≤ n := by
  induction n generalizing inputs s with
  | zero => exact Nat.le_refl 0
  | succ n ih =>
    cases hturn : turn s (inputs 0) with
    | inl o =>
      rw [run_succ_of_ended hturn]
      exact Nat.succ_le_succ (Nat.zero_le n)
    | inr t =>
      rw [run_succ_of_next hturn, List.length_cons]
      exact Nat.succ_le_succ (ih _ t)

/-- A loop that ends has read an input. -/
theorem length_run_pos {n : ℕ} {inputs : ℕ → I} {s : S} {o : O}
    (hresult : (run turn n inputs s).2 = .inl o) : 1 ≤ (run turn n inputs s).1.length := by
  cases n with
  | zero => exact absurd hresult (by simp [run])
  | succ n =>
    cases hturn : turn s (inputs 0) with
    | inl o =>
      rw [run_succ_of_ended hturn]
      exact Nat.le_refl 1
    | inr t =>
      rw [run_succ_of_next hturn, List.length_cons]
      exact Nat.succ_le_succ (Nat.zero_le _)

/-- What a loop returns does not depend on the number of turns that it had left. -/
theorem run_of_length_le {n m : ℕ} {inputs : ℕ → I} {s : S} {o : O}
    (hresult : (run turn n inputs s).2 = .inl o) (hm : (run turn n inputs s).1.length ≤ m) :
    run turn m inputs s = run turn n inputs s := by
  induction n generalizing inputs s m with
  | zero => exact absurd hresult (by simp [run])
  | succ n ih =>
    have hpos := length_run_pos hresult
    obtain ⟨m, rfl⟩ : ∃ m', m = m' + 1 := ⟨m - 1, by omega⟩
    cases hturn : turn s (inputs 0) with
    | inl o => rw [run_succ_of_ended hturn, run_succ_of_ended hturn]
    | inr t =>
      rw [run_succ_of_next hturn] at hresult hm
      rw [run_succ_of_next hturn, run_succ_of_next hturn,
        ih hresult (Nat.le_of_succ_le_succ hm)]

/-- A loop whose turns lower a rank ends. -/
theorem exists_result (rank : S → ℕ)
    (hrank : ∀ s i t, turn s i = .inr t → rank t < rank s) (inputs : ℕ → I) {n : ℕ} {s : S}
    (hn : rank s < n) : ∃ o, (run turn n inputs s).2 = .inl o := by
  induction n generalizing inputs s with
  | zero => exact absurd hn (Nat.not_lt_zero _)
  | succ n ih =>
    cases hturn : turn s (inputs 0) with
    | inl o => exact ⟨o, by rw [run_succ_of_ended hturn]⟩
    | inr t =>
      have hlower := hrank s (inputs 0) t hturn
      rw [run_succ_of_next hturn]
      exact ih _ (by omega)

/-- What holds in the state in which input `k` is read, and then of the result. -/
theorem result_rule {P : ℕ → S → Prop} {Q : ℕ → O → Prop} {n : ℕ} {inputs : ℕ → I} {s : S} {o : O}
    (hresult : (run turn n inputs s).2 = .inl o) (hs : P 0 s)
    (hnext : ∀ k s t, P k s → turn s (inputs k) = .inr t → P (k + 1) t)
    (hend : ∀ k s o, P k s → turn s (inputs k) = .inl o → Q (k + 1) o) :
    Q (run turn n inputs s).1.length o := by
  induction n generalizing inputs s P Q with
  | zero => exact absurd hresult (by simp [run])
  | succ n ih =>
    cases hturn : turn s (inputs 0) with
    | inl o' =>
      rw [run_succ_of_ended hturn] at hresult ⊢
      obtain rfl := Sum.inl.inj hresult
      exact hend 0 s o' hs hturn
    | inr t =>
      rw [run_succ_of_next hturn] at hresult ⊢
      rw [List.length_cons]
      -- the same invariant, with one more input read
      apply ih (P := fun k => P (k + 1)) (Q := fun k => Q (k + 1)) hresult
      · exact hnext 0 s t hs hturn
      · exact fun k => hnext (k + 1)
      · exact fun k => hend (k + 1)

/-- A counter that every turn increments has counted the inputs. -/
theorem map_run {f : S → ℕ} (hcount : ∀ s i t, turn s i = .inr t → f t = f s + 1) (n : ℕ)
    (inputs : ℕ → I) (s : S) :
    (run turn n inputs s).1.map f = List.range' (f s) (run turn n inputs s).1.length := by
  induction n generalizing inputs s with
  | zero => rfl
  | succ n ih =>
    cases hturn : turn s (inputs 0) with
    | inl o =>
      rw [run_succ_of_ended hturn]
      rfl
    | inr t =>
      rw [run_succ_of_next hturn, List.map_cons, List.length_cons, List.range'_succ, ih,
        hcount s _ t hturn]

end InputLoop

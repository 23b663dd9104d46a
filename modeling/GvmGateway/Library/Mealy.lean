import Mathlib

/-!
# Machines that answer

A machine reads an input, answers and moves to its next state: `f : S → I → O × S`.

* `outputs` and `final`, the answers to a list of inputs and the state they lead to;
* `Along`, a condition on every input in the state it is read in;
* `Clocked`, inputs that carry a time, at times that never go back;
* `clocked_simulation`, the rule that relates two machines reading one list of timed inputs,
  with a relation that may speak about the time of the last input.
-/

namespace Mealy

variable {S T I O : Type*}

/-- The answers to a list of inputs. -/
def outputs (f : S → I → O × S) : S → List I → List O
  | _, [] => []
  | s, i :: is => (f s i).1 :: outputs f (f s i).2 is

/-- The state that a list of inputs leads to. -/
def final (f : S → I → O × S) : S → List I → S
  | s, [] => s
  | s, i :: is => final f (f s i).2 is

@[simp] theorem outputs_nil (f : S → I → O × S) (s : S) : outputs f s [] = [] := rfl

@[simp] theorem final_nil (f : S → I → O × S) (s : S) : final f s [] = s := rfl

theorem outputs_append (f : S → I → O × S) (s : S) (is js : List I) :
    outputs f s (is ++ js) = outputs f s is ++ outputs f (final f s is) js := by
  induction is generalizing s with
  | nil => rfl
  | cons i is ih => exact congrArg ((f s i).1 :: ·) (ih (f s i).2)

theorem final_append (f : S → I → O × S) (s : S) (is js : List I) :
    final f s (is ++ js) = final f (final f s is) js := by
  induction is generalizing s with
  | nil => rfl
  | cons i is ih => exact ih (f s i).2

theorem length_outputs (f : S → I → O × S) (s : S) (is : List I) :
    (outputs f s is).length = is.length := by
  induction is generalizing s with
  | nil => rfl
  | cons i is ih => exact congrArg (· + 1) (ih (f s i).2)

theorem outputs_concat (f : S → I → O × S) (s : S) (is : List I) (i : I) :
    outputs f s (is ++ [i]) = outputs f s is ++ [(f (final f s is) i).1] :=
  outputs_append f s is [i]

theorem final_concat (f : S → I → O × S) (s : S) (is : List I) (i : I) :
    final f s (is ++ [i]) = (f (final f s is) i).2 :=
  final_append f s is [i]

/-- A property that every input preserves is preserved by a list of inputs. -/
theorem final_invariant {f : S → I → O × S} {P : S → Prop} {is : List I}
    (hstep : ∀ s, ∀ i ∈ is, P s → P (f s i).2) {s : S} (hs : P s) : P (final f s is) := by
  induction is generalizing s with
  | nil => exact hs
  | cons i is ih =>
    apply ih
    · intro s j hj
      exact hstep s j (List.mem_cons_of_mem i hj)
    · exact hstep s i (by simp) hs

/-- Every input meets `C` in the state it is read in. -/
def Along (f : S → I → O × S) (C : S → I → Prop) : S → List I → Prop
  | _, [] => True
  | s, i :: is => C s i ∧ Along f C (f s i).2 is

instance decidableAlong (f : S → I → O × S) (C : S → I → Prop) [∀ s i, Decidable (C s i)] :
    (s : S) → (is : List I) → Decidable (Along f C s is)
  | _, [] => isTrue trivial
  | s, i :: is =>
    have := decidableAlong f C (f s i).2 is
    inferInstanceAs (Decidable (C s i ∧ Along f C (f s i).2 is))

theorem along_append {f : S → I → O × S} {C : S → I → Prop} {s : S} {is js : List I} :
    Along f C s (is ++ js) ↔ Along f C s is ∧ Along f C (final f s is) js := by
  induction is generalizing s with
  | nil => simp [Along]
  | cons i is ih => rw [List.cons_append, Along, Along, final, ih, and_assoc]

theorem along_concat {f : S → I → O × S} {C : S → I → Prop} {s : S} {is : List I} {i : I} :
    Along f C s (is ++ [i]) ↔ Along f C s is ∧ C (final f s is) i := by
  rw [along_append]
  simp [Along]

/-! ## Timed inputs -/

/-- The inputs come at times that never go back, none before `t`. -/
def Clocked (time : I → ℕ) : ℕ → List I → Prop
  | _, [] => True
  | t, i :: is => t ≤ time i ∧ Clocked time (time i) is

instance decidableClocked (time : I → ℕ) : (t : ℕ) → (is : List I) → Decidable (Clocked time t is)
  | _, [] => isTrue trivial
  | t, i :: is =>
    have := decidableClocked time (time i) is
    inferInstanceAs (Decidable (t ≤ time i ∧ Clocked time (time i) is))

/-- The time of the last input, `t` if there is none. -/
def lastTime (time : I → ℕ) : ℕ → List I → ℕ
  | t, [] => t
  | _, i :: is => lastTime time (time i) is

theorem clocked_append {time : I → ℕ} {t : ℕ} {is js : List I} :
    Clocked time t (is ++ js) ↔ Clocked time t is ∧ Clocked time (lastTime time t is) js := by
  induction is generalizing t with
  | nil => simp [Clocked, lastTime]
  | cons i is ih =>
    rw [List.cons_append, Clocked, Clocked, lastTime, ih, and_assoc]

theorem clocked_concat {time : I → ℕ} {t : ℕ} {is : List I} {i : I} :
    Clocked time t (is ++ [i]) ↔ Clocked time t is ∧ lastTime time t is ≤ time i := by
  rw [clocked_append]
  simp [Clocked]

theorem lastTime_concat {time : I → ℕ} {t : ℕ} {is : List I} {i : I} :
    lastTime time t (is ++ [i]) = time i := by
  induction is generalizing t with
  | nil => rfl
  | cons j is ih => exact ih

/-- Two machines stay related, and give the same answers, along timed inputs that keep
them related. The relation may depend on the time of the last input. -/
theorem clocked_simulation {f : S → I → O × S} {g : T → I → O × T} {time : I → ℕ}
    {R : ℕ → S → T → Prop} {is : List I}
    (hstep : ∀ t s u, ∀ i ∈ is, R t s u → t ≤ time i →
      (f s i).1 = (g u i).1 ∧ R (time i) (f s i).2 (g u i).2)
    {t : ℕ} {s : S} {u : T} (hclock : Clocked time t is) (hR : R t s u) :
    outputs f s is = outputs g u is ∧ R (lastTime time t is) (final f s is) (final g u is) := by
  induction is generalizing t s u with
  | nil => exact ⟨rfl, hR⟩
  | cons i is ih =>
    obtain ⟨hti, hclock⟩ := hclock
    obtain ⟨hout, hnext⟩ := hstep t s u i (by simp) hR hti
    have hrest := ih (fun t s u j hj => hstep t s u j (List.mem_cons_of_mem i hj)) hclock hnext
    constructor
    · rw [outputs, outputs, hout, hrest.1]
    · exact hrest.2

/-- A property of the state and the time of the last input that every input preserves. -/
theorem clocked_invariant {f : S → I → O × S} {time : I → ℕ} {P : ℕ → S → Prop} {is : List I}
    (hstep : ∀ t s, ∀ i ∈ is, P t s → t ≤ time i → P (time i) (f s i).2)
    {t : ℕ} {s : S} (hclock : Clocked time t is) (hP : P t s) :
    P (lastTime time t is) (final f s is) := by
  have h := clocked_simulation (f := f) (g := f) (R := fun t s u => s = u ∧ P t s)
    (fun t s u i hi hR hti => by
      obtain ⟨rfl, hP⟩ := hR
      exact ⟨rfl, rfl, hstep t s i hi hP hti⟩) hclock ⟨rfl, hP⟩
  exact h.2.2

end Mealy

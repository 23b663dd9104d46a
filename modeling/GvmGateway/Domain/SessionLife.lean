import Mathlib

/-!
# The life of one session

What the gateway owes to a single session, whatever runs beside it: the login that opened
it, whether the registry knows it, how many calls in progress will still ask the backend to
disconnect it, how often that has been asked, and whether the backend holds a client for it.
The steps are the events that can happen to one session, and the laws are proved here once;
the gateway refines this automaton for every digest.
-/

namespace GvmGateway

/-- The login that opens a session, as far as its teardown depends on it. -/
inductive Login where
  | unissued
  | opened
  | connected
  | returned
  /-- The login failed, or its request was dropped. -/
  | ended
deriving DecidableEq, Repr

/-- What is known of a session from its login to its disconnection. -/
@[ext]
structure Life where
  login : Login
  registered : ℕ
  pending : ℕ
  disconnected : ℕ
  client : Bool
deriving DecidableEq, Repr

namespace Life

/-- What can happen to a session in one step; `auth` says that the backend accepts its login
in that step. -/
inductive Step (auth : Prop) (l : Life) : Life → Prop where
  | idle : Step auth l l
  | opened (login : l.login = .unissued) :
      Step auth l { l with login := .opened, registered := 1 }
  /-- A call took the session out of the registry, and will disconnect it. -/
  | drained (registered : l.registered = 1) :
      Step auth l { l with registered := 0, pending := l.pending + 1 }
  | disconnected {n : ℕ} (pending : l.pending = n + 1) :
      Step auth l { l with pending := n, disconnected := l.disconnected + 1, client := false }
  | connected (login : l.login = .opened) (accepted : auth) :
      Step auth l { l with login := .connected, client := true }
  | rejected (login : l.login = .opened) :
      Step auth l { l with login := .ended, registered := 0 }
  | returned (login : l.login = .connected) : Step auth l { l with login := .returned }
  | dropped (login : l.login = .opened) : Step auth l { l with login := .ended }

/-- What holds of every session at any time. -/
structure Inv (l : Life) : Prop where
  /-- A session is in one place only, and nowhere before its login. -/
  once : l.registered + l.pending + l.disconnected ≤ if l.login = .unissued then 0 else 1
  /-- Unless its login ended, it is somewhere. -/
  owed : l.login ≠ .unissued → l.login ≠ .ended →
    l.registered + l.pending + l.disconnected = 1
  /-- Only an accepted login has a client. -/
  accepted : l.client = true → l.login = .connected ∨ l.login = .returned

variable {auth : Prop} {l l' : Life}

/-- The laws are kept by every event. -/
theorem inv_step (hl : l.Inv) (h : Step auth l l') : l'.Inv := by
  have honce := hl.once
  cases h with
  | idle => exact hl
  | opened login =>
    rw [if_pos login] at honce
    refine ⟨?_, fun _ _ => ?_, fun hclient => ?_⟩
    · simp only [reduceCtorEq, if_false]
      omega
    · simp only
      omega
    · rcases hl.accepted hclient with h | h <;> simp [login] at h
  -- a drained session owes its disconnect
  | drained registered =>
    refine ⟨?_, fun hun hend => ?_, hl.accepted⟩
    · simp only
      omega
    · have howed := hl.owed hun hend
      simp only
      omega
  | disconnected pending =>
    refine ⟨?_, fun hun hend => ?_, nofun⟩
    · simp only
      omega
    · have howed := hl.owed hun hend
      simp only
      omega
  | connected login =>
    refine ⟨?_, fun _ _ => ?_, fun _ => .inl rfl⟩
    · simp only [login, reduceCtorEq, if_false] at honce ⊢
      exact honce
    · exact hl.owed (by simp [login]) (by simp [login])
  -- a login that has ended owes nothing any more
  | rejected login =>
    refine ⟨?_, fun _ hend => absurd rfl hend, fun hclient => ?_⟩
    · simp only [login, reduceCtorEq, if_false] at honce ⊢
      omega
    · rcases hl.accepted hclient with h | h <;> simp [login] at h
  | returned login =>
    refine ⟨?_, fun _ _ => ?_, fun _ => .inr rfl⟩
    · simp only [login, reduceCtorEq, if_false] at honce ⊢
      exact honce
    · exact hl.owed (by simp [login]) (by simp [login])
  | dropped login =>
    refine ⟨?_, fun _ hend => absurd rfl hend, fun hclient => ?_⟩
    · simp only [login, reduceCtorEq, if_false] at honce ⊢
      exact honce
    · rcases hl.accepted hclient with h | h <;> simp [login] at h

/-- An issued session stays issued. -/
theorem issued_step (hissued : l.login ≠ .unissued) (h : Step auth l l') :
    l'.login ≠ .unissued := by
  cases h with
  | idle | drained | disconnected => exact hissued
  | opened | connected | rejected | returned | dropped => simp

/-- A session that has left the registry does not come back. -/
theorem gone_step (hissued : l.login ≠ .unissued) (hgone : l.registered = 0)
    (h : Step auth l l') : l'.registered = 0 := by
  cases h with
  | idle | disconnected | connected | returned | dropped => exact hgone
  | opened login => exact absurd login hissued
  | drained | rejected => rfl

/-- A login that is over has its outcome for good. -/
theorem outcome_step (hover : l.login = .returned ∨ l.login = .ended) (h : Step auth l l') :
    l'.login = l.login := by
  cases h with
  | idle | drained | disconnected => rfl
  | opened login => simp [login] at hover
  | connected login => simp [login] at hover
  | rejected login => simp [login] at hover
  | returned login => simp [login] at hover
  | dropped login => simp [login] at hover

/-! ## Orphans -/

/-- The backend holds a client that nobody will disconnect. -/
def Orphan (l : Life) : Prop := l.client = true ∧ l.registered = 0 ∧ l.pending = 0

instance (l : Life) : Decidable l.Orphan := inferInstanceAs (Decidable (_ ∧ _ ∧ _))

/-- Only an accepted login can make an orphan, when the session is gone and has already been
disconnected. -/
theorem not_orphan_step (hl : l.Inv) (hgood : ¬ l.Orphan)
    (hauth : auth → 0 < l.registered + l.pending) (h : Step auth l l') : ¬ l'.Orphan := by
  intro horphan
  have hclient : l'.client = true := horphan.1
  have hreg : l'.registered = 0 := horphan.2.1
  have hpend : l'.pending = 0 := horphan.2.2
  cases h with
  | idle => exact hgood horphan
  | opened => exact absurd hreg (Nat.succ_ne_zero 0)
  | drained => exact absurd hpend (Nat.succ_ne_zero _)
  | disconnected => exact absurd hclient Bool.false_ne_true
  | connected _ accepted =>
    have hpos := hauth accepted
    have hreg : l.registered = 0 := hreg
    have hpend : l.pending = 0 := hpend
    omega
  | rejected login =>
    rcases hl.accepted hclient with h | h <;> simp [login] at h
  | returned => exact hgood ⟨hclient, hreg, hpend⟩
  | dropped => exact hgood ⟨hclient, hreg, hpend⟩

/-- An orphan stays one: nothing disconnects it and its digest is not issued again. -/
theorem orphan_step (hl : l.Inv) (horphan : l.Orphan) (h : Step auth l l') : l'.Orphan := by
  rcases horphan with ⟨hclient, hreg, hpend⟩
  have haccepted := hl.accepted hclient
  cases h with
  | idle => exact ⟨hclient, hreg, hpend⟩
  | opened login => rcases haccepted with h | h <;> simp [login] at h
  | drained registered => omega
  | disconnected pending => omega
  | connected => exact ⟨rfl, hreg, hpend⟩
  | rejected => exact ⟨hclient, rfl, hpend⟩
  | returned => exact ⟨hclient, hreg, hpend⟩
  | dropped => exact ⟨hclient, hreg, hpend⟩

end Life
end GvmGateway

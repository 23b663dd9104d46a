import GvmGateway.Domain.SessionTheorems

/-!
# The holds of one session

A session, as far as its holds go: its entry in the registry, how many `SessionHold` guards
there are for its digest, and whether the digest has been issued. The counter of the entry
is kept in step with guards that live elsewhere; that it is, and that a held session expires
only on request, is proved here once.
-/

namespace GvmGateway

/-- A session, and the guards that hold it. -/
@[ext]
structure HoldView where
  session : Option StoredSession
  guards : ℕ
  issued : Bool

namespace HoldView

/-- What can happen to a session in one step; `explicit` says that the step expires it on
request. -/
inductive Step (explicit : Prop) (v : HoldView) : HoldView → Prop where
  | idle : Step explicit v v
  | opened {user : String} {now : ℕ} (issued : v.issued = false) :
      Step explicit v { v with session := some (.opened user now), issued := true }
  | removed : Step explicit v { v with session := none }
  /-- The session is touched, or found to have expired. -/
  | used {s s' : StoredSession} (session : v.session = some s) (hold : s'.holdCount = s.holdCount)
      (idled : s'.state = .expired → s.state = .expired ∨ s.holdCount = 0) :
      Step explicit v { v with session := some s' }
  | expired {s : StoredSession} (session : v.session = some s) (request : explicit) :
      Step explicit v { v with session := some s.markExpired }
  | held {s : StoredSession} {now : ℕ} (session : v.session = some s)
      (active : s.state = .active) :
      Step explicit v { v with session := some (s.held now), guards := v.guards + 1 }
  /-- A guard is dropped, when its session may be gone. -/
  | released {n : ℕ} (guards : v.guards = n + 1) :
      Step explicit v { v with session := v.session.map StoredSession.released, guards := n }

/-- The counter of a session counts its guards. -/
structure Inv (v : HoldView) : Prop where
  counted : ∀ s, v.session = some s → s.holdCount = v.guards
  fresh : v.issued = false → v.session = none ∧ v.guards = 0

variable {explicit : Prop} {v v' : HoldView}

/-- The counter stays in step, as long as it does not saturate. -/
theorem inv_step (hv : v.Inv) (hbound : v'.guards < 2 ^ 64) (h : Step explicit v v') :
    v'.Inv := by
  cases h with
  | idle => exact hv
  | opened issued =>
    refine ⟨?_, fun hfalse => absurd hfalse (by simp)⟩
    rintro s ⟨⟩
    exact (hv.fresh issued).2.symm
  | removed => exact ⟨fun _ hs => absurd hs (by simp), fun hun => ⟨rfl, (hv.fresh hun).2⟩⟩
  | used session hold idled =>
    refine ⟨?_, fun hun => absurd ((hv.fresh hun).1.symm.trans session) (by simp)⟩
    rintro s' ⟨⟩
    exact hold.trans (hv.counted _ session)
  | @expired s session request =>
    refine ⟨?_, fun hun => absurd ((hv.fresh hun).1.symm.trans session) (by simp)⟩
    rintro s' ⟨⟩
    exact hv.counted s session
  | @held s now session active =>
    refine ⟨?_, fun hun => absurd ((hv.fresh hun).1.symm.trans session) (by simp)⟩
    rintro s' ⟨⟩
    -- the bound on the guards is what keeps `saturating_add` from saturating
    have hcount := hv.counted s session
    show min (s.holdCount + 1) (2 ^ 64 - 1) = v.guards + 1
    simp only at hbound
    omega
  | @released n guards =>
    refine ⟨fun s' hs' => ?_, fun hun => ?_⟩
    · rcases Option.map_eq_some_iff.mp hs' with ⟨s, hs, rfl⟩
      have hcount := hv.counted s hs
      show s.holdCount - 1 = n
      omega
    · have hnone := (hv.fresh hun).2
      omega

/-- The session is marked as expired while somebody holds it. -/
def ExpiredHeld (v : HoldView) : Prop :=
  ∃ s, v.session = some s ∧ s.state = .expired ∧ 0 < s.holdCount

/-- A held session expires only on request. -/
theorem expiredHeld_step (h : Step explicit v v') (hnot : ¬ v.ExpiredHeld)
    (hv' : v'.ExpiredHeld) : explicit ∧ ∃ s, v.session = some s := by
  rcases hv' with ⟨s', hs', hstate, hheld⟩
  cases h with
  | idle => exact absurd ⟨s', hs', hstate, hheld⟩ hnot
  | opened issued =>
    cases hs'
    exact absurd hstate (by simp [StoredSession.opened])
  | removed => exact absurd hs' (by simp)
  | used session hold idled =>
    cases hs'
    rcases idled hstate with hexpired | hzero
    · exact absurd ⟨_, session, hexpired, hold ▸ hheld⟩ hnot
    · omega
  | expired session request => exact ⟨request, _, session⟩
  | held session active =>
    cases hs'
    exact absurd (active.symm.trans hstate) (by simp)
  | released guards =>
    rcases Option.map_eq_some_iff.mp hs' with ⟨s, hs, rfl⟩
    have hpos : 0 < s.holdCount - 1 := hheld
    exact absurd ⟨s, hs, hstate, by omega⟩ hnot

end HoldView
end GvmGateway

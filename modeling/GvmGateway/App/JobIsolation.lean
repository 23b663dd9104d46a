import GvmGateway.App.JobsTheorems
import GvmGateway.Library.Mealy

/-!
# Jobs of different users

`job_snapshot`, `cancel_job_record` and `job_artifact` called for a user see the records of
that user only: two registries that agree on these give the same answers and agree again. What
the registry does to the records of others is the purge.
-/

namespace GvmGateway

/-- A call about one job, with its readings of the clock. -/
inductive JobCall where
  | jobSnapshot (now : ℕ) (jobId : String)
  | cancelJobRecord (purgeNow now : ℕ) (jobId : String)
  | jobArtifact (now : ℕ) (jobId : String)
deriving DecidableEq, Repr

/-- What the caller gets. A cancellation also hands over the handle it aborts. -/
inductive JobAnswer where
  | job (result : Except GatewayError ReportExportJob)
  | cancelled (result : Except GatewayError JobCancelOutcome) (aborted : Option AbortHandle)
  | artifact (result : Except GatewayError JobArtifact)

namespace JobCall

/-- The job that a call is about. -/
def jobId : JobCall → String
  | jobSnapshot _ jobId | cancelJobRecord _ _ jobId | jobArtifact _ jobId => jobId

/-- The time at which the call purges the registry. -/
def purgeTime : JobCall → ℕ
  | jobSnapshot now _ | cancelJobRecord now _ _ | jobArtifact now _ => now

/-- The answer about a job that is not there. -/
def notFound : JobCall → JobAnswer
  | jobSnapshot _ jobId => .job (.error (JobRegistryState.jobNotFound jobId))
  | cancelJobRecord _ _ jobId => .cancelled (.error (JobRegistryState.jobNotFound jobId)) none
  | jobArtifact _ jobId => .artifact (.error (JobRegistryState.jobNotFound jobId))

end JobCall

namespace JobRegistryState

variable {Digest : Type}

/-- A call made for `ownerUser`. -/
def handle (ownerUser : String) (s : JobRegistryState Digest) :
    JobCall → JobAnswer × JobRegistryState Digest
  | .jobSnapshot now jobId =>
    let (result, s) := s.jobSnapshot now ownerUser jobId
    (.job result, s)
  | .cancelJobRecord purgeNow now jobId =>
    let (result, aborted, s) := s.cancelJobRecord purgeNow now ownerUser jobId
    (.cancelled result aborted, s)
  | .jobArtifact now jobId =>
    let (result, s) := s.jobArtifact now ownerUser jobId
    (.artifact result, s)

/-- The record of a job if it is one of `ownerUser`'s. -/
def owned (ownerUser : String) (s : JobRegistryState Digest) (jobId : String) :
    Option (JobRecord Digest) :=
  (s.jobs.lookup jobId).filter fun record => record.ownerUser = ownerUser

theorem owned_eq_some {ownerUser jobId : String} {s : JobRegistryState Digest}
    {r : JobRecord Digest} :
    s.owned ownerUser jobId = some r ↔
      s.jobs.lookup jobId = some r ∧ r.ownerUser = ownerUser := by
  rw [owned, Option.filter_eq_some_iff, decide_eq_true_eq]

theorem owned_eq_none {ownerUser jobId : String} {s : JobRegistryState Digest} :
    s.owned ownerUser jobId = none ↔
      ∀ r, s.jobs.lookup jobId = some r → r.ownerUser ≠ ownerUser := by
  rw [owned, Option.filter_eq_none_iff]
  simp only [decide_eq_true_eq]

theorem owned_purged (ownerUser : String) (s : JobRegistryState Digest) (now : ℕ)
    (jobId : String) :
    (s.purged now).owned ownerUser jobId = (s.owned ownerUser jobId).filter (isRetained now) := by
  ext r
  rw [owned_eq_some, lookup_purged_eq_some, Option.filter_eq_some_iff, owned_eq_some]
  tauto

theorem owned_put (ownerUser : String) (s : JobRegistryState Digest) (k j : String)
    (r : JobRecord Digest) :
    (s.put k r).owned ownerUser j =
      if j = k then (some r).filter fun record => record.ownerUser = ownerUser
      else s.owned ownerUser j := by
  rw [owned, lookup_put]
  split
  · rfl
  · rfl

/-- The lookup that the three calls share sees the user's records only. -/
theorem findOwned_eq (s : JobRegistryState Digest) (now : ℕ) (ownerUser jobId : String) :
    s.findOwned now ownerUser jobId =
      match (s.purged now).owned ownerUser jobId with
      | some record => .ok record
      | none => .error (jobNotFound jobId) := by
  unfold findOwned owned
  rcases (s.purged now).jobs.lookup jobId with _ | record
  · rfl
  · by_cases howner : record.ownerUser = ownerUser
    · simp [ensureJobOwner, howner, Except.map, Option.filter_some]
    · simp [ensureJobOwner, howner, Except.map, Option.filter_some]

/-! ## Two registries -/

/-- The registries hold the same records of `ownerUser`, and have one policy. -/
structure AgreeOn (ownerUser : String) (s t : JobRegistryState Digest) : Prop where
  policy : s.policy = t.policy
  records : ∀ jobId, s.owned ownerUser jobId = t.owned ownerUser jobId

theorem AgreeOn.purged {ownerUser : String} {s t : JobRegistryState Digest}
    (h : AgreeOn ownerUser s t) (now : ℕ) :
    AgreeOn ownerUser (s.purged now) (t.purged now) where
  policy := h.policy
  records jobId := by rw [owned_purged, owned_purged, h.records]

theorem AgreeOn.put {ownerUser : String} {s t : JobRegistryState Digest}
    (h : AgreeOn ownerUser s t) (jobId : String) (r : JobRecord Digest) :
    AgreeOn ownerUser (s.put jobId r) (t.put jobId r) where
  policy := h.policy
  records j := by rw [owned_put, owned_put, h.records]

theorem AgreeOn.findOwned {ownerUser : String} {s t : JobRegistryState Digest}
    (h : AgreeOn ownerUser s t) (now : ℕ) (jobId : String) :
    s.findOwned now ownerUser jobId = t.findOwned now ownerUser jobId := by
  rw [findOwned_eq, findOwned_eq, (h.purged now).records]

/-- One call: the same answer, and registries that agree again. -/
theorem AgreeOn.handle {ownerUser : String} {s t : JobRegistryState Digest}
    (h : AgreeOn ownerUser s t) (c : JobCall) :
    (s.handle ownerUser c).1 = (t.handle ownerUser c).1 ∧
      AgreeOn ownerUser (s.handle ownerUser c).2 (t.handle ownerUser c).2 := by
  cases c with
  | jobSnapshot now jobId =>
    simp only [JobRegistryState.handle, jobSnapshot, h.findOwned now jobId, true_and]
    exact h.purged now
  | cancelJobRecord purgeNow now jobId =>
    simp only [JobRegistryState.handle, cancelJobRecord, h.findOwned purgeNow jobId]
    rcases t.findOwned purgeNow ownerUser jobId with err | record
    · exact ⟨rfl, h.purged purgeNow⟩
    · by_cases hdone : record.job.status.isTerminal = true
      · simp only [hdone, if_true, true_and]
        exact h.purged purgeNow
      · simp only [hdone, if_false, Bool.false_eq_true, true_and, h.policy]
        exact (h.purged purgeNow).put jobId _
  | jobArtifact now jobId =>
    simp only [JobRegistryState.handle, jobArtifact, h.findOwned now jobId, true_and]
    exact h.purged now

theorem AgreeOn.handles {ownerUser : String} {s t : JobRegistryState Digest}
    (h : AgreeOn ownerUser s t) (calls : List JobCall) :
    Mealy.outputs (JobRegistryState.handle ownerUser) s calls =
        Mealy.outputs (JobRegistryState.handle ownerUser) t calls ∧
      AgreeOn ownerUser (Mealy.final (JobRegistryState.handle ownerUser) s calls)
        (Mealy.final (JobRegistryState.handle ownerUser) t calls) := by
  induction calls generalizing s t with
  | nil => exact ⟨rfl, h⟩
  | cons c calls ih =>
    obtain ⟨hanswer, hnext⟩ := h.handle c
    obtain ⟨hrest, hfinal⟩ := ih hnext
    constructor
    · rw [Mealy.outputs, Mealy.outputs, hanswer, hrest]
    · exact hfinal

/-! ## The records of others -/

/-- A call about a job that is not the caller's purges the registry and finds nothing. -/
theorem handle_of_not_owned {ownerUser : String} {s : JobRegistryState Digest} {c : JobCall}
    (h : s.owned ownerUser c.jobId = none) :
    s.handle ownerUser c = (c.notFound, s.purged c.purgeTime) := by
  have hfind : ∀ now, s.findOwned now ownerUser c.jobId = .error (jobNotFound c.jobId) := by
    intro now
    rw [findOwned_eq, owned_purged, h]
    rfl
  cases c with
  | jobSnapshot now jobId =>
    have hnone : s.findOwned now ownerUser jobId = _ := hfind now
    simp only [handle, jobSnapshot, hnone]
    rfl
  | cancelJobRecord purgeNow now jobId =>
    have hnone : s.findOwned purgeNow ownerUser jobId = _ := hfind purgeNow
    simp only [handle, cancelJobRecord, hnone]
    rfl
  | jobArtifact now jobId =>
    have hnone : s.findOwned now ownerUser jobId = _ := hfind now
    simp only [handle, jobArtifact, hnone]
    rfl

/-- Outside the caller's records a call is its purge. -/
theorem lookup_handle_of_not_owned {ownerUser : String} {s : JobRegistryState Digest}
    {k : String} (h : s.owned ownerUser k = none) (c : JobCall) :
    (s.handle ownerUser c).2.jobs.lookup k = (s.purged c.purgeTime).jobs.lookup k := by
  cases c with
  | jobSnapshot now jobId => rfl
  | jobArtifact now jobId => rfl
  | cancelJobRecord purgeNow now jobId =>
    simp only [handle]
    obtain ⟨result, heq⟩ | ⟨r, hr, howner, -, heq⟩ :=
      s.cancelJobRecord_cases purgeNow now ownerUser jobId
    · rw [heq]
      rfl
    · have hne : k ≠ jobId := by
        rintro rfl
        exact owned_eq_none.mp h r (s.lookup_purged_eq_some.mp hr).1 howner
      rw [heq]
      exact (lookup_put _ _ _ _).trans (if_neg hne)

/-- A record found after a call was there before, or is the caller's. -/
theorem lookup_of_handle {ownerUser : String} {s : JobRegistryState Digest} {c : JobCall}
    {k : String} {r : JobRecord Digest}
    (h : (s.handle ownerUser c).2.jobs.lookup k = some r) :
    s.jobs.lookup k = some r ∨ r.ownerUser = ownerUser := by
  rcases hold : s.owned ownerUser k with _ | old
  · rw [lookup_handle_of_not_owned hold] at h
    exact .inl (s.lookup_purged_eq_some.mp h).1
  · obtain ⟨hlookup, howner⟩ := owned_eq_some.mp hold
    cases c with
    | jobSnapshot now jobId => exact .inl (s.lookup_purged_eq_some.mp h).1
    | jobArtifact now jobId => exact .inl (s.lookup_purged_eq_some.mp h).1
    | cancelJobRecord purgeNow now jobId =>
      simp only [handle] at h
      obtain ⟨result, heq⟩ | ⟨found, -, hfound, -, heq⟩ :=
        s.cancelJobRecord_cases purgeNow now ownerUser jobId
      · rw [heq] at h
        exact .inl (s.lookup_purged_eq_some.mp h).1
      · rw [heq] at h
        dsimp only at h
        rw [lookup_put] at h
        split at h
        · obtain rfl := Option.some.inj h
          exact .inr hfound
        · exact .inl (s.lookup_purged_eq_some.mp h).1

/-! ## The records of one other user -/

section Foreign

variable {ownerUser k : String} {s : JobRegistryState Digest} {r : JobRecord Digest} {c : JobCall}

/-- Somebody else's job is not among the user's records. -/
theorem owned_of_foreign (hk : s.jobs.lookup k = some r) (hne : r.ownerUser ≠ ownerUser) :
    s.owned ownerUser k = none := by
  apply owned_eq_none.mpr
  intro r' hk'
  obtain rfl : r = r' := Option.some.inj (hk.symm.trans hk')
  exact hne

theorem handle_of_foreign (hk : s.jobs.lookup c.jobId = some r) (hne : r.ownerUser ≠ ownerUser) :
    (s.handle ownerUser c).1 =
      (handle ownerUser { jobs := s.jobs.erase c.jobId, policy := s.policy } c).1 := by
  have habsent : owned ownerUser { jobs := s.jobs.erase c.jobId, policy := s.policy } c.jobId =
      none := by
    apply owned_eq_none.mpr
    intro r' hk'
    rw [AList.lookup_erase_eq_ite, if_pos rfl] at hk'
    cases hk'
  rw [handle_of_not_owned (owned_of_foreign hk hne), handle_of_not_owned habsent]

/-- A call leaves somebody else's record to the purge. -/
theorem lookup_handle_of_foreign (hk : s.jobs.lookup k = some r) (hne : r.ownerUser ≠ ownerUser) :
    (s.handle ownerUser c).2.jobs.lookup k = some r ∨
      ((s.handle ownerUser c).2.jobs.lookup k = none ∧ isRetained c.purgeTime r = false) := by
  rw [lookup_handle_of_not_owned (owned_of_foreign hk hne), lookup_purged, hk]
  by_cases hkept : isRetained c.purgeTime r = true
  · left
    rw [Option.filter_some, if_pos hkept]
  · right
    rw [Option.filter_some, if_neg hkept]
    exact ⟨rfl, Bool.eq_false_iff.mpr hkept⟩

end Foreign

/-! ## Isolation -/

/-- Two registries that agree on a user's records answer every sequence of that user's calls
alike and agree afterwards. A call about a job that is somebody else's is answered as if the
job were not there; a call keeps every record of another user, or removes it because its
retention has expired, and makes no new one. -/
theorem jobs_isolated_between_users (ownerUser : String) (s t : JobRegistryState Digest)
    (h : AgreeOn ownerUser s t) :
    (∀ c, (s.handle ownerUser c).1 = (t.handle ownerUser c).1 ∧
      AgreeOn ownerUser (s.handle ownerUser c).2 (t.handle ownerUser c).2) ∧
    (∀ calls, Mealy.outputs (handle ownerUser) s calls = Mealy.outputs (handle ownerUser) t calls ∧
      AgreeOn ownerUser (Mealy.final (handle ownerUser) s calls)
        (Mealy.final (handle ownerUser) t calls)) ∧
    (∀ c r, s.jobs.lookup c.jobId = some r → r.ownerUser ≠ ownerUser →
      (s.handle ownerUser c).1 =
        (handle ownerUser { jobs := s.jobs.erase c.jobId, policy := s.policy } c).1) ∧
    (∀ c k r, s.jobs.lookup k = some r → r.ownerUser ≠ ownerUser →
      (s.handle ownerUser c).2.jobs.lookup k = some r ∨
        ((s.handle ownerUser c).2.jobs.lookup k = none ∧ isRetained c.purgeTime r = false)) ∧
    ∀ c k r, (s.handle ownerUser c).2.jobs.lookup k = some r → r.ownerUser ≠ ownerUser →
      s.jobs.lookup k = some r := by
  refine ⟨h.handle, h.handles, ?_, ?_, ?_⟩
  · intro c r hk hne
    exact handle_of_foreign hk hne
  · intro c k r hk hne
    exact lookup_handle_of_foreign hk hne
  · intro c k r hk hne
    obtain hbefore | howner := lookup_of_handle hk
    · exact hbefore
    · exact absurd howner hne

/-- Bob's calls in a registry where Alice has a job and in one where she has none. -/
theorem jobs_isolated_between_users_two :
    Mealy.outputs (handle "bob")
        (((new ℕ {}).put "a" ⟨"alice", 1, reportExportJob 5 "a" "r" (.json ⟨none, none⟩),
          none, none, none⟩).put "b" ⟨"bob", 2, reportExportJob 5 "b" "r" (.json ⟨none, none⟩),
          none, none, none⟩)
        [.jobSnapshot 6 "a", .cancelJobRecord 7 7 "b", .cancelJobRecord 8 8 "a",
          .jobArtifact 9 "b"] =
      Mealy.outputs (handle "bob")
        ((new ℕ {}).put "b" ⟨"bob", 2, reportExportJob 5 "b" "r" (.json ⟨none, none⟩), none, none,
          none⟩)
        [.jobSnapshot 6 "a", .cancelJobRecord 7 7 "b", .cancelJobRecord 8 8 "a",
          .jobArtifact 9 "b"] := by
  have hagree : AgreeOn "bob" ((new ℕ {}).put "a"
      ⟨"alice", 1, reportExportJob 5 "a" "r" (.json ⟨none, none⟩), none, none, none⟩)
      (new ℕ {}) := by
    constructor
    · rfl
    · intro jobId
      rw [owned_put]
      split
      · rfl
      · rfl
  exact ((jobs_isolated_between_users "bob" _ _ (hagree.put "b" _)).2.1 _).1

end JobRegistryState
end GvmGateway

import GvmGateway.Gvmd.SessionClient

/-!
# Whose responses the calls of a session return

The guard is exclusive. The stream holds one response too many for every call that was
dropped between its write and its read; from the first such call on, every read returns the
response to an earlier command.
-/

namespace GvmGateway
namespace SessionClient

/-- The number of calls that were dropped between their write and their read. -/
def abandoned (c : SessionClient) : ℕ :=
  c.calls.total fun _ call => if call.stage = .dropped true then 1 else 0

/-- The command of the call that awaits its response. -/
def current (c : SessionClient) : List ℕ :=
  match c.holder with
  | none => []
  | some id => if (c.calls.lookup id).map Call.stage = some .written then [id] else []

/-- What holds of a client at any time. -/
structure Inv (c : SessionClient) : Prop where
  nodup : c.waiting.Nodup
  queued : ∀ id ∈ c.waiting, (c.calls.lookup id).map Call.stage = some .waiting
  /-- A call past its wait has the guard. -/
  exclusive : ∀ id call, c.calls.lookup id = some call →
    call.stage = .holding ∨ call.stage = .written → c.holder = some id
  /-- Before the command of the current call, the stream has one for each abandoned call, all
  of calls that are over. -/
  stream : ∃ old, c.responses ++ c.unanswered = old ++ c.current ∧
    old.length = c.abandoned ∧
    ∀ id ∈ old, ∃ call, c.calls.lookup id = some call ∧ call.stage.isOver = true

variable {c c' : SessionClient} {id : ℕ} {call : Call}

/-- A call that moves on changes itself only. -/
theorem lookup_setCall (c : SessionClient) (id j : ℕ) (call : Call) :
    (c.setCall id call).calls.lookup j = if j = id then some call else c.calls.lookup j :=
  AList.lookup_insert_eq_ite _ _ _ _

/-- It is counted as abandoned in its new stage and no longer in its old one. -/
theorem abandoned_setCall {old : Call} (call : Call) (h : c.calls.lookup id = some old) :
    (c.setCall id call).abandoned + (if old.stage = .dropped true then 1 else 0) =
      c.abandoned + if call.stage = .dropped true then 1 else 0 :=
  AList.total_insert_of_lookup (fun _ (call : Call) => if call.stage = .dropped true then 1 else 0)
    call h

/-- A call that moves on without being abandoned. -/
theorem abandoned_setCall_same (call : Call)
    (h : ∀ old, c.calls.lookup id = some old → old.stage ≠ .dropped true)
    (hnew : call.stage ≠ .dropped true) : (c.setCall id call).abandoned = c.abandoned := by
  rcases hid : c.calls.lookup id with _ | old
  · have hsum := AList.total_insert_of_notMem
      (fun _ (call : Call) => if call.stage = .dropped true then 1 else 0) call hid
    rw [if_neg hnew, Nat.zero_add] at hsum
    exact hsum
  · have hsum := abandoned_setCall call hid
    rwa [if_neg hnew, if_neg (h old hid)] at hsum

/-! ## What each step does -/

/-- A call begins under a free number. -/
theorem enter_cases {caller : Caller} (h : c.enter id caller = some c') :
    c.calls.lookup id = none ∧ c' = c.setCall id ⟨caller, .found⟩ := by
  unfold enter at h
  split at h
  · cases h
  · next hfree =>
    cases h
    exact ⟨Option.not_isSome_iff_eq_none.mp hfree, rfl⟩

/-- It waits for the lock, or is refused where all slots are taken. -/
theorem lock_cases (h : c.lock id = some c') :
    ∃ caller, c.calls.lookup id = some ⟨caller, .found⟩ ∧
      (c' = c.setCall id ⟨caller, .saturated⟩ ∨
        c' = { c.setCall id ⟨caller, .waiting⟩ with
          commandSlots := c.commandSlots - 1, waiting := c.waiting ++ [id] }) := by
  unfold lock at h
  split at h
  · next caller hcall =>
    split at h
    · cases h
      exact ⟨caller, hcall, .inl rfl⟩
    · cases h
      exact ⟨caller, hcall, .inr rfl⟩
  · cases h

/-- The lock goes to the first that waits. -/
theorem acquire_cases (h : c.acquire = some c') :
    ∃ id waiting call, c.holder = none ∧ c.waiting = id :: waiting ∧
      c.calls.lookup id = some call ∧
      c' = { c.setCall id { call with stage := .holding } with
        holder := some id, waiting := waiting } := by
  unfold acquire at h
  split at h
  · next id waiting hholder hwaiting =>
    split at h
    · next call hcall =>
      cases h
      exact ⟨id, waiting, call, hholder, hwaiting, hcall, rfl⟩
    · cases h
  · cases h

/-- The holder writes its command. -/
theorem write_cases (h : c.write id = some c') :
    ∃ caller, c.calls.lookup id = some ⟨caller, .holding⟩ ∧
      c' = { c.setCall id ⟨caller, .written⟩ with unanswered := c.unanswered ++ [id] } := by
  unfold write at h
  split at h
  · next caller hcall =>
    cases h
    exact ⟨caller, hcall, rfl⟩
  · cases h

theorem answer_cases (h : c.answer = some c') :
    ∃ j unanswered, c.unanswered = j :: unanswered ∧
      c' = { c with unanswered := unanswered, responses := c.responses ++ [j] } := by
  unfold answer at h
  split at h
  · next j unanswered hlist =>
    cases h
    exact ⟨j, unanswered, hlist, rfl⟩
  · cases h

/-- The holder reads the first response, and frees the lock. -/
theorem read_cases (h : c.read id = some c') :
    ∃ caller response responses, c.calls.lookup id = some ⟨caller, .written⟩ ∧
      c.responses = response :: responses ∧
      c' = { c.release.setCall id ⟨caller, .returned response⟩ with
        responses := responses } := by
  unfold read at h
  split at h
  · next caller response responses hcall hlist =>
    cases h
    exact ⟨caller, response, responses, hcall, hlist, rfl⟩
  · cases h

/-- A call is dropped while it waits, holds the lock, or awaits its response. -/
theorem drop_cases (h : c.drop id = some c') :
    ∃ caller,
      (c.calls.lookup id = some ⟨caller, .waiting⟩ ∧
        c' = { c.setCall id ⟨caller, .dropped false⟩ with
          commandSlots := c.commandSlots + 1, waiting := c.waiting.erase id }) ∨
      (c.calls.lookup id = some ⟨caller, .holding⟩ ∧
        c' = c.release.setCall id ⟨caller, .dropped false⟩) ∨
      (c.calls.lookup id = some ⟨caller, .written⟩ ∧
        c' = c.release.setCall id ⟨caller, .dropped true⟩) := by
  unfold drop at h
  split at h
  · next caller hcall =>
    cases h
    exact ⟨caller, .inl ⟨hcall, rfl⟩⟩
  · next caller hcall =>
    cases h
    exact ⟨caller, .inr (.inl ⟨hcall, rfl⟩)⟩
  · next caller hcall =>
    cases h
    exact ⟨caller, .inr (.inr ⟨hcall, rfl⟩)⟩
  · cases h

/-- A step changes the entry of one call at most, which was not over; only a read lets a call
return. -/
theorem calls_step {op : Op} (h : c.step op = some c') (hc : c.Inv) :
    c'.calls = c.calls ∨ ∃ id call, c'.calls = c.calls.insert id call ∧
      (∀ old, c.calls.lookup id = some old → old.stage.isOver = false) ∧
      ∀ response, call.stage = .returned response → op = .read id := by
  -- a lookup has one value, so one stage that is not over is enough
  have hlive : ∀ {id : ℕ} {call : Call}, c.calls.lookup id = some call →
      call.stage.isOver = false →
      ∀ old, c.calls.lookup id = some old → old.stage.isOver = false := by
    intro id call hcall hstage old hold
    rwa [← Option.some.inj (hcall.symm.trans hold)]
  cases op with
  | enter id caller =>
    rcases enter_cases h with ⟨hfree, rfl⟩
    exact .inr ⟨id, _, rfl, fun old hold => absurd (hfree.symm.trans hold) (by simp), nofun⟩
  | lock id =>
    rcases lock_cases h with ⟨caller, hcall, rfl | rfl⟩ <;>
      exact .inr ⟨id, _, rfl, hlive hcall rfl, nofun⟩
  | acquire =>
    rcases acquire_cases h with ⟨id, waiting, call, -, hwaiting, hcall, rfl⟩
    have hstage := hc.queued id (by simp [hwaiting])
    rw [hcall] at hstage
    refine .inr ⟨id, _, rfl, hlive hcall ?_, nofun⟩
    rw [Option.some.inj hstage]
    rfl
  | write id =>
    rcases write_cases h with ⟨caller, hcall, rfl⟩
    exact .inr ⟨id, _, rfl, hlive hcall rfl, nofun⟩
  | answer =>
    rcases answer_cases h with ⟨j, unanswered, -, rfl⟩
    exact .inl rfl
  | read id =>
    rcases read_cases h with ⟨caller, response, responses, hcall, -, rfl⟩
    exact .inr ⟨id, _, rfl, hlive hcall rfl, fun _ _ => rfl⟩
  | drop id =>
    rcases drop_cases h with ⟨caller, ⟨hcall, rfl⟩ | ⟨hcall, rfl⟩ | ⟨hcall, rfl⟩⟩ <;>
      exact .inr ⟨id, _, rfl, hlive hcall rfl, nofun⟩

/-- A call that is over stays as it is. -/
theorem lookup_step {op : Op} (h : c.step op = some c') (hc : c.Inv)
    (hcall : c.calls.lookup id = some call) (hover : call.stage.isOver = true) :
    c'.calls.lookup id = some call := by
  rcases calls_step h hc with hsame | ⟨j, call', hsame, hlive, -⟩
  · rw [hsame, hcall]
  · rw [hsame, AList.lookup_insert_eq_ite, if_neg]
    · exact hcall
    · rintro rfl
      exact absurd ((hlive call hcall).symm.trans hover) Bool.false_ne_true

/-! ## The invariant -/

/-- Without a holder no command is current. -/
theorem current_of_free (h : c.holder = none) : c.current = [] := by
  unfold current
  rw [h]

theorem current_of_holder (h : c.holder = some id)
    (hstage : (c.calls.lookup id).map Call.stage ≠ some .written) : c.current = [] := by
  unfold current
  rw [h]
  exact if_neg hstage

/-- The call that awaits its response is the current one. -/
theorem Inv.current_of_written (hc : c.Inv) {caller : Caller}
    (h : c.calls.lookup id = some ⟨caller, .written⟩) : c.current = [id] := by
  unfold current
  rw [hc.exclusive id _ h (.inr rfl)]
  simp [h]

/-- The invariant holds of a new client. -/
theorem inv_new : new.Inv := by
  refine ⟨List.nodup_nil, nofun, fun id call h => absurd h (by simp [new]), [], rfl, rfl, nofun⟩

/-- A call that moves between two stages without a command on the stream. -/
theorem current_setCall (call : Call) (hold : (c.calls.lookup id).map Call.stage ≠ some .written)
    (hnew : call.stage ≠ .written) : (c.setCall id call).current = c.current := by
  unfold current
  have hholder : (c.setCall id call).holder = c.holder := rfl
  rw [hholder]
  rcases c.holder with _ | j
  · rfl
  · simp only [lookup_setCall]
    by_cases hj : j = id
    · subst hj
      rw [if_pos rfl, Option.map_some, if_neg (by simpa using hnew), if_neg hold]
    · rw [if_neg hj]

/-- The other calls that wait still do. -/
theorem Inv.queued_setCall (hc : c.Inv) {waiting : List ℕ}
    (hsub : ∀ j ∈ waiting, j ∈ c.waiting ∧ j ≠ id) :
    ∀ j ∈ waiting, ((c.setCall id call).calls.lookup j).map Call.stage = some .waiting := by
  intro j hj
  rw [lookup_setCall, if_neg (hsub j hj).2]
  exact hc.queued j (hsub j hj).1

/-- A call that leaves the lock alone leaves the holder. -/
theorem Inv.exclusive_setCall (hc : c.Inv) (id : ℕ) (call : Call)
    (hnew : call.stage ≠ .holding ∧ call.stage ≠ .written) :
    ∀ j other, (c.setCall id call).calls.lookup j = some other →
      other.stage = .holding ∨ other.stage = .written → c.holder = some j := by
  intro j other hj hstage
  rw [lookup_setCall] at hj
  split at hj
  · rw [← Option.some.inj hj] at hstage
    rcases hstage with h | h
    · exact absurd h hnew.1
    · exact absurd h hnew.2
  · exact hc.exclusive j other hj hstage

/-- Once the call with the guard is over, nobody has it. -/
theorem Inv.free_setCall (hc : c.Inv) {old : Call} (hold : c.calls.lookup id = some old)
    (hguard : old.stage = .holding ∨ old.stage = .written)
    (hnew : call.stage ≠ .holding ∧ call.stage ≠ .written) :
    ∀ j other, (c.setCall id call).calls.lookup j = some other →
      other.stage = .holding ∨ other.stage = .written → none = some j := by
  intro j other hj hstage
  have hholder := hc.exclusive_setCall id call hnew j other hj hstage
  -- another call with the guard would be the holder too
  have hsame : id = j := Option.some.inj ((hc.exclusive id old hold hguard).symm.trans hholder)
  subst hsame
  rw [lookup_setCall, if_pos rfl] at hj
  rw [← Option.some.inj hj] at hstage
  rcases hstage with h | h
  · exact absurd h hnew.1
  · exact absurd h hnew.2

/-- A call that waits is not one that has a guard. -/
theorem Inv.not_waiting (hc : c.Inv) (hcall : c.calls.lookup id = some call)
    (hstage : call.stage ≠ .waiting) : id ∉ c.waiting := by
  intro hmem
  have hwaiting := hc.queued id hmem
  rw [hcall] at hwaiting
  exact hstage (Option.some.inj hwaiting)

/-- The abandoned commands stay where they are. -/
theorem Inv.stream_step {op : Op} (hc : c.Inv) (h : c.step op = some c')
    (hlist : c'.responses ++ c'.unanswered = c.responses ++ c.unanswered)
    (hcurrent : c'.current = c.current) (habandoned : c'.abandoned = c.abandoned) :
    ∃ old, c'.responses ++ c'.unanswered = old ++ c'.current ∧ old.length = c'.abandoned ∧
      ∀ id ∈ old, ∃ call, c'.calls.lookup id = some call ∧ call.stage.isOver = true := by
  -- the callers of abandoned commands are over, and stay so
  rcases hc.stream with ⟨old, hstream, hlength, hover⟩
  refine ⟨old, by rw [hlist, hcurrent, hstream], by rw [habandoned, hlength], ?_⟩
  intro id hid
  rcases hover id hid with ⟨call, hcall, hdone⟩
  exact ⟨call, lookup_step h hc hcall hdone, hdone⟩

/-- A call that waits for nothing goes to another such stage. -/
theorem inv_setCall {op : Op} (hc : c.Inv) (h : c.step op = some (c.setCall id call))
    (hold : ∀ old, c.calls.lookup id = some old → old.stage = .found)
    (hnew : call.stage = .found ∨ call.stage = .saturated) : (c.setCall id call).Inv := by
  have hidle : ∀ {stage : CallStage}, stage ≠ .found → stage ≠ .saturated →
      call.stage ≠ stage := by
    rintro stage h1 h2 rfl
    rcases hnew with hnew | hnew
    · exact h1 hnew
    · exact h2 hnew
  refine ⟨hc.nodup, ?_, hc.exclusive_setCall id call ⟨hidle nofun nofun, hidle nofun nofun⟩, ?_⟩
  · refine hc.queued_setCall fun j hj => ⟨hj, ?_⟩
    rintro rfl
    rcases Option.map_eq_some_iff.mp (hc.queued j hj) with ⟨old, hlookup, hstage⟩
    exact absurd (hstage.symm.trans (hold old hlookup)) (by simp)
  · refine hc.stream_step h rfl (current_setCall call ?_ (hidle nofun nofun))
      (abandoned_setCall_same call (fun old hlookup => ?_) (hidle nofun nofun))
    · rintro hwritten
      rcases Option.map_eq_some_iff.mp hwritten with ⟨old, hlookup, hstage⟩
      exact absurd (hstage.symm.trans (hold old hlookup)) (by simp)
    · rw [hold old hlookup]
      simp

/-- A call that begins keeps the invariant. -/
theorem inv_enter {caller : Caller} (hc : c.Inv) (h : c.enter id caller = some c') :
    c'.Inv := by
  have hstep : c.step (.enter id caller) = some c' := h
  rcases enter_cases h with ⟨hfree, rfl⟩
  exact inv_setCall hc hstep (by simp [hfree]) (.inl rfl)

theorem inv_lock (hc : c.Inv) (h : c.lock id = some c') : c'.Inv := by
  have hstep : c.step (.lock id) = some c' := h
  rcases lock_cases h with ⟨caller, hcall, rfl | rfl⟩
  · exact inv_setCall hc hstep (by simp [hcall]) (.inr rfl)
  · have hnotin := hc.not_waiting hcall (by simp)
    refine ⟨?_, ?_, hc.exclusive_setCall id ⟨caller, .waiting⟩ (by simp), ?_⟩
    · exact hc.nodup.append (List.nodup_singleton id) (List.disjoint_singleton.mpr hnotin)
    · intro j hj
      rcases List.mem_append.mp hj with hj | hj
      · refine hc.queued_setCall (fun k hk => ⟨hk, ?_⟩) j hj
        rintro rfl
        exact hnotin hk
      · obtain rfl := List.mem_singleton.mp hj
        show ((c.setCall j ⟨caller, .waiting⟩).calls.lookup j).map Call.stage = _
        rw [lookup_setCall, if_pos rfl]
        rfl
    · have hcurrent : (c.setCall id ⟨caller, .waiting⟩).current = c.current :=
        current_setCall _ (by simp [hcall]) (by simp)
      exact hc.stream_step hstep rfl hcurrent
        (abandoned_setCall_same ⟨caller, .waiting⟩ (by simp [hcall]) (by simp))

theorem inv_acquire (hc : c.Inv) (h : c.acquire = some c') : c'.Inv := by
  have hstep : c.step .acquire = some c' := h
  rcases acquire_cases h with ⟨id, waiting, call, hholder, hwaiting, hcall, rfl⟩
  have hnodup := hc.nodup
  rw [hwaiting, List.nodup_cons] at hnodup
  have hstage : call.stage = .waiting := by
    have hqueued := hc.queued id (by simp [hwaiting])
    rw [hcall] at hqueued
    exact Option.some.inj hqueued
  refine ⟨hnodup.2, ?_, ?_, ?_⟩
  · refine hc.queued_setCall fun j hj => ⟨by simp [hwaiting, hj], ?_⟩
    rintro rfl
    exact hnodup.1 hj
  · intro j other hj hguard
    rw [lookup_setCall] at hj
    split at hj
    · next hsame => rw [hsame]
    -- the lock was free, so no other call was past it
    · have hother := hc.exclusive j other hj hguard
      exact absurd (hholder.symm.trans hother) (by simp)
  · have hcurrent : c.current = [] := current_of_free hholder
    refine hc.stream_step hstep rfl ?_ ?_
    · rw [hcurrent]
      refine current_of_holder rfl ?_
      show ((c.setCall id { call with stage := .holding }).calls.lookup id).map Call.stage ≠ _
      rw [lookup_setCall, if_pos rfl]
      simp
    · exact abandoned_setCall_same { call with stage := .holding }
        (by simp [hcall, hstage]) (by simp)

theorem inv_write (hc : c.Inv) (h : c.write id = some c') : c'.Inv := by
  have hstep : c.step (.write id) = some c' := h
  rcases write_cases h with ⟨caller, hcall, rfl⟩
  have hholder := hc.exclusive id _ hcall (.inl rfl)
  have hnotin := hc.not_waiting hcall (by simp)
  refine ⟨hc.nodup, ?_, ?_, ?_⟩
  · exact hc.queued_setCall fun j hj => ⟨hj, fun hsame => hnotin (hsame ▸ hj)⟩
  · intro j other hj hguard
    rw [lookup_setCall] at hj
    split at hj
    · next hsame =>
      rw [hsame]
      exact hholder
    · exact hc.exclusive j other hj hguard
  · rcases hc.stream with ⟨old, hstream, hlength, hover⟩
    have hcurrent : c.current = [] := current_of_holder hholder (by simp [hcall])
    rw [hcurrent, List.append_nil] at hstream
    have habandoned : (c.setCall id ⟨caller, .written⟩).abandoned = c.abandoned :=
      abandoned_setCall_same _ (by simp [hcall]) (by simp)
    refine ⟨old, ?_, ?_, fun j hj => ?_⟩
    -- the writer holds the lock, so its command is the one in flight
    · have hnew : current { c.setCall id ⟨caller, .written⟩ with
          unanswered := c.unanswered ++ [id] } = [id] := by
        unfold current
        show (match c.holder with | none => [] | some j => _) = [id]
        rw [hholder]
        simp [lookup_setCall]
      rw [hnew, ← hstream]
      exact (List.append_assoc _ _ _).symm
    · exact hlength.trans habandoned.symm
    · rcases hover j hj with ⟨call, hj, hdone⟩
      exact ⟨call, lookup_step hstep hc hj hdone, hdone⟩

theorem inv_answer (hc : c.Inv) (h : c.answer = some c') : c'.Inv := by
  have hstep : c.step .answer = some c' := h
  rcases answer_cases h with ⟨j, unanswered, hlist, rfl⟩
  refine ⟨hc.nodup, hc.queued, hc.exclusive, hc.stream_step hstep ?_ rfl rfl⟩
  rw [hlist]
  simp

/-- The call that awaited its response is over, and nobody has the guard. -/
theorem inv_over {caller : Caller} {stage : CallStage} {responses : List ℕ} {op : Op}
    (hc : c.Inv) (hcall : c.calls.lookup id = some ⟨caller, .written⟩)
    (hstage : stage.isOver = true)
    (h : c.step op =
      some { c.release.setCall id ⟨caller, stage⟩ with responses := responses })
    (hstream : ∃ old, responses ++ c.unanswered = old ∧
      old.length = c.abandoned + (if stage = .dropped true then 1 else 0) ∧
      ∀ j ∈ old, j = id ∨ ∃ call, c.calls.lookup j = some call ∧ call.stage.isOver = true) :
    Inv { c.release.setCall id ⟨caller, stage⟩ with responses := responses } := by
  have hnotin := hc.not_waiting hcall (by simp)
  have hguard : stage ≠ .holding ∧ stage ≠ .written := by
    constructor <;> rintro rfl <;> exact absurd hstage Bool.false_ne_true
  refine ⟨hc.nodup, ?_, hc.free_setCall hcall (.inr rfl) hguard, ?_⟩
  · exact hc.queued_setCall fun j hj => ⟨hj, fun hsame => hnotin (hsame ▸ hj)⟩
  · rcases hstream with ⟨old, hlist, hlength, hover⟩
    have habandoned := abandoned_setCall (c := c.release) ⟨caller, stage⟩ hcall
    have hsame : c.release.abandoned = c.abandoned := rfl
    refine ⟨old, ?_, ?_, fun j hj => ?_⟩
    · rw [current_of_free rfl, List.append_nil]
      exact hlist
    · rw [hlength]
      simp only [reduceCtorEq, if_false, Nat.add_zero, hsame] at habandoned
      exact habandoned.symm
    · rcases hover j hj with rfl | ⟨call, hcall, hdone⟩
      · exact ⟨⟨caller, stage⟩, (lookup_setCall c.release j j _).trans (if_pos rfl), hstage⟩
      · exact ⟨call, lookup_step h hc hcall hdone, hdone⟩

theorem inv_read (hc : c.Inv) (h : c.read id = some c') : c'.Inv := by
  have hstep : c.step (.read id) = some c' := h
  rcases read_cases h with ⟨caller, response, responses, hcall, hlist, rfl⟩
  rcases hc.stream with ⟨old, hstream, hlength, hover⟩
  rw [hc.current_of_written hcall, hlist] at hstream
  refine inv_over hc hcall rfl hstep ⟨_, rfl, ?_, ?_⟩
  · have hcount := congrArg List.length hstream
    simp only [List.length_append, List.length_cons, List.length_nil] at hcount ⊢
    simp only [reduceCtorEq, if_false]
    omega
  · -- what is left is the end of the stream as it was
    intro j hj
    have hmem : j ∈ old ++ [id] := by
      rw [← hstream]
      exact List.mem_cons_of_mem _ hj
    rcases List.mem_append.mp hmem with hold | hsame
    · exact .inr (hover j hold)
    · exact .inl (List.mem_singleton.mp hsame)

theorem inv_drop (hc : c.Inv) (h : c.drop id = some c') : c'.Inv := by
  have hstep : c.step (.drop id) = some c' := h
  rcases drop_cases h with ⟨caller, ⟨hcall, rfl⟩ | ⟨hcall, rfl⟩ | ⟨hcall, rfl⟩⟩
  · refine ⟨hc.nodup.erase id, ?_, hc.exclusive_setCall id _ (by simp), ?_⟩
    · refine hc.queued_setCall fun j hj => ?_
      rw [hc.nodup.mem_erase_iff] at hj
      exact ⟨hj.2, hj.1⟩
    · have hcurrent : (c.setCall id ⟨caller, .dropped false⟩).current = c.current :=
        current_setCall _ (by simp [hcall]) (by simp)
      exact hc.stream_step hstep rfl hcurrent
        (abandoned_setCall_same ⟨caller, .dropped false⟩ (by simp [hcall]) (by simp))
  · have hnotin := hc.not_waiting hcall (by simp)
    have hholder := hc.exclusive id _ hcall (.inl rfl)
    have hcurrent : c.current = [] := current_of_holder hholder (by simp [hcall])
    refine ⟨hc.nodup, ?_, hc.free_setCall hcall (.inl rfl) (by simp), ?_⟩
    · exact hc.queued_setCall fun j hj => ⟨hj, fun hsame => hnotin (hsame ▸ hj)⟩
    · refine hc.stream_step hstep rfl ?_ (abandoned_setCall_same (c := c.release)
        ⟨caller, .dropped false⟩ (fun old hold => ?_) (by simp))
      · rw [hcurrent]
        exact current_of_free rfl
      · rw [← Option.some.inj (hcall.symm.trans hold)]
        simp
  -- dropped after its write: its answer joins those left over
  · rcases hc.stream with ⟨old, hstream, hlength, hover⟩
    rw [hc.current_of_written hcall] at hstream
    refine inv_over hc hcall rfl hstep ⟨_, hstream, by simp [hlength], fun j hj => ?_⟩
    rcases List.mem_append.mp hj with hold | hsame
    · exact .inr (hover j hold)
    · exact .inl (List.mem_singleton.mp hsame)

theorem inv_step {op : Op} (hc : c.Inv) (h : c.step op = some c') : c'.Inv := by
  cases op with
  | enter id caller => exact inv_enter hc h
  | lock id => exact inv_lock hc h
  | acquire => exact inv_acquire hc h
  | write id => exact inv_write hc h
  | answer => exact inv_answer hc h
  | read id => exact inv_read hc h
  | drop id => exact inv_drop hc h

/-! ## Responses -/

/-- Every call that has returned got the response to its own command. -/
def OwnResponses (c : SessionClient) : Prop :=
  ∀ id call response, c.calls.lookup id = some call → call.stage = .returned response →
    response = id

/-- A read returns the caller's own response iff no call has been abandoned before. -/
theorem read_own_iff {caller : Caller} {response : ℕ} {responses : List ℕ} (hc : c.Inv)
    (hcall : c.calls.lookup id = some ⟨caller, .written⟩)
    (hlist : c.responses = response :: responses) : response = id ↔ c.abandoned = 0 := by
  rcases hc.stream with ⟨old, hstream, hlength, hover⟩
  rw [hc.current_of_written hcall, hlist] at hstream
  rcases old with _ | ⟨j, old⟩
  · rw [List.nil_append, List.cons_append, List.cons.injEq] at hstream
    exact ⟨fun _ => hlength.symm, fun _ => hstream.1⟩
  · -- the oldest abandoned command is in front
    rw [List.cons_append, List.cons_append, List.cons.injEq] at hstream
    rcases hover j (by simp) with ⟨call, hj, hdone⟩
    constructor
    · intro hsame
      rw [hstream.1] at hsame
      subst hsame
      rw [← Option.some.inj (hcall.symm.trans hj)] at hdone
      exact absurd hdone Bool.false_ne_true
    · intro hnone
      rw [hnone] at hlength
      exact absurd hlength (by simp)

/-- A wrong response stays on record. -/
theorem ownResponses_of_step {op : Op} (hc : c.Inv) (h : c.step op = some c')
    (hc' : c'.OwnResponses) : c.OwnResponses := by
  intro id call response hcall hreturned
  exact hc' id call response (lookup_step h hc hcall (by rw [hreturned]; rfl)) hreturned

/-- As long as no call has been abandoned, a call that returns gets its own response. -/
theorem ownResponses_step {op : Op} (hc : c.Inv) (hown : c.OwnResponses)
    (hread : ∀ id, op = .read id → c.abandoned = 0) (h : c.step op = some c') :
    c'.OwnResponses := by
  intro id call response hcall hreturned
  rcases calls_step h hc with hsame | ⟨j, call', hsame, -, hop⟩
  · exact hown id call response (hsame ▸ hcall) hreturned
  · rw [hsame, AList.lookup_insert_eq_ite] at hcall
    split at hcall
    · next hid =>
      obtain rfl := Option.some.inj hcall
      obtain rfl := hop response hreturned
      subst hid
      rcases read_cases h with ⟨caller, response', responses, hold, hlist, rfl⟩
      have hentry := (lookup_setCall c.release id id ⟨caller, .returned response'⟩).trans
        (if_pos rfl)
      have hcalls : (c.release.setCall id ⟨caller, .returned response'⟩).calls =
        c.calls.insert id call' := hsame
      rw [hcalls, AList.lookup_insert] at hentry
      rw [Option.some.inj hentry] at hreturned
      obtain rfl := CallStage.returned.inj hreturned
      exact (read_own_iff hc hold hlist).mpr (hread id rfl)
    · exact hown id call response hcall hreturned

/-- A read after an abandoned call returns a wrong response. -/
theorem not_ownResponses_read (hc : c.Inv) (habandoned : c.abandoned ≠ 0)
    (h : c.read id = some c') : ¬ c'.OwnResponses := by
  rcases read_cases h with ⟨caller, response, responses, hcall, hlist, rfl⟩
  intro hown
  have hsame := hown id ⟨caller, .returned response⟩ response
    ((lookup_setCall c.release id id _).trans (if_pos rfl)) rfl
  exact habandoned ((read_own_iff hc hcall hlist).mp hsame)

end SessionClient
end GvmGateway

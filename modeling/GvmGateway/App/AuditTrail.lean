import GvmGateway.App.Service
import GvmGateway.App.JobIsolation
import GvmGateway.App.SessionOwners

/-!
# What the audit log says

`Service.Move` lists the steps of commands. From it follows, for every order of the steps of
any number of commands: each command's lines in the log are determined by how far it has come,
and a line names nobody but the user who logged in under the session's token.
-/

namespace GvmGateway

open SessionTokenDigest SessionManager

/-- The line of a session that is drained names whoever drains it, not its user. -/
def AuditLine.isCleanup {Digest : Type} (line : AuditLine Digest) : Bool :=
  line.event = "session.expired" && line.outcome = "cleanup"

namespace Service

variable {Digest : Type} [DecidableEq Digest] [SessionTokenDigest Digest]

/-! ## Steps -/

/-- The steps of the service. -/
inductive Move (s : Service Digest) : Action Digest → Service Digest → Prop where
  | gateway {a : Gateway.Action Digest} {g : Gateway Digest} (free : a.isCommand = false)
      (moved : s.gateway.step a = some g) :
      Move s (.gateway a)
        { s with
          gateway := g
          users := s.usersAfter g a
          removed := s.removedAfter a
          audit := s.audit ++ (s.sessionLines a).map fun line => (none, line) }
  | executed {id : ℕ} {token : String} {operation : Operation}
      (free : s.calls.lookup id = none) :
      Move s (.execute id token operation)
        ((s.setCall id ⟨token, operation, .started⟩).write id
          ((ExecuteCall.mk token operation .started).line "start"
            ((s.usernameForAudit token).getD unknownUser) none))
  | touched {id : ℕ} {c : ExecuteCall} {g : Gateway Digest} {session : Session}
      (call : s.calls.lookup id = some c) (stage : c.stage = .started)
      (moved : s.gateway.step (c.operation.touch id c.token) = some g)
      (live : (s.gateway.sessions.touch s.gateway.now c.token).1 = .ok session) :
      Move s (.touchSession id) ((s.setGateway g).setCall id (c.atStage (.running session)))
  | touchFailed {id : ℕ} {c : ExecuteCall} {g : Gateway Digest} {err : GatewayError}
      (call : s.calls.lookup id = some c) (stage : c.stage = .started)
      (moved : s.gateway.step (c.operation.touch id c.token) = some g)
      (dead : (s.gateway.sessions.touch s.gateway.now c.token).1 = .error err) :
      Move s (.touchSession id) ((s.setGateway g).setCall id (c.atStage (.refused err)))
  | refused {id : ℕ} {c : ExecuteCall} {err : GatewayError}
      (call : s.calls.lookup id = some c) (stage : c.stage = .refused err) :
      Move s (.refuse id)
        ((s.setCall id (c.atStage (.rejected err))).write id
          (.touchFailed ((s.usernameForAudit c.token).getD unknownUser) (fromToken c.token) err))
  | answered {id : ℕ} {c : ExecuteCall} {session : Session} {result : Except GatewayError Unit}
      (call : s.calls.lookup id = some c) (stage : c.stage = .running session) :
      Move s (.answer id result) (s.finish id c session.user result)
  | answeredJob {id : ℕ} {c : ExecuteCall} {session : Session} {a : Gateway.Action Digest}
      {g : Gateway Digest} (call : s.calls.lookup id = some c)
      (stage : c.stage = .running session)
      (job : c.operation.jobStep session.user = some a) (moved : s.gateway.step a = some g) :
      Move s (.answerJob id) ((s.setGateway g).finish id c session.user
        (c.operation.jobResult s.gateway session.user))
  | droppedCommand {id : ℕ} {c : ExecuteCall} {session : Session}
      (call : s.calls.lookup id = some c) (stage : c.stage = .running session) :
      Move s (.dropCommand id) (s.setCall id (c.atStage .dropped))

variable {s t : Service Digest} {id : ℕ}

/-- The first step of a command. -/
theorem touchSession_move (h : s.touchSession id = some t) : s.Move (.touchSession id) t := by
  obtain ⟨c, hcall, h⟩ := Option.bind_eq_some_iff.mp h
  obtain ⟨hstage, h⟩ := Option.ite_none_right_eq_some.mp h
  obtain ⟨g, hmoved, h⟩ := Option.map_eq_some_iff.mp h
  split at h
  · next session hlive =>
    rw [← h]
    exact .touched hcall hstage hmoved hlive
  · next err hdead =>
    rw [← h]
    exact .touchFailed hcall hstage hmoved hdead

/-- A command without a session is refused, and recorded. -/
theorem refuse_move (h : s.refuse id = some t) : s.Move (.refuse id) t := by
  obtain ⟨c, hcall, h⟩ := Option.bind_eq_some_iff.mp h
  split at h
  · next err hstage =>
    obtain rfl := Option.some.inj h
    exact .refused hcall hstage
  · cases h

/-- The answer of gvmd ends a command. -/
theorem answer_move {result : Except GatewayError Unit} (h : s.answer id result = some t) :
    s.Move (.answer id result) t := by
  obtain ⟨c, hcall, h⟩ := Option.bind_eq_some_iff.mp h
  split at h
  · next session hstage _ =>
    obtain rfl := Option.some.inj h
    exact .answered hcall hstage
  · cases h

/-- A command on a job is answered by the registry. -/
theorem answerJob_move (h : s.answerJob id = some t) : s.Move (.answerJob id) t := by
  obtain ⟨c, hcall, h⟩ := Option.bind_eq_some_iff.mp h
  split at h
  · next session hstage =>
    obtain ⟨a, hjob, h⟩ := Option.bind_eq_some_iff.mp h
    obtain ⟨g, hmoved, rfl⟩ := Option.map_eq_some_iff.mp h
    exact .answeredJob hcall hstage hjob hmoved
  · cases h

/-- A command is dropped with its request. -/
theorem dropCommand_move (h : s.dropCommand id = some t) : s.Move (.dropCommand id) t := by
  obtain ⟨c, hcall, h⟩ := Option.bind_eq_some_iff.mp h
  split at h
  · next session hstage _ =>
    obtain rfl := Option.some.inj h
    exact .droppedCommand hcall hstage
  · cases h

/-- Every step is one of the list. -/
theorem move_of_step {a : Action Digest} (h : s.step a = some t) : s.Move a t := by
  cases a with
  | gateway a =>
    obtain ⟨hfree, h⟩ := Option.ite_none_left_eq_some.mp h
    obtain ⟨g, hmoved, rfl⟩ := Option.map_eq_some_iff.mp h
    exact .gateway (Bool.eq_false_iff.mpr hfree) hmoved
  | execute id token operation =>
    obtain ⟨hfree, h⟩ := Option.ite_none_left_eq_some.mp h
    obtain rfl := Option.some.inj h
    exact .executed (by simpa using hfree)
  | touchSession id => exact touchSession_move h
  | refuse id => exact refuse_move h
  | answer id result => exact answer_move h
  | answerJob id => exact answerJob_move h
  | dropCommand id => exact dropCommand_move h

/-! ## Users -/

/-- The name is the user who logged in under the digest, or stands for nobody. -/
def Named (s : Service Digest) (d : Digest) (name : String) : Prop :=
  name = unknownUser ∨ s.users.lookup d = some name

/-- What the service keeps about a session, and what it has written about it, names the user who
logged in. -/
structure Owned (s : Service Digest) : Prop where
  issued : ∀ d, (s.users.lookup d).isSome = (s.gateway.creates.lookup d).isSome
  gateway : ∀ d user, s.gateway.Attributed d user → s.users.lookup d = some user
  running : ∀ id c session, s.calls.lookup id = some c → c.stage = .running session →
    s.users.lookup (fromToken c.token) = some session.user
  removed : ∀ id c, s.gateway.deletes.lookup id = some c →
    ∃ user, s.removed.lookup id = some user ∧ s.users.lookup c.session = some user
  audit : ∀ i line, (i, line) ∈ s.audit → line.isCleanup = false →
    s.Named line.session line.username

/-- At the start no session has a user, and no line has been written. -/
theorem owned_new (now idle : ℕ) (limits : SessionLimits) (policy : JobPolicy) :
    (new Digest now idle limits policy).Owned where
  issued _ := rfl
  gateway d user h := by
    cases h with
    | session found | check found | task found | record found => cases found
  running _ _ _ h := by cases h
  removed _ _ h := by cases h
  audit _ _ h := by cases h

omit [SessionTokenDigest Digest] in
/-- The user that the registry knows is one that the session may be named by. -/
theorem named_userOf (s : Service Digest) (d : Digest) : s.Named d (s.userOf d) := by
  unfold userOf Named
  rcases s.users.lookup d with _ | user
  · exact .inl rfl
  · exact .inr rfl

/-- The name in an audit line is the user of the session, or unknown. -/
theorem Owned.usernameForAudit (hs : s.Owned) (token : String) :
    s.Named (fromToken token) ((s.usernameForAudit token).getD unknownUser) := by
  unfold Service.usernameForAudit SessionManager.get
  rcases hfound : s.gateway.sessions.inner.lookup (fromToken token) with _ | stored
  · exact .inl rfl
  · exact .inr (hs.gateway _ _ (.session hfound rfl))

/-! ### Updates -/

/-- A call that runs for the user of its session keeps the attribution. -/
theorem Owned.setCall {c : ExecuteCall} (hs : s.Owned)
    (hc : ∀ session, c.stage = .running session →
      s.users.lookup (fromToken c.token) = some session.user) :
    (s.setCall id c).Owned where
  issued := hs.issued
  gateway := hs.gateway
  removed := hs.removed
  audit := hs.audit
  running := by
    intro id' c' session hcall
    have hall := AList.forall_lookup_insert (m := s.calls) (k := id) (v := c)
      (P := fun _ c => ∀ session, c.stage = .running session →
        s.users.lookup (fromToken c.token) = some session.user)
      hc fun id' c' _ hold session => hs.running id' c' session hold
    exact hall id' c' hcall session

theorem Owned.write {line : AuditLine Digest} (hs : s.Owned)
    (hline : s.Named line.session line.username) : (s.write id line).Owned where
  issued := hs.issued
  gateway := hs.gateway
  running := hs.running
  removed := hs.removed
  audit := by
    intro i line' hmem
    rcases List.mem_append.mp hmem with hold | hnew
    · exact hs.audit i line' hold
    · obtain ⟨rfl, rfl⟩ := Prod.mk.inj (List.mem_singleton.mp hnew)
      exact fun _ => hline

/-- A step of the gateway that a command makes is no login and no deletion. -/
theorem Owned.setGateway {a : Gateway.Action Digest} {g : Gateway Digest} (hs : s.Owned)
    (hcommand : a.isCommand = true) (h : s.gateway.step a = some g) :
    (s.setGateway g).Owned where
  running := hs.running
  audit := hs.audit
  issued := by
    intro d
    rcases Gateway.issued_step h d with hsame | ⟨⟨token, user, order, rfl, -⟩, -⟩
    · exact (hs.issued d).trans hsame.symm
    · cases hcommand
  gateway := by
    intro d user hd
    rcases Gateway.attributed_step h hd with hold | ⟨token, order, rfl, -⟩
    · exact hs.gateway d user hold
    · cases hcommand
  removed := by
    intro id c hc
    rcases Gateway.deletes_origin h hc with ⟨c₀, hc₀, hsession, -⟩ | ⟨token, rfl, -⟩
    · exact hsession ▸ hs.removed id c₀ hc₀
    · cases hcommand

/-! ### The gateway's own steps -/

/-- A name, once given, stays. -/
theorem Owned.lookup_usersAfter {a : Gateway.Action Digest} {g : Gateway Digest} {d : Digest}
    {user : String} (hs : s.Owned) (h : s.gateway.step a = some g)
    (hd : s.users.lookup d = some user) : (s.usersAfter g a).lookup d = some user := by
  unfold usersAfter
  split
  · next token name order =>
    split
    · next hissued =>
      rw [AList.lookup_insert_eq_ite, if_neg]
      · exact hd
      · -- its token was issued before
        rintro rfl
        have hold := hs.issued (fromToken token)
        rw [hd] at hold
        have hfresh := (Option.ite_none_left_eq_some.mp h).1
        exact hfresh hold.symm
    · exact hd
  · exact hd

/-- A name of a session before a gateway step is unknown or the user after it. -/
theorem Owned.named_usersAfter {a : Gateway.Action Digest} {g : Gateway Digest} {d : Digest}
    {name : String} (hs : s.Owned) (h : s.gateway.step a = some g) (hd : s.Named d name) :
    name = unknownUser ∨ (s.usersAfter g a).lookup d = some name := by
  rcases hd with hunknown | hknown
  · exact .inl hunknown
  · exact .inr (hs.lookup_usersAfter h hknown)

/-- The lines of the lifecycle calls name the session's user, if they are not about a drained
session. -/
theorem Owned.sessionLines {a : Gateway.Action Digest} {line : AuditLine Digest} (hs : s.Owned)
    (hline : line ∈ s.sessionLines a) (hown : line.isCleanup = false) :
    s.Named line.session line.username := by
  unfold Service.sessionLines at hline
  split at hline
  · next token =>
    dsimp only at hline
    split at hline
    · rw [List.mem_singleton.mp hline] at hown
      cases hown
    · rw [List.mem_singleton.mp hline]
      exact s.named_userOf _
    · rw [List.mem_singleton.mp hline]
      exact s.named_userOf _
    · cases hline
  · split at hline
    · rw [List.mem_singleton.mp hline] at hown
      cases hown
    · cases hline
  · split at hline
    · rw [List.mem_singleton.mp hline]
      exact .inl rfl
    · cases hline
  · next id =>
    split at hline
    · next d hdelete =>
      rw [List.mem_singleton.mp hline]
      -- the session is gone by now, and `removed` has its user
      obtain ⟨user, hremoved, huser⟩ := hs.removed id _ hdelete
      rw [hremoved]
      exact .inr huser
    · cases hline
  · cases hline

/-- A login that is admitted adds its name. -/
theorem usersAfter_login {token user : String} {order : List Digest} {g : Gateway Digest}
    (h : (g.creates.lookup (fromToken token)).isSome = true) :
    s.usersAfter g (.createSession token user order) =
      s.users.insert (fromToken token) user := by
  unfold usersAfter
  exact if_pos h

/-- After it the sessions that were issued are those with a user. -/
theorem Owned.issued_usersAfter {a : Gateway.Action Digest} {g : Gateway Digest} (hs : s.Owned)
    (h : s.gateway.step a = some g) (d : Digest) :
    ((s.usersAfter g a).lookup d).isSome = (g.creates.lookup d).isSome := by
  rcases Gateway.issued_step h d with hsame | ⟨⟨token, user, order, rfl, rfl⟩, -, hissued⟩
  · rw [hsame, ← hs.issued d]
    unfold usersAfter
    split
    · next token user order =>
      split
      · next hnew =>
        rw [AList.lookup_insert_eq_ite, if_neg]
        -- a token that was there before admits no login
        rintro rfl
        have hfresh := (Option.ite_none_left_eq_some.mp h).1
        exact hfresh (hsame ▸ hnew)
      · rfl
    · rfl
  · rw [usersAfter_login hissued, AList.lookup_insert, hissued]
    rfl

/-- A session that is removed keeps its user. -/
theorem Owned.removed_removedAfter {a : Gateway.Action Digest} {g : Gateway Digest}
    {c : DeleteCall Digest} (hs : s.Owned) (h : s.gateway.step a = some g)
    (hc : g.deletes.lookup id = some c) : ∃ user, (s.removedAfter a).lookup id = some user ∧
      (s.usersAfter g a).lookup c.session = some user := by
  rcases Gateway.deletes_origin h hc with ⟨c₀, hc₀, hsession, -⟩ | ⟨token, rfl, rfl⟩
  · -- the deletion is an old one
    obtain ⟨user, hremoved, huser⟩ := hs.removed id c₀ hc₀
    refine ⟨user, ?_, hsession ▸ hs.lookup_usersAfter h huser⟩
    unfold removedAfter
    split
    · next id' token =>
      split
      · exact hremoved
      · rw [AList.lookup_insert_eq_ite, if_neg]
        · exact hremoved
        · rintro rfl
          have hfree := (Option.ite_none_left_eq_some.mp h).1
          rw [hc₀] at hfree
          exact hfree rfl
    · exact hremoved
  · -- the step is its first
    obtain ⟨hfree, hdelete⟩ := Option.ite_none_left_eq_some.mp h
    unfold SessionManager.remove at hdelete
    rcases hfound : s.gateway.sessions.inner.lookup (fromToken token) with _ | stored
    · rw [hfound] at hdelete
      obtain rfl := Option.some.inj hdelete
      have hold : s.gateway.deletes.lookup id = some _ := hc
      rw [hold] at hfree
      exact absurd rfl hfree
    · refine ⟨stored.user, ?_, hs.gateway _ _ (.session hfound rfl)⟩
      have hafter : s.removedAfter (.deleteSession id token) =
          s.removed.insert id stored.user := by
        rw [removedAfter, hfound]
      rw [hafter]
      exact AList.lookup_insert s.removed

/-- A gateway step keeps the attribution. -/
theorem Owned.gatewayStep {a : Gateway.Action Digest} {g : Gateway Digest} (hs : s.Owned)
    (h : s.gateway.step a = some g) :
    Owned { s with
      gateway := g
      users := s.usersAfter g a
      removed := s.removedAfter a
      audit := s.audit ++ (s.sessionLines a).map fun line => (none, line) } where
  issued := hs.issued_usersAfter h
  removed _ _ hc := hs.removed_removedAfter h hc
  running id c session hcall hstage :=
    hs.lookup_usersAfter h (hs.running id c session hcall hstage)
  gateway := by
    intro d user hd
    rcases Gateway.attributed_step h hd with hold | ⟨token, order, rfl, rfl, hissued⟩
    · exact hs.lookup_usersAfter h (hs.gateway d user hold)
    · show (s.usersAfter g _).lookup _ = _
      rw [usersAfter_login hissued, AList.lookup_insert]
  audit := by
    intro i line hmem hown
    apply hs.named_usersAfter h
    rcases List.mem_append.mp hmem with hold | hnew
    · exact hs.audit i line hold hown
    · obtain ⟨line', hline, heq⟩ := List.mem_map.mp hnew
      obtain ⟨-, rfl⟩ := Prod.mk.inj heq
      exact hs.sessionLines hline hown

/-! ### Runs -/

omit [DecidableEq Digest] [SessionTokenDigest Digest] in
/-- The gateway steps of a command are not those of the background. -/
theorem isCommand_touch (o : Operation) (id : ℕ) (token : String) :
    (o.touch id token : Gateway.Action Digest).isCommand = true := by
  cases o <;> rfl

omit [DecidableEq Digest] [SessionTokenDigest Digest] in
theorem isCommand_jobStep {o : Operation} {user : String} {a : Gateway.Action Digest}
    (h : o.jobStep user = some a) : a.isCommand = true := by
  cases o with
  | backend | createReportExport => cases h
  | getJob | cancelJob | downloadJobResult =>
    obtain rfl := Option.some.inj h
    rfl

/-- The end of a command in its session. -/
theorem Owned.finish {c : ExecuteCall} {user : String} {result : Except GatewayError Unit}
    (hs : s.Owned) (huser : s.users.lookup (fromToken c.token) = some user) :
    (s.finish id c user result).Owned := by
  have hstage : (s.setCall id (c.atStage (.returned result))).Owned :=
    hs.setCall fun session h => absurd h (by simp [ExecuteCall.atStage])
  apply hstage.write
  cases result with
  | ok => exact .inr huser
  | error => exact .inr huser

/-- Every step keeps the attribution. -/
theorem owned_step {a : Action Digest} (hs : s.Owned) (h : s.step a = some t) : t.Owned := by
  cases move_of_step h with
  | gateway free moved => exact hs.gatewayStep moved
  | @executed id token operation =>
    have hcall : (s.setCall id ⟨token, operation, .started⟩).Owned :=
      hs.setCall fun _ hstage => by cases hstage
    exact hcall.write (hs.usernameForAudit token)
  | @touched id c g session call stage moved live =>
    apply (hs.setGateway (isCommand_touch _ _ _) moved).setCall
    intro session' hstage
    obtain rfl : session = session' := ExecuteStage.running.inj hstage
    obtain ⟨stored, hfound, -, rfl, -⟩ := touch_eq_ok live
    exact hs.gateway _ _ (.session hfound rfl)
  | touchFailed call stage moved =>
    exact (hs.setGateway (isCommand_touch _ _ _) moved).setCall fun _ hstage => by cases hstage
  | @refused id c err =>
    have hcall : (s.setCall id (c.atStage (.rejected err))).Owned :=
      hs.setCall fun _ hstage => by cases hstage
    exact hcall.write (hs.usernameForAudit c.token)
  | answered call stage => exact hs.finish (hs.running _ _ _ call stage)
  | answeredJob call stage job moved =>
    exact (hs.setGateway (isCommand_jobStep job) moved).finish (hs.running _ _ _ call stage)
  | droppedCommand => exact hs.setCall fun _ hstage => by cases hstage

/-! ## The lines of one command -/

omit [DecidableEq Digest] [SessionTokenDigest Digest] in
/-- The lines that a command has written. -/
def lines (s : Service Digest) (id : ℕ) : List (AuditLine Digest) :=
  s.audit.filterMap fun e => if e.1 = some id then some e.2 else none

omit [DecidableEq Digest] in
/-- The lines of a command that has come as far as `c`. -/
def trail (c : ExecuteCall) (opener closer : String) : List (AuditLine Digest) :=
  c.line "start" opener none ::
    match c.stage with
    | .started | .refused _ | .running _ | .dropped => []
    | .rejected err => [.touchFailed closer (fromToken c.token) err]
    | .returned result => [c.closing closer result]

omit [DecidableEq Digest] [SessionTokenDigest Digest] in
/-- A line is appended to those of its command. -/
theorem lines_write (s : Service Digest) (id j : ℕ) (line : AuditLine Digest) :
    (s.write id line).lines j = s.lines j ++ if j = id then [line] else [] := by
  unfold lines write
  rw [List.filterMap_append]
  by_cases h : j = id
  · subst h
    simp
  · simp [h, Ne.symm h]

omit [DecidableEq Digest] [SessionTokenDigest Digest] in
/-- The lines of the gateway's own steps belong to no command. -/
theorem lines_append_own (audit : List (Option ℕ × AuditLine Digest))
    (own : List (AuditLine Digest)) (j : ℕ) :
    ((audit ++ own.map fun line => (none, line)).filterMap
        fun e : Option ℕ × AuditLine Digest => if e.1 = some j then some e.2 else none) =
      audit.filterMap fun e => if e.1 = some j then some e.2 else none := by
  rw [List.filterMap_append, List.filterMap_map]
  simp

/-- The log has the lines of every command, and those of a command that has returned are closed
under the name of its user. -/
structure Trails (s : Service Digest) : Prop where
  absent : ∀ id, s.calls.lookup id = none → s.lines id = []
  present : ∀ id c, s.calls.lookup id = some c → ∃ opener closer,
    s.lines id = trail c opener closer ∧
      ∀ result, c.stage = .returned result → s.users.lookup (fromToken c.token) = some closer

/-- At the start no command has written a line. -/
theorem trails_new (now idle : ℕ) (limits : SessionLimits) (policy : JobPolicy) :
    (new Digest now idle limits policy).Trails where
  absent _ _ := rfl
  present _ _ h := by cases h

/-- A command goes on, and what it writes brings its lines up to where it is. -/
theorem Trails.moved {c : ExecuteCall} (hs : s.Trails) (opener closer : String)
    (hcalls : t.calls = s.calls.insert id c) (husers : t.users = s.users)
    (hlines : ∀ j, j ≠ id → t.lines j = s.lines j) (hline : t.lines id = trail c opener closer)
    (hclosed : ∀ result, c.stage = .returned result →
      s.users.lookup (fromToken c.token) = some closer) : t.Trails where
  absent := by
    intro j hj
    rw [hcalls, AList.lookup_insert_eq_ite] at hj
    split at hj
    · cases hj
    · next hne =>
      rw [hlines j hne]
      exact hs.absent j hj
  present := by
    rw [hcalls, husers]
    apply AList.forall_lookup_insert
    · exact ⟨opener, closer, hline, hclosed⟩
    · intro j c' hne hj
      rw [hlines j hne]
      exact hs.present j c' hj

/-- A command goes on and writes nothing. -/
theorem Trails.silent {c : ExecuteCall} {stage : ExecuteStage} (hs : s.Trails)
    (hcall : s.calls.lookup id = some c)
    (hcalls : t.calls = s.calls.insert id (c.atStage stage)) (husers : t.users = s.users)
    (haudit : t.audit = s.audit) (hsame : ∀ closer : String,
      (trail (c.atStage stage) · closer) = (trail c · closer : String → List (AuditLine Digest)))
    (hopen : ∀ result, stage ≠ .returned result) : t.Trails := by
  obtain ⟨opener, closer, hlines, -⟩ := hs.present id c hcall
  have hkept : ∀ j, t.lines j = s.lines j := by
    intro j
    rw [lines, haudit]
    rfl
  have htrail : trail (c.atStage stage) opener closer = trail c opener closer :=
    congrFun (hsame closer) opener
  apply hs.moved opener closer hcalls husers (fun j _ => hkept j)
  · rw [hkept id, hlines, htrail]
  · intro result hstage
    exact absurd hstage (hopen result)

/-- A command goes on and writes its second line. -/
theorem Trails.closed {c : ExecuteCall} {stage : ExecuteStage} {line : AuditLine Digest}
    (hs : s.Trails) (closer : String) (hcall : s.calls.lookup id = some c)
    (hstart : ∀ opener closer, trail c opener closer =
      ([c.line "start" opener none] : List (AuditLine Digest)))
    (htrail : ∀ opener, trail (c.atStage stage) opener closer =
      [c.line "start" opener none, line])
    (hclosed : ∀ result, stage = .returned result →
      s.users.lookup (fromToken c.token) = some closer) :
    ((s.setCall id (c.atStage stage)).write id line).Trails := by
  obtain ⟨opener, closer', hlines, -⟩ := hs.present id c hcall
  have hwritten : ∀ j, ((s.setCall id (c.atStage stage)).write id line).lines j =
      s.lines j ++ if j = id then [line] else [] :=
    fun j => lines_write (s.setCall id (c.atStage stage)) id j line
  refine hs.moved opener closer rfl rfl ?_ ?_ ?_
  · intro j hne
    rw [hwritten, if_neg hne, List.append_nil]
  · rw [hwritten, if_pos rfl, hlines, hstart, htrail opener]
    rfl
  · exact hclosed

omit [DecidableEq Digest] in
/-- A command that runs has written its first line. -/
theorem trail_of_running {c : ExecuteCall} {session : Session} (h : c.stage = .running session)
    (opener closer : String) :
    trail c opener closer = ([c.line "start" opener none] : List (AuditLine Digest)) := by
  rw [trail, h]

/-- A gateway step writes no line of a command. -/
theorem trails_gatewayStep {a : Gateway.Action Digest} {g : Gateway Digest} (hs : s.Trails)
    (hown : s.Owned) (h : s.gateway.step a = some g) :
    Trails { s with
      gateway := g
      users := s.usersAfter g a
      removed := s.removedAfter a
      audit := s.audit ++ (s.sessionLines a).map fun line => (none, line) } where
  absent := by
    intro j hj
    exact (lines_append_own s.audit _ j).trans (hs.absent j hj)
  present := by
    intro j c hj
    obtain ⟨opener, closer, hlines, hclosed⟩ := hs.present j c hj
    refine ⟨opener, closer, (lines_append_own s.audit _ j).trans hlines, fun result hstage => ?_⟩
    exact hown.lookup_usersAfter h (hclosed result hstage)

/-- Every step writes the lines that its command should. -/
theorem trails_step {a : Action Digest} (hs : s.Trails) (hown : s.Owned)
    (h : s.step a = some t) : t.Trails := by
  cases move_of_step h with
  | gateway free moved => exact trails_gatewayStep hs hown moved
  -- the opening line, for the user whom the session names or for "unknown"
  | @executed id token operation free =>
    refine hs.moved (c := ⟨token, operation, .started⟩)
      ((s.usernameForAudit token).getD unknownUser) unknownUser rfl rfl ?_ ?_ ?_
    · intro j hne
      rw [lines_write, if_neg hne, List.append_nil]
      rfl
    · rw [lines_write, if_pos rfl]
      show s.lines id ++ _ = _
      rw [hs.absent id free]
      rfl
    · nofun
  -- the touch and the drop of a command write nothing
  | touched call stage moved live =>
    refine hs.silent call rfl rfl rfl ?_ ?_
    · intro closer
      funext opener
      simp only [trail, stage, ExecuteCall.atStage]
      rfl
    · nofun
  | touchFailed call stage moved dead =>
    refine hs.silent call rfl rfl rfl ?_ ?_
    · intro closer
      funext opener
      simp only [trail, stage, ExecuteCall.atStage]
      rfl
    · nofun
  | droppedCommand call stage =>
    refine hs.silent call rfl rfl rfl ?_ ?_
    · intro closer
      funext opener
      simp only [trail, stage, ExecuteCall.atStage]
      rfl
    · nofun
  -- the closing line: a refused touch, or the outcome of the operation
  | @refused id c err call stage =>
    refine hs.closed ((s.usernameForAudit c.token).getD unknownUser) call ?_ ?_ ?_
    · intro opener closer
      rw [trail, stage]
    · intro opener
      rfl
    · nofun
  | @answered id c session result call stage =>
    refine hs.closed session.user call (trail_of_running stage) ?_ ?_
    · intro opener
      rfl
    · intro result _
      exact hown.running _ _ _ call stage
  | @answeredJob id c session a g call stage job moved =>
    have hgateway : (s.setGateway g).Trails := ⟨hs.absent, hs.present⟩
    refine hgateway.closed session.user call (trail_of_running stage) ?_ ?_
    · intro opener
      rfl
    · intro result _
      exact hown.running _ _ _ call stage

/-! ## Runs -/

open TransitionSystem

variable {as : List (Action Digest)} {now idle : ℕ} {limits : SessionLimits}
  {policy : JobPolicy}

/-- Attribution and trails hold in every state of a run. -/
theorem owned_trails_run (h : run step (new Digest now idle limits policy) as = some s) :
    s.Owned ∧ s.Trails := by
  apply invariant (I := fun s : Service Digest => s.Owned ∧ s.Trails) _ h
  · exact ⟨owned_new now idle limits policy, trails_new now idle limits policy⟩
  · intro s a t hs hstep
    exact ⟨owned_step hs.1 hstep, trails_step hs.2 hs.1 hstep⟩

/-- However the steps of logins, deletions, sweeps, exports and commands interleave, a session,
an export, a job and a running command belong to the user who logged in under their token, and
every line of the log names that user or nobody, unless it is about a drained session. -/
theorem users_stay_attributed (h : run step (new Digest now idle limits policy) as = some s) :
    (∀ d user, s.gateway.Attributed d user → s.users.lookup d = some user) ∧
    (∀ id c session, s.calls.lookup id = some c → c.stage = .running session →
      s.users.lookup (fromToken c.token) = some session.user) ∧
    ∀ i line, (i, line) ∈ s.audit → line.isCleanup = false →
      line.username = unknownUser ∨ s.users.lookup line.session = some line.username := by
  have hs := (owned_trails_run h).1
  exact ⟨hs.gateway, hs.running, hs.audit⟩

/-- A login, and a command that the backend answers. -/
def oneCommand : List (Action String) :=
  [.gateway (.createSession "a" "alice" []), .gateway (.createStep "a"),
    .gateway (.authenticate "a" (.ok ())), .gateway (.createStep "a"),
    .execute 0 "a" (.backend "task" "list"), .touchSession 0, .answer 0 (.ok ())]

/-- One command of alice is recorded under her name. -/
theorem users_stay_attributed_command :
    ∃ s : Service String, run step (new String 0 300 {} {}) oneCommand = some s ∧
      s.users.lookup "a" = some "alice" ∧ ∀ i line, (i, line) ∈ s.audit →
        line.isCleanup = false → line.username = unknownUser ∨
          s.users.lookup line.session = some line.username := by
  have hrun : ∃ s : Service String, run step (new String 0 300 {} {}) oneCommand = some s ∧
      s.users.lookup "a" = some "alice" := ⟨_, rfl, rfl⟩
  rcases hrun with ⟨s, hs, huser⟩
  exact ⟨s, hs, huser, (users_stay_attributed hs).2.2⟩

/-- The lines of a command are its opening line, and at most one more: when its session is
refused, the touch's; when it has returned, the outcome that its caller gets, under the name of
the user who logged in. -/
theorem audit_trail (h : run step (new Digest now idle limits policy) as = some s) (id : ℕ) :
    (s.calls.lookup id = none → s.lines id = []) ∧
    ∀ c, s.calls.lookup id = some c → ∃ opener closer,
      s.lines id = trail c opener closer ∧
      (opener = unknownUser ∨ s.users.lookup (fromToken c.token) = some opener) ∧
      (∀ err, c.stage = .rejected err →
        closer = unknownUser ∨ s.users.lookup (fromToken c.token) = some closer) ∧
      ∀ result, c.stage = .returned result →
        s.users.lookup (fromToken c.token) = some closer := by
  obtain ⟨hown, htrails⟩ := owned_trails_run h
  refine ⟨htrails.absent id, fun c hcall => ?_⟩
  obtain ⟨opener, closer, hlines, hclosed⟩ := htrails.present id c hcall
  -- the lines are in the log, which names no one else
  have hmem : ∀ line ∈ s.lines id, (some id, line) ∈ s.audit := by
    intro line hline
    obtain ⟨e, he, hline⟩ := List.mem_filterMap.mp hline
    obtain ⟨hid, hline⟩ := Option.ite_none_right_eq_some.mp hline
    obtain rfl := Option.some.inj hline
    exact hid ▸ he
  refine ⟨opener, closer, hlines, ?_, fun err hstage => ?_, hclosed⟩
  · have hopen : c.line "start" opener none ∈ s.lines id := by
      rw [hlines, trail]
      exact List.mem_cons_self
    exact hown.audit _ _ (hmem _ hopen) rfl
  · have hclose : AuditLine.touchFailed closer (fromToken c.token) err ∈ s.lines id := by
      rw [hlines, trail, hstage]
      simp
    refine hown.audit _ _ (hmem _ hclose) ?_
    simp [AuditLine.isCleanup, AuditLine.touchFailed]

/-- Its two lines are those of a command that succeeded. -/
theorem audit_trail_command :
    ∃ (s : Service String) (c : ExecuteCall),
      run step (new String 0 300 {} {}) oneCommand = some s ∧ s.calls.lookup 0 = some c ∧
      ∃ opener, s.lines 0 = trail c opener "alice" := by
  have hrun : ∃ (s : Service String) (c : ExecuteCall),
      run step (new String 0 300 {} {}) oneCommand = some s ∧ s.calls.lookup 0 = some c ∧
      c.stage = .returned (.ok ()) ∧ c.token = "a" ∧ s.users.lookup "a" = some "alice" :=
    ⟨_, _, rfl, rfl, rfl, rfl, rfl⟩
  rcases hrun with ⟨s, c, hs, hcall, hstage, htoken, huser⟩
  obtain ⟨opener, closer, hlines, -, -, hclosed⟩ := (audit_trail hs 0).2 c hcall
  have hcloser := hclosed _ hstage
  rw [htoken] at hcloser
  obtain rfl : closer = "alice" := Option.some.inj (hcloser.symm.trans huser)
  exact ⟨s, c, hs, hcall, opener, hlines⟩

/-! ## Jobs -/

omit [DecidableEq Digest] [SessionTokenDigest Digest] in
/-- What an operation on a job answers comes from the records of the user alone. -/
theorem jobResult_of_not_owned {o : Operation} {g : Gateway Digest} {user j : String}
    (hj : o.jobId = some j) (hnone : g.jobs.owned user j = none) :
    o.jobResult g user = .error (JobRegistryState.jobNotFound j) := by
  have hfind : g.jobs.findOwned g.now user j = .error (JobRegistryState.jobNotFound j) := by
    rw [JobRegistryState.findOwned_eq, JobRegistryState.owned_purged, hnone]
    rfl
  cases o with
  | backend | createReportExport => cases hj
  | getJob =>
    obtain rfl := Option.some.inj hj
    simp only [Operation.jobResult, JobRegistryState.jobSnapshot, hfind, Except.map]
  | cancelJob =>
    obtain rfl := Option.some.inj hj
    simp only [Operation.jobResult, JobRegistryState.cancelJobRecord, hfind, Except.map]
  | downloadJobResult =>
    obtain rfl := Option.some.inj hj
    simp only [Operation.jobResult, JobRegistryState.jobArtifact, hfind, Except.map]

/-- A step on a job leaves the records of other users to the purge. -/
theorem lookup_jobStep {o : Operation} {g g' : Gateway Digest} {a : Gateway.Action Digest}
    {user k : String} {r : JobRecord Digest} (ha : o.jobStep user = some a)
    (h : g.step a = some g') (hk : g.jobs.jobs.lookup k = some r) (hne : r.ownerUser ≠ user) :
    g'.jobs.jobs.lookup k = some r ∨
      (g'.jobs.jobs.lookup k = none ∧ JobRegistryState.isRetained g.now r = false) := by
  cases o with
  | backend | createReportExport => cases ha
  | getJob jobId =>
    obtain rfl := Option.some.inj ha
    obtain rfl := Option.some.inj h
    exact JobRegistryState.lookup_handle_of_foreign (c := .jobSnapshot g.now jobId) hk hne
  | downloadJobResult jobId =>
    obtain rfl := Option.some.inj ha
    obtain rfl := Option.some.inj h
    exact JobRegistryState.lookup_handle_of_foreign (c := .jobArtifact g.now jobId) hk hne
  | cancelJob jobId =>
    obtain rfl := Option.some.inj ha
    obtain rfl := Option.some.inj h
    have hjobs : (g.cancelJobRecord user jobId).jobs =
        (g.jobs.cancelJobRecord g.now g.now user jobId).2.2 := Gateway.jobs_abortFound _ _
    rw [hjobs]
    exact JobRegistryState.lookup_handle_of_foreign
      (c := .cancelJobRecord g.now g.now jobId) hk hne

/-- A command on a job serves the user who logged in under its token. It succeeds only on a job
that a session of the same user has exported; a job of any other session is answered as if it
were not there, and stays as it is unless its retention is over. -/
theorem job_commands_stay_with_user (h : run step (new Digest now idle limits policy) as = some s)
    {id : ℕ} (ht : s.step (.answerJob id) = some t) :
    ∃ c j user result, s.calls.lookup id = some c ∧ c.operation.jobId = some j ∧
      s.users.lookup (fromToken c.token) = some user ∧
      t.calls.lookup id = some (c.atStage (.returned result)) ∧
      (result = .ok () → ∃ r, s.gateway.jobs.jobs.lookup j = some r ∧
        s.users.lookup r.sessionTokenDigest = some user) ∧
      ∀ k r, s.gateway.jobs.jobs.lookup k = some r →
        s.users.lookup r.sessionTokenDigest ≠ some user →
        (k = j → result = .error (JobRegistryState.jobNotFound j)) ∧
        (t.gateway.jobs.jobs.lookup k = some r ∨
          t.gateway.jobs.jobs.lookup k = none ∧ JobRegistryState.isRetained s.gateway.now r = false) := by
  have hown := (owned_trails_run h).1
  -- a job belongs to the user of its session
  have howner : ∀ k r, s.gateway.jobs.jobs.lookup k = some r →
      s.users.lookup r.sessionTokenDigest = some r.ownerUser :=
    fun k r hk => hown.gateway _ _ (.record hk rfl rfl)
  cases move_of_step ht with
  | @answeredJob id c session a g call stage job moved =>
    obtain ⟨j, hj⟩ : ∃ j, c.operation.jobId = some j := by
      cases hoperation : c.operation with
      | backend | createReportExport =>
        rw [hoperation] at job
        cases job
      | getJob j | cancelJob j | downloadJobResult j => exact ⟨j, rfl⟩
    refine ⟨c, j, session.user, c.operation.jobResult s.gateway session.user, call, hj,
      hown.running id c session call stage, AList.lookup_insert s.calls, fun hok => ?_,
      fun k r hk hne => ?_⟩
    · rcases hrecord : s.gateway.jobs.owned session.user j with _ | r
      · rw [jobResult_of_not_owned hj hrecord] at hok
        cases hok
      · obtain ⟨hk, huser⟩ := JobRegistryState.owned_eq_some.mp hrecord
        exact ⟨r, hk, huser ▸ howner j r hk⟩
    -- somebody else's job
    · have hforeign : r.ownerUser ≠ session.user := by
        intro hsame
        exact hne (hsame ▸ howner k r hk)
      refine ⟨?_, lookup_jobStep job moved hk hforeign⟩
      rintro rfl
      exact jobResult_of_not_owned hj (JobRegistryState.owned_of_foreign hk hforeign)

/-- Alice exports a report, and Bob asks for her job. -/
def foreignJob : List (Action String) :=
  [.gateway (.createSession "a" "alice" []), .execute 0 "a" (.createReportExport "report"
      (.json ⟨none, none⟩)), .touchSession 0, .gateway (.holdSession 0 "j"),
    .gateway (.enqueueStep "j"), .gateway (.createSession "b" "bob" []),
    .execute 1 "b" (.cancelJob "j"), .touchSession 1]

/-- Another user's command on the job of alice does not find it. -/
theorem job_commands_stay_with_user_foreign :
    ∃ (s t : Service String) (c : ExecuteCall),
      run step (new String 0 300 {} {}) foreignJob = some s ∧ s.step (.answerJob 1) = some t ∧
      t.calls.lookup 1 = some c ∧
      c.stage = .returned (.error (JobRegistryState.jobNotFound "j")) := by
  have hrun : ∃ (s t : Service String) (c₀ : ExecuteCall) (r : JobRecord String),
      run step (new String 0 300 {} {}) foreignJob = some s ∧ s.step (.answerJob 1) = some t ∧
      s.calls.lookup 1 = some c₀ ∧ c₀.token = "b" ∧ c₀.operation = .cancelJob "j" ∧
      s.users.lookup "b" = some "bob" ∧ s.gateway.jobs.jobs.lookup "j" = some r ∧
      s.users.lookup r.sessionTokenDigest = some "alice" :=
    ⟨_, _, _, _, rfl, rfl, rfl, rfl, rfl, rfl, rfl, rfl⟩
  rcases hrun with ⟨s, t, c₀, r, hs, ht, hcall, htoken, hoperation, hbob, hrecord, halice⟩
  obtain ⟨c, j, user, result, hc, hj, huser, hreturned, -, hforeign⟩ :=
    job_commands_stay_with_user hs ht
  obtain rfl : c₀ = c := Option.some.inj (hcall.symm.trans hc)
  rw [hoperation] at hj
  obtain rfl : "j" = j := Option.some.inj hj
  rw [htoken] at huser
  obtain rfl : "bob" = user := Option.some.inj (hbob.symm.trans huser)
  have hresult := (hforeign "j" r hrecord (by rw [halice]; decide)).1 rfl
  rw [hresult] at hreturned
  exact ⟨s, t, _, hs, ht, hreturned, rfl⟩

end Service
end GvmGateway

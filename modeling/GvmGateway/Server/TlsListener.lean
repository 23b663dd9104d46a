import GvmGateway.Library.FiniteMap
import GvmGateway.Library.TransitionSystem

/-!
# The native TLS listener

`TlsListener::accept` takes TCP connections and spawns a handshake task for each; a task whose
handshake succeeds sends its connection over a bounded channel, from which `accept` hands them
out. Tasks run at any speed; the TCP listener and the handshakes belong to other packages and may
do anything. The channel is first in, first out, as tokio's `mpsc` documents.
-/

namespace GvmGateway
namespace Tls

/-- `TLS_HANDSHAKE_TIMEOUT`, in seconds. -/
def handshakeTimeoutSecs : ℕ := 10

/-- `TLS_HANDSHAKE_COMPLETION_BUFFER`. -/
def handshakeCompletionBuffer : ℕ := 1024

/-- How long `handle_accept_error` sleeps, in seconds. -/
def acceptErrorPauseSecs : ℕ := 1

/-- The kinds of an error of the TCP listener that `handle_accept_error` tells apart. -/
inductive AcceptError where
  | connectionRefused
  | connectionAborted
  | connectionReset
  | other
deriving DecidableEq, Repr

/-- Where a handshake task stands. -/
inductive HandshakeStage where
  | handshaking
  /-- The handshake succeeded; the connection waits for room in the channel. -/
  | sending
  | sent
  | failed
  | timedOut
  /-- The handshake completed after the listener stopped. -/
  | abandoned
deriving DecidableEq, Repr

/-- A handshake task. -/
structure Handshake (Addr : Type) where
  remoteAddr : Addr
  startedAt : ℕ
  stage : HandshakeStage
deriving DecidableEq, Repr

def Handshake.atStage {Addr : Type} (t : Handshake Addr) (stage : HandshakeStage) :
    Handshake Addr := { t with stage := stage }

/-- The listener; connections are named by numbers. A task that is over stays in the map. -/
structure TlsListener (Addr : Type) where
  now : ℕ
  isOpen : Bool
  /-- The end of the pause after an accept error. -/
  pausedUntil : ℕ
  tasks : AList fun _ : ℕ => Handshake Addr
  /-- The channel of completed handshakes, a tokio `mpsc` as documented: bounded, first in, first
  out, and closed when the listener is dropped. -/
  completed : List (ℕ × Addr)
  /-- What `accept` has returned. -/
  accepted : List (ℕ × Addr)

namespace TlsListener

variable {Addr : Type}

/-- `TlsListener::new`. -/
def new (Addr : Type) (now : ℕ) : TlsListener Addr :=
  { now := now, isOpen := true, pausedUntil := 0, tasks := ∅, completed := [], accepted := [] }

/-- `accept` is at its `select!`. -/
def isAccepting (l : TlsListener Addr) : Bool := l.isOpen && l.pausedUntil ≤ l.now

def setTask (l : TlsListener Addr) (id : ℕ) (t : Handshake Addr) : TlsListener Addr :=
  { l with tasks := l.tasks.insert id t }

/-- The TCP listener has accepted a connection, and `spawn_handshake` is called. -/
def spawnHandshake (l : TlsListener Addr) (id : ℕ) (remoteAddr : Addr) :
    Option (TlsListener Addr) :=
  if l.isAccepting && (l.tasks.lookup id).isNone then
    some (l.setTask id
      { remoteAddr := remoteAddr, startedAt := l.now, stage := .handshaking })
  else none

/-- `handle_accept_error`. -/
def handleAcceptError (l : TlsListener Addr) (error : AcceptError) :
    Option (TlsListener Addr) :=
  if l.isAccepting then
    match error with
    | .connectionRefused | .connectionAborted | .connectionReset => some l
    | .other => some { l with pausedUntil := l.now + acceptErrorPauseSecs }
  else none

/-- The handshake ends before its timeout is noticed. -/
def finishHandshake (l : TlsListener Addr) (id : ℕ) (ok : Bool) : Option (TlsListener Addr) :=
  (l.tasks.lookup id).bind fun t =>
    if t.stage = .handshaking then
      some (l.setTask id (t.atStage (if ok then .sending else .failed)))
    else none

/-- The handshake has taken too long. -/
def timeOut (l : TlsListener Addr) (id : ℕ) : Option (TlsListener Addr) :=
  (l.tasks.lookup id).bind fun t =>
    if t.stage = .handshaking ∧ t.startedAt + handshakeTimeoutSecs ≤ l.now then
      some (l.setTask id (t.atStage .timedOut))
    else none

/-- `completed_tx.send`, which waits while the channel is full. -/
def send (l : TlsListener Addr) (id : ℕ) : Option (TlsListener Addr) :=
  (l.tasks.lookup id).bind fun t =>
    if t.stage = .sending then
      if l.isOpen then
        if l.completed.length < handshakeCompletionBuffer then
          some { l.setTask id (t.atStage .sent) with
            completed := l.completed ++ [(id, t.remoteAddr)] }
        else none
      -- the receiver is gone
      else some (l.setTask id (t.atStage .abandoned))
    else none

/-- `accept` receives a completed connection, and returns it. -/
def accept (l : TlsListener Addr) : Option (TlsListener Addr) :=
  if l.isAccepting then
    match l.completed with
    | [] => none
    | connection :: rest =>
      some { l with completed := rest, accepted := l.accepted ++ [connection] }
  else none

/-- The listener is dropped, and its channel with it. -/
def close (l : TlsListener Addr) : Option (TlsListener Addr) :=
  if l.isOpen then some { l with isOpen := false, completed := [] } else none

/-- What can happen next. -/
inductive Action (Addr : Type) where
  | tick (secs : ℕ)
  | spawnHandshake (id : ℕ) (remoteAddr : Addr)
  | handleAcceptError (error : AcceptError)
  | finishHandshake (id : ℕ) (ok : Bool)
  | timeOut (id : ℕ)
  | send (id : ℕ)
  | accept
  | close
deriving DecidableEq, Repr

/-- One step of the listener or of a task. -/
def step (l : TlsListener Addr) : Action Addr → Option (TlsListener Addr)
  | .tick secs => some { l with now := l.now + secs }
  | .spawnHandshake id remoteAddr => l.spawnHandshake id remoteAddr
  | .handleAcceptError error => l.handleAcceptError error
  | .finishHandshake id ok => l.finishHandshake id ok
  | .timeOut id => l.timeOut id
  | .send id => l.send id
  | .accept => l.accept
  | .close => l.close

/-! ## What a step can do -/

variable {l m : TlsListener Addr}

/-- The steps of the listener. -/
inductive Move (l : TlsListener Addr) : TlsListener Addr → Prop where
  /-- Time passes, or an error is logged. -/
  | waited {now pausedUntil : ℕ} (later : l.now ≤ now) :
      Move l { l with now := now, pausedUntil := pausedUntil }
  | spawned {id : ℕ} {remoteAddr : Addr} (free : l.tasks.lookup id = none) :
      Move l (l.setTask id
        { remoteAddr := remoteAddr, startedAt := l.now, stage := .handshaking })
  /-- A task goes on, and sends nothing. -/
  | moved {id : ℕ} {t : Handshake Addr} {stage : HandshakeStage}
      (task : l.tasks.lookup id = some t) (before : t.stage ≠ .sent) (after : stage ≠ .sent)
      (late : stage = .timedOut → t.startedAt + handshakeTimeoutSecs ≤ l.now) :
      Move l (l.setTask id (t.atStage stage))
  | sent {id : ℕ} {t : Handshake Addr} (task : l.tasks.lookup id = some t)
      (stage : t.stage = .sending) (isOpen : l.isOpen = true)
      (room : l.completed.length < handshakeCompletionBuffer) :
      Move l { l.setTask id (t.atStage .sent) with
        completed := l.completed ++ [(id, t.remoteAddr)] }
  | accepted {connection : ℕ × Addr} {rest : List (ℕ × Addr)}
      (head : l.completed = connection :: rest) :
      Move l { l with completed := rest, accepted := l.accepted ++ [connection] }
  | closed : Move l { l with isOpen := false, completed := [] }

theorem send_move {id : ℕ} (h : l.send id = some m) : l.Move m := by
  obtain ⟨t, htask, h⟩ := Option.bind_eq_some_iff.mp h
  obtain ⟨hstage, h⟩ := Option.ite_none_right_eq_some.mp h
  split at h
  · next hopen =>
    obtain ⟨hroom, h⟩ := Option.ite_none_right_eq_some.mp h
    obtain rfl := Option.some.inj h
    exact .sent htask hstage hopen hroom
  · obtain rfl := Option.some.inj h
    exact .moved htask (by rw [hstage]; decide) (by decide) (by simp)

theorem move_of_step {a : Action Addr} (h : l.step a = some m) : l.Move m := by
  cases a with
  | tick secs =>
    obtain rfl := Option.some.inj h
    exact .waited (Nat.le_add_right _ _)
  | spawnHandshake id remoteAddr =>
    obtain ⟨hfree, h⟩ := Option.ite_none_right_eq_some.mp h
    obtain rfl := Option.some.inj h
    rw [Bool.and_eq_true, Option.isNone_iff_eq_none] at hfree
    exact .spawned hfree.2
  -- an error of `accept` is about no task and no connection of the channel
  | handleAcceptError error =>
    obtain ⟨-, h⟩ := Option.ite_none_right_eq_some.mp h
    cases error with
    | connectionRefused | connectionAborted | connectionReset =>
      obtain rfl := Option.some.inj h
      exact .waited (le_refl _)
    | other =>
      obtain rfl := Option.some.inj h
      exact .waited (le_refl _)
  | finishHandshake id ok =>
    obtain ⟨t, htask, h⟩ := Option.bind_eq_some_iff.mp h
    obtain ⟨hstage, h⟩ := Option.ite_none_right_eq_some.mp h
    obtain rfl := Option.some.inj h
    cases ok with
    | true => exact .moved htask (by rw [hstage]; decide) (by decide) (by simp)
    | false => exact .moved htask (by rw [hstage]; decide) (by decide) (by simp)
  -- the task has run for the timeout
  | timeOut id =>
    obtain ⟨t, htask, h⟩ := Option.bind_eq_some_iff.mp h
    obtain ⟨⟨hstage, hlate⟩, h⟩ := Option.ite_none_right_eq_some.mp h
    obtain rfl := Option.some.inj h
    exact .moved htask (by rw [hstage]; decide) (by decide) fun _ => hlate
  | send id => exact send_move h
  | accept =>
    obtain ⟨-, h⟩ := Option.ite_none_right_eq_some.mp h
    split at h
    · cases h
    · next connection rest hhead =>
      obtain rfl := Option.some.inj h
      exact .accepted hhead
  | close =>
    obtain ⟨-, h⟩ := Option.ite_none_right_eq_some.mp h
    obtain rfl := Option.some.inj h
    exact .closed

/-! ## The connections -/

/-- What the listener has handed out or is about to, in order. -/
def delivered (l : TlsListener Addr) : List (ℕ × Addr) := l.accepted ++ l.completed

/-- A task whose connection went into the channel. -/
def IsSent (l : TlsListener Addr) (id : ℕ) (remoteAddr : Addr) : Prop :=
  ∃ t, l.tasks.lookup id = some t ∧ t.stage = .sent ∧ t.remoteAddr = remoteAddr

/-- What holds of the listener at any time. -/
structure Inv (l : TlsListener Addr) : Prop where
  room : l.completed.length ≤ handshakeCompletionBuffer
  once : (l.delivered.map Prod.fst).Nodup
  own : ∀ id remoteAddr, (id, remoteAddr) ∈ l.delivered → l.IsSent id remoteAddr
  all : l.isOpen = true → ∀ id remoteAddr, l.IsSent id remoteAddr →
    (id, remoteAddr) ∈ l.delivered
  late : ∀ id t, l.tasks.lookup id = some t → t.stage = .timedOut →
    t.startedAt + handshakeTimeoutSecs ≤ l.now

theorem inv_new (now : ℕ) : (new Addr now).Inv where
  room := Nat.zero_le _
  once := List.nodup_nil
  own _ _ h := by cases h
  all := by
    rintro - id remoteAddr ⟨t, ht, -⟩
    cases ht
  late _ _ h := by cases h

/-- A task that has sent nothing becomes another that has not. -/
theorem isSent_setTask {id : ℕ} {t : Handshake Addr} (hstage : t.stage ≠ .sent)
    (hbefore : ∀ old, l.tasks.lookup id = some old → old.stage ≠ .sent) (j : ℕ)
    (remoteAddr : Addr) : (l.setTask id t).IsSent j remoteAddr ↔ l.IsSent j remoteAddr := by
  unfold IsSent setTask
  simp only [AList.lookup_insert_eq_ite]
  by_cases hj : j = id
  · subst hj
    simp only [if_true]
    constructor
    · rintro ⟨t', ht', hsent, -⟩
      obtain rfl := Option.some.inj ht'
      exact absurd hsent hstage
    · rintro ⟨old, hold, hsent, -⟩
      exact absurd hsent (hbefore old hold)
  · simp only [if_neg hj]

/-- The task at `id` is replaced, and nothing is sent. -/
theorem Inv.setTask {id : ℕ} {t : Handshake Addr} (hl : l.Inv) (hstage : t.stage ≠ .sent)
    (hbefore : ∀ old, l.tasks.lookup id = some old → old.stage ≠ .sent)
    (hlate : t.stage = .timedOut → t.startedAt + handshakeTimeoutSecs ≤ l.now) :
    (l.setTask id t).Inv where
  room := hl.room
  once := hl.once
  own j remoteAddr hmem :=
    (isSent_setTask hstage hbefore j remoteAddr).mpr (hl.own j remoteAddr hmem)
  all hopen j remoteAddr hsent :=
    hl.all hopen j remoteAddr ((isSent_setTask hstage hbefore j remoteAddr).mp hsent)
  late := AList.forall_lookup_insert hlate fun j t' _ hj => hl.late j t' hj

/-- A connection that a task sends is not among those it has sent before. -/
theorem Inv.sent {id : ℕ} {t : Handshake Addr} (hl : l.Inv) (task : l.tasks.lookup id = some t)
    (stage : t.stage = .sending) (room : l.completed.length < handshakeCompletionBuffer) :
    Inv { l.setTask id (t.atStage .sent) with
      completed := l.completed ++ [(id, t.remoteAddr)] } := by
  have hdelivered : ∀ c, c ∈ l.accepted ++ (l.completed ++ [(id, t.remoteAddr)]) ↔
      c ∈ l.delivered ∨ c = (id, t.remoteAddr) := by
    intro c
    rw [← List.append_assoc, List.mem_append, List.mem_singleton, delivered]
  -- what is delivered has been sent by its task, and this one is still sending
  have hnew : ∀ remoteAddr, (id, remoteAddr) ∉ l.delivered := by
    intro remoteAddr hmem
    obtain ⟨t', ht', hsent, -⟩ := hl.own id remoteAddr hmem
    obtain rfl := Option.some.inj (task.symm.trans ht')
    rw [stage] at hsent
    cases hsent
  have htasks : ∀ k, (l.tasks.insert id (t.atStage .sent)).lookup k =
      if k = id then some (t.atStage .sent) else l.tasks.lookup k :=
    fun k => AList.lookup_insert_eq_ite l.tasks id k (t.atStage .sent)
  refine ⟨?_, ?_, ?_, ?_, ?_⟩
  · rw [List.length_append, List.length_singleton]
    exact room
  · show ((l.accepted ++ (l.completed ++ [(id, t.remoteAddr)])).map Prod.fst).Nodup
    rw [← List.append_assoc, List.map_append, List.nodup_append]
    refine ⟨hl.once, List.nodup_singleton _, ?_⟩
    rintro k hk k' hk' rfl
    obtain ⟨⟨k, remoteAddr⟩, hmem, rfl⟩ := List.mem_map.mp hk
    obtain rfl : k = id := List.mem_singleton.mp hk'
    exact hnew remoteAddr hmem
  · intro k remoteAddr hmem
    show ∃ t', (l.tasks.insert id (t.atStage .sent)).lookup k = some t' ∧ _
    rw [htasks]
    rcases (hdelivered _).mp hmem with hold | hlast
    · have hk : k ≠ id := by
        rintro rfl
        exact hnew remoteAddr hold
      rw [if_neg hk]
      exact hl.own k remoteAddr hold
    · obtain ⟨rfl, rfl⟩ := Prod.mk.inj hlast
      exact ⟨t.atStage .sent, if_pos rfl, rfl, rfl⟩
  -- while the listener is open, what has been sent is in the channel or accepted
  · rintro hopen k remoteAddr ⟨t', ht', hsent, haddr⟩
    apply (hdelivered _).mpr
    replace ht' : (l.tasks.insert id (t.atStage .sent)).lookup k = some t' := ht'
    rw [htasks] at ht'
    split at ht'
    · next hk =>
      obtain rfl := Option.some.inj ht'
      exact .inr (by rw [hk, ← haddr]; rfl)
    · exact .inl (hl.all hopen k remoteAddr ⟨t', ht', hsent, haddr⟩)
  · intro k t' ht' htimed
    replace ht' : (l.tasks.insert id (t.atStage .sent)).lookup k = some t' := ht'
    rw [htasks] at ht'
    split at ht'
    · obtain rfl := Option.some.inj ht'
      cases htimed
    · exact hl.late k t' ht' htimed

theorem inv_step (hl : l.Inv) (h : l.Move m) : m.Inv := by
  cases h with
  | waited later =>
    exact ⟨hl.room, hl.once, hl.own, hl.all,
      fun id t ht htimed => (hl.late id t ht htimed).trans later⟩
  | spawned free =>
    exact hl.setTask nofun (fun old hold => absurd (free.symm.trans hold) (by simp)) nofun
  | moved task before after late =>
    refine hl.setTask after (fun old hold => ?_) late
    obtain rfl := Option.some.inj (task.symm.trans hold)
    exact before
  | sent task stage isOpen room => exact hl.sent task stage room
  -- what is accepted moves from the channel, and the order stays
  | @accepted connection rest head =>
    have hsame : (l.accepted ++ [connection]) ++ rest = l.delivered := by
      rw [List.append_assoc, delivered, head]
      rfl
    refine ⟨?_, ?_, ?_, ?_, hl.late⟩
    · have hroom := hl.room
      rw [head, List.length_cons] at hroom
      exact (Nat.le_succ _).trans hroom
    · rw [delivered, hsame]
      exact hl.once
    · rw [delivered, hsame]
      exact hl.own
    · rw [delivered, hsame]
      exact hl.all
  -- the channel is dropped with what was in it
  | closed =>
    have hless : l.accepted ++ [] ⊆ l.delivered := by
      rw [List.append_nil]
      exact List.subset_append_left _ _
    refine ⟨Nat.zero_le _, ?_, fun id remoteAddr hmem => hl.own id remoteAddr (hless hmem), nofun,
      hl.late⟩
    show ((l.accepted ++ []).map Prod.fst).Nodup
    rw [List.append_nil]
    have honce := hl.once
    rw [delivered, List.map_append, List.nodup_append] at honce
    exact honce.1

/-- While the listener is open, connections are added at the end only. -/
theorem delivered_extends (h : l.Move m) (hopen : m.isOpen = true) :
    l.delivered <+: m.delivered := by
  cases h with
  | waited | spawned | moved => exact List.prefix_rfl
  | @sent id t task =>
    refine ⟨[(id, t.remoteAddr)], ?_⟩
    show (l.accepted ++ l.completed) ++ _ = l.accepted ++ (l.completed ++ _)
    rw [List.append_assoc]
  | @accepted connection rest head =>
    have hsame : l.delivered = (l.accepted ++ [connection]) ++ rest := by
      rw [List.append_assoc, delivered, head]
      rfl
    exact hsame ▸ List.prefix_rfl
  | closed => cases hopen

/-- A listener that is open was open before. -/
theorem isOpen_of_move (h : l.Move m) (hopen : m.isOpen = true) : l.isOpen = true := by
  cases h with
  | closed => cases hopen
  | waited | spawned | moved | sent | accepted => exact hopen

/-! ## Runs -/

open TransitionSystem

variable {now : ℕ} {as : List (Action Addr)}

theorem inv_run (h : run step (new Addr now) as = some l) : l.Inv :=
  invariant (I := Inv) (fun _ _ _ hl hstep => inv_step hl (move_of_step hstep)) h (inv_new now)

theorem prefix_run {bs : List (Action Addr)} (h : run step l bs = some m)
    (hopen : m.isOpen = true) : l.delivered <+: m.delivered := by
  have hboth := invariant (I := fun k : TlsListener Addr =>
    k.isOpen = true → l.delivered <+: k.delivered) ?_ h fun _ => List.prefix_rfl
  · exact hboth hopen
  · intro k a k' hk hstep hopen'
    have hmove := move_of_step hstep
    exact (hk (isOpen_of_move hmove hopen')).trans (delivered_extends hmove hopen')

/-- However many handshakes are in progress, and however they end: no connection is handed out
twice, each only after its own handshake and with its own address, and in the order in which
they went into the channel, which holds no more than its bound; while the listener is open
none that went in is lost; a handshake is given up only after the timeout. A finished handshake
never waits for another one: either there is room in the channel, or `accept` can go on. -/
theorem tls_connections_delivered_once (h : run step (new Addr now) as = some l) :
    (l.delivered.map Prod.fst).Nodup ∧
    (∀ id remoteAddr, (id, remoteAddr) ∈ l.delivered → l.IsSent id remoteAddr) ∧
    (l.isOpen = true → ∀ id remoteAddr, l.IsSent id remoteAddr →
      (id, remoteAddr) ∈ l.delivered) ∧
    (∀ bs m, run step l bs = some m → m.isOpen = true → l.delivered <+: m.delivered) ∧
    l.completed.length ≤ handshakeCompletionBuffer ∧
    (∀ id t, l.tasks.lookup id = some t → t.stage = .timedOut →
      t.startedAt + handshakeTimeoutSecs ≤ l.now) ∧
    (l.isAccepting = true → ∀ id t, l.tasks.lookup id = some t → t.stage = .sending →
      (l.step (.send id)).isSome = true ∨ (l.step .accept).isSome = true) := by
  have hl := inv_run h
  refine ⟨hl.once, hl.own, hl.all, fun bs m hbs hopen => prefix_run hbs hopen, hl.room, hl.late,
    fun haccepting id t ht hstage => ?_⟩
  have hopen : l.isOpen = true := by
    rw [isAccepting, Bool.and_eq_true] at haccepting
    exact haccepting.1
  -- a full channel has a head, which `accept` takes
  by_cases hroom : l.completed.length < handshakeCompletionBuffer
  · left
    show (l.send id).isSome = true
    simp [send, ht, hstage, hopen, hroom]
  · right
    have hfull : l.completed ≠ [] := by
      intro hempty
      rw [hempty] at hroom
      exact hroom (Nat.succ_pos _)
    obtain ⟨connection, rest, hhead⟩ := List.exists_cons_of_ne_nil hfull
    show l.accept.isSome = true
    simp [accept, haccepting, hhead]

/-- The second connection overtakes the first one, whose handshake is slow. -/
theorem tls_connections_delivered_once_slow :
    ∃ l : TlsListener String, run step (new String 0) [.spawnHandshake 0 "a",
        .spawnHandshake 1 "b", .finishHandshake 1 true, .send 1, .tick 9,
        .finishHandshake 0 true, .accept, .send 0] = some l ∧
      l.delivered = [(1, "b"), (0, "a")] ∧ (l.delivered.map Prod.fst).Nodup := by
  have hrun : ∃ l : TlsListener String, run step (new String 0) [.spawnHandshake 0 "a",
        .spawnHandshake 1 "b", .finishHandshake 1 true, .send 1, .tick 9,
        .finishHandshake 0 true, .accept, .send 0] = some l ∧
      l.delivered = [(1, "b"), (0, "a")] := ⟨_, rfl, rfl⟩
  rcases hrun with ⟨l, hl, hdelivered⟩
  exact ⟨l, hl, hdelivered, (tls_connections_delivered_once hl).1⟩

end TlsListener
end Tls
end GvmGateway

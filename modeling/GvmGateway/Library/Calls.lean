import Mathlib

/-!
# Programs that call a server

A program makes calls one after another, reads the reply to each, and ends with a result or an
error. It is a tree over the replies, and so knows nothing of the server: `run` and `sent` say
what it returns, what state it leaves and which calls it makes against one.
-/

namespace Calls

/-- A call `c` is answered by a `Reply c`. -/
inductive Program {Call : Type} (Reply : Call → Type) (ε α : Type) where
  | done (result : Except ε α)
  | call (c : Call) (next : Reply c → Program Reply ε α)

/-- What a server answers to a call, and the state it goes to. -/
structure Server {Call : Type} (Reply : Call → Type) (State : Type) where
  reply : (c : Call) → State → Reply c
  next : Call → State → State

namespace Program

variable {Call : Type} {Reply : Call → Type} {ε α β State : Type}

def bind : Program Reply ε α → (α → Program Reply ε β) → Program Reply ε β
  | done (.ok a), f => f a
  | done (.error err), _ => done (.error err)
  | call c next, f => call c fun reply => (next reply).bind f

instance : Monad (Program Reply ε) where
  pure a := done (.ok a)
  bind := bind

instance : MonadLift (Except ε) (Program Reply ε) where
  monadLift := done

/-- A call whose reply may be an error. -/
def request {Response : Call → Type} (c : Call) :
    Program (fun c => Except ε (Response c)) ε (Response c) :=
  call c done

variable (server : Server Reply State)

/-- The result and the last state. -/
def run : Program Reply ε α → State → Except ε α × State
  | done result, s => (result, s)
  | call c next, s => (next (server.reply c s)).run (server.next c s)

/-- The calls made, the first of them first. -/
def sent : Program Reply ε α → State → List Call
  | done _, _ => []
  | call c next, s => c :: (next (server.reply c s)).sent (server.next c s)

/-! ## Equations -/

theorem run_done_eq_ok {result : Except ε α} {s t : State} {a : α} :
    (done result : Program Reply ε α).run server s = (.ok a, t) ↔ result = .ok a ∧ s = t :=
  Prod.ext_iff

@[simp] theorem run_call (c : Call) (next : Reply c → Program Reply ε α) (s : State) :
    (call c next).run server s = (next (server.reply c s)).run server (server.next c s) := rfl

@[simp] theorem sent_call (c : Call) (next : Reply c → Program Reply ε α) (s : State) :
    (call c next).sent server s
      = c :: (next (server.reply c s)).sent server (server.next c s) := rfl

/-! ## Sequences -/

/-- A sequence whose first part ends with an error is that part. -/
theorem run_bind_of_error {p : Program Reply ε α} {s : State} {err : ε}
    (h : (p.run server s).1 = .error err) (f : α → Program Reply ε β) :
    (p.bind f).run server s = (.error err, (p.run server s).2) := by
  induction p generalizing s with
  | done result =>
    obtain rfl : result = .error err := h
    rfl
  | call c next ih => exact ih (server.reply c s) h

theorem sent_bind_of_error {p : Program Reply ε α} {s : State} {err : ε}
    (h : (p.run server s).1 = .error err) (f : α → Program Reply ε β) :
    (p.bind f).sent server s = p.sent server s := by
  induction p generalizing s with
  | done result =>
    obtain rfl : result = .error err := h
    rfl
  | call c next ih => exact congrArg (c :: ·) (ih (server.reply c s) h)

/-- A sequence succeeds when its first part does, and the rest from there on. -/
theorem run_bind_eq_ok {p : Program Reply ε α} {f : α → Program Reply ε β} {s t : State} {b : β} :
    (p.bind f).run server s = (.ok b, t) ↔
      ∃ a u, p.run server s = (.ok a, u) ∧ (f a).run server u = (.ok b, t) := by
  induction p generalizing s with
  | done result =>
    cases result with
    | error err =>
      constructor
      · intro h
        cases congrArg Prod.fst h
      · rintro ⟨a, u, h, -⟩
        cases congrArg Prod.fst h
    | ok a =>
      constructor
      · intro h
        exact ⟨a, s, rfl, h⟩
      · rintro ⟨_, _, ⟨⟩, h⟩
        exact h
  | call c next ih => exact ih (server.reply c s)

/-- After a check that succeeds, a sequence does what its rest does. -/
theorem run_done_bind_eq_ok {result : Except ε α} {f : α → Program Reply ε β} {s t : State}
    {b : β} : ((done result : Program Reply ε α).bind f).run server s = (.ok b, t) ↔
      ∃ a, result = .ok a ∧ (f a).run server s = (.ok b, t) := by
  rw [run_bind_eq_ok]
  constructor
  · rintro ⟨a, u, hdone, h⟩
    obtain ⟨rfl, rfl⟩ := (run_done_eq_ok server).mp hdone
    exact ⟨a, rfl, h⟩
  · rintro ⟨a, rfl, h⟩
    exact ⟨a, s, rfl, h⟩

/-- A sequence that fails does so in its first part, or in the rest from there on. -/
theorem error_of_run_bind {p : Program Reply ε α} {f : α → Program Reply ε β} {s : State}
    {err : ε} (h : ((p.bind f).run server s).1 = .error err) :
    (p.run server s).1 = .error err ∨
      ∃ a u, p.run server s = (.ok a, u) ∧ ((f a).run server u).1 = .error err := by
  induction p generalizing s with
  | done result =>
    cases result with
    | error err' => exact .inl (congrArg Except.error (Except.error.inj h))
    | ok a => exact .inr ⟨a, s, rfl, h⟩
  | call c next ih => exact ih (server.reply c s) h

/-- What the first part sends, the sequence sends. -/
theorem mem_sent_bind {p : Program Reply ε α} {s : State} {c : Call}
    (h : c ∈ p.sent server s) (f : α → Program Reply ε β) :
    c ∈ (p.bind f).sent server s := by
  induction p generalizing s with
  | done result => cases h
  | call d next ih =>
    obtain rfl | h := List.mem_cons.mp h
    · exact List.mem_cons_self
    · exact List.mem_cons_of_mem d (ih (server.reply d s) h)

/-- A sequence sends what its first part does, and what its rest does if that succeeds. -/
theorem mem_sent_bind_iff {p : Program Reply ε α} {f : α → Program Reply ε β} {s : State}
    {c : Call} : c ∈ (p.bind f).sent server s ↔
      c ∈ p.sent server s ∨ ∃ a u, p.run server s = (.ok a, u) ∧ c ∈ (f a).sent server u := by
  induction p generalizing s with
  | done result =>
    cases result with
    | error err => simp [Program.bind, sent, run]
    | ok a => simp [Program.bind, sent, run]
  | call d next ih =>
    show c ∈ d :: ((next (server.reply d s)).bind f).sent server (server.next d s) ↔ _
    rw [List.mem_cons, ih, sent_call, List.mem_cons, run_call, or_assoc]

/-- After a check that succeeds, a sequence sends what its rest does. -/
theorem mem_sent_done_bind {result : Except ε α} {f : α → Program Reply ε β} {s : State} {c : Call} :
    c ∈ ((done result : Program Reply ε α).bind f).sent server s ↔
      ∃ a, result = .ok a ∧ c ∈ (f a).sent server s := by
  cases result with
  | error err =>
    constructor
    · intro h
      cases h
    · rintro ⟨_, h, -⟩
      cases h
  | ok a =>
    constructor
    · intro h
      exact ⟨a, rfl, h⟩
    · rintro ⟨_, ⟨⟩, h⟩
      exact h

/-! ## Programs that are refused -/

/-- From `s` the program ends with an error, and every call it makes is allowed. -/
structure Refused (allowed : Call → Prop) (p : Program Reply ε α) (s : State) : Prop where
  error : ∃ err, (p.run server s).1 = .error err
  allowed : ∀ c ∈ p.sent server s, allowed c

variable {server} {allowed : Call → Prop}

theorem refused_error (err : ε) (s : State) :
    Refused server allowed (done (.error err) : Program Reply ε α) s :=
  ⟨⟨err, rfl⟩, fun _ h => absurd h List.not_mem_nil⟩

theorem Refused.call {c : Call} {next : Reply c → Program Reply ε α} {s : State}
    (hc : allowed c) (h : Refused server allowed (next (server.reply c s)) (server.next c s)) :
    Refused server allowed (call c next) s :=
  ⟨h.error, List.forall_mem_cons.mpr ⟨hc, h.allowed⟩⟩

/-- A refused check guards everything that follows it. -/
theorem Refused.bind {p : Program Reply ε α} {s : State} (h : Refused server allowed p s)
    (f : α → Program Reply ε β) : Refused server allowed (p.bind f) s := by
  obtain ⟨err, herr⟩ := h.error
  refine ⟨⟨err, ?_⟩, ?_⟩
  · rw [run_bind_of_error server herr]
  · rw [sent_bind_of_error server herr]
    exact h.allowed

/-- Calls that leave every state as it is leave the last state as the first. -/
theorem run_snd_of_sent {p : Program Reply ε α} {s : State}
    (h : ∀ c ∈ p.sent server s, ∀ t, server.next c t = t) : (p.run server s).2 = s := by
  induction p generalizing s with
  | done result => rfl
  | call c next ih =>
    have hc : server.next c s = s := h c List.mem_cons_self s
    rw [run_call, hc]
    apply ih
    intro d hd
    apply h d
    rw [sent_call, hc]
    exact List.mem_cons_of_mem c hd

/-- Where the calls that are allowed change nothing, a refused program changes nothing. -/
theorem Refused.run_snd {p : Program Reply ε α} {s : State} (h : Refused server allowed p s)
    (hread : ∀ c, allowed c → ∀ t, server.next c t = t) : (p.run server s).2 = s :=
  run_snd_of_sent fun c hc => hread c (h.allowed c hc)

end Program

end Calls

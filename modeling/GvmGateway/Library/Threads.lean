import GvmGateway.Library.Calls
import GvmGateway.Library.FiniteMap
import GvmGateway.Library.TransitionSystem

/-!
# Programs that interleave over a shared state

Any number of threads, each of them a program of calls, take turns in any order. A call is
performed on the shared state in one step; what the state leaves open is an event that the
environment supplies. A thread that is dropped is one that takes no further step.

A `Protocol` says what a thread may call, given what it owns and knows, and what it owns and
knows after the reply. `Keeps` checks one program against it, call by call and without looking
at the other threads; `Threads.invariant` is the rule for all of them together: an invariant of
the shared state holds in every reachable one, if each call that the protocol allows keeps it,
gives its thread what the protocol promises, and takes nothing away from the others.
-/

namespace Calls

open TransitionSystem

variable {Call Tag S Event ε α β Ghost : Type} {Reply : Call → Type}

/-! ## Protocols -/

/-- The calls that a thread with some ghost state may make, and its ghost state after one. -/
structure Protocol {Call : Type} (Reply : Call → Type) (Ghost : Type) where
  enabled : Ghost → Call → Prop
  after : Ghost → (c : Call) → Reply c → Ghost → Prop

namespace Program

variable {P : Protocol Reply Ghost}

/-- From a ghost state, the program makes the calls of the protocol only, and ends without an
error in a ghost state with `Q`. -/
def Keeps (P : Protocol Reply Ghost) (Q : Ghost → α → Prop) : Ghost → Program Reply ε α → Prop
  | g, done (.ok a) => Q g a
  | _, done (.error _) => True
  | g, call c next => P.enabled g c ∧ ∀ reply g', P.after g c reply g' → Keeps P Q g' (next reply)

theorem Keeps.bind {Q : Ghost → α → Prop} {R : Ghost → β → Prop} {g : Ghost}
    {p : Program Reply ε α} {f : α → Program Reply ε β} (hp : Keeps P Q g p)
    (hf : ∀ g' a, Q g' a → Keeps P R g' (f a)) : Keeps P R g (p.bind f) := by
  induction p generalizing g with
  | done result =>
    cases result with
    | ok a => exact hf g a hp
    | error err => trivial
  | call c next ih => exact ⟨hp.1, fun reply g' hafter => ih reply (hp.2 reply g' hafter)⟩

theorem Keeps.imp {Q R : Ghost → α → Prop} {g : Ghost} {p : Program Reply ε α}
    (hp : Keeps P Q g p) (hQR : ∀ g' a, Q g' a → R g' a) : Keeps P R g p := by
  induction p generalizing g with
  | done result =>
    cases result with
    | ok a => exact hQR g a hp
    | error err => trivial
  | call c next ih => exact ⟨hp.1, fun reply g' hafter => ih reply (hp.2 reply g' hafter)⟩

end Program

/-! ## Threads -/

/-- A thread performs a call: its reply and the next shared state, where the call is enabled. -/
abbrev Perform {Call : Type} (Reply : Call → Type) (Tag S Event : Type) : Type :=
  S → ℕ → Tag → (c : Call) → Event → Option (Reply c × S)

/-- The threads that have started, by number: what each was started as, and its rest. -/
structure Threads (Reply : Call → Type) (Tag S ε α : Type) where
  shared : S
  threads : AList fun _ : ℕ => Tag × Program Reply ε α

namespace Threads

inductive Action (Tag Event : Type) where
  | start (id : ℕ) (tag : Tag)
  | perform (id : ℕ) (event : Event)

def new (s : S) : Threads Reply Tag S ε α where
  shared := s
  threads := ∅

variable (program : Tag → Program Reply ε α) (perform : Perform Reply Tag S Event)

def start (w : Threads Reply Tag S ε α) (id : ℕ) (tag : Tag) :
    Option (Threads Reply Tag S ε α) :=
  match w.threads.lookup id with
  | some _ => none
  | none => some { w with threads := w.threads.insert id (tag, program tag) }

/-- A thread makes its next call. -/
def advance (w : Threads Reply Tag S ε α) (id : ℕ) (event : Event) :
    Option (Threads Reply Tag S ε α) :=
  match w.threads.lookup id with
  | some (tag, .call c next) =>
    match perform w.shared id tag c event with
    | some (reply, s) => some ⟨s, w.threads.insert id (tag, next reply)⟩
    | none => none
  | some (_, .done _) | none => none

def step (w : Threads Reply Tag S ε α) : Action Tag Event → Option (Threads Reply Tag S ε α)
  | .start id tag => w.start program id tag
  | .perform id event => w.advance perform id event

variable {program : Tag → Program Reply ε α} {perform : Perform Reply Tag S Event}
variable {w w' : Threads Reply Tag S ε α}

theorem start_eq_some {id : ℕ} {tag : Tag} (h : w.start program id tag = some w') :
    w' = { w with threads := w.threads.insert id (tag, program tag) } := by
  unfold start at h
  split at h
  · cases h
  · exact (Option.some.inj h).symm

theorem advance_eq_some {id : ℕ} {event : Event} (h : w.advance perform id event = some w') :
    ∃ tag c next reply s, w.threads.lookup id = some (tag, .call c next) ∧
      perform w.shared id tag c event = some (reply, s) ∧
      w' = ⟨s, w.threads.insert id (tag, next reply)⟩ := by
  unfold advance at h
  split at h
  · next tag c next hid =>
    split at h
    · next reply s hperform =>
      exact ⟨tag, c, next, reply, s, hid, hperform, (Option.some.inj h).symm⟩
    · cases h
  · cases h
  · cases h

/-! ## The rule -/

/-- A protocol for every thread, the truth of its ghost state, and the invariant. -/
structure Sound (program : Tag → Program Reply ε α) (perform : Perform Reply Tag S Event)
    (P : ℕ → Tag → Protocol Reply Ghost) (owns : ℕ → Tag → S → Ghost → Prop)
    (I : S → Prop) : Prop where
  start : ∀ id tag s, I s → ∃ g, owns id tag s g ∧
    (program tag).Keeps (P id tag) (fun _ _ => True) g
  own : ∀ id tag s g c event reply t, I s → owns id tag s g → (P id tag).enabled g c →
    perform s id tag c event = some (reply, t) →
    I t ∧ ∃ g', (P id tag).after g c reply g' ∧ owns id tag t g'
  other : ∀ id tag s g c event reply t, I s → owns id tag s g → (P id tag).enabled g c →
    perform s id tag c event = some (reply, t) →
    ∀ j tag' g', j ≠ id → owns j tag' s g' → owns j tag' t g'

/-- The invariant holds, and every thread is in a ghost state from which it keeps its protocol. -/
structure Holds (P : ℕ → Tag → Protocol Reply Ghost) (owns : ℕ → Tag → S → Ghost → Prop)
    (I : S → Prop) (w : Threads Reply Tag S ε α) : Prop where
  shared : I w.shared
  threads : ∀ id tag p, w.threads.lookup id = some (tag, p) →
    ∃ g, owns id tag w.shared g ∧ p.Keeps (P id tag) (fun _ _ => True) g

variable {P : ℕ → Tag → Protocol Reply Ghost} {owns : ℕ → Tag → S → Ghost → Prop}
variable {I : S → Prop}

theorem Holds.start {id : ℕ} {tag : Tag} (hsound : Sound program perform P owns I)
    (hw : w.Holds P owns I) (h : w.start program id tag = some w') : w'.Holds P owns I := by
  obtain rfl := start_eq_some h
  refine ⟨hw.shared, fun j tag' p hj => ?_⟩
  have hall := AList.forall_lookup_insert (m := w.threads) (k := id) (v := (tag, program tag))
    (P := fun j th => ∃ g, owns j th.1 w.shared g ∧ th.2.Keeps (P j th.1) (fun _ _ => True) g)
    (hsound.start id tag w.shared hw.shared) (fun j th _ hj => hw.threads j th.1 th.2 hj)
  exact hall j (tag', p) hj

/-- A call of a thread: its own ghost state moves on, and those of the others stay. -/
theorem Holds.advance {id : ℕ} {event : Event} (hsound : Sound program perform P owns I)
    (hw : w.Holds P owns I) (h : w.advance perform id event = some w') : w'.Holds P owns I := by
  obtain ⟨tag, c, next, reply, s, hid, hperform, rfl⟩ := advance_eq_some h
  obtain ⟨g, howns, henabled, hnext⟩ := hw.threads id tag _ hid
  obtain ⟨hs, g', hafter, howns'⟩ :=
    hsound.own id tag _ g c event reply s hw.shared howns henabled hperform
  refine ⟨hs, fun j tag' p hj => ?_⟩
  have hall := AList.forall_lookup_insert (m := w.threads) (k := id) (v := (tag, next reply))
    (P := fun j th => ∃ g, owns j th.1 s g ∧ th.2.Keeps (P j th.1) (fun _ _ => True) g)
    ⟨g', howns', hnext reply g' hafter⟩ fun j th hne hj => by
      obtain ⟨g₂, howns₂, hkeeps₂⟩ := hw.threads j th.1 th.2 hj
      exact ⟨g₂, hsound.other id tag _ g c event reply s hw.shared howns henabled hperform j th.1
        g₂ hne howns₂, hkeeps₂⟩
  exact hall j (tag', p) hj

/-- What every call that the protocol allows keeps holds in every reachable state. -/
theorem invariant (hsound : Sound program perform P owns I) {s : S}
    {as : List (Action Tag Event)} (hs : I s)
    (hrun : run (step program perform) (new s) as = some w') : I w'.shared := by
  have hnew : (new s : Threads Reply Tag S ε α).Holds P owns I :=
    ⟨hs, fun id tag p h => by cases h⟩
  have hlast : w'.Holds P owns I := by
    refine TransitionSystem.invariant (I := Holds P owns I) ?_ hrun hnew
    intro u a v hu h
    cases a with
    | start id tag => exact hu.start hsound h
    | perform id event => exact hu.advance hsound h
  exact hlast.shared

end Threads

end Calls

import GvmGateway.Library.FiniteMap
import GvmGateway.Library.TransitionSystem

/-!
# The backend connection of a session

All calls of one session share one `GmpClient`. A call takes one of the command slots, waits
for the mutex, writes its command, and returns the next response on the stream; the guard is
dropped with the call, wherever that ends. The backend answers the commands in their order.
Nothing on the client remembers that a call was dropped before it had read its response.

A command, and the response to it, is named by the call that wrote it.
-/

namespace GvmGateway

def maxSessionCommandsInFlightOrWaiting : ℕ := 64

/-- Who makes a call. -/
inductive Caller where
  | request
  /-- The export worker of a job. -/
  | worker (jobId : String)
deriving DecidableEq, Repr

/-- Where a call on a `SessionClient` stands. -/
inductive CallStage where
  /-- `session_client` has found the client. -/
  | found
  /-- It has a slot, and waits for the mutex. -/
  | waiting
  /-- It has the guard, and has written nothing. -/
  | holding
  /-- It has written its command, and awaits the response. -/
  | written
  | returned (response : ℕ)
  /-- No slot was free: "session command queue saturated". -/
  | saturated
  /-- The future was dropped, with its command `written` or not. -/
  | dropped (written : Bool)
deriving DecidableEq, Repr

/-- The call is over. -/
def CallStage.isOver : CallStage → Bool
  | .found | .waiting | .holding | .written => false
  | .returned _ | .saturated | .dropped _ => true

structure Call where
  caller : Caller
  stage : CallStage
deriving DecidableEq, Repr

/-- The client, the stream behind it, and the calls made so far. -/
structure SessionClient where
  commandSlots : ℕ
  /-- The call that holds the mutex, and those that wait for it, in their order. -/
  holder : Option ℕ
  waiting : List ℕ
  /-- Commands that the backend has not answered. -/
  unanswered : List ℕ
  /-- Responses that nobody has read. -/
  responses : List ℕ
  calls : AList fun _ : ℕ => Call

namespace SessionClient

/-- `SessionClient::new`. -/
def new : SessionClient :=
  { commandSlots := maxSessionCommandsInFlightOrWaiting
    holder := none
    waiting := []
    unanswered := []
    responses := []
    calls := ∅ }

def setCall (c : SessionClient) (id : ℕ) (call : Call) : SessionClient :=
  { c with calls := c.calls.insert id call }

/-- A new call has a reference to the client. -/
def enter (c : SessionClient) (id : ℕ) (caller : Caller) : Option SessionClient :=
  if (c.calls.lookup id).isSome then none else some (c.setCall id ⟨caller, .found⟩)

/-- `SessionClient::lock`, up to the wait for the mutex. -/
def lock (c : SessionClient) (id : ℕ) : Option SessionClient :=
  match c.calls.lookup id with
  | some ⟨caller, .found⟩ =>
    if c.commandSlots = 0 then some (c.setCall id ⟨caller, .saturated⟩)
    else
      some { c.setCall id ⟨caller, .waiting⟩ with
        commandSlots := c.commandSlots - 1, waiting := c.waiting ++ [id] }
  | _ => none

/-- The mutex is free, and goes to the first call that waits. -/
def acquire (c : SessionClient) : Option SessionClient :=
  match c.holder, c.waiting with
  -- tokio's mutex is fair: the one that has waited longest
  | none, id :: waiting =>
    match c.calls.lookup id with
    | some call =>
      some { c.setCall id { call with stage := .holding } with
        holder := some id, waiting := waiting }
    | none => none
  | _, _ => none

/-- `GmpClient::call` writes the command. -/
def write (c : SessionClient) (id : ℕ) : Option SessionClient :=
  match c.calls.lookup id with
  | some ⟨caller, .holding⟩ =>
    some { c.setCall id ⟨caller, .written⟩ with unanswered := c.unanswered ++ [id] }
  | _ => none

/-- The backend answers the oldest command. -/
def answer (c : SessionClient) : Option SessionClient :=
  match c.unanswered with
  | id :: unanswered =>
    some { c with unanswered := unanswered, responses := c.responses ++ [id] }
  | [] => none

/-- The guard and its slot are dropped. -/
def release (c : SessionClient) : SessionClient :=
  { c with holder := none, commandSlots := c.commandSlots + 1 }

/-- `GmpClient::call` returns the next response, and the guard is dropped. -/
def read (c : SessionClient) (id : ℕ) : Option SessionClient :=
  match c.calls.lookup id, c.responses with
  | some ⟨caller, .written⟩, response :: responses =>
    some { c.release.setCall id ⟨caller, .returned response⟩ with responses := responses }
  | _, _ => none

/-- The future of a call is dropped where it awaits. -/
def drop (c : SessionClient) (id : ℕ) : Option SessionClient :=
  match c.calls.lookup id with
  | some ⟨caller, .waiting⟩ =>
    some { c.setCall id ⟨caller, .dropped false⟩ with
      commandSlots := c.commandSlots + 1, waiting := c.waiting.erase id }
  | some ⟨caller, .holding⟩ => some (c.release.setCall id ⟨caller, .dropped false⟩)
  | some ⟨caller, .written⟩ => some (c.release.setCall id ⟨caller, .dropped true⟩)
  | _ => none

/-- What can happen to the client next. -/
inductive Op where
  | enter (id : ℕ) (caller : Caller)
  | lock (id : ℕ)
  | acquire
  | write (id : ℕ)
  | answer
  | read (id : ℕ)
  | drop (id : ℕ)
deriving DecidableEq, Repr

def step (c : SessionClient) : Op → Option SessionClient
  | .enter id caller => c.enter id caller
  | .lock id => c.lock id
  | .acquire => c.acquire
  | .write id => c.write id
  | .answer => c.answer
  | .read id => c.read id
  | .drop id => c.drop id

end SessionClient
end GvmGateway

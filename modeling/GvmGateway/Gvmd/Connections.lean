import GvmGateway.Gvmd.Credentials
import GvmGateway.Library.Threads

/-!
# The connections of the adapter

`GvmdAdapter`: the map of sessions, and the connections to gvmd behind it, on which any number
of logins, logouts and operations interleave. What gvmd and its transport answer is up to the
environment. A connection keeps what was exchanged on it; its client belongs to the login that
opened it until it enters the map.
-/

namespace GvmGateway.Gvmd

open Calls SessionTokenDigest

/-- The calls of the adapter's ports. A request of another port is a command that is not one of
the credentials port. -/
inductive PortCall (Digest : Type) where
  | connectSession (token username password : String)
  | disconnectSession (session : Digest)
  | callWithSession (token operation : String)
  | listCredentialStores (token : String)
  | getCredentialStore (token id : String)
  | modifyCredentialStore (token id : String) (input : ModifyCredentialStoreInput)
  | verifyCredentialStore (token id : String)
  | listCredentials (token : String) (query : CredentialQuery)
  | createCredential (token : String) (input : CreateCredentialInput)
  | getCredential (token id : String)
  | modifyCredential (token id : String) (input : ModifyCredentialInput)
  | deleteCredential (token id : String) (ultimate : Bool)
deriving DecidableEq, Repr

namespace PortCall

variable {Digest : Type} (gmp : Gmp)

/-- The program of a call, without its result. -/
def program : PortCall Digest → AdapterProgram Digest Unit
  | connectSession token username password => do
    let _ ← Gvmd.connectSession token username password
    return ()
  | disconnectSession session => Gvmd.disconnectSession session
  | callWithSession token operation => Gvmd.callWithSession token (.other operation)
  | listCredentialStores token => do
    let _ ← Gvmd.listCredentialStores token
    return ()
  | getCredentialStore token id => do
    let _ ← Gvmd.getCredentialStore gmp token id
    return ()
  | modifyCredentialStore token id input => do
    let _ ← Gvmd.modifyCredentialStore gmp token id input
    return ()
  | verifyCredentialStore token id => Gvmd.verifyCredentialStore gmp token id
  | listCredentials token query => do
    let _ ← Gvmd.listCredentials gmp token query
    return ()
  | createCredential token input => do
    let _ ← Gvmd.createCredential gmp token input
    return ()
  | getCredential token id => do
    let _ ← Gvmd.getCredential gmp token id
    return ()
  | modifyCredential token id input => do
    let _ ← Gvmd.modifyCredential gmp token id input
    return ()
  | deleteCredential token id ultimate => Gvmd.deleteCredential gmp token id ultimate

/-- The token of the session that a call works in. -/
def token : PortCall Digest → Option String
  | disconnectSession _ => none
  | connectSession token _ _ | callWithSession token _ | listCredentialStores token
  | getCredentialStore token _ | modifyCredentialStore token _ _
  | verifyCredentialStore token _ | listCredentials token _ | createCredential token _
  | getCredential token _ | modifyCredential token _ _ | deleteCredential token _ _ => some token

end PortCall

/-- A command that a call has made on a connection, and its error, if it has failed. -/
structure Exchange (Digest : Type) where
  sender : ℕ
  call : PortCall Digest
  command : GmpCommand
  error : Option GvmError
deriving DecidableEq, Repr

/-- Who has the client of a connection. -/
inductive Holder (Digest : Type) where
  | login (id : ℕ)
  | session (session : Digest) (capability : CredentialStoreCapability)
deriving DecidableEq, Repr

/-- A connection to gvmd: who holds it, and what has been exchanged on it. -/
structure Connection (Digest : Type) where
  holder : Holder Digest
  exchanges : List (Exchange Digest)
deriving DecidableEq, Repr

/-- The session map and all connections ever opened. -/
structure AdapterState (Digest : Type) where
  sessions : AList fun _ : Digest => SharedClient
  connections : List (Connection Digest)

/-- What the environment decides: how an attempt to connect ends, how gvmd answers a command,
whether a client has a free slot. -/
inductive AdapterEvent where
  | connected (result : Except GvmError String)
  | answered (reply : (command : GmpCommand) → Except GvmError command.Response)
  | slot (free : Bool)
  | none

/-- `reply.err()`. -/
def errorOf {α : Type} : Except GvmError α → Option GvmError
  | .ok _ => none
  | .error err => some err

namespace AdapterState

variable {Digest : Type} [DecidableEq Digest] [SessionTokenDigest Digest]

omit [DecidableEq Digest] [SessionTokenDigest Digest] in
/-- `GvmdAdapter::unix_socket`. -/
def unixSocket : AdapterState Digest where
  sessions := ∅
  connections := []

omit [DecidableEq Digest] [SessionTokenDigest Digest] in
def setConnection (s : AdapterState Digest) (k : ℕ) (c : Connection Digest) :
    AdapterState Digest :=
  { s with connections := s.connections.set k c }

omit [DecidableEq Digest] [SessionTokenDigest Digest] in
/-- A client in a login is its own; one in the map is shared. -/
def Holder.admits : Holder Digest → ℕ → Bool
  | .login owner, id => owner = id
  | .session _ _, _ => true

omit [DecidableEq Digest] [SessionTokenDigest Digest] in
/-- A connection is opened, or refused. -/
def connect (s : AdapterState Digest) (id : ℕ) (result : Except GvmError String) :
    Except GvmError (ℕ × String) × AdapterState Digest :=
  match result with
  | .error err => (.error err, s)
  | .ok version =>
    (.ok (s.connections.length, version),
      { s with connections := s.connections ++ [⟨.login id, []⟩] })

omit [DecidableEq Digest] [SessionTokenDigest Digest] in
/-- A command on a connection, and its reply. -/
def exchange (s : AdapterState Digest) (id : ℕ) (call : PortCall Digest) (k : ℕ)
    (command : GmpCommand) (reply : Except GvmError command.Response) :
    Option (Except GvmError command.Response × AdapterState Digest) :=
  match s.connections[k]? with
  | none => none
  | some c =>
    if Holder.admits c.holder id then
      some (reply, s.setConnection k
        { c with exchanges := c.exchanges ++ [⟨id, call, command, errorOf reply⟩] })
    else none

/-- The client of a login enters the map. -/
def insert (s : AdapterState Digest) (id : ℕ) (token : String) (client : SharedClient) :
    Option (AdapterState Digest) :=
  match s.connections[client.connection]? with
  | none => none
  | some c =>
    if c.holder = .login id then
      some { s.setConnection client.connection
          { c with holder := .session (fromToken token) client.credentialStoreCapability } with
        sessions := s.sessions.insert (fromToken token) client }
    else none

/-- What a call of the adapter does. -/
def perform (s : AdapterState Digest) (id : ℕ) (tag : PortCall Digest)
    (c : AdapterCall Digest) (event : AdapterEvent) : Option (c.Reply × AdapterState Digest) :=
  match c, event with
  | .connect, .connected result => some (s.connect id result)
  | .call k command, .answered reply => s.exchange id tag k command (reply command)
  | .insert token client, .none => (s.insert id token client).map fun t => ((), t)
  | .get token, .none => some (s.sessions.lookup (fromToken token), s)
  -- a client whose queue is full has no slot
  | .lock _, .slot free => some (free, s)
  | .remove session, .none => some ((), { s with sessions := s.sessions.erase session })
  | _, _ => none

end AdapterState

end GvmGateway.Gvmd

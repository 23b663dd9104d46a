import GvmGateway.Gvmd.Connections

/-!
# The protocol of a call on the connections

What a call may do with a connection: a login authenticates on one that it has opened, probes it,
and stores it, or another one that it has opened after a probe that left the first in doubt; an
operation uses the clients that it finds under its token, and sends no credential-store command
on one whose login has found that gvmd does not expose these. Every call of the ports keeps it.
-/

namespace GvmGateway.Gvmd

open Calls SessionTokenDigest TransitionSystem

/-- The commands that read or write credential stores, or credentials in them. -/
def GmpCommand.usesCredentialStore : GmpCommand → Bool
  | .getCredentialStores | .getCredentialStore _ _ | .modifyCredentialStore _ _
  | .verifyCredentialStore _ | .createCredentialStoreCredential _ _ _ _ _
  | .modifyCredentialStoreCredential _ _ => true
  | .authenticate _ _ | .getFilter _ | .getCredentials _ | .createCredential _ _
  | .getCredential _ | .modifyCredential _ _ | .deleteCredential _ _ | .other _ => false

/-- The command that logs in. -/
def GmpCommand.isAuthenticate : GmpCommand → Bool
  | .authenticate _ _ => true
  | _ => false

/-- The call that opens a session. -/
def PortCall.isLogin {Digest : Type} : PortCall Digest → Bool
  | .connectSession _ _ _ => true
  | _ => false

/-- What a login makes of the outcome of its probe: the capability that it stores, and whether it
opens another connection for that. -/
def settleOutcome : Except GvmError CredentialStoreProbeOutcome → CredentialStoreProbeOutcome
  | .ok outcome => outcome
  | .error _ => ⟨.unknown, true⟩

/-- What a login makes of the error of its probe, if it has one. -/
def settle : Option GvmError → CredentialStoreProbeOutcome
  | none => settleOutcome (probeCredentialStoreCapability (.ok ()))
  | some err => settleOutcome (probeCredentialStoreCapability (.error err : Except GvmError Unit))

/-- Only the error of the probe decides what it settles. -/
theorem settle_errorOf {α : Type} (reply : Except GvmError α) :
    settle (errorOf reply) = settleOutcome (probeCredentialStoreCapability reply) := by
  cases reply with
  | ok a => rfl
  | error err => cases err <;> rfl

/-- A login stays on the connection that it has probed if the probe was answered, or refused
before it was sent. -/
theorem settle_stays {error : Option GvmError} (h : (settle error).requiresReconnect = false) :
    error = none ∨ ∃ display, error = some (.unsupportedCommand "get_credential_stores" display) := by
  cases error with
  | none => exact .inl rfl
  | some err =>
    right
    have hreconnect : ∀ b : Bool, (settleOutcome
        (if b then .ok ⟨.unsupported, true⟩ else .error err)).requiresReconnect = true := by
      intro b
      cases b <;> rfl
    cases err with
    | unsupportedCommand command display =>
      by_cases hcommand : command = "get_credential_stores"
      · exact ⟨display, by rw [hcommand]⟩
      · rw [settle, probeCredentialStoreCapability, if_neg hcommand] at h
        cases h
    | parse error => cases (hreconnect _).symm.trans h
    | server status message display => cases (hreconnect _).symm.trans h
    | timeout duration => cases (hreconnect false).symm.trans h
    | other display => cases (hreconnect false).symm.trans h

variable {Digest : Type}

/-- The successful login of a call. -/
def Exchange.login (id : ℕ) (call : PortCall Digest) (username password : String) :
    Exchange Digest :=
  ⟨id, call, .authenticate username password, none⟩

/-- The probe of a login. -/
def Exchange.probe (id : ℕ) (call : PortCall Digest) (error : Option GvmError) :
    Exchange Digest :=
  ⟨id, call, .getCredentialStores, error⟩

/-! ## The protocol of a call -/

/-- What was exchanged on the connections whose clients a call has to itself, and the clients
that it has found under its token. -/
structure Ghost (Digest : Type) where
  logs : ℕ → Option (List (Exchange Digest))
  known : List SharedClient

namespace Ghost

variable (g : Ghost Digest)

/-- Before any call. -/
def new : Ghost Digest where
  logs _ := none
  known := []

/-- The connection `k` is not shared, and has made these exchanges. -/
def setLog (k : ℕ) (log : List (Exchange Digest)) : Ghost Digest :=
  { g with logs := Function.update g.logs k (some log) }

/-- The connection `k` is shared, or closed. -/
def dropLog (k : ℕ) : Ghost Digest :=
  { g with logs := Function.update g.logs k none }

/-- A client that the session map has given out. -/
def learn (client : SharedClient) : Ghost Digest :=
  { g with known := client :: g.known }

/-- What an exchange adds to a log, where the call has one. -/
def record (k : ℕ) (x : Exchange Digest) : Ghost Digest :=
  match g.logs k with
  | some log => g.setLog k (log ++ [x])
  | none => g

end Ghost

/-- A command that an operation of a session may send on its client. -/
structure PortCall.Serves (call : PortCall Digest) (capability : CredentialStoreCapability)
    (command : GmpCommand) : Prop where
  operation : call.isLogin = false
  loggedIn : command.isAuthenticate = false
  supported : command.usesCredentialStore = true → capability ≠ .unsupported

/-- A login logs in on a new connection and probes it then; an operation uses the clients that
it has found. -/
inductive MayCall (id : ℕ) (call : PortCall Digest) (g : Ghost Digest) (k : ℕ) :
    GmpCommand → Prop
  | login {token username password : String}
      (connects : call = .connectSession token username password) (log : g.logs k = some []) :
      MayCall id call g k (.authenticate username password)
  | probe {token username password : String}
      (connects : call = .connectSession token username password)
      (log : g.logs k = some [.login id call username password]) :
      MayCall id call g k .getCredentialStores
  | operation {client : SharedClient} {command : GmpCommand} (known : client ∈ g.known)
      (connection : client.connection = k)
      (serves : call.Serves client.credentialStoreCapability command) :
      MayCall id call g k command

/-- A login stores a client that it has probed without a failure, or one that it has only logged
in on, with the verdict of a probe of its own. -/
inductive MayStore (id : ℕ) (call : PortCall Digest) (g : Ghost Digest) (token : String)
    (client : SharedClient) : Prop
  | probed {username password : String} {error : Option GvmError}
      (connects : call = .connectSession token username password)
      (outcome : settle error = ⟨client.credentialStoreCapability, false⟩)
      (log : g.logs client.connection
        = some [.login id call username password, .probe id call error])
  | reconnected {username password : String} {error : Option GvmError} {k : ℕ}
      (connects : call = .connectSession token username password)
      (outcome : settle error = ⟨client.credentialStoreCapability, true⟩)
      (log : g.logs client.connection = some [.login id call username password])
      (other : k ≠ client.connection)
      (probed : g.logs k = some [.login id call username password, .probe id call error])

/-- The protocol of a call. -/
def protocol (id : ℕ) (call : PortCall Digest) :
    Protocol (AdapterReply Digest) (Ghost Digest) where
  enabled g
    | .connect | .lock _ | .remove _ => True
    | .call k command => MayCall id call g k command
    | .insert token client => MayStore id call g token client
    | .get token => call.token = some token
  after g c reply g' :=
    match c, reply with
    | .connect, .ok (k, _) => g.logs k = none ∧ g' = g.setLog k []
    | .connect, .error _ => g' = g
    | .call k command, reply => g' = g.record k ⟨id, call, command, errorOf reply⟩
    | .insert _ client, _ => g' = g.dropLog client.connection
    | .get _, some client => g' = g.learn client
    | .get _, none => g' = g
    | .lock _, _ => g' = g
    | .remove _, _ => g' = g

/-! ## The programs keep it -/

section Programs

variable {id : ℕ} {call : PortCall Digest} {g : Ghost Digest} {α : Type}

/-- A check makes no call. -/
theorem keeps_lift {Q : Ghost Digest → α → Prop} {x : Except GatewayError α}
    (h : ∀ a, x = .ok a → Q g a) :
    Program.Keeps (protocol id call) Q g (liftM x : AdapterProgram Digest α) := by
  cases x with
  | ok a => exact h a rfl
  | error err => trivial

/-- A check ends the program, or leaves everything as it is. -/
theorem keeps_check {β : Type} {Q : Ghost Digest → β → Prop} {x : Except GatewayError α}
    {rest : α → AdapterProgram Digest β}
    (h : ∀ a, x = .ok a → (rest a).Keeps (protocol id call) Q g) :
    (do
      let a ← x
      rest a : AdapterProgram Digest β).Keeps (protocol id call) Q g := by
  cases x with
  | ok a => exact h a rfl
  | error err => trivial

/-- Mapping the error of a reply makes no call. -/
theorem keeps_mapReply {Q : Ghost Digest → α → Prop} {mapError : GvmError → GatewayError}
    {reply : Except GvmError α} (h : ∀ a, reply = .ok a → Q g a) :
    (mapReply mapError reply : AdapterProgram Digest α).Keeps (protocol id call) Q g := by
  cases reply with
  | ok a => exact h a rfl
  | error err => trivial

/-- A call that the protocol allows is recorded with its error. -/
theorem keeps_tryCall {k : ℕ} {command : GmpCommand} (h : MayCall id call g k command) :
    (tryCall k command : AdapterProgram Digest _).Keeps (protocol id call)
      (fun g' reply => g' = g.record k ⟨id, call, command, errorOf reply⟩) g :=
  ⟨h, fun _ _ hafter => hafter⟩

/-! ### Logging in -/

/-- An exchange on a connection of one's own is appended to its log. -/
theorem Ghost.record_of_log {k : ℕ} {log : List (Exchange Digest)} (x : Exchange Digest)
    (h : g.logs k = some log) : g.record k x = g.setLog k (log ++ [x]) := by
  unfold Ghost.record
  rw [h]

/-- The last of two logs set counts. -/
theorem Ghost.setLog_setLog (k : ℕ) (log log' : List (Exchange Digest)) :
    (g.setLog k log).setLog k log' = g.setLog k log' := by
  unfold Ghost.setLog
  simp

theorem Ghost.dropLog_setLog (k : ℕ) (log : List (Exchange Digest)) :
    (g.dropLog k).setLog k log = g.setLog k log := by
  unfold Ghost.setLog Ghost.dropLog
  simp

/-- A connection given up has no log. -/
theorem Ghost.logs_dropLog (k : ℕ) : (g.dropLog k).logs k = none := Function.update_self ..

theorem Ghost.logs_dropLog_of_ne {k j : ℕ} (h : j ≠ k) : (g.dropLog k).logs j = g.logs j :=
  Function.update_of_ne h ..

/-- A log that is set is there. -/
theorem Ghost.logs_setLog (k : ℕ) (log : List (Exchange Digest)) :
    (g.setLog k log).logs k = some log := Function.update_self ..

theorem Ghost.logs_setLog_of_ne {k j : ℕ} (log : List (Exchange Digest)) (h : j ≠ k) :
    (g.setLog k log).logs j = g.logs j := Function.update_of_ne h ..

/-- A new connection is one's own, with nothing exchanged on it. -/
theorem keeps_connectClient :
    (connectClient : AdapterProgram Digest _).Keeps (protocol id call)
      (fun g' client => g.logs client.1 = none ∧ g' = g.setLog client.1 []) g := by
  refine ⟨trivial, fun reply g' hafter => keeps_mapReply fun client hreply => ?_⟩
  subst hreply
  exact hafter

/-- `connect_authenticated_client` then has one exchange on it, the login of the call. -/
theorem keeps_connectAuthenticatedClient {token username password : String}
    (hcall : call = .connectSession token username password) :
    (connectAuthenticatedClient username password : AdapterProgram Digest _).Keeps
      (protocol id call) (fun g' client => g.logs client.1 = none ∧
        g' = g.setLog client.1 [.login id call username password]) g := by
  refine keeps_connectClient.bind fun g₁ client hconnect => ?_
  obtain ⟨hnone, rfl⟩ := hconnect
  refine (keeps_tryCall (.login hcall (Ghost.logs_setLog ..))).bind fun g₂ reply hreply => ?_
  rw [Ghost.record_of_log _ (Ghost.logs_setLog ..), Ghost.setLog_setLog] at hreply
  refine Program.Keeps.bind (Q := fun g' _ => g' = g₂ ∧ errorOf reply = none)
    (keeps_mapReply fun _ hok => ⟨rfl, by rw [hok]; rfl⟩) fun g₃ _ hok => ?_
  obtain ⟨rfl, herror⟩ := hok
  rw [herror] at hreply
  exact ⟨hnone, hreply⟩

/-- The client that a login stores meets the protocol, whichever way its probe has ended. -/
theorem keeps_settleClient {token username password : String} {k : ℕ} {error : Option GvmError}
    {outcome : Except GvmError CredentialStoreProbeOutcome}
    (hcall : call = .connectSession token username password)
    (hlog : g.logs k = some [.login id call username password, .probe id call error])
    (hsettle : settle error = settleOutcome outcome) :
    (settleClient k username password outcome : AdapterProgram Digest _).Keeps
      (protocol id call) (fun g' client => MayStore id call g' token client) g := by
  -- a second login, on a connection other than the one just probed
  have hagain : ∀ capability, settle error = ⟨capability, true⟩ →
      (do
        let client ← connectAuthenticatedClient username password
        return ⟨client.1, capability⟩ : AdapterProgram Digest SharedClient).Keeps
      (protocol id call) (fun g' client => MayStore id call g' token client) g := by
    intro capability houtcome
    refine (keeps_connectAuthenticatedClient hcall).bind fun g' client hclient => ?_
    obtain ⟨hnone, rfl⟩ := hclient
    have hne : k ≠ client.1 := by
      intro heq
      rw [heq, hnone] at hlog
      cases hlog
    refine .reconnected hcall houtcome (Ghost.logs_setLog ..) hne ?_
    rw [Ghost.logs_setLog_of_ne _ hne]
    exact hlog
  cases outcome with
  | error err => exact hagain .unknown hsettle
  | ok o =>
    obtain ⟨capability, _ | _⟩ := o
    · exact .probed hcall hsettle hlog
    · exact hagain capability hsettle

/-- `connect_session` keeps to the protocol: it shares the connection that it has settled. -/
theorem keeps_connectSession {token username password : String}
    (hcall : call = .connectSession token username password) :
    (connectSession token username password : AdapterProgram Digest _).Keeps (protocol id call)
      (fun _ _ => True) g := by
  refine (keeps_connectAuthenticatedClient hcall).bind fun g₁ client hclient => ?_
  obtain ⟨-, rfl⟩ := hclient
  refine (keeps_tryCall (.probe hcall (Ghost.logs_setLog ..))).bind fun g₂ reply hreply => ?_
  rw [Ghost.record_of_log _ (Ghost.logs_setLog ..), Ghost.setLog_setLog] at hreply
  have hlog : g₂.logs client.1
      = some [.login id call username password, .probe id call (errorOf reply)] := by
    rw [hreply]
    exact Ghost.logs_setLog ..
  refine (keeps_settleClient hcall hlog (settle_errorOf reply)).bind fun g₃ stored hstored => ?_
  exact ⟨hstored, fun _ _ _ => trivial⟩

/-! ### Operations of a session -/

/-- A call that has no client to itself. -/
def Ghost.Idle (g : Ghost Digest) : Prop := ∀ k, g.logs k = none

/-- An operation may have found further clients. -/
structure Ghost.Extends (g g' : Ghost Digest) : Prop where
  idle : g'.Idle
  known : ∀ client ∈ g.known, client ∈ g'.known

/-- A caller with no connection of its own has learnt what it knew. -/
theorem Ghost.Idle.extends (hg : g.Idle) : g.Extends g := ⟨hg, fun _ h => h⟩

/-- What is learnt first is known after the second. -/
theorem Ghost.Extends.trans {g₁ g₂ : Ghost Digest} (h₁ : g.Extends g₁) (h₂ : g₁.Extends g₂) :
    g.Extends g₂ :=
  ⟨h₂.idle, fun client h => h₂.known client (h₁.known client h)⟩

/-- An exchange on a shared connection leaves no log. -/
theorem Ghost.Idle.record (hg : g.Idle) (k : ℕ) (x : Exchange Digest) : g.record k x = g := by
  unfold Ghost.record
  rw [hg k]

variable {token : String} {client : SharedClient}

/-- `session_client` learns the client of the token. -/
theorem keeps_sessionClient (hg : g.Idle) (htoken : call.token = some token) :
    (sessionClient token : AdapterProgram Digest _).Keeps (protocol id call)
      (fun g' client => g.Extends g' ∧ client ∈ g'.known) g := by
  refine ⟨htoken, fun reply g' hafter => ?_⟩
  cases reply with
  | none => trivial
  | some client =>
    obtain rfl : g' = g.learn client := hafter
    exact ⟨⟨hg, fun c hc => List.mem_cons_of_mem client hc⟩, List.mem_cons_self⟩

/-- The lock of a client makes no exchange. -/
theorem keeps_locked {Q : Ghost Digest → α → Prop} {rest : AdapterProgram Digest α}
    (h : rest.Keeps (protocol id call) Q g) :
    (do
      let _ ← lockClient client
      rest : AdapterProgram Digest α).Keeps (protocol id call) Q g := by
  refine ⟨trivial, fun free g' hafter => ?_⟩
  obtain rfl : g' = g := hafter
  cases free with
  | true => exact h
  | false => trivial

/-- A command that the client serves is allowed on it. -/
theorem keeps_exchange {mapError : GvmError → GatewayError} {command : GmpCommand} (hg : g.Idle)
    (hclient : client ∈ g.known)
    (hserves : call.Serves client.credentialStoreCapability command) :
    (exchange client mapError command : AdapterProgram Digest _).Keeps (protocol id call)
      (fun g' _ => g.Extends g') g := by
  refine (keeps_tryCall (.operation hclient rfl hserves)).bind fun g' reply hreply => ?_
  rw [hg.record] at hreply
  subst hreply
  exact keeps_mapReply fun _ _ => hg.extends

/-- A call that works in a session. -/
structure PortCall.Operates (call : PortCall Digest) (token : String) : Prop where
  operation : call.isLogin = false
  token : call.token = some token

variable (hcall : call.Operates token)

include hcall

/-- An operation may send every command but the login and those of credential stores. -/
theorem PortCall.Operates.serves {capability : CredentialStoreCapability} {command : GmpCommand}
    (hlogin : command.isAuthenticate = false) (hstore : command.usesCredentialStore = false) :
    call.Serves capability command :=
  ⟨hcall.operation, hlogin, fun h => by rw [hstore] at h; cases h⟩

theorem PortCall.Operates.serves_of_supported {command : GmpCommand}
    (hlogin : command.isAuthenticate = false)
    (h : ensureCredentialStoresSupported client = .ok ()) :
    call.Serves client.credentialStoreCapability command := by
  refine ⟨hcall.operation, hlogin, fun _ hunsupported => ?_⟩
  unfold ensureCredentialStoresSupported at h
  rw [if_pos hunsupported] at h
  cases h

/-- An operation starts with the client of its session, locked. -/
theorem keeps_found {Q : Ghost Digest → α → Prop} {rest : SharedClient → AdapterProgram Digest α}
    (hg : g.Idle) (hrest : ∀ g' client, g.Extends g' → client ∈ g'.known →
      (rest client).Keeps (protocol id call) Q g') :
    (do
      let client ← sessionClient token
      let _ ← lockClient client
      rest client : AdapterProgram Digest α).Keeps (protocol id call) Q g := by
  refine (keeps_sessionClient hg hcall.token).bind fun g₁ client ⟨hext, hknown⟩ => ?_
  exact keeps_locked (hrest g₁ client hext hknown)

/-- A credential-store operation ends there if the client does not support it. -/
theorem keeps_supported {Q : Ghost Digest → α → Prop}
    {rest : SharedClient → AdapterProgram Digest α} (hg : g.Idle)
    (hrest : ∀ g' client, g.Extends g' → client ∈ g'.known →
      ensureCredentialStoresSupported client = .ok () →
      (rest client).Keeps (protocol id call) Q g') :
    (do
      let client ← sessionClient token
      let _ ← ensureCredentialStoresSupported client
      let _ ← lockClient client
      rest client : AdapterProgram Digest α).Keeps (protocol id call) Q g := by
  refine (keeps_sessionClient hg hcall.token).bind fun g₁ client ⟨hext, hknown⟩ => ?_
  exact keeps_check fun _ hsupported => keeps_locked (hrest g₁ client hext hknown hsupported)

/-- `call_with_session` keeps to the protocol. -/
theorem keeps_callWithSession {command : GmpCommand} (hg : g.Idle)
    (hlogin : command.isAuthenticate = false) (hstore : command.usesCredentialStore = false) :
    (callWithSession token command : AdapterProgram Digest _).Keeps (protocol id call)
      (fun g' _ => g.Extends g') g := by
  refine keeps_found hcall hg fun g₁ client hext hknown => ?_
  exact (keeps_exchange hext.idle hknown (hcall.serves hlogin hstore)).imp
    fun _ _ h => hext.trans h

/-- `list_credential_stores` asks for support before it sends. -/
theorem keeps_listCredentialStores (hg : g.Idle) :
    (listCredentialStores token : AdapterProgram Digest _).Keeps (protocol id call)
      (fun g' _ => g.Extends g') g := by
  refine keeps_supported hcall hg fun g₁ client hext hknown hsupported => ?_
  refine (keeps_exchange hext.idle hknown (hcall.serves_of_supported rfl hsupported)).bind
    fun _ _ h => ?_
  exact hext.trans h

variable {gmp : Gmp} {resource : String}

/-- `get_credential_store` asks for support before it sends. -/
theorem keeps_getCredentialStore (hg : g.Idle) :
    (getCredentialStore gmp token resource : AdapterProgram Digest _).Keeps (protocol id call)
      (fun g' _ => g.Extends g') g := by
  refine keeps_supported hcall hg fun g₁ client hext hknown hsupported => ?_
  refine keeps_check fun storeId _ => ?_
  refine (keeps_exchange hext.idle hknown (hcall.serves_of_supported rfl hsupported)).bind
    fun g₃ _ h => ?_
  exact keeps_lift fun _ _ => hext.trans h

/-- `modify_credential_store` -/
theorem keeps_modifyCredentialStore {input : ModifyCredentialStoreInput} (hg : g.Idle) :
    (modifyCredentialStore gmp token resource input : AdapterProgram Digest _).Keeps
      (protocol id call) (fun g' _ => g.Extends g') g := by
  refine keeps_supported hcall hg fun g₁ client hext hknown hsupported => ?_
  refine keeps_check fun storeId _ => ?_
  refine (keeps_exchange hext.idle hknown (hcall.serves_of_supported rfl hsupported)).bind
    fun g₃ _ h => ?_
  exact (keeps_getCredentialStore hcall h.idle).imp fun _ _ h' => (hext.trans h).trans h'

theorem keeps_verifyCredentialStore (hg : g.Idle) :
    (verifyCredentialStore gmp token resource : AdapterProgram Digest _).Keeps (protocol id call)
      (fun g' _ => g.Extends g') g := by
  refine keeps_supported hcall hg fun g₁ client hext hknown hsupported => ?_
  refine keeps_check fun storeId _ => ?_
  exact (keeps_exchange hext.idle hknown (hcall.serves_of_supported rfl hsupported)).imp
    fun _ _ h => hext.trans h

/-- The read of a saved filter keeps to the protocol. -/
theorem keeps_savedFilterTerm {filterId : Option EntityId} (hg : g.Idle) :
    (savedFilterTerm token filterId : AdapterProgram Digest _).Keeps (protocol id call)
      (fun g' _ => g.Extends g') g := by
  cases filterId with
  | none => exact hg.extends
  | some filter =>
    refine (keeps_callWithSession hcall hg rfl rfl).bind fun g' _ h => ?_
    exact keeps_lift fun _ _ => h

/-- `list_credentials` keeps to the protocol. -/
theorem keeps_listCredentials {query : CredentialQuery} (hg : g.Idle) :
    (listCredentials gmp token query : AdapterProgram Digest _).Keeps (protocol id call)
      (fun g' _ => g.Extends g') g := by
  refine (keeps_sessionClient hg hcall.token).bind fun g₁ client ⟨hext, hknown⟩ => ?_
  refine keeps_check fun filterId _ => ?_
  refine (keeps_savedFilterTerm hcall hext.idle).bind fun g₃ savedFilter hsaved => ?_
  refine keeps_check fun filterString _ => ?_
  refine keeps_locked ?_
  refine (keeps_exchange hsaved.idle (hsaved.known client hknown) (hcall.serves rfl rfl)).bind
    fun g₅ _ h => ?_
  exact (hext.trans hsaved).trans h

/-- A credential in a store is created after the check for support. -/
theorem keeps_createStoreCredential {input : CreateCredentialInput}
    {credentialType : CredentialStoreCredentialType} (hg : g.Idle) (hclient : client ∈ g.known) :
    (createStoreCredential gmp client input credentialType : AdapterProgram Digest _).Keeps
      (protocol id call) (fun g' _ => g.Extends g') g := by
  refine keeps_check fun _ hsupported => ?_
  refine keeps_check fun _ _ => ?_
  refine keeps_check fun vaultId _ => ?_
  refine keeps_check fun hostIdentifier _ => ?_
  refine keeps_locked ?_
  refine keeps_check fun storeId _ => ?_
  exact (keeps_exchange hg hclient (hcall.serves_of_supported rfl hsupported)).bind
    fun _ _ h => h

theorem keeps_createLocalCredential {input : CreateCredentialInput} (hg : g.Idle)
    (hclient : client ∈ g.known) :
    (createLocalCredential gmp client input : AdapterProgram Digest _).Keeps (protocol id call)
      (fun g' _ => g.Extends g') g := by
  refine keeps_locked ?_
  refine keeps_check fun credentialType _ => ?_
  refine keeps_check fun authAlgorithm _ => ?_
  refine keeps_check fun privacyAlgorithm _ => ?_
  exact (keeps_exchange hg hclient (hcall.serves rfl rfl)).bind fun _ _ h => h

/-- `create_credential` keeps to the protocol in both branches. -/
theorem keeps_createCredential {input : CreateCredentialInput} (hg : g.Idle) :
    (createCredential gmp token input : AdapterProgram Digest _).Keeps (protocol id call)
      (fun g' _ => g.Extends g') g := by
  refine (keeps_sessionClient hg hcall.token).bind fun g₁ client ⟨hext, hknown⟩ => ?_
  split
  · exact (keeps_createStoreCredential hcall hext.idle hknown).imp fun _ _ h => hext.trans h
  · split
    · trivial
    · exact (keeps_createLocalCredential hcall hext.idle hknown).imp fun _ _ h => hext.trans h

/-- `get_credential` keeps to the protocol. -/
theorem keeps_getCredential (hg : g.Idle) :
    (getCredential gmp token resource : AdapterProgram Digest _).Keeps (protocol id call)
      (fun g' _ => g.Extends g') g := by
  refine keeps_found hcall hg fun g₁ client hext hknown => ?_
  refine keeps_check fun credentialId _ => ?_
  refine (keeps_exchange hext.idle hknown (hcall.serves rfl rfl)).bind fun g₃ _ h => ?_
  exact keeps_lift fun _ _ => hext.trans h

/-- A reference into a store is changed after the check for support. -/
theorem keeps_modifyStoreCredential {input : ModifyCredentialInput} (hg : g.Idle)
    (hclient : client ∈ g.known) :
    (modifyStoreCredential gmp client resource input : AdapterProgram Digest _).Keeps
      (protocol id call) (fun g' _ => g.Extends g') g := by
  refine keeps_check fun _ hsupported => ?_
  refine keeps_check fun _ _ => ?_
  refine keeps_locked ?_
  refine keeps_check fun credentialId _ => ?_
  refine keeps_check fun storeId _ => ?_
  exact keeps_exchange hg hclient (hcall.serves_of_supported rfl hsupported)

theorem keeps_modifyLocalCredential {input : ModifyCredentialInput} (hg : g.Idle)
    (hclient : client ∈ g.known) :
    (modifyLocalCredential gmp client resource input : AdapterProgram Digest _).Keeps
      (protocol id call) (fun g' _ => g.Extends g') g := by
  refine keeps_locked ?_
  refine keeps_check fun credentialId _ => ?_
  refine keeps_check fun authAlgorithm _ => ?_
  refine keeps_check fun privacyAlgorithm _ => ?_
  exact keeps_exchange hg hclient (hcall.serves rfl rfl)

/-- Both branches of the update keep to the protocol. -/
theorem keeps_sendModification {input : ModifyCredentialInput} (hg : g.Idle)
    (hclient : client ∈ g.known) :
    (sendModification gmp client resource input : AdapterProgram Digest _).Keeps
      (protocol id call) (fun g' _ => g.Extends g') g := by
  unfold sendModification
  split
  · exact keeps_modifyStoreCredential hcall hg hclient
  · exact keeps_modifyLocalCredential hcall hg hclient

theorem keeps_modifyCredential {input : ModifyCredentialInput} (hg : g.Idle) :
    (modifyCredential gmp token resource input : AdapterProgram Digest _).Keeps (protocol id call)
      (fun g' _ => g.Extends g') g := by
  refine (keeps_sessionClient hg hcall.token).bind fun g₁ client ⟨hext, hknown⟩ => ?_
  refine (keeps_sendModification hcall hext.idle hknown).bind fun g₂ _ h => ?_
  exact (keeps_getCredential hcall h.idle).imp fun _ _ h' => (hext.trans h).trans h'

/-- `delete_credential` keeps to the protocol. -/
theorem keeps_deleteCredential {ultimate : Bool} (hg : g.Idle) :
    (deleteCredential gmp token resource ultimate : AdapterProgram Digest _).Keeps
      (protocol id call) (fun g' _ => g.Extends g') g := by
  refine keeps_found hcall hg fun g₁ client hext hknown => ?_
  refine keeps_check fun credentialId _ => ?_
  exact (keeps_exchange hext.idle hknown (hcall.serves rfl rfl)).imp fun _ _ h => hext.trans h

omit hcall in
/-- Every call keeps the protocol, whatever it is answered. -/
theorem keeps_program (id : ℕ) (call : PortCall Digest) :
    (call.program gmp).Keeps (protocol id call) (fun _ _ => True) .new := by
  have hidle : (Ghost.new : Ghost Digest).Idle := fun _ => rfl
  cases call with
  | connectSession token username password =>
    exact (keeps_connectSession rfl).bind fun _ _ _ => trivial
  | disconnectSession session => exact ⟨trivial, fun _ _ _ => trivial⟩
  | callWithSession token operation =>
    have hkeeps : (Gvmd.callWithSession token (.other operation) : AdapterProgram Digest _).Keeps
        (protocol id (.callWithSession token operation)) (fun g' _ => Ghost.new.Extends g') .new :=
      keeps_callWithSession ⟨rfl, rfl⟩ hidle rfl rfl
    exact hkeeps.imp fun _ _ _ => trivial
  | listCredentialStores token =>
    exact (keeps_listCredentialStores ⟨rfl, rfl⟩ hidle).bind fun _ _ _ => trivial
  | getCredentialStore token id =>
    exact (keeps_getCredentialStore ⟨rfl, rfl⟩ hidle).bind fun _ _ _ => trivial
  | modifyCredentialStore token id input =>
    exact (keeps_modifyCredentialStore ⟨rfl, rfl⟩ hidle).bind fun _ _ _ => trivial
  | verifyCredentialStore token id =>
    exact (keeps_verifyCredentialStore ⟨rfl, rfl⟩ hidle).imp fun _ _ _ => trivial
  | listCredentials token query =>
    exact (keeps_listCredentials ⟨rfl, rfl⟩ hidle).bind fun _ _ _ => trivial
  | createCredential token input =>
    exact (keeps_createCredential ⟨rfl, rfl⟩ hidle).bind fun _ _ _ => trivial
  | getCredential token id =>
    exact (keeps_getCredential ⟨rfl, rfl⟩ hidle).bind fun _ _ _ => trivial
  | modifyCredential token id input =>
    exact (keeps_modifyCredential ⟨rfl, rfl⟩ hidle).bind fun _ _ _ => trivial
  | deleteCredential token id ultimate =>
    exact (keeps_deleteCredential ⟨rfl, rfl⟩ hidle).imp fun _ _ _ => trivial

end Programs

end GvmGateway.Gvmd

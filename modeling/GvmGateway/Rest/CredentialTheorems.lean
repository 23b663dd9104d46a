import GvmGateway.Gvmd.Credentials
import GvmGateway.Rest.Credentials
import GvmGateway.Rest.TaskTheorems

/-!
# Credentials are local or in a store

The commands that a body leads to, from its validation in the REST layer to what the adapter
sends: a credential has its own secrets, or a reference into a store, and never both.
-/

namespace GvmGateway.Rest

open Calls Gvmd

/-- An optional value that parses, if it is there. -/
inductive ParsesTo {α : Type} (parse : String → Option α) : Option String → Option α → Prop
  | none : ParsesTo parse none none
  | some {value : String} {parsed : α} (parses : parse value = some parsed) :
      ParsesTo parse (some value) (some parsed)

theorem parseAs_eq_ok {α : Type} {parse : String → Option α} {what value : String} {parsed : α} :
    parseAs parse what value = .ok parsed ↔ parse value = some parsed := by
  unfold parseAs
  cases parse value with
  | none => simp
  | some other => simp

theorem parseOptional_eq_ok {α : Type} {parse : String → Option α} {what : String}
    {value : Option String} {parsed : Option α} :
    parseOptional (parseAs parse what) value = .ok parsed ↔ ParsesTo parse value parsed := by
  cases value with
  | none =>
    constructor
    · intro h
      obtain rfl := Except.ok.inj h
      exact .none
    · rintro ⟨⟩
      rfl
  | some text =>
    show (parseAs parse what text).map some = .ok parsed ↔ _
    constructor
    · intro h
      cases htext : parseAs parse what text with
      | error err =>
        rw [htext] at h
        cases h
      | ok a =>
        rw [htext] at h
        obtain rfl := Except.ok.inj h
        exact .some (parseAs_eq_ok.mp htext)
    · intro h
      cases h with
      | some parses => rw [parseAs_eq_ok.mpr parses]; rfl

/-! ## What the adapter sends -/

section Adapter

variable {Digest State : Type} {gmp : Gmp} {client : SharedClient} {k : ℕ} {command : GmpCommand}
variable {server : Server (AdapterReply Digest) State} {s : State}

/-- The session of a token has this client, with a free slot. -/
structure Admits (server : Server (AdapterReply Digest) State) (s : State)
    (token : String) (client : SharedClient) : Prop where
  get : server.reply (.get token) s = some client
  lock : ∀ t, server.reply (.lock client) t = true

/-- Finding the client of a session sends no command. -/
theorem not_mem_sent_sessionClient {token : String} :
    .call k command ∉ (sessionClient token : AdapterProgram Digest _).sent server s := by
  intro h
  rw [sessionClient, Program.sent_call, List.mem_cons] at h
  rcases h with h | h
  · cases h
  · cases hreply : server.reply (.get token) s with
    | none =>
      rw [hreply] at h
      cases h
    | some other =>
      rw [hreply] at h
      cases h

/-- What an operation sends that starts with the client of its session. -/
theorem mem_sent_sessionClient {α : Type} {token : String}
    {rest : SharedClient → AdapterProgram Digest α}
    (hget : server.reply (.get token) s = some client) :
    .call k command ∈ ((sessionClient token).bind rest).sent server s ↔
      .call k command ∈ (rest client).sent server (server.next (.get token) s) := by
  show AdapterCall.call k command ∈ AdapterCall.get token :: _ ↔ _
  rw [hget, List.mem_cons]
  constructor
  · rintro (h | h)
    · cases h
    · exact h
  · exact .inr

theorem mem_sent_locked {α : Type} {rest : AdapterProgram Digest α} :
    .call k command ∈ (do
      let _ ← lockClient client
      rest : AdapterProgram Digest α).sent server s ↔
    server.reply (.lock client) s = true ∧
      .call k command ∈ rest.sent server (server.next (.lock client) s) := by
  show AdapterCall.call k command ∈ AdapterCall.lock client :: _ ↔ _
  rw [List.mem_cons]
  cases server.reply (.lock client) s with
  | true =>
    constructor
    · rintro (h | h)
      · cases h
      · exact ⟨rfl, h⟩
    · exact fun h => .inr h.2
  | false =>
    constructor
    · rintro (h | h)
      · cases h
      · cases h
    · rintro ⟨h, -⟩
      cases h

/-- A command alone. -/
theorem mem_sent_last {last : GmpCommand} {mapError : GvmError → GatewayError} :
    .call k command ∈ (exchange client mapError last : AdapterProgram Digest _).sent server s ↔
      k = client.connection ∧ command = last := by
  show AdapterCall.call k command ∈ [AdapterCall.call client.connection last] ↔ _
  rw [List.mem_singleton, AdapterCall.call.injEq]

/-- The last command of an operation. -/
theorem mem_sent_exchange {α : Type} {last : GmpCommand} {mapError : GvmError → GatewayError}
    {f : last.Response → α} :
    .call k command ∈ (do
      let response ← exchange client mapError last
      return f response : AdapterProgram Digest α).sent server s ↔
    k = client.connection ∧ command = last := by
  show AdapterCall.call k command ∈ AdapterCall.call client.connection last ::
    ((mapReply mapError (server.reply (.call client.connection last) s)).bind
      fun response => .done (.ok (f response)) : AdapterProgram Digest α).sent server _ ↔ _
  have hnone : ∀ (reply : Except GvmError last.Response) (t : State),
      ((mapReply mapError reply).bind fun response => .done (.ok (f response)) :
        AdapterProgram Digest α).sent server t = [] := by
    intro reply t
    cases reply <;> rfl
  rw [hnone, List.mem_singleton, AdapterCall.call.injEq]

theorem ensureCredentialStoresSupported_eq_ok :
    ensureCredentialStoresSupported client = .ok () ↔
      client.credentialStoreCapability ≠ .unsupported := by
  unfold ensureCredentialStoresSupported
  split
  · next h => simp [h]
  · next h => simp [h]

theorem ensureNoLocalSecretFields_eq_ok {fields : List (Option String)} :
    ensureNoLocalSecretFields fields = .ok () ↔ ∀ value ∈ fields, value = none := by
  unfold ensureNoLocalSecretFields
  split
  · next h =>
    obtain ⟨value, hvalue, hsome⟩ := List.any_eq_true.mp h
    constructor
    · intro h
      cases h
    · intro hall
      rw [hall value hvalue] at hsome
      cases hsome
  · next h =>
    refine ⟨fun _ value hvalue => ?_, fun _ => rfl⟩
    cases value with
    | none => rfl
    | some text => exact absurd (List.any_eq_true.mpr ⟨some text, hvalue, rfl⟩) h

theorem required_eq_ok {value : Option String} {message text : String} :
    required value message = .ok text ↔ value = some text := by
  cases value with
  | none => simp [required]
  | some other => simp [required]

theorem mem_createStoreCredential {input : CreateCredentialInput}
    {credentialType : CredentialStoreCredentialType}
    (hlock : ∀ t, server.reply (.lock client) t = true) :
    .call k command ∈ (createStoreCredential gmp client input credentialType :
        AdapterProgram Digest _).sent server s ↔
      k = client.connection ∧ client.credentialStoreCapability ≠ .unsupported ∧
        (∀ value ∈ localSecretFields input, value = none) ∧
        ∃ vaultId hostIdentifier storeId, input.vaultId = some vaultId ∧
          input.hostIdentifier = some hostIdentifier ∧
          ParsesTo gmp.entityId input.credentialStoreId storeId ∧
          command = .createCredentialStoreCredential input.name credentialType vaultId
            hostIdentifier ⟨input.comment, storeId⟩ := by
  constructor
  · intro h
    -- the checks of the adapter in their order, then its lock and the call
    obtain ⟨_, hsupported, h⟩ := (Program.mem_sent_done_bind server).mp h
    obtain ⟨_, hlocal, h⟩ := (Program.mem_sent_done_bind server).mp h
    obtain ⟨vaultId, hvault, h⟩ := (Program.mem_sent_done_bind server).mp h
    obtain ⟨hostIdentifier, hhost, h⟩ := (Program.mem_sent_done_bind server).mp h
    obtain ⟨storeId, hstore, h⟩ := (Program.mem_sent_done_bind server).mp
      (mem_sent_locked.mp h).2
    obtain ⟨hk, hcommand⟩ := mem_sent_exchange.mp h
    exact ⟨hk, ensureCredentialStoresSupported_eq_ok.mp hsupported,
      ensureNoLocalSecretFields_eq_ok.mp hlocal, vaultId, hostIdentifier, storeId,
      required_eq_ok.mp hvault, required_eq_ok.mp hhost, parseOptional_eq_ok.mp hstore, hcommand⟩
  · rintro ⟨hk, hsupported, hlocal, vaultId, hostIdentifier, storeId, hvault, hhost, hstore,
      hcommand⟩
    refine (Program.mem_sent_done_bind server).mpr
      ⟨(), ensureCredentialStoresSupported_eq_ok.mpr hsupported, ?_⟩
    refine (Program.mem_sent_done_bind server).mpr
      ⟨(), ensureNoLocalSecretFields_eq_ok.mpr hlocal, ?_⟩
    refine (Program.mem_sent_done_bind server).mpr ⟨vaultId, required_eq_ok.mpr hvault, ?_⟩
    refine (Program.mem_sent_done_bind server).mpr ⟨hostIdentifier, required_eq_ok.mpr hhost, ?_⟩
    refine mem_sent_locked.mpr ⟨hlock _, (Program.mem_sent_done_bind server).mpr
      ⟨storeId, parseOptional_eq_ok.mpr hstore, ?_⟩⟩
    exact mem_sent_exchange.mpr ⟨hk, hcommand⟩

theorem mem_createLocalCredential {input : CreateCredentialInput}
    (hlock : ∀ t, server.reply (.lock client) t = true) :
    .call k command ∈ (createLocalCredential gmp client input :
        AdapterProgram Digest _).sent server s ↔
      k = client.connection ∧ ∃ credentialType authAlgorithm privacyAlgorithm,
        gmp.credentialType input.credentialType = some credentialType ∧
        ParsesTo gmp.snmpAuthAlgorithm input.authAlgorithm authAlgorithm ∧
        ParsesTo gmp.snmpPrivacyAlgorithm input.privacyAlgorithm privacyAlgorithm ∧
        command = .createCredential input.name {
          comment := input.comment
          credentialType := some credentialType
          login := input.login
          password := input.password
          privateKey := input.privateKey
          certificate := input.certificate
          community := input.community
          authAlgorithm := authAlgorithm
          privacyPassword := input.privacyPassword
          privacyAlgorithm := privacyAlgorithm
        } := by
  constructor
  · intro h
    obtain ⟨credentialType, htype, h⟩ := (Program.mem_sent_done_bind server).mp
      (mem_sent_locked.mp h).2
    obtain ⟨authAlgorithm, hauth, h⟩ := (Program.mem_sent_done_bind server).mp h
    obtain ⟨privacyAlgorithm, hprivacy, h⟩ := (Program.mem_sent_done_bind server).mp h
    obtain ⟨hk, hcommand⟩ := mem_sent_exchange.mp h
    exact ⟨hk, credentialType, authAlgorithm, privacyAlgorithm, parseAs_eq_ok.mp htype,
      parseOptional_eq_ok.mp hauth, parseOptional_eq_ok.mp hprivacy, hcommand⟩
  · rintro ⟨hk, credentialType, authAlgorithm, privacyAlgorithm, htype, hauth, hprivacy, hcommand⟩
    refine mem_sent_locked.mpr ⟨hlock _, (Program.mem_sent_done_bind server).mpr
      ⟨credentialType, parseAs_eq_ok.mpr htype, ?_⟩⟩
    refine (Program.mem_sent_done_bind server).mpr
      ⟨authAlgorithm, parseOptional_eq_ok.mpr hauth, ?_⟩
    refine (Program.mem_sent_done_bind server).mpr
      ⟨privacyAlgorithm, parseOptional_eq_ok.mpr hprivacy, ?_⟩
    exact mem_sent_exchange.mpr ⟨hk, hcommand⟩

end Adapter

/-! ## Creating -/

namespace CreateCredentialRequest

variable (gmp : Gmp) (capability : CredentialStoreCapability) (request : CreateCredentialRequest)

/-- The command that a body documents. -/
inductive Documents : GmpCommand → Prop
  | stored {credentialType : CredentialStoreCredentialType} {vaultId hostIdentifier : String}
      {storeId : Option EntityId} (supported : capability ≠ .unsupported)
      (type : parseCredentialStoreType request.credentialType.asStr = some credentialType)
      (vault : request.vaultId = some vaultId) (vault_ne : vaultId ≠ "")
      (host : request.hostIdentifier = some hostIdentifier) (host_ne : hostIdentifier ≠ "")
      (store : ParsesTo gmp.entityId request.credentialStoreId storeId)
      (alone : ∀ value ∈ request.localValues, value = none) :
      Documents (.createCredentialStoreCredential request.name credentialType vaultId
        hostIdentifier ⟨request.comment, storeId⟩)
  | own {credentialType : GmpCredentialType} {authAlgorithm : Option SnmpAuthAlgorithm}
      {privacyAlgorithm : Option SnmpPrivacyAlgorithm}
      (scheme : request.storeBacked = false) (given : ¬ Text.Blank request.credentialType.asStr)
      (type : gmp.credentialType request.credentialType.asStr = some credentialType)
      (auth : ParsesTo gmp.snmpAuthAlgorithm request.authAlgorithm authAlgorithm)
      (privacy : ParsesTo gmp.snmpPrivacyAlgorithm request.privacyAlgorithm privacyAlgorithm)
      (store : request.credentialStoreId = none) (vault : request.vaultId = none)
      (host : request.hostIdentifier = none) :
      Documents (.createCredential request.name {
        comment := request.comment
        credentialType := some credentialType
        login := request.login
        password := request.password
        privateKey := request.privateKey
        certificate := request.certificate
        community := request.community
        authAlgorithm := authAlgorithm
        privacyPassword := request.privacyPassword
        privacyAlgorithm := privacyAlgorithm
      })

variable {gmp capability request}

theorem isNoneOrEmpty_eq_false {value : Option String} :
    isNoneOrEmpty value = false ↔ ∃ text, value = some text ∧ text ≠ "" := by
  cases value with
  | none => simp [isNoneOrEmpty]
  | some text => simp [isNoneOrEmpty]

theorem hasStoreFields_eq_false :
    request.hasStoreFields = false ↔ request.credentialStoreId = none ∧ request.vaultId = none ∧
      request.hostIdentifier = none := by
  simp [hasStoreFields, and_assoc]

/-- The types of a store are among those that the REST layer takes for them. -/
theorem storeBacked_of_parse {credentialType : CredentialStoreCredentialType}
    (h : parseCredentialStoreType request.credentialType.asStr = some credentialType) :
    request.storeBacked = true := by
  unfold storeBacked
  unfold parseCredentialStoreType at h
  split_ifs at h with h₁ h₂ h₃ h₄ h₅ h₆ h₇
  · rw [h₁]; rfl
  · rw [h₂]; rfl
  · rw [h₃]; rfl
  · rw [h₄]; rfl
  · rw [h₅]; rfl
  · rw [h₆]; rfl
  · rw [h₇]; rfl

/-- What the REST layer accepts of the references and the values of a body. -/
theorem checkReference_eq_ok :
    request.checkReference = .ok () ↔
      request.storeBacked = true ∧ (∃ vaultId, request.vaultId = some vaultId ∧ vaultId ≠ "") ∧
          (∃ hostIdentifier, request.hostIdentifier = some hostIdentifier ∧ hostIdentifier ≠ "") ∧
          (∀ value ∈ request.localValues, value = none) ∨
        request.storeBacked = false ∧ request.credentialStoreId = none ∧
          request.vaultId = none ∧ request.hostIdentifier = none := by
  unfold checkReference
  cases hscheme : request.storeBacked with
  | false =>
    cases hfields : request.hasStoreFields with
    | false => simp [hasStoreFields_eq_false.mp hfields]
    | true =>
      have hnot := mt hasStoreFields_eq_false.mpr (by rw [hfields]; decide)
      simpa using hnot
  | true =>
    unfold checkStoreBacked
    cases hvault : isNoneOrEmpty request.vaultId with
    | true =>
      have hnone := mt isNoneOrEmpty_eq_false.mpr (by rw [hvault]; decide)
      simp [hnone]
    | false =>
      cases hhost : isNoneOrEmpty request.hostIdentifier with
      | true =>
        have hnone := mt isNoneOrEmpty_eq_false.mpr (by rw [hhost]; decide)
        simp [hnone]
      | false =>
        have hvault' := isNoneOrEmpty_eq_false.mp hvault
        have hhost' := isNoneOrEmpty_eq_false.mp hhost
        simp [hvault', hhost']

theorem validate_eq_ok {input : CreateCredentialInput} :
    request.validate = .ok input ↔
      ¬ Text.Blank request.name ∧ ¬ Text.Blank request.credentialType.asStr ∧
      request.checkReference = .ok () ∧ input = request.toInput := by
  unfold validate
  rw [← Text.isBlank_iff, ← Text.isBlank_iff]
  split
  · next hname => simp [hname]
  · next hname =>
    split
    · next htype => simp [htype]
    · next htype =>
      rw [bind_eq_ok]
      constructor
      · rintro ⟨_, hcheck, h⟩
        exact ⟨hname, htype, hcheck, (Except.ok.inj h).symm⟩
      · rintro ⟨-, -, hcheck, rfl⟩
        exact ⟨(), hcheck, rfl⟩

variable {Digest State : Type} {server : Server (AdapterReply Digest) State}
variable {s : State} {client : SharedClient} {token : String} {command : GmpCommand}

/-- What the adapter sends for an input of the use case. -/
theorem mem_createCredential {input : CreateCredentialInput} {k : ℕ}
    (hadmits : Admits server s token client) :
    .call k command ∈ (createCredential gmp token input : AdapterProgram Digest _).sent server s ↔
      (∃ credentialType, parseCredentialStoreType input.credentialType = some credentialType ∧
        .call k command ∈ (createStoreCredential gmp client input credentialType :
          AdapterProgram Digest _).sent server (server.next (.get token) s)) ∨
      parseCredentialStoreType input.credentialType = none ∧ Gvmd.hasStoreFields input = false ∧
        .call k command ∈ (createLocalCredential gmp client input :
          AdapterProgram Digest _).sent server (server.next (.get token) s) := by
  refine (mem_sent_sessionClient hadmits.get).trans ?_
  cases parseCredentialStoreType input.credentialType with
  | some credentialType => simp
  | none =>
    cases hfields : Gvmd.hasStoreFields input with
    | true => simp [Program.sent]
    | false => simp

/-- A body that creates a credential leads to a command exactly when it documents one, to that
command and no other: with its own secrets and no reference, or with a reference into a store
that the session supports and no secrets. -/
theorem create_credential_sends_iff (hadmits : Admits server s token client) :
    (∃ input k, request.validate = .ok input ∧ .call k command ∈
      (createCredential gmp token input : AdapterProgram Digest _).sent server s) ↔
    ¬ Text.Blank request.name ∧
      request.Documents gmp client.credentialStoreCapability command := by
  constructor
  · rintro ⟨input, k, hvalid, hsent⟩
    obtain ⟨hname, hgiven, hcheck, rfl⟩ := validate_eq_ok.mp hvalid
    refine ⟨hname, ?_⟩
    obtain ⟨credentialType, htype, hsent⟩ | ⟨htype, hfields, hsent⟩ :=
      (mem_createCredential hadmits).mp hsent
    · obtain ⟨-, hsupported, hlocal, vaultId, hostIdentifier, storeId, hvault, hhost, hstore, rfl⟩ :=
        (mem_createStoreCredential hadmits.lock).mp hsent
      obtain ⟨-, ⟨vaultId', hvault', hne⟩, ⟨hostIdentifier', hhost', hne'⟩, -⟩ | ⟨hscheme, -⟩ :=
        checkReference_eq_ok.mp hcheck
      · obtain rfl := Option.some.inj (hvault.symm.trans hvault')
        obtain rfl := Option.some.inj (hhost.symm.trans hhost')
        exact .stored hsupported htype hvault hne hhost hne' hstore hlocal
      -- what the adapter takes for a type of a store, validation does too
      · rw [storeBacked_of_parse htype] at hscheme
        cases hscheme
    · obtain ⟨-, credentialType, authAlgorithm, privacyAlgorithm, hparse, hauth, hprivacy, rfl⟩ :=
        (mem_createLocalCredential hadmits.lock).mp hsent
      obtain ⟨-, ⟨vaultId, hvault, -⟩, -, -⟩ | ⟨hscheme, hstore, hvault, hhost⟩ :=
        checkReference_eq_ok.mp hcheck
      -- the adapter has seen no reference in this body
      · have hsome : Gvmd.hasStoreFields request.toInput = true := by
          simp [Gvmd.hasStoreFields, toInput, hvault]
        rw [hsome] at hfields
        cases hfields
      · exact .own hscheme hgiven hparse hauth hprivacy hstore hvault hhost
  · rintro ⟨hname, hdocuments⟩
    refine ⟨request.toInput, client.connection, ?_⟩
    cases hdocuments with
    | stored supported type vault vault_ne host host_ne store alone =>
      have hscheme := storeBacked_of_parse type
      -- the types of a store begin with a letter, so the check for a blank type lets them through
      have hgiven : ¬ Text.Blank request.credentialType.asStr := by
        intro hblank
        obtain ⟨rest, hrest⟩ := List.isPrefixOf_iff_prefix.mp hscheme
        have hc := hblank 'c' (by rw [← hrest]; simp)
        revert hc
        decide
      refine ⟨validate_eq_ok.mpr ⟨hname, hgiven, checkReference_eq_ok.mpr (.inl ⟨hscheme,
        ⟨_, vault, vault_ne⟩, ⟨_, host, host_ne⟩, alone⟩), rfl⟩, ?_⟩
      refine (mem_createCredential hadmits).mpr (.inl ⟨_, type, ?_⟩)
      exact (mem_createStoreCredential hadmits.lock).mpr
        ⟨rfl, supported, alone, _, _, _, vault, host, store, rfl⟩
    | own scheme given type auth privacy store vault host =>
      refine ⟨validate_eq_ok.mpr ⟨hname, given, checkReference_eq_ok.mpr (.inr ⟨scheme, store,
        vault, host⟩), rfl⟩, ?_⟩
      have hnone : parseCredentialStoreType request.toInput.credentialType = none := by
        cases hparse : parseCredentialStoreType request.toInput.credentialType with
        | none => rfl
        | some credentialType =>
          rw [storeBacked_of_parse hparse] at scheme
          cases scheme
      have hfields : Gvmd.hasStoreFields request.toInput = false := by
        simp [Gvmd.hasStoreFields, toInput, store, vault, host]
      refine (mem_createCredential hadmits).mpr (.inr ⟨hnone, hfields, ?_⟩)
      exact (mem_createLocalCredential hadmits.lock).mpr ⟨rfl, _, _, _, type, auth, privacy, rfl⟩

/-- A session that supports credential stores, whose commands succeed. -/
def storesServer : Server (AdapterReply String) Unit where
  reply c _ := match c with
    | .connect => .error (.other "")
    | .call _ (.createCredentialStoreCredential _ _ _ _ _) => .ok ⟨"c1"⟩
    | .call _ (.modifyCredentialStoreCredential _ _) => .ok ()
    | .call _ _ => .error (.other "")
    | .insert _ _ | .remove _ => ()
    | .get _ => some ⟨0, .supported⟩
    | .lock _ => true
  next _ _ := ()

def vaultRequest : CreateCredentialRequest where
  name := "web login"
  comment := none
  credentialType := .parse "cs_up"
  login := none
  password := none
  privateKey := none
  certificate := none
  community := none
  authAlgorithm := none
  privacyAlgorithm := none
  privacyPassword := none
  credentialStoreId := none
  vaultId := some "secret/web"
  hostIdentifier := some "web-1"

theorem create_credential_sends_iff_vault :
    ∃ input k, vaultRequest.validate = .ok input ∧
      .call k (.createCredentialStoreCredential "web login" .usernamePassword "secret/web" "web-1"
        ⟨none, none⟩) ∈
      (createCredential .any "a" input : AdapterProgram String _).sent storesServer () := by
  refine (create_credential_sends_iff ⟨rfl, fun _ => rfl⟩).mpr ⟨?_, ?_⟩
  · intro hblank
    exact absurd (hblank 'w' (by decide)) (by decide)
  · exact .stored nofun rfl rfl (by decide) rfl (by decide) .none (by decide)

end CreateCredentialRequest

/-! ## Updating -/

namespace ModifyCredentialRequest

variable (gmp : Gmp) (capability : CredentialStoreCapability) (request : ModifyCredentialRequest)
variable (id : String)

/-- The command that a body documents for the credential of an identifier. -/
inductive Documents : GmpCommand → Prop
  | stored {credentialId : EntityId} {storeId : Option EntityId}
      (supported : capability ≠ .unsupported)
      (reference : modifiesStoreReference request.validate = true)
      (credential : gmp.entityId id = some credentialId)
      (store : ParsesTo gmp.entityId request.credentialStoreId storeId)
      (alone : ∀ value ∈ modifiedSecretFields request.validate, value = none) :
      Documents (.modifyCredentialStoreCredential credentialId
        ⟨request.name, request.comment, storeId, request.vaultId, request.hostIdentifier⟩)
  | own {credentialId : EntityId} {authAlgorithm : Option SnmpAuthAlgorithm}
      {privacyAlgorithm : Option SnmpPrivacyAlgorithm}
      (store : request.credentialStoreId = none) (vault : request.vaultId = none)
      (host : request.hostIdentifier = none)
      (credential : gmp.entityId id = some credentialId)
      (auth : ParsesTo gmp.snmpAuthAlgorithm request.authAlgorithm authAlgorithm)
      (privacy : ParsesTo gmp.snmpPrivacyAlgorithm request.privacyAlgorithm privacyAlgorithm) :
      Documents (.modifyCredential credentialId {
        name := request.name
        comment := request.comment
        login := request.login
        password := request.password
        privateKey := request.privateKey
        certificate := request.certificate
        community := request.community
        authAlgorithm := authAlgorithm
        privacyPassword := request.privacyPassword
        privacyAlgorithm := privacyAlgorithm
      })

variable {gmp capability request id}
variable {Digest State : Type} {server : Server (AdapterReply Digest) State}
variable {s : State} {client : SharedClient} {token : String} {command : GmpCommand} {k : ℕ}

theorem modifiesStoreReference_eq_false :
    modifiesStoreReference request.validate = false ↔ request.credentialStoreId = none ∧
      request.vaultId = none ∧ request.hostIdentifier = none := by
  simp [modifiesStoreReference, validate, and_assoc]

theorem mem_sendModification (hlock : ∀ t, server.reply (.lock client) t = true) :
    .call k command ∈ (sendModification gmp client id request.validate :
        AdapterProgram Digest _).sent server s ↔
      k = client.connection ∧
        request.Documents gmp client.credentialStoreCapability id command := by
  unfold sendModification
  cases hreference : modifiesStoreReference request.validate with
  -- a reference into a store
  | true =>
    rw [if_pos rfl]
    constructor
    · intro h
      obtain ⟨_, hsupported, h⟩ := (Program.mem_sent_done_bind server).mp h
      obtain ⟨_, hlocal, h⟩ := (Program.mem_sent_done_bind server).mp h
      obtain ⟨credentialId, hid, h⟩ := (Program.mem_sent_done_bind server).mp
        (mem_sent_locked.mp h).2
      obtain ⟨storeId, hstore, h⟩ := (Program.mem_sent_done_bind server).mp h
      obtain ⟨hk, rfl⟩ := mem_sent_last.mp h
      exact ⟨hk, .stored (ensureCredentialStoresSupported_eq_ok.mp hsupported) hreference
        (parseAs_eq_ok.mp hid) (parseOptional_eq_ok.mp hstore)
        (ensureNoLocalSecretFields_eq_ok.mp hlocal)⟩
    · rintro ⟨hk, hdocuments⟩
      cases hdocuments with
      | stored supported reference credential store alone =>
        refine (Program.mem_sent_done_bind server).mpr
          ⟨(), ensureCredentialStoresSupported_eq_ok.mpr supported, ?_⟩
        refine (Program.mem_sent_done_bind server).mpr
          ⟨(), ensureNoLocalSecretFields_eq_ok.mpr alone, ?_⟩
        refine mem_sent_locked.mpr ⟨hlock _, (Program.mem_sent_done_bind server).mpr
          ⟨_, parseAs_eq_ok.mpr credential, ?_⟩⟩
        refine (Program.mem_sent_done_bind server).mpr ⟨_, parseOptional_eq_ok.mpr store, ?_⟩
        exact mem_sent_last.mpr ⟨hk, rfl⟩
      | own store vault host =>
        rw [modifiesStoreReference_eq_false.mpr ⟨store, vault, host⟩] at hreference
        cases hreference
  -- the credential's own values
  | false =>
    rw [if_neg (by decide)]
    constructor
    · intro h
      obtain ⟨credentialId, hid, h⟩ := (Program.mem_sent_done_bind server).mp
        (mem_sent_locked.mp h).2
      obtain ⟨authAlgorithm, hauth, h⟩ := (Program.mem_sent_done_bind server).mp h
      obtain ⟨privacyAlgorithm, hprivacy, h⟩ := (Program.mem_sent_done_bind server).mp h
      obtain ⟨hk, rfl⟩ := mem_sent_last.mp h
      obtain ⟨hstore, hvault, hhost⟩ := modifiesStoreReference_eq_false.mp hreference
      exact ⟨hk, .own hstore hvault hhost (parseAs_eq_ok.mp hid) (parseOptional_eq_ok.mp hauth)
        (parseOptional_eq_ok.mp hprivacy)⟩
    · rintro ⟨hk, hdocuments⟩
      cases hdocuments with
      | stored supported reference =>
        rw [hreference] at reference
        cases reference
      | own store vault host credential auth privacy =>
        refine mem_sent_locked.mpr ⟨hlock _, (Program.mem_sent_done_bind server).mpr
          ⟨_, parseAs_eq_ok.mpr credential, ?_⟩⟩
        refine (Program.mem_sent_done_bind server).mpr ⟨_, parseOptional_eq_ok.mpr auth, ?_⟩
        refine (Program.mem_sent_done_bind server).mpr ⟨_, parseOptional_eq_ok.mpr privacy, ?_⟩
        exact mem_sent_last.mpr ⟨hk, rfl⟩

/-- Reading a credential back sends nothing else. -/
theorem eq_of_mem_getCredential
    (h : .call k command ∈ (getCredential gmp token id : AdapterProgram Digest _).sent server s) :
    ∃ credentialId, command = .getCredential credentialId := by
  obtain h | ⟨client, t, -, h⟩ := (Program.mem_sent_bind_iff server).mp h
  · exact absurd h not_mem_sent_sessionClient
  · obtain ⟨credentialId, -, h⟩ := (Program.mem_sent_done_bind server).mp (mem_sent_locked.mp h).2
    obtain h | ⟨response, u, -, h⟩ := (Program.mem_sent_bind_iff server).mp h
    · exact ⟨credentialId, (mem_sent_last.mp h).2⟩
    · cases h

/-- A body that updates a credential leads to a change exactly when it documents one, to that
command and no other: of the reference into a store that the session supports, or of the
credential's own values. -/
theorem update_credential_sends_iff (hadmits : Admits server s token client) :
    (∃ k, .call k command ∈ (modifyCredential gmp token id request.validate :
        AdapterProgram Digest _).sent server s) ∧ (∀ other, command ≠ .getCredential other) ↔
      request.Documents gmp client.credentialStoreCapability id command := by
  have hsent : ∀ k, .call k command ∈ (modifyCredential gmp token id request.validate :
      AdapterProgram Digest _).sent server s ↔
      .call k command ∈ ((sendModification gmp client id request.validate).bind
        fun _ => getCredential gmp token id : AdapterProgram Digest _).sent server
          (server.next (.get token) s) :=
    fun k => mem_sent_sessionClient hadmits.get
  constructor
  · rintro ⟨⟨k, h⟩, hread⟩
    obtain h | ⟨_, t, -, h⟩ := (Program.mem_sent_bind_iff server).mp ((hsent k).mp h)
    · exact ((mem_sendModification hadmits.lock).mp h).2
    · obtain ⟨other, hother⟩ := eq_of_mem_getCredential h
      exact absurd hother (hread other)
  · intro hdocuments
    refine ⟨⟨client.connection, (hsent _).mpr ((Program.mem_sent_bind_iff server).mpr (.inl ?_))⟩,
      ?_⟩
    · exact (mem_sendModification hadmits.lock).mpr ⟨rfl, hdocuments⟩
    · intro other heq
      subst heq
      cases hdocuments

def moveRequest : ModifyCredentialRequest where
  name := none
  comment := none
  login := none
  password := none
  privateKey := none
  certificate := none
  community := none
  authAlgorithm := none
  privacyAlgorithm := none
  privacyPassword := none
  credentialStoreId := none
  vaultId := some "secret/new"
  hostIdentifier := none

theorem update_credential_sends_iff_move :
    ∃ k, .call k (.modifyCredentialStoreCredential ⟨"c1"⟩ ⟨none, none, none, some "secret/new",
      none⟩) ∈ (modifyCredential .any "a" "c1" moveRequest.validate :
        AdapterProgram String _).sent CreateCredentialRequest.storesServer () := by
  refine ((update_credential_sends_iff ⟨rfl, fun _ => rfl⟩).mpr ?_).1
  exact .stored nofun rfl rfl .none (by decide)

end ModifyCredentialRequest

end GvmGateway.Rest

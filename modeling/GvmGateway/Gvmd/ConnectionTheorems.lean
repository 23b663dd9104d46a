import GvmGateway.Gvmd.ConnectionPrograms

/-!
# Every connection serves one session

The connections of the adapter in every reachable state: the first command on one is the login
of the call that opened it, and no other call uses it before its client is stored. From then on
the calls with the token of that session do, and none of them sends a credential-store command
where the login has found that gvmd does not expose these.
-/

namespace GvmGateway.Gvmd

open Calls SessionTokenDigest TransitionSystem

variable {Digest : Type} [DecidableEq Digest] [SessionTokenDigest Digest]

/-- A command on the client of a session, after the client was stored. -/
structure Exchange.Serves (x : Exchange Digest) (session : Digest)
    (capability : CredentialStoreCapability) : Prop where
  token : ∃ token, x.call.token = some token ∧ fromToken token = session
  serves : x.call.Serves capability x.command

namespace AdapterState

/-- Somewhere the exchanges on a connection start with those given. -/
def Started (s : AdapterState Digest) (k : ℕ) (exchanges : List (Exchange Digest)) : Prop :=
  ∃ c, s.connections[k]? = some c ∧ exchanges <+: c.exchanges

/-- The exchanges up to the moment a client is stored: the login, and its probe; or the login
alone, and the probe on another connection of the same call. -/
inductive Opens (s : AdapterState Digest) (k : ℕ) (session : Digest)
    (capability : CredentialStoreCapability) : List (Exchange Digest) → Prop
  | probed {id : ℕ} {token username password : String} {error : Option GvmError}
      (session_eq : fromToken token = session) (outcome : settle error = ⟨capability, false⟩) :
      Opens s k session capability
        [.login id (.connectSession token username password) username password,
          .probe id (.connectSession token username password) error]
  | reconnected {id : ℕ} {token username password : String} {error : Option GvmError} {k' : ℕ}
      (session_eq : fromToken token = session) (outcome : settle error = ⟨capability, true⟩)
      (other : k' ≠ k)
      (started : s.Started k' [.login id (.connectSession token username password) username
        password, .probe id (.connectSession token username password) error]) :
      Opens s k session capability
        [.login id (.connectSession token username password) username password]

/-- The exchanges on a connection, by who has its client. -/
inductive Accounted (s : AdapterState Digest) (k : ℕ) : Connection Digest → Prop
  | opened {id : ℕ} : Accounted s k ⟨.login id, []⟩
  | attempted {id : ℕ} {token username password : String} {error : Option GvmError} :
      Accounted s k ⟨.login id, [⟨id, .connectSession token username password,
        .authenticate username password, error⟩]⟩
  | probed {id : ℕ} {token username password : String} {error : Option GvmError} :
      Accounted s k ⟨.login id,
        [.login id (.connectSession token username password) username password,
          .probe id (.connectSession token username password) error]⟩
  | stored {session : Digest} {capability : CredentialStoreCapability}
      {opening later : List (Exchange Digest)} (opens : s.Opens k session capability opening)
      (serves : ∀ x ∈ later, x.Serves session capability) :
      Accounted s k ⟨.session session capability, opening ++ later⟩

structure Inv (s : AdapterState Digest) : Prop where
  sessions : ∀ session client, s.sessions.lookup session = some client →
    ∃ c, s.connections[client.connection]? = some c ∧
      c.holder = .session session client.credentialStoreCapability
  connections : ∀ k c, s.connections[k]? = some c → s.Accounted k c

/-- What a call has and knows is so. -/
structure Owns (id : ℕ) (call : PortCall Digest) (s : AdapterState Digest) (g : Ghost Digest) :
    Prop where
  logs : ∀ k log, g.logs k = some log → s.connections[k]? = some ⟨.login id, log⟩
  known : ∀ client ∈ g.known, ∃ token c, call.token = some token ∧
    s.connections[client.connection]? = some c ∧
    c.holder = .session (fromToken token) client.credentialStoreCapability

/-! ## Steps -/

variable {s t : AdapterState Digest} {id : ℕ} {call : PortCall Digest} {k : ℕ}

omit [DecidableEq Digest] [SessionTokenDigest Digest] in
theorem exchange_eq_some {command : GmpCommand} {reply reply' : Except GvmError command.Response}
    (h : s.exchange id call k command reply = some (reply', t)) :
    reply' = reply ∧ ∃ c, s.connections[k]? = some c ∧ Holder.admits c.holder id = true ∧
      t = s.setConnection k
        { c with exchanges := c.exchanges ++ [⟨id, call, command, errorOf reply⟩] } := by
  unfold exchange at h
  split at h
  · cases h
  · next c hc =>
    split at h
    · next hadmits =>
      obtain ⟨rfl, rfl⟩ := Prod.mk.inj (Option.some.inj h)
      exact ⟨rfl, c, hc, hadmits, rfl⟩
    · cases h

theorem insert_eq_some {token : String} {client : SharedClient}
    (h : s.insert id token client = some t) :
    ∃ c, s.connections[client.connection]? = some c ∧ c.holder = .login id ∧
      t = { s.setConnection client.connection
          { c with holder := .session (fromToken token) client.credentialStoreCapability } with
        sessions := s.sessions.insert (fromToken token) client } := by
  unfold insert at h
  split at h
  · cases h
  · next c hc =>
    split at h
    · next hholder => exact ⟨c, hc, hholder, (Option.some.inj h).symm⟩
    · cases h

omit [DecidableEq Digest] [SessionTokenDigest Digest] in
/-- The connections after one of them was set. -/
theorem getElem?_setConnection {c d : Connection Digest} (j : ℕ)
    (hc : s.connections[k]? = some c) :
    (s.setConnection k d).connections[j]? = if j = k then some d else s.connections[j]? := by
  have hlt : k < s.connections.length := (List.getElem?_eq_some_iff.mp hc).1
  show (s.connections.set k d)[j]? = _
  rw [List.getElem?_set]
  by_cases hj : j = k
  · subst hj
    rw [if_pos rfl, if_pos rfl, if_pos hlt]
  · rw [if_neg (Ne.symm hj), if_neg hj]

/-! ### Connections only gain exchanges -/

omit [DecidableEq Digest] [SessionTokenDigest Digest] in
def Grows (s t : AdapterState Digest) : Prop :=
  ∀ (k : ℕ) (c : Connection Digest), s.connections[k]? = some c →
    ∃ c' : Connection Digest, t.connections[k]? = some c' ∧ c.exchanges <+: c'.exchanges

omit [DecidableEq Digest] [SessionTokenDigest Digest] in
theorem Started.mono {exchanges : List (Exchange Digest)} (h : s.Started k exchanges)
    (hst : s.Grows t) : t.Started k exchanges := by
  obtain ⟨c, hc, hstart⟩ := h
  obtain ⟨c', hc', hle⟩ := hst k c hc
  exact ⟨c', hc', hstart.trans hle⟩

omit [DecidableEq Digest] in
theorem Opens.mono {session : Digest} {capability : CredentialStoreCapability}
    {opening : List (Exchange Digest)} (h : s.Opens k session capability opening)
    (hst : s.Grows t) : t.Opens k session capability opening := by
  cases h with
  | probed session_eq outcome => exact .probed session_eq outcome
  | reconnected session_eq outcome other started =>
    exact .reconnected session_eq outcome other (started.mono hst)

omit [DecidableEq Digest] in
theorem Accounted.mono {c : Connection Digest} (h : s.Accounted k c) (hst : s.Grows t) :
    t.Accounted k c := by
  cases h with
  | opened => exact .opened
  | attempted => exact .attempted
  | probed => exact .probed
  | stored opens serves => exact .stored (opens.mono hst) serves

omit [DecidableEq Digest] [SessionTokenDigest Digest] in
/-- A connection was set, to one with more exchanges. -/
theorem grows_setConnection {c d : Connection Digest} (hc : s.connections[k]? = some c)
    (hle : c.exchanges <+: d.exchanges) : s.Grows (s.setConnection k d) := by
  intro j e he
  rw [getElem?_setConnection j hc]
  split
  · next hj =>
    subst hj
    obtain rfl : c = e := Option.some.inj (hc.symm.trans he)
    exact ⟨d, rfl, hle⟩
  · exact ⟨e, he, List.prefix_refl _⟩

/-- The connections are accounted for, after one of them was set. -/
theorem accounted_setConnection {c d : Connection Digest} (hs : s.Inv)
    (hc : s.connections[k]? = some c) (hle : c.exchanges <+: d.exchanges)
    (hd : (s.setConnection k d).Accounted k d) :
    ∀ j e, (s.setConnection k d).connections[j]? = some e → (s.setConnection k d).Accounted j e := by
  intro j e he
  rw [getElem?_setConnection j hc] at he
  split at he
  · next hj =>
    subst hj
    obtain rfl := Option.some.inj he
    exact hd
  · exact (hs.connections j e he).mono (grows_setConnection hc hle)

/-! ### Connecting -/

omit [DecidableEq Digest] [SessionTokenDigest Digest] in
theorem getElem?_connected (d : Connection Digest) (j : ℕ) :
    (s.connections ++ [d])[j]? = if j = s.connections.length then some d
      else s.connections[j]? := by
  split
  · next hj => rw [hj, List.getElem?_concat_length]
  · next hj =>
    by_cases hlt : j < s.connections.length
    · rw [List.getElem?_append_left hlt]
    · have hge : (s.connections ++ [d]).length ≤ j := by
        rw [List.length_append, List.length_singleton]
        omega
      rw [List.getElem?_eq_none hge, List.getElem?_eq_none (by omega)]

variable {g g' : Ghost Digest}

theorem inv_connected (hs : s.Inv) :
    Inv { s with connections := s.connections ++ [⟨.login id, []⟩] } where
  sessions session client h := by
    obtain ⟨c, hc, hholder⟩ := hs.sessions session client h
    have hne : client.connection ≠ s.connections.length :=
      Nat.ne_of_lt (List.getElem?_eq_some_iff.mp hc).1
    refine ⟨c, ?_, hholder⟩
    show (s.connections ++ [⟨.login id, []⟩])[client.connection]? = some c
    rw [getElem?_connected, if_neg hne]
    exact hc
  connections j c h := by
    rw [getElem?_connected] at h
    split at h
    · obtain rfl := Option.some.inj h
      exact .opened
    · refine (hs.connections j c h).mono fun k d hd => ⟨d, ?_, List.prefix_refl _⟩
      have hne : k ≠ s.connections.length := Nat.ne_of_lt (List.getElem?_eq_some_iff.mp hd).1
      rw [getElem?_connected, if_neg hne]
      exact hd

omit [DecidableEq Digest] in
/-- The connections that a call has stay, where a new one is added. -/
theorem Owns.connected {d : Connection Digest} (h : Owns id call s g) :
    Owns id call { s with connections := s.connections ++ [d] } g where
  logs j log hlog := by
    have hj := h.logs j log hlog
    have hne : j ≠ s.connections.length := Nat.ne_of_lt (List.getElem?_eq_some_iff.mp hj).1
    show (s.connections ++ [d])[j]? = _
    rw [getElem?_connected, if_neg hne]
    exact hj
  known client hclient := by
    obtain ⟨token, c, htoken, hc, hholder⟩ := h.known client hclient
    have hne : client.connection ≠ s.connections.length :=
      Nat.ne_of_lt (List.getElem?_eq_some_iff.mp hc).1
    refine ⟨token, c, htoken, ?_, hholder⟩
    show (s.connections ++ [d])[client.connection]? = some c
    rw [getElem?_connected, if_neg hne]
    exact hc

omit [DecidableEq Digest] in
theorem Owns.setLog {log : List (Exchange Digest)} (h : Owns id call s g)
    (hk : s.connections[k]? = some ⟨.login id, log⟩) : Owns id call s (g.setLog k log) where
  logs j log' hlog := by
    by_cases hj : j = k
    · subst hj
      rw [Ghost.logs_setLog] at hlog
      obtain rfl := Option.some.inj hlog
      exact hk
    · rw [Ghost.logs_setLog_of_ne _ hj] at hlog
      exact h.logs j log' hlog
  known := h.known

omit [DecidableEq Digest] in
theorem Owns.dropLog (h : Owns id call s g) (k : ℕ) : Owns id call s (g.dropLog k) where
  logs j log hlog := by
    by_cases hj : j = k
    · subst hj
      rw [Ghost.logs_dropLog] at hlog
      cases hlog
    · rw [Ghost.logs_dropLog_of_ne hj] at hlog
      exact h.logs j log hlog
  known := h.known

/-! ### Exchanges -/

section Exchange

variable {c : Connection Digest} {x : Exchange Digest}

/-- A command on a connection, recorded. -/
theorem inv_exchanged (hs : s.Inv) (hc : s.connections[k]? = some c)
    (hd : ∀ u : AdapterState Digest, s.Grows u →
      u.Accounted k { c with exchanges := c.exchanges ++ [x] }) :
    (s.setConnection k { c with exchanges := c.exchanges ++ [x] }).Inv where
  sessions session client h := by
    obtain ⟨e, he, hholder⟩ := hs.sessions session client h
    rw [getElem?_setConnection _ hc]
    split
    · next hj =>
      rw [hj, hc] at he
      obtain rfl := Option.some.inj he
      exact ⟨_, rfl, hholder⟩
    · exact ⟨e, he, hholder⟩
  connections :=
    accounted_setConnection hs hc (List.prefix_append _ _)
      (hd _ (grows_setConnection hc (List.prefix_append _ _)))

omit [DecidableEq Digest] in
/-- Nobody else's connections are used. -/
theorem Owns.exchanged {j : ℕ} (h : Owns id call s g) (hc : s.connections[k]? = some c)
    (hadmits : Holder.admits c.holder j = true) (hj : j ≠ id ∨ g.logs k = none) :
    Owns id call (s.setConnection k { c with exchanges := c.exchanges ++ [x] }) g where
  logs i log hlog := by
    have hi := h.logs i log hlog
    rw [getElem?_setConnection _ hc, if_neg]
    · exact hi
    · rintro rfl
      obtain rfl := Option.some.inj (hc.symm.trans hi)
      cases hj with
      | inl hj => exact hj (of_decide_eq_true hadmits).symm
      | inr hnone =>
        rw [hnone] at hlog
        cases hlog
  known client hclient := by
    obtain ⟨token, e, htoken, he, hholder⟩ := h.known client hclient
    rw [getElem?_setConnection _ hc]
    split
    · next hi =>
      rw [hi, hc] at he
      obtain rfl := Option.some.inj he
      exact ⟨token, _, htoken, rfl, hholder⟩
    · exact ⟨token, e, htoken, he, hholder⟩

/-- A command that the protocol allows leaves the connection accounted for. -/
theorem accounted_of_mayCall {command : GmpCommand} {error : Option GvmError} (hs : s.Inv)
    (howns : Owns id call s g) (hc : s.connections[k]? = some c)
    (h : MayCall id call g k command) {u : AdapterState Digest} (hsu : s.Grows u) :
    u.Accounted k { c with exchanges := c.exchanges ++ [⟨id, call, command, error⟩] } := by
  cases h with
  | login connects log =>
    subst connects
    obtain rfl := Option.some.inj (hc.symm.trans (howns.logs k _ log))
    exact .attempted
  | probe connects log =>
    subst connects
    obtain rfl := Option.some.inj (hc.symm.trans (howns.logs k _ log))
    exact .probed
  | @operation client _ known connection serves =>
    subst connection
    obtain ⟨token, c', htoken, hc', hholder⟩ := howns.known client known
    obtain rfl := Option.some.inj (hc.symm.trans hc')
    have haccounted := hs.connections client.connection c hc
    cases haccounted with
    | opened => cases hholder
    | attempted => cases hholder
    | probed => cases hholder
    | @stored session capability opening later opens hlater =>
      obtain ⟨rfl, rfl⟩ := Holder.session.inj hholder
      rw [List.append_assoc]
      refine .stored (opens.mono hsu) ?_
      rw [List.forall_mem_append]
      refine ⟨hlater, fun x hx => ?_⟩
      obtain rfl := List.mem_singleton.mp hx
      exact ⟨⟨token, htoken, rfl⟩, serves⟩

omit [DecidableEq Digest] in
/-- The own connections of a call, after a command of its own. -/
theorem Owns.record (h : Owns id call s g) (hc : s.connections[k]? = some c)
    (hadmits : Holder.admits c.holder id = true) :
    Owns id call (s.setConnection k { c with exchanges := c.exchanges ++ [x] }) (g.record k x) := by
  cases hlog : g.logs k with
  | none =>
    have hsame : g.record k x = g := by rw [Ghost.record, hlog]
    rw [hsame]
    exact h.exchanged hc hadmits (.inr hlog)
  | some log =>
    have hown := h.logs k log hlog
    obtain rfl := Option.some.inj (hc.symm.trans hown)
    rw [Ghost.record_of_log x hlog, ← Ghost.dropLog_setLog]
    refine ((h.dropLog k).exchanged hc hadmits (.inr (Ghost.logs_dropLog k))).setLog ?_
    rw [getElem?_setConnection _ hc, if_pos rfl]

end Exchange

/-! ### Storing a client -/

omit [DecidableEq Digest] in
/-- What a login has exchanged when it stores a client. -/
theorem opens_of_mayStore {token : String} {client : SharedClient} (howns : Owns id call s g)
    (h : MayStore id call g token client) : ∃ opening,
      s.connections[client.connection]? = some ⟨.login id, opening⟩ ∧
      s.Opens client.connection (fromToken token) client.credentialStoreCapability opening := by
  cases h with
  | probed connects outcome log =>
    subst connects
    exact ⟨_, howns.logs _ _ log, .probed rfl outcome⟩
  | @reconnected username password error k connects outcome log other probed =>
    subst connects
    have hk := howns.logs k _ probed
    exact ⟨_, howns.logs _ _ log,
      .reconnected rfl outcome other ⟨_, hk, List.prefix_refl _⟩⟩

section Store

variable {token : String} {client : SharedClient} {opening : List (Exchange Digest)}

theorem inv_stored (hs : s.Inv)
    (hc : s.connections[client.connection]? = some ⟨.login id, opening⟩)
    (hopens : s.Opens client.connection (fromToken token) client.credentialStoreCapability
      opening) :
    Inv { s.setConnection client.connection
        ⟨.session (fromToken token) client.credentialStoreCapability, opening⟩ with
      sessions := s.sessions.insert (fromToken token) client } := by
  set d : Connection Digest :=
    ⟨.session (fromToken token) client.credentialStoreCapability, opening⟩ with hd
  have hle : opening <+: d.exchanges := List.prefix_refl opening
  constructor
  -- no other session has this connection, since a login holds it until now
  · have hall := AList.forall_lookup_insert (m := s.sessions) (k := fromToken token) (v := client)
      (P := fun session client' => ∃ c, (s.setConnection client.connection d).connections[
        client'.connection]? = some c ∧
        c.holder = .session session client'.credentialStoreCapability)
      ⟨d, by rw [getElem?_setConnection _ hc, if_pos rfl], rfl⟩ fun session client' _ h => by
        obtain ⟨c, hc', hholder⟩ := hs.sessions session client' h
        refine ⟨c, ?_, hholder⟩
        rw [getElem?_setConnection _ hc, if_neg]
        · exact hc'
        · intro heq
          rw [heq, hc] at hc'
          obtain rfl := Option.some.inj hc'
          cases hholder
    exact hall
  · have hstored : (s.setConnection client.connection d).Accounted client.connection
        ⟨.session (fromToken token) client.credentialStoreCapability, opening ++ []⟩ :=
      .stored (hopens.mono (grows_setConnection hc hle)) fun _ h => absurd h List.not_mem_nil
    rw [List.append_nil] at hstored
    intro j e he
    exact (accounted_setConnection hs hc hle hstored j e he).mono
      fun k c hc => ⟨c, hc, List.prefix_refl _⟩

omit [DecidableEq Digest] in
/-- The connections of another call, or other connections of the same call, stay. -/
theorem Owns.stored {j : ℕ} {d : Connection Digest} (h : Owns j call s g)
    (hc : s.connections[client.connection]? = some ⟨.login id, opening⟩)
    (hj : j ≠ id ∨ g.logs client.connection = none) :
    Owns j call (s.setConnection client.connection d) g where
  logs i log hlog := by
    have hi := h.logs i log hlog
    rw [getElem?_setConnection _ hc, if_neg]
    · exact hi
    · rintro rfl
      cases hj with
      | inl hj =>
        have hholder := congrArg Connection.holder (Option.some.inj (hc.symm.trans hi))
        exact hj (Holder.login.inj hholder).symm
      | inr hnone =>
        rw [hnone] at hlog
        cases hlog
  known client' hclient := by
    obtain ⟨token, e, htoken, he, hholder⟩ := h.known client' hclient
    refine ⟨token, e, htoken, ?_, hholder⟩
    rw [getElem?_setConnection _ hc, if_neg]
    · exact he
    · intro heq
      rw [heq, hc] at he
      obtain rfl := Option.some.inj he
      cases hholder

end Store

/-! ## The rule applies -/

variable {c : AdapterCall Digest} {event : AdapterEvent} {reply : c.Reply}

/-- A call that the protocol allows keeps the invariant, and gives its thread what the protocol
promises. -/
theorem own_perform (hs : s.Inv) (howns : Owns id call s g)
    (henabled : (protocol id call).enabled g c)
    (h : s.perform id call c event = some (reply, t)) :
    t.Inv ∧ ∃ g', (protocol id call).after g c reply g' ∧ Owns id call t g' := by
  unfold perform at h
  split at h
  · -- a new connection, if the attempt succeeds
    next result =>
    obtain h := Option.some.inj h
    cases result with
    | error err =>
      obtain ⟨rfl, rfl⟩ := Prod.mk.inj h
      exact ⟨hs, g, rfl, howns⟩
    | ok version =>
      obtain ⟨rfl, rfl⟩ := Prod.mk.inj h
      have hnone : g.logs s.connections.length = none := by
        cases hlog : g.logs s.connections.length with
        | none => rfl
        | some log =>
          exact absurd (List.getElem?_eq_some_iff.mp (howns.logs _ log hlog)).1 (lt_irrefl _)
      refine ⟨inv_connected hs, g.setLog s.connections.length [], ⟨hnone, rfl⟩, ?_⟩
      refine howns.connected.setLog ?_
      show (s.connections ++ [⟨.login id, []⟩])[s.connections.length]? = _
      rw [getElem?_connected, if_pos rfl]
  · -- a command
    next k command answer =>
    obtain ⟨rfl, c, hc, hadmits, rfl⟩ := exchange_eq_some h
    refine ⟨inv_exchanged hs hc fun u hu => accounted_of_mayCall hs howns hc henabled hu,
      g.record k ⟨id, call, command, errorOf _⟩, rfl, howns.record hc hadmits⟩
  · -- the client of a login is stored
    next token client =>
    obtain ⟨t', hinsert, heq⟩ := Option.map_eq_some_iff.mp h
    obtain ⟨-, rfl⟩ := Prod.mk.inj heq
    obtain ⟨c, hc, -, rfl⟩ := insert_eq_some hinsert
    obtain ⟨opening, hopening, hopens⟩ := opens_of_mayStore howns henabled
    obtain rfl := Option.some.inj (hc.symm.trans hopening)
    refine ⟨inv_stored hs hc hopens, g.dropLog client.connection, rfl, ?_⟩
    have hleft := (howns.dropLog client.connection).stored (d := ⟨.session (fromToken token)
      client.credentialStoreCapability, opening⟩) hc (.inr (Ghost.logs_dropLog _))
    exact ⟨hleft.logs, hleft.known⟩
  · -- a client is found
    next token =>
    obtain ⟨rfl, rfl⟩ := Prod.mk.inj (Option.some.inj h)
    cases hfound : s.sessions.lookup (fromToken token) with
    | none => exact ⟨hs, g, rfl, howns⟩
    | some client =>
      obtain ⟨c, hc, hholder⟩ := hs.sessions _ client hfound
      refine ⟨hs, g.learn client, rfl, howns.logs, ?_⟩
      intro client' hclient
      obtain rfl | hclient := List.mem_cons.mp hclient
      · exact ⟨token, c, henabled, hc, hholder⟩
      · exact howns.known client' hclient
  · obtain ⟨rfl, rfl⟩ := Prod.mk.inj (Option.some.inj h)
    exact ⟨hs, g, rfl, howns⟩
  · -- a session is disconnected
    next session =>
    obtain ⟨rfl, rfl⟩ := Prod.mk.inj (Option.some.inj h)
    refine ⟨⟨fun session' client hfound => ?_, fun k c hc => ?_⟩, g, rfl, howns.logs, howns.known⟩
    · have hbefore : s.sessions.lookup session' = some client := by
        rw [AList.lookup_erase_eq_ite] at hfound
        split at hfound
        · cases hfound
        · exact hfound
      exact hs.sessions session' client hbefore
    · exact (hs.connections k c hc).mono fun j d hd => ⟨d, hd, List.prefix_refl _⟩
  · cases h

/-- A call takes nothing away from another one. -/
theorem other_perform {j : ℕ} {other : PortCall Digest} {g' : Ghost Digest}
    (howns : Owns id call s g) (henabled : (protocol id call).enabled g c)
    (h : s.perform id call c event = some (reply, t)) (hj : j ≠ id) (hother : Owns j other s g') :
    Owns j other t g' := by
  unfold perform at h
  split at h
  · next result =>
    obtain h := Option.some.inj h
    cases result with
    | error err =>
      obtain ⟨rfl, rfl⟩ := Prod.mk.inj h
      exact hother
    | ok version =>
      obtain ⟨rfl, rfl⟩ := Prod.mk.inj h
      exact hother.connected
  · next k command answer =>
    obtain ⟨rfl, c, hc, hadmits, rfl⟩ := exchange_eq_some h
    exact hother.exchanged hc hadmits (.inl hj.symm)
  · next token client =>
    obtain ⟨t', hinsert, heq⟩ := Option.map_eq_some_iff.mp h
    obtain ⟨-, rfl⟩ := Prod.mk.inj heq
    obtain ⟨c, hc, -, rfl⟩ := insert_eq_some hinsert
    -- the connection stored is the caller's own, which it holds by its login
    obtain ⟨opening, hopening, -⟩ := opens_of_mayStore howns henabled
    obtain rfl := Option.some.inj (hc.symm.trans hopening)
    have hleft := hother.stored (d := ⟨.session (fromToken token)
      client.credentialStoreCapability, opening⟩) hc (.inl hj)
    exact ⟨hleft.logs, hleft.known⟩
  · obtain ⟨rfl, rfl⟩ := Prod.mk.inj (Option.some.inj h)
    exact hother
  · obtain ⟨rfl, rfl⟩ := Prod.mk.inj (Option.some.inj h)
    exact hother
  · obtain ⟨rfl, rfl⟩ := Prod.mk.inj (Option.some.inj h)
    exact ⟨hother.logs, hother.known⟩
  · cases h

omit [DecidableEq Digest] in
theorem owns_new (id : ℕ) (call : PortCall Digest) (s : AdapterState Digest) :
    Owns id call s .new where
  logs _ _ h := by cases h
  known _ h := absurd h List.not_mem_nil

theorem inv_unixSocket : (unixSocket : AdapterState Digest).Inv where
  sessions _ _ h := by cases h
  connections _ _ h := by cases h

theorem sound (gmp : Gmp) :
    Threads.Sound (PortCall.program gmp : PortCall Digest → _) perform protocol Owns Inv where
  start id tag _ _ :=
    ⟨.new, owns_new id tag _, keeps_program id tag⟩
  own _ _ _ _ _ _ _ _ hs howns henabled h := own_perform hs howns henabled h
  other _ _ _ _ _ _ _ _ _ howns henabled h _ _ _ hj hother :=
    other_perform howns henabled h hj hother

/-! ## Every reachable state -/

/-- The system: any number of calls of the ports, on a new adapter. -/
abbrev System (Digest : Type) : Type :=
  Threads (AdapterReply Digest) (PortCall Digest) (AdapterState Digest)
    GatewayError Unit

theorem inv_run {gmp : Gmp} {as : List (Threads.Action (PortCall Digest) AdapterEvent)}
    {w : System Digest}
    (h : run (Threads.step (PortCall.program gmp) perform) (.new unixSocket) as = some w) :
    w.shared.Inv :=
  Threads.invariant (sound gmp) inv_unixSocket h

end AdapterState

/-- The first command on a connection is the login of the call that opened it. The others come
from the same call, or from the operations with a token of the session that it has opened. -/
structure Connection.OpenedBy (c : Connection Digest) (login : Exchange Digest)
    (later : List (Exchange Digest)) (token username password : String) : Prop where
  exchanges : c.exchanges = login :: later
  call : login.call = .connectSession token username password
  command : login.command = .authenticate username password
  succeeded : later ≠ [] → login.error = none
  later : ∀ x ∈ later, x.command.isAuthenticate = false ∧
    (x.sender = login.sender ∧ x.call = login.call ∨
      x.call.isLogin = false ∧ ∃ token', x.call.token = some token' ∧
        (fromToken token' : Digest) = fromToken token)

namespace AdapterState

variable {s : AdapterState Digest} {k : ℕ}

omit [DecidableEq Digest] in
/-- What a login exchanges before its client is stored. -/
theorem Opens.openedBy {session : Digest} {capability : CredentialStoreCapability}
    {opening later : List (Exchange Digest)} (h : s.Opens k session capability opening)
    (hlater : ∀ x ∈ later, x.Serves session capability) :
    ∃ login later' token username password, fromToken token = session ∧ login.error = none ∧
      (⟨.session session capability, opening ++ later⟩ : Connection Digest).OpenedBy login later'
        token username password := by
  have hserves : ∀ token, (fromToken token : Digest) = session → ∀ x ∈ later,
      x.command.isAuthenticate = false ∧ x.call.isLogin = false ∧
        ∃ token', x.call.token = some token' ∧ (fromToken token' : Digest) = fromToken token := by
    intro token htoken x hx
    have hserves := hlater x hx
    obtain ⟨token', hcall, hsession⟩ := hserves.token
    exact ⟨hserves.serves.loggedIn, hserves.serves.operation, token', hcall,
      hsession.trans htoken.symm⟩
  cases h with
  | @probed id token username password error session_eq outcome =>
    refine ⟨_, _, token, username, password, session_eq, rfl, rfl, rfl, rfl, fun _ => rfl, ?_⟩
    intro x hx
    obtain rfl | hx := List.mem_cons.mp hx
    · exact ⟨rfl, .inl ⟨rfl, rfl⟩⟩
    · obtain ⟨hcommand, hcall⟩ := hserves token session_eq x hx
      exact ⟨hcommand, .inr hcall⟩
  | @reconnected id token username password error k' session_eq outcome other started =>
    refine ⟨_, _, token, username, password, session_eq, rfl, rfl, rfl, rfl, fun _ => rfl, ?_⟩
    intro x hx
    obtain ⟨hcommand, hcall⟩ := hserves token session_eq x hx
    exact ⟨hcommand, .inr hcall⟩

omit [DecidableEq Digest] in
/-- No command has failed that was sent. -/
theorem Opens.unfailed {session : Digest} {capability : CredentialStoreCapability}
    {opening : List (Exchange Digest)} (h : s.Opens k session capability opening) :
    ∀ x ∈ opening, x.error = none ∨
      ∃ display, x.error = some (.unsupportedCommand "get_credential_stores" display) := by
  cases h with
  | @probed id token username password error session_eq outcome =>
    intro x hx
    obtain rfl | hx := List.mem_cons.mp hx
    · exact .inl rfl
    · obtain rfl := List.mem_singleton.mp hx
      exact settle_stays (congrArg CredentialStoreProbeOutcome.requiresReconnect outcome)
  | reconnected =>
    intro x hx
    obtain rfl := List.mem_singleton.mp hx
    exact .inl rfl

omit [DecidableEq Digest] in
theorem Accounted.openedBy {c : Connection Digest} (h : s.Accounted k c) :
    c.exchanges = [] ∨ ∃ login later token username password,
      c.OpenedBy login later token username password := by
  cases h with
  | opened => exact .inl rfl
  | @attempted id token username password error =>
    exact .inr ⟨_, [], token, username, password, rfl, rfl, rfl, fun h => absurd rfl h,
      fun _ hx => absurd hx List.not_mem_nil⟩
  | @probed id token username password error =>
    refine .inr ⟨_, _, token, username, password, rfl, rfl, rfl, fun _ => rfl, ?_⟩
    intro x hx
    obtain rfl := List.mem_singleton.mp hx
    exact ⟨rfl, .inl ⟨rfl, rfl⟩⟩
  | stored opens serves =>
    obtain ⟨login, later, token, username, password, -, -, hopened⟩ := opens.openedBy serves
    exact .inr ⟨login, later, token, username, password, hopened⟩

variable {gmp : Gmp} {as : List (Threads.Action (PortCall Digest) AdapterEvent)}
variable {w : System Digest}

/-- However logins, logouts and operations interleave, gvmd runs each command as the user who has
opened the session of its caller: a connection carries one login, and then commands of that
session only, and the map of sessions leads to the connection of the session's own login. -/
theorem commands_run_as_session_user
    (h : run (Threads.step (PortCall.program gmp) perform) (.new unixSocket) as = some w) :
    (∀ (k : ℕ) (c : Connection Digest), w.shared.connections[k]? = some c → c.exchanges = [] ∨
      ∃ login later token username password, c.OpenedBy login later token username password) ∧
    ∀ (session : Digest) (client : SharedClient), w.shared.sessions.lookup session = some client →
      ∃ (c : Connection Digest) (login : Exchange Digest) (later : List (Exchange Digest))
        (token username password : String),
        w.shared.connections[client.connection]? = some c ∧ fromToken token = session ∧
        login.error = none ∧ c.OpenedBy login later token username password := by
  have hinv := inv_run h
  constructor
  · intro k c hc
    exact (hinv.connections k c hc).openedBy
  · intro session client hfound
    obtain ⟨c, hc, hholder⟩ := hinv.sessions session client hfound
    have haccounted := hinv.connections _ c hc
    cases haccounted with
    | opened => cases hholder
    | attempted => cases hholder
    | probed => cases hholder
    | stored opens serves =>
      obtain ⟨rfl, rfl⟩ := Holder.session.inj hholder
      obtain ⟨login, later, token, username, password, hsession, herror, hopened⟩ :=
        opens.openedBy serves
      exact ⟨_, login, later, token, username, password, hc, hsession, herror, hopened⟩

/-- A session is stored on a connection on which no command has failed that was sent: where the
probe of its login has, the session is on another one. The capability is what the login made of
its probe, and where that is `unsupported`, no operation of the session ever sends a
credential-store command. -/
theorem sessions_are_settled
    (h : run (Threads.step (PortCall.program gmp) perform) (.new unixSocket) as = some w)
    {session : Digest} {client : SharedClient}
    (hfound : w.shared.sessions.lookup session = some client) :
    ∃ c opening later, w.shared.connections[client.connection]? = some c ∧
      c.exchanges = opening ++ later ∧
      w.shared.Opens client.connection session client.credentialStoreCapability opening ∧
      (∀ x ∈ opening, x.error = none ∨
        ∃ display, x.error = some (.unsupportedCommand "get_credential_stores" display)) ∧
      ∀ x ∈ later, x.Serves session client.credentialStoreCapability := by
  have hinv := inv_run h
  obtain ⟨c, hc, hholder⟩ := hinv.sessions session client hfound
  have haccounted := hinv.connections _ c hc
  cases haccounted with
  | opened => cases hholder
  | attempted => cases hholder
  | probed => cases hholder
  | stored opens serves =>
    obtain ⟨rfl, rfl⟩ := Holder.session.inj hholder
    exact ⟨_, _, _, hc, rfl, opens, opens.unfailed, serves⟩

/-! ### A login whose probe gvmd refuses -/

/-- gvmd has disabled `get_credential_stores`. -/
def storesDisabled : AdapterEvent :=
  .answered fun
    | .authenticate _ _ | .other _ => .ok ()
    | .getCredentialStores => .error (.server 503 "Service unavailable: Command disabled" "")
    | _ => .error (.other "")

/-- A login that reconnects, a request of its session, and a request for the stores, which is
refused before it is sent. -/
def disabledStores : List (Threads.Action (PortCall String) AdapterEvent) :=
  [.start 0 (.connectSession "a" "alice" "secret"), .perform 0 (.connected (.ok "22.8")),
    .perform 0 storesDisabled, .perform 0 storesDisabled, .perform 0 (.connected (.ok "22.8")),
    .perform 0 storesDisabled, .perform 0 .none,
    .start 1 (.callWithSession "a" "tasks.list"), .perform 1 .none, .perform 1 (.slot true),
    .perform 1 storesDisabled,
    .start 2 (.listCredentialStores "a"), .perform 2 .none]

theorem commands_run_as_session_user_disabled : ∃ w : System String,
    run (Threads.step (PortCall.program .any) perform) (.new unixSocket) disabledStores
      = some w ∧
    w.shared.sessions.lookup "a" = some ⟨1, .unsupported⟩ ∧
    ∃ (c : Connection String) (login : Exchange String) (later : List (Exchange String))
      (token username password : String), w.shared.connections[1]? = some c ∧ token = "a" ∧
      login.error = none ∧ c.OpenedBy login later token username password := by
  have hrun : ∃ w : System String,
      run (Threads.step (PortCall.program .any) perform) (.new unixSocket) disabledStores
        = some w ∧ w.shared.sessions.lookup "a" = some ⟨1, .unsupported⟩ := ⟨_, rfl, rfl⟩
  obtain ⟨w, hw, hfound⟩ := hrun
  exact ⟨w, hw, hfound, (commands_run_as_session_user hw).2 "a" _ hfound⟩

theorem sessions_are_settled_disabled : ∃ w : System String,
    run (Threads.step (PortCall.program .any) perform) (.new unixSocket) disabledStores
      = some w ∧
    ∃ c opening later, w.shared.connections[1]? = some c ∧ c.exchanges = opening ++ later ∧
      w.shared.Opens 1 "a" .unsupported opening ∧
      (∀ x ∈ opening, x.error = none ∨
        ∃ display, x.error = some (.unsupportedCommand "get_credential_stores" display)) ∧
      ∀ x ∈ later, x.Serves "a" .unsupported := by
  have hrun : ∃ w : System String,
      run (Threads.step (PortCall.program .any) perform) (.new unixSocket) disabledStores
        = some w ∧ w.shared.sessions.lookup "a" = some ⟨1, .unsupported⟩ := ⟨_, rfl, rfl⟩
  obtain ⟨w, hw, hfound⟩ := hrun
  exact ⟨w, hw, sessions_are_settled hw hfound⟩

end AdapterState

end GvmGateway.Gvmd

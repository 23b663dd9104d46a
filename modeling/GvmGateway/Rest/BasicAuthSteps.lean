import GvmGateway.App.ExportLifecycle
import GvmGateway.App.SessionTeardown
import GvmGateway.Rest.BasicAuth

/-!
# What a step with Basic requests can do

`Move` lists the steps of the gateway together with its Basic requests; a Basic request moves the
gateway by the calls it makes, or not at all.
-/

namespace GvmGateway.Rest

open SessionTokenDigest SessionManager TransitionSystem

theorem BasicRequest.inProgress_iff {r : BasicRequest} : r.inProgress = true ↔
    r.stage = .creating ∨ r.stage = .handling ∨ r.stage = .leaving := by
  simp [inProgress, or_assoc]

namespace RestGateway

variable {Digest : Type} [DecidableEq Digest] [SessionTokenDigest Digest]

/-- The steps from a state. -/
inductive Move (s : RestGateway Digest) : Action Digest → RestGateway Digest → Prop where
  | gateway {a : Gateway.Action Digest} {g : Gateway Digest} (other : s.ownsLogin a = false)
      (call : s.gateway.step a = some g) : Move s (.gateway a) (s.setGateway g)
  -- a request that is answered before its login
  | refused {rid : ℕ} {request : Request} {decoded : Except GatewayError String} {token : String}
      {order : List Digest} : Move s (.basicStart rid request decoded token order) s
  | started {rid : ℕ} {request : Request} {decoded : Except GatewayError String}
      {token user : String} {order : List Digest} {g : Gateway Digest}
      (free : s.basic.lookup rid = none)
      (fresh : s.gateway.creates.lookup (fromToken token) = none)
      (login : (g.creates.lookup (fromToken token)).isSome)
      (call : s.gateway.step (.createSession token user order) = some g) :
      Move s (.basicStart rid request decoded token order)
        ((s.setGateway g).setBasic rid
          { token := token, stage := .creating, response := none, teardown := none })
  | entered {rid : ℕ} {r : BasicRequest} (found : s.basic.lookup rid = some r)
      (stage : r.stage = .creating)
      (login : s.gateway.creates.lookup (fromToken r.token) = some .returned) :
      Move s (.basicCreated rid) (s.setBasic rid (r.atStage .handling))
  | unprepared {rid : ℕ} {r : BasicRequest} (found : s.basic.lookup rid = some r)
      (stage : r.stage = .creating)
      (login : s.gateway.creates.lookup (fromToken r.token) = some .returned) :
      Move s (.basicCreated rid) (s.setBasic rid (r.atStage .leaving))
  | loginFailed {rid : ℕ} {r : BasicRequest} {err : GatewayError}
      (found : s.basic.lookup rid = some r) (stage : r.stage = .creating)
      (login : s.gateway.creates.lookup (fromToken r.token) = some (.failed err)) :
      Move s (.basicCreated rid) (s.setBasic rid (r.atStage (.answered (.error err))))
  | responded {rid status : ℕ} {r : BasicRequest} (found : s.basic.lookup rid = some r)
      (stage : r.stage = .handling) :
      Move s (.basicResponse rid status)
        (s.setBasic rid { r with stage := .leaving, response := some status })
  | deleted {rid id : ℕ} {r : BasicRequest} {g : Gateway Digest}
      (found : s.basic.lookup rid = some r) (stage : r.stage = .leaving)
      (call : s.gateway.step (.deleteSession id r.token) = some g)
      (session : registered s.gateway.sessions (fromToken r.token) = 1) :
      Move s (.basicDelete rid id)
        ((s.setGateway g).setBasic rid { r with stage := .deleting, teardown := some id })
  -- the session was gone
  | missed {rid id : ℕ} {r : BasicRequest} {g : Gateway Digest}
      (found : s.basic.lookup rid = some r) (stage : r.stage = .leaving)
      (call : s.gateway.step (.deleteSession id r.token) = some g)
      (session : registered s.gateway.sessions (fromToken r.token) = 0) :
      Move s (.basicDelete rid id)
        ((s.setGateway g).setBasic rid (r.atStage (.answered
          (teardownAnswer r.response (.error (.notFound "session not found"))))))
  | answered {rid : ℕ} {r : BasicRequest} (found : s.basic.lookup rid = some r)
      (stage : r.stage = .deleting)
      (returned : ((r.teardown.bind s.gateway.deletes.lookup).map DeleteCall.stage)
        = some .returned) :
      Move s (.basicAnswer rid)
        (s.setBasic rid (r.atStage (.answered (teardownAnswer r.response (.ok ())))))
  | droppedLogin {rid : ℕ} {r : BasicRequest} {g : Gateway Digest}
      (found : s.basic.lookup rid = some r) (stage : r.stage = .creating)
      (call : s.gateway.step (.dropCreate r.token) = some g) :
      Move s (.basicDrop rid) ((s.setGateway g).setBasic rid (r.atStage .dropped))
  | droppedHandler {rid : ℕ} {r : BasicRequest} (found : s.basic.lookup rid = some r)
      (stage : r.stage = .handling) :
      Move s (.basicDrop rid) (s.setBasic rid (r.atStage .dropped))

variable {s t : RestGateway Digest} {rid : ℕ}

omit [DecidableEq Digest] [SessionTokenDigest Digest] in
theorem lookup_setBasic (s : RestGateway Digest) (rid k : ℕ) (r : BasicRequest) :
    (s.setBasic rid r).basic.lookup k = if k = rid then some r else s.basic.lookup k :=
  AList.lookup_insert_eq_ite s.basic rid k r

theorem isSome_get (m : SessionManager Digest) (token : String) :
    (m.get token).isSome = true ↔ registered m (fromToken token) = 1 := by
  unfold SessionManager.get registered
  rw [Option.isSome_map]
  split
  · simp_all
  · simp_all

/-- A login that was refused leaves the gateway as it was. -/
theorem login_of_createSession {g g' : Gateway Digest} {token user : String} {order : List Digest}
    (h : g.createSession token user order = some g') :
    g.creates.lookup (fromToken token) = none ∧
      (g' = g ∨ (g'.creates.lookup (fromToken token)).isSome) := by
  constructor
  · unfold Gateway.createSession at h
    split at h
    · cases h
    · next hfresh => exact Option.not_isSome_iff_eq_none.mp hfresh
  · cases Gateway.createSession_move h with
    | loginRefused => exact .inl rfl
    | loginOpened fresh drained =>
      right
      simp [Gateway.setCreate]

theorem basicStart_move {request : Request} {decoded : Except GatewayError String}
    {token : String} {order : List Digest}
    (h : s.basicStart rid request decoded token order = some t) :
    s.Move (.basicStart rid request decoded token order) t := by
  unfold basicStart at h
  split at h
  · cases h
  · next hfree =>
    split at h
    · split at h
      · obtain rfl := Option.some.inj h
        exact .refused
      · split at h
        · cases h
        · next g hcall =>
          have hlogin := login_of_createSession hcall
          split at h
          · next hopened =>
            obtain rfl := Option.some.inj h
            exact .started (Option.not_isSome_iff_eq_none.mp hfree) hlogin.1 hopened hcall
          · next hrefused =>
            obtain rfl := Option.some.inj h
            obtain rfl := hlogin.2.resolve_right hrefused
            exact .refused
    · cases h

theorem basicCreated_move (h : s.basicCreated rid = some t) : s.Move (.basicCreated rid) t := by
  unfold basicCreated at h
  split at h
  · cases h
  · next r hfound =>
    split at h
    · next hstage =>
      split at h
      · next hlogin =>
        split at h
        · obtain rfl := Option.some.inj h
          exact .entered hfound hstage hlogin
        · obtain rfl := Option.some.inj h
          exact .unprepared hfound hstage hlogin
      · next err hlogin =>
        obtain rfl := Option.some.inj h
        exact .loginFailed hfound hstage hlogin
      · cases h
    · cases h

theorem basicDelete_move {id : ℕ} (h : s.basicDelete rid id = some t) :
    s.Move (.basicDelete rid id) t := by
  unfold basicDelete at h
  split at h
  · cases h
  · next r hfound =>
    split at h
    · next hstage =>
      split at h
      · cases h
      · next g hcall =>
        split at h
        · next hsession =>
          obtain rfl := Option.some.inj h
          exact .deleted hfound hstage hcall ((isSome_get _ _).mp hsession)
        · next hsession =>
          obtain rfl := Option.some.inj h
          rw [isSome_get] at hsession
          have hone := registered_le_one s.gateway.sessions (fromToken r.token)
          exact .missed hfound hstage hcall (by omega)
    · cases h

theorem basicDrop_move (h : s.basicDrop rid = some t) : s.Move (.basicDrop rid) t := by
  unfold basicDrop at h
  split at h
  · cases h
  · next r hfound =>
    split at h
    · next hstage =>
      obtain ⟨g, hcall, ht⟩ := Option.map_eq_some_iff.mp h
      rw [← ht]
      exact .droppedLogin hfound hstage hcall
    · next hstage =>
      obtain rfl := Option.some.inj h
      exact .droppedHandler hfound hstage
    · cases h

/-- Every step is one of the list. -/
theorem move_of_step {a : Action Digest} (h : s.step a = some t) : s.Move a t := by
  cases a with
  | gateway a =>
    unfold step at h
    dsimp only at h
    split at h
    · cases h
    · next hother =>
      obtain ⟨g, hcall, ht⟩ := Option.map_eq_some_iff.mp h
      rw [← ht]
      exact .gateway (Bool.eq_false_iff.mpr hother) hcall
  | basicStart rid request decoded token order => exact basicStart_move h
  | basicCreated rid => exact basicCreated_move h
  | basicResponse rid status =>
    unfold step basicResponse at h
    dsimp only at h
    split at h
    · cases h
    · next r hfound =>
      obtain ⟨hstage, ht⟩ := Option.ite_none_right_eq_some.mp h
      obtain rfl := Option.some.inj ht
      exact .responded hfound hstage
  | basicDelete rid id => exact basicDelete_move h
  | basicAnswer rid =>
    unfold step basicAnswer at h
    dsimp only at h
    split at h
    · cases h
    · next r hfound =>
      obtain ⟨hstage, ht⟩ := Option.ite_none_right_eq_some.mp h
      obtain rfl := Option.some.inj ht
      exact .answered hfound hstage.1 hstage.2
  | basicDrop rid => exact basicDrop_move h

end RestGateway
end GvmGateway.Rest

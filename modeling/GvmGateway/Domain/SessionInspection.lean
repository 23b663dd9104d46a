import GvmGateway.Domain.SessionTheorems

/-!
# Inspection and use

`get_info` and `touch` decide by themselves whether a session is live, and `get_info` tells
how long it stays so. They agree as long as the seconds told fit into an `i64` and the clock
is not behind the last use of the session.
-/

namespace GvmGateway.SessionManager

open SessionTokenDigest

variable {Digest : Type} [DecidableEq Digest] [SessionTokenDigest Digest]
  {m : SessionManager Digest} {now : ℕ} {token : String} {stored : StoredSession}

/-- `touch` would succeed. -/
def Touchable (m : SessionManager Digest) (now : ℕ) (token : String) : Prop :=
  ∃ session, (m.touch now token).1 = .ok session

/-- What an inspection at the time `now` says of the uses of the session. -/
structure InspectionAgrees (m : SessionManager Digest) (now : ℕ) (token : String) : Prop where
  active_iff : (∃ info, m.getInfo now token = .ok info ∧ info.state = .active) ↔
    m.Touchable now token
  positive_iff : ∀ info, m.getInfo now token = .ok info →
    (0 < info.expiresIn ↔ info.state = .active)
  until_expiry : ∀ stored info, m.inner.lookup (fromToken token) = some stored →
    stored.holdCount = 0 → m.getInfo now token = .ok info → info.state = .active →
    ∀ later, now ≤ later → later < 2 ^ 64 →
      (m.Touchable later token ↔ (later : ℤ) < now + info.expiresIn)

/-- The seconds told fit into an `i64`, and the last use is not ahead of the clock (but for
expiries that no `u64` time reaches). -/
def InspectionExact (m : SessionManager Digest) (now : ℕ) (token : String) : Prop :=
  ∀ stored, m.inner.lookup (fromToken token) = some stored →
    stored.isExpiredAt now m.idleTimeoutSecs = false →
    if 0 < stored.holdCount then m.idleTimeoutSecs < 2 ^ 63
    else m.idleTimeoutSecs - (now - stored.lastUsedAt) < 2 ^ 63 ∧
      (stored.lastUsedAt ≤ now ∨ 2 ^ 64 ≤ now + m.idleTimeoutSecs)

/-! ## What the two operations see -/

theorem touchable_iff : m.Touchable now token ↔ ∃ stored,
    m.inner.lookup (fromToken token) = some stored ∧
      stored.isExpiredAt now m.idleTimeoutSecs = false := by
  unfold Touchable touch useLive
  cases hlookup : m.inner.lookup (fromToken token) with
  | none => simp [Except.map]
  | some stored =>
    cases hexpired : stored.isExpiredAt now m.idleTimeoutSecs with
    | true => simp [Except.map, hexpired]
    | false => simp [Except.map, hexpired]

theorem touchable_of_lookup (hlookup : m.inner.lookup (fromToken token) = some stored) :
    m.Touchable now token ↔ stored.isExpiredAt now m.idleTimeoutSecs = false := by
  rw [touchable_iff]
  constructor
  · rintro ⟨found, hfound, hlive⟩
    obtain rfl := Option.some.inj (hlookup.symm.trans hfound)
    exact hlive
  · exact fun hlive => ⟨stored, hlookup, hlive⟩

/-- What an inspection reports of a session that it finds. -/
def reported (m : SessionManager Digest) (now : ℕ) (stored : StoredSession) :
    SessionState × ℤ :=
  if stored.isExpiredAt now m.idleTimeoutSecs then (.expired, 0)
  else if 0 < stored.holdCount then (.active, asI64 (max m.idleTimeoutSecs 1))
  else (.active, asI64 (m.idleTimeoutSecs - (now - stored.lastUsedAt)))

theorem getInfo_eq_ok {info : SessionInfo} : m.getInfo now token = .ok info ↔
    ∃ stored, m.inner.lookup (fromToken token) = some stored ∧
      info = { token := token, user := stored.user, state := (m.reported now stored).1,
               createdAt := stored.createdAt, lastUsedAt := stored.lastUsedAt,
               expiresIn := (m.reported now stored).2 } := by
  unfold getInfo
  cases hlookup : m.inner.lookup (fromToken token) with
  | none => simp
  | some stored =>
    constructor
    · exact fun hinfo => ⟨stored, rfl, (Except.ok.inj hinfo).symm⟩
    · rintro ⟨found, hfound, rfl⟩
      obtain rfl := Option.some.inj hfound
      rfl

omit [DecidableEq Digest] [SessionTokenDigest Digest] in
theorem reported_of_expired (hexpired : stored.isExpiredAt now m.idleTimeoutSecs = true) :
    m.reported now stored = (.expired, 0) :=
  if_pos hexpired

omit [DecidableEq Digest] [SessionTokenDigest Digest] in
theorem reported_of_held (hlive : stored.isExpiredAt now m.idleTimeoutSecs = false)
    (hheld : 0 < stored.holdCount) :
    m.reported now stored = (.active, asI64 (max m.idleTimeoutSecs 1)) := by
  unfold reported
  rw [hlive, if_neg Bool.false_ne_true, if_pos hheld]

omit [DecidableEq Digest] [SessionTokenDigest Digest] in
theorem reported_of_unheld (hlive : stored.isExpiredAt now m.idleTimeoutSecs = false)
    (hunheld : stored.holdCount = 0) :
    m.reported now stored =
      (.active, asI64 (m.idleTimeoutSecs - (now - stored.lastUsedAt))) := by
  unfold reported
  rw [hlive, if_neg Bool.false_ne_true, if_neg (by omega)]

omit [DecidableEq Digest] [SessionTokenDigest Digest] in
theorem state_reported :
    (m.reported now stored).1 = .active ↔
      stored.isExpiredAt now m.idleTimeoutSecs = false := by
  cases hexpired : stored.isExpiredAt now m.idleTimeoutSecs with
  | true =>
    rw [reported_of_expired hexpired]
    simp
  | false =>
    rcases Nat.eq_zero_or_pos stored.holdCount with hunheld | hheld
    · rw [reported_of_unheld hexpired hunheld]
      simp
    · rw [reported_of_held hexpired hheld]
      simp

/-- Whether a session is active is told as `touch` decides it, whatever the clock. -/
theorem active_iff_touchable :
    (∃ info, m.getInfo now token = .ok info ∧ info.state = .active) ↔
      m.Touchable now token := by
  rw [touchable_iff]
  constructor
  · rintro ⟨info, hinfo, hstate⟩
    obtain ⟨stored, hlookup, rfl⟩ := getInfo_eq_ok.mp hinfo
    exact ⟨stored, hlookup, state_reported.mp hstate⟩
  · rintro ⟨stored, hlookup, hlive⟩
    exact ⟨_, getInfo_eq_ok.mpr ⟨stored, hlookup, rfl⟩, state_reported.mpr hlive⟩

/-! ## The seconds until expiry -/

theorem asI64_pos_iff {n : ℕ} (hn : n < 2 ^ 64) : 0 < asI64 n ↔ 0 < n ∧ n < 2 ^ 63 := by
  unfold asI64
  split <;> omega

theorem asI64_of_lt {n : ℕ} (hn : n < 2 ^ 63) : asI64 n = n := if_pos hn

theorem isExpiredAt_of_unheld (hunheld : stored.holdCount = 0) {idle : ℕ}
    (hlive : stored.isExpiredAt now idle = false) (later : ℕ) :
    stored.isExpiredAt later idle = false ↔ later - stored.lastUsedAt < idle := by
  unfold StoredSession.isExpiredAt at hlive ⊢
  cases hstate : stored.state with
  | expired =>
    rw [hstate] at hlive
    exact absurd hlive (by simp)
  | active => simp [hunheld]

omit [DecidableEq Digest] [SessionTokenDigest Digest] in
/-- The seconds told are positive exactly when they fit. -/
theorem reported_pos_iff (hidle : m.idleTimeoutSecs < 2 ^ 64)
    (hlive : stored.isExpiredAt now m.idleTimeoutSecs = false) :
    0 < (m.reported now stored).2 ↔
      if 0 < stored.holdCount then m.idleTimeoutSecs < 2 ^ 63
      else m.idleTimeoutSecs - (now - stored.lastUsedAt) < 2 ^ 63 := by
  rcases Nat.eq_zero_or_pos stored.holdCount with hunheld | hheld
  · have hleft := (isExpiredAt_of_unheld hunheld hlive now).mp hlive
    rw [reported_of_unheld hlive hunheld, if_neg (by omega)]
    show 0 < asI64 _ ↔ _
    rw [asI64_pos_iff (by omega)]
    omega
  · rw [reported_of_held hlive hheld, if_pos hheld]
    show 0 < asI64 _ ↔ _
    rw [asI64_pos_iff (by omega)]
    omega

theorem inspectionExact_of_agrees (hidle : m.idleTimeoutSecs < 2 ^ 64)
    (hagrees : m.InspectionAgrees now token) : m.InspectionExact now token := by
  intro stored hlookup hlive
  obtain ⟨info, hinfo, heq⟩ : ∃ info, m.getInfo now token = .ok info ∧
      (info.state, info.expiresIn) = m.reported now stored :=
    ⟨_, getInfo_eq_ok.mpr ⟨stored, hlookup, rfl⟩, rfl⟩
  have hstate : info.state = .active := (congrArg Prod.fst heq).trans (state_reported.mpr hlive)
  have htold : info.expiresIn = (m.reported now stored).2 := congrArg Prod.snd heq
  have hfits := (reported_pos_iff hidle hlive).mp
    (htold ▸ (hagrees.positive_iff info hinfo).mpr hstate)
  rcases Nat.eq_zero_or_pos stored.holdCount with hunheld | hheld
  · rw [if_neg (by omega)] at hfits ⊢
    refine ⟨hfits, ?_⟩
    by_contra hahead
    -- the clock reaches the expiry told, and the session is still live
    have hexpiry := hagrees.until_expiry stored info hlookup hunheld hinfo hstate
      (now + m.idleTimeoutSecs) (by omega) (by omega)
    rw [touchable_of_lookup hlookup, isExpiredAt_of_unheld hunheld hlive] at hexpiry
    have hleft := (isExpiredAt_of_unheld hunheld hlive now).mp hlive
    rw [reported_of_unheld hlive hunheld] at htold
    have htold' := htold.trans (asI64_of_lt hfits)
    omega
  · rw [if_pos hheld] at hfits ⊢
    exact hfits

theorem InspectionExact.positive_iff (hidle : m.idleTimeoutSecs < 2 ^ 64)
    (hexact : m.InspectionExact now token) {info : SessionInfo}
    (hinfo : m.getInfo now token = .ok info) : 0 < info.expiresIn ↔ info.state = .active := by
  obtain ⟨stored, hlookup, rfl⟩ := getInfo_eq_ok.mp hinfo
  cases hexpired : stored.isExpiredAt now m.idleTimeoutSecs with
  | true =>
    dsimp only
    rw [reported_of_expired hexpired]
    simp
  | false =>
    have hfits := hexact stored hlookup hexpired
    refine iff_of_true ((reported_pos_iff hidle hexpired).mpr ?_) (state_reported.mpr hexpired)
    split_ifs at hfits ⊢ with hheld
    · exact hfits
    · exact hfits.1

theorem InspectionExact.until_expiry (hexact : m.InspectionExact now token) {info : SessionInfo}
    (hlookup : m.inner.lookup (fromToken token) = some stored) (hunheld : stored.holdCount = 0)
    (hinfo : m.getInfo now token = .ok info) (hactive : info.state = .active) {later : ℕ}
    (hle : now ≤ later) (hlater : later < 2 ^ 64) :
    m.Touchable later token ↔ (later : ℤ) < now + info.expiresIn := by
  obtain ⟨found, hfound, rfl⟩ := getInfo_eq_ok.mp hinfo
  obtain rfl := Option.some.inj (hlookup.symm.trans hfound)
  have hlive := state_reported.mp hactive
  have hfits := hexact stored hlookup hlive
  rw [if_neg (by omega)] at hfits
  have hleft := (isExpiredAt_of_unheld hunheld hlive now).mp hlive
  rw [touchable_of_lookup hlookup, isExpiredAt_of_unheld hunheld hlive]
  dsimp only
  rw [reported_of_unheld hlive hunheld]
  dsimp only
  rw [asI64_of_lt hfits.1]
  omega

/-- An inspection agrees with the uses of the session exactly when the seconds it tells fit
into an `i64` and the clock is not behind the last use. -/
theorem inspectionAgrees_iff (m : SessionManager Digest) (now : ℕ) (token : String)
    (hidle : m.idleTimeoutSecs < 2 ^ 64) :
    m.InspectionAgrees now token ↔ m.InspectionExact now token := by
  constructor
  · exact inspectionExact_of_agrees hidle
  · intro hexact
    refine ⟨active_iff_touchable, fun info hinfo => hexact.positive_iff hidle hinfo, ?_⟩
    intro stored info hlookup hunheld hinfo hactive later hle hlater
    exact hexact.until_expiry hlookup hunheld hinfo hactive hle hlater

/-- A registry with one session, opened at the time 0. -/
def oneSession (idleTimeoutSecs : ℕ) : SessionManager String :=
  ((withLimits String idleTimeoutSecs {}).create 0 "token" "alice").2

/-- With an idle timeout of five minutes an inspection after 100 seconds tells 200 seconds, and the
session can be used until they are over. -/
theorem inspectionAgrees_iff_minutes :
    (oneSession 300).InspectionAgrees 100 "token" ∧
    ∃ info, (oneSession 300).getInfo 100 "token" = .ok info ∧ info.expiresIn = 200 := by
  have hexact : (oneSession 300).InspectionExact 100 "token" := by
    intro stored hlookup _
    have hfound : (oneSession 300).inner.lookup (fromToken "token")
        = some ⟨"alice", .active, 0, 0, 0⟩ := by decide
    obtain rfl := Option.some.inj (hfound.symm.trans hlookup)
    decide
  exact ⟨(inspectionAgrees_iff (oneSession 300) 100 "token" (by decide)).mpr hexact, _, rfl, rfl⟩

/-- An idle timeout of `2 ^ 63` seconds is told as a negative number of seconds. -/
theorem negative_expiry_of_active_session :
    ¬(oneSession (2 ^ 63)).InspectionAgrees 0 "token" := by
  intro hagrees
  let told : SessionInfo :=
    { token := "token", user := "alice", state := .active, createdAt := 0, lastUsedAt := 0,
      expiresIn := -2 ^ 63 }
  have hinfo : (oneSession (2 ^ 63)).getInfo 0 "token" = .ok told := by decide
  have hpos := (hagrees.positive_iff told hinfo).mpr rfl
  exact absurd hpos (by decide)

end GvmGateway.SessionManager

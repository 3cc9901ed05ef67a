import RemoteOps.Auth.OneTime

/-!
# A refused refresh

`/token` replaces the refresh token of a session before it knows whether the
replacement reached the file, and before it looks at the requested resource. A
request that is refused at either point has changed the session all the same, and
its answer does not carry the new token.

A request that is refused earlier leaves the store as it is
(`token_of_not_reaches`); `token_of_reaches` says what every other one does.
-/

namespace RemoteOps

open Ecma Transition

/-! ## The property -/

section Property

variable (p : Platform) (env : OAuthEnv) (store : Store) (input : TokenInput)

/-- Every session is stored under its own id. -/
def SessionsKeyed (s : PersistentState) : Prop :=
  ∀ k x, s.sessions.get? k = some x → x.sessionId = k

/-- The refresh token that the request draws is not that of a stored session. -/
def DrawsNewToken : Prop :=
  ∀ k x, store.live.state.sessions.get? k = some x → x.refreshHash ≠ p.digest input.newRefreshToken

/-- A refused refresh changes nothing, and a granted one leaves its own token the
only one. -/
structure RefreshIsAtomic : Prop where
  sessions : (∀ r, (token p env input store).1 ≠ .tokens r) →
    (token p env input store).2.live.state.sessions = store.live.state.sessions ∧
      (token p env input store).2.file.sessions = store.file.sessions
  /-- what would have been redeemed before still is -/
  redeemed : (∀ r, (token p env input store).1 ≠ .tokens r) → ∀ later r,
    (token p env later store).1 = .tokens r →
      (token p env later (token p env input store).2).1 = .tokens r
  granted : ∀ r, (token p env input store).1 = .tokens r →
    ∀ now ≤ input.now.ms + refreshTtlMs, ∀ t,
      Redeemable p (token p env input store).2 now t r.sessionId ↔
        toChars t = toChars r.refreshToken

/-- The request passes everything that is checked before the rotation. -/
structure ReachesRotation (session : StoredSession) : Prop where
  usable : clientIsUsable input.clientId store.live = true
  found : findSessionByRefreshToken p.digest input.refreshToken store.live = some session
  clientId : session.clientId = input.clientId
  unrevoked : store.live.realm.isRevoked session.revokedAt = false
  unexpired : input.now.ms ≤ session.refreshExpiresAt

/-- A request that gets as far as the rotation asks for the resource of the
session, and the rotation is written. -/
def RotatesSafely : Prop :=
  ∀ session, ReachesRotation p store input session →
    input.resource env session.resource = some (session.resource.getD env.mcpResource) ∧
      input.writesSession = true

end Property

/-! ## What the endpoint does -/

section Endpoint

variable {p : Platform} {env : OAuthEnv} {store : Store} {input : TokenInput}
  {session : StoredSession}

/-- The session with the new token. -/
def StoredSession.rotated (p : Platform) (input : TokenInput) (session : StoredSession) :
    StoredSession :=
  { session with
    refreshHash := p.digest input.newRefreshToken
    refreshExpiresAt := input.now.ms + refreshTtlMs
    accessExpiresAt := input.now.ms + accessTtlMs
    lastSeenAt := input.now.ms }

/-- Memory with the session's new token. -/
def Live.rotate (p : Platform) (input : TokenInput) (session : StoredSession) (live : Live) :
    Live :=
  { live with
    state := { live.state with
      sessions := live.state.sessions.set session.sessionId (session.rotated p input) } }

theorem get?_of_find {live : Live} (hkeys : SessionsKeyed live.state) {t : JsString}
    (h : findSessionByRefreshToken p.digest t live = some session) :
    live.state.sessions.get? session.sessionId = some session ∧
      session.refreshHash = p.digest t := by
  rw [findSessionByRefreshToken, Option.map_eq_some_iff] at h
  obtain ⟨⟨k, x⟩, hfind, rfl⟩ := h
  obtain ⟨hget, hhash⟩ := Record.find?_some hfind
  rw [hkeys k x hget]
  exact ⟨hget, by simpa using hhash⟩

theorem token_of_not_reaches (env : OAuthEnv)
    (hgrant : input.grantType = js "refresh_token")
    (h : ∀ session, ¬ReachesRotation p store input session) :
    (token p env input store).2 = store ∧ ∀ r, (token p env input store).1 ≠ .tokens r := by
  have hcode : input.grantType ≠ js "authorization_code" := by
    rw [hgrant]
    decide
  rw [token, if_neg hcode, if_pos hgrant]
  split_ifs with husable
  · exact ⟨rfl, by simp⟩
  · rw [grantRefreshToken]
    split
    · exact ⟨rfl, by simp [invalidGrant]⟩
    · rename_i session hfound
      rw [if_pos]
      · exact ⟨rfl, by simp [invalidGrant]⟩
      · by_contra hchecks
        simp only [not_or, not_not, ne_eq, Bool.not_eq_true, not_lt] at hchecks
        obtain ⟨hclient, hunrevoked, hunexpired⟩ := hchecks
        rw [Bool.not_eq_false] at husable
        exact h session ⟨husable, hfound, hclient, hunrevoked, hunexpired⟩

theorem token_of_reaches (env : OAuthEnv) (hkeys : SessionsKeyed store.live.state)
    (hgrant : input.grantType = js "refresh_token") (h : ReachesRotation p store input session) :
    token p env input store =
      if input.writesSession = false then
        (.failed writeError, ⟨store.live.rotate p input session, store.file⟩)
      else if input.resource env session.resource =
          some (session.resource.getD env.mcpResource) then
        (.tokens (tokenResponse p env input input.clientId session.sessionId
            (session.resource.getD env.mcpResource)),
          ⟨store.live.rotate p input session, (store.live.rotate p input session).state⟩)
      else
        (invalidTarget,
          ⟨store.live.rotate p input session, (store.live.rotate p input session).state⟩) := by
  have hcode : input.grantType ≠ js "authorization_code" := by
    rw [hgrant]
    decide
  have hchecks : ¬(session.clientId ≠ input.clientId ∨
      store.live.realm.isRevoked session.revokedAt = true ∨
        session.refreshExpiresAt < input.now.ms) := by
    simp [h.clientId, h.unrevoked, h.unexpired]
  rw [token, if_neg (by simp [h.usable]), if_neg hcode, if_pos hgrant, grantRefreshToken, h.found]
  dsimp only
  rw [if_neg hchecks]
  simp only [Store.run, rotateRefreshToken, (get?_of_find hkeys h.found).1, h.unrevoked,
    Bool.false_eq_true, if_false]
  cases input.writesSession with
  | false => rfl
  | true =>
      simp only [if_true, Bool.true_eq_false, if_false]
      cases hresource : input.resource env session.resource with
      | none => rfl
      | some resource =>
          by_cases heq : session.resource.getD env.mcpResource = resource
          · simp only [heq, ne_eq, not_true, if_false, if_true]
            rfl
          · simp only [ne_eq, heq, not_false_eq_true, if_true, Option.some.injEq,
              Ne.symm heq, if_false]
            rfl

/-- The rotation is seen in the table. -/
theorem sessions_rotate_ne (hnew : DrawsNewToken p store input)
    (hstored : store.live.state.sessions.get? session.sessionId = some session) :
    (store.live.rotate p input session).state.sessions ≠ store.live.state.sessions := by
  intro heq
  have hget := congrArg (fun sessions => sessions.get? session.sessionId) heq
  simp only [Live.rotate, Record.get?_set_self, hstored, Option.some.injEq] at hget
  exact hnew _ _ hstored (congrArg StoredSession.refreshHash hget).symm

/-- After the rotation the session's only token is the new one. -/
theorem redeemable_rotate_iff (hp : p.CollisionFree) (hkeys : SessionsKeyed store.live.state)
    (hnew : DrawsNewToken p store input)
    (hunrevoked : store.live.realm.isRevoked session.revokedAt = false) (file : PersistentState)
    {now : ℤ} (hnow : now ≤ input.now.ms + refreshTtlMs) (t : JsString) :
    Redeemable p ⟨store.live.rotate p input session, file⟩ now t session.sessionId ↔
      toChars t = toChars input.newRefreshToken := by
  have hkeys' : SessionsKeyed (store.live.rotate p input session).state := by
    intro k x hx
    rw [Live.rotate, Record.get?_set] at hx
    split_ifs at hx with hk
    · rw [← Option.some.inj hx, hk]
      rfl
    · exact hkeys k x hx
  have hself : (store.live.rotate p input session).state.sessions.get? session.sessionId =
      some (session.rotated p input) := Record.get?_set_self _ _ _
  constructor
  · rintro ⟨x, hfound, hid, -⟩
    obtain ⟨hget, hhash⟩ := get?_of_find hkeys' hfound
    rw [hid, hself] at hget
    rw [← Option.some.inj hget] at hhash
    exact (hp.toChars_eq hhash).symm
  · intro heq
    have hdigest : p.digest t = p.digest input.newRefreshToken := by
      rw [Platform.digest, Platform.digest, utf8, utf8, heq]
    obtain ⟨k, x, hfind⟩ := Record.find?_isSome
      (p := fun s : StoredSession => s.refreshHash = p.digest t) hself
      (by simp [StoredSession.rotated, hdigest])
    obtain ⟨hget, hhash⟩ := Record.find?_some hfind
    rw [decide_eq_true_eq, hdigest] at hhash
    have hk : k = session.sessionId := by
      by_contra hk
      rw [Live.rotate, Record.get?_set_of_ne _ _ hk] at hget
      exact hnew k x hget hhash
    rw [hk, hself] at hget
    have hx : x = session.rotated p input := (Option.some.inj hget).symm
    refine ⟨session.rotated p input, ?_, rfl, hunrevoked, hnow⟩
    rw [findSessionByRefreshToken, hfind, hx]
    rfl

/-! ## When a refusal changes nothing -/

theorem refreshIsAtomic_iff (hp : p.CollisionFree) (hkeys : SessionsKeyed store.live.state)
    (hnew : DrawsNewToken p store input) (hgrant : input.grantType = js "refresh_token") :
    RefreshIsAtomic p env store input ↔ RotatesSafely p env store input := by
  constructor
  · intro h session hreaches
    have htoken := token_of_reaches env hkeys hgrant hreaches
    have hne := sessions_rotate_ne hnew (get?_of_find hkeys hreaches.found).1
    by_contra hsafe
    have hchanged : (∀ r, (token p env input store).1 ≠ .tokens r) ∧
        (token p env input store).2.live = store.live.rotate p input session := by
      rw [htoken]
      split_ifs with hwrites hresource
      · exact ⟨by simp, rfl⟩
      · exact absurd ⟨hresource, by simpa using hwrites⟩ hsafe
      · exact ⟨by simp [invalidTarget], rfl⟩
    apply hne
    rw [← hchanged.2]
    exact (h.sessions hchanged.1).1
  · intro hsafe
    by_cases hreaches : ∃ session, ReachesRotation p store input session
    · obtain ⟨session, hreaches⟩ := hreaches
      obtain ⟨hresource, hwrites⟩ := hsafe session hreaches
      have htoken := token_of_reaches env hkeys hgrant hreaches
      rw [if_neg (by simp [hwrites]), if_pos hresource] at htoken
      refine ⟨?_, ?_, ?_⟩
      · intro h
        exact absurd (congrArg Prod.fst htoken) (h _)
      · intro h
        exact absurd (congrArg Prod.fst htoken) (h _)
      · intro r hr now hnow t
        rw [htoken] at hr ⊢
        obtain rfl := OAuthReply.tokens.inj hr
        exact redeemable_rotate_iff hp hkeys hnew hreaches.unrevoked _ hnow t
    · have hsame := token_of_not_reaches env hgrant (not_exists.mp hreaches)
      refine ⟨?_, ?_, ?_⟩
      · intro _
        rw [hsame.1]
        exact ⟨rfl, rfl⟩
      · intro _ later r hr
        rw [hsame.1]
        exact hr
      · intro r hr
        exact absurd hr (hsame.2 r)

end Endpoint

/-! ## In every reachable store -/

section Reachable

variable {p : Platform} {env : OAuthEnv}

theorem sessionsKeyed_after (is : List OAuthInput) :
    SessionsKeyed ((oauth p env).after is).live.state := by
  intro k x hx
  exact ((sound_after p env is).1.sessions k x hx).2.1

/-- A token drawn for the first time is not that of a stored session. -/
theorem drawsNewToken_after (hp : p.CollisionFree) {is : List OAuthInput} {input : TokenInput}
    (hfresh : Fresh OAuthInput.names (is ++ [.token input])) :
    DrawsNewToken p ((oauth p env).after is) input := by
  intro k x hx hhash
  obtain ⟨-, -, -, n, hn, hold⟩ := (sound_after p env is).1.sessions k x hx
  have hnew : input.newRefreshToken ∈ (OAuthInput.token input).names := by
    simp [OAuthInput.names]
  have heq := OAuthInput.eq_of_digest hp hnew (hhash.symm.trans hold)
  exact hfresh.notMem hnew (heq ▸ hn)

end Reachable

/-- A refresh of the session `sess-A` for a resource that the server does not serve. -/
def otherResource : TokenInput :=
  ⟨[(js "client_id", js "ro-A"), (js "grant_type", js "refresh_token"),
    (js "refresh_token", js "rt-A"), (js "resource", js "https://other")],
    textB, textB, textB, sampleTime, sampleTime, sampleTime, true, true⟩

theorem refreshIsAtomic_otherResource :
    RefreshIsAtomic samplePlatform sampleOAuthEnv
        ((oauth samplePlatform sampleOAuthEnv).after sampleLogin) otherResource ↔
      RotatesSafely samplePlatform sampleOAuthEnv
        ((oauth samplePlatform sampleOAuthEnv).after sampleLogin) otherResource :=
  refreshIsAtomic_iff samplePlatform_collisionFree (sessionsKeyed_after sampleLogin)
    (drawsNewToken_after samplePlatform_collisionFree (by decide +kernel)) (by decide)

/-- The answer is `invalid_target`, and the session has a token nobody was given. -/
theorem otherResource_spends :
    ¬RefreshIsAtomic samplePlatform sampleOAuthEnv
      ((oauth samplePlatform sampleOAuthEnv).after sampleLogin) otherResource := by
  intro h
  have hrefused : (token samplePlatform sampleOAuthEnv otherResource
      ((oauth samplePlatform sampleOAuthEnv).after sampleLogin)).1 = invalidTarget := by
    decide +kernel
  have hsame := (h.sessions (by rw [hrefused]; simp [invalidTarget])).1
  have hget := congrArg (fun sessions => (sessions.get? (js "sess-A")).map (·.refreshHash)) hsame
  revert hget
  decide +kernel

end RemoteOps

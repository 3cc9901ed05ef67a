import RemoteOps.Auth.Evolution

/-!
# What each request does to the store

For every endpoint, the ways it can end: what it answers, and what it has left in
memory and in the file. `token_cases` is the one the later arguments rest on. A
request to `/token` either leaves the sessions alone and answers no token, or
trades a stored code for one new session (`CodeTraded`), or rotates the refresh
token of one session (`TokenRotated`).

`moves_step` collects the endpoints: whatever the input, a step moves memory and
file as `Evolves` allows.
-/

namespace RemoteOps

open Ecma Transition

variable {p : Platform} {env : OAuthEnv}

/-! ## Registration and authorization -/

theorem moves_register (input : RegisterInput) (store : Store) :
    Moves p env (.register input) store (register p env input store).2 := by
  have hcall : ∀ uris, Moves p env (.register input) store
      (store.run (registerClient env.store (input.client uris) input.pruned.ms)
        input.writes).2 := fun uris =>
    moves_run (opEvolves_registerClient env.store (by simp [RegisterInput.client, OAuthInput.names]))
      input.writes
  rw [register]
  split
  · split
    · exact Moves.refl _
    · split
      · exact Moves.refl _
      · rename_i uris _
        have hrun := hcall uris
        split
        · exact Moves.refl _
        · split
          · exact Moves.refl _
          · generalize store.run _ _ = result at hrun ⊢
            obtain ⟨result, store'⟩ := result
            rcases result with e | _ | _ <;> exact hrun
  · exact Moves.refl _

/-- A granted authorization: its code is stored for a registered client. -/
structure CodeGranted (p : Platform) (env : OAuthEnv) (input : SubmitInput) (store : Store)
    (client : StoredClient) (reply : OAuthReply) (store' : Store) : Prop where
  registered : store.live.state.clients.get? input.clientId = some client
  memory : store'.live.state = { store.live.state with
    authCodes := store.live.state.authCodes.set (p.digest (randomId "code" input.code))
      { input.authCode env client with codeHash := p.digest (randomId "code" input.code) } }
  ended : (∃ state, reply = .redirected input.redirectUri (randomId "code" input.code) state) ∧
      store'.file = store'.live.state ∨
    reply = .failed writeError ∧ store'.file = store.file

theorem authorizeSubmit_cases {input : SubmitInput} {store store' : Store} {reply : OAuthReply}
    (h : authorizeSubmit p env input store = (reply, store')) :
    store' = store ∧ (∀ uri code state, reply ≠ .redirected uri code state) ∨
      ∃ client, CodeGranted p env input store client reply store' := by
  rw [authorizeSubmit] at h
  split at h
  · obtain ⟨rfl, rfl⟩ := Prod.mk.inj h
    exact Or.inl ⟨rfl, by simp [invalidRequest]⟩
  · rename_i client hslot
    have hclient := Realm.get?_of_slot_eq_own hslot
    split_ifs at h
    · obtain ⟨rfl, rfl⟩ := Prod.mk.inj h
      exact Or.inl ⟨rfl, by simp [invalidRequest]⟩
    · obtain ⟨rfl, rfl⟩ := Prod.mk.inj h
      exact Or.inl ⟨rfl, by simp⟩
    · obtain ⟨rfl, rfl⟩ := Prod.mk.inj h
      exact Or.inl ⟨rfl, by simp⟩
    · cases hwrites : input.writes with
      | true =>
          simp only [Store.run, putAuthCode, hwrites, if_true] at h
          obtain ⟨rfl, rfl⟩ := Prod.mk.inj h
          exact Or.inr ⟨client, hclient, rfl, Or.inl ⟨⟨_, rfl⟩, rfl⟩⟩
      | false =>
          simp only [Store.run, putAuthCode, hwrites, Bool.false_eq_true, if_false] at h
          obtain ⟨rfl, rfl⟩ := Prod.mk.inj h
          exact Or.inr ⟨client, hclient, rfl, Or.inr ⟨rfl, rfl⟩⟩
  · split_ifs at h
    · obtain ⟨rfl, rfl⟩ := Prod.mk.inj h
      exact Or.inl ⟨rfl, by simp [invalidRequest]⟩
    · obtain ⟨rfl, rfl⟩ := Prod.mk.inj h
      exact Or.inl ⟨rfl, by simp⟩

theorem CodeGranted.evolves {input : SubmitInput} {store store' : Store} {client : StoredClient}
    {reply : OAuthReply} (h : CodeGranted p env input store client reply store') :
    Evolves p env (.submit input) store.live.state store'.live.state := by
  rw [h.memory]
  refine ⟨fun k x hx => Or.inl ⟨x, hx, SessionKept.refl x⟩,
    fun k c hc => Or.inl ⟨c, hc, ClientKept.refl c⟩, ?_, [], fun k x hx _ => ⟨x, hx, rfl⟩⟩
  intro hash code hcode
  dsimp only at hcode
  rw [Record.get?_set] at hcode
  split_ifs at hcode with hhash
  · exact Or.inr ⟨input, client, rfl, h.registered, hhash, by rw [hhash]; exact (Option.some.inj hcode).symm⟩
  · exact Or.inl hcode

theorem moves_authorizeSubmit (input : SubmitInput) (store : Store) :
    Moves p env (.submit input) store (authorizeSubmit p env input store).2 := by
  cases hresult : authorizeSubmit p env input store with
  | mk reply store' =>
      rcases authorizeSubmit_cases hresult with ⟨rfl, -⟩ | ⟨client, hgranted⟩
      · exact Moves.refl _
      · refine ⟨Or.inl hgranted.evolves, ?_⟩
        rcases hgranted.ended with ⟨-, hfile⟩ | ⟨-, hfile⟩
        · rw [hfile]
          exact Or.inl hgranted.evolves
        · rw [hfile]
          exact Or.inr (Evolves.refl _)

/-! ## The token endpoint -/

theorem normalizeResource_eq_some {raw : Option JsString} {resource : JsString}
    (h : normalizeResource env raw = some resource) : resource = env.mcpResource := by
  unfold normalizeResource at h
  dsimp only at h
  split_ifs at h with hresource
  rw [← Option.some.inj h]
  simpa using hresource

theorem TokenInput.resource_eq_some {input : TokenInput} {fallback : Option JsString}
    {resource : JsString} (h : input.resource env fallback = some resource) :
    resource = env.mcpResource := by
  rw [TokenInput.resource] at h
  split at h <;> exact normalizeResource_eq_some h

/-- A stored authorization code is traded for a session. -/
structure CodeTraded (p : Platform) (env : OAuthEnv) (input : TokenInput) (store : Store)
    (code : StoredAuthCode) (reply : OAuthReply) (store' : Store) : Prop where
  grantType : input.grantType = js "authorization_code"
  stored : store.live.state.authCodes.get? (p.digest input.code) = some code
  unexpired : input.consumed.ms ≤ code.expiresAt
  usable : clientIsUsable input.clientId store.live = true
  clientId : code.clientId = input.clientId
  redirectUri : code.redirectUri = input.redirectUri
  resource : code.resource.getD env.mcpResource = env.mcpResource
  challenge : safeEqual (pkceChallengeS256 p input.verifier) code.challenge = true
  memory : store'.live.state = { store.live.state with
    authCodes := store.live.state.authCodes.erase (p.digest input.code)
    sessions := store.live.state.sessions.set input.newSessionId
      (input.newSession p input.clientId env.mcpResource) }
  ended : reply = .tokens (tokenResponse p env input input.clientId input.newSessionId
      env.mcpResource) ∧ store'.file = store'.live.state ∨
    reply = .failed writeError ∧ store'.file = { store.live.state with
      authCodes := store.live.state.authCodes.erase (p.digest input.code) }

/-- The refresh token of a session is replaced. -/
structure TokenRotated (p : Platform) (env : OAuthEnv) (input : TokenInput) (store : Store)
    (session own : StoredSession) (reply : OAuthReply) (store' : Store) : Prop where
  grantType : input.grantType = js "refresh_token"
  found : findSessionByRefreshToken p.digest input.refreshToken store.live = some session
  stored : store.live.state.sessions.get? session.sessionId = some own
  usable : clientIsUsable input.clientId store.live = true
  clientId : session.clientId = input.clientId
  unrevoked : store.live.realm.isRevoked session.revokedAt = false
  unexpired : input.now.ms ≤ session.refreshExpiresAt
  memory : store'.live.state = { store.live.state with
    sessions := store.live.state.sessions.set session.sessionId
      { own with
        refreshHash := p.digest input.newRefreshToken
        refreshExpiresAt := input.now.ms + refreshTtlMs
        accessExpiresAt := input.now.ms + accessTtlMs
        lastSeenAt := input.now.ms } }
  file : store'.file = store'.live.state ∨ store'.file = store.file
  ended : ∀ r, reply = .tokens r → store'.file = store'.live.state ∧
    r = tokenResponse p env input input.clientId session.sessionId env.mcpResource

/-- Nothing happens to the sessions; a code may have been used up. -/
structure NoToken (p : Platform) (env : OAuthEnv) (input : TokenInput) (store : Store)
    (reply : OAuthReply) (store' : Store) : Prop where
  reply : ∀ r, reply ≠ .tokens r
  sessions : store'.live.state.sessions = store.live.state.sessions
  moves : Moves p env (.token input) store store'

theorem NoToken.same {input : TokenInput} {store : Store} {reply : OAuthReply}
    (h : ∀ r, reply ≠ .tokens r) : NoToken p env input store reply store :=
  ⟨h, rfl, Moves.refl _⟩

theorem opEvolves_consumeAuthCode {i : OAuthInput} {live : Live} (rawCode : JsString) (now : ℤ) :
    OpEvolves p env i live (consumeAuthCode p.digest rawCode now) := by
  intro live' x h
  rw [consumeAuthCode] at h
  dsimp only at h
  split at h
  · cases h
  · obtain ⟨rfl, -⟩ := Effect.persist.inj h
    exact Evolves.of_subset (fun _ _ h => h) (fun _ _ h => h)
      fun _ _ h => (Record.get?_of_get?_erase h).2

theorem consumeAuthCode_sessions {live live' : Live} {rawCode : JsString} {now : ℤ}
    {x : Option StoredAuthCode}
    (h : consumeAuthCode p.digest rawCode now live = .persist live' x) :
    live'.state.sessions = live.state.sessions := by
  rw [consumeAuthCode] at h
  dsimp only at h
  split at h
  · cases h
  · obtain ⟨rfl, -⟩ := Effect.persist.inj h
    rfl

/-- A code that was handed out was stored and unexpired, and is gone from memory
and file. -/
theorem run_consumeAuthCode_some {store store' : Store} {rawCode : JsString} {now : ℤ}
    {writes : Bool} {code : StoredAuthCode}
    (h : store.run (consumeAuthCode p.digest rawCode now) writes = (.ok (some code), store')) :
    store.live.state.authCodes.get? (p.digest rawCode) = some code ∧ now ≤ code.expiresAt ∧
      store'.live = { store.live with
        state := { store.live.state with
          authCodes := store.live.state.authCodes.erase (p.digest rawCode) } } ∧
      store'.file = store'.live.state := by
  rcases Store.run_eq_ok h with ⟨heffect, -⟩ | ⟨live', heffect, rfl⟩
  · rw [consumeAuthCode] at heffect
    dsimp only at heffect
    split at heffect <;> simp at heffect
  · rw [consumeAuthCode] at heffect
    dsimp only at heffect
    split at heffect
    · cases heffect
    · rename_i code' hcode
      obtain ⟨rfl, hsome⟩ := Effect.persist.inj heffect
      split_ifs at hsome with hexpired
      obtain rfl := Option.some.inj hsome
      exact ⟨hcode, by omega, rfl, rfl⟩

theorem grantAuthorizationCode_cases {input : TokenInput} {store store' : Store}
    {reply : OAuthReply} (husable : clientIsUsable input.clientId store.live = true)
    (hgrant : input.grantType = js "authorization_code")
    (h : grantAuthorizationCode p env input store = (reply, store')) :
    NoToken p env input store reply store' ∨
      ∃ code, CodeTraded p env input store code reply store' := by
  have hop : OpEvolves p env (.token input) store.live
      (consumeAuthCode p.digest input.code input.consumed.ms) :=
    opEvolves_consumeAuthCode input.code input.consumed.ms
  have hmoves := moves_run hop input.writesCode
  rw [grantAuthorizationCode] at h
  split at h
  · rename_i e store₁ hrun
    obtain ⟨rfl, rfl⟩ := Prod.mk.inj h
    rw [hrun] at hmoves
    refine Or.inl ⟨by simp, ?_, hmoves⟩
    rcases Store.run_eq_error hrun with rfl | ⟨live', x, heffect, rfl⟩
    · rfl
    · exact consumeAuthCode_sessions heffect
  · rename_i result store₁ hrun
    rw [hrun] at hmoves
    have hsessions : store₁.live.state.sessions = store.live.state.sessions := by
      rcases Store.run_eq_ok hrun with ⟨-, rfl⟩ | ⟨live', heffect, rfl⟩
      · rfl
      · exact consumeAuthCode_sessions heffect
    split at h
    · obtain ⟨rfl, rfl⟩ := Prod.mk.inj h
      exact Or.inl ⟨by simp [invalidTarget], hsessions, hmoves⟩
    · obtain ⟨rfl, rfl⟩ := Prod.mk.inj h
      exact Or.inl ⟨by simp [invalidGrant], hsessions, hmoves⟩
    · rename_i resource code hresource
      obtain rfl := TokenInput.resource_eq_some hresource
      obtain ⟨hstored, hunexpired, hlive, hfile⟩ := run_consumeAuthCode_some hrun
      split_ifs at h with hchecks
      · obtain ⟨rfl, rfl⟩ := Prod.mk.inj h
        exact Or.inl ⟨by simp [invalidGrant], hsessions, hmoves⟩
      · simp only [not_or, not_not, ne_eq, Bool.not_eq_false] at hchecks
        obtain ⟨hclient, huri, htarget, -, hchallenge⟩ := hchecks
        right
        rw [issueNewSession] at h
        cases hwrites : input.writesSession with
        | true =>
            simp only [Store.run, createSession, hwrites, if_true] at h
            obtain ⟨rfl, rfl⟩ := Prod.mk.inj h
            exact ⟨code, hgrant, hstored, hunexpired, husable, hclient, huri, htarget, hchallenge,
              by rw [hlive]; rfl, Or.inl ⟨rfl, rfl⟩⟩
        | false =>
            simp only [Store.run, createSession, hwrites, Bool.false_eq_true, if_false] at h
            obtain ⟨rfl, rfl⟩ := Prod.mk.inj h
            exact ⟨code, hgrant, hstored, hunexpired, husable, hclient, huri, htarget, hchallenge,
              by rw [hlive]; rfl, Or.inr ⟨rfl, by rw [hfile, hlive]⟩⟩

theorem grantRefreshToken_cases {input : TokenInput} {store store' : Store} {reply : OAuthReply}
    (husable : clientIsUsable input.clientId store.live = true)
    (hgrant : input.grantType = js "refresh_token")
    (h : grantRefreshToken p env input store = (reply, store')) :
    NoToken p env input store reply store' ∨
      ∃ session own, TokenRotated p env input store session own reply store' := by
  rw [grantRefreshToken] at h
  split at h
  · obtain ⟨rfl, rfl⟩ := Prod.mk.inj h
    exact Or.inl (NoToken.same (by simp [invalidGrant]))
  · rename_i session hfound
    split_ifs at h with hchecks
    · obtain ⟨rfl, rfl⟩ := Prod.mk.inj h
      exact Or.inl (NoToken.same (by simp [invalidGrant]))
    · simp only [not_or, not_not, ne_eq, Bool.not_eq_true, not_lt] at hchecks
      obtain ⟨hclient, hunrevoked, hunexpired⟩ := hchecks
      cases hown : store.live.state.sessions.get? session.sessionId with
      | none =>
          simp only [Store.run, rotateRefreshToken, hown] at h
          obtain ⟨rfl, rfl⟩ := Prod.mk.inj h
          exact Or.inl (NoToken.same (by simp [invalidGrant]))
      | some own =>
          by_cases hrevoked : store.live.realm.isRevoked own.revokedAt = true
          · simp only [Store.run, rotateRefreshToken, hown, hrevoked, if_true] at h
            obtain ⟨rfl, rfl⟩ := Prod.mk.inj h
            exact Or.inl (NoToken.same (by simp [invalidGrant]))
          · right
            cases hwrites : input.writesSession with
            | false =>
                simp only [Store.run, rotateRefreshToken, hown, hrevoked, hwrites,
                  Bool.false_eq_true, if_false] at h
                obtain ⟨rfl, rfl⟩ := Prod.mk.inj h
                exact ⟨session, own, hgrant, hfound, hown, husable, hclient, hunrevoked,
                  hunexpired, rfl, Or.inr rfl, by simp⟩
            | true =>
                simp only [Store.run, rotateRefreshToken, hown, hrevoked, hwrites,
                  Bool.false_eq_true, if_false, if_true] at h
                split at h
                · obtain ⟨rfl, rfl⟩ := Prod.mk.inj h
                  exact ⟨session, own, hgrant, hfound, hown, husable, hclient, hunrevoked,
                    hunexpired, rfl, Or.inl rfl, by simp [invalidTarget]⟩
                · rename_i resource hresource
                  obtain rfl := TokenInput.resource_eq_some hresource
                  split_ifs at h
                  · obtain ⟨rfl, rfl⟩ := Prod.mk.inj h
                    exact ⟨session, own, hgrant, hfound, hown, husable, hclient, hunrevoked,
                    hunexpired, rfl, Or.inl rfl, by simp [invalidTarget]⟩
                  · obtain ⟨rfl, rfl⟩ := Prod.mk.inj h
                    exact ⟨session, own, hgrant, hfound, hown, husable, hclient, hunrevoked,
                      hunexpired, rfl, Or.inl rfl,
                      fun r hr => ⟨rfl, (OAuthReply.tokens.inj hr).symm⟩⟩

theorem token_cases {input : TokenInput} {store store' : Store} {reply : OAuthReply}
    (h : token p env input store = (reply, store')) :
    NoToken p env input store reply store' ∨
      (∃ code, CodeTraded p env input store code reply store') ∨
        ∃ session own, TokenRotated p env input store session own reply store' := by
  rw [token] at h
  split_ifs at h with husable hcode hrefresh
  · obtain ⟨rfl, rfl⟩ := Prod.mk.inj h
    exact Or.inl (NoToken.same (by simp))
  · rw [Bool.not_eq_false] at husable
    exact (grantAuthorizationCode_cases husable hcode h).imp_right Or.inl
  · rw [Bool.not_eq_false] at husable
    exact (grantRefreshToken_cases husable hrefresh h).imp_right Or.inr
  · obtain ⟨rfl, rfl⟩ := Prod.mk.inj h
    exact Or.inl (NoToken.same (by simp))

theorem CodeTraded.evolves {input : TokenInput} {store store' : Store} {code : StoredAuthCode}
    {reply : OAuthReply} (h : CodeTraded p env input store code reply store') :
    Evolves p env (.token input) store.live.state store'.live.state := by
  rw [h.memory]
  refine ⟨?_, fun k c hc => Or.inl ⟨c, hc, ClientKept.refl c⟩,
    fun hash c hc => Or.inl (Record.get?_of_get?_erase hc).2, input.newSessionId, ?_⟩
  · intro k x hx
    dsimp only at hx
    rw [Record.get?_set] at hx
    split_ifs at hx with hk
    · obtain rfl := Option.some.inj hx
      rw [hk]
      exact Or.inr ⟨by simp [OAuthInput.names], rfl,
        ⟨input.newRefreshToken, by simp [OAuthInput.names], rfl⟩, _, code, h.stored,
        h.clientId.symm⟩
    · exact Or.inl ⟨x, hx, SessionKept.refl x⟩
  · intro k x hx hk
    dsimp only at hx
    rw [Record.get?_set_of_ne _ _ hk] at hx
    exact ⟨x, hx, rfl⟩

theorem CodeTraded.moves {input : TokenInput} {store store' : Store} {code : StoredAuthCode}
    {reply : OAuthReply} (h : CodeTraded p env input store code reply store') :
    Moves p env (.token input) store store' := by
  refine ⟨Or.inl h.evolves, Or.inl ?_⟩
  rcases h.ended with ⟨-, hfile⟩ | ⟨-, hfile⟩
  · rw [hfile]
    exact h.evolves
  · rw [hfile]
    exact Evolves.of_subset (fun _ _ h => h) (fun _ _ h => h)
      fun _ _ h => (Record.get?_of_get?_erase h).2

theorem TokenRotated.moves {input : TokenInput} {store store' : Store}
    {session own : StoredSession} {reply : OAuthReply}
    (h : TokenRotated p env input store session own reply store') :
    Moves p env (.token input) store store' := by
  have hevolves : Evolves p env (.token input) store.live.state store'.live.state := by
    rw [h.memory]
    exact evolves_set_session h.stored ⟨rfl, rfl, fun _ h => h,
      Or.inr ⟨input.newRefreshToken, by simp [OAuthInput.names], rfl⟩⟩
  refine ⟨Or.inl hevolves, ?_⟩
  rcases h.file with hfile | hfile
  · rw [hfile]
    exact Or.inl hevolves
  · rw [hfile]
    exact Or.inr (Evolves.refl _)

theorem moves_token (input : TokenInput) (store : Store) :
    Moves p env (.token input) store (token p env input store).2 := by
  cases hresult : token p env input store with
  | mk reply store' =>
      rcases token_cases hresult with hidle | ⟨code, htraded⟩ | ⟨session, own, hrotated⟩
      · exact hidle.moves
      · exact htraded.moves
      · exact hrotated.moves

/-! ## Bearer requests -/

theorem moves_requireBearer (input : BearerInput) (store : Store) :
    Moves p env (.bearer input) store (requireBearer p env input store).2 := by
  rw [requireBearer]
  split
  · exact Moves.refl _
  · split
    · exact Moves.refl _
    · rename_i payload _
      have htouch : OpEvolves p env (.bearer input) store.live
          (touchSession (textOrEmpty (payload.get (js "sid"))) input.touched.ms) :=
        opEvolves_touchSession _ _
      have hrun := moves_run htouch input.writes
      dsimp only
      generalize store.run _ _ = result at hrun ⊢
      obtain ⟨result, store'⟩ := result
      rcases result with e | _ <;> exact hrun

/-- Whoever is let through presented a token that verifies, and is whom it names. -/
theorem requireBearer_authorized {input : BearerInput} {store : Store} {who : BearerIdentity}
    (h : (requireBearer p env input store).1 = .authorized who) :
    ∃ accessToken payload, bearerToken input.authorization = some accessToken ∧
      verifyAccessToken p env accessToken input.now input.active store.live = some payload ∧
      who.oauthClientId = textOrEmpty (payload.get (js "cid")) ∧
      who.oauthSessionId = textOrEmpty (payload.get (js "sid")) := by
  rw [requireBearer] at h
  split at h
  · cases h
  · rename_i accessToken htoken
    split at h
    · cases h
    · rename_i payload hverify
      dsimp only at h
      split at h
      · cases h
      · obtain rfl := OAuthReply.authorized.inj h
        exact ⟨accessToken, payload, htoken, hverify, rfl, rfl⟩

/-- A verified token names an active session. -/
theorem verifyAccessToken_active {accessToken : JsString} {now active : TimeValue} {live : Live}
    {payload : Json} (h : verifyAccessToken p env accessToken now active live = some payload) :
    sessionIsActive (textOrEmpty (payload.get (js "sid"))) (textOrEmpty (payload.get (js "cid")))
      active.ms live = true := by
  rw [verifyAccessToken] at h
  split at h
  · split at h
    · cases h
    · split at h
      · cases h
      · dsimp only at h
        split_ifs at h with hchecks
        obtain rfl := Option.some.inj h
        simp only [Bool.and_eq_true] at hchecks
        exact hchecks.2
  · cases h

/-! ## Who answers what -/

theorem register_served (input : RegisterInput) (store : Store) :
    (∀ r, (register p env input store).1 ≠ .tokens r) ∧
      ∀ who, (register p env input store).1 ≠ .authorized who := by
  unfold register
  repeat' split
  all_goals simp [invalidRedirectUri]

theorem authorizeSubmit_served (input : SubmitInput) (store : Store) :
    (∀ r, (authorizeSubmit p env input store).1 ≠ .tokens r) ∧
      ∀ who, (authorizeSubmit p env input store).1 ≠ .authorized who := by
  unfold authorizeSubmit
  repeat' split
  all_goals simp [invalidRequest]

theorem token_ne_authorized (input : TokenInput) (store : Store) (who : BearerIdentity) :
    (token p env input store).1 ≠ .authorized who := by
  unfold token grantAuthorizationCode grantRefreshToken issueNewSession
  repeat' split
  all_goals simp [invalidGrant, invalidTarget]

theorem requireBearer_ne_tokens (input : BearerInput) (store : Store) (r : TokenResponse) :
    (requireBearer p env input store).1 ≠ .tokens r := by
  unfold requireBearer
  repeat' split
  all_goals try dsimp only
  all_goals try split
  all_goals simp [unauthorized]

theorem call_served {α : Type} (store : Store) (op : Live → Effect α) (writes : Bool)
    {reply : α → OAuthReply} (hreply : ∀ x, (∀ r, reply x ≠ .tokens r) ∧
      ∀ who, reply x ≠ .authorized who) :
    (∀ r, (store.call op writes reply).1 ≠ .tokens r) ∧
      ∀ who, (store.call op writes reply).1 ≠ .authorized who := by
  unfold Store.call
  split
  · simp
  · exact hreply _

/-- Only `/token` answers with tokens. -/
theorem step_eq_tokens {i : OAuthInput} {store : Store} {r : TokenResponse}
    (h : (i.step p env store).1 = .tokens r) : ∃ input, i = .token input := by
  cases i with
  | register input => exact absurd h ((register_served input store).1 r)
  | submit input => exact absurd h ((authorizeSubmit_served input store).1 r)
  | token input => exact ⟨input, rfl⟩
  | bearer input => exact absurd h (requireBearer_ne_tokens input store r)
  | restart now => cases h
  | _ => exact absurd h ((call_served store _ _ fun _ => ⟨by simp, by simp⟩).1 r)

/-- Only a bearer request is let through. -/
theorem step_eq_authorized {i : OAuthInput} {store : Store} {who : BearerIdentity}
    (h : (i.step p env store).1 = .authorized who) : ∃ input, i = .bearer input := by
  cases i with
  | register input => exact absurd h ((register_served input store).2 who)
  | submit input => exact absurd h ((authorizeSubmit_served input store).2 who)
  | token input => exact absurd h (token_ne_authorized input store who)
  | bearer input => exact ⟨input, rfl⟩
  | restart now => cases h
  | _ => exact absurd h ((call_served store _ _ fun _ => ⟨by simp, by simp⟩).2 who)

/-! ## Every step -/

theorem moves_step (i : OAuthInput) (store : Store) :
    Moves p env i store (i.step p env store).2 := by
  cases i with
  | register input => exact moves_register input store
  | submit input => exact moves_authorizeSubmit input store
  | token input => exact moves_token input store
  | bearer input => exact moves_requireBearer input store
  | touchSession sessionId now writes =>
      exact moves_call (opEvolves_touchSession sessionId now.ms) writes _
  | purgeState now writes => exact moves_call (opEvolves_purgeState env.store now.ms) writes _
  | revokeClient clientId now writes =>
      exact moves_call (opEvolves_revokeClient clientId rfl) writes _
  | revokeAllClients now writes => exact moves_call (opEvolves_revokeAllClients rfl) writes _
  | revokeSession sessionId now writes =>
      exact moves_call (opEvolves_revokeSession sessionId rfl) writes _
  | revokeAllSessions now writes => exact moves_call (opEvolves_revokeAllSessions rfl) writes _
  | revokeDevice deviceId now writes =>
      exact moves_call (opEvolves_revokeDevice deviceId now.ms) writes _
  | restart now =>
      refine ⟨Or.inr ?_, Or.inr (Evolves.refl _)⟩
      let loaded : Live := ⟨store.file, Realm.fresh, Record.empty⟩
      exact (evolves_purged env.store now.ms : Evolves p env _ loaded.state _)

/-! ## What is known of the tables -/

/-- Everything in the tables stands under names drawn before. -/
structure Sound (p : Platform) (names : List JsString) (s : PersistentState) : Prop where
  sessions : ∀ k x, s.sessions.get? k = some x →
    k ∈ names ∧ x.sessionId = k ∧ x.clientId ∈ names ∧ ∃ n ∈ names, x.refreshHash = p.digest n
  clients : ∀ k c, s.clients.get? k = some c → k ∈ names ∧ c.clientId = k
  codes : ∀ h code, s.authCodes.get? h = some code →
    code.clientId ∈ names ∧ ∃ n ∈ names, h = p.digest n

theorem Evolves.sound {i : OAuthInput} {names : List JsString} {s s' : PersistentState}
    (h : Evolves p env i s s') (hs : Sound p names s) : Sound p (names ++ i.names) s' where
  sessions k x' hx' := by
    rcases h.sessions k x' hx' with ⟨x, hx, hkept⟩ | hcreated
    · obtain ⟨hk, hid, hclient, n, hn, hhash⟩ := hs.sessions k x hx
      refine ⟨List.mem_append_left _ hk, by rw [hkept.sessionId, hid],
        List.mem_append_left _ (by rw [hkept.clientId]; exact hclient), ?_⟩
      rcases hkept.refresh with hsame | ⟨m, hm, hnew⟩
      · exact ⟨n, List.mem_append_left _ hn, hsame.trans hhash⟩
      · exact ⟨m, List.mem_append_right _ hm, hnew⟩
    · obtain ⟨n, hn, hhash⟩ := hcreated.refresh
      obtain ⟨hash, code, hcode, hclient⟩ := hcreated.code
      refine ⟨List.mem_append_right _ hcreated.drawn, hcreated.sessionId, ?_,
        n, List.mem_append_right _ hn, hhash⟩
      rw [hclient]
      exact List.mem_append_left _ (hs.codes hash code hcode).1
  clients k c' hc' := by
    rcases h.clients k c' hc' with ⟨c, hc, hkept⟩ | ⟨hk, hid⟩
    · obtain ⟨hk, hid⟩ := hs.clients k c hc
      exact ⟨List.mem_append_left _ hk, by rw [hkept.clientId, hid]⟩
    · exact ⟨List.mem_append_right _ hk, hid⟩
  codes hash code hcode := by
    rcases h.codes hash code hcode with hold | ⟨input, client, rfl, hclient, rfl, rfl⟩
    · obtain ⟨hmem, n, hn, hhash⟩ := hs.codes hash code hold
      exact ⟨List.mem_append_left _ hmem, n, List.mem_append_left _ hn, hhash⟩
    · obtain ⟨hk, hid⟩ := hs.clients _ client hclient
      refine ⟨List.mem_append_left _ ?_, _,
        List.mem_append_right _ (List.mem_singleton.mpr rfl), rfl⟩
      show client.clientId ∈ names
      rw [hid]
      exact hk

/-- The names drawn by a list of inputs. -/
def drawnNames (is : List OAuthInput) : List JsString := is.flatMap OAuthInput.names

theorem drawnNames_concat (is : List OAuthInput) (i : OAuthInput) :
    drawnNames (is ++ [i]) = drawnNames is ++ i.names := by
  simp [drawnNames]

theorem not_isInherited_of_drawn {is : List OAuthInput} {n : JsString} (hn : n ∈ drawnNames is) :
    ¬IsInherited n := by
  obtain ⟨i, -, hi⟩ := List.mem_flatMap.mp hn
  exact (OAuthInput.names_spec hi).1

/-- Memory and file of every reachable store are sound. -/
theorem sound_after (p : Platform) (env : OAuthEnv) (is : List OAuthInput) :
    Sound p (drawnNames is) ((oauth p env).after is).live.state ∧
      Sound p (drawnNames is) ((oauth p env).after is).file := by
  have hempty : Sound p [] emptyState := ⟨by simp [emptyState], by simp [emptyState],
    by simp [emptyState]⟩
  refine (oauth p env).invariant (E := fun _ => True) (fun _ _ h => h)
    (I := fun is t => Sound p (drawnNames is) t.live.state ∧ Sound p (drawnNames is) t.file)
    ⟨hempty, hempty⟩ ?_ is trivial
  intro is i _ hsound
  rw [drawnNames_concat]
  exact (moves_step i _).both (fun _ _ he hs => he.sound hs) hsound

end RemoteOps

import RemoteOps.Auth.Credentials

/-!
# One-time credentials

An authorization code is traded for at most one session, and only by a request
that matches the one it was issued to. A refresh token value is redeemed at most
once, and of a session only the token issued last can be redeemed.

All of it holds of every run, restarts and failing writes included, because a
request is answered with tokens only after memory and file agree: what the answer
has used up is gone from both.
-/

namespace RemoteOps

open Ecma Transition

/-! ## The property -/

section Property

variable (p : Platform) (env : OAuthEnv)

/-- The token request, coming after `is`, creates the session `x` under `k`. -/
def Creates (is : List OAuthInput) (input : TokenInput) (k : JsString) (x : StoredSession) : Prop :=
  ((oauth p env).after is).live.state.sessions.get? k = none ∧
    ((oauth p env).after (is ++ [.token input])).live.state.sessions.get? k = some x

/-- The session would be found by this refresh token, and may be refreshed. -/
def Redeemable (store : Store) (now : ℤ) (refreshToken sessionId : JsString) : Prop :=
  ∃ session, findSessionByRefreshToken p.digest refreshToken store.live = some session ∧
    session.sessionId = sessionId ∧ store.live.realm.isRevoked session.revokedAt = false ∧
      now ≤ session.refreshExpiresAt

/-- The authorization request stored its code, or failed while writing it. -/
def Issues (is : List OAuthInput) (request : SubmitInput) : Prop :=
  (∃ uri state, (oauth p env).answer is (.submit request) =
      .redirected uri (randomId "code" request.code) state) ∨
    (oauth p env).answer is (.submit request) = .failed writeError

/-- The token request and the session it creates match the authorization request
whose code it presents. -/
structure MatchesRequest (request : SubmitInput) (input : TokenInput) (x : StoredSession) : Prop where
  code : input.code = randomId "code" request.code
  client : input.clientId = request.clientId
  sessionClient : x.clientId = request.clientId
  redirectUri : input.redirectUri = request.redirectUri
  resource : x.resource = some (request.resource env)
  unexpired : input.consumed.ms ≤ request.now.ms + codeTtlMs
  challenge : pkceChallengeS256 p input.verifier = request.codeChallenge

structure OneTimeCredentials (is : List OAuthInput) : Prop where
  /-- a code leads to one session at most -/
  codeOnce : ∀ pre input mid input' post k k' x x',
    is = pre ++ .token input :: mid ++ .token input' :: post → Creates p env pre input k x →
      Creates p env (pre ++ .token input :: mid) input' k' x' → input.code ≠ input'.code
  sessionOnce : ∀ pre input post k k' x x', is = pre ++ .token input :: post →
    Creates p env pre input k x → Creates p env pre input k' x' → k = k'
  /-- and only to one that matches the request it was issued to -/
  bound : ∀ pre input post k x, is = pre ++ .token input :: post → Creates p env pre input k x →
    ∃ before request between, pre = before ++ .submit request :: between ∧
      Issues p env before request ∧ MatchesRequest p env request input x
  /-- a refresh token value is redeemed once at most -/
  refreshOnce : ∀ pre input mid input' post r r',
    is = pre ++ .token input :: mid ++ .token input' :: post →
      input.grantType = js "refresh_token" → input'.grantType = js "refresh_token" →
        (oauth p env).answer pre (.token input) = .tokens r →
          (oauth p env).answer (pre ++ .token input :: mid) (.token input') = .tokens r' →
            input.refreshToken ≠ input'.refreshToken
  /-- what is redeemed was redeemable -/
  redeemed : ∀ pre input post r, is = pre ++ .token input :: post →
    input.grantType = js "refresh_token" →
      (oauth p env).answer pre (.token input) = .tokens r →
        Redeemable p ((oauth p env).after pre) input.now.ms input.refreshToken r.sessionId
  /-- one refresh token of a session is redeemable at most -/
  oneRedeemable : ∀ now now' t t' sessionId,
    Redeemable p ((oauth p env).after is) now t sessionId →
      Redeemable p ((oauth p env).after is) now' t' sessionId → toChars t = toChars t'
  /-- and none but the one issued last -/
  lastIssued : ∀ pre input mid input' post r r' now sessionId,
    is = pre ++ .token input :: mid ++ .token input' :: post →
      (oauth p env).answer pre (.token input) = .tokens r →
        (oauth p env).answer (pre ++ .token input :: mid) (.token input') = .tokens r' →
          r.sessionId = r'.sessionId →
            ¬Redeemable p ((oauth p env).after is) now r.refreshToken sessionId

end Property

/-! ## Facts that evolution keeps -/

section Kept

variable {p : Platform} {env : OAuthEnv} {i : OAuthInput} {s s' : PersistentState}

def CodeGone (hash : JsString) (s : PersistentState) : Prop := s.authCodes.get? hash = none

/-- No session has a refresh token with this hash. -/
def RefreshSpent (hash : JsString) (s : PersistentState) : Prop :=
  ∀ k x, s.sessions.get? k = some x → x.refreshHash ≠ hash

/-- No two sessions have the same refresh token. -/
def RefreshDistinct (s : PersistentState) : Prop :=
  ∀ k k' x x', s.sessions.get? k = some x → s.sessions.get? k' = some x' →
    x.refreshHash = x'.refreshHash → k = k'

theorem Evolves.codeGone (hp : p.CollisionFree) (h : Evolves p env i s s') {code : JsString}
    (hold : code ∉ i.names) (hs : CodeGone (p.digest code) s) : CodeGone (p.digest code) s' := by
  cases hcode : s'.authCodes.get? (p.digest code) with
  | none => exact hcode
  | some c =>
      rcases h.codes _ c hcode with hbefore | ⟨input, client, rfl, -, heq, -⟩
      · exact absurd (hs.symm.trans hbefore) (by simp)
      · have hdrawn : randomId "code" input.code ∈ (OAuthInput.submit input).names :=
          List.mem_singleton.mpr rfl
        exact absurd (OAuthInput.eq_of_digest hp hdrawn heq.symm ▸ hdrawn) hold

theorem Evolves.refreshSpent (hp : p.CollisionFree) (h : Evolves p env i s s')
    {refreshToken : JsString} (hold : refreshToken ∉ i.names)
    (hs : RefreshSpent (p.digest refreshToken) s) : RefreshSpent (p.digest refreshToken) s' := by
  have hnew : ∀ n ∈ i.names, p.digest n ≠ p.digest refreshToken := fun n hn heq =>
    hold (OAuthInput.eq_of_digest hp hn heq ▸ hn)
  intro k x' hx' hhash
  rcases h.sessions k x' hx' with ⟨x, hx, hkept⟩ | hcreated
  · rcases hkept.refresh with hsame | ⟨n, hn, heq⟩
    · exact hs k x hx (hsame.symm.trans hhash)
    · exact hnew n hn (heq.symm.trans hhash)
  · obtain ⟨n, hn, heq⟩ := hcreated.refresh
    exact hnew n hn (heq.symm.trans hhash)

/-- The hash of a session after a step is that of the same session before, or of a
name just drawn. -/
theorem Evolves.refreshHash_cases (h : Evolves p env i s s') {k : JsString} {x' : StoredSession}
    (hx' : s'.sessions.get? k = some x') :
    (∃ x, s.sessions.get? k = some x ∧ x'.refreshHash = x.refreshHash) ∨
      ∃ n ∈ i.names, x'.refreshHash = p.digest n := by
  rcases h.sessions k x' hx' with ⟨x, hx, hkept⟩ | hcreated
  · exact hkept.refresh.imp_left fun hsame => ⟨x, hx, hsame⟩
  · exact Or.inr hcreated.refresh

theorem Evolves.refreshDistinct (hp : p.CollisionFree) (h : Evolves p env i s s')
    {names : List JsString} (hsound : Sound p names s) (hnew : ∀ n ∈ i.names, n ∉ names)
    (hs : RefreshDistinct s) : RefreshDistinct s' := by
  have hmixed : ∀ {k : JsString} {x y : StoredSession} {n : JsString}, n ∈ i.names →
      s.sessions.get? k = some y → x.refreshHash = y.refreshHash →
        x.refreshHash ≠ p.digest n := by
    intro k x y n hn hy hsame hhash
    obtain ⟨-, -, -, m, hm, hold⟩ := hsound.sessions k y hy
    have heq := OAuthInput.eq_of_digest hp hn (hhash.symm.trans (hsame.trans hold))
    exact hnew n hn (heq ▸ hm)
  obtain ⟨k₀, hsingle⟩ := h.single
  intro k k' x x' hx hx' hhash
  by_contra hne
  rcases h.refreshHash_cases hx with ⟨y, hy, hsame⟩ | ⟨n, hn, hhashn⟩
  · rcases h.refreshHash_cases hx' with ⟨y', hy', hsame'⟩ | ⟨n, hn, hhashn⟩
    · exact hne (hs k k' y y' hy hy' (hsame.symm.trans (hhash.trans hsame')))
    · exact hmixed hn hy hsame (hhash.trans hhashn)
  · rcases eq_or_ne k k₀ with rfl | hk
    · obtain ⟨y', hy', hsame'⟩ := hsingle k' x' hx' (Ne.symm hne)
      exact hmixed hn hy' hsame' (hhash.symm.trans hhashn)
    · obtain ⟨y, hy, hsame⟩ := hsingle k x hx hk
      exact hmixed hn hy hsame hhashn

end Kept

/-! ## Invariants of every run -/

section Invariants

variable {p : Platform} {env : OAuthEnv}

theorem refreshDistinct_after (hp : p.CollisionFree) {is : List OAuthInput}
    (hfresh : Fresh OAuthInput.names is) :
    RefreshDistinct ((oauth p env).after is).live.state ∧
      RefreshDistinct ((oauth p env).after is).file := by
  have hempty : RefreshDistinct emptyState := by
    intro k k' x x' hx
    simp [emptyState] at hx
  refine (oauth p env).invariant (prefixClosed_fresh _)
    (I := fun _ t => RefreshDistinct t.live.state ∧ RefreshDistinct t.file)
    ⟨hempty, hempty⟩ ?_ is hfresh
  intro is i hfresh hdistinct
  obtain ⟨hmemory, hfile⟩ := sound_after p env is
  exact (moves_step i _).both
    (P := fun s => Sound p (drawnNames is) s ∧ RefreshDistinct s)
    (fun s s' he hs => he.refreshDistinct hp hs.1 (fun n hn => hfresh.notMem hn) hs.2)
    ⟨⟨hmemory, hdistinct.1⟩, hfile, hdistinct.2⟩

/-- Every stored code goes back to the authorization request it was stored for. -/
def CodesIssued (p : Platform) (env : OAuthEnv) (is : List OAuthInput) (s : PersistentState) :
    Prop :=
  ∀ h code, s.authCodes.get? h = some code →
    ∃ before request between, is = before ++ .submit request :: between ∧
      Issues p env before request ∧ h = p.digest (randomId "code" request.code) ∧
        code.clientId = request.clientId ∧ code.redirectUri = request.redirectUri ∧
          code.challenge = request.codeChallenge ∧
            code.resource = some (request.resource env) ∧
              code.expiresAt = request.now.ms + codeTtlMs

theorem CodesIssued.append {is : List OAuthInput} {s : PersistentState}
    (h : CodesIssued p env is s) (i : OAuthInput) : CodesIssued p env (is ++ [i]) s := by
  intro hash code hcode
  obtain ⟨before, request, between, rfl, hrest⟩ := h hash code hcode
  exact ⟨before, request, between ++ [i], by simp, hrest⟩

theorem Evolves.codesIssued {is : List OAuthInput} {i : OAuthInput} {s s' : PersistentState}
    (h : Evolves p env i s s') (hsound : Sound p (drawnNames is) s)
    (hissues : ∀ request, i = .submit request → Issues p env is request)
    (hs : CodesIssued p env is s) : CodesIssued p env (is ++ [i]) s' := by
  intro hash code hcode
  rcases h.codes hash code hcode with hold | ⟨request, client, rfl, hclient, rfl, rfl⟩
  · exact hs.append i hash code hold
  · refine ⟨is, request, [], rfl, hissues request rfl, rfl, ?_, rfl, rfl, rfl, rfl⟩
    exact (hsound.clients _ client hclient).2

theorem codesIssued_after (p : Platform) (env : OAuthEnv) (is : List OAuthInput) :
    CodesIssued p env is ((oauth p env).after is).live.state ∧
      CodesIssued p env is ((oauth p env).after is).file := by
  have hempty : CodesIssued p env [] emptyState := by
    intro h code hcode
    simp [emptyState] at hcode
  refine (oauth p env).invariant (E := fun _ => True) (fun _ _ h => h)
    (I := fun is t => CodesIssued p env is t.live.state ∧ CodesIssued p env is t.file)
    ⟨hempty, hempty⟩ ?_ is trivial
  intro is i _ hissued
  obtain ⟨hmemory, hfile⟩ := sound_after p env is
  by_cases hissues : ∀ request, i = .submit request → Issues p env is request
  · exact (moves_step i _).both
      (P := fun s => Sound p (drawnNames is) s ∧ CodesIssued p env is s)
      (fun s s' he hs => he.codesIssued hs.1 hissues hs.2)
      ⟨⟨hmemory, hissued.1⟩, hfile, hissued.2⟩
  · -- a refused authorization leaves the store alone
    push Not at hissues
    obtain ⟨request, rfl, hnot⟩ := hissues
    have hresult : authorizeSubmit p env request ((oauth p env).after is) =
        ((oauth p env).answer is (.submit request),
          ((oauth p env).step ((oauth p env).after is) (.submit request)).2) := rfl
    rcases authorizeSubmit_cases hresult with ⟨hsame, -⟩ | ⟨client, hgranted⟩
    · rw [hsame]
      exact ⟨hissued.1.append _, hissued.2.append _⟩
    · refine absurd ?_ hnot
      rcases hgranted.ended with ⟨⟨state, hreply⟩, -⟩ | ⟨hreply, -⟩
      · exact Or.inl ⟨_, state, hreply⟩
      · exact Or.inr hreply

end Invariants

/-! ## Creation of sessions -/

section Creation

variable {p : Platform} {env : OAuthEnv}

theorem token_result (p : Platform) (env : OAuthEnv) (is : List OAuthInput) (input : TokenInput) :
    token p env input ((oauth p env).after is) =
      ((oauth p env).answer is (.token input), (oauth p env).after (is ++ [.token input])) := by
  rw [Machine.after_concat]
  rfl

/-- Only the trade of a code creates a session. -/
theorem Creates.traded {is : List OAuthInput} {input : TokenInput} {k : JsString}
    {x : StoredSession} (h : Creates p env is input k x) :
    k = input.newSessionId ∧ x = input.newSession p input.clientId env.mcpResource ∧
      ∃ code, CodeTraded p env input ((oauth p env).after is) code
        ((oauth p env).answer is (.token input)) ((oauth p env).after (is ++ [.token input])) := by
  obtain ⟨hnone, hsome⟩ := h
  rcases token_cases (token_result p env is input) with hidle | ⟨code, htraded⟩ |
    ⟨session, own, hrotated⟩
  · rw [hidle.sessions, hnone] at hsome
    cases hsome
  · have hsessions := congrArg PersistentState.sessions htraded.memory
    rw [hsessions, Record.get?_set] at hsome
    split_ifs at hsome with hk
    · exact ⟨hk, (Option.some.inj hsome).symm, code, htraded⟩
    · rw [hnone] at hsome
      cases hsome
  · have hsessions := congrArg PersistentState.sessions hrotated.memory
    rw [hsessions, Record.get?_set] at hsome
    split_ifs at hsome with hk
    · rw [hk, hrotated.stored] at hnone
      cases hnone
    · rw [hnone] at hsome
      cases hsome

/-- The code of a trade is gone from memory and file, and its hash is that of a
name drawn before. -/
theorem CodeTraded.codeGone {input : TokenInput} {store store' : Store} {code : StoredAuthCode}
    {reply : OAuthReply} (h : CodeTraded p env input store code reply store') :
    CodeGone (p.digest input.code) store'.live.state ∧
      CodeGone (p.digest input.code) store'.file := by
  have herased : (store.live.state.authCodes.erase (p.digest input.code)).get?
      (p.digest input.code) = none := by
    rw [Record.get?_erase, if_pos rfl]
  have hmemory : CodeGone (p.digest input.code) store'.live.state := by
    rw [h.memory]
    exact herased
  refine ⟨hmemory, ?_⟩
  rcases h.ended with ⟨-, hfile⟩ | ⟨-, hfile⟩
  · rw [hfile]
    exact hmemory
  · rw [hfile]
    exact herased

theorem code_ne_of_creates (hp : p.CollisionFree) {pre mid : List OAuthInput}
    {input input' : TokenInput} {k k' : JsString} {x x' : StoredSession}
    (hfresh : Fresh OAuthInput.names (pre ++ .token input :: mid))
    (h : Creates p env pre input k x)
    (h' : Creates p env (pre ++ .token input :: mid) input' k' x') : input.code ≠ input'.code := by
  intro hsame
  obtain ⟨-, -, code, htraded⟩ := h.traded
  obtain ⟨-, -, code', htraded'⟩ := h'.traded
  obtain ⟨-, n, hn, hhash⟩ := (sound_after p env pre).1.codes _ _ htraded.stored
  have hgone := htraded.codeGone
  rw [hhash] at hgone
  have hstored := htraded'.stored
  rw [← hsame, hhash] at hstored
  rw [List.append_cons] at hfresh hstored
  have hlater := both_after_append hfresh (P := CodeGone (p.digest n))
    (fun i _ hnew s s' he hs => he.codeGone hp (hnew n (by
      rw [drawnNames_concat]
      exact List.mem_append_left _ hn)) hs) hgone
  exact absurd (hlater.1.symm.trans hstored) (by simp)

theorem pkceChallengeS256_eq {verifier challenge : JsString}
    (h : safeEqual (pkceChallengeS256 p verifier) challenge = true) :
    pkceChallengeS256 p verifier = challenge := by
  apply eq_of_toChars_eq
  · exact fun u hu => isAscii_of_isBase64url (isBase64url_of_mem hu)
  · exact toChars_eq_of_utf8_eq (of_decide_eq_true h)

/-- A created session matches the request its code was issued to. -/
theorem Creates.matchesRequest (hp : p.CollisionFree) {is : List OAuthInput} {input : TokenInput}
    {k : JsString} {x : StoredSession} (h : Creates p env is input k x) :
    ∃ before request between, is = before ++ .submit request :: between ∧
      Issues p env before request ∧ MatchesRequest p env request input x := by
  obtain ⟨-, rfl, code, htraded⟩ := h.traded
  obtain ⟨before, request, between, rfl, hissues, hhash, hclient, huri, hchallenge, hresource,
    hexpires⟩ := (codesIssued_after p env is).1 _ _ htraded.stored
  have hdrawn : randomId "code" request.code ∈ (OAuthInput.submit request).names :=
    List.mem_singleton.mpr rfl
  have hsameClient : input.clientId = request.clientId := htraded.clientId.symm.trans hclient
  have htarget := htraded.resource
  rw [hresource, Option.getD_some] at htarget
  have hunexpired := htraded.unexpired
  rw [hexpires] at hunexpired
  refine ⟨before, request, between, rfl, hissues, ?_⟩
  exact {
    code := (OAuthInput.eq_of_digest hp hdrawn hhash.symm).symm
    client := hsameClient
    sessionClient := hsameClient
    redirectUri := htraded.redirectUri.symm.trans huri
    resource := congrArg some htarget.symm
    unexpired := hunexpired
    challenge := (pkceChallengeS256_eq htraded.challenge).trans hchallenge }

end Creation

/-! ## Refresh tokens -/

section Refresh

variable {p : Platform} {env : OAuthEnv}

/-- The answer to a refresh grant has rotated the session it is for. -/
theorem rotated_of_tokens {is : List OAuthInput} {input : TokenInput} {r : TokenResponse}
    (hgrant : input.grantType = js "refresh_token")
    (h : (oauth p env).answer is (.token input) = .tokens r) :
    ∃ session own, TokenRotated p env input ((oauth p env).after is) session own (.tokens r)
      ((oauth p env).after (is ++ [.token input])) := by
  have hresult := token_result p env is input
  rw [h] at hresult
  rcases token_cases hresult with hidle | ⟨code, htraded⟩ | hrotated
  · exact absurd rfl (hidle.reply r)
  · exact absurd (htraded.grantType.symm.trans hgrant) (by decide)
  · exact hrotated

/-- After a token answer, memory and file hold the new token for the session. -/
theorem renewed_of_tokens {is : List OAuthInput} {input : TokenInput} {r : TokenResponse}
    (h : (oauth p env).answer is (.token input) = .tokens r) :
    (∃ x, ((oauth p env).after (is ++ [.token input])).live.state.sessions.get? r.sessionId =
        some x ∧ x.refreshHash = p.digest r.refreshToken) ∧
      ((oauth p env).after (is ++ [.token input])).file =
        ((oauth p env).after (is ++ [.token input])).live.state ∧
          r.refreshToken = input.newRefreshToken := by
  have hresult := token_result p env is input
  rw [h] at hresult
  rcases token_cases hresult with hidle | ⟨code, htraded⟩ | ⟨session, own, hrotated⟩
  · exact absurd rfl (hidle.reply r)
  · rcases htraded.ended with ⟨hreply, hfile⟩ | ⟨hreply, -⟩
    · obtain rfl := OAuthReply.tokens.inj hreply
      have hset := congrArg (fun s => s.sessions.get? input.newSessionId) htraded.memory
      exact ⟨⟨_, hset.trans (Record.get?_set_self _ _ _), rfl⟩, hfile, rfl⟩
    · cases hreply
  · obtain ⟨hfile, rfl⟩ := hrotated.ended r rfl
    have hset := congrArg (fun s => s.sessions.get? session.sessionId) hrotated.memory
    exact ⟨⟨_, hset.trans (Record.get?_set_self _ _ _), rfl⟩, hfile, rfl⟩

/-- A spent token stays spent. -/
theorem not_redeemable_of_spent (hp : p.CollisionFree) {pre post : List OAuthInput}
    {refreshToken : JsString} (hfresh : Fresh OAuthInput.names (pre ++ post))
    (hdrawn : ∃ n ∈ drawnNames pre, p.digest refreshToken = p.digest n)
    (h : RefreshSpent (p.digest refreshToken) ((oauth p env).after pre).live.state ∧
      RefreshSpent (p.digest refreshToken) ((oauth p env).after pre).file)
    (now : ℤ) (sessionId : JsString) :
    ¬Redeemable p ((oauth p env).after (pre ++ post)) now refreshToken sessionId := by
  obtain ⟨n, hn, hhash⟩ := hdrawn
  rw [hhash] at h
  have hlater := both_after_append hfresh (P := RefreshSpent (p.digest n))
    (fun i _ hnew s s' he hs => he.refreshSpent hp (hnew n hn) hs) h
  rintro ⟨session, hfound, -⟩
  obtain ⟨hstored, hsame⟩ := findSession_spec (sound_after p env (pre ++ post)).1 hfound
  rw [hhash] at hsame
  exact hlater.1 _ session hstored hsame

/-- A redeemed token is spent. -/
theorem refreshSpent_of_rotated (hp : p.CollisionFree) {is : List OAuthInput} {input : TokenInput}
    {r : TokenResponse} (hfresh : Fresh OAuthInput.names (is ++ [.token input]))
    (hgrant : input.grantType = js "refresh_token")
    (h : (oauth p env).answer is (.token input) = .tokens r) :
    (∃ n ∈ drawnNames is, p.digest input.refreshToken = p.digest n) ∧
      RefreshSpent (p.digest input.refreshToken)
        ((oauth p env).after (is ++ [.token input])).live.state ∧
      RefreshSpent (p.digest input.refreshToken)
        ((oauth p env).after (is ++ [.token input])).file := by
  have hsound := (sound_after p env is).1
  have hdistinct : RefreshDistinct ((oauth p env).after is).live.state :=
    (refreshDistinct_after hp (prefixClosed_fresh _ _ _ hfresh)).1
  obtain ⟨session, own, hrotated⟩ := rotated_of_tokens hgrant h
  obtain ⟨hstored, hhash⟩ := findSession_spec hsound hrotated.found
  obtain ⟨-, -, -, n, hn, hold⟩ := hsound.sessions _ _ hstored
  have hdrawn : p.digest input.refreshToken = p.digest n := hhash.symm.trans hold
  have hspent : RefreshSpent (p.digest input.refreshToken)
      ((oauth p env).after (is ++ [.token input])).live.state := by
    intro k x hx hsame
    rw [congrArg PersistentState.sessions hrotated.memory, Record.get?_set] at hx
    split_ifs at hx with hk
    · obtain rfl := Option.some.inj hx
      have hnew : input.newRefreshToken ∈ (OAuthInput.token input).names := by
        simp [OAuthInput.names]
      have heq := OAuthInput.eq_of_digest hp hnew (hsame.trans hdrawn)
      exact hfresh.notMem hnew (heq ▸ hn)
    · exact hk (hdistinct k _ x session hx hstored (hsame.trans hhash.symm))
  refine ⟨⟨n, hn, hdrawn⟩, hspent, ?_⟩
  rw [(renewed_of_tokens h).2.1]
  exact hspent

/-- A later token answer for the session spends the token issued before. -/
theorem refreshSpent_of_renewed (hp : p.CollisionFree) {is : List OAuthInput}
    {input : TokenInput} {r r' : TokenResponse}
    (hfresh : Fresh OAuthInput.names (is ++ [.token input]))
    (hissued : r ∈ tokensIssued ((oauth p env).trace is))
    (hdrawn : r.refreshToken ∈ drawnNames is)
    (h : (oauth p env).answer is (.token input) = .tokens r')
    (hsession : r.sessionId = r'.sessionId) :
    RefreshSpent (p.digest r.refreshToken)
        ((oauth p env).after (is ++ [.token input])).live.state ∧
      RefreshSpent (p.digest r.refreshToken)
        ((oauth p env).after (is ++ [.token input])).file := by
  obtain ⟨⟨y, hy, hyhash⟩, hfile, hnewToken⟩ := renewed_of_tokens h
  have hmem : r ∈ tokensIssued ((oauth p env).trace (is ++ [.token input])) := by
    rw [Machine.trace_concat, tokensIssued, List.filterMap_append]
    exact List.mem_append_left _ hissued
  have howner := refreshOwner_of_mem hp hfresh hmem
  have hspent : RefreshSpent (p.digest r.refreshToken)
      ((oauth p env).after (is ++ [.token input])).live.state := by
    intro k x hx hhash
    obtain ⟨hk, -⟩ := howner k x hx hhash
    rw [hk, hsession, hy] at hx
    obtain rfl := Option.some.inj hx
    have hnew : input.newRefreshToken ∈ (OAuthInput.token input).names := by
      simp [OAuthInput.names]
    rw [hyhash, hnewToken] at hhash
    exact hfresh.notMem hnew (OAuthInput.eq_of_digest hp hnew hhash ▸ hdrawn)
  rw [hfile]
  exact ⟨hspent, hspent⟩

theorem redeemable_of_tokens {is : List OAuthInput} {input : TokenInput} {r : TokenResponse}
    (hgrant : input.grantType = js "refresh_token")
    (h : (oauth p env).answer is (.token input) = .tokens r) :
    Redeemable p ((oauth p env).after is) input.now.ms input.refreshToken r.sessionId := by
  obtain ⟨session, own, hrotated⟩ := rotated_of_tokens hgrant h
  obtain ⟨-, rfl⟩ := hrotated.ended r rfl
  exact ⟨session, hrotated.found, rfl, hrotated.unrevoked, hrotated.unexpired⟩

theorem toChars_eq_of_redeemable (hp : p.CollisionFree) {is : List OAuthInput} {now now' : ℤ}
    {t t' sessionId : JsString} (h : Redeemable p ((oauth p env).after is) now t sessionId)
    (h' : Redeemable p ((oauth p env).after is) now' t' sessionId) : toChars t = toChars t' := by
  have hsound := (sound_after p env is).1
  obtain ⟨session, hfound, hid, -⟩ := h
  obtain ⟨session', hfound', hid', -⟩ := h'
  obtain ⟨hstored, hhash⟩ := findSession_spec hsound hfound
  obtain ⟨hstored', hhash'⟩ := findSession_spec hsound hfound'
  rw [hid] at hstored
  rw [hid'] at hstored'
  obtain rfl := Option.some.inj (hstored.symm.trans hstored')
  exact hp.toChars_eq (hhash.symm.trans hhash')

end Refresh

/-! ## One-time credentials -/

theorem oneTimeCredentials_of_fresh (p : Platform) (env : OAuthEnv) (hp : p.CollisionFree)
    (is : List OAuthInput) (hfresh : Fresh OAuthInput.names is) :
    OneTimeCredentials p env is where
  codeOnce := by
    rintro pre input mid input' post k k' x x' rfl h h'
    exact code_ne_of_creates hp ((prefixClosed_fresh _).of_append hfresh) h h'
  sessionOnce := by
    rintro pre input post k k' x x' - h h'
    rw [h.traded.1, h'.traded.1]
  bound := by
    rintro pre input post k x - h
    exact h.matchesRequest hp
  refreshOnce := by
    rintro pre input mid input' post r r' rfl hgrant hgrant' h h' hsame
    have hearlier := (prefixClosed_fresh _).of_append hfresh
    rw [List.append_cons] at hearlier
    obtain ⟨⟨n, hn, hhash⟩, hspent⟩ :=
      refreshSpent_of_rotated hp ((prefixClosed_fresh _).of_append hearlier) hgrant h
    have hredeemable := redeemable_of_tokens hgrant' h'
    rw [List.append_cons, ← hsame] at hredeemable
    refine not_redeemable_of_spent hp hearlier ⟨n, ?_, hhash⟩ hspent _ _ hredeemable
    rw [drawnNames_concat]
    exact List.mem_append_left _ hn
  redeemed := by
    rintro pre input post r - hgrant h
    exact redeemable_of_tokens hgrant h
  oneRedeemable := by
    intro now now' t t' sessionId h h'
    exact toChars_eq_of_redeemable hp h h'
  lastIssued := by
    rintro pre input mid input' post r r' now sessionId rfl h h' hsession
    rw [List.append_cons] at hfresh ⊢
    have hrun := (prefixClosed_fresh _).of_append hfresh
    have hdrawn : r.refreshToken ∈ drawnNames (pre ++ .token input :: mid) := by
      rw [(renewed_of_tokens h).2.2]
      simp [drawnNames, OAuthInput.names]
    have hissued : r ∈ tokensIssued ((oauth p env).trace (pre ++ .token input :: mid)) :=
      List.mem_filterMap.mpr
        ⟨(.token input, .tokens r), (Machine.mem_trace_iff _).mpr ⟨pre, mid, rfl, h⟩, rfl⟩
    refine not_redeemable_of_spent hp hfresh ⟨r.refreshToken, ?_, rfl⟩
      (refreshSpent_of_renewed hp hrun hissued hdrawn h' hsession) now sessionId
    rw [drawnNames_concat]
    exact List.mem_append_left _ hdrawn

/-- A session is created from a code and refreshed. -/
theorem oneTimeCredentials_sample :
    OneTimeCredentials samplePlatform sampleOAuthEnv (sampleLogin ++ [sampleRefresh]) :=
  oneTimeCredentials_of_fresh _ _ samplePlatform_collisionFree _ (by decide +kernel)

end RemoteOps

import RemoteOps.Auth.Requests

/-!
# Issued credentials and their owners

A refresh token belongs to the session it was issued for and an authorization
code to the client that asked for it. The tables know both only by their hash;
that no later session and no later code takes over a hash is what collision
freeness and the freshness of drawn names give. An access token names its session
in the part that verification decodes.
-/

namespace RemoteOps

open Ecma Transition

/-! ## What has been issued -/

abbrev OAuthTrace := List (OAuthInput × OAuthReply)

def tokensIssued (trace : OAuthTrace) : List TokenResponse :=
  trace.filterMap fun a =>
    match a.2 with
    | .tokens r => some r
    | _ => none

/-- The codes sent to the redirect URI, each with the client that holds it. -/
def codesIssued (trace : OAuthTrace) : List (JsString × JsString) :=
  trace.filterMap fun a =>
    match a with
    | (.submit input, .redirected _ code _) => some (code, input.clientId)
    | _ => none

/-! ## Ownership -/

section Ownership

variable {p : Platform} {env : OAuthEnv} {i : OAuthInput} {s s' : PersistentState}

/-- A session whose refresh token has this hash is the one named, and of the
client named. -/
def RefreshOwner (hash sessionId clientId : JsString) (s : PersistentState) : Prop :=
  ∀ k x, s.sessions.get? k = some x → x.refreshHash = hash → k = sessionId ∧ x.clientId = clientId

/-- A code with this hash is held by the client named. -/
def CodeOwner (hash clientId : JsString) (s : PersistentState) : Prop :=
  ∀ code, s.authCodes.get? hash = some code → code.clientId = clientId

theorem Evolves.refreshOwner (hp : p.CollisionFree) (h : Evolves p env i s s')
    {refreshToken sessionId clientId : JsString} (hold : refreshToken ∉ i.names)
    (hs : RefreshOwner (p.digest refreshToken) sessionId clientId s) :
    RefreshOwner (p.digest refreshToken) sessionId clientId s' := by
  have hnew : ∀ n ∈ i.names, p.digest n ≠ p.digest refreshToken := fun n hn heq =>
    hold (OAuthInput.eq_of_digest hp hn heq ▸ hn)
  intro k x' hx' hhash
  rcases h.sessions k x' hx' with ⟨x, hx, hkept⟩ | hcreated
  · rcases hkept.refresh with hsame | ⟨n, hn, heq⟩
    · rw [hkept.clientId]
      exact hs k x hx (hsame.symm.trans hhash)
    · exact absurd (heq.symm.trans hhash) (hnew n hn)
  · obtain ⟨n, hn, heq⟩ := hcreated.refresh
    exact absurd (heq.symm.trans hhash) (hnew n hn)

theorem Evolves.codeOwner (hp : p.CollisionFree) (h : Evolves p env i s s')
    {code clientId : JsString} (hold : code ∉ i.names)
    (hs : CodeOwner (p.digest code) clientId s) : CodeOwner (p.digest code) clientId s' := by
  intro c hc
  rcases h.codes _ c hc with hc | ⟨input, client, rfl, -, heq, -⟩
  · exact hs c hc
  · have hdrawn : randomId "code" input.code ∈ (OAuthInput.submit input).names :=
      List.mem_singleton.mpr rfl
    exact absurd (OAuthInput.eq_of_digest hp hdrawn heq.symm ▸ hdrawn) hold

end Ownership

section Runs

variable {p : Platform} {env : OAuthEnv}

/-- What evolution keeps, as long as only new names are drawn, holds of memory
and file in every later state. -/
theorem both_after_append {P : PersistentState → Prop} {pre post : List OAuthInput}
    (hfresh : Fresh OAuthInput.names (pre ++ post))
    (hkeep : ∀ i ∈ post, (∀ n ∈ drawnNames pre, n ∉ i.names) → ∀ s s', Evolves p env i s s' →
      P s → P s')
    (h : P ((oauth p env).after pre).live.state ∧ P ((oauth p env).after pre).file) :
    P ((oauth p env).after (pre ++ post)).live.state ∧
      P ((oauth p env).after (pre ++ post)).file := by
  induction post using List.reverseRecOn with
  | nil => simpa using h
  | append_singleton post i ih =>
      rw [← List.append_assoc] at hfresh ⊢
      have hprev := ih (prefixClosed_fresh _ _ _ hfresh) fun j hj =>
        hkeep j (List.mem_append_left _ hj)
      have hnew : ∀ n ∈ drawnNames pre, n ∉ i.names := by
        intro n hn hi
        refine hfresh.notMem hi ?_
        rw [List.flatMap_append]
        exact List.mem_append_left _ hn
      rw [Machine.after_concat]
      exact (moves_step i _).both (hkeep i (by simp) hnew) hprev

end Runs

/-! ## Issued tokens name their session -/

section Issued

variable {p : Platform} {env : OAuthEnv}

theorem dot_notMem_base64url (bytes : ByteArray) : unit '.' ∉ base64url bytes := by
  intro h
  have := isBase64url_of_mem h
  revert this
  decide

/-- The properties of the payload that `tokenResponse` signs. -/
def signedPayload (env : OAuthEnv) (input : TokenInput) (clientId sessionId resource : JsString) :
    List (JsString × Json) :=
  tokenPayload input clientId sessionId ++
    [(js "iss", .str env.publicBaseUrl), (js "aud", .str resource), (js "scope", .str fullScope)]

theorem fromEntries_signedPayload (input : TokenInput) (clientId sessionId resource : JsString) :
    fromEntries (signedPayload env input clientId sessionId resource) =
      signedPayload env input clientId sessionId resource := by
  have hkeys : (signedPayload env input clientId sessionId resource).map Prod.fst =
      [js "cid", js "sid", js "sub", js "jti", js "iat", js "exp", js "iss", js "aud",
        js "scope"] := rfl
  apply fromEntries_eq_self
  · rw [hkeys]
    decide
  · rw [hkeys]
    decide

theorem normal_signedPayload (input : TokenInput) (clientId sessionId resource : JsString) :
    (Json.obj (signedPayload env input clientId sessionId resource)).Normal := by
  refine ⟨?_, fromEntries_signedPayload input clientId sessionId resource⟩
  exact ⟨trivial, trivial, trivial, trivial, ⟨_, rfl⟩, ⟨_, rfl⟩, trivial, trivial, trivial, trivial⟩

/-- A token of three encoded parts, when it verifies, yields what its middle part
encodes. -/
theorem verifyAccessToken_parts (hp : p.Lawful) {header body signature : ByteArray}
    {now active : TimeValue} {live : Live} {payload : Json}
    (h : verifyAccessToken p env (base64url header ++ js "." ++ base64url body ++ js "." ++
      base64url signature) now active live = some payload) :
    parse (p.fromUtf8 body) = some payload := by
  have hdot : js "." = [unit '.'] := by decide
  have hsplit : splitUnit (unit '.') (base64url header ++ js "." ++ base64url body ++ js "." ++
      base64url signature) = [base64url header, base64url body, base64url signature] := by
    rw [hdot, List.append_assoc, List.append_assoc, List.append_assoc, List.singleton_append,
      splitUnit_append (dot_notMem_base64url header), List.singleton_append,
      splitUnit_append (dot_notMem_base64url body),
      splitUnit_of_notMem (dot_notMem_base64url signature)]
  rw [verifyAccessToken, hsplit] at h
  dsimp only at h
  split_ifs at h
  rw [hp.fromBase64url_base64url body] at h
  split at h
  · cases h
  · rename_i x hparse
    split_ifs at h
    rw [hparse, Option.some.inj h]

theorem verifyAccessToken_issued (hp : p.Lawful) {input : TokenInput}
    {clientId sessionId resource : JsString} {now active : TimeValue} {live : Live}
    {payload : Json}
    (h : verifyAccessToken p env (tokenResponse p env input clientId sessionId resource).accessToken
      now active live = some payload) :
    payload = .obj (signedPayload env input clientId sessionId resource) := by
  have hparse := verifyAccessToken_parts hp h
  rw [hp.fromUtf8_textBytes, ← signedPayload, fromEntries_signedPayload,
    parse_stringify _ (normal_signedPayload input clientId sessionId resource)] at hparse
  exact (Option.some.inj hparse).symm

end Issued

/-! ## Tokens and codes keep their owner -/

section Owners

variable {p : Platform} {env : OAuthEnv}

theorem findSession_spec {names : List JsString} {refreshToken : JsString} {live : Live}
    {session : StoredSession} (hsound : Sound p names live.state)
    (h : findSessionByRefreshToken p.digest refreshToken live = some session) :
    live.state.sessions.get? session.sessionId = some session ∧
      session.refreshHash = p.digest refreshToken := by
  rw [findSessionByRefreshToken, Option.map_eq_some_iff] at h
  obtain ⟨⟨k, x⟩, hfind, rfl⟩ := h
  obtain ⟨hget, hhash⟩ := Record.find?_some hfind
  obtain ⟨-, hid, -⟩ := hsound.sessions k x hget
  refine ⟨?_, by simpa using hhash⟩
  show live.state.sessions.get? x.sessionId = some x
  rw [hid]
  exact hget

theorem exists_token_of_mem {is : List OAuthInput} {r : TokenResponse}
    (h : r ∈ tokensIssued ((oauth p env).trace is)) :
    ∃ pre input post, is = pre ++ .token input :: post ∧
      (oauth p env).answer pre (.token input) = .tokens r := by
  obtain ⟨⟨i, o⟩, hmem, hsome⟩ := List.mem_filterMap.mp h
  obtain ⟨pre, post, rfl, ho⟩ := (Machine.mem_trace_iff _).mp hmem
  have hanswer : (oauth p env).answer pre i = .tokens r := by
    split at hsome
    · rename_i r' hr
      rw [ho, ← Option.some.inj hsome]
      exact hr
    · cases hsome
  obtain ⟨input, rfl⟩ := step_eq_tokens hanswer
  exact ⟨pre, input, post, rfl, hanswer⟩

theorem exists_submit_of_mem {is : List OAuthInput} {code clientId : JsString}
    (h : (code, clientId) ∈ codesIssued ((oauth p env).trace is)) :
    ∃ pre input post uri state, is = pre ++ .submit input :: post ∧ clientId = input.clientId ∧
      (oauth p env).answer pre (.submit input) = .redirected uri code state := by
  obtain ⟨⟨i, o⟩, hmem, hsome⟩ := List.mem_filterMap.mp h
  obtain ⟨pre, post, rfl, ho⟩ := (Machine.mem_trace_iff _).mp hmem
  split at hsome
  · rename_i input uri code' state heq
    obtain ⟨rfl, rfl⟩ := Prod.mk.inj heq
    obtain ⟨rfl, rfl⟩ := Prod.mk.inj (Option.some.inj hsome)
    exact ⟨pre, input, post, uri, state, rfl, rfl, ho⟩
  · cases hsome

/-- A session that gets a new refresh token is from then on its only owner. -/
theorem refreshOwner_set (hp : p.CollisionFree) {names : List JsString} {s : PersistentState}
    (hsound : Sound p names s) {i : OAuthInput} {refreshToken : JsString}
    (hdrawn : refreshToken ∈ i.names) (hnew : refreshToken ∉ names) {k : JsString}
    {x : StoredSession} {s' : PersistentState} (hs' : s'.sessions = s.sessions.set k x) :
    RefreshOwner (p.digest refreshToken) k x.clientId s' := by
  intro k' y hy hhash
  rw [hs', Record.get?_set] at hy
  split_ifs at hy with hk
  · obtain rfl := Option.some.inj hy
    exact ⟨hk, rfl⟩
  · obtain ⟨-, -, -, n, hn, heq⟩ := hsound.sessions k' y hy
    have hsame := OAuthInput.eq_of_digest hp hdrawn (hhash.symm.trans heq)
    exact absurd (hsame ▸ hn) hnew

/-- What a token answer says about the store it leaves. -/
theorem tokens_spec (hp : p.CollisionFree) {pre : List OAuthInput} {input : TokenInput}
    {r : TokenResponse} (hfresh : Fresh OAuthInput.names (pre ++ [.token input]))
    (h : (oauth p env).answer pre (.token input) = .tokens r) :
    r = tokenResponse p env input r.clientId r.sessionId env.mcpResource ∧
      (RefreshOwner (p.digest r.refreshToken) r.sessionId r.clientId
        ((oauth p env).after (pre ++ [.token input])).live.state ∧
      RefreshOwner (p.digest r.refreshToken) r.sessionId r.clientId
        ((oauth p env).after (pre ++ [.token input])).file) := by
  rw [Machine.after_concat]
  have hsound := (sound_after p env pre).1
  have hdrawn : input.newRefreshToken ∈ (OAuthInput.token input).names := by
    simp [OAuthInput.names]
  have hnew := hfresh.notMem hdrawn
  have hresult : token p env input ((oauth p env).after pre) =
      (.tokens r, ((oauth p env).step ((oauth p env).after pre) (.token input)).2) :=
    Prod.ext h rfl
  rcases token_cases hresult with hidle | ⟨code, htraded⟩ | ⟨session, own, hrotated⟩
  · exact absurd rfl (hidle.reply r)
  · rcases htraded.ended with ⟨hreply, hfile⟩ | ⟨hreply, -⟩
    · obtain rfl := OAuthReply.tokens.inj hreply
      have howner : RefreshOwner (p.digest input.newRefreshToken) input.newSessionId input.clientId
          ((oauth p env).step ((oauth p env).after pre) (.token input)).2.live.state :=
        refreshOwner_set hp hsound hdrawn hnew (congrArg PersistentState.sessions htraded.memory)
      rw [hfile]
      exact ⟨rfl, howner, howner⟩
    · cases hreply
  · obtain ⟨hfile, rfl⟩ := hrotated.ended r rfl
    obtain ⟨hstored, -⟩ := findSession_spec hsound hrotated.found
    have hown : own = session := Option.some.inj (hrotated.stored.symm.trans hstored)
    have howner := refreshOwner_set hp hsound hdrawn hnew
      (congrArg PersistentState.sessions hrotated.memory)
    rw [hown, hrotated.clientId] at howner
    rw [hfile]
    exact ⟨rfl, howner, howner⟩

/-- The owner of an issued refresh token never changes. -/
theorem refreshOwner_of_mem (hp : p.CollisionFree) {is : List OAuthInput} {r : TokenResponse}
    (hfresh : Fresh OAuthInput.names is) (h : r ∈ tokensIssued ((oauth p env).trace is)) :
    RefreshOwner (p.digest r.refreshToken) r.sessionId r.clientId
      ((oauth p env).after is).live.state := by
  obtain ⟨pre, input, post, rfl, hanswer⟩ := exists_token_of_mem h
  rw [List.append_cons] at hfresh ⊢
  have hpre := (prefixClosed_fresh _).of_append hfresh
  obtain ⟨hr, howner⟩ := tokens_spec hp hpre hanswer
  have hdrawn : r.refreshToken ∈ drawnNames (pre ++ [.token input]) := by
    rw [hr, drawnNames_concat]
    exact List.mem_append_right _ (by simp [OAuthInput.names, tokenResponse])
  exact (both_after_append hfresh
    (fun i _ hnew s s' he hs => he.refreshOwner hp (hnew _ hdrawn) hs) howner).1

theorem codeOwner_of_mem (hp : p.CollisionFree) {is : List OAuthInput} {code clientId : JsString}
    (hfresh : Fresh OAuthInput.names is)
    (h : (code, clientId) ∈ codesIssued ((oauth p env).trace is)) :
    CodeOwner (p.digest code) clientId ((oauth p env).after is).live.state := by
  obtain ⟨pre, input, post, uri, state, rfl, rfl, hanswer⟩ := exists_submit_of_mem h
  rw [List.append_cons] at hfresh ⊢
  have hresult : authorizeSubmit p env input ((oauth p env).after pre) =
      (.redirected uri code state,
        ((oauth p env).step ((oauth p env).after pre) (.submit input)).2) :=
    Prod.ext hanswer rfl
  rcases authorizeSubmit_cases hresult with ⟨-, hnone⟩ | ⟨client, hgranted⟩
  · exact absurd rfl (hnone uri code state)
  · rcases hgranted.ended with ⟨⟨state', hreply⟩, hfile⟩ | ⟨hreply, -⟩
    · obtain ⟨-, rfl, -⟩ := OAuthReply.redirected.inj hreply
      have howner : CodeOwner (p.digest (randomId "code" input.code)) input.clientId
          ((oauth p env).step ((oauth p env).after pre) (.submit input)).2.live.state := by
        intro c hc
        rw [hgranted.memory] at hc
        dsimp only at hc
        rw [Record.get?_set_self] at hc
        rw [← Option.some.inj hc]
        exact ((sound_after p env pre).1.clients _ _ hgranted.registered).2
      have hdrawn : randomId "code" input.code ∈ drawnNames (pre ++ [.submit input]) := by
        rw [drawnNames_concat]
        exact List.mem_append_right _ (List.mem_singleton.mpr rfl)
      refine (both_after_append hfresh
        (fun i _ hnew s s' he hs => he.codeOwner hp (hnew _ hdrawn) hs) ?_).1
      rw [Machine.after_concat, hfile]
      exact ⟨howner, howner⟩
    · cases hreply

end Owners

/-! ## A small deployment -/

def sampleOAuthEnv : OAuthEnv where
  publicBaseUrl := js "https://ops"
  authSecret := js "secret"
  mcpPassword := js "password"
  store := ⟨50, 24, 90⟩

def textA : RandomText := ⟨js "A", List.all_eq_true.mp (by decide)⟩

def textB : RandomText := ⟨js "B", List.all_eq_true.mp (by decide)⟩

def sampleTime : TimeValue := ⟨1000, by decide⟩

def sampleVerifier : JsString := List.replicate 43 (unit 'v')

def sampleRegister : OAuthInput :=
  .register ⟨.obj [(js "redirect_uris", .arr [.str (js "https://app")])], textA, sampleTime,
    sampleTime, true⟩

def sampleSubmit : OAuthInput :=
  .submit ⟨[(js "client_id", js "ro-A"), (js "redirect_uri", js "https://app"),
    (js "code_challenge", pkceChallengeS256 samplePlatform sampleVerifier),
    (js "code_challenge_method", js "S256"), (js "password", js "password")], textA, sampleTime,
    true⟩

def sampleToken (fields : Form) (r : RandomText) : OAuthInput :=
  .token ⟨(js "client_id", js "ro-A") :: fields, r, r, r, sampleTime, sampleTime, sampleTime, true,
    true⟩

def sampleTrade : OAuthInput :=
  sampleToken [(js "grant_type", js "authorization_code"), (js "code", js "code-A"),
    (js "code_verifier", sampleVerifier), (js "redirect_uri", js "https://app")] textA

def sampleRefresh : OAuthInput :=
  sampleToken [(js "grant_type", js "refresh_token"), (js "refresh_token", js "rt-A")] textB

/-- A client registers, gets a code and trades it for the session `sess-A`. -/
def sampleLogin : List OAuthInput := [sampleRegister, sampleSubmit, sampleTrade]

end RemoteOps

import RemoteOps.Auth.Refresh
import RemoteOps.State.PairingInvariant

/-!
# The service

The OAuth endpoints and the pairing calls of one process, over one store. What the OAuth
machine keeps of its tables the service keeps as well, since a pairing call only drops
entries of them; `tidy_step` collects what is known of both contents after any step.

A step leaves most of memory alone. The lemmas of the second half say for each endpoint
which parts these are.
-/

namespace RemoteOps

open Ecma Transition

structure ServiceEnv where
  oauth : OAuthEnv
  agentMaxDevices : ℕ
  agentMaxPendingPairings : ℕ
  agentPairingTtlMinutes : ℕ

def ServiceEnv.pairing (env : ServiceEnv) : PairingEnv where
  agentMaxDevices := env.agentMaxDevices
  agentMaxPendingPairings := env.agentMaxPendingPairings
  agentPairingTtlMinutes := env.agentPairingTtlMinutes
  store := env.oauth.store

inductive ServiceInput where
  | oauth (i : OAuthInput)
  | pairing (i : PairingInput)

inductive ServiceReply where
  | oauth (reply : OAuthReply)
  | pairing (reply : PairingReply)
  deriving DecidableEq

def ServiceInput.names : ServiceInput → List JsString
  | oauth i => i.names
  | pairing i => i.names

section Machine

variable (p : Platform) (upper : UpperCase) (env : ServiceEnv)

def ServiceInput.step (store : Store) : ServiceInput → ServiceReply × Store
  | oauth i => (.oauth (i.step p env.oauth store).1, (i.step p env.oauth store).2)
  | pairing i =>
      (.pairing (i.step p upper env.pairing store).1, (i.step p upper env.pairing store).2)

def service : Machine Store ServiceInput ServiceReply where
  start := Store.initial
  step := ServiceInput.step p upper env

end Machine

/-! ## Tables that only lose entries -/

structure Shrinks (s s' : PersistentState) : Prop where
  sessions : ∀ k x, s'.sessions.get? k = some x → s.sessions.get? k = some x
  clients : ∀ k c, s'.clients.get? k = some c → s.clients.get? k = some c
  codes : ∀ h code, s'.authCodes.get? h = some code → s.authCodes.get? h = some code

theorem Shrinks.refl (s : PersistentState) : Shrinks s s :=
  ⟨fun _ _ h => h, fun _ _ h => h, fun _ _ h => h⟩

theorem shrinks_of_eq {s s' : PersistentState} (hsessions : s'.sessions = s.sessions)
    (hclients : s'.clients = s.clients) (hcodes : s'.authCodes = s.authCodes) : Shrinks s s' := by
  refine ⟨fun k x h => ?_, fun k c h => ?_, fun k code h => ?_⟩
  · rwa [hsessions] at h
  · rwa [hclients] at h
  · rwa [hcodes] at h

theorem Shrinks.trans {s s' s'' : PersistentState} (h : Shrinks s s') (h' : Shrinks s' s'') :
    Shrinks s s'' :=
  ⟨fun k x hx => h.sessions k x (h'.sessions k x hx),
    fun k c hc => h.clients k c (h'.clients k c hc),
    fun k code hcode => h.codes k code (h'.codes k code hcode)⟩

theorem shrinks_prunePendingClients (env : StoreEnv) (live : Live) (now : ℤ) :
    Shrinks live.state (prunePendingClients env live now).1 :=
  ⟨fun _ _ h => h, fun _ _ h => (Record.get?_of_get?_filter h).1, fun _ _ h => h⟩

theorem shrinks_purged (env : StoreEnv) (now : ℤ) (live : Live) :
    Shrinks live.state (purged env now live).1 :=
  ⟨fun _ _ h => (Record.get?_of_get?_filter h).1, fun _ _ h => (Record.get?_of_get?_filter h).1,
    fun _ _ h => (Record.get?_of_get?_filter h).1⟩

/-- Memory and file after a step have each lost entries of memory or file. -/
structure ShrinksBoth (t t' : Store) : Prop where
  memory : Shrinks t.live.state t'.live.state ∨ Shrinks t.file t'.live.state
  file : Shrinks t.live.state t'.file ∨ Shrinks t.file t'.file

theorem shrinksBoth_run {α : Type} {store : Store} {op : Live → Effect α}
    (hop : ∀ live' x, op store.live = .persist live' x → Shrinks store.live.state live'.state)
    (writes : Bool) : ShrinksBoth store (store.run op writes).2 := by
  have hlive : Shrinks store.live.state (store.run op writes).2.live.state := by
    rw [Store.run_live]
    cases heffect : op store.live with
    | persist live' x => exact hop live' x heffect
    | done x => exact Shrinks.refl _
    | throw e => exact Shrinks.refl _
  refine ⟨Or.inl hlive, ?_⟩
  rcases Store.run_file store op writes with hfile | hfile
  · rw [hfile]
    exact Or.inl hlive
  · rw [hfile]
    exact Or.inr (Shrinks.refl _)

section Pairings

variable {p : Platform} {upper : UpperCase} {env : PairingEnv} {live live' : Live}

theorem shrinks_startPairing {info : PairingMeta} {draws : PairingDraws} {now : ℤ}
    {x : Option NewPairing} (h : startPairing p upper env info draws now live = .persist live' x) :
    Shrinks live.state live'.state := by
  unfold startPairing at h
  split_ifs at h
  split at h
  · cases h
  · obtain ⟨rfl, -⟩ := Effect.persist.inj h
    exact shrinks_of_eq rfl rfl rfl

theorem shrinks_approvePairing {code : JsString} {now : ℤ} {x : Option StoredPairing}
    (h : approvePairingByCode p upper code now live = .persist live' x) :
    Shrinks live.state live'.state := by
  unfold approvePairingByCode at h
  split at h
  · cases h
  · obtain ⟨rfl, -⟩ := Effect.persist.inj h
    exact shrinks_of_eq rfl rfl rfl

theorem shrinks_claimPairing {pairingId pollToken : JsString} {draw : RandomText} {now : ℤ}
    {x : ClaimResult} (h : claimPairing p pairingId pollToken draw now live = .persist live' x) :
    Shrinks live.state live'.state := by
  unfold claimPairing at h
  split at h
  · cases h
  · split_ifs at h
    split at h
    · cases h
    · obtain ⟨rfl, -⟩ := Effect.persist.inj h
      exact shrinks_of_eq rfl rfl rfl

theorem shrinks_revokeDevice {deviceId : JsString} {now : ℤ} {x : Bool}
    (h : revokeDevice deviceId now live = .persist live' x) : Shrinks live.state live'.state := by
  unfold revokeDevice at h
  split at h
  · cases h
  · split at h
    all_goals obtain ⟨rfl, -⟩ := Effect.persist.inj h
    all_goals exact shrinks_of_eq rfl rfl rfl
  · split at h
    · split at h
      · cases h
      · obtain ⟨rfl, -⟩ := Effect.persist.inj h
        exact shrinks_of_eq rfl rfl rfl
    · obtain ⟨rfl, -⟩ := Effect.persist.inj h
      exact shrinks_of_eq rfl rfl rfl

theorem shrinks_purgeState {storeEnv : StoreEnv} {now : ℤ} {x : Unit}
    (h : purgeState storeEnv now live = .persist live' x) : Shrinks live.state live'.state := by
  unfold purgeState at h
  dsimp only at h
  split_ifs at h
  obtain ⟨rfl, -⟩ := Effect.persist.inj h
  exact shrinks_purged storeEnv now live

/-- A pairing call drops entries of the OAuth tables at most. -/
theorem shrinksBoth_pairing (i : PairingInput) (store : Store) :
    ShrinksBoth store (i.step p upper env store).2 := by
  cases i with
  | create info draws now writes =>
      have hrun : ShrinksBoth { store with live := dropStalePairings now store.live }
          (store.createPairing p upper env info draws now writes).2 :=
        shrinksBoth_run (fun _ _ h => shrinks_startPairing h) writes
      rw [PairingInput.step, answered_snd]
      have hsame : Shrinks store.live.state (dropStalePairings now store.live).state :=
        shrinks_of_eq rfl rfl rfl
      exact ⟨hrun.memory.imp_left hsame.trans, hrun.file.imp_left hsame.trans⟩
  | approve code now writes =>
      rw [PairingInput.step, answered_snd]
      exact shrinksBoth_run (fun _ _ h => shrinks_approvePairing h) writes
  | claim pairingId pollToken draw now writes =>
      rw [PairingInput.step, answered_snd]
      exact shrinksBoth_run (fun _ _ h => shrinks_claimPairing h) writes
  | revokeDevice deviceId now writes =>
      rw [PairingInput.step, answered_snd]
      exact shrinksBoth_run (fun _ _ h => shrinks_revokeDevice h) writes
  | purgeState now writes =>
      rw [PairingInput.step, answered_snd]
      exact shrinksBoth_run (fun _ _ h => shrinks_purgeState h) writes
  | restart now =>
      exact ⟨Or.inr (shrinks_purged env.store now ⟨store.file, Realm.fresh, Record.empty⟩),
        Or.inr (Shrinks.refl _)⟩

end Pairings

/-! ## What is known of the tables -/

/-- Contents in which every name was drawn before, refresh tokens differ, and no key is one
that a lookup would find on `Object.prototype`. -/
structure Tidy (p : Platform) (names : List JsString) (s : PersistentState) : Prop where
  sound : Sound p names s
  distinct : RefreshDistinct s
  plainClients : ∀ k c, s.clients.get? k = some c → ¬IsInherited k
  plainSessions : ∀ k x, s.sessions.get? k = some x → ¬IsInherited k

section Tidy

variable {p : Platform} {env : OAuthEnv} {names : List JsString} {s s' : PersistentState}

theorem Tidy.keyed (h : Tidy p names s) : SessionsKeyed s := fun k x hx =>
  (h.sound.sessions k x hx).2.1

theorem Sound.mono {names' : List JsString} (h : Sound p names s) (hsub : names ⊆ names') :
    Sound p names' s where
  sessions k x hx := by
    obtain ⟨hk, hid, hclient, n, hn, hhash⟩ := h.sessions k x hx
    exact ⟨hsub hk, hid, hsub hclient, n, hsub hn, hhash⟩
  clients k c hc := ⟨hsub (h.clients k c hc).1, (h.clients k c hc).2⟩
  codes hash code hcode := by
    obtain ⟨hclient, n, hn, hhash⟩ := h.codes hash code hcode
    exact ⟨hsub hclient, n, hsub hn, hhash⟩

theorem Tidy.mono {names' : List JsString} (h : Tidy p names s) (hsub : names ⊆ names') :
    Tidy p names' s :=
  ⟨h.sound.mono hsub, h.distinct, h.plainClients, h.plainSessions⟩

theorem Tidy.shrinks (h : Tidy p names s) (hs : Shrinks s s') : Tidy p names s' where
  sound := ⟨fun k x hx => h.sound.sessions k x (hs.sessions k x hx),
    fun k c hc => h.sound.clients k c (hs.clients k c hc),
    fun k code hcode => h.sound.codes k code (hs.codes k code hcode)⟩
  distinct k k' x x' hx hx' := h.distinct k k' x x' (hs.sessions k x hx) (hs.sessions k' x' hx')
  plainClients k c hc := h.plainClients k c (hs.clients k c hc)
  plainSessions k x hx := h.plainSessions k x (hs.sessions k x hx)

theorem Evolves.tidy (hp : p.CollisionFree) {i : OAuthInput} (he : Evolves p env i s s')
    (hnew : ∀ n ∈ i.names, n ∉ names) (h : Tidy p names s) : Tidy p (names ++ i.names) s' where
  sound := he.sound h.sound
  distinct := he.refreshDistinct hp h.sound hnew h.distinct
  plainClients k c hc := by
    rcases he.clients k c hc with ⟨c', hc', -⟩ | ⟨hk, -⟩
    · exact h.plainClients k c' hc'
    · exact (OAuthInput.names_spec hk).1
  plainSessions k x hx := by
    rcases he.sessions k x hx with ⟨x', hx', -⟩ | hcreated
    · exact h.plainSessions k x' hx'
    · exact (OAuthInput.names_spec hcreated.drawn).1

/-- Memory and file are tidy. -/
structure Store.Tidy (p : Platform) (names : List JsString) (store : Store) : Prop where
  memory : RemoteOps.Tidy p names store.live.state
  file : RemoteOps.Tidy p names store.file

theorem Store.Tidy.shrinks {store store' : Store} (h : store.Tidy p names)
    (hs : ShrinksBoth store store') : store'.Tidy p names :=
  ⟨hs.memory.elim (h.memory.shrinks ·) (h.file.shrinks ·),
    hs.file.elim (h.memory.shrinks ·) (h.file.shrinks ·)⟩

theorem tidy_initial (p : Platform) : Store.initial.Tidy p [] := by
  have hempty : RemoteOps.Tidy p [] emptyState :=
    ⟨⟨by simp [emptyState], by simp [emptyState], by simp [emptyState]⟩,
      fun k k' x x' hx => by simp [emptyState] at hx, by simp [emptyState], by simp [emptyState]⟩
  exact ⟨hempty, hempty⟩

theorem tidy_step {upper : UpperCase} {env : ServiceEnv} (hp : p.CollisionFree) {store : Store}
    (i : ServiceInput) (hnew : ∀ n ∈ i.names, n ∉ names) (h : store.Tidy p names) :
    (i.step p upper env store).2.Tidy p (names ++ i.names) := by
  cases i with
  | oauth i =>
      have hboth := (@moves_step p env.oauth i store).both
        (fun s s' he hs => he.tidy hp hnew hs) ⟨h.memory, h.file⟩
      exact ⟨hboth.1, hboth.2⟩
  | pairing i =>
      have hshrunk : (i.step p upper env.pairing store).2.Tidy p names :=
        h.shrinks (shrinksBoth_pairing i store)
      exact ⟨hshrunk.memory.mono (List.subset_append_left _ _),
        hshrunk.file.mono (List.subset_append_left _ _)⟩

/-- Memory and file of every reachable store are tidy. -/
theorem tidy_after {upper : UpperCase} {env : ServiceEnv} (hp : p.CollisionFree)
    {is : List ServiceInput} (hfresh : Fresh ServiceInput.names is) :
    ((service p upper env).after is).Tidy p (is.flatMap ServiceInput.names) := by
  refine (service p upper env).invariant (prefixClosed_fresh ServiceInput.names)
    (I := fun is store => store.Tidy p (is.flatMap ServiceInput.names)) (tidy_initial p) ?_ is hfresh
  intro is i hfresh htidy
  rw [List.flatMap_append, List.flatMap_singleton]
  exact tidy_step hp i (fun n hn => hfresh.notMem hn) htidy

end Tidy

/-! ## What an endpoint leaves in memory -/

section Memory

variable {p : Platform} {env : OAuthEnv}

theorem register_live (input : RegisterInput) (store : Store) :
    (register p env input store).2.live = store.live ∨
      ∃ uris, (register p env input store).2.live =
        (registerClient env.store (input.client uris) input.pruned.ms store.live).live store.live := by
  rw [register]
  split
  · split
    · exact Or.inl rfl
    · split
      · exact Or.inl rfl
      · rename_i uris _
        have hrun := store.run_live
          (registerClient env.store (input.client uris) input.pruned.ms) input.writes
        split
        · exact Or.inl rfl
        · split
          · exact Or.inl rfl
          · refine Or.inr ⟨uris, ?_⟩
            generalize store.run _ _ = result at hrun ⊢
            obtain ⟨result, store'⟩ := result
            rcases result with e | _ | _ <;> exact hrun
  · exact Or.inl rfl

theorem authorizeSubmit_live (input : SubmitInput) (store : Store) :
    (authorizeSubmit p env input store).2.live = store.live ∨
      ∃ code, (authorizeSubmit p env input store).2.live =
        (putAuthCode p.digest (randomId "code" input.code) code store.live).live store.live := by
  rw [authorizeSubmit]
  split
  · exact Or.inl rfl
  · rename_i client _
    split_ifs
    · exact Or.inl rfl
    · exact Or.inl rfl
    · exact Or.inl rfl
    · refine Or.inr ⟨input.authCode env client, ?_⟩
      have hrun := store.run_live
        (putAuthCode p.digest (randomId "code" input.code) (input.authCode env client)) input.writes
      generalize store.run _ _ = result at hrun ⊢
      obtain ⟨result, store'⟩ := result
      rcases result with e | _ <;> exact hrun
  · split_ifs <;> exact Or.inl rfl

/-- The request uses up a code with this hash. -/
def TokenInput.Consumes (p : Platform) (input : TokenInput) (live : Live) (hash : JsString) :
    Prop :=
  clientIsUsable input.clientId live = true ∧ input.grantType = js "authorization_code" ∧
    p.digest input.code = hash

/-- What a request to `/token` may do to memory. -/
structure TokenLive (p : Platform) (input : TokenInput) (live live' : Live) : Prop where
  realm : live'.realm = live.realm
  touched : live'.lastSessionTouch = live.lastSessionTouch
  devices : live'.state.devices = live.state.devices
  pairings : live'.state.pairings = live.state.pairings
  clients : live'.state.clients = live.state.clients
  consumed : ∀ hash, input.Consumes p live hash → live'.state.authCodes.get? hash = none
  kept : ∀ hash, ¬input.Consumes p live hash →
    live'.state.authCodes.get? hash = live.state.authCodes.get? hash
  other : input.grantType ≠ js "refresh_token" → ∀ id ≠ input.newSessionId,
    live'.state.sessions.get? id = live.state.sessions.get? id

theorem issueNewSession_live (input : TokenInput) (clientId resource : JsString) (store : Store) :
    (issueNewSession p env input clientId resource store).2.live =
      (createSession (input.newSession p clientId resource) store.live).live store.live := by
  have hrun := store.run_live (createSession (input.newSession p clientId resource))
    input.writesSession
  rw [issueNewSession]
  generalize store.run _ _ = result at hrun ⊢
  obtain ⟨result, store'⟩ := result
  rcases result with e | _ <;> exact hrun

/-- A session, if one is created, comes on top of the code that is gone. -/
theorem grantAuthorizationCode_live (input : TokenInput) (store : Store) :
    (grantAuthorizationCode p env input store).2.live =
        (consumeAuthCode p.digest input.code input.consumed.ms store.live).live store.live ∨
      ∃ resource, (grantAuthorizationCode p env input store).2.live =
        (createSession (input.newSession p input.clientId resource)
          ((consumeAuthCode p.digest input.code input.consumed.ms store.live).live store.live)).live
          ((consumeAuthCode p.digest input.code input.consumed.ms store.live).live store.live) := by
  have hrun := store.run_live (consumeAuthCode p.digest input.code input.consumed.ms)
    input.writesCode
  rw [grantAuthorizationCode]
  generalize store.run _ _ = result at hrun ⊢
  obtain ⟨result, store'⟩ := result
  rcases result with e | code
  · exact Or.inl hrun
  · dsimp only
    rw [← hrun]
    split
    · exact Or.inl rfl
    · exact Or.inl rfl
    · split_ifs
      · exact Or.inl rfl
      · exact Or.inr ⟨_, issueNewSession_live input _ _ store'⟩

theorem consumeAuthCode_live (rawCode : JsString) (now : ℤ) (live : Live) :
    (consumeAuthCode p.digest rawCode now live).live live =
      { live with state := { live.state with
        authCodes := live.state.authCodes.erase (p.digest rawCode) } } := by
  rw [consumeAuthCode]
  dsimp only
  split
  · next hnone =>
      have hsame : live.state.authCodes.erase (p.digest rawCode) = live.state.authCodes := by
        apply Record.filter_eq_self
        intro k x hx
        rw [bne_iff_ne]
        rintro rfl
        rw [hnone] at hx
        cases hx
      rw [hsame]
      rfl
  · rfl

theorem rotateRefreshToken_live (sessionId rawRefresh : JsString) (r a now : ℤ) (live : Live) :
    ∃ sessions, (rotateRefreshToken p.digest sessionId rawRefresh r a now live).live live =
      { live with state := { live.state with sessions := sessions } } := by
  rw [rotateRefreshToken]
  split
  · exact ⟨live.state.sessions, rfl⟩
  · split_ifs
    · exact ⟨live.state.sessions, rfl⟩
    · exact ⟨_, rfl⟩

theorem grantRefreshToken_live (input : TokenInput) (store : Store) :
    ∃ sessions, (grantRefreshToken p env input store).2.live =
      { store.live with state := { store.live.state with sessions := sessions } } := by
  rw [grantRefreshToken]
  split
  · exact ⟨store.live.state.sessions, rfl⟩
  · rename_i session _
    split_ifs
    · exact ⟨store.live.state.sessions, rfl⟩
    · obtain ⟨sessions, hsessions⟩ := rotateRefreshToken_live (p := p) session.sessionId
        input.newRefreshToken (input.now.ms + refreshTtlMs) (input.now.ms + accessTtlMs)
        input.now.ms store.live
      refine ⟨sessions, ?_⟩
      rw [← hsessions, ← store.run_live _ input.writesSession]
      generalize store.run _ _ = result
      obtain ⟨result, store'⟩ := result
      rcases result with e | _ | _
      · rfl
      · rfl
      · dsimp only
        split
        · rfl
        · split_ifs <;> rfl

theorem tokenLive_idle {input : TokenInput} {live : Live}
    (h : clientIsUsable input.clientId live = false ∨
      input.grantType ≠ js "authorization_code") {sessions : Record StoredSession}
    (hsessions : input.grantType ≠ js "refresh_token" → sessions = live.state.sessions) :
    TokenLive p input live { live with state := { live.state with sessions := sessions } } where
  realm := rfl
  touched := rfl
  devices := rfl
  pairings := rfl
  clients := rfl
  consumed hash hconsumes := by
    rcases h with h | h
    · exact absurd hconsumes.1 (by simp [h])
    · exact absurd hconsumes.2.1 h
  kept _ _ := rfl
  other hgrant _ _ := by rw [hsessions hgrant]

theorem tokenLive_token (input : TokenInput) (store : Store) :
    TokenLive p input store.live (token p env input store).2.live := by
  rw [token]
  split_ifs with husable hcode hrefresh
  · exact tokenLive_idle (Or.inl husable) fun _ => rfl
  · have hgone : ∀ hash, input.Consumes p store.live hash →
        (store.live.state.authCodes.erase (p.digest input.code)).get? hash = none := by
      rintro hash ⟨-, -, rfl⟩
      simp [Record.get?_erase]
    have hkept : ∀ hash, ¬input.Consumes p store.live hash →
        (store.live.state.authCodes.erase (p.digest input.code)).get? hash =
          store.live.state.authCodes.get? hash := by
      intro hash hnot
      rw [Record.get?_erase, if_neg]
      rintro rfl
      exact hnot ⟨by simpa using husable, hcode, rfl⟩
    rcases @grantAuthorizationCode_live p env input store with hlive | ⟨resource, hlive⟩
    · rw [hlive, consumeAuthCode_live]
      exact ⟨rfl, rfl, rfl, rfl, rfl, hgone, hkept, fun _ _ _ => rfl⟩
    · rw [hlive, consumeAuthCode_live]
      exact ⟨rfl, rfl, rfl, rfl, rfl, hgone, hkept,
        fun _ id hid => Record.get?_set_of_ne _ _ hid⟩
  · obtain ⟨sessions, hsessions⟩ := @grantRefreshToken_live p env input store
    rw [hsessions]
    exact tokenLive_idle (Or.inr hcode) fun h => absurd hrefresh h
  · exact tokenLive_idle (Or.inr hcode) fun _ => rfl

/-- The payload that a token shows, verified or not. -/
def accessPayload (p : Platform) (accessToken : JsString) : Option Json :=
  match splitUnit (unit '.') accessToken with
  | [_, body, _] => parse (p.fromUtf8 (p.fromBase64url body))
  | _ => none

/-- The session that a bearer request names. -/
def BearerInput.namedSession (p : Platform) (input : BearerInput) : Option JsString := do
  let accessToken ← bearerToken input.authorization
  let payload ← accessPayload p accessToken
  return textOrEmpty (payload.get (js "sid"))

theorem accessPayload_of_verify {accessToken : JsString} {now active : TimeValue} {live : Live}
    {payload : Json} (h : verifyAccessToken p env accessToken now active live = some payload) :
    accessPayload p accessToken = some payload := by
  unfold verifyAccessToken at h
  split at h
  · next header body signature hsplit =>
      rw [accessPayload, hsplit]
      split_ifs at h
      split at h
      · cases h
      · next hparse =>
          dsimp only at h
          split_ifs at h
          rw [← Option.some.inj h]
          exact hparse
  · cases h

theorem requireBearer_live (input : BearerInput) (store : Store) :
    (requireBearer p env input store).2.live = store.live ∨
      ∃ id, input.namedSession p = some id ∧ (requireBearer p env input store).2.live =
        (touchSession id input.touched.ms store.live).live store.live := by
  rw [requireBearer]
  split
  · exact Or.inl rfl
  · rename_i accessToken htoken
    split
    · exact Or.inl rfl
    · rename_i payload hverify
      refine Or.inr ⟨textOrEmpty (payload.get (js "sid")), ?_, ?_⟩
      · rw [BearerInput.namedSession, htoken, Option.bind_eq_bind, Option.bind_some,
          accessPayload_of_verify hverify]
        rfl
      · rw [← store.run_live _ input.writes]
        dsimp only
        generalize store.run _ _ = result
        obtain ⟨result, store'⟩ := result
        rcases result with e | _ <;> rfl

theorem call_live {α : Type} (store : Store) (op : Live → Effect α) (writes : Bool)
    (reply : α → OAuthReply) :
    (store.call op writes reply).2.live = (op store.live).live store.live := by
  rw [← store.run_live op writes, Store.call]
  generalize store.run op writes = result
  obtain ⟨result, store'⟩ := result
  rcases result with e | _ <;> rfl

end Memory

end RemoteOps

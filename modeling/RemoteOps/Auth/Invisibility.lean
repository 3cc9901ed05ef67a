import RemoteOps.Auth.Lockstep

/-!
# Housekeeping that nobody notices

Two runs of the service get the same inputs, one from a reachable store and one from the same
store after housekeeping. As long as housekeeping spares the clients of codes, the runs agree
on every unexpired artefact (`agrees_after`) and answer alike about it
(`housekeepingIsInvisible`). A client that asks for a code near the end of its own pending
time is not spared.
-/

namespace RemoteOps

open Ecma Transition

/-! ## One step -/

section Step

variable {p : Platform} {upper : UpperCase} {env : ServiceEnv} {t : ℤ} {artefact : Artefact}
  {s : Store × Store} {names : List JsString} {i : ServiceInput} {live live' : Live}

/-! ### The base -/

theorem frame_register {oenv : OAuthEnv} (input : RegisterInput) (store : Store) :
    FrameKept store.live (register p oenv input store).2.live := by
  rcases @register_live p oenv input store with hlive | ⟨uris, hlive⟩
  · rw [hlive]
    exact FrameKept.refl _
  · obtain ⟨clients, hclients, -⟩ :=
      registerClient_live oenv.store (input.client uris) input.pruned.ms store.live
    rw [hlive, hclients]
    exact ⟨rfl, rfl, rfl⟩

theorem frame_authorizeSubmit {oenv : OAuthEnv} (input : SubmitInput) (store : Store) :
    FrameKept store.live (authorizeSubmit p oenv input store).2.live := by
  rcases @authorizeSubmit_live p oenv input store with hlive | ⟨code, hlive⟩
  · rw [hlive]
    exact FrameKept.refl _
  · rw [hlive]
    exact ⟨rfl, rfl, rfl⟩

theorem frame_requireBearer {oenv : OAuthEnv} (input : BearerInput) (store : Store) :
    FrameKept store.live (requireBearer p oenv input store).2.live := by
  rcases @requireBearer_live p oenv input store with hlive | ⟨id, -, hlive⟩
  · rw [hlive]
    exact FrameKept.refl _
  · rw [hlive]
    exact (touches_touchSession id _ _).frame

theorem AgreesBase.reloaded {a b : Live} (h : AgreesBase t a b) :
    AgreesBase t a.reloaded b.reloaded :=
  ⟨rfl, h.devices, h.pairings⟩

theorem createPairing_live (info : PairingMeta) (draws : PairingDraws) (now : ℤ) (writes : Bool)
    (penv : PairingEnv) (store : Store) :
    (store.createPairing p upper penv info draws now writes).2.live =
      (startPairing p upper penv info draws now (dropStalePairings now store.live)).live
        (dropStalePairings now store.live) :=
  Store.run_live _ _ _

/-- A pairing call that does no housekeeping leaves the OAuth tables alone. -/
theorem keepsOAuth_pairing {penv : PairingEnv} (i : PairingInput)
    (h : (ServiceInput.pairing i).housekeepingTime = none) (store : Store) :
    KeepsOAuth store.live (i.step p upper penv store).2.live := by
  cases i with
  | create info draws now writes =>
      rw [PairingInput.step, answered_snd, createPairing_live]
      have hdropped : KeepsOAuth store.live (dropStalePairings now store.live) :=
        ⟨rfl, rfl, rfl, rfl⟩
      exact hdropped.trans (keepsOAuth_startPairing info draws now _)
  | approve code now writes =>
      rw [PairingInput.step, answered_snd, Store.run_live]
      exact keepsOAuth_approvePairing code now _
  | claim pairingId pollToken draw now writes =>
      rw [PairingInput.step, answered_snd, Store.run_live]
      exact keepsOAuth_claimPairing pairingId pollToken draw now _
  | revokeDevice id now writes =>
      rw [PairingInput.step, answered_snd, Store.run_live]
      exact keepsOAuth_revokeDevice id now _
  | _ => cases h

/-- The two runs agree outside clients, codes and sessions after the same input. -/
theorem base_step (h : AgreesBase t s.1.live s.2.live) (hs : s.1.Tidy p names)
    (hs' : s.2.Tidy p names) (hi : Undisturbed p env.oauth.store t artefact s i) :
    AgreesBase t (i.step p upper env s.1).2.live (i.step p upper env s.2).2.live := by
  cases i with
  | oauth i =>
      cases i with
      | register input => exact h.kept (frame_register input _) (frame_register input _)
      | submit input => exact h.kept (frame_authorizeSubmit input _) (frame_authorizeSubmit input _)
      | token input => exact h.kept (tokenLive_token input _).frame (tokenLive_token input _).frame
      | bearer input => exact h.kept (frame_requireBearer input _) (frame_requireBearer input _)
      | touchSession id now writes =>
          simp only [ServiceInput.step, OAuthInput.step, call_live]
          exact h.kept (touches_touchSession id _ _).frame (touches_touchSession id _ _).frame
      | purgeState now writes =>
          simp only [ServiceInput.step, OAuthInput.step, call_live, purgeState_live]
          exact h.purge env.oauth.store now.ms
      | revokeClient c now writes =>
          simp only [ServiceInput.step, OAuthInput.step, call_live]
          exact h.revokeClient c now.ms hs.memory.plainClients hs'.memory.plainClients
      | revokeAllClients now writes =>
          simp only [ServiceInput.step, OAuthInput.step, call_live]
          exact h.kept ⟨rfl, rfl, rfl⟩ ⟨rfl, rfl, rfl⟩
      | revokeSession id now writes =>
          simp only [ServiceInput.step, OAuthInput.step, call_live]
          exact h.revokeSession id now.ms hs.memory.plainSessions hs'.memory.plainSessions
      | revokeAllSessions now writes =>
          simp only [ServiceInput.step, OAuthInput.step, call_live]
          exact h.kept ⟨rfl, rfl, rfl⟩ ⟨rfl, rfl, rfl⟩
      | revokeDevice id now writes =>
          simp only [ServiceInput.step, OAuthInput.step, call_live]
          exact h.revokeDevice id now.ms
      | restart now =>
          obtain ⟨hfile, hfile'⟩ := hi.synced rfl
          simp only [ServiceInput.step, OAuthInput.step, restart_live _ _ hfile,
            restart_live _ _ hfile']
          exact h.reloaded.purge env.oauth.store now.ms
  | pairing i =>
      cases i with
      | create info draws now writes =>
          simp only [ServiceInput.step, PairingInput.step, answered_snd, createPairing_live]
          obtain ⟨hnew, hnew'⟩ := hi.drawn info draws now writes rfl
          have hdropped : ∀ live : Live, live.state.pairings.get? draws.pairingId.text = none →
              (dropStalePairings now live).state.pairings.get? draws.pairingId.text = none := by
            intro live hlive
            simp only [dropStalePairings, Record.get?_filter, hlive, Option.filter_none]
          exact (startPairing_agrees (h.dropStale now) (hi.later now rfl) info draws
            (hdropped _ hnew) (hdropped _ hnew')).live
      | approve code now writes =>
          simp only [ServiceInput.step, PairingInput.step, answered_snd, Store.run_live]
          exact (approvePairing_agrees h (hi.later now rfl) code).live
      | claim pairingId pollToken draw now writes =>
          simp only [ServiceInput.step, PairingInput.step, answered_snd, Store.run_live]
          exact h.claimPairing (hi.later now rfl) pairingId pollToken draw
      | revokeDevice id now writes =>
          simp only [ServiceInput.step, PairingInput.step, answered_snd, Store.run_live]
          exact h.revokeDevice id now
      | purgeState now writes =>
          simp only [ServiceInput.step, PairingInput.step, answered_snd, Store.run_live,
            purgeState_live]
          exact h.purge env.oauth.store now
      | restart now =>
          obtain ⟨hfile, hfile'⟩ := hi.synced rfl
          simp only [ServiceInput.step, PairingInput.step]
          erw [restart_live _ _ hfile, restart_live _ _ hfile']
          exact h.reloaded.purge env.oauth.store now

/-! ### Codes -/

theorem AgreesOnCode.reloaded {hash : JsString} {a b : Live} (h : AgreesOnCode hash a b) :
    AgreesOnCode hash a.reloaded b.reloaded :=
  ⟨h.code, h.client⟩

theorem keepsCode_register {hash : JsString} {oenv : OAuthEnv} {input : RegisterInput}
    {store : Store}
    (hnew : ∀ code, store.live.state.authCodes.get? hash = some code →
      code.clientId ≠ randomId "ro" input.id)
    (hspared : ∀ code, store.live.state.authCodes.get? hash = some code →
      SparesClient oenv.store store.live input.pruned.ms code.clientId) :
    KeepsCode hash store.live (register p oenv input store).2.live := by
  rcases @register_live p oenv input store with hlive | ⟨uris, hlive⟩
  · rw [hlive]
    exact KeepsCode.refl hash _
  · rw [hlive]
    exact keepsCode_registerClient hnew hspared

theorem keepsCode_submit {hash : JsString} {oenv : OAuthEnv} {input : SubmitInput} {store : Store}
    (hne : hash ≠ p.digest (randomId "code" input.code)) :
    KeepsCode hash store.live (authorizeSubmit p oenv input store).2.live := by
  rcases @authorizeSubmit_live p oenv input store with hlive | ⟨code, hlive⟩
  · rw [hlive]
    exact KeepsCode.refl hash _
  · rw [hlive]
    exact keepsCode_putAuthCode hne code

theorem keepsCode_requireBearer {hash : JsString} {oenv : OAuthEnv} (input : BearerInput)
    (store : Store) : KeepsCode hash store.live (requireBearer p oenv input store).2.live := by
  rcases @requireBearer_live p oenv input store with hlive | ⟨id, -, hlive⟩
  · rw [hlive]
    exact KeepsCode.refl hash _
  · rw [hlive]
    exact (touches_touchSession id _ _).keepsCode

theorem keepsCode_revokeSession {hash : JsString} (id : JsString) (now : ℤ) (live : Live) :
    KeepsCode hash live ((revokeSession id now live).live live) := by
  obtain ⟨hclients, hcodes, -⟩ := clients_revokeSession id now live
  exact ⟨by rw [hcodes], fun _ _ => clientMark_of_clients hclients _⟩

/-- The two runs agree on the code after the same input. -/
theorem code_step {hash : JsString} (hp : p.CollisionFree) (h : AgreesOnCode hash s.1.live s.2.live)
    (hbase : AgreesBase t s.1.live s.2.live) (hs : s.1.Tidy p names) (hs' : s.2.Tidy p names)
    (hdrawn : ∃ n ∈ names, hash = p.digest n) (hnew : ∀ n ∈ i.names, n ∉ names)
    (hi : Undisturbed p env.oauth.store t (.code hash) s i) :
    AgreesOnCode hash (i.step p upper env s.1).2.live (i.step p upper env s.2).2.live := by
  have hspared : ∀ now ∈ i.housekeepingTime,
      (∀ code, s.1.live.state.authCodes.get? hash = some code →
        SparesClient env.oauth.store s.1.live now code.clientId) ∧
      (∀ code, s.2.live.state.authCodes.get? hash = some code →
        SparesClient env.oauth.store s.2.live now code.clientId) :=
    fun now hnow => ⟨fun code hcode => (hi.spared now hnow hash code rfl).1 hcode,
      fun code hcode => (hi.spared now hnow hash code rfl).2 hcode⟩
  have hclient : ∀ n ∈ i.names, ∀ s : PersistentState, RemoteOps.Tidy p names s →
      ∀ code, s.authCodes.get? hash = some code → code.clientId ≠ n := by
    rintro n hn s htidy code hcode rfl
    exact hnew _ hn (htidy.sound.codes hash code hcode).1
  cases i with
  | oauth i =>
      cases i with
      | register input =>
          obtain ⟨hspared, hspared'⟩ := hspared _ rfl
          have hid : randomId "ro" input.id ∈ ServiceInput.names (.oauth (.register input)) :=
            List.mem_singleton.mpr rfl
          exact h.kept (keepsCode_register (hclient _ hid _ hs.memory) hspared)
            (keepsCode_register (hclient _ hid _ hs'.memory) hspared')
      | submit input =>
          obtain ⟨n, hn, rfl⟩ := hdrawn
          have hid : randomId "code" input.code ∈ (OAuthInput.submit input).names :=
            List.mem_singleton.mpr rfl
          have hne : p.digest n ≠ p.digest (randomId "code" input.code) := by
            intro heq
            exact hnew _ hid (OAuthInput.eq_of_digest hp hid heq.symm ▸ hn)
          exact h.kept (keepsCode_submit hne) (keepsCode_submit hne)
      | token input =>
          refine h.token (tokenLive_token input s.1) (tokenLive_token input s.2) ?_
          rw [TokenInput.Consumes, TokenInput.Consumes, and_congr_left_iff]
          rintro ⟨-, hcode⟩
          rw [hi.presented hash input rfl rfl hcode]
      | bearer input =>
          exact h.kept (keepsCode_requireBearer input _) (keepsCode_requireBearer input _)
      | touchSession id now writes =>
          simp only [ServiceInput.step, OAuthInput.step, call_live]
          exact h.kept (touches_touchSession id _ _).keepsCode (touches_touchSession id _ _).keepsCode
      | purgeState now writes =>
          simp only [ServiceInput.step, OAuthInput.step, call_live, purgeState_live]
          exact h.purge (hspared _ rfl).1 (hspared _ rfl).2
      | revokeClient c now writes =>
          simp only [ServiceInput.step, OAuthInput.step, call_live]
          exact h.revokeClient c
      | revokeAllClients now writes =>
          simp only [ServiceInput.step, OAuthInput.step, call_live]
          exact h.revokeAllClients hbase.realm
      | revokeSession id now writes =>
          simp only [ServiceInput.step, OAuthInput.step, call_live]
          exact h.kept (keepsCode_revokeSession id _ _) (keepsCode_revokeSession id _ _)
      | revokeAllSessions now writes =>
          simp only [ServiceInput.step, OAuthInput.step, call_live]
          exact h.kept ⟨rfl, fun _ _ => rfl⟩ ⟨rfl, fun _ _ => rfl⟩
      | revokeDevice id now writes =>
          simp only [ServiceInput.step, OAuthInput.step, call_live]
          exact h.kept (keepsOAuth_revokeDevice id _ _).keepsCode
            (keepsOAuth_revokeDevice id _ _).keepsCode
      | restart now =>
          obtain ⟨hfile, hfile'⟩ := hi.synced rfl
          simp only [ServiceInput.step, OAuthInput.step, restart_live _ _ hfile,
            restart_live _ _ hfile']
          exact h.reloaded.purge (hspared _ rfl).1 (hspared _ rfl).2
  | pairing i =>
      cases i with
      | purgeState now writes =>
          simp only [ServiceInput.step, PairingInput.step, answered_snd, Store.run_live,
            purgeState_live]
          exact h.purge (hspared _ rfl).1 (hspared _ rfl).2
      | restart now =>
          obtain ⟨hfile, hfile'⟩ := hi.synced rfl
          simp only [ServiceInput.step, PairingInput.step]
          erw [restart_live _ _ hfile, restart_live _ _ hfile']
          exact h.reloaded.purge (hspared _ rfl).1 (hspared _ rfl).2
      | _ => exact h.kept (keepsOAuth_pairing _ rfl _).keepsCode (keepsOAuth_pairing _ rfl _).keepsCode

/-! ### Sessions -/

theorem keepsSession_register {id : JsString} {oenv : OAuthEnv} {input : RegisterInput}
    {store : Store}
    (hnew : ∀ x, store.live.state.sessions.get? id = some x →
      x.clientId ≠ randomId "ro" input.id) :
    KeepsSession id store.live (register p oenv input store).2.live := by
  rcases @register_live p oenv input store with hlive | ⟨uris, hlive⟩
  · rw [hlive]
    exact KeepsSession.refl id _
  · rw [hlive]
    exact keepsSession_registerClient hnew

theorem keepsSession_submit {id : JsString} {oenv : OAuthEnv} (input : SubmitInput)
    (store : Store) : KeepsSession id store.live (authorizeSubmit p oenv input store).2.live := by
  rcases @authorizeSubmit_live p oenv input store with hlive | ⟨code, hlive⟩
  · rw [hlive]
    exact KeepsSession.refl id _
  · rw [hlive]
    exact ⟨rfl, rfl, fun _ _ => rfl⟩

/-- A token for the session verifies in both runs or in neither. -/
theorem verifyAccessToken_agrees (oenv : OAuthEnv) {id token : JsString} {a b : Live}
    (h : AgreesOnSession id a b) (hrealm : a.realm = b.realm) (now active : TimeValue)
    (hid : (accessPayload p token).map (fun payload => textOrEmpty (payload.get (js "sid"))) =
      some id) :
    verifyAccessToken p oenv token now active a = verifyAccessToken p oenv token now active b := by
  have hactive : ∀ clientId, sessionIsActive id clientId active.ms a =
      sessionIsActive id clientId active.ms b := by
    intro clientId
    rw [sessionIsActive, sessionIsActive, ← h.session, ← hrealm]
    cases hget : a.state.sessions.get? id with
    | none => rfl
    | some x =>
        dsimp only
        by_cases hclient : x.clientId = clientId
        · rw [← hclient, clientIsUsable_agrees hrealm (h.client x hget)]
        · rw [decide_eq_false hclient, Bool.false_and, Bool.false_and, Bool.false_and,
            Bool.false_and]
  unfold verifyAccessToken
  unfold accessPayload at hid
  split
  · next header body signature hsplit =>
      rw [hsplit] at hid
      dsimp only at hid
      cases hparse : parse (p.fromUtf8 (p.fromBase64url body)) with
      | none => rfl
      | some payload =>
          rw [hparse, Option.map_some] at hid
          dsimp only
          rw [Option.some.inj hid, hactive]
  · rfl

/-- What a bearer request does once its token has been looked at. -/
theorem requireBearer_eq (oenv : OAuthEnv) {input : BearerInput} {accessToken : JsString}
    (h : bearerToken input.authorization = some accessToken) (store : Store) :
    (requireBearer p oenv input store).1 =
        (match verifyAccessToken p oenv accessToken input.now input.active store.live with
          | none => unauthorized
          | some payload =>
              match (touchSession (textOrEmpty (payload.get (js "sid"))) input.touched.ms
                store.live).result input.writes with
              | .error e => .failed e
              | .ok _ => .authorized ⟨js "oauth:" ++ textOrEmpty (payload.get (js "cid")) ++ js ":" ++
                  (textOrEmpty (payload.get (js "sid"))).take 12,
                  textOrEmpty (payload.get (js "cid")), textOrEmpty (payload.get (js "sid"))⟩) ∧
      (requireBearer p oenv input store).2.live =
        (match verifyAccessToken p oenv accessToken input.now input.active store.live with
          | none => store.live
          | some payload =>
              (touchSession (textOrEmpty (payload.get (js "sid"))) input.touched.ms
                store.live).live store.live) := by
  rw [requireBearer, h]
  dsimp only
  cases verifyAccessToken p oenv accessToken input.now input.active store.live with
  | none => exact ⟨rfl, rfl⟩
  | some payload =>
      dsimp only
      rw [← Store.run_result, ← Store.run_live _ _ input.writes]
      generalize store.run _ _ = result
      obtain ⟨result, store'⟩ := result
      rcases result with e | _ <;> exact ⟨rfl, rfl⟩

/-- The token of a bearer request that names the session. -/
theorem exists_token_of_named {id : JsString} {input : BearerInput}
    (h : input.namedSession p = some id) :
    ∃ accessToken, bearerToken input.authorization = some accessToken ∧
      (accessPayload p accessToken).map (fun payload => textOrEmpty (payload.get (js "sid"))) =
        some id := by
  rw [BearerInput.namedSession, Option.bind_eq_bind, Option.bind_eq_some_iff] at h
  obtain ⟨accessToken, htoken, hpayload⟩ := h
  refine ⟨accessToken, htoken, ?_⟩
  cases haccess : accessPayload p accessToken with
  | none =>
      rw [haccess] at hpayload
      cases hpayload
  | some payload =>
      rw [haccess] at hpayload
      exact hpayload

/-- The session of a verified token is the one it names. -/
theorem session_of_verify {oenv : OAuthEnv} {id accessToken : JsString} {now active : TimeValue}
    {live : Live} {payload : Json}
    (hid : (accessPayload p accessToken).map (fun payload => textOrEmpty (payload.get (js "sid"))) =
      some id)
    (h : verifyAccessToken p oenv accessToken now active live = some payload) :
    textOrEmpty (payload.get (js "sid")) = id := by
  rw [accessPayload_of_verify h, Option.map_some] at hid
  exact Option.some.inj hid

theorem AgreesOnSession.bearer {oenv : OAuthEnv} {id : JsString} {store store' : Store}
    (h : AgreesOnSession id store.live store'.live)
    (hrealm : store.live.realm = store'.live.realm) (input : BearerInput) :
    AgreesOnSession id (requireBearer p oenv input store).2.live
      (requireBearer p oenv input store').2.live := by
  by_cases hnamed : input.namedSession p = some id
  · obtain ⟨accessToken, htoken, hid⟩ := exists_token_of_named hnamed
    have hverify := verifyAccessToken_agrees oenv h hrealm input.now input.active hid
    rw [(requireBearer_eq oenv htoken store).2, (requireBearer_eq oenv htoken store').2, hverify]
    split
    · exact h
    · rename_i payload hpayload
      rw [session_of_verify hid hpayload]
      exact h.touch hrealm _
  · have hkeeps : ∀ store : Store,
        KeepsSession id store.live (requireBearer p oenv input store).2.live := by
      intro store
      rcases @requireBearer_live p oenv input store with hlive | ⟨other, hid, hlive⟩
      · rw [hlive]
        exact KeepsSession.refl id _
      · rw [hlive]
        apply keepsSession_touch
        rintro rfl
        exact hnamed hid
    exact h.kept (hkeeps _) (hkeeps _)

/-- The two runs agree on the session after the same input. -/
theorem session_step {id : JsString} (h : AgreesOnSession id s.1.live s.2.live)
    (hbase : AgreesBase t s.1.live s.2.live) (hs : s.1.Tidy p names) (hs' : s.2.Tidy p names)
    (hdrawn : id ∈ names) (hnew : ∀ n ∈ i.names, n ∉ names)
    (hi : Undisturbed p env.oauth.store t (.session id) s i) :
    AgreesOnSession id (i.step p upper env s.1).2.live (i.step p upper env s.2).2.live := by
  have hclient : ∀ n ∈ i.names, ∀ s : PersistentState, RemoteOps.Tidy p names s →
      ∀ x, s.sessions.get? id = some x → x.clientId ≠ n := by
    rintro n hn s htidy x hx rfl
    exact hnew _ hn (htidy.sound.sessions id x hx).2.2.1
  cases i with
  | oauth i =>
      cases i with
      | register input =>
          have hid : randomId "ro" input.id ∈ ServiceInput.names (.oauth (.register input)) :=
            List.mem_singleton.mpr rfl
          exact h.kept (keepsSession_register (hclient _ hid _ hs.memory))
            (keepsSession_register (hclient _ hid _ hs'.memory))
      | submit input => exact h.kept (keepsSession_submit input _) (keepsSession_submit input _)
      | token input =>
          have hid : input.newSessionId ∈ (OAuthInput.token input).names := List.mem_cons_self
          have hne : id ≠ input.newSessionId := by
            rintro rfl
            exact hnew _ hid hdrawn
          exact h.token hbase.realm hne hs.memory.keyed hs'.memory.keyed hs.memory.distinct
            hs'.memory.distinct
      | bearer input => exact h.bearer hbase.realm input
      | touchSession other now writes =>
          simp only [ServiceInput.step, OAuthInput.step, call_live]
          by_cases hid : id = other
          · subst hid
            exact h.touch hbase.realm now.ms
          · exact h.kept (keepsSession_touch hid _ _) (keepsSession_touch hid _ _)
      | purgeState now writes =>
          simp only [ServiceInput.step, OAuthInput.step, call_live, purgeState_live]
          exact h.purge hbase.realm
      | revokeClient c now writes =>
          simp only [ServiceInput.step, OAuthInput.step, call_live]
          exact h.revokeClient hbase.realm c
      | revokeAllClients now writes =>
          simp only [ServiceInput.step, OAuthInput.step, call_live]
          exact h.revokeAllClients hbase.realm
      | revokeSession other now writes =>
          simp only [ServiceInput.step, OAuthInput.step, call_live]
          exact h.revokeSession hbase.realm other
      | revokeAllSessions now writes =>
          simp only [ServiceInput.step, OAuthInput.step, call_live]
          exact h.revokeAllSessions hbase.realm
      | revokeDevice deviceId now writes =>
          simp only [ServiceInput.step, OAuthInput.step, call_live]
          exact h.kept (keepsOAuth_revokeDevice deviceId _ _).keepsSession
            (keepsOAuth_revokeDevice deviceId _ _).keepsSession
      | restart now =>
          obtain ⟨hfile, hfile'⟩ := hi.synced rfl
          simp only [ServiceInput.step, OAuthInput.step, restart_live _ _ hfile,
            restart_live _ _ hfile']
          exact h.reloaded.purge rfl
  | pairing i =>
      cases i with
      | purgeState now writes =>
          simp only [ServiceInput.step, PairingInput.step, answered_snd, Store.run_live,
            purgeState_live]
          exact h.purge hbase.realm
      | restart now =>
          obtain ⟨hfile, hfile'⟩ := hi.synced rfl
          simp only [ServiceInput.step, PairingInput.step]
          erw [restart_live _ _ hfile, restart_live _ _ hfile']
          exact h.reloaded.purge rfl
      | _ =>
          exact h.kept (keepsOAuth_pairing _ rfl _).keepsSession
            (keepsOAuth_pairing _ rfl _).keepsSession

/-! ### Pairings -/

/-- Every pairing is one from before, or has not expired at `t`. -/
def PairingsFrom (t : ℤ) (live live' : Live) : Prop :=
  ∀ k x', live'.state.pairings.get? k = some x' → t ≤ x'.expiresAt ∨
    ∃ x, live.state.pairings.get? k = some x ∧ x'.expiresAt = x.expiresAt

theorem pairingsFrom_of_subset
    (h : ∀ k x, live'.state.pairings.get? k = some x → live.state.pairings.get? k = some x) :
    PairingsFrom t live live' :=
  fun k x hx => Or.inr ⟨x, h k x hx, rfl⟩

theorem FrameKept.pairingsFrom (h : FrameKept live live') : PairingsFrom t live live' :=
  pairingsFrom_of_subset fun _ _ hx => h.pairings ▸ hx

theorem pairingsFrom_set {k : JsString} {x : StoredPairing}
    (h : live'.state.pairings = live.state.pairings.set k x)
    (hx : t ≤ x.expiresAt ∨
      ∃ y, live.state.pairings.get? k = some y ∧ x.expiresAt = y.expiresAt) :
    PairingsFrom t live live' := by
  intro k' x' hx'
  rw [h, Record.get?_set] at hx'
  split_ifs at hx' with hk
  · rw [hk, ← Option.some.inj hx']
    exact hx
  · exact Or.inr ⟨x', hx', rfl⟩

theorem RecentPairing.step {id : JsString} {a b a' b' : Live} (h : RecentPairing t id a b)
    (ha : PairingsFrom t a a') (hb : PairingsFrom t b b') : RecentPairing t id a' b' where
  left x' hx' := by
    rcases ha id x' hx' with hrecent | ⟨x, hx, heq⟩
    · exact hrecent
    · rw [heq]
      exact h.left x hx
  right x' hx' := by
    rcases hb id x' hx' with hrecent | ⟨x, hx, heq⟩
    · exact hrecent
    · rw [heq]
      exact h.right x hx

theorem pairingsFrom_purged (storeEnv : StoreEnv) (now : ℤ) (live : Live) :
    PairingsFrom t live { live with state := (purged storeEnv now live).1 } :=
  pairingsFrom_of_subset fun _ _ hx => (Record.get?_of_get?_filter hx).1

theorem pairingsFrom_revokeDevice (deviceId : JsString) (now : ℤ) (live : Live) :
    PairingsFrom t live ((revokeDevice deviceId now live).live live) := by
  apply pairingsFrom_of_subset
  intro k x hx
  unfold revokeDevice at hx
  split at hx
  · exact hx
  · split_ifs at hx <;> exact hx
  · split_ifs at hx
    · split at hx <;> exact hx
    · exact hx

theorem pairingsFrom_call {penv : PairingEnv} (i : PairingInput) (store : Store)
    (hlater : ∀ now ∈ (ServiceInput.pairing i).pairingTime, t ≤ now)
    (hsynced : (ServiceInput.pairing i).isRestart = true → store.file = store.live.state) :
    PairingsFrom t store.live (i.step p upper penv store).2.live := by
  cases i with
  | create info draws now writes =>
      rw [PairingInput.step, answered_snd, createPairing_live]
      have hdropped : PairingsFrom t store.live (dropStalePairings now store.live) :=
        pairingsFrom_of_subset fun _ _ hx => (Record.get?_of_get?_filter hx).1
      unfold startPairing
      split_ifs
      · exact hdropped
      · exact hdropped
      · split
        · exact hdropped
        · rename_i code _
          intro k x hx
          rw [Effect.live, Record.get?_set] at hx
          split_ifs at hx with hk
          · left
            rw [← Option.some.inj hx]
            exact (hlater now rfl).trans (le_add_of_nonneg_right (by positivity))
          · exact hdropped k x hx
  | approve code now writes =>
      rw [PairingInput.step, answered_snd, Store.run_live]
      unfold approvePairingByCode
      split
      · exact pairingsFrom_of_subset fun _ _ hx => hx
      · rename_i k x hfound
        exact pairingsFrom_set rfl (Or.inr ⟨x, (Record.find?_some hfound).1, rfl⟩)
  | claim pairingId pollToken draw now writes =>
      rw [PairingInput.step, answered_snd, Store.run_live]
      unfold claimPairing
      split
      · exact pairingsFrom_of_subset fun _ _ hx => hx
      · rename_i x hget
        split_ifs
        · exact pairingsFrom_of_subset fun _ _ hx => hx
        · exact pairingsFrom_of_subset fun _ _ hx => hx
        · exact pairingsFrom_of_subset fun _ _ hx => hx
        · split
          · exact pairingsFrom_of_subset fun _ _ hx => hx
          · exact pairingsFrom_set rfl (Or.inr ⟨x, hget, rfl⟩)
  | revokeDevice deviceId now writes =>
      rw [PairingInput.step, answered_snd, Store.run_live]
      exact pairingsFrom_revokeDevice deviceId now _
  | purgeState now writes =>
      rw [PairingInput.step, answered_snd, Store.run_live, purgeState_live]
      exact pairingsFrom_purged _ _ _
  | restart now =>
      rw [PairingInput.step, restart_live _ _ (hsynced rfl)]
      exact pairingsFrom_purged penv.store now store.live.reloaded

theorem pairingsFrom_step (store : Store) (hlater : ∀ now ∈ i.pairingTime, t ≤ now)
    (hsynced : i.isRestart = true → store.file = store.live.state) :
    PairingsFrom t store.live (i.step p upper env store).2.live := by
  cases i with
  | oauth i =>
      cases i with
      | register input => exact (frame_register input store).pairingsFrom
      | submit input => exact (frame_authorizeSubmit input store).pairingsFrom
      | token input => exact (tokenLive_token input store).frame.pairingsFrom
      | bearer input => exact (frame_requireBearer input store).pairingsFrom
      | touchSession id now writes =>
          simp only [ServiceInput.step, OAuthInput.step, call_live]
          exact (touches_touchSession id _ _).frame.pairingsFrom
      | purgeState now writes =>
          simp only [ServiceInput.step, OAuthInput.step, call_live, purgeState_live]
          exact pairingsFrom_purged _ _ _
      | revokeClient c now writes =>
          simp only [ServiceInput.step, OAuthInput.step, call_live]
          exact pairingsFrom_of_subset fun _ _ hx => (revokeClient_frame c now.ms _).2 ▸ hx
      | revokeSession id now writes =>
          simp only [ServiceInput.step, OAuthInput.step, call_live]
          exact pairingsFrom_of_subset fun _ _ hx => (revokeSession_frame id now.ms _).2.2 ▸ hx
      | revokeDevice id now writes =>
          simp only [ServiceInput.step, OAuthInput.step, call_live]
          exact pairingsFrom_revokeDevice id _ _
      | restart now =>
          simp only [ServiceInput.step, OAuthInput.step, restart_live _ _ (hsynced rfl)]
          exact pairingsFrom_purged env.oauth.store now.ms store.live.reloaded
      | _ =>
          simp only [ServiceInput.step, OAuthInput.step, call_live]
          exact pairingsFrom_of_subset fun _ _ hx => hx
  | pairing i => exact pairingsFrom_call i store hlater hsynced

/-! ### Any artefact -/

/-- The names that the artefact goes by were drawn. -/
def Artefact.Drawn (p : Platform) (names : List JsString) : Artefact → Prop
  | code hash => ∃ n ∈ names, hash = p.digest n
  | session id => id ∈ names
  | pairing _ => True

theorem Artefact.Drawn.mono {names' : List JsString} (h : artefact.Drawn p names)
    (hsub : names ⊆ names') : artefact.Drawn p names' := by
  cases artefact with
  | code hash =>
      obtain ⟨n, hn, heq⟩ := h
      exact ⟨n, hsub hn, heq⟩
  | session id => exact hsub h
  | pairing id => trivial

theorem agrees_step (hp : p.CollisionFree) (h : Agrees t artefact s.1.live s.2.live)
    (hs : s.1.Tidy p names) (hs' : s.2.Tidy p names) (hdrawn : artefact.Drawn p names)
    (hnew : ∀ n ∈ i.names, n ∉ names) (hi : Undisturbed p env.oauth.store t artefact s i) :
    Agrees t artefact (i.step p upper env s.1).2.live (i.step p upper env s.2).2.live := by
  refine ⟨base_step h.base hs hs' hi, ?_⟩
  cases artefact with
  | code hash => exact code_step hp h.own h.base hs hs' hdrawn hnew hi
  | session id => exact session_step h.own h.base hs hs' hdrawn hnew hi
  | pairing id =>
      apply RecentPairing.step h.own
      · exact pairingsFrom_step s.1 hi.later fun hrestart => (hi.synced hrestart).1
      · exact pairingsFrom_step s.2 hi.later fun hrestart => (hi.synced hrestart).2

end Step

/-! ## The answers -/

section Answers

variable {p : Platform} {upper : UpperCase} {env : ServiceEnv} {t : ℤ} {store store' : Store}

theorem reply_issueNewSession (oenv : OAuthEnv) (input : TokenInput) (clientId resource : JsString)
    (store : Store) :
    (issueNewSession p oenv input clientId resource store).1 =
      if input.writesSession then
        .tokens (tokenResponse p oenv input clientId input.newSessionId resource)
      else .failed writeError := by
  rw [issueNewSession, Store.run, createSession]
  dsimp only
  split_ifs <;> rfl

/-- What a code is traded for depends on the code that is found. -/
theorem reply_grantAuthorizationCode (oenv : OAuthEnv) {input : TokenInput}
    (h : store.live.state.authCodes.get? (p.digest input.code) =
      store'.live.state.authCodes.get? (p.digest input.code)) :
    (grantAuthorizationCode p oenv input store).1 =
      (grantAuthorizationCode p oenv input store').1 := by
  have hresult : (store.run (consumeAuthCode p.digest input.code input.consumed.ms)
      input.writesCode).1 =
        (store'.run (consumeAuthCode p.digest input.code input.consumed.ms) input.writesCode).1 := by
    rw [Store.run_result, Store.run_result, consumeAuthCode, consumeAuthCode, h]
    dsimp only
    cases store'.live.state.authCodes.get? (p.digest input.code) <;> rfl
  rw [grantAuthorizationCode, grantAuthorizationCode]
  generalize store.run _ _ = result at hresult ⊢
  generalize store'.run _ _ = result' at hresult ⊢
  obtain ⟨reply, after⟩ := result
  obtain ⟨reply', after'⟩ := result'
  obtain rfl : reply = reply' := hresult
  cases reply with
  | error e => rfl
  | ok code =>
      dsimp only
      split
      · rfl
      · rfl
      · split_ifs
        · rfl
        · rw [reply_issueNewSession, reply_issueNewSession]

theorem reply_code {hash : JsString} (oenv : OAuthEnv) (h : AgreesOnCode hash store.live store'.live)
    (hrealm : store.live.realm = store'.live.realm) {input : TokenInput}
    (hgrant : input.grantType = js "authorization_code") (hhash : p.digest input.code = hash)
    {code : StoredAuthCode} (hcode : store.live.state.authCodes.get? hash = some code)
    (hclient : code.clientId = input.clientId) :
    (token p oenv input store).1 = (token p oenv input store').1 := by
  have husable := clientIsUsable_agrees hrealm (h.client code hcode)
  rw [hclient] at husable
  have hsame := h.code
  rw [← hhash] at hsame
  rw [token, token, husable, if_pos hgrant, if_pos hgrant]
  split_ifs
  · rfl
  · exact reply_grantAuthorizationCode oenv hsame

theorem reply_refresh {id : JsString} (oenv : OAuthEnv)
    (h : AgreesOnSession id store.live store'.live)
    (hrealm : store.live.realm = store'.live.realm) (hkeys : SessionsKeyed store.live.state)
    (hdistinct : RefreshDistinct store.live.state)
    (hdistinct' : RefreshDistinct store'.live.state) {input : TokenInput}
    (hgrant : input.grantType = js "refresh_token") {x : StoredSession}
    (hx : store.live.state.sessions.get? id = some x)
    (hhash : x.refreshHash = p.digest input.refreshToken) (hclient : x.clientId = input.clientId) :
    (token p oenv input store).1 = (token p oenv input store').1 := by
  have hx' := hx
  rw [h.session] at hx'
  have husable := clientIsUsable_agrees hrealm (h.client x hx)
  rw [hclient] at husable
  have hid : x.sessionId = id := hkeys id x hx
  have hcode : input.grantType ≠ js "authorization_code" := by
    rw [hgrant]
    decide
  rw [token, token, husable, if_neg hcode, if_neg hcode, if_pos hgrant, if_pos hgrant]
  split_ifs
  · rfl
  · have hresult : (store.run (rotateRefreshToken p.digest x.sessionId input.newRefreshToken
        (input.now.ms + refreshTtlMs) (input.now.ms + accessTtlMs) input.now.ms)
          input.writesSession).1 =
        (store'.run (rotateRefreshToken p.digest x.sessionId input.newRefreshToken
          (input.now.ms + refreshTtlMs) (input.now.ms + accessTtlMs) input.now.ms)
            input.writesSession).1 := by
      rw [Store.run_result, Store.run_result, rotateRefreshToken, rotateRefreshToken, hid, hx, hx',
        hrealm]
      dsimp only
      split_ifs <;> rfl
    rw [grantRefreshToken, grantRefreshToken, find_of_get? hdistinct hx hhash,
      find_of_get? hdistinct' hx' hhash, hrealm]
    dsimp only
    split_ifs
    · rfl
    · generalize store.run _ _ = result at hresult ⊢
      generalize store'.run _ _ = result' at hresult ⊢
      obtain ⟨reply, after⟩ := result
      obtain ⟨reply', after'⟩ := result'
      obtain rfl : reply = reply' := hresult
      rcases reply with e | _ | _
      · rfl
      · rfl
      · dsimp only
        split
        · rfl
        · split_ifs <;> rfl

theorem reply_bearer {id : JsString} (oenv : OAuthEnv)
    (h : AgreesOnSession id store.live store'.live)
    (hrealm : store.live.realm = store'.live.realm) {input : BearerInput}
    (hnamed : input.namedSession p = some id) :
    (requireBearer p oenv input store).1 = (requireBearer p oenv input store').1 := by
  obtain ⟨accessToken, htoken, hid⟩ := exists_token_of_named hnamed
  have hverify := verifyAccessToken_agrees oenv h hrealm input.now input.active hid
  rw [(requireBearer_eq oenv htoken store).1, (requireBearer_eq oenv htoken store').1, hverify]
  split
  · rfl
  · rename_i payload hpayload
    have htouch : (touchSession id input.touched.ms store.live).result input.writes =
        (touchSession id input.touched.ms store'.live).result input.writes := by
      rw [touchSession, touchSession, h.session, h.touched, hrealm]
      cases store'.live.state.sessions.get? id with
      | none => rfl
      | some x =>
          dsimp only
          split_ifs <;> rfl
    rw [session_of_verify hid hpayload, htouch]

theorem reply_claim {id : JsString} (h : AgreesBase t store.live store'.live)
    (hown : RecentPairing t id store.live store'.live) {pollToken : JsString} {draw : RandomText}
    {now : ℤ} (writes : Bool) :
    (store.run (claimPairing p id pollToken draw now) writes).1 =
      (store'.run (claimPairing p id pollToken draw now) writes).1 := by
  rw [Store.run_result, Store.run_result]
  cases hget : (recentPairings t store.live).get? id with
  | some x =>
      have hx : t ≤ x.expiresAt := of_decide_eq_true (Record.get?_of_get?_filter hget).2
      exact (claimPairing_agrees h hget hx pollToken draw).result writes
  | none =>
      have hnone : ∀ live : Live, (∀ x, live.state.pairings.get? id = some x → t ≤ x.expiresAt) →
          (recentPairings t live).get? id = none → live.state.pairings.get? id = none := by
        intro live hrecent hlive
        cases hx : live.state.pairings.get? id with
        | none => rfl
        | some x =>
            rw [(get?_recentPairings (hrecent x hx)).mp hx] at hlive
            cases hlive
      have hleft := hnone _ hown.left hget
      rw [h.pairings] at hget
      rw [claimPairing, claimPairing, hleft, hnone _ hown.right hget]

theorem answered_fst {α : Type} (reply : α → PairingReply) {r r' : Except JsString α × Store}
    (h : r.1 = r'.1) : (answered reply r).1 = (answered reply r').1 := by
  obtain ⟨result, store⟩ := r
  obtain ⟨result', store'⟩ := r'
  obtain rfl : result = result' := h
  cases result <;> rfl

/-- Runs that agree on an artefact answer a request about it alike. -/
theorem reply_agrees {artefact : Artefact} {s : Store × Store} {names : List JsString}
    {i : ServiceInput} (h : Agrees t artefact s.1.live s.2.live) (hs : s.1.Tidy p names)
    (hs' : s.2.Tidy p names) (hlater : ∀ now ∈ i.pairingTime, t ≤ now)
    (hasked : artefact.Asked p s.1.live i) :
    (i.step p upper env s.1).1 = (i.step p upper env s.2).1 := by
  have hrealm := h.base.realm
  cases artefact with
  | code hash =>
      cases i with
      | pairing i => exact absurd hasked id
      | oauth i =>
          cases i with
          | token input =>
              obtain ⟨hgrant, hhash, code, hcode, hclient⟩ := hasked
              exact congrArg ServiceReply.oauth
                (reply_code env.oauth h.own hrealm hgrant hhash hcode hclient)
          | _ => exact absurd hasked id
  | session sessionId =>
      cases i with
      | pairing i => exact absurd hasked id
      | oauth i =>
          cases i with
          | token input =>
              obtain ⟨hgrant, x, hx, hhash, hclient⟩ := hasked
              exact congrArg ServiceReply.oauth (reply_refresh env.oauth h.own hrealm
                hs.memory.keyed hs.memory.distinct hs'.memory.distinct hgrant hx hhash hclient)
          | bearer input =>
              exact congrArg ServiceReply.oauth (reply_bearer env.oauth h.own hrealm hasked)
          | _ => exact absurd hasked id
  | pairing pairingId =>
      cases i with
      | oauth i => exact absurd hasked id
      | pairing i =>
          cases i with
          | approve code now writes =>
              have heffect : SameEffect t s.1.live s.2.live
                  (approvePairingByCode p upper code now s.1.live)
                  (approvePairingByCode p upper code now s.2.live) :=
                approvePairing_agrees h.base (hlater now rfl) code
              have hresult := heffect.result writes
              rw [← Store.run_result, ← Store.run_result] at hresult
              exact congrArg ServiceReply.pairing (answered_fst _ hresult)
          | claim claimed pollToken draw now writes =>
              obtain rfl : claimed = pairingId := hasked
              exact congrArg ServiceReply.pairing (answered_fst _ (reply_claim h.base h.own writes))
          | _ => exact absurd hasked id

end Answers

/-! ## Runs -/

section Runs

variable (p : Platform) (upper : UpperCase) (env : ServiceEnv)

/-- The service after `past`, and the same after housekeeping, on the same further inputs. -/
def withHousekeeping (past : List ServiceInput) (h : Housekeeping) :
    Machine (Store × Store) ServiceInput (ServiceReply × ServiceReply) :=
  (service p upper env).lockstep ((service p upper env).after past)
    (h.run env.oauth.store ((service p upper env).after past))

/-- A later request about an artefact that was unexpired at the time of the housekeeping gets
the answer that it gets without. -/
def HousekeepingIsInvisible (past : List ServiceInput) (h : Housekeeping) (artefact : Artefact)
    (future : List ServiceInput) (i : ServiceInput) : Prop :=
  artefact.Alive h.now ((service p upper env).after past).live →
    artefact.Asked p ((withHousekeeping p upper env past h).after future).1.live i →
      ((withHousekeeping p upper env past h).answer future i).1 =
        ((withHousekeeping p upper env past h).answer future i).2

variable {p upper env}

theorem Housekeeping.shrinksBoth (h : Housekeeping) (storeEnv : StoreEnv) (store : Store) :
    ShrinksBoth store (h.run storeEnv store) := by
  cases h with
  | purge now writes => exact shrinksBoth_run (fun _ _ heq => shrinks_purgeState heq) writes
  | prune now writes =>
      apply shrinksBoth_run
      intro live' x heq
      unfold pruneClients at heq
      dsimp only at heq
      split_ifs at heq
      obtain ⟨rfl, -⟩ := Effect.persist.inj heq
      exact shrinks_prunePendingClients _ _ _

/-- Pairings that housekeeping spares are all there afterwards. -/
theorem recentPairings_spared {storeEnv : StoreEnv} {now : ℤ} {live : Live}
    (h : Spares storeEnv live now) :
    recentPairings now { live with state := (purged storeEnv now live).1 } =
      recentPairings now live := by
  rw [recentPairings_purged]
  apply Record.filter_eq_self
  intro k x hx
  obtain ⟨hx, hrecent⟩ := Record.get?_of_get?_filter hx
  rw [Bool.not_eq_true', decide_eq_false_iff_not, not_lt]
  exact h.pairings k x hx (of_decide_eq_true hrecent)

/-- Right after the housekeeping the runs agree on what it had to spare. -/
theorem agrees_start {storeEnv : StoreEnv} {store : Store} (h : Housekeeping)
    {artefact : Artefact} (hspares : Spares storeEnv store.live h.now)
    (halive : artefact.Alive h.now store.live) :
    Agrees h.now artefact store.live (h.run storeEnv store).live := by
  cases h with
  | purge now writes =>
      rw [Housekeeping.run, Store.run_live, purgeState_live]
      refine ⟨⟨rfl, rfl, (recentPairings_spared hspares).symm⟩, ?_⟩
      cases artefact with
      | code hash =>
          obtain ⟨code, hcode, hunexpired⟩ := halive
          refine ⟨?_, fun code' hcode' => ?_⟩
          · have hkept : (purged storeEnv now store.live).1.authCodes.get? hash =
                (store.live.state.authCodes.get? hash).filter
                  fun code => !(decide (code.expiresAt < now)) :=
              Record.get?_filter store.live.state.authCodes _ hash
            rw [hkept, hcode, Option.filter_some, if_pos]
            rw [Bool.not_eq_true', decide_eq_false_iff_not, not_lt]
            exact hunexpired
          · rw [hcode] at hcode'
            obtain rfl := Option.some.inj hcode'
            exact (clientMark_purged (hspares.codes hash code hcode hunexpired)).symm
      | session id =>
          obtain ⟨x, hx, hactive⟩ := halive
          refine ⟨?_, rfl, fun x' hx' => (clientMark_purged (sparesClient_of_session hx')).symm⟩
          have hkept : (purged storeEnv now store.live).1.sessions.get? id =
              (store.live.state.sessions.get? id).filter fun x => !(decide
                ((x.revokedAt <|> store.live.realm.revokedAt).getD x.refreshExpiresAt +
                  retentionMs < now)) :=
            Record.get?_filter store.live.state.sessions _ id
          rw [hkept, hx, Option.filter_some, if_pos]
          rw [Bool.not_eq_true', decide_eq_false_iff_not, not_lt]
          exact hspares.sessions id x hx hactive
      | pairing id =>
          obtain ⟨x, hx, hunexpired⟩ := halive
          have honly : ∀ y, store.live.state.pairings.get? id = some y → now ≤ y.expiresAt := by
            intro y hy
            rw [hx] at hy
            rw [← Option.some.inj hy]
            exact hunexpired
          exact ⟨honly, fun y hy => honly y (Record.get?_of_get?_filter hy).1⟩
  | prune now writes =>
      rw [Housekeeping.run, Store.run_live, pruneClients_live]
      refine ⟨⟨rfl, rfl, rfl⟩, ?_⟩
      cases artefact with
      | code hash =>
          obtain ⟨code, hcode, hunexpired⟩ := halive
          refine ⟨rfl, fun code' hcode' => ?_⟩
          rw [hcode] at hcode'
          obtain rfl := Option.some.inj hcode'
          exact (clientMark_pruned (hspares.codes hash code hcode hunexpired)).symm
      | session id =>
          exact ⟨rfl, rfl, fun x hx => (clientMark_pruned (sparesClient_of_session hx)).symm⟩
      | pairing id =>
          obtain ⟨x, hx, hunexpired⟩ := halive
          have honly : ∀ y, store.live.state.pairings.get? id = some y → now ≤ y.expiresAt := by
            intro y hy
            rw [hx] at hy
            rw [← Option.some.inj hy]
            exact hunexpired
          exact ⟨honly, honly⟩

theorem Artefact.Alive.drawn {artefact : Artefact} {now : ℤ} {store : Store}
    {names : List JsString} (h : artefact.Alive now store.live) (hs : store.Tidy p names) :
    artefact.Drawn p names := by
  cases artefact with
  | code hash =>
      obtain ⟨code, hcode, -⟩ := h
      exact (hs.memory.sound.codes hash code hcode).2
  | session id =>
      obtain ⟨x, hx, -⟩ := h
      exact (hs.memory.sound.sessions id x hx).1
  | pairing id => trivial

/-- What is known of the two runs: their tables are tidy and they agree. -/
structure InStep (p : Platform) (t : ℤ) (artefact : Artefact) (names : List JsString)
    (s : Store × Store) : Prop where
  agrees : Agrees t artefact s.1.live s.2.live
  left : s.1.Tidy p names
  right : s.2.Tidy p names
  drawn : artefact.Drawn p names

theorem inStep_after (hp : p.CollisionFree) {past : List ServiceInput} {h : Housekeeping}
    {artefact : Artefact} (hspares : Spares env.oauth.store ((service p upper env).after past).live
      h.now)
    (halive : artefact.Alive h.now ((service p upper env).after past).live)
    {future : List ServiceInput} (hfresh : Fresh ServiceInput.names (past ++ future))
    (hfuture : (withHousekeeping p upper env past h).Along
      (Undisturbed p env.oauth.store h.now artefact) future) :
    InStep p h.now artefact ((past ++ future).flatMap ServiceInput.names)
      ((withHousekeeping p upper env past h).after future) := by
  have htidy : ((service p upper env).after past).Tidy p (past.flatMap ServiceInput.names) :=
    tidy_after hp ((prefixClosed_fresh _).of_append hfresh)
  have hallowed : PrefixClosed fun is => Fresh ServiceInput.names (past ++ is) ∧
      (withHousekeeping p upper env past h).Along
        (Undisturbed p env.oauth.store h.now artefact) is := by
    rintro is i ⟨hnames, halong⟩
    rw [← List.append_assoc] at hnames
    exact ⟨prefixClosed_fresh _ _ _ hnames, Machine.prefixClosed_along _ _ _ _ halong⟩
  refine (withHousekeeping p upper env past h).invariant hallowed
    (I := fun is s => InStep p h.now artefact ((past ++ is).flatMap ServiceInput.names) s) ?_ ?_
    future ⟨hfresh, hfuture⟩
  · rw [List.append_nil]
    exact ⟨agrees_start h hspares halive, htidy, htidy.shrinks (h.shrinksBoth _ _),
      halive.drawn htidy⟩
  · rintro is i ⟨hnames, halong⟩ hstep
    rw [← List.append_assoc] at hnames ⊢
    rw [List.flatMap_append, List.flatMap_singleton]
    have hnew : ∀ n ∈ i.names, n ∉ (past ++ is).flatMap ServiceInput.names :=
      fun n hn => hnames.notMem hn
    exact ⟨agrees_step hp hstep.agrees hstep.left hstep.right hstep.drawn hnew
        (halong.last _),
      tidy_step hp i hnew hstep.left, tidy_step hp i hnew hstep.right,
      hstep.drawn.mono (List.subset_append_left _ _)⟩

/-- Housekeeping that spares what unexpired artefacts need is invisible, in every run whose
later housekeeping keeps to the same. -/
theorem housekeepingIsInvisible (p : Platform) (hp : p.CollisionFree) (upper : UpperCase)
    (env : ServiceEnv) (past : List ServiceInput) (h : Housekeeping) (artefact : Artefact)
    (future : List ServiceInput) (i : ServiceInput)
    (hfresh : Fresh ServiceInput.names (past ++ (future ++ [i])))
    (hspares : Spares env.oauth.store ((service p upper env).after past).live h.now)
    (hfuture : (withHousekeeping p upper env past h).Along
      (Undisturbed p env.oauth.store h.now artefact) (future ++ [i])) :
    HousekeepingIsInvisible p upper env past h artefact future i := by
  intro halive hasked
  rw [← List.append_assoc] at hfresh
  have hstep := inStep_after hp hspares halive (prefixClosed_fresh _ _ _ hfresh)
    (Machine.prefixClosed_along _ _ _ _ hfuture)
  exact reply_agrees hstep.agrees hstep.left hstep.right (hfuture.last _).later hasked

end Runs

/-! ## A code that outlives its client -/

def sampleServiceEnv : ServiceEnv := ⟨sampleOAuthEnv, 1, 5, 10⟩

/-- A client registers and gets a code. -/
def codeGiven (now : TimeValue) : List ServiceInput :=
  [.oauth sampleRegister, .oauth (.submit
    ⟨[(js "client_id", js "ro-A"), (js "redirect_uri", js "https://app"),
      (js "code_challenge", pkceChallengeS256 samplePlatform sampleVerifier),
      (js "code_challenge_method", js "S256"), (js "password", js "password")], textA, now, true⟩)]

theorem undisturbed_sampleTrade {s : Store × Store} {t : ℤ}
    (h : clientIsUsable (js "ro-A") s.1.live = clientIsUsable (js "ro-A") s.2.live) :
    Undisturbed samplePlatform sampleServiceEnv.oauth.store t
      (.code (samplePlatform.digest (js "code-A"))) s (.oauth sampleTrade) where
  later _ hnow := absurd hnow (Option.not_mem_none _)
  drawn _ _ _ _ heq := ServiceInput.noConfusion heq
  spared _ hnow := absurd hnow (Option.not_mem_none _)
  presented _ input _ heq _ := by
    obtain rfl := OAuthInput.token.inj (ServiceInput.oauth.inj heq)
    exact h
  synced hrestart := Bool.noConfusion hrestart

theorem housekeepingIsInvisible_sample :
    HousekeepingIsInvisible samplePlatform sampleUpper sampleServiceEnv (codeGiven sampleTime)
      (.purge 2000 true) (.code (samplePlatform.digest (js "code-A"))) [] (.oauth sampleTrade) :=
  housekeepingIsInvisible _ samplePlatform_collisionFree _ _ _ _ _ _ _ (by decide +kernel)
    (by decide +kernel)
    ((Machine.along_concat _ _ _ _).mpr
      ⟨Machine.along_nil _ _, undisturbed_sampleTrade (by decide +kernel)⟩)

theorem lateTime_inRange : (86400000 : ℤ).natAbs ≤ 8640000000000000 := by decide

/-- Almost a day after the registration. -/
def lateTime : TimeValue := ⟨86400000, lateTime_inRange⟩

theorem laterTime_inRange : (86403000 : ℤ).natAbs ≤ 8640000000000000 := by decide

def laterTime : TimeValue := ⟨86403000, laterTime_inRange⟩

def lateTrade : OAuthInput :=
  .token ⟨[(js "client_id", js "ro-A"), (js "grant_type", js "authorization_code"),
    (js "code", js "code-A"), (js "code_verifier", sampleVerifier),
    (js "redirect_uri", js "https://app")], textA, textA, textA, laterTime, laterTime, laterTime,
    true, true⟩

theorem exists_code_of_any {hash : JsString} {live : Live} {test : StoredAuthCode → Bool}
    (h : (live.state.authCodes.get? hash).any test = true) :
    ∃ code, live.state.authCodes.get? hash = some code ∧ test code = true := by
  cases hget : live.state.authCodes.get? hash with
  | none =>
      rw [hget] at h
      cases h
  | some code =>
      rw [hget] at h
      exact ⟨code, rfl, h⟩

/-- The day is over two seconds after the code was given, and the client is forgotten. -/
theorem lateCode_lost :
    samplePlatform.CollisionFree ∧
      Fresh ServiceInput.names (codeGiven lateTime ++ ([] ++ [.oauth lateTrade])) ∧
        ¬HousekeepingIsInvisible samplePlatform sampleUpper sampleServiceEnv (codeGiven lateTime)
          (.purge 86402000 true) (.code (samplePlatform.digest (js "code-A"))) []
          (.oauth lateTrade) := by
  refine ⟨samplePlatform_collisionFree, by decide +kernel, fun hinvisible => ?_⟩
  have hstored : (((service samplePlatform sampleUpper sampleServiceEnv).after
      (codeGiven lateTime)).live.state.authCodes.get? (samplePlatform.digest (js "code-A"))).any
        (fun code => decide (86402000 ≤ code.expiresAt) && decide (code.clientId = js "ro-A")) =
          true := by
    decide +kernel
  obtain ⟨code, hcode, htest⟩ := exists_code_of_any hstored
  rw [Bool.and_eq_true, decide_eq_true_eq, decide_eq_true_eq] at htest
  have hsame := hinvisible ⟨code, hcode, htest.1⟩ ⟨by decide, rfl, code, hcode, htest.2⟩
  revert hsame
  decide +kernel

end RemoteOps

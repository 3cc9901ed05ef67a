import RemoteOps.Auth.Housekeeping

/-!
# Two runs in step

Every input keeps the agreement of two runs on an artefact. For each kind of artefact the
inputs that leave it and its client alone go together (`KeepsCode`, `KeepsSession`); the others
do the same to both runs, since what they read of the artefact is what the runs agree on.
-/

namespace RemoteOps

open Ecma Transition

/-! ## Clients -/

section Marks

variable {p : Platform} {env : StoreEnv} {live live' : Live} {now : ℤ}

theorem clientMark_of_clients (h : live'.state.clients = live.state.clients) (clientId : JsString) :
    clientMark clientId live' = clientMark clientId live := by
  rw [clientMark, clientMark, h]

theorem clientMark_pruned {clientId : JsString} (h : SparesClient env live now clientId) :
    clientMark clientId { live with state := (prunePendingClients env live now).1 } =
      clientMark clientId live :=
  congrArg (Option.map _) (get?_prunePendingClients h)

theorem clientMark_purged {clientId : JsString} (h : SparesClient env live now clientId) :
    clientMark clientId { live with state := (purged env now live).1 } =
      clientMark clientId live :=
  congrArg (Option.map _) (get?_prunePendingClients h)

/-- The client of a stored session is not pending. -/
theorem sparesClient_of_session {id : JsString} {x : StoredSession}
    (h : live.state.sessions.get? id = some x) : SparesClient env live now x.clientId := by
  intro client _
  have hany : (live.state.sessions.values.any fun session => session.clientId = x.clientId) =
      true :=
    List.any_eq_true.mpr ⟨x, Record.mem_values.mpr ⟨id, h⟩, decide_eq_true rfl⟩
  rw [isPendingExpired, neverActivated, hany, Bool.not_true, Bool.and_false, Bool.false_and]

theorem clientMark_revokeClient (clientId : JsString) (c : JsString) :
    clientMark clientId ((revokeClient c now live).live live) =
      if clientId = c then (clientMark clientId live).map fun _ => some now
      else clientMark clientId live := by
  have hnone : ∀ clients : Record StoredClient, (∀ x, live.realm.slot clients c ≠ .own x) →
      clients = live.state.clients → (clientMark c live).map (fun _ => some now) =
        clientMark c live := by
    rintro clients hslot rfl
    rw [clientMark, Realm.get?_of_slot_ne_own hslot]
    rfl
  have hsame : (∀ x, live.realm.slot live.state.clients c ≠ .own x) →
      clientMark clientId live = if clientId = c then (clientMark clientId live).map fun _ => some now
        else clientMark clientId live := by
    intro hslot
    split_ifs with heq
    · rw [heq, hnone _ hslot rfl]
    · rfl
  unfold revokeClient
  dsimp only
  split
  · next heq => exact hsame fun x hx => by rw [heq] at hx; cases hx
  · next client heq =>
      simp only [Effect.live, clientMark, Record.get?_modify]
      split_ifs with hid
      · rw [Option.map_map, Option.map_map]
        rfl
      · rfl
  · next slot hown habsent =>
      split
      · exact hsame habsent
      · exact hsame habsent

theorem clientMark_revokeAllClients (clientId : JsString) :
    clientMark clientId ((revokeAllClients now live).live live) =
      (clientMark clientId live).map fun revokedAt =>
        if !live.realm.isRevoked revokedAt then some now else revokedAt := by
  simp only [revokeAllClients, Effect.live, clientMark, Record.get?_map, Option.map_map]
  congr 1
  funext c
  simp only [Function.comp_apply]
  split_ifs <;> rfl

end Marks

/-! ## Calls that leave the OAuth tables alone -/

section Frames

variable {p : Platform} {live live' live'' : Live} {now : ℤ}

structure KeepsOAuth (live live' : Live) : Prop where
  clients : live'.state.clients = live.state.clients
  codes : live'.state.authCodes = live.state.authCodes
  sessions : live'.state.sessions = live.state.sessions
  touched : live'.lastSessionTouch = live.lastSessionTouch

theorem KeepsOAuth.refl (live : Live) : KeepsOAuth live live := ⟨rfl, rfl, rfl, rfl⟩

theorem KeepsOAuth.trans (h : KeepsOAuth live live') (h' : KeepsOAuth live' live'') :
    KeepsOAuth live live'' :=
  ⟨h'.clients.trans h.clients, h'.codes.trans h.codes, h'.sessions.trans h.sessions,
    h'.touched.trans h.touched⟩

theorem keepsOAuth_startPairing {upper : UpperCase} {env : PairingEnv} (info : PairingMeta)
    (draws : PairingDraws) (now : ℤ) (live : Live) :
    KeepsOAuth live ((startPairing p upper env info draws now live).live live) := by
  unfold startPairing
  split_ifs
  · exact KeepsOAuth.refl live
  · exact KeepsOAuth.refl live
  · split <;> exact ⟨rfl, rfl, rfl, rfl⟩

theorem keepsOAuth_approvePairing {upper : UpperCase} (code : JsString) (now : ℤ) (live : Live) :
    KeepsOAuth live ((approvePairingByCode p upper code now live).live live) := by
  unfold approvePairingByCode
  split <;> exact ⟨rfl, rfl, rfl, rfl⟩

theorem keepsOAuth_claimPairing (pairingId pollToken : JsString) (draw : RandomText) (now : ℤ)
    (live : Live) :
    KeepsOAuth live ((claimPairing p pairingId pollToken draw now live).live live) := by
  unfold claimPairing
  split
  · exact KeepsOAuth.refl live
  · split_ifs
    · exact KeepsOAuth.refl live
    · exact KeepsOAuth.refl live
    · exact KeepsOAuth.refl live
    · split <;> exact ⟨rfl, rfl, rfl, rfl⟩

theorem keepsOAuth_revokeDevice (deviceId : JsString) (now : ℤ) (live : Live) :
    KeepsOAuth live ((revokeDevice deviceId now live).live live) := by
  unfold revokeDevice
  split
  · exact KeepsOAuth.refl live
  · split_ifs <;> exact ⟨rfl, rfl, rfl, rfl⟩
  · split_ifs
    · split <;> exact ⟨rfl, rfl, rfl, rfl⟩
    · exact ⟨rfl, rfl, rfl, rfl⟩

/-- Memory as a restart loads it from a file with the same content. -/
def Live.reloaded (live : Live) : Live := ⟨live.state, Realm.fresh, Record.empty⟩

theorem restart_live (env : StoreEnv) (now : ℤ) {store : Store}
    (h : store.file = store.live.state) :
    (store.restart env now).live =
      { store.live.reloaded with state := (purged env now store.live.reloaded).1 } := by
  rw [Store.restart, initStateStore, h]
  rfl

end Frames

/-! ## Codes -/

section Codes

variable {p : Platform} {env : OAuthEnv} {a b a' b' live live' : Live} {hash : JsString} {now : ℤ}

/-- The code stays as it is, and so does its client's mark. -/
structure KeepsCode (hash : JsString) (live live' : Live) : Prop where
  code : live'.state.authCodes.get? hash = live.state.authCodes.get? hash
  client : ∀ code, live.state.authCodes.get? hash = some code →
    clientMark code.clientId live' = clientMark code.clientId live

theorem KeepsCode.refl (hash : JsString) (live : Live) : KeepsCode hash live live :=
  ⟨rfl, fun _ _ => rfl⟩

theorem AgreesOnCode.kept (h : AgreesOnCode hash a b) (ha : KeepsCode hash a a')
    (hb : KeepsCode hash b b') : AgreesOnCode hash a' b' where
  code := by rw [ha.code, hb.code, h.code]
  client code hcode := by
    rw [ha.code] at hcode
    have hcode' := hcode
    rw [h.code] at hcode'
    rw [ha.client code hcode, hb.client code hcode', h.client code hcode]

theorem AgreesOnCode.purge {storeEnv : StoreEnv} (h : AgreesOnCode hash a b)
    (ha : ∀ code, a.state.authCodes.get? hash = some code → SparesClient storeEnv a now code.clientId)
    (hb : ∀ code, b.state.authCodes.get? hash = some code → SparesClient storeEnv b now code.clientId) :
    AgreesOnCode hash { a with state := (purged storeEnv now a).1 }
      { b with state := (purged storeEnv now b).1 } where
  code := by
    have hcodes : ∀ live, (purged storeEnv now live).1.authCodes.get? hash =
        (live.state.authCodes.get? hash).filter fun code => !(decide (code.expiresAt < now)) :=
      fun live => Record.get?_filter live.state.authCodes _ hash
    rw [hcodes, hcodes, h.code]
  client code hcode := by
    have hold : a.state.authCodes.get? hash = some code := (Record.get?_of_get?_filter hcode).1
    have hold' := hold
    rw [h.code] at hold'
    rw [clientMark_purged (ha code hold), clientMark_purged (hb code hold'), h.client code hold]

theorem codes_revokeClient (c : JsString) (now : ℤ) (live : Live) :
    ((revokeClient c now live).live live).state.authCodes = live.state.authCodes := by
  unfold revokeClient
  dsimp only
  split
  · rfl
  · rfl
  · split <;> rfl

theorem AgreesOnCode.revokeClient (h : AgreesOnCode hash a b) (c : JsString) :
    AgreesOnCode hash ((RemoteOps.revokeClient c now a).live a)
      ((RemoteOps.revokeClient c now b).live b) where
  code := by rw [codes_revokeClient, codes_revokeClient, h.code]
  client code hcode := by
    rw [codes_revokeClient] at hcode
    rw [clientMark_revokeClient, clientMark_revokeClient, h.client code hcode]

theorem AgreesOnCode.revokeAllClients (h : AgreesOnCode hash a b) (hrealm : a.realm = b.realm) :
    AgreesOnCode hash ((RemoteOps.revokeAllClients now a).live a)
      ((RemoteOps.revokeAllClients now b).live b) where
  code := h.code
  client code hcode := by
    rw [clientMark_revokeAllClients, clientMark_revokeAllClients, hrealm, h.client code hcode]

theorem TouchedOne.keepsCode {id : JsString} (h : TouchedOne id live live') : KeepsCode hash live live' :=
  ⟨by rw [h.codes], fun code _ => h.marks code.clientId⟩

theorem keepsCode_registerClient {storeEnv : StoreEnv} {client : StoredClient}
    (hnew : ∀ code, live.state.authCodes.get? hash = some code → code.clientId ≠ client.clientId)
    (hspared : ∀ code, live.state.authCodes.get? hash = some code →
      SparesClient storeEnv live now code.clientId) :
    KeepsCode hash live ((registerClient storeEnv client now live).live live) := by
  obtain ⟨clients, hlive, hclients⟩ := registerClient_live storeEnv client now live
  rw [hlive]
  refine ⟨rfl, fun code hcode => ?_⟩
  exact congrArg (Option.map _) (hclients _ (hnew code hcode) (hspared code hcode))

theorem keepsCode_putAuthCode {rawCode : JsString} (hne : hash ≠ p.digest rawCode)
    (code : StoredAuthCode) :
    KeepsCode hash live ((putAuthCode p.digest rawCode code live).live live) :=
  ⟨Record.get?_set_of_ne _ _ hne, fun _ _ => rfl⟩

/-- Both runs use the code up, or neither does. -/
theorem AgreesOnCode.token {input : TokenInput} (h : AgreesOnCode hash a b)
    (ha : TokenLive p input a a') (hb : TokenLive p input b b')
    (hsame : input.Consumes p a hash ↔ input.Consumes p b hash) : AgreesOnCode hash a' b' := by
  by_cases hconsumes : input.Consumes p a hash
  · have hgone := ha.consumed hash hconsumes
    refine ⟨by rw [hgone, hb.consumed hash (hsame.mp hconsumes)], fun code hcode => ?_⟩
    rw [hgone] at hcode
    cases hcode
  · apply h.kept
    · exact ⟨ha.kept hash hconsumes, fun code _ => clientMark_of_clients ha.clients _⟩
    · exact ⟨hb.kept hash (mt hsame.mpr hconsumes),
        fun code _ => clientMark_of_clients hb.clients _⟩

end Codes

/-! ## Sessions -/

section Sessions

variable {p : Platform} {env : OAuthEnv} {a b a' b' live live' : Live} {id : JsString} {now : ℤ}

/-- The session stays as it is, and so does its client's mark. -/
structure KeepsSession (id : JsString) (live live' : Live) : Prop where
  session : live'.state.sessions.get? id = live.state.sessions.get? id
  touched : live'.lastSessionTouch.get? id = live.lastSessionTouch.get? id
  client : ∀ x, live.state.sessions.get? id = some x →
    clientMark x.clientId live' = clientMark x.clientId live

theorem KeepsSession.refl (id : JsString) (live : Live) : KeepsSession id live live :=
  ⟨rfl, rfl, fun _ _ => rfl⟩

/-- The session has the client that it had before. -/
def SameOwner (id : JsString) (live live' : Live) : Prop :=
  ∀ x', live'.state.sessions.get? id = some x' →
    ∃ x, live.state.sessions.get? id = some x ∧ x'.clientId = x.clientId

theorem AgreesOnSession.changed (h : AgreesOnSession id a b)
    (hsession : a'.state.sessions.get? id = b'.state.sessions.get? id)
    (htouched : a'.lastSessionTouch.get? id = b'.lastSessionTouch.get? id)
    (howner : SameOwner id a a')
    (hmarks : ∀ clientId, clientMark clientId a = clientMark clientId b →
      clientMark clientId a' = clientMark clientId b') : AgreesOnSession id a' b' where
  session := hsession
  touched := htouched
  client x' hx' := by
    obtain ⟨x, hx, hclient⟩ := howner x' hx'
    rw [hclient]
    exact hmarks x.clientId (h.client x hx)

theorem AgreesOnSession.kept (h : AgreesOnSession id a b) (ha : KeepsSession id a a')
    (hb : KeepsSession id b b') : AgreesOnSession id a' b' where
  session := by rw [ha.session, hb.session, h.session]
  touched := by rw [ha.touched, hb.touched, h.touched]
  client x hx := by
    rw [ha.session] at hx
    have hx' := hx
    rw [h.session] at hx'
    rw [ha.client x hx, hb.client x hx', h.client x hx]

theorem KeepsOAuth.keepsSession (h : KeepsOAuth live live') : KeepsSession id live live' :=
  ⟨by rw [h.sessions], by rw [h.touched], fun _ _ => clientMark_of_clients h.clients _⟩

theorem KeepsOAuth.keepsCode {hash : JsString} (h : KeepsOAuth live live') :
    KeepsCode hash live live' :=
  ⟨by rw [h.codes], fun _ _ => clientMark_of_clients h.clients _⟩

theorem keepsSession_registerClient {storeEnv : StoreEnv} {client : StoredClient}
    (hnew : ∀ x, live.state.sessions.get? id = some x → x.clientId ≠ client.clientId) :
    KeepsSession id live ((registerClient storeEnv client now live).live live) := by
  obtain ⟨clients, hlive, hclients⟩ := registerClient_live storeEnv client now live
  rw [hlive]
  refine ⟨rfl, rfl, fun x hx => ?_⟩
  exact congrArg (Option.map _) (hclients _ (hnew x hx) (sparesClient_of_session hx))

theorem AgreesOnSession.reloaded (h : AgreesOnSession id a b) :
    AgreesOnSession id a.reloaded b.reloaded :=
  ⟨h.session, rfl, h.client⟩

theorem AgreesOnSession.purge {storeEnv : StoreEnv} (h : AgreesOnSession id a b)
    (hrealm : a.realm = b.realm) :
    AgreesOnSession id { a with state := (purged storeEnv now a).1 }
      { b with state := (purged storeEnv now b).1 } where
  session := by
    have hsessions : ∀ live, (purged storeEnv now live).1.sessions.get? id =
        (live.state.sessions.get? id).filter fun x => !(decide
          ((x.revokedAt <|> live.realm.revokedAt).getD x.refreshExpiresAt + retentionMs < now)) :=
      fun live => Record.get?_filter live.state.sessions _ id
    rw [hsessions, hsessions, h.session, hrealm]
  touched := h.touched
  client x hx := by
    have hold : a.state.sessions.get? id = some x := (Record.get?_of_get?_filter hx).1
    have hold' := hold
    rw [h.session] at hold'
    rw [clientMark_purged (sparesClient_of_session hold),
      clientMark_purged (sparesClient_of_session hold'), h.client x hold]

/-! ### Touching -/

theorem AgreesOnSession.touch (h : AgreesOnSession id a b) (hrealm : a.realm = b.realm)
    (now : ℤ) :
    AgreesOnSession id ((touchSession id now a).live a) ((touchSession id now b).live b) := by
  have hmarks := (touches_touchSession id now a).marks
  have hmarks' := (touches_touchSession id now b).marks
  have hclients : ∀ clientId, clientMark clientId a = clientMark clientId b →
      clientMark clientId ((touchSession id now a).live a) =
        clientMark clientId ((touchSession id now b).live b) := by
    intro clientId heq
    rw [hmarks, hmarks', heq]
  cases hget : a.state.sessions.get? id with
  | none =>
      have hget' := hget
      rw [h.session] at hget'
      rw [touchSession, hget, touchSession, hget']
      exact h
  | some x =>
      have hget' := hget
      rw [h.session] at hget'
      rw [touchSession, hget] at hclients ⊢
      rw [touchSession, hget'] at hclients ⊢
      rw [h.touched, hrealm] at hclients ⊢
      dsimp only at hclients ⊢
      split_ifs at hclients ⊢
      · exact h
      · exact h
      · refine h.changed ?_ ?_ ?_ hclients
        · exact (Record.get?_set_self _ _ _).trans (Record.get?_set_self _ _ _).symm
        · exact (Record.get?_set_self _ _ _).trans (Record.get?_set_self _ _ _).symm
        · intro x' hx'
          rw [Effect.live, Record.get?_set_self] at hx'
          exact ⟨x, hget, by rw [← Option.some.inj hx']⟩

theorem keepsSession_touch {other : JsString} (hne : id ≠ other) (now : ℤ) (live : Live) :
    KeepsSession id live ((touchSession other now live).live live) := by
  have htouches := touches_touchSession other now live
  exact ⟨htouches.sessions id hne, htouches.touched id hne, fun x _ => htouches.marks _⟩

/-! ### Revoking -/

/-- A session that the test meets is revoked by the judgement of the realm. -/
def StoredSession.revokedIf (realm : Realm) (test : StoredSession → Bool) (now : ℤ)
    (x : StoredSession) : StoredSession :=
  if test x && !realm.isRevoked x.revokedAt then { x with revokedAt := some now } else x

theorem clientId_revokedIf (realm : Realm) (test : StoredSession → Bool) (now : ℤ)
    (x : StoredSession) : (x.revokedIf realm test now).clientId = x.clientId := by
  rw [StoredSession.revokedIf]
  split_ifs <;> rfl

theorem get?_revokeSessionsWhere (realm : Realm) (test : StoredSession → Bool) (now : ℤ)
    (sessions : Record StoredSession) (id : JsString) :
    (revokeSessionsWhere realm test now sessions).get? id =
      (sessions.get? id).map (StoredSession.revokedIf realm test now) := by
  rw [revokeSessionsWhere, Record.get?_map]
  rfl

theorem sameOwner_of_map {f : StoredSession → StoredSession}
    (hf : ∀ x, (f x).clientId = x.clientId)
    (h : live'.state.sessions.get? id = (live.state.sessions.get? id).map f) :
    SameOwner id live live' := by
  intro x' hx'
  rw [h, Option.map_eq_some_iff] at hx'
  obtain ⟨x, hx, rfl⟩ := hx'
  exact ⟨x, hx, hf x⟩

/-- Whose judgement counts when a client is revoked; an unknown client is not. -/
def Realm.judge (realm : Realm) (slot : Slot StoredClient) (now : ℤ) : Option Realm :=
  match slot with
  | .absent => none
  | slot => realm.revoke slot now

theorem get?_revokeClient (c : JsString) (now : ℤ) (live : Live) (id : JsString) :
    ((revokeClient c now live).live live).state.sessions.get? id =
      (live.state.sessions.get? id).map fun x =>
        match live.realm.judge (live.realm.slot live.state.clients c) now with
        | none => x
        | some realm => x.revokedIf realm (fun session => session.clientId = c) now := by
  unfold revokeClient
  cases live.realm.slot live.state.clients c with
  | absent => exact Option.map_id'.symm
  | own client => exact get?_revokeSessionsWhere _ _ _ _ _
  | _ =>
      dsimp only [Realm.judge]
      cases live.realm.revoke _ now with
      | none => exact Option.map_id'.symm
      | some realm => exact get?_revokeSessionsWhere _ _ _ _ _

theorem touched_revokeClient (c : JsString) (now : ℤ) (live : Live) :
    ((revokeClient c now live).live live).lastSessionTouch = live.lastSessionTouch := by
  unfold revokeClient
  dsimp only
  split
  · rfl
  · rfl
  · split <;> rfl

/-- Clients with one mark are judged alike. -/
theorem judge_of_mark {c : JsString} (hrealm : a.realm = b.realm)
    (hmark : clientMark c a = clientMark c b) :
    a.realm.judge (a.realm.slot a.state.clients c) now =
      b.realm.judge (b.realm.slot b.state.clients c) now := by
  rw [clientMark, clientMark] at hmark
  rw [hrealm]
  cases hget : a.state.clients.get? c with
  | some x =>
      rw [hget, Option.map_some] at hmark
      obtain ⟨y, hy, -⟩ := Option.map_eq_some_iff.mp hmark.symm
      rw [Realm.slot_eq_own hget, Realm.slot_eq_own hy]
      rfl
  | none =>
      rw [hget, Option.map_none, eq_comm, Option.map_eq_none_iff] at hmark
      rw [Realm.slot, Realm.slot, hget, hmark]

theorem AgreesOnSession.revokeClient (h : AgreesOnSession id a b) (hrealm : a.realm = b.realm)
    (c : JsString) :
    AgreesOnSession id ((RemoteOps.revokeClient c now a).live a)
      ((RemoteOps.revokeClient c now b).live b) := by
  refine h.changed ?_ ?_ ?_ fun clientId heq => ?_
  · rw [get?_revokeClient, get?_revokeClient, ← h.session]
    cases hget : a.state.sessions.get? id with
    | none => rfl
    | some x =>
        by_cases hc : x.clientId = c
        · rw [judge_of_mark hrealm (hc ▸ h.client x hget)]
        · -- the session of another client is left alone in either run
          have hother : ∀ realm : Realm,
              x.revokedIf realm (fun session => session.clientId = c) now = x := by
            intro realm
            rw [StoredSession.revokedIf, decide_eq_false hc]
            rfl
          rw [Option.map_some, Option.map_some]
          congr 1
          split <;> split <;> simp only [hother]
  · rw [touched_revokeClient, touched_revokeClient, h.touched]
  · refine sameOwner_of_map (fun x => ?_) (get?_revokeClient c now a id)
    split
    · rfl
    · exact clientId_revokedIf _ _ _ _
  · rw [clientMark_revokeClient, clientMark_revokeClient, heq]

theorem AgreesOnSession.revokeAllSessions (h : AgreesOnSession id a b)
    (hrealm : a.realm = b.realm) :
    AgreesOnSession id ((RemoteOps.revokeAllSessions now a).live a)
      ((RemoteOps.revokeAllSessions now b).live b) := by
  refine h.changed ?_ h.touched ?_ fun _ heq => heq
  · refine (get?_revokeSessionsWhere _ _ _ _ _).trans ?_
    rw [h.session, hrealm]
    exact (get?_revokeSessionsWhere _ _ _ _ _).symm
  · exact sameOwner_of_map (clientId_revokedIf _ _ _) (get?_revokeSessionsWhere _ _ _ _ _)

theorem AgreesOnSession.revokeAllClients (h : AgreesOnSession id a b)
    (hrealm : a.realm = b.realm) :
    AgreesOnSession id ((RemoteOps.revokeAllClients now a).live a)
      ((RemoteOps.revokeAllClients now b).live b) := by
  refine h.changed ?_ h.touched ?_ fun clientId heq => ?_
  · refine (get?_revokeSessionsWhere _ _ _ _ _).trans ?_
    rw [h.session, hrealm]
    exact (get?_revokeSessionsWhere _ _ _ _ _).symm
  · exact sameOwner_of_map (clientId_revokedIf _ _ _) (get?_revokeSessionsWhere _ _ _ _ _)
  · rw [clientMark_revokeAllClients, clientMark_revokeAllClients, hrealm, heq]

theorem keepsSession_revokeSession {other : JsString} (hne : id ≠ other) (now : ℤ)
    (live : Live) :
    KeepsSession id live ((revokeSession other now live).live live) := by
  unfold revokeSession
  split
  · exact KeepsSession.refl id live
  · split_ifs
    · exact ⟨Record.get?_set_of_ne _ _ hne, rfl, fun _ _ => rfl⟩
    · exact KeepsSession.refl id live
  · split_ifs
    · split
      · exact KeepsSession.refl id live
      · exact ⟨rfl, rfl, fun _ _ => rfl⟩
    · exact KeepsSession.refl id live

theorem clients_revokeSession (other : JsString) (now : ℤ) (live : Live) :
    ((revokeSession other now live).live live).state.clients = live.state.clients ∧
      ((revokeSession other now live).live live).state.authCodes = live.state.authCodes ∧
      ((revokeSession other now live).live live).lastSessionTouch = live.lastSessionTouch := by
  unfold revokeSession
  split
  · exact ⟨rfl, rfl, rfl⟩
  · split_ifs <;> exact ⟨rfl, rfl, rfl⟩
  · split_ifs
    · split <;> exact ⟨rfl, rfl, rfl⟩
    · exact ⟨rfl, rfl, rfl⟩

/-- The session itself is revoked if it is stored, by the judgement of the realm. -/
theorem get?_revokeSession (id : JsString) (now : ℤ) (live : Live) :
    ((revokeSession id now live).live live).state.sessions.get? id =
      (live.state.sessions.get? id).map (StoredSession.revokedIf live.realm (fun _ => true) now) := by
  unfold revokeSession
  cases hget : live.state.sessions.get? id with
  | some x =>
      rw [Realm.slot_eq_own hget]
      dsimp only
      rw [Option.map_some, StoredSession.revokedIf, Bool.true_and]
      split_ifs
      · exact Record.get?_set_self _ _ _
      · exact hget
  | none =>
      cases hslot : live.realm.slot live.state.sessions id with
      | own x =>
          rw [Realm.get?_of_slot_eq_own hslot] at hget
          cases hget
      | absent => exact hget
      | _ =>
          dsimp only
          split_ifs
          · cases live.realm.revoke _ now with
            | none => exact hget
            | some realm => exact hget
          · exact hget

theorem AgreesOnSession.revokeSession (h : AgreesOnSession id a b) (hrealm : a.realm = b.realm)
    (other : JsString) :
    AgreesOnSession id ((RemoteOps.revokeSession other now a).live a)
      ((RemoteOps.revokeSession other now b).live b) := by
  by_cases hid : id = other
  · subst hid
    obtain ⟨hclients, -, htouched⟩ := clients_revokeSession id now a
    obtain ⟨hclients', -, htouched'⟩ := clients_revokeSession id now b
    refine h.changed ?_ ?_ ?_ fun clientId heq => ?_
    · rw [get?_revokeSession, get?_revokeSession, h.session, hrealm]
    · rw [htouched, htouched', h.touched]
    · exact sameOwner_of_map (clientId_revokedIf _ _ _) (get?_revokeSession id now a)
    · rw [clientMark_of_clients hclients, clientMark_of_clients hclients', heq]
  · exact h.kept (keepsSession_revokeSession hid now a) (keepsSession_revokeSession hid now b)

/-! ### Refreshing -/

theorem AgreesOnSession.symm (h : AgreesOnSession id a b) : AgreesOnSession id b a where
  session := h.session.symm
  touched := h.touched.symm
  client x hx := by
    rw [← h.session] at hx
    exact (h.client x hx).symm

variable {store store' : Store} {input : TokenInput}

/-- The session with this refresh token is the one that is found. -/
theorem find_of_get? {x : StoredSession} {refreshToken : JsString}
    (hdistinct : RefreshDistinct live.state) (hx : live.state.sessions.get? id = some x)
    (hhash : x.refreshHash = p.digest refreshToken) :
    findSessionByRefreshToken p.digest refreshToken live = some x := by
  have htest : decide (x.refreshHash = p.digest refreshToken) = true := decide_eq_true hhash
  obtain ⟨k, y, hfind⟩ := Record.find?_isSome
    (p := fun s : StoredSession => decide (s.refreshHash = p.digest refreshToken)) hx htest
  obtain ⟨hy, hyhash⟩ := Record.find?_some hfind
  have hsame : k = id :=
    hdistinct k id y x hy hx ((of_decide_eq_true hyhash).trans hhash.symm)
  rw [hsame, hx] at hy
  rw [findSessionByRefreshToken, hfind, Option.map_some, Option.some.inj hy]

theorem ReachesRotation.transfer {x : StoredSession} (hr : ReachesRotation p store input x)
    (h : AgreesOnSession x.sessionId store.live store'.live)
    (hrealm : store.live.realm = store'.live.realm)
    (hkeys : SessionsKeyed store.live.state) (hdistinct : RefreshDistinct store'.live.state) :
    ReachesRotation p store' input x := by
  obtain ⟨hget, hhash⟩ := get?_of_find hkeys hr.found
  have hget' := hget
  rw [h.session] at hget'
  have husable := clientIsUsable_agrees hrealm (h.client x hget)
  rw [hr.clientId] at husable
  exact ⟨husable ▸ hr.usable, find_of_get? hdistinct hget' hhash, hr.clientId,
    hrealm ▸ hr.unrevoked, hr.unexpired⟩

theorem token_of_reaches_live (hkeys : SessionsKeyed store.live.state)
    (hgrant : input.grantType = js "refresh_token") {x : StoredSession}
    (h : ReachesRotation p store input x) :
    (token p env input store).2.live = store.live.rotate p input x := by
  rw [token_of_reaches env hkeys hgrant h]
  split_ifs <;> rfl

/-- A refresh of another session, or none, leaves this one alone. -/
theorem keepsSession_refresh (hkeys : SessionsKeyed store.live.state)
    (hgrant : input.grantType = js "refresh_token")
    (hother : ∀ x, ReachesRotation p store input x → id ≠ x.sessionId) :
    KeepsSession id store.live (token p env input store).2.live := by
  by_cases hreaches : ∃ x, ReachesRotation p store input x
  · obtain ⟨x, hx⟩ := hreaches
    rw [token_of_reaches_live hkeys hgrant hx]
    exact ⟨Record.get?_set_of_ne _ _ (hother x hx), rfl, fun _ _ => rfl⟩
  · rw [(token_of_not_reaches env hgrant (not_exists.mp hreaches)).1]
    exact KeepsSession.refl id store.live

theorem AgreesOnSession.token (h : AgreesOnSession id store.live store'.live)
    (hrealm : store.live.realm = store'.live.realm) (hnew : id ≠ input.newSessionId)
    (hkeys : SessionsKeyed store.live.state) (hkeys' : SessionsKeyed store'.live.state)
    (hdistinct : RefreshDistinct store.live.state)
    (hdistinct' : RefreshDistinct store'.live.state) :
    AgreesOnSession id (RemoteOps.token p env input store).2.live
      (RemoteOps.token p env input store').2.live := by
  by_cases hgrant : input.grantType = js "refresh_token"
  · by_cases hreaches : ∃ x, ReachesRotation p store input x ∧ x.sessionId = id
    · obtain ⟨x, hx, rfl⟩ := hreaches
      have hx' := hx.transfer h hrealm hkeys hdistinct'
      rw [token_of_reaches_live hkeys hgrant hx, token_of_reaches_live hkeys' hgrant hx']
      obtain ⟨hget, -⟩ := get?_of_find hkeys hx.found
      refine h.changed ?_ h.touched ?_ fun _ heq => heq
      · exact (Record.get?_set_self _ _ _).trans (Record.get?_set_self _ _ _).symm
      · intro x' hx'
        rw [Live.rotate, Record.get?_set_self] at hx'
        exact ⟨x, hget, by rw [← Option.some.inj hx']; rfl⟩
    · apply h.kept
      · exact keepsSession_refresh hkeys hgrant fun x hx heq => hreaches ⟨x, hx, heq.symm⟩
      · refine keepsSession_refresh hkeys' hgrant fun x hx heq => hreaches ⟨x, ?_, heq.symm⟩
        subst heq
        exact hx.transfer h.symm hrealm.symm hkeys' hdistinct
  · have hlive := @tokenLive_token p env input store
    have hlive' := @tokenLive_token p env input store'
    apply h.kept
    · exact ⟨hlive.other hgrant id hnew, by rw [hlive.touched],
        fun _ _ => clientMark_of_clients hlive.clients _⟩
    · exact ⟨hlive'.other hgrant id hnew, by rw [hlive'.touched],
        fun _ _ => clientMark_of_clients hlive'.clients _⟩

end Sessions

end RemoteOps

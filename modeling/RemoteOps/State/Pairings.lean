import RemoteOps.Ecma.Buffer
import RemoteOps.State.Store
import RemoteOps.Transition.Machine

/-!
# Pairings

An agent starts a pairing and shows its code, an operator approves the code, and
the agent, holding the poll token, claims the pairing and becomes a device. The
operations on the two tables, housekeeping and restarts make up the machine
`pairing`.

What a call draws at random and whether its write succeeds comes with the input.
`createPairing` forgets stale pairings before it may refuse, so that a refusal
can leave memory behind the file.
-/

namespace RemoteOps

open Ecma Transition

/-- `String.prototype.toUpperCase`, of which only the ASCII part is fixed here. -/
structure UpperCase where
  apply : JsString → JsString
  apply_of_ascii : ∀ s, (∀ u ∈ s, isAscii u = true) → apply s = asciiUpper s

structure PairingEnv where
  agentMaxDevices : ℕ
  agentMaxPendingPairings : ℕ
  agentPairingTtlMinutes : ℕ
  store : StoreEnv

/-! ## Random values -/

/-- What `randomUUID()` may be: 36 lower case hexadecimal digits and dashes. -/
structure RandomUuid where
  text : JsString
  isUuid : matchesClass (fun u => isLowerHex u || u == unit '-') 36 36 text = true

def pairAlphabet : JsString := js "ABCDEFGHJKLMNPQRSTUVWXYZ23456789"

/-- The code made of eight random bytes. -/
def pairingCode (bytes : Fin 8 → UInt8) : JsString :=
  let raw := List.ofFn fun i => pairAlphabet.getD ((bytes i).toNat % pairAlphabet.length) 0
  js "WD-" ++ raw.take 4 ++ js "-" ++ raw.drop 4

/-! ## Operations -/

/-- What an agent says about itself. -/
structure PairingMeta where
  hostname : JsString
  os : Option JsString := none
  agentVersion : Option JsString := none
  fingerprint : Option JsString := none

structure PairingDraws where
  codes : List (Fin 8 → UInt8)
  pollToken : RandomText
  pairingId : RandomUuid

structure NewPairing where
  pairingId : JsString
  code : JsString
  pollToken : JsString
  expiresAt : ℤ
  deriving DecidableEq

/-- A time that is falsy counts as not claimed. -/
def StoredPairing.isClaimed (p : StoredPairing) : Bool := isSet p.claimedAt

/-- Unclaimed pairings are forgotten an hour after they expired. -/
def dropStalePairings (now : ℤ) (live : Live) : Live :=
  { live with
    state := { live.state with
      pairings := live.state.pairings.filter fun _ p =>
        p.isClaimed || !(p.expiresAt + hourMs < now) } }

/-- `Object.values(devices).filter((d) => !d.revoked_at)`. -/
def activeDevices (live : Live) : List StoredDevice :=
  live.state.devices.values.filter fun d => !live.realm.isRevoked d.revokedAt

/-- `pairings.filter((p) => !p.claimed_at && p.expires_at >= now)`. -/
def pendingPairings (now : ℤ) (live : Live) : List StoredPairing :=
  live.state.pairings.values.filter fun p => !p.isClaimed && now ≤ p.expiresAt

section Operations

variable (p : Platform) (upper : UpperCase) (env : PairingEnv)

def normalizePairCode (code : JsString) : JsString :=
  (upper.apply (trim code)).filter fun u => !isWhite u

def codeInUse (code : JsString) (now : ℤ) (live : Live) : Bool :=
  live.state.pairings.values.any fun x =>
    x.codeHash = p.digest (normalizePairCode upper code) && now < x.expiresAt && !x.isClaimed

def newPairing (draws : PairingDraws) (code : JsString) (now : ℤ) : NewPairing where
  pairingId := draws.pairingId.text
  code := code
  pollToken := draws.pollToken.text
  expiresAt := now + env.agentPairingTtlMinutes * 60000

def storedPairing (info : PairingMeta) (x : NewPairing) (now : ℤ) : StoredPairing where
  pairingId := x.pairingId
  codeHash := p.digest (normalizePairCode upper x.code)
  pollHash := p.digest x.pollToken
  createdAt := now
  expiresAt := x.expiresAt
  hostname := info.hostname
  os := info.os
  agentVersion := info.agentVersion
  fingerprint := info.fingerprint

/-- `createPairing` after it has forgotten the stale pairings. A code in use is
drawn again; if every drawn code is in use, the call is still drawing. -/
def startPairing (info : PairingMeta) (draws : PairingDraws) (now : ℤ) (live : Live) :
    Effect (Option NewPairing) :=
  if env.agentMaxDevices ≤ (activeDevices live).length then
    .throw (js "AGENT_MAX_DEVICES_REACHED")
  else if env.agentMaxPendingPairings ≤ (pendingPairings now live).length then
    .throw (js "AGENT_PAIRING_CAPACITY")
  else
    match (draws.codes.map pairingCode).find? fun code => !codeInUse p upper code now live with
    | none => .done none
    | some code =>
        let x := newPairing env draws code now
        .persist
          { live with
            state := { live.state with
              pairings := live.state.pairings.set x.pairingId
                (storedPairing p upper info x now) } }
          (some x)

def Store.createPairing (info : PairingMeta) (draws : PairingDraws) (now : ℤ) (store : Store)
    (writes : Bool) : Except JsString (Option NewPairing) × Store :=
  Store.run { store with live := dropStalePairings now store.live }
    (startPairing p upper env info draws now) writes

def approvePairingByCode (code : JsString) (now : ℤ) (live : Live) :
    Effect (Option StoredPairing) :=
  match live.state.pairings.find? fun x =>
      x.codeHash = p.digest (normalizePairCode upper code) && !x.isClaimed &&
        now ≤ x.expiresAt with
  | none => .done none
  | some (k, x) =>
      .persist
        { live with
          state := { live.state with
            pairings := live.state.pairings.set k { x with approvedAt := some now } } }
        (some { x with approvedAt := some now })

/-- `` `wdv_${deviceId}.${secret}` ``. -/
def deviceToken (pollToken deviceId : JsString) : JsString :=
  js "wdv_" ++ deviceId ++ js "." ++ base64url (p.hmacSha256 pollToken deviceId)

inductive ClaimResult where
  | pending
  | expired
  | invalid
  | paired (device : StoredDevice) (deviceToken : JsString)
  deriving DecidableEq

def newDeviceId (draw : RandomText) : JsString := js "dev_" ++ draw.text

def newDevice (x : StoredPairing) (pollToken deviceId : JsString) (now : ℤ) : StoredDevice where
  deviceId := deviceId
  displayName := x.hostname
  hostname := x.hostname
  os := x.os
  agentVersion := x.agentVersion
  fingerprint := x.fingerprint
  credentialHash := p.digest (deviceToken p pollToken deviceId)
  createdAt := now

/-- An object outside the table has no `poll_hash`, and the device id of a
pairing is one that a claim drew. -/
def claimPairing (pairingId pollToken : JsString) (draw : RandomText) (now : ℤ) (live : Live) :
    Effect ClaimResult :=
  match live.state.pairings.get? pairingId with
  | none => .done .invalid
  | some x =>
      if x.pollHash ≠ p.digest pollToken then .done .invalid
      else if x.expiresAt < now then .done .expired
      else if !isSet x.approvedAt then .done .pending
      else
        match x.deviceId.bind live.state.devices.get? with
        | some d => .done (.paired d (deviceToken p pollToken d.deviceId))
        | none =>
            let d := newDevice p x pollToken (newDeviceId draw) now
            .persist
              { live with
                state := { live.state with
                  devices := live.state.devices.set d.deviceId d
                  pairings := live.state.pairings.set pairingId
                    { x with deviceId := some d.deviceId, claimedAt := some now } } }
              (.paired d (deviceToken p pollToken d.deviceId))

end Operations

/-! ## The machine -/

inductive PairingInput where
  | create (info : PairingMeta) (draws : PairingDraws) (now : ℤ) (writes : Bool)
  | approve (code : JsString) (now : ℤ) (writes : Bool)
  | claim (pairingId pollToken : JsString) (draw : RandomText) (now : ℤ) (writes : Bool)
  | revokeDevice (deviceId : JsString) (now : ℤ) (writes : Bool)
  | purgeState (now : ℤ) (writes : Bool)
  | restart (now : ℤ)

inductive PairingReply where
  | failed (message : JsString)
  | drawing
  | created (pairing : NewPairing)
  | approved (pairing : Option StoredPairing)
  | claimed (result : ClaimResult)
  | revoked (found : Bool)
  | done
  deriving DecidableEq

/-- What a call returned, or the exception it threw. -/
def answered {α : Type} (reply : α → PairingReply) (r : Except JsString α × Store) :
    PairingReply × Store :=
  match r with
  | (.error e, store) => (.failed e, store)
  | (.ok x, store) => (reply x, store)

theorem answered_snd {α : Type} (reply : α → PairingReply) (r : Except JsString α × Store) :
    (answered reply r).2 = r.2 := by
  obtain ⟨result, store⟩ := r
  cases result <;> rfl

def PairingReply.ofCreated : Option NewPairing → PairingReply
  | none => .drawing
  | some x => .created x

section Machine

variable (p : Platform) (upper : UpperCase) (env : PairingEnv)

def PairingInput.step (store : Store) : PairingInput → PairingReply × Store
  | create info draws now writes =>
      answered .ofCreated (store.createPairing p upper env info draws now writes)
  | approve code now writes =>
      answered .approved (store.run (approvePairingByCode p upper code now) writes)
  | claim pairingId pollToken draw now writes =>
      answered .claimed (store.run (claimPairing p pairingId pollToken draw now) writes)
  | revokeDevice deviceId now writes =>
      answered .revoked (store.run (RemoteOps.revokeDevice deviceId now) writes)
  | purgeState now writes =>
      answered (fun _ => .done) (store.run (RemoteOps.purgeState env.store now) writes)
  | restart now => (.done, store.restart env.store now)

def pairing : Machine Store PairingInput PairingReply where
  start := Store.initial
  step := PairingInput.step p upper env

end Machine

/-- The ids and tokens an input draws. -/
def PairingInput.names : PairingInput → List JsString
  | create _ draws _ _ => [draws.pairingId.text, draws.pollToken.text]
  | claim _ _ draw _ _ => [newDeviceId draw]
  | _ => []

/-- Whether the write an input makes, if any, succeeds. -/
def PairingInput.writes : PairingInput → Bool
  | create _ _ _ writes => writes
  | approve _ _ writes => writes
  | claim _ _ _ _ writes => writes
  | revokeDevice _ _ writes => writes
  | purgeState _ writes => writes
  | restart _ => true

/-! ## A small deployment -/

def sampleUpper : UpperCase := ⟨asciiUpper, fun _ _ => rfl⟩

def samplePairingEnv : PairingEnv := ⟨1, 5, 10, ⟨50, 24, 90⟩⟩

def samplePoll : RandomText := ⟨js "poll", List.all_eq_true.mp (by decide)⟩

def sampleDraw : RandomText := ⟨js "one", List.all_eq_true.mp (by decide)⟩

def sampleUuid : RandomUuid := ⟨js "00000000-0000-4000-8000-000000000001", by decide⟩

/-- A host is paired with the code `WD-AAAA-AAAA`. -/
def samplePairing : List PairingInput :=
  [.create ⟨js "host", none, none, none⟩ ⟨[fun _ => 0], samplePoll, sampleUuid⟩ 1000 true,
    .approve (js " wd-aaaa-aaaa") 2000 true,
    .claim sampleUuid.text samplePoll.text sampleDraw 3000 true]

end RemoteOps

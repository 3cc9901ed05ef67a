import RemoteOps.State.Pairings

/-!
# What a pairing step can do

`PairingCase` lists, for one input, what may become of the pairings and the
devices; `pairingMove_step` says that nothing else happens as long as writes
succeed and revocations are plain. Every later argument about runs goes
through these cases.

A step either writes memory to the file or only forgets pairings, so that memory is
the file with some pairings forgotten.
-/

namespace RemoteOps

open Ecma Transition

/-! ## The cases -/

/-- Only pairings are forgotten. -/
structure Forgets (s s' : PersistentState) : Prop where
  devices : s'.devices = s.devices
  pairings : ∀ k x, s'.pairings.get? k = some x → s.pairings.get? k = some x

theorem Forgets.refl (s : PersistentState) : Forgets s s := ⟨rfl, fun _ _ h => h⟩

theorem Forgets.trans {s s' s'' : PersistentState} (h : Forgets s s') (h' : Forgets s' s'') :
    Forgets s s'' :=
  ⟨h'.devices.trans h.devices, fun k x hx => h.pairings k x (h'.pairings k x hx)⟩

/-- Replies that report neither a new pairing, nor an approval, nor a device, nor a
revocation. -/
def PairingReply.IsSilent : PairingReply → Prop
  | failed _ => True
  | drawing => True
  | created _ => False
  | approved found => found = none
  | claimed result => ∀ d t, result ≠ .paired d t
  | revoked found => found = false
  | done => True

section Cases

variable (p : Platform) (upper : UpperCase) (env : PairingEnv)

/-- The pairing `k` may be claimed with this poll token. -/
structure Claimable (s : PersistentState) (k pollToken : JsString) (now : ℤ) (x : StoredPairing) :
    Prop where
  stored : s.pairings.get? k = some x
  pollHash : x.pollHash = p.digest pollToken
  unexpired : now ≤ x.expiresAt
  approved : isSet x.approvedAt = true

/-- The device after a revocation at `now`. -/
def StoredDevice.revokedAtTime (now : ℤ) (d : StoredDevice) : StoredDevice :=
  if isSet d.revokedAt then d else { d with revokedAt := some now }

inductive PairingCase (s : PersistentState) :
    PairingInput → PairingReply → PersistentState → Prop
  | silent {i reply s'} (h : Forgets s s') (hreply : reply.IsSilent) : PairingCase s i reply s'
  | created {info draws now writes bytes s' x} (hx : x = newPairing env draws (pairingCode bytes) now)
      (hdevices : s'.devices = s.devices)
      (hpairings : ∀ k y, s'.pairings.get? k = some y →
        k = x.pairingId ∧ y = storedPairing p upper info x now ∨ s.pairings.get? k = some y) :
      PairingCase s (.create info draws now writes) (.created x) s'
  | approved {code now writes k x s'} (hstored : s.pairings.get? k = some x)
      (hcode : x.codeHash = p.digest (normalizePairCode upper code)) (hnow : now ≤ x.expiresAt)
      (hs' : s' = { s with pairings := s.pairings.set k { x with approvedAt := some now } }) :
      PairingCase s (.approve code now writes) (.approved (some { x with approvedAt := some now }))
        s'
  | enrolled {k pollToken draw now writes x s'} (h : Claimable p s k pollToken now x)
      (hnone : x.deviceId.bind s.devices.get? = none)
      (hs' : s' = { s with
        devices := s.devices.set (newDeviceId draw) (newDevice p x pollToken (newDeviceId draw) now)
        pairings := s.pairings.set k
          { x with deviceId := some (newDeviceId draw), claimedAt := some now } }) :
      PairingCase s (.claim k pollToken draw now writes)
        (.claimed (.paired (newDevice p x pollToken (newDeviceId draw) now)
          (deviceToken p pollToken (newDeviceId draw)))) s'
  | replayed {k pollToken draw now writes x id d} (h : Claimable p s k pollToken now x)
      (hid : x.deviceId = some id) (hd : s.devices.get? id = some d) :
      PairingCase s (.claim k pollToken draw now writes)
        (.claimed (.paired d (deviceToken p pollToken d.deviceId))) s
  | revoked {id now writes d s'} (hd : s.devices.get? id = some d)
      (hpairings : s'.pairings = s.pairings)
      (hdevices : ∀ k, s'.devices.get? k =
        if k = id then some (d.revokedAtTime now) else s.devices.get? k) :
      PairingCase s (.revokeDevice id now writes) (.revoked true) s'
  | foreign {id now writes} (hd : s.devices.get? id = none) (hid : IsInherited id) :
      PairingCase s (.revokeDevice id now writes) (.revoked true) s

end Cases

/-- A revocation of an id other than `__proto__`, at a time that counts as set. -/
def PairingInput.RevokesPlainly : PairingInput → Prop
  | revokeDevice id now _ => id ≠ js "__proto__" ∧ now ≠ 0
  | _ => True

instance decidableRevokesPlainly : (i : PairingInput) → Decidable i.RevokesPlainly
  | .revokeDevice id now _ => inferInstanceAs (Decidable (id ≠ js "__proto__" ∧ now ≠ 0))
  | .create _ _ _ _ => inferInstanceAs (Decidable True)
  | .approve _ _ _ => inferInstanceAs (Decidable True)
  | .claim _ _ _ _ _ => inferInstanceAs (Decidable True)
  | .purgeState _ _ => inferInstanceAs (Decidable True)
  | .restart _ => inferInstanceAs (Decidable True)

/-! ## One step -/

section Step

variable {p : Platform} {upper : UpperCase} {env : PairingEnv}

theorem forgets_dropStalePairings (now : ℤ) (live : Live) :
    Forgets live.state (dropStalePairings now live).state :=
  ⟨rfl, fun _ _ h => (Record.get?_of_get?_filter h).1⟩

theorem forgets_purged (storeEnv : StoreEnv) (now : ℤ) (live : Live) :
    Forgets live.state (purged storeEnv now live).1 :=
  ⟨rfl, fun _ _ h => (Record.get?_of_get?_filter h).1⟩

/-- The outcome of a step on memory and file. -/
structure PairingMove (p : Platform) (upper : UpperCase) (env : PairingEnv) (store : Store)
    (i : PairingInput) (reply : PairingReply) (store' : Store) : Prop where
  live : PairingCase p upper env store.live.state i reply store'.live.state
  file : store'.file = store'.live.state ∨
    store'.file = store.file ∧ Forgets store.live.state store'.live.state
  realm : store'.live.realm.revokedAt = store.live.realm.revokedAt

theorem pairingMove_create (info : PairingMeta) (draws : PairingDraws) (now : ℤ) (store : Store) :
    PairingMove p upper env store (.create info draws now true)
      (PairingInput.step p upper env store (.create info draws now true)).1
      (PairingInput.step p upper env store (.create info draws now true)).2 := by
  have hdrop := forgets_dropStalePairings now store.live
  rw [PairingInput.step, Store.createPairing, Store.run]
  simp only [if_true]
  rw [startPairing]
  split_ifs
  · exact ⟨.silent hdrop trivial, Or.inr ⟨rfl, hdrop⟩, rfl⟩
  · exact ⟨.silent hdrop trivial, Or.inr ⟨rfl, hdrop⟩, rfl⟩
  · cases hfind : (draws.codes.map pairingCode).find? fun code =>
        !codeInUse p upper code now (dropStalePairings now store.live) with
    | none => exact ⟨.silent hdrop trivial, Or.inr ⟨rfl, hdrop⟩, rfl⟩
    | some code =>
        obtain ⟨bytes, -, rfl⟩ := List.mem_map.mp (List.mem_of_find?_eq_some hfind)
        refine ⟨.created rfl rfl ?_, Or.inl rfl, rfl⟩
        intro k y hy
        simp only [answered] at hy
        rw [Record.get?_set] at hy
        split_ifs at hy with hk
        · exact Or.inl ⟨hk, (Option.some.inj hy).symm⟩
        · exact Or.inr (hdrop.pairings k y hy)

theorem pairingMove_approve (code : JsString) (now : ℤ) (store : Store) :
    PairingMove p upper env store (.approve code now true)
      (PairingInput.step p upper env store (.approve code now true)).1
      (PairingInput.step p upper env store (.approve code now true)).2 := by
  rw [PairingInput.step, Store.run, approvePairingByCode]
  cases hfind : store.live.state.pairings.find? fun x =>
      x.codeHash = p.digest (normalizePairCode upper code) && !x.isClaimed &&
        now ≤ x.expiresAt with
  | none => exact ⟨.silent (Forgets.refl _) rfl, Or.inr ⟨rfl, Forgets.refl _⟩, rfl⟩
  | some found =>
      obtain ⟨hget, htest⟩ := Record.find?_some hfind
      simp only [Bool.and_eq_true, decide_eq_true_eq] at htest
      exact ⟨.approved hget htest.1.1 htest.2 rfl, Or.inl rfl, rfl⟩

theorem pairingMove_claim (k pollToken : JsString) (draw : RandomText) (now : ℤ) (store : Store) :
    PairingMove p upper env store (.claim k pollToken draw now true)
      (PairingInput.step p upper env store (.claim k pollToken draw now true)).1
      (PairingInput.step p upper env store (.claim k pollToken draw now true)).2 := by
  rw [PairingInput.step, Store.run]
  simp only [if_true]
  rw [claimPairing]
  cases hget : store.live.state.pairings.get? k with
  | none => exact ⟨.silent (Forgets.refl _) (by simp [answered, PairingReply.IsSilent]),
      Or.inr ⟨rfl, Forgets.refl _⟩, rfl⟩
  | some x =>
      dsimp only
      split_ifs with hhash hexpired happroved
      · exact ⟨.silent (Forgets.refl _) (by simp [answered, PairingReply.IsSilent]),
          Or.inr ⟨rfl, Forgets.refl _⟩, rfl⟩
      · exact ⟨.silent (Forgets.refl _) (by simp [answered, PairingReply.IsSilent]),
          Or.inr ⟨rfl, Forgets.refl _⟩, rfl⟩
      · exact ⟨.silent (Forgets.refl _) (by simp [answered, PairingReply.IsSilent]),
          Or.inr ⟨rfl, Forgets.refl _⟩, rfl⟩
      · have hclaimable : Claimable p store.live.state k pollToken now x :=
          ⟨hget, not_not.mp hhash, not_lt.mp hexpired, by simpa using happroved⟩
        cases hdevice : x.deviceId.bind store.live.state.devices.get? with
        | none => exact ⟨.enrolled hclaimable hdevice rfl, Or.inl rfl, rfl⟩
        | some d =>
            obtain ⟨id, hid, hd⟩ := Option.bind_eq_some_iff.mp hdevice
            exact ⟨.replayed hclaimable hid hd, Or.inr ⟨rfl, Forgets.refl _⟩, rfl⟩

theorem revokedAtTime_of_unset {d : StoredDevice} (h : isSet d.revokedAt = false) (now : ℤ) :
    d.revokedAtTime now = { d with revokedAt := some now } := by
  rw [StoredDevice.revokedAtTime, if_neg (by simp [h])]

theorem revokedAtTime_of_set {d : StoredDevice} (h : isSet d.revokedAt = true) (now : ℤ) :
    d.revokedAtTime now = d := by
  rw [StoredDevice.revokedAtTime, if_pos h]

theorem pairingMove_revoke {id : JsString} (now : ℤ) {store : Store}
    (hid : id ≠ js "__proto__") (hrealm : isSet store.live.realm.revokedAt = false) :
    PairingMove p upper env store (.revokeDevice id now true)
      (PairingInput.step p upper env store (.revokeDevice id now true)).1
      (PairingInput.step p upper env store (.revokeDevice id now true)).2 := by
  rw [PairingInput.step, Store.run]
  simp only [if_true]
  rw [revokeDevice]
  cases hget : store.live.state.devices.get? id with
  | some d =>
      rw [Realm.slot_eq_own hget]
      dsimp only
      rw [isRevoked_of_unmarked hrealm]
      split_ifs with hset
      · refine ⟨.revoked hget rfl ?_, Or.inl rfl, rfl⟩
        intro k
        rw [revokedAtTime_of_unset (by simpa using hset)]
        exact Record.get?_set _ _ _ k
      · refine ⟨.revoked hget rfl ?_, Or.inl rfl, rfl⟩
        intro k
        rw [revokedAtTime_of_set (by simpa using hset)]
        split_ifs with hk
        · rw [hk]
          exact hget
        · rfl
  | none =>
      rw [Realm.slot, hget]
      dsimp only
      rw [if_neg hid]
      split_ifs with hmethod hnumber
      · dsimp only
        rw [isRevoked_of_unmarked hrealm]
        have hinherited : IsInherited id := Or.inr (Or.inl hmethod)
        split_ifs
        · exact ⟨.foreign hget hinherited, Or.inl rfl, rfl⟩
        · exact ⟨.foreign hget hinherited, Or.inl rfl, rfl⟩
      · rw [hrealm] at hnumber
        exact absurd hnumber.2 (by simp)
      · exact ⟨.silent (Forgets.refl _) rfl, Or.inr ⟨rfl, Forgets.refl _⟩, rfl⟩

theorem pairingMove_purge (now : ℤ) (store : Store) :
    PairingMove p upper env store (.purgeState now true)
      (PairingInput.step p upper env store (.purgeState now true)).1
      (PairingInput.step p upper env store (.purgeState now true)).2 := by
  rw [PairingInput.step, Store.run]
  simp only [if_true]
  rw [purgeState]
  dsimp only
  split_ifs
  · exact ⟨.silent (forgets_purged _ _ _) trivial, Or.inl rfl, rfl⟩
  · exact ⟨.silent (Forgets.refl _) trivial, Or.inr ⟨rfl, Forgets.refl _⟩, rfl⟩

/-- A restart forgets what memory had not written, and some pairings. -/
theorem forgets_restart (storeEnv : StoreEnv) (now : ℤ) (store : Store) :
    Forgets store.file (store.restart storeEnv now).live.state :=
  forgets_purged storeEnv now ⟨store.file, Realm.fresh, Record.empty⟩

/-- A restart: memory is the file with some pairings forgotten. -/
structure PairingReload (store : Store) (reply : PairingReply) (store' : Store) : Prop where
  reply : reply = .done
  forgets : Forgets store.file store'.live.state
  file : store'.file = store.file
  unmarked : isSet store'.live.realm.revokedAt = false

theorem pairingMove_step {i : PairingInput} {store : Store} (hwrites : i.writes = true)
    (hplain : i.RevokesPlainly) (hrealm : isSet store.live.realm.revokedAt = false) :
    PairingMove p upper env store i (PairingInput.step p upper env store i).1
        (PairingInput.step p upper env store i).2 ∨
      PairingReload store (PairingInput.step p upper env store i).1
        (PairingInput.step p upper env store i).2 := by
  cases i with
  | create info draws now writes =>
      obtain rfl : writes = true := hwrites
      exact Or.inl (pairingMove_create info draws now store)
  | approve code now writes =>
      obtain rfl : writes = true := hwrites
      exact Or.inl (pairingMove_approve code now store)
  | claim k pollToken draw now writes =>
      obtain rfl : writes = true := hwrites
      exact Or.inl (pairingMove_claim k pollToken draw now store)
  | revokeDevice id now writes =>
      obtain rfl : writes = true := hwrites
      exact Or.inl (pairingMove_revoke now hplain.1 hrealm)
  | purgeState now writes =>
      obtain rfl : writes = true := hwrites
      exact Or.inl (pairingMove_purge now store)
  | restart now => exact Or.inr ⟨rfl, forgets_restart env.store now store, rfl, rfl⟩

end Step

end RemoteOps

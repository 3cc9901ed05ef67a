import RemoteOps.State.PairingInvariant

/-!
# Devices are paired once

A pairing that was started, approved by its own code and claimed with its own poll
token becomes one device. Later claims find that device and compute its token
again. The token authenticates the device until it is revoked.

A claim that is answered leaves the pairing bound to its device (`BoundTo`), in the
file and so in every memory that is read back from it.
-/

namespace RemoteOps

open Ecma Transition

/-! ## The property -/

section Property

variable (p : Platform) (upper : UpperCase) (env : PairingEnv)

/-- The input, coming after `is`, creates the device `d` under `k`. -/
def Enrols (is : List PairingInput) (i : PairingInput) (k : JsString) (d : StoredDevice) : Prop :=
  ((pairing p upper env).after is).live.state.devices.get? k = none ∧
    ((pairing p upper env).after (is ++ [i])).live.state.devices.get? k = some d

/-- The claim of the pairing `k`, coming after `is`, is answered with this device
and token. -/
def Pairs (is : List PairingInput) (i : PairingInput) (k : JsString) (d : StoredDevice)
    (token : JsString) : Prop :=
  (∃ pollToken draw now writes, i = .claim k pollToken draw now writes) ∧
    (pairing p upper env).answer is i = .claimed (.paired d token)

structure PairingIsSound (is : List PairingInput) : Prop where
  /-- a device is created by the claim of a pairing approved in time, made with
  the poll token and in time -/
  earned : ∀ pre i post k d, is = pre ++ i :: post → Enrols p upper env pre i k d →
    ∃ x draw now writes, i = .claim x.pairingId x.pollToken draw now writes ∧
      now ≤ x.expiresAt ∧ ApprovedIn p upper env pre x
  oneDevice : ∀ pre i post k k' d d', is = pre ++ i :: post → Enrols p upper env pre i k d →
    Enrols p upper env pre i k' d' → k = k'
  /-- no pairing creates a second device -/
  onePairing : ∀ pre i mid j post k k' d d' q pollToken pollToken' draw draw' now now' writes writes',
    is = pre ++ i :: mid ++ j :: post → i = .claim q pollToken draw now writes →
      j = .claim q pollToken' draw' now' writes' → Enrols p upper env pre i k d →
        ¬Enrols p upper env (pre ++ i :: mid) j k' d'
  /-- every claim of a pairing is answered alike -/
  replay : ∀ pre i mid j post q d d' token token', is = pre ++ i :: mid ++ j :: post →
    Pairs p upper env pre i q d token → Pairs p upper env (pre ++ i :: mid) j q d' token' →
      d.deviceId = d'.deviceId ∧ token = token'
  /-- the token is that of the device until the device is revoked -/
  authenticates : ∀ pre i post q d token, is = pre ++ i :: post →
    Pairs p upper env pre i q d token → ¬RevokedIn p upper env is d.deviceId →
      ∃ d', authenticateDeviceToken p.digest token ((pairing p upper env).after is).live = some d' ∧
        d'.deviceId = d.deviceId
  barred : ∀ pre i post q d token, is = pre ++ i :: post →
    Pairs p upper env pre i q d token → RevokedIn p upper env is d.deviceId →
      authenticateDeviceToken p.digest token ((pairing p upper env).after is).live = none

end Property

/-! ## What a claim leaves behind -/

section Claims

variable {p : Platform} {upper : UpperCase} {env : PairingEnv}

/-- The pairing `q`, if it is stored, belongs to the device `id`. -/
def BoundTo (s : PersistentState) (q id pollHash : JsString) : Prop :=
  ∀ y, s.pairings.get? q = some y → y.deviceId = some id ∧ y.pollHash = pollHash

theorem BoundTo.of_forgets {s s' : PersistentState} {q id pollHash : JsString}
    (h : BoundTo s q id pollHash) (hforgets : Forgets s s') : BoundTo s' q id pollHash :=
  fun y hy => h y (hforgets.pairings q y hy)

theorem BoundTo.step {is : List PairingInput} {s s' : PersistentState} {i : PairingInput}
    {reply : PairingReply} {q id pollHash : JsString} (hbound : BoundTo s q id pollHash)
    (hok : PairingsOk p upper env is s) (hnew : q ∉ i.names)
    (h : PairingCase p upper env s i reply s') : BoundTo s' q id pollHash := by
  cases h with
  | silent h => exact hbound.of_forgets h
  | @created _ draws now _ _ _ x hx _ hpairings =>
      intro y hy
      rcases hpairings q y hy with ⟨hq, -⟩ | hy
      · rw [hq, hx] at hnew
        exact absurd (by simp [PairingInput.names, newPairing]) hnew
      · exact hbound y hy
  | @approved _ _ _ k x _ hstored _ _ hs' =>
      intro y hy
      rw [hs', Record.get?_set] at hy
      split_ifs at hy with hk
      · obtain rfl := Option.some.inj hy
        exact hbound x (hk ▸ hstored)
      · exact hbound y hy
  | @enrolled k _ _ _ _ x _ hclaim hnone hs' =>
      intro y hy
      rw [hs', Record.get?_set] at hy
      split_ifs at hy with hk
      · obtain ⟨hid, -⟩ := hbound x (hk ▸ hclaim.stored)
        obtain ⟨_, hx⟩ := hok k x hclaim.stored
        obtain ⟨d, hd, -⟩ := hx.device id hid
        rw [hid, Option.bind_some, hd] at hnone
        cases hnone
      · exact hbound y hy
  | replayed => exact hbound
  | revoked _ hpairings _ =>
      intro y hy
      rw [hpairings] at hy
      exact hbound y hy
  | foreign => exact hbound

/-- A binding in the file lasts. -/
theorem boundTo_after (hp : p.CollisionFree) {pre post : List PairingInput} {q id pollHash : JsString}
    (hrun : PairingRun (pre ++ post)) (hdrawn : q ∈ pre.flatMap PairingInput.names)
    (h : BoundTo ((pairing p upper env).after pre).file q id pollHash) :
    BoundTo ((pairing p upper env).after (pre ++ post)).file q id pollHash := by
  refine ((pairing p upper env).stable prefixClosed_pairingRun
    (P := fun is store => q ∈ is.flatMap PairingInput.names ∧ BoundTo store.file q id pollHash)
    ?_ pre post hrun ⟨hdrawn, h⟩).2
  rintro is i hrun ⟨hdrawn, hbound⟩
  have hinv : PairingInvariant p upper env is ((pairing p upper env).after is) :=
    pairingInvariant_after hp (prefixClosed_pairingRun is i hrun)
  rw [← Machine.after_concat]
  constructor
  · rw [List.flatMap_append]
    exact List.mem_append_left _ hdrawn
  · have hnew : q ∉ i.names := fun hq => hrun.1.notMem hq hdrawn
    rcases pairing_step hrun hinv with hmove | hreload
    · rcases hmove.file with hfile | ⟨hfile, -⟩
      · rw [hfile]
        exact (hbound.of_forgets hinv.trails).step hinv.live hnew hmove.live
      · rw [hfile]
        exact hbound
    · rw [hreload.file]
      exact hbound

/-- The device `id` is stored, with a credential that lasts. -/
theorem credential_after (hp : p.CollisionFree) {pre post : List PairingInput} {id hash : JsString}
    (hrun : PairingRun (pre ++ post))
    (h : ∃ d, ((pairing p upper env).after pre).live.state.devices.get? id = some d ∧
      d.credentialHash = hash) :
    ∃ d, ((pairing p upper env).after (pre ++ post)).live.state.devices.get? id = some d ∧
      d.credentialHash = hash := by
  refine (pairing p upper env).stable prefixClosed_pairingRun
    (P := fun _ store => ∃ d, store.live.state.devices.get? id = some d ∧ d.credentialHash = hash)
    ?_ pre post hrun h
  rintro is i hrun ⟨d, hd, hhash⟩
  have hinv : PairingInvariant p upper env is ((pairing p upper env).after is) :=
    pairingInvariant_after hp (prefixClosed_pairingRun is i hrun)
  rw [← Machine.after_concat]
  rcases pairing_step hrun hinv with hmove | hreload
  · have hnew : id ∉ i.names := fun hid => hrun.1.notMem hid (hinv.devices.device id d hd).drawn
    obtain ⟨d', hd', hsame, -⟩ := hmove.live.keeps_device hnew hd
    exact ⟨d', hd', hsame.trans hhash⟩
  · rw [hreload.forgets.devices, ← hinv.trails.devices]
    exact ⟨d, hd, hhash⟩

/-- What an answered claim leaves in memory. -/
structure ClaimTrace (p : Platform) (upper : UpperCase) (env : PairingEnv)
    (is : List PairingInput) (store : Store) (q : JsString) (d : StoredDevice) (token : JsString)
    (x : NewPairing) (draw : RandomText) : Prop where
  drawn : q ∈ is.flatMap PairingInput.names
  bound : BoundTo store.file q d.deviceId (p.digest x.pollToken)
  stored : ∃ y, store.live.state.pairings.get? q = some y ∧ y.deviceId = some d.deviceId
  ascii : ∀ u ∈ x.pollToken, isAscii u = true
  isToken : token = deviceToken p x.pollToken d.deviceId
  newId : d.deviceId = newDeviceId draw
  credential : ∃ d', store.live.state.devices.get? d.deviceId = some d' ∧
    d'.credentialHash = p.digest token

theorem Pairs.trace (hp : p.CollisionFree) {is : List PairingInput} {i : PairingInput}
    {q : JsString} {d : StoredDevice} {token : JsString} (hrun : PairingRun (is ++ [i]))
    (h : Pairs p upper env is i q d token) :
    ∃ x draw, ClaimTrace p upper env (is ++ [i]) ((pairing p upper env).after (is ++ [i])) q d token
      x draw := by
  obtain ⟨⟨pollToken, draw, now, writes, rfl⟩, hanswer⟩ := h
  have hinv : PairingInvariant p upper env is ((pairing p upper env).after is) :=
    pairingInvariant_after hp (prefixClosed_pairingRun is _ hrun)
  have hinv' : PairingInvariant p upper env _ _ := pairingInvariant_after hp hrun
  have hmove := (pairing_step hrun hinv).resolve_right fun hreload => by
    rw [hreload.reply] at hanswer
    cases hanswer
  obtain ⟨y, hy, hid, hhash, htoken⟩ : ∃ y : StoredPairing,
      ((pairing p upper env).after (is ++ [.claim q pollToken draw now writes])).live.state.pairings.get?
          q = some y ∧ y.deviceId = some d.deviceId ∧ y.pollHash = p.digest pollToken ∧
        token = deviceToken p pollToken d.deviceId := by
    have hcase := hmove.live
    rw [hanswer] at hcase
    generalize ((pairing p upper env).after (is ++ [.claim q pollToken draw now writes])).live.state
      = s' at hcase
    cases hcase with
    | silent _ hreply => exact absurd rfl (hreply d token)
    | enrolled hclaim _ hs' =>
        rw [hs']
        exact ⟨_, Record.get?_set_self _ _ _, rfl, hclaim.pollHash, rfl⟩
    | replayed hclaim hid hd =>
        have hkey := (hinv.devices.device _ _ hd).deviceId
        exact ⟨_, hclaim.stored, by rw [hid, hkey], hclaim.pollHash, rfl⟩
  obtain ⟨x, hx⟩ := hinv'.live q y hy
  have hpoll : x.pollToken = pollToken :=
    eq_of_toChars_eq hx.asciiPoll (hp.toChars_eq (hx.pollHash.symm.trans hhash))
  obtain ⟨d', hd', hcredential⟩ := hx.device _ hid
  obtain ⟨draw', hdraw'⟩ := (hinv'.devices.device _ _ hd').newId
  rw [← hpoll] at htoken
  refine ⟨x, draw', hx.drawn, ?_, ⟨y, hy, hid⟩, hx.asciiPoll, htoken, hdraw', d', hd', ?_⟩
  · intro y' hy'
    obtain rfl := Option.some.inj ((hinv'.trails.pairings q y hy).symm.trans hy')
    exact ⟨hid, hx.pollHash⟩
  · rw [htoken]
    exact hcredential

/-- Only a claim creates a device. -/
theorem Enrols.claim (hp : p.CollisionFree) {is : List PairingInput} {i : PairingInput}
    {k : JsString} {d : StoredDevice} (hrun : PairingRun (is ++ [i]))
    (h : Enrols p upper env is i k d) :
    ∃ q pollToken draw now writes y, i = .claim q pollToken draw now writes ∧
      k = newDeviceId draw ∧ d.deviceId = k ∧
      Claimable p ((pairing p upper env).after is).live.state q pollToken now y ∧
      y.deviceId.bind ((pairing p upper env).after is).live.state.devices.get? = none ∧
      Pairs p upper env is i q d (deviceToken p pollToken k) := by
  obtain ⟨hnone, hsome⟩ := h
  have hinv : PairingInvariant p upper env is ((pairing p upper env).after is) :=
    pairingInvariant_after hp (prefixClosed_pairingRun is _ hrun)
  have hsame : ((pairing p upper env).after (is ++ [i])).live.state.devices ≠
      ((pairing p upper env).after is).live.state.devices := by
    intro heq
    rw [heq, hnone] at hsome
    cases hsome
  have hmove := (pairing_step hrun hinv).resolve_right fun hreload =>
    hsame (hreload.forgets.devices.trans hinv.trails.devices.symm)
  have hcase := hmove.live
  generalize hreply : (pairing p upper env).answer is i = reply at hcase
  generalize ((pairing p upper env).after (is ++ [i])).live.state = s' at hcase hsome hsame
  cases hcase with
  | silent h => exact absurd h.devices hsame
  | created _ hdevices _ => exact absurd hdevices hsame
  | approved _ _ _ hs' => exact absurd (by rw [hs']) hsame
  | @enrolled q pollToken draw now writes y _ hclaim hbind hs' =>
      rw [hs', Record.get?_set] at hsome
      split_ifs at hsome with hk
      · obtain rfl := Option.some.inj hsome
        rw [hk]
        exact ⟨q, pollToken, draw, now, writes, y, rfl, rfl, rfl, hclaim, hbind,
          ⟨pollToken, draw, now, writes, rfl⟩, hreply⟩
      · rw [hnone] at hsome
        cases hsome
  | replayed => exact absurd rfl hsame
  | @revoked id now writes d₀ _ hd₀ _ hdevices =>
      rw [hdevices] at hsome
      split_ifs at hsome with hk
      · rw [hk, hd₀] at hnone
        cases hnone
      · rw [hnone] at hsome
        cases hsome
  | foreign => exact absurd rfl hsame

/-- The token of a stored device authenticates that device, unless it is revoked. -/
theorem authenticate_of_stored (hp : p.CollisionFree) {is : List PairingInput} {store : Store}
    (hinv : PairingInvariant p upper env is store) {pollToken : JsString} {draw : RandomText}
    {d : StoredDevice} (hd : store.live.state.devices.get? (newDeviceId draw) = some d)
    (hhash : d.credentialHash = p.digest (deviceToken p pollToken (newDeviceId draw))) :
    authenticateDeviceToken p.digest (deviceToken p pollToken (newDeviceId draw)) store.live =
      if isSet d.revokedAt then none else some d := by
  have honly : ∀ k d', store.live.state.devices.find? (fun e => e.credentialHash =
        p.digest (deviceToken p pollToken (newDeviceId draw)) &&
          !store.live.realm.isRevoked e.revokedAt) = some (k, d') →
      d' = d ∧ isSet d.revokedAt = false := by
    intro k d' hfind
    obtain ⟨hget, htest⟩ := Record.find?_some hfind
    simp only [Bool.and_eq_true, decide_eq_true_eq, Bool.not_eq_true',
      isRevoked_of_unmarked hinv.unmarked] at htest
    have hok := hinv.devices.device k d' hget
    obtain ⟨draw', rfl⟩ := hok.newId
    obtain ⟨pollToken', hcredential⟩ := hok.credential
    rw [newDeviceId_of_digest hp (hcredential.symm.trans htest.1), hd] at hget
    obtain rfl := Option.some.inj hget
    exact ⟨rfl, htest.2⟩
  rw [authenticateDeviceToken]
  split_ifs with hset
  · rw [Option.map_eq_none_iff]
    cases hfind : store.live.state.devices.find? fun e => e.credentialHash =
        p.digest (deviceToken p pollToken (newDeviceId draw)) &&
          !store.live.realm.isRevoked e.revokedAt with
    | none => rfl
    | some found =>
        obtain ⟨-, hunset⟩ := honly found.1 found.2 hfind
        rw [hset] at hunset
        cases hunset
  · obtain ⟨k, d', hfind⟩ := Record.find?_isSome (p := fun e : StoredDevice => e.credentialHash =
      p.digest (deviceToken p pollToken (newDeviceId draw)) &&
        !store.live.realm.isRevoked e.revokedAt) hd
        (by simp [hhash, isRevoked_of_unmarked hinv.unmarked, hset])
    rw [hfind, (honly k d' hfind).1]
    rfl

end Claims

/-! ## Pairing is sound -/

section Sound

variable {p : Platform} {upper : UpperCase} {env : PairingEnv}

theorem PairingRun.first {pre post : List PairingInput} {i : PairingInput}
    (h : PairingRun (pre ++ i :: post)) : PairingRun (pre ++ [i]) := by
  rw [List.append_cons] at h
  exact prefixClosed_pairingRun.of_append h

theorem Enrols.earned (hp : p.CollisionFree) {is : List PairingInput} {i : PairingInput}
    {k : JsString} {d : StoredDevice} (hrun : PairingRun (is ++ [i]))
    (h : Enrols p upper env is i k d) :
    ∃ x draw now writes, i = .claim x.pairingId x.pollToken draw now writes ∧
      now ≤ x.expiresAt ∧ ApprovedIn p upper env is x := by
  obtain ⟨q, pollToken, draw, now, writes, y, rfl, -, -, hclaim, -⟩ := h.claim hp hrun
  have hinv : PairingInvariant p upper env is ((pairing p upper env).after is) :=
    pairingInvariant_after hp (prefixClosed_pairingRun is _ hrun)
  obtain ⟨x, hx⟩ := hinv.live q y hclaim.stored
  have hpoll : x.pollToken = pollToken :=
    eq_of_toChars_eq hx.asciiPoll (hp.toChars_eq (hx.pollHash.symm.trans hclaim.pollHash))
  exact ⟨x, draw, now, writes, by rw [hx.key, hpoll], hx.expiresAt ▸ hclaim.unexpired,
    hx.approved hclaim.approved⟩

theorem Enrols.key_unique (hp : p.CollisionFree) {is : List PairingInput} {i : PairingInput}
    {k k' : JsString} {d d' : StoredDevice} (hrun : PairingRun (is ++ [i]))
    (h : Enrols p upper env is i k d) (h' : Enrols p upper env is i k' d') : k = k' := by
  obtain ⟨_, _, draw, _, _, _, rfl, hk, -⟩ := h.claim hp hrun
  obtain ⟨_, _, draw', _, _, _, hi, hk', -⟩ := h'.claim hp hrun
  obtain ⟨-, -, rfl, -, -⟩ := PairingInput.claim.inj hi
  rw [hk, hk']

/-- Once a claim of `q` has been answered, the pairing belongs to that device. -/
theorem Pairs.boundLater (hp : p.CollisionFree) {pre mid : List PairingInput} {i : PairingInput}
    {q : JsString} {d : StoredDevice} {token : JsString} (hrun : PairingRun (pre ++ i :: mid))
    (h : Pairs p upper env pre i q d token) :
    ∃ x : NewPairing, (∀ u ∈ x.pollToken, isAscii u = true) ∧
      token = deviceToken p x.pollToken d.deviceId ∧
        BoundTo ((pairing p upper env).after (pre ++ i :: mid)).file q d.deviceId
          (p.digest x.pollToken) := by
  obtain ⟨x, draw, htrace⟩ := h.trace hp hrun.first
  rw [List.append_cons] at hrun ⊢
  exact ⟨x, htrace.ascii, htrace.isToken, boundTo_after hp hrun htrace.drawn htrace.bound⟩

theorem Enrols.not_again (hp : p.CollisionFree) {pre mid : List PairingInput}
    {q pollToken pollToken' : JsString} {draw draw' : RandomText} {now now' : ℤ}
    {writes writes' : Bool} {k k' : JsString} {d d' : StoredDevice}
    (hrun : PairingRun (pre ++ .claim q pollToken draw now writes :: mid ++
      [.claim q pollToken' draw' now' writes']))
    (h : Enrols p upper env pre (.claim q pollToken draw now writes) k d) :
    ¬Enrols p upper env (pre ++ .claim q pollToken draw now writes :: mid)
      (.claim q pollToken' draw' now' writes') k' d' := by
  intro h'
  have hmid := prefixClosed_pairingRun _ _ hrun
  have hinv : PairingInvariant p upper env _ ((pairing p upper env).after
    (pre ++ .claim q pollToken draw now writes :: mid)) := pairingInvariant_after hp hmid
  obtain ⟨_, _, _, _, _, _, hi, -, -, -, -, hpairs⟩ := h.claim hp hmid.first
  obtain ⟨rfl, -⟩ := PairingInput.claim.inj hi
  obtain ⟨x, -, -, hbound⟩ := hpairs.boundLater hp hmid
  obtain ⟨_, _, _, _, _, y, hi', -, -, hclaim, hnone, -⟩ := h'.claim hp hrun
  obtain ⟨rfl, -⟩ := PairingInput.claim.inj hi'
  obtain ⟨hid, -⟩ := hbound.of_forgets hinv.trails y hclaim.stored
  obtain ⟨_, hy⟩ := hinv.live q y hclaim.stored
  obtain ⟨e, he, -⟩ := hy.device _ hid
  rw [hid, Option.bind_some, he] at hnone
  cases hnone

theorem Pairs.replays (hp : p.CollisionFree) {pre mid : List PairingInput} {i j : PairingInput}
    {q token token' : JsString} {d d' : StoredDevice} (hrun : PairingRun (pre ++ i :: mid ++ [j]))
    (h : Pairs p upper env pre i q d token)
    (h' : Pairs p upper env (pre ++ i :: mid) j q d' token') :
    d.deviceId = d'.deviceId ∧ token = token' := by
  have hlater : PairingRun (pre ++ i :: (mid ++ [j])) := by simpa using hrun
  obtain ⟨x, hascii, htoken, hbound⟩ := h.boundLater hp hlater
  obtain ⟨x', _, htrace⟩ := h'.trace hp hrun
  have hinv : PairingInvariant p upper env _ _ := pairingInvariant_after hp hrun
  obtain ⟨y, hy, hid'⟩ := htrace.stored
  have hstored := hinv.trails.pairings q y hy
  rw [show pre ++ i :: (mid ++ [j]) = pre ++ i :: mid ++ [j] by simp] at hbound
  obtain ⟨hid, hhash⟩ := hbound y hstored
  obtain ⟨-, hhash'⟩ := htrace.bound y hstored
  have hdevice : d.deviceId = d'.deviceId := Option.some.inj (hid.symm.trans hid')
  have hpoll : x.pollToken = x'.pollToken :=
    eq_of_toChars_eq hascii (hp.toChars_eq (hhash.symm.trans hhash'))
  exact ⟨hdevice, by rw [htoken, htrace.isToken, hpoll, hdevice]⟩

/-- What the token of an answered claim authenticates at the end of the run. -/
theorem Pairs.authenticates (hp : p.CollisionFree) {pre post : List PairingInput}
    {i : PairingInput} {q token : JsString} {d : StoredDevice}
    (hrun : PairingRun (pre ++ i :: post)) (h : Pairs p upper env pre i q d token) :
    ∃ d', DeviceOk p upper env (pre ++ i :: post) d.deviceId d' ∧
      ((pairing p upper env).after (pre ++ i :: post)).live.state.devices.get? d.deviceId =
        some d' ∧
      authenticateDeviceToken p.digest token
          ((pairing p upper env).after (pre ++ i :: post)).live =
        if isSet d'.revokedAt then none else some d' := by
  obtain ⟨x, draw, htrace⟩ := h.trace hp hrun.first
  have hinv : PairingInvariant p upper env _ _ := pairingInvariant_after hp hrun
  rw [List.append_cons] at hrun hinv ⊢
  obtain ⟨d', hd', hhash⟩ := credential_after hp hrun htrace.credential
  refine ⟨d', hinv.devices.device _ d' hd', hd', ?_⟩
  rw [htrace.isToken, htrace.newId] at hhash ⊢
  rw [htrace.newId] at hd'
  exact authenticate_of_stored hp hinv hd' hhash

theorem pairingIsSound_of_plain (p : Platform) (upper : UpperCase) (env : PairingEnv)
    (hp : p.CollisionFree) (is : List PairingInput) (hfresh : Fresh PairingInput.names is)
    (hwrites : ∀ i ∈ is, i.writes = true) (hplain : ∀ i ∈ is, i.RevokesPlainly) :
    PairingIsSound p upper env is := by
  have hrun : PairingRun is := ⟨hfresh, fun i hi => ⟨hwrites i hi, hplain i hi⟩⟩
  clear hfresh hwrites hplain
  constructor
  · rintro pre i post k d rfl h
    exact h.earned hp hrun.first
  · rintro pre i post k k' d d' rfl h h'
    exact h.key_unique hp hrun.first h'
  · rintro pre i mid j post k k' d d' q pollToken pollToken' draw draw' now now' writes writes' rfl
      rfl rfl h
    exact h.not_again hp hrun.first
  · rintro pre i mid j post q d d' token token' rfl h h'
    exact h.replays hp hrun.first h'
  · rintro pre i post q d token rfl h hrevoked
    obtain ⟨d', hok, -, hauth⟩ := h.authenticates hp hrun
    have hunset : isSet d'.revokedAt = false := by
      by_contra hset
      exact hrevoked (hok.revoked (by simpa using hset))
    rw [hauth, if_neg (by simp [hunset])]
    exact ⟨d', rfl, hok.deviceId⟩
  · rintro pre i post q d token rfl h hrevoked
    obtain ⟨d', hok, hd', hauth⟩ := h.authenticates hp hrun
    obtain ⟨draw, hdraw⟩ := hok.newId
    have hinv : PairingInvariant p upper env _ _ := pairingInvariant_after hp hrun
    obtain ⟨e, he, hset⟩ := hinv.devices.revoked _ hrevoked
      (by rw [hdraw]; exact not_isInherited_newDeviceId draw)
    obtain rfl := Option.some.inj (he.symm.trans hd')
    rw [hauth, if_pos hset]

end Sound

theorem plain_samplePairing (id : JsString) (hid : id ≠ js "__proto__") :
    ∀ i ∈ samplePairing ++ [.revokeDevice id 4000 true, .restart 5000], i.RevokesPlainly := by
  simp only [samplePairing, List.cons_append, List.nil_append, List.forall_mem_cons]
  exact ⟨trivial, trivial, trivial, ⟨hid, by decide⟩, trivial, List.forall_mem_nil _⟩

theorem pairingIsSound_samplePairing :
    PairingIsSound samplePlatform sampleUpper samplePairingEnv
      (samplePairing ++ [.revokeDevice (newDeviceId sampleDraw) 4000 true, .restart 5000]) :=
  pairingIsSound_of_plain _ _ _ samplePlatform_collisionFree _ (by decide +kernel)
    (List.all_eq_true.mp (by decide)) (plain_samplePairing _ (by decide))

/-- The token of a device that nobody revoked is refused. -/
theorem protoRevocation_unsound :
    ¬PairingIsSound samplePlatform sampleUpper samplePairingEnv
      (samplePairing ++ [.revokeDevice (js "__proto__") 4000 true]) := by
  intro h
  have hpairs : Pairs samplePlatform sampleUpper samplePairingEnv (samplePairing.take 2)
      (.claim sampleUuid.text samplePoll.text sampleDraw 3000 true) sampleUuid.text
      ⟨js "dev_one", js "host", js "host", none, none, none,
        samplePlatform.digest (js "wdv_dev_one.AQ"), 3000, none, none, none⟩
      (js "wdv_dev_one.AQ") :=
    ⟨⟨_, _, _, _, rfl⟩, by decide +kernel⟩
  have hunrevoked : ¬RevokedIn samplePlatform sampleUpper samplePairingEnv
      (samplePairing ++ [.revokeDevice (js "__proto__") 4000 true]) (js "dev_one") := by
    rintro ⟨pre, now, writes, post, heq, -⟩
    have hmem : PairingInput.revokeDevice (js "dev_one") now writes ∈
        samplePairing ++ [.revokeDevice (js "__proto__") 4000 true] := by
      rw [heq]
      simp
    simp +decide [samplePairing] at hmem
  obtain ⟨d', hauth, -⟩ := h.authenticates (samplePairing.take 2) _
    [.revokeDevice (js "__proto__") 4000 true] _ _ _ rfl hpairs hunrevoked
  have hnone : authenticateDeviceToken samplePlatform.digest (js "wdv_dev_one.AQ")
      ((pairing samplePlatform sampleUpper samplePairingEnv).after
        (samplePairing ++ [.revokeDevice (js "__proto__") 4000 true])).live = none := by
    decide +kernel
  rw [hnone] at hauth
  cases hauth

end RemoteOps

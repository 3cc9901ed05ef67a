import RemoteOps.Ecma.NumberText
import RemoteOps.State.PairingSteps

/-!
# What the history says about pairings and devices

`PairingsOk` ties every stored pairing to the call that started it, to its approval
and to its device; `DevicesOk` ties every stored device to the token it was made
with and to its revocation. Both hold of every run with fresh names, in memory as
in the file (`pairingInvariant_after`).
-/

namespace RemoteOps

open Ecma Transition

/-! ## Events of a run -/

section Events

variable (p : Platform) (upper : UpperCase) (env : PairingEnv)

def PairingStarted (is : List PairingInput) (x : NewPairing) : Prop :=
  ∃ pre i post, is = pre ++ i :: post ∧ (pairing p upper env).answer pre i = .created x

/-- After it was started, the pairing was approved by its code and in time. -/
def ApprovedIn (is : List PairingInput) (x : NewPairing) : Prop :=
  ∃ pre code now writes post y, is = pre ++ .approve code now writes :: post ∧
    PairingStarted p upper env pre x ∧
      (pairing p upper env).answer pre (.approve code now writes) = .approved (some y) ∧
        y.pairingId = x.pairingId ∧ normalizePairCode upper code = x.code ∧ now ≤ x.expiresAt

/-- A revocation of the device has returned. -/
def RevokedIn (is : List PairingInput) (id : JsString) : Prop :=
  ∃ pre now writes post, is = pre ++ .revokeDevice id now writes :: post ∧
    (pairing p upper env).answer pre (.revokeDevice id now writes) = .revoked true

end Events

/-! ## What the history says about the tables -/

section Invariants

variable {p : Platform} {upper : UpperCase} {env : PairingEnv}

theorem PairingStarted.append {is : List PairingInput} {x : NewPairing} (h : PairingStarted p upper env is x)
    (js : List PairingInput) : PairingStarted p upper env (is ++ js) x := by
  obtain ⟨pre, i, post, rfl, hi⟩ := h
  exact ⟨pre, i, post ++ js, by simp, hi⟩

theorem ApprovedIn.append {is : List PairingInput} {x : NewPairing}
    (h : ApprovedIn p upper env is x) (js : List PairingInput) :
    ApprovedIn p upper env (is ++ js) x := by
  obtain ⟨pre, code, now, writes, post, y, rfl, hrest⟩ := h
  exact ⟨pre, code, now, writes, post ++ js, y, by simp, hrest⟩

theorem revokedIn_concat_iff {is : List PairingInput} {i : PairingInput} {id : JsString} :
    RevokedIn p upper env (is ++ [i]) id ↔ RevokedIn p upper env is id ∨
      (∃ now writes, i = .revokeDevice id now writes) ∧
        (pairing p upper env).answer is i = .revoked true := by
  constructor
  · rintro ⟨pre, now, writes, post, heq, hi⟩
    cases post using List.reverseRecOn with
    | nil =>
        obtain ⟨rfl, hlast⟩ := List.append_inj' heq rfl
        obtain rfl := List.singleton_inj.mp hlast
        exact Or.inr ⟨⟨now, writes, rfl⟩, hi⟩
    | append_singleton post k =>
        rw [← List.cons_append, ← List.append_assoc] at heq
        obtain ⟨rfl, -⟩ := List.append_inj' heq rfl
        exact Or.inl ⟨pre, now, writes, post, rfl, hi⟩
  · rintro (⟨pre, now, writes, post, rfl, hi⟩ | ⟨⟨now, writes, rfl⟩, hi⟩)
    · exact ⟨pre, now, writes, post ++ [i], by simp, hi⟩
    · exact ⟨is, now, writes, [], rfl, hi⟩

/-- The stored pairing `y` under `k` is what has become of the pairing `x`. -/
structure PairingOk (p : Platform) (upper : UpperCase) (env : PairingEnv) (is : List PairingInput)
    (s : PersistentState) (x : NewPairing) (k : JsString) (y : StoredPairing) : Prop where
  drawn : k ∈ is.flatMap PairingInput.names
  key : x.pairingId = k
  pairingId : y.pairingId = k
  codeHash : y.codeHash = p.digest x.code
  pollHash : y.pollHash = p.digest x.pollToken
  expiresAt : y.expiresAt = x.expiresAt
  asciiCode : ∀ u ∈ x.code, isAscii u = true
  asciiPoll : ∀ u ∈ x.pollToken, isAscii u = true
  started : PairingStarted p upper env is x
  approved : isSet y.approvedAt = true → ApprovedIn p upper env is x
  device : ∀ id, y.deviceId = some id → ∃ d, s.devices.get? id = some d ∧
    d.credentialHash = p.digest (deviceToken p x.pollToken id)

def PairingsOk (p : Platform) (upper : UpperCase) (env : PairingEnv) (is : List PairingInput)
    (s : PersistentState) : Prop :=
  ∀ k y, s.pairings.get? k = some y → ∃ x, PairingOk p upper env is s x k y

structure DeviceOk (p : Platform) (upper : UpperCase) (env : PairingEnv) (is : List PairingInput)
    (k : JsString) (d : StoredDevice) : Prop where
  drawn : k ∈ is.flatMap PairingInput.names
  deviceId : d.deviceId = k
  newId : ∃ draw, k = newDeviceId draw
  credential : ∃ pollToken, d.credentialHash = p.digest (deviceToken p pollToken k)
  revoked : isSet d.revokedAt = true → RevokedIn p upper env is k

structure DevicesOk (p : Platform) (upper : UpperCase) (env : PairingEnv) (is : List PairingInput)
    (s : PersistentState) : Prop where
  device : ∀ k d, s.devices.get? k = some d → DeviceOk p upper env is k d
  revoked : ∀ k, RevokedIn p upper env is k → ¬IsInherited k →
    ∃ d, s.devices.get? k = some d ∧ isSet d.revokedAt = true

/-- The devices stay, with their credentials. -/
def CredentialsKept (s s' : PersistentState) : Prop :=
  ∀ id d, s.devices.get? id = some d →
    ∃ d', s'.devices.get? id = some d' ∧ d'.credentialHash = d.credentialHash

theorem PairingOk.mono {is : List PairingInput} {s s' : PersistentState} {x : NewPairing}
    {k : JsString} {y : StoredPairing} (h : PairingOk p upper env is s x k y) (i : PairingInput)
    (hkept : CredentialsKept s s') :
    PairingOk p upper env (is ++ [i]) s' x k y where
  drawn := by
    rw [List.flatMap_append]
    exact List.mem_append_left _ h.drawn
  key := h.key
  pairingId := h.pairingId
  codeHash := h.codeHash
  pollHash := h.pollHash
  expiresAt := h.expiresAt
  asciiCode := h.asciiCode
  asciiPoll := h.asciiPoll
  started := h.started.append [i]
  approved := fun hset => (h.approved hset).append [i]
  device := by
    intro id hid
    obtain ⟨d, hd, hcredential⟩ := h.device id hid
    obtain ⟨d', hd', hsame⟩ := hkept id d hd
    exact ⟨d', hd', hsame.trans hcredential⟩

/-! ### Codes and tokens -/

theorem mem_pairingCode {bytes : Fin 8 → UInt8} {u : CodeUnit} (hu : u ∈ pairingCode bytes) :
    u ∈ js "WD-" ++ pairAlphabet := by
  have hraw : ∀ v ∈ List.ofFn fun i : Fin 8 =>
      pairAlphabet.getD ((bytes i).toNat % pairAlphabet.length) 0, v ∈ pairAlphabet := by
    intro v hv
    obtain ⟨i, rfl⟩ := List.mem_ofFn.mp hv
    have hlt : (bytes i).toNat % pairAlphabet.length < pairAlphabet.length :=
      Nat.mod_lt _ (by decide)
    rw [List.getD_eq_getElem?_getD, List.getElem?_eq_getElem hlt]
    exact List.getElem_mem hlt
  have hdash : ∀ v ∈ js "-", v ∈ js "WD-" := by
    intro v hv
    rw [List.mem_singleton.mp (show v ∈ [unit '-'] from hv)]
    decide
  simp only [pairingCode, List.mem_append] at hu
  rcases hu with ((hu | hu) | hu) | hu
  · exact List.mem_append_left _ hu
  · exact List.mem_append_right _ (hraw u (List.mem_of_mem_take hu))
  · exact List.mem_append_left _ (hdash u hu)
  · exact List.mem_append_right _ (hraw u (List.mem_of_mem_drop hu))

/-- The units of a code are neither white nor lower case. -/
theorem pairingCode_spec {bytes : Fin 8 → UInt8} {u : CodeUnit} (hu : u ∈ pairingCode bytes) :
    isAscii u = true ∧ isWhite u = false ∧ isLower u = false := by
  have hall : (js "WD-" ++ pairAlphabet).all
      (fun v => isAscii v && !isWhite v && !isLower v) = true := by
    decide
  have := List.all_eq_true.mp hall u (mem_pairingCode hu)
  simpa [and_assoc] using this

theorem normalizePairCode_pairingCode (upper : UpperCase) (bytes : Fin 8 → UInt8) :
    normalizePairCode upper (pairingCode bytes) = pairingCode bytes := by
  have hupper : asciiUpper (pairingCode bytes) = pairingCode bytes := by
    conv_rhs => rw [← List.map_id (pairingCode bytes)]
    apply List.map_congr_left
    intro u hu
    rw [(pairingCode_spec hu).2.2]
    rfl
  rw [normalizePairCode, trim_eq_self fun u hu => (pairingCode_spec hu).2.1,
    upper.apply_of_ascii _ fun u hu => (pairingCode_spec hu).1, hupper]
  exact List.filter_eq_self.mpr fun u hu => by simp [(pairingCode_spec hu).2.1]

/-! ### Devices -/

theorem dot_notMem_newDeviceId (draw : RandomText) : unit '.' ∉ newDeviceId draw := by
  intro h
  have hdev : unit '.' ∉ js "dev_" := by decide
  rcases List.mem_append.mp h with h | h
  · exact hdev h
  · exact absurd (draw.isBase64url _ h) (by decide)

theorem isAscii_deviceToken (pollToken : JsString) (draw : RandomText) :
    ∀ u ∈ deviceToken p pollToken (newDeviceId draw), isAscii u = true := by
  have hwdv : (js "wdv_").all isAscii = true := by decide
  have hdev : (js "dev_").all isAscii = true := by decide
  have hdot : (js ".").all isAscii = true := by decide
  intro u hu
  simp only [deviceToken, newDeviceId, List.mem_append] at hu
  rcases hu with ((hu | hu | hu) | hu) | hu
  · exact List.all_eq_true.mp hwdv u hu
  · exact List.all_eq_true.mp hdev u hu
  · exact isAscii_of_isBase64url (draw.isBase64url u hu)
  · exact List.all_eq_true.mp hdot u hu
  · exact isAscii_of_isBase64url (isBase64url_of_mem hu)

/-- A token determines the device it names. -/
theorem eq_of_deviceToken {pollToken pollToken' : JsString} {draw draw' : RandomText}
    (h : deviceToken p pollToken (newDeviceId draw) =
      deviceToken p pollToken' (newDeviceId draw')) : newDeviceId draw = newDeviceId draw' := by
  have hdot : js "." = [unit '.'] := by decide
  simp only [deviceToken, hdot, List.append_assoc] at h
  have hsplit := congrArg (splitUnit (unit '.')) (List.append_cancel_left h)
  rw [List.singleton_append, List.singleton_append,
    splitUnit_append_separator, splitUnit_append_separator,
    splitUnit_of_notMem (dot_notMem_newDeviceId draw),
    splitUnit_of_notMem (dot_notMem_newDeviceId draw')] at hsplit
  exact (List.cons.inj hsplit).1

theorem newDeviceId_of_digest (hp : p.CollisionFree) {pollToken pollToken' : JsString}
    {draw draw' : RandomText}
    (h : p.digest (deviceToken p pollToken (newDeviceId draw)) =
      p.digest (deviceToken p pollToken' (newDeviceId draw'))) :
    newDeviceId draw = newDeviceId draw' :=
  eq_of_deviceToken (eq_of_toChars_eq (isAscii_deviceToken pollToken draw) (hp.toChars_eq h))

theorem not_isInherited_newDeviceId (draw : RandomText) : ¬IsInherited (newDeviceId draw) := by
  have hlength : (js "dev_").length = 4 := by decide
  have htake : (newDeviceId draw).take 4 = js "dev_" := by
    rw [newDeviceId, ← hlength, List.take_left]
  have hmethods : (prototypeMethods.all fun m => m.take 4 != js "dev_") = true := by decide
  intro h
  rcases h with h | h | h
  · rw [h] at htake
    revert htake
    decide
  · have := List.all_eq_true.mp hmethods _ h
    rw [htake] at this
    simp at this
  · rw [h] at htake
    revert htake
    decide

/-! ### One step -/

/-- A stored device keeps its id and its credential, and stays revoked. -/
theorem PairingCase.keeps_device {s s' : PersistentState} {i : PairingInput} {reply : PairingReply}
    (h : PairingCase p upper env s i reply s') {k : JsString} {d : StoredDevice}
    (hnew : k ∉ i.names) (hd : s.devices.get? k = some d) :
    ∃ d', s'.devices.get? k = some d' ∧ d'.credentialHash = d.credentialHash ∧
      (isSet d.revokedAt = true → isSet d'.revokedAt = true) := by
  cases h with
  | silent h => exact ⟨d, by rw [h.devices]; exact hd, rfl, id⟩
  | created _ hdevices _ => exact ⟨d, by rw [hdevices]; exact hd, rfl, id⟩
  | approved _ _ _ hs' => exact ⟨d, by rw [hs']; exact hd, rfl, id⟩
  | @enrolled _ _ draw _ _ _ _ _ _ hs' =>
      have hne : k ≠ newDeviceId draw := fun heq => hnew (by simp [PairingInput.names, heq])
      exact ⟨d, by rw [hs', Record.get?_set_of_ne _ _ hne]; exact hd, rfl, id⟩
  | replayed => exact ⟨d, hd, rfl, id⟩
  | @revoked id now _ d₀ _ hd₀ _ hdevices =>
      rw [hdevices]
      split_ifs with hk
      · rw [hk, hd₀] at hd
        obtain rfl := Option.some.inj hd
        refine ⟨_, rfl, ?_, ?_⟩
        · rw [StoredDevice.revokedAtTime]
          split_ifs <;> rfl
        · intro hset
          rw [revokedAtTime_of_set hset]
          exact hset
      · exact ⟨d, hd, rfl, fun h => h⟩
  | foreign => exact ⟨d, hd, rfl, id⟩

theorem IsSet.of_revokedAtTime {d : StoredDevice} {now : ℤ} (hnow : now ≠ 0) :
    isSet (d.revokedAtTime now).revokedAt = true := by
  rw [StoredDevice.revokedAtTime]
  split_ifs with hset
  · exact hset
  · simp [isSet, hnow]

/-- What the tables hold after a step, in terms of the history. -/
theorem DevicesOk.step {is : List PairingInput} {s s' : PersistentState} {i : PairingInput}
    (hok : DevicesOk p upper env is s) (hfresh : Fresh PairingInput.names (is ++ [i]))
    (hplain : i.RevokesPlainly)
    (h : PairingCase p upper env s i ((pairing p upper env).answer is i) s') :
    DevicesOk p upper env (is ++ [i]) s' := by
  have hold : ∀ k d, s.devices.get? k = some d → DeviceOk p upper env (is ++ [i]) k d := by
    intro k d hd
    have hk := hok.device k d hd
    refine ⟨?_, hk.deviceId, hk.newId, hk.credential, fun hset => ?_⟩
    · rw [List.flatMap_append]
      exact List.mem_append_left _ hk.drawn
    · exact revokedIn_concat_iff.mpr (Or.inl (hk.revoked hset))
  have hkept : ∀ k d, s.devices.get? k = some d → isSet d.revokedAt = true →
      ∃ d', s'.devices.get? k = some d' ∧ isSet d'.revokedAt = true := by
    intro k d hd hset
    have hnew : k ∉ i.names := fun hk => hfresh.notMem hk (hok.device k d hd).drawn
    obtain ⟨d', hd', -, hset'⟩ := h.keeps_device hnew hd
    exact ⟨d', hd', hset' hset⟩
  constructor
  · generalize hreply : (pairing p upper env).answer is i = reply at h
    intro k d hd
    cases h with
    | silent h => exact hold k d (by rw [← h.devices]; exact hd)
    | created _ hdevices _ => exact hold k d (by rw [← hdevices]; exact hd)
    | approved _ _ _ hs' =>
        rw [hs'] at hd
        exact hold k d hd
    | @enrolled q pollToken draw now writes x _ _ _ hs' =>
        rw [hs', Record.get?_set] at hd
        split_ifs at hd with hk
        · obtain rfl := Option.some.inj hd
          refine ⟨?_, hk.symm, ⟨draw, hk⟩, ⟨pollToken, by rw [hk]; rfl⟩, ?_⟩
          · rw [List.flatMap_append, hk]
            exact List.mem_append_right _ (by simp [PairingInput.names])
          · intro hset
            simp [newDevice, isSet] at hset
        · exact hold k d hd
    | replayed => exact hold k d hd
    | @revoked id now writes d₀ _ hd₀ _ hdevices =>
        rw [hdevices] at hd
        split_ifs at hd with hk
        · obtain rfl := Option.some.inj hd
          have hrevoked : RevokedIn p upper env (is ++ [.revokeDevice id now writes]) id :=
            revokedIn_concat_iff.mpr (Or.inr ⟨⟨now, writes, rfl⟩, hreply⟩)
          have hold := hold id d₀ hd₀
          rw [hk]
          refine ⟨hold.drawn, ?_, hold.newId, ?_, fun _ => hrevoked⟩
          · rw [StoredDevice.revokedAtTime]
            split_ifs
            · exact hold.deviceId
            · exact hold.deviceId
          · rw [StoredDevice.revokedAtTime]
            split_ifs
            · exact hold.credential
            · exact hold.credential
        · exact hold k d hd
    | foreign => exact hold k d hd
  · intro k hk hinherited
    rcases revokedIn_concat_iff.mp hk with hk | ⟨⟨now, writes, rfl⟩, hanswer⟩
    · obtain ⟨d, hd, hset⟩ := hok.revoked k hk hinherited
      exact hkept k d hd hset
    · rw [hanswer] at h
      cases h with
      | silent _ hreply => exact absurd hreply (by simp [PairingReply.IsSilent])
      | revoked _ _ hdevices =>
          exact ⟨_, by rw [hdevices, if_pos rfl], IsSet.of_revokedAtTime hplain.2⟩
      | foreign _ hid => exact absurd hid hinherited

theorem DevicesOk.congr {is : List PairingInput} {s s' : PersistentState}
    (hok : DevicesOk p upper env is s) (h : s'.devices = s.devices) :
    DevicesOk p upper env is s' := by
  constructor
  · rw [h]
    exact hok.device
  · rw [h]
    exact hok.revoked

theorem PairingsOk.mono {is : List PairingInput} {s s' : PersistentState}
    (hok : PairingsOk p upper env is s) (i : PairingInput) (hkept : CredentialsKept s s')
    (hpairings : ∀ k y, s'.pairings.get? k = some y → s.pairings.get? k = some y) :
    PairingsOk p upper env (is ++ [i]) s' := by
  intro k y hy
  obtain ⟨x, hx⟩ := hok k y (hpairings k y hy)
  exact ⟨x, hx.mono i hkept⟩

theorem PairingsOk.step (hp : p.CollisionFree) {is : List PairingInput} {s s' : PersistentState}
    {i : PairingInput} (hok : PairingsOk p upper env is s) (hdevices : DevicesOk p upper env is s)
    (hfresh : Fresh PairingInput.names (is ++ [i]))
    (h : PairingCase p upper env s i ((pairing p upper env).answer is i) s') :
    PairingsOk p upper env (is ++ [i]) s' := by
  have hkept : CredentialsKept s s' := by
    intro id d hd
    have hnew : id ∉ i.names := fun hid => hfresh.notMem hid (hdevices.device id d hd).drawn
    obtain ⟨d', hd', hsame, -⟩ := h.keeps_device hnew hd
    exact ⟨d', hd', hsame⟩
  generalize hreply : (pairing p upper env).answer is i = reply at h
  cases h with
  | silent h => exact hok.mono i hkept h.pairings
  | @created info draws now writes bytes _ x hx _ hpairings =>
      intro k y hy
      rcases hpairings k y hy with ⟨hk, rfl⟩ | hy
      · refine ⟨x, ?_, hk.symm, hk.symm, ?_, rfl, rfl, ?_, ?_, ?_, ?_, ?_⟩
        · rw [List.flatMap_append, hk, hx]
          exact List.mem_append_right _ (by simp [PairingInput.names, newPairing])
        · rw [storedPairing, hx]
          exact congrArg p.digest (normalizePairCode_pairingCode upper bytes)
        · rw [hx]
          exact fun u hu => (pairingCode_spec hu).1
        · rw [hx]
          exact fun u hu => isAscii_of_isBase64url (draws.pollToken.isBase64url u hu)
        · exact ⟨is, _, [], rfl, hreply⟩
        · intro hset
          simp [storedPairing, isSet] at hset
        · intro id hid
          simp [storedPairing] at hid
      · obtain ⟨x, hx⟩ := hok k y hy
        exact ⟨x, hx.mono _ hkept⟩
  | @approved code now writes q y₀ _ hstored hcode hnow hs' =>
      intro k y hy
      rw [hs', Record.get?_set] at hy
      split_ifs at hy with hk
      · obtain rfl := Option.some.inj hy
        obtain ⟨x, hx⟩ := hok q y₀ hstored
        have hcode' : normalizePairCode upper code = x.code :=
          (eq_of_toChars_eq hx.asciiCode (hp.toChars_eq (hx.codeHash.symm.trans hcode))).symm
        have happroved : ApprovedIn p upper env (is ++ [.approve code now writes]) x :=
          ⟨is, code, now, writes, [], _, rfl, hx.started, hreply, hx.pairingId.trans hx.key.symm,
            hcode', hx.expiresAt ▸ hnow⟩
        have hx' := hx.mono (.approve code now writes) hkept
        rw [hk]
        exact ⟨x, hx'.drawn, hx'.key, hx'.pairingId, hx'.codeHash, hx'.pollHash, hx'.expiresAt,
          hx'.asciiCode, hx'.asciiPoll, hx'.started, fun _ => happroved, hx'.device⟩
      · obtain ⟨x, hx⟩ := hok k y hy
        exact ⟨x, hx.mono _ hkept⟩
  | @enrolled q pollToken draw now writes y₀ _ hclaim _ hs' =>
      intro k y hy
      rw [hs', Record.get?_set] at hy
      split_ifs at hy with hk
      · obtain rfl := Option.some.inj hy
        obtain ⟨x, hx⟩ := hok q y₀ hclaim.stored
        have hx' := hx.mono (.claim q pollToken draw now writes) hkept
        rw [hk]
        refine ⟨x, hx'.drawn, hx'.key, hx'.pairingId, hx'.codeHash, hx'.pollHash, hx'.expiresAt,
          hx'.asciiCode, hx'.asciiPoll, hx'.started, hx'.approved, ?_⟩
        intro id hid
        obtain rfl := Option.some.inj hid
        have hpoll : pollToken = x.pollToken :=
          (eq_of_toChars_eq hx.asciiPoll (hp.toChars_eq (hx.pollHash.symm.trans hclaim.pollHash))).symm
        rw [hs', ← hpoll]
        exact ⟨_, Record.get?_set_self _ _ _, rfl⟩
      · obtain ⟨x, hx⟩ := hok k y hy
        exact ⟨x, hx.mono _ hkept⟩
  | replayed => exact hok.mono _ hkept fun _ _ hy => hy
  | revoked _ hpairings _ =>
      exact hok.mono _ hkept fun k y hy => by rw [hpairings] at hy; exact hy
  | foreign => exact hok.mono _ hkept fun _ _ hy => hy

/-! ### Every run -/

/-- What holds of memory and file. -/
structure PairingInvariant (p : Platform) (upper : UpperCase) (env : PairingEnv)
    (is : List PairingInput) (store : Store) : Prop where
  live : PairingsOk p upper env is store.live.state
  file : PairingsOk p upper env is store.file
  devices : DevicesOk p upper env is store.live.state
  trails : Forgets store.file store.live.state
  unmarked : isSet store.live.realm.revokedAt = false

/-- The runs that the argument is about. -/
def PairingRun (is : List PairingInput) : Prop :=
  Fresh PairingInput.names is ∧ ∀ i ∈ is, i.writes = true ∧ i.RevokesPlainly

theorem prefixClosed_pairingRun : PrefixClosed PairingRun :=
  (prefixClosed_fresh _).and (prefixClosed_forall _)

theorem pairing_step {is : List PairingInput} {i : PairingInput}
    (hrun : PairingRun (is ++ [i]))
    (h : PairingInvariant p upper env is ((pairing p upper env).after is)) :
    PairingMove p upper env ((pairing p upper env).after is) i ((pairing p upper env).answer is i)
        ((pairing p upper env).after (is ++ [i])) ∨
      PairingReload ((pairing p upper env).after is) ((pairing p upper env).answer is i)
        ((pairing p upper env).after (is ++ [i])) := by
  obtain ⟨hwrites, hplain⟩ := hrun.2 i (by simp)
  rw [Machine.after_concat]
  exact pairingMove_step hwrites hplain h.unmarked

theorem PairingInvariant.step (hp : p.CollisionFree) {is : List PairingInput} {i : PairingInput}
    (hrun : PairingRun (is ++ [i]))
    (h : PairingInvariant p upper env is ((pairing p upper env).after is)) :
    PairingInvariant p upper env (is ++ [i]) ((pairing p upper env).after (is ++ [i])) := by
  have hplain := (hrun.2 i (by simp)).2
  rcases pairing_step hrun h with hmove | hreload
  · have hlive := h.live.step hp h.devices hrun.1 hmove.live
    refine ⟨hlive, ?_, h.devices.step hrun.1 hplain hmove.live, ?_, ?_⟩
    · rcases hmove.file with hfile | ⟨hfile, -⟩
      · rw [hfile]
        exact hlive
      · rw [hfile]
        exact h.file.mono i (fun _ d hd => ⟨d, hd, rfl⟩) fun _ _ hy => hy
    · rcases hmove.file with hfile | ⟨hfile, hforgets⟩
      · rw [hfile]
        exact Forgets.refl _
      · rw [hfile]
        exact h.trails.trans hforgets
    · rw [hmove.realm]
      exact h.unmarked
  · have hcase : PairingCase p upper env ((pairing p upper env).after is).file i
        ((pairing p upper env).answer is i) ((pairing p upper env).after (is ++ [i])).live.state :=
      .silent hreload.forgets (by rw [hreload.reply]; trivial)
    have hdevices : DevicesOk p upper env is ((pairing p upper env).after is).file :=
      h.devices.congr h.trails.devices.symm
    refine ⟨h.file.step hp hdevices hrun.1 hcase, ?_, hdevices.step hrun.1 hplain hcase, ?_,
      hreload.unmarked⟩
    · rw [hreload.file]
      exact h.file.mono i (fun _ d hd => ⟨d, hd, rfl⟩) fun _ _ hy => hy
    · rw [hreload.file]
      exact hreload.forgets

theorem pairingInvariant_after (hp : p.CollisionFree) {is : List PairingInput}
    (hrun : PairingRun is) : PairingInvariant p upper env is ((pairing p upper env).after is) := by
  have hempty : PairingsOk p upper env [] emptyState := by
    intro k y hy
    exact absurd hy (by simp [emptyState])
  have hdevices : DevicesOk p upper env [] emptyState := by
    constructor
    · intro k d hd
      exact absurd hd (by simp [emptyState])
    · rintro k ⟨pre, now, writes, post, heq, -⟩
      simp at heq
  refine (pairing p upper env).invariant prefixClosed_pairingRun
    (I := fun is store => PairingInvariant p upper env is store)
    ⟨hempty, hempty, hdevices, Forgets.refl _, rfl⟩ ?_ is hrun
  intro is i hrun h
  rw [← Machine.after_concat]
  exact h.step hp hrun

end Invariants

end RemoteOps

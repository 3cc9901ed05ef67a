import RemoteOps.State.Pairings

/-!
# The device cap

`createPairing` refuses to start a pairing when `AGENT_MAX_DEVICES` devices are
active, but the device appears only with the claim, which does not count. Pairings
started below the cap can together exceed it (`twoClaims_exceed`).

Of all steps only a claim adds a device (`devicesCase_step`). So the cap holds at
every moment of a run exactly when every claim that adds one finds room.
-/

namespace RemoteOps

open Ecma Transition

/-! ## The property -/

/-- The devices whose own record is not revoked. -/
def unrevokedDevices (s : PersistentState) : List StoredDevice :=
  s.devices.values.filter fun d => !isSet d.revokedAt

section Property

variable (p : Platform) (upper : UpperCase) (env : PairingEnv)

/-- At no moment of the run are there more devices than the cap allows. -/
def CapHolds (is : List PairingInput) : Prop :=
  ∀ pre post, is = pre ++ post →
    (unrevokedDevices ((pairing p upper env).after pre).live.state).length ≤ env.agentMaxDevices

/-- A claim of an approved pairing that has no device yet comes while there is room
for one more. -/
def ClaimFindsRoom (store : Store) : PairingInput → Prop
  | .claim q pollToken _ now _ => ∀ x, store.live.state.pairings.get? q = some x →
      x.pollHash = p.digest pollToken → now ≤ x.expiresAt → isSet x.approvedAt = true →
        x.deviceId.bind store.live.state.devices.get? = none →
          (unrevokedDevices store.live.state).length < env.agentMaxDevices
  | _ => True

end Property

/-! ## One step -/

section Step

variable {p : Platform} {upper : UpperCase} {env : PairingEnv}

/-- What a call may do to the devices. -/
inductive DevicesCase (p : Platform) (s : PersistentState) : PairingInput → Record StoredDevice → Prop
  | kept {i} : DevicesCase p s i s.devices
  | added {q pollToken draw now writes x} (hstored : s.pairings.get? q = some x)
      (hhash : x.pollHash = p.digest pollToken) (hnow : now ≤ x.expiresAt)
      (happroved : isSet x.approvedAt = true) (hnone : x.deviceId.bind s.devices.get? = none) :
      DevicesCase p s (.claim q pollToken draw now writes)
        (s.devices.set (newDeviceId draw) (newDevice p x pollToken (newDeviceId draw) now))
  | marked {id now writes d} (hstored : s.devices.get? id = some d)
      (hunset : isSet d.revokedAt = false) :
      DevicesCase p s (.revokeDevice id now writes)
        (s.devices.set id { d with revokedAt := some now })

theorem devices_startPairing (info : PairingMeta) (draws : PairingDraws) (now : ℤ) (live : Live) :
    ((startPairing p upper env info draws now live).live live).state.devices =
      live.state.devices := by
  rw [startPairing]
  split_ifs
  · rfl
  · rfl
  · split <;> rfl

theorem devices_approve (code : JsString) (now : ℤ) (live : Live) :
    ((approvePairingByCode p upper code now live).live live).state.devices =
      live.state.devices := by
  rw [approvePairingByCode]
  split <;> rfl

theorem devicesCase_claim (q pollToken : JsString) (draw : RandomText) (now : ℤ) (writes : Bool)
    (live : Live) :
    DevicesCase p live.state (.claim q pollToken draw now writes)
      ((claimPairing p q pollToken draw now live).live live).state.devices := by
  rw [claimPairing]
  cases hget : live.state.pairings.get? q with
  | none => exact .kept
  | some x =>
      dsimp only
      split_ifs with hhash hexpired happroved
      · exact .kept
      · exact .kept
      · exact .kept
      · cases hdevice : x.deviceId.bind live.state.devices.get? with
        | some d => exact .kept
        | none =>
            exact .added hget (not_not.mp hhash) (not_lt.mp hexpired) (by simpa using happroved)
              hdevice

theorem devicesCase_revoke (id : JsString) (now : ℤ) (writes : Bool) (live : Live) :
    DevicesCase p live.state (.revokeDevice id now writes)
      ((revokeDevice id now live).live live).state.devices := by
  rw [revokeDevice]
  cases hslot : live.realm.slot live.state.devices id with
  | own d =>
      dsimp only
      split_ifs with hrevoked
      · refine .marked (Realm.get?_of_slot_eq_own hslot) ?_
        rw [Bool.not_eq_true', Realm.isRevoked] at hrevoked
        cases hown : d.revokedAt with
        | none => rfl
        | some t =>
            rw [hown] at hrevoked
            exact hrevoked
      · exact .kept
  | absent => exact .kept
  | _ =>
      dsimp only
      split_ifs
      · split
        · exact .kept
        · exact .kept
      · exact .kept

theorem devices_purgeState (storeEnv : StoreEnv) (now : ℤ) (live : Live) :
    ((purgeState storeEnv now live).live live).state.devices = live.state.devices := by
  rw [purgeState]
  dsimp only
  split_ifs <;> rfl

/-- What a step does to the devices in memory; a restart reads those of the file. -/
theorem devicesCase_step (p : Platform) (upper : UpperCase) (env : PairingEnv) (store : Store)
    (i : PairingInput) :
    DevicesCase p store.live.state i (PairingInput.step p upper env store i).2.live.state.devices ∨
      (PairingInput.step p upper env store i).2.live.state.devices = store.file.devices := by
  cases i with
  | create info draws now writes =>
      rw [PairingInput.step, answered_snd, Store.createPairing, Store.run_live,
        devices_startPairing]
      exact Or.inl .kept
  | approve code now writes =>
      rw [PairingInput.step, answered_snd, Store.run_live, devices_approve]
      exact Or.inl .kept
  | claim q pollToken draw now writes =>
      rw [PairingInput.step, answered_snd, Store.run_live]
      exact Or.inl (devicesCase_claim q pollToken draw now writes store.live)
  | revokeDevice id now writes =>
      rw [PairingInput.step, answered_snd, Store.run_live]
      exact Or.inl (devicesCase_revoke id now writes store.live)
  | purgeState now writes =>
      rw [PairingInput.step, answered_snd, Store.run_live, devices_purgeState]
      exact Or.inl .kept
  | restart now => exact Or.inr rfl

theorem file_step (p : Platform) (upper : UpperCase) (env : PairingEnv) (store : Store)
    (i : PairingInput) :
    (PairingInput.step p upper env store i).2.file =
        (PairingInput.step p upper env store i).2.live.state ∨
      (PairingInput.step p upper env store i).2.file = store.file := by
  cases i with
  | restart now => exact Or.inr rfl
  | create info draws now writes =>
      rw [PairingInput.step, answered_snd]
      exact Store.run_file _ _ _
  | _ =>
      rw [PairingInput.step, answered_snd]
      exact Store.run_file _ _ _

/-! ### Counting -/

theorem length_unrevoked_set {s s' : PersistentState} {k : JsString} {d : StoredDevice}
    (hs' : s'.devices = s.devices.set k d) :
    (unrevokedDevices s').length =
      ((d :: (s.devices.erase k).values).filter fun d => !isSet d.revokedAt).length := by
  rw [unrevokedDevices, hs']
  exact ((s.devices.values_set_perm k d).filter _).length_eq

theorem length_unrevoked_added {s s' : PersistentState} {k : JsString} {d : StoredDevice}
    (hs' : s'.devices = s.devices.set k d) (hunset : isSet d.revokedAt = false)
    (hnew : s.devices.get? k = none) :
    (unrevokedDevices s').length = (unrevokedDevices s).length + 1 := by
  rw [length_unrevoked_set hs', Record.values_erase_of_absent hnew, List.filter_cons, hunset]
  rfl

theorem length_unrevoked_marked {s s' : PersistentState} {k : JsString} {d d' : StoredDevice}
    (hs' : s'.devices = s.devices.set k d') (hstored : s.devices.get? k = some d)
    (hunset : isSet d.revokedAt = false) :
    (unrevokedDevices s').length ≤ (unrevokedDevices s).length := by
  have hold := ((Record.values_perm hstored).filter fun d => !isSet d.revokedAt).length_eq
  rw [length_unrevoked_set hs', unrevokedDevices, hold, List.filter_cons, List.filter_cons, hunset]
  cases isSet d'.revokedAt with
  | false => exact le_rfl
  | true => exact Nat.le_succ _

end Step

/-! ## Every run -/

section Runs

variable {p : Platform} {upper : UpperCase} {env : PairingEnv}

/-- The devices of memory and file were made by claims of the run. -/
theorem drawn_after (is : List PairingInput) :
    (∀ k d, ((pairing p upper env).after is).live.state.devices.get? k = some d →
        k ∈ is.flatMap PairingInput.names) ∧
      ∀ k d, ((pairing p upper env).after is).file.devices.get? k = some d →
        k ∈ is.flatMap PairingInput.names := by
  refine (pairing p upper env).invariant (E := fun _ => True) (fun _ _ h => h)
    (I := fun is store =>
      (∀ k d, store.live.state.devices.get? k = some d → k ∈ is.flatMap PairingInput.names) ∧
        ∀ k d, store.file.devices.get? k = some d → k ∈ is.flatMap PairingInput.names)
    ⟨fun k d hd => ?_, fun k d hd => ?_⟩ ?_ is trivial
  · cases hd
  · cases hd
  · rintro is i - ⟨hlive, hfile⟩
    generalize (pairing p upper env).after is = store at hlive hfile ⊢
    have hmono : ∀ k ∈ is.flatMap PairingInput.names, k ∈ (is ++ [i]).flatMap PairingInput.names := by
      intro k hk
      rw [List.flatMap_append]
      exact List.mem_append_left _ hk
    have hlive' : ∀ k d, (PairingInput.step p upper env store i).2.live.state.devices.get? k =
        some d → k ∈ (is ++ [i]).flatMap PairingInput.names := by
      intro k d hd
      rcases devicesCase_step p upper env store i with hcase | hreload
      · generalize (PairingInput.step p upper env store i).2.live.state.devices = devices at hcase hd
        cases hcase with
        | kept => exact hmono k (hlive k d hd)
        | @added _ _ draw _ _ _ =>
            rw [Record.get?_set] at hd
            split_ifs at hd with hk
            · rw [List.flatMap_append, hk]
              exact List.mem_append_right _ (by simp [PairingInput.names])
            · exact hmono k (hlive k d hd)
        | marked hstored =>
            rw [Record.get?_set] at hd
            split_ifs at hd with hk
            · exact hmono k (hlive k _ (hk ▸ hstored))
            · exact hmono k (hlive k d hd)
      · rw [hreload] at hd
        exact hmono k (hfile k d hd)
    refine ⟨hlive', ?_⟩
    intro k d hd
    rcases file_step p upper env store i with h | h
    · exact hlive' k d (by rw [← h]; exact hd)
    · exact hmono k (hfile k d (by rw [← h]; exact hd))

theorem newDeviceId_absent {is : List PairingInput} {q pollToken : JsString} {draw : RandomText}
    {now : ℤ} {writes : Bool}
    (hfresh : Fresh PairingInput.names (is ++ [.claim q pollToken draw now writes])) :
    ((pairing p upper env).after is).live.state.devices.get? (newDeviceId draw) = none := by
  cases hd : ((pairing p upper env).after is).live.state.devices.get? (newDeviceId draw) with
  | none => rfl
  | some d =>
      have hnew : newDeviceId draw ∈ (PairingInput.claim q pollToken draw now writes).names := by
        simp [PairingInput.names]
      exact absurd ((drawn_after is).1 _ d hd) (hfresh.notMem hnew)

/-- Where claims find room, the cap holds in memory and in the file. -/
theorem unrevoked_le_after {is : List PairingInput} (hfresh : Fresh PairingInput.names is)
    (hroom : (pairing p upper env).Along (ClaimFindsRoom p env) is) :
    (unrevokedDevices ((pairing p upper env).after is).live.state).length ≤ env.agentMaxDevices ∧
      (unrevokedDevices ((pairing p upper env).after is).file).length ≤ env.agentMaxDevices := by
  refine (pairing p upper env).invariant
    ((prefixClosed_fresh PairingInput.names).and ((pairing p upper env).prefixClosed_along _))
    (I := fun _ store => (unrevokedDevices store.live.state).length ≤ env.agentMaxDevices ∧
      (unrevokedDevices store.file).length ≤ env.agentMaxDevices)
    ⟨Nat.zero_le _, Nat.zero_le _⟩ ?_ is ⟨hfresh, hroom⟩
  rintro is i ⟨hfresh, hroom⟩ ⟨hlive, hfile⟩
  have hlast : ClaimFindsRoom p env ((pairing p upper env).after is) i := hroom.last
  have hdrawn := @newDeviceId_absent p upper env is
  generalize (pairing p upper env).after is = store at hlive hfile hlast hdrawn ⊢
  have hlive' : (unrevokedDevices (PairingInput.step p upper env store i).2.live.state).length ≤
      env.agentMaxDevices := by
    rcases devicesCase_step p upper env store i with hcase | hreload
    · generalize hdevices :
        (PairingInput.step p upper env store i).2.live.state.devices = devices at hcase
      cases hcase with
      | kept =>
          rw [unrevokedDevices, hdevices]
          exact hlive
      | added hstored hhash hnow happroved hnone =>
          rw [length_unrevoked_added hdevices rfl (hdrawn hfresh)]
          exact hlast _ hstored hhash hnow happroved hnone
      | marked hstored hunset =>
          exact (length_unrevoked_marked hdevices hstored hunset).trans hlive
    · rw [unrevokedDevices, hreload]
      exact hfile
  refine ⟨hlive', ?_⟩
  rcases file_step p upper env store i with h | h
  · exact le_of_eq_of_le (congrArg (fun s => (unrevokedDevices s).length) h) hlive'
  · exact le_of_eq_of_le (congrArg (fun s => (unrevokedDevices s).length) h) hfile

/-- A claim that adds a device adds one to the count. -/
theorem unrevoked_claim {is : List PairingInput} {q pollToken : JsString} {draw : RandomText}
    {now : ℤ} {writes : Bool} {x : StoredPairing}
    (hfresh : Fresh PairingInput.names (is ++ [.claim q pollToken draw now writes]))
    (hstored : ((pairing p upper env).after is).live.state.pairings.get? q = some x)
    (hhash : x.pollHash = p.digest pollToken) (hnow : now ≤ x.expiresAt)
    (happroved : isSet x.approvedAt = true)
    (hnone : x.deviceId.bind ((pairing p upper env).after is).live.state.devices.get? = none) :
    (unrevokedDevices ((pairing p upper env).after
        (is ++ [.claim q pollToken draw now writes])).live.state).length =
      (unrevokedDevices ((pairing p upper env).after is).live.state).length + 1 := by
  have hdevices : ((pairing p upper env).after
      (is ++ [.claim q pollToken draw now writes])).live.state.devices =
        ((pairing p upper env).after is).live.state.devices.set (newDeviceId draw)
          (newDevice p x pollToken (newDeviceId draw) now) := by
    rw [Machine.after_concat]
    show (PairingInput.step p upper env _ _).2.live.state.devices = _
    rw [PairingInput.step, answered_snd, Store.run_live, claimPairing, hstored]
    dsimp only
    rw [if_neg (not_not.mpr hhash), if_neg (not_lt.mpr hnow), if_neg (by simp [happroved]), hnone]
    rfl
  exact length_unrevoked_added hdevices rfl (newDeviceId_absent hfresh)

theorem capHolds_iff (p : Platform) (upper : UpperCase) (env : PairingEnv) (is : List PairingInput)
    (hfresh : Fresh PairingInput.names is) :
    CapHolds p upper env is ↔ (pairing p upper env).Along (ClaimFindsRoom p env) is := by
  constructor
  · rintro hcap pre i post rfl
    have hfirst : Fresh PairingInput.names (pre ++ [i]) := by
      rw [List.append_cons] at hfresh
      exact (prefixClosed_fresh _).of_append hfresh
    have hafter := hcap (pre ++ [i]) post (by simp)
    cases i with
    | claim q pollToken draw now writes =>
        intro x hstored hhash hnow happroved hnone
        rw [unrevoked_claim hfirst hstored hhash hnow happroved hnone] at hafter
        exact hafter
    | _ => trivial
  · rintro hroom pre post rfl
    exact (unrevoked_le_after ((prefixClosed_fresh _).of_append hfresh)
      (((pairing p upper env).prefixClosed_along _).of_append hroom)).1

end Runs

theorem capHolds_samplePairing :
    CapHolds samplePlatform sampleUpper samplePairingEnv samplePairing ↔
      (pairing samplePlatform sampleUpper samplePairingEnv).Along
        (ClaimFindsRoom samplePlatform samplePairingEnv) samplePairing :=
  capHolds_iff _ _ _ _ (by decide +kernel)

/-- A second host starts its pairing before the first one is claimed. -/
def twoClaims : List PairingInput :=
  let poll : RandomText := ⟨js "poll2", List.all_eq_true.mp (by decide)⟩
  let draw : RandomText := ⟨js "two", List.all_eq_true.mp (by decide)⟩
  let uuid : RandomUuid := ⟨js "00000000-0000-4000-8000-000000000002", by decide⟩
  [.create ⟨js "host2", none, none, none⟩ ⟨[fun _ => 1], poll, uuid⟩ 500 true,
    .approve (js "WD-BBBB-BBBB") 600 true] ++ samplePairing ++
      [.claim uuid.text poll.text draw 4000 true]

/-- Two devices under a cap of one. -/
theorem twoClaims_exceed : ¬CapHolds samplePlatform sampleUpper samplePairingEnv twoClaims := by
  intro h
  have hcount := h twoClaims [] (List.append_nil _).symm
  revert hcount
  decide +kernel

end RemoteOps

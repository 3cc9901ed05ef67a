import RemoteOps.Agent.Steps

/-!
# What holds of every run of the gateway

Two invariants carry the results. `Tabled` is about the table of pending calls: an
entry belongs to the call that its promise stands for, and that promise has not
settled. `Rooted` is about who is who: a call went to a socket of its device, and
every socket was opened with the credential of a stored device. `DevicesKept` is
what the steps do to the device table: nothing but marks and heartbeats, and no
heartbeat to a revoked device.
-/

namespace RemoteOps

open Ecma Transition

variable {p : Platform} {start : PairedStore}

/-! ## The device table -/

/-- From one content of the store to a later one: devices stay, with their ids and
credentials, and a revoked device stays as it is. -/
structure DevicesKept (live live' : Live) : Prop where
  forth : ∀ k d, live.state.devices.get? k = some d →
    ∃ d', live'.state.devices.get? k = some d' ∧ d'.deviceId = d.deviceId ∧
      d'.credentialHash = d.credentialHash ∧
        (live.realm.isRevoked d.revokedAt = true →
          d' = d ∧ live'.realm.isRevoked d'.revokedAt = true)
  back : ∀ k, live.state.devices.get? k = none → live'.state.devices.get? k = none

theorem DevicesKept.refl (live : Live) : DevicesKept live live :=
  ⟨fun _ d h => ⟨d, h, rfl, rfl, fun hrevoked => ⟨rfl, hrevoked⟩⟩, fun _ h => h⟩

theorem DevicesKept.trans {live live' live'' : Live} (h : DevicesKept live live')
    (h' : DevicesKept live' live'') : DevicesKept live live'' := by
  constructor
  · intro k d hd
    obtain ⟨d', hd', hid, hhash, hrevoked⟩ := h.forth k d hd
    obtain ⟨d'', hd'', hid', hhash', hrevoked'⟩ := h'.forth k d' hd'
    refine ⟨d'', hd'', hid'.trans hid, hhash'.trans hhash, fun hdead => ?_⟩
    obtain ⟨rfl, hdead'⟩ := hrevoked hdead
    exact hrevoked' hdead'
  · exact fun k hk => h'.back k (h.back k hk)

/-- Devices stand under their ids and have different credentials. -/
structure DevicesSound (live : Live) : Prop where
  keyed : ∀ k d, live.state.devices.get? k = some d → d.deviceId = k
  distinct : ∀ k k' d d', live.state.devices.get? k = some d →
    live.state.devices.get? k' = some d' → d.credentialHash = d'.credentialHash → k = k'

theorem DevicesKept.exists_back {live live' : Live} (h : DevicesKept live live') {k : JsString}
    {d' : StoredDevice} (hd' : live'.state.devices.get? k = some d') :
    ∃ d, live.state.devices.get? k = some d ∧ d'.deviceId = d.deviceId ∧
      d'.credentialHash = d.credentialHash := by
  cases hd : live.state.devices.get? k with
  | none =>
      rw [h.back k hd] at hd'
      cases hd'
  | some d =>
      obtain ⟨d'', hd'', hid, hhash, -⟩ := h.forth k d hd
      obtain rfl : d'' = d' := Option.some.inj (hd''.symm.trans hd')
      exact ⟨d, rfl, hid, hhash⟩

theorem DevicesSound.kept {live live' : Live} (hsound : DevicesSound live)
    (h : DevicesKept live live') : DevicesSound live' := by
  constructor
  · intro k d' hd'
    obtain ⟨d, hd, hid, -⟩ := h.exists_back hd'
    exact hid.trans (hsound.keyed k d hd)
  · intro k k' d d' hd hd' heq
    obtain ⟨e, he, -, hhash⟩ := h.exists_back hd
    obtain ⟨e', he', -, hhash'⟩ := h.exists_back hd'
    exact hsound.distinct k k' e e' he he' (hhash.symm.trans (heq.trans hhash'))

/-- An operation of the store that keeps the devices when it is run. -/
theorem devicesKept_run {α : Type} {store : Store} {op : Live → Effect α} {writes : Bool}
    (h : ∀ live' x, op store.live = .persist live' x → DevicesKept store.live live') :
    DevicesKept store.live (store.run op writes).2.live := by
  unfold Store.run
  cases heffect : op store.live with
  | done x => exact DevicesKept.refl _
  | throw e => exact DevicesKept.refl _
  | persist live' x =>
      dsimp only
      split_ifs <;> exact h live' x heffect

/-- Overwriting the record of a device that is not revoked. -/
theorem devicesKept_set {live : Live} {k : JsString} {d d' : StoredDevice}
    (hd : live.state.devices.get? k = some d) (hid : d'.deviceId = d.deviceId)
    (hhash : d'.credentialHash = d.credentialHash)
    (hactive : live.realm.isRevoked d.revokedAt = false) :
    DevicesKept live
      { live with state := { live.state with devices := live.state.devices.set k d' } } := by
  constructor
  · intro k' e he
    dsimp only
    rw [Record.get?_set]
    by_cases hk : k' = k
    · subst hk
      obtain rfl : d = e := Option.some.inj (hd.symm.trans he)
      rw [if_pos rfl]
      refine ⟨d', rfl, hid, hhash, fun hrevoked => ?_⟩
      rw [hactive] at hrevoked
      cases hrevoked
    · rw [if_neg hk]
      exact ⟨e, he, rfl, rfl, fun hrevoked => ⟨rfl, hrevoked⟩⟩
  · intro k' hnone
    dsimp only
    rw [Record.get?_set]
    by_cases hk : k' = k
    · subst hk
      rw [hd] at hnone
      cases hnone
    · rw [if_neg hk]
      exact hnone

theorem devicesKept_touch (store : Store) (deviceId : JsString) (beat : Heartbeat) (now : ℤ)
    (writes : Bool) :
    DevicesKept store.live (store.run (touchDeviceHeartbeat deviceId beat now) writes).2.live := by
  refine devicesKept_run fun live' x heffect => ?_
  unfold touchDeviceHeartbeat at heffect
  cases hd : store.live.state.devices.get? deviceId with
  | none => simp [hd] at heffect
  | some d =>
      simp only [hd] at heffect
      split_ifs at heffect with hrevoked
      obtain ⟨rfl, -⟩ := Effect.persist.inj heffect
      exact devicesKept_set hd rfl rfl (by simpa using hrevoked)

/-- A mark outside the tables only ever revokes more. -/
theorem devicesKept_realm {live : Live} {realm : Realm}
    (h : isSet live.realm.revokedAt = true → realm.revokedAt = live.realm.revokedAt) :
    DevicesKept live { live with realm := realm } := by
  refine ⟨fun k d hd => ⟨d, hd, rfl, rfl, fun hrevoked => ⟨rfl, ?_⟩⟩, fun k hk => hk⟩
  unfold Realm.isRevoked at hrevoked ⊢
  cases hown : d.revokedAt with
  | some t => simpa [hown] using hrevoked
  | none =>
      have hset : isSet live.realm.revokedAt = true := by simpa [hown] using hrevoked
      simpa [hown, h hset] using hset

theorem devicesKept_revoke (store : Store) (deviceId : JsString) (now : ℤ) (writes : Bool) :
    DevicesKept store.live (store.run (revokeDevice deviceId now) writes).2.live := by
  refine devicesKept_run fun live' x heffect => ?_
  unfold revokeDevice at heffect
  split at heffect
  · cases heffect
  · rename_i d hslot
    have hd := Realm.get?_of_slot_eq_own hslot
    split_ifs at heffect with hactive
    · obtain ⟨rfl, -⟩ := Effect.persist.inj heffect
      exact devicesKept_set hd rfl rfl (by simpa using hactive)
    · obtain ⟨rfl, -⟩ := Effect.persist.inj heffect
      exact DevicesKept.refl _
  · rename_i hslot _
    split_ifs at heffect with hactive
    · split at heffect
      · cases heffect
      · rename_i realm hrealm
        obtain ⟨rfl, -⟩ := Effect.persist.inj heffect
        refine devicesKept_realm fun hset => ?_
        cases hcase : store.live.realm.slot store.live.state.devices deviceId with
        | absent => simp [hcase, Realm.revoke] at hrealm; rw [hrealm]
        | own d => simp [hcase, Realm.revoke] at hrealm; rw [hrealm]
        | prototype => simp [hcase, Realm.ownRevokedAt, Realm.isRevoked, hset] at hactive
        | method name => simp [hcase, Realm.revoke] at hrealm; rw [← hrealm]
        | number => simp [hcase, Realm.revoke] at hrealm
    · obtain ⟨rfl, -⟩ := Effect.persist.inj heffect
      exact DevicesKept.refl _

/-! ## The table of calls -/

structure Tabled (g : Gateway) : Prop where
  entered : Entered g
  unsettled : ∀ q ∈ g.pending, q.promise ∉ g.settled
  bounded : ∀ n ∈ g.settled, n < g.dispatches.length
  nodup : g.settled.Nodup

theorem Tabled.lt_length {g : Gateway} (h : Tabled g) {q : Pending} (hq : q ∈ g.pending) :
    q.promise < g.dispatches.length := by
  obtain ⟨s, hs⟩ := h.entered q hq
  exact (List.getElem?_eq_some_iff.mp hs).1

theorem Tabled.of_eq {g g' : Gateway} (h : Tabled g) (hdispatches : g'.dispatches = g.dispatches)
    (hpending : g'.pending = g.pending) (hsettled : g'.settled = g.settled) : Tabled g' := by
  constructor
  · rw [Entered, hpending, hdispatches]
    exact h.entered
  · rw [hpending, hsettled]
    exact h.unsettled
  · rw [hsettled, hdispatches]
    exact h.bounded
  · rw [hsettled]
    exact h.nodup

theorem Tabled.clears {g : Gateway} {x : Emits} {C : ℕ → Settlement → Prop} (h : Tabled g)
    (hx : Clears g x C) (hC : ∀ n o, C n o → n < g.dispatches.length) : Tabled x.2 := by
  constructor
  · intro q hq
    rw [hx.dispatches]
    exact h.entered q (hx.pending q hq)
  · intro q hq hn
    rw [hx.settles.settled, List.mem_append] at hn
    rcases hn with hn | hn
    · exact h.unsettled q (hx.pending q hq) hn
    · obtain ⟨⟨n, o⟩, hmem, hsame⟩ := List.mem_map.mp hn
      subst hsame
      exact hx.unsettled h.entered q hq o hmem
  · intro n hn
    rw [hx.dispatches]
    rw [hx.settles.settled, List.mem_append] at hn
    rcases hn with hn | hn
    · exact h.bounded n hn
    · obtain ⟨⟨m, o⟩, hmem, hsame⟩ := List.mem_map.mp hn
      subst hsame
      exact hC m o (hx.mem m o hmem)
  · exact hx.settles.nodup h.nodup

theorem Tabled.sent {g : Gateway} {input : DispatchInput} {s : ℕ} {socket : AgentSocket} {x : Emits}
    (h : Tabled g) (hx : Sends p g input s socket x) : Tabled x.2 := by
  constructor
  · intro q hq
    rw [hx.dispatches]
    rcases hx.pending q hq with hq | rfl
    · obtain ⟨t, ht⟩ := h.entered q hq
      exact ⟨t, by rw [List.getElem?_append_left (h.lt_length hq)]; exact ht⟩
    · exact ⟨s, List.getElem?_concat_length⟩
  · intro q hq
    rw [hx.settled]
    rcases hx.pending q hq with hq | rfl
    · exact h.unsettled q hq
    · exact fun hn => lt_irrefl _ (h.bounded _ hn)
  · intro n hn
    rw [hx.settled] at hn
    rw [hx.dispatches, List.length_append]
    exact Nat.lt_add_right _ (h.bounded n hn)
  · rw [hx.settled]
    exact h.nodup

theorem RejectCause.lt_length {g : Gateway} {i : GatewayInput} {n : ℕ} {o : Settlement}
    (h : Tabled g) (hcause : RejectCause g i n o) : n < g.dispatches.length := by
  cases hcause with
  | disconnected hsocket hopen hq hdevice => exact h.lt_length hq
  | revoked hq => exact h.lt_length hq
  | timeout hd => exact (List.getElem?_eq_some_iff.mp hd).1
  | failed hd => exact (List.getElem?_eq_some_iff.mp hd).1

theorem Tabled.step {g : Gateway} {i : GatewayInput} {x : Emits} (h : Tabled g)
    (hx : StepCase p g i x) : Tabled x.2 := by
  cases hx with
  | idle hidle =>
      exact h.of_eq hidle.untouched.dispatches hidle.untouched.pending hidle.untouched.settled
  | accepted hauth htouch haccepts => exact h.of_eq htouch.dispatches htouch.pending htouch.settled
  | heartbeat hsocket hauth htouch hlive hsockets =>
      exact h.of_eq htouch.dispatches htouch.pending htouch.settled
  | result hsocket hauth hdelivers hclears =>
      refine h.clears hclears fun n o hno => ?_
      rw [hno.1]
      exact h.lt_length hdelivers.pending
  | sent hsends => exact h.sent hsends
  | rejected hclears hclosed => exact h.clears hclears fun n o => RejectCause.lt_length h
  | revoked => exact h.of_eq rfl rfl rfl

/-! ## Calls, sockets and devices -/

structure Rooted (p : Platform) (g : Gateway) : Prop where
  dispatched : ∀ d ∈ g.dispatches, ∃ socket, g.sockets[d.socket]? = some socket ∧
    socket.deviceId = d.deviceId
  live : ∀ k s, g.live k = some s → ∃ socket, g.sockets[s]? = some socket ∧ socket.deviceId = k
  credentials : ∀ (s : ℕ) (socket : AgentSocket), g.sockets[s]? = some socket →
    ∃ d, g.store.live.state.devices.get? socket.deviceId = some d ∧
      d.credentialHash = p.digest socket.token
  devices : DevicesSound g.store.live

theorem Rooted.of_kept {g g' : Gateway} (h : Rooted p g)
    (hdevices : DevicesKept g.store.live g'.store.live)
    (hsockets : SocketsKept g.sockets g'.sockets)
    (hlive : ∀ k, g'.live k = g.live k ∨ g'.live k = none)
    (hdispatches : g'.dispatches = g.dispatches) : Rooted p g' := by
  constructor
  · intro d hd
    rw [hdispatches] at hd
    obtain ⟨socket, hsocket, hdevice⟩ := h.dispatched d hd
    obtain ⟨socket', hsocket', hkept⟩ := hsockets.getElem? hsocket
    exact ⟨socket', hsocket', hkept.deviceId.trans hdevice⟩
  · intro k s hs
    rcases hlive k with hsame | hnone
    · obtain ⟨socket, hsocket, hdevice⟩ := h.live k s (hsame.symm.trans hs)
      obtain ⟨socket', hsocket', hkept⟩ := hsockets.getElem? hsocket
      exact ⟨socket', hsocket', hkept.deviceId.trans hdevice⟩
    · rw [hnone] at hs
      cases hs
  · intro s socket' hsocket'
    obtain ⟨socket, hsocket, hkept⟩ := hsockets.getElem?_of_right hsocket'
    obtain ⟨d, hd, hhash⟩ := h.credentials s socket hsocket
    obtain ⟨d', hd', -, hhash', -⟩ := hdevices.forth _ d hd
    rw [hkept.deviceId, hkept.token]
    exact ⟨d', hd', hhash'.trans hhash⟩
  · exact h.devices.kept hdevices

/-- What an authenticated token says about the device table. -/
theorem exists_of_authenticateDeviceToken {live : Live} {token : JsString} {d : StoredDevice}
    (h : authenticateDeviceToken p.digest token live = some d) :
    ∃ k, live.state.devices.get? k = some d ∧ d.credentialHash = p.digest token ∧
      live.realm.isRevoked d.revokedAt = false := by
  unfold authenticateDeviceToken at h
  obtain ⟨⟨k, d'⟩, hfind, rfl⟩ := Option.map_eq_some_iff.mp h
  obtain ⟨hd, hcond⟩ := Record.find?_some hfind
  simp only [Bool.and_eq_true, decide_eq_true_eq, Bool.not_eq_true'] at hcond
  exact ⟨k, hd, hcond.1, hcond.2⟩

/-- The token of a socket authenticates as the device of the socket, if at all. -/
theorem Rooted.authenticated {g : Gateway} (h : Rooted p g) {s : ℕ} {socket : AgentSocket}
    (hsocket : g.sockets[s]? = some socket)
    (hauth : (authenticateDeviceToken p.digest socket.token g.store.live).isSome = true) :
    ∃ d, authenticateDeviceToken p.digest socket.token g.store.live = some d ∧
      g.store.live.state.devices.get? socket.deviceId = some d ∧
        g.store.live.realm.isRevoked d.revokedAt = false := by
  obtain ⟨d, hd⟩ := Option.isSome_iff_exists.mp hauth
  obtain ⟨k, hk, hhash, hactive⟩ := exists_of_authenticateDeviceToken hd
  obtain ⟨e, he, hhash'⟩ := h.credentials s socket hsocket
  obtain rfl := h.devices.distinct k socket.deviceId d e hk he (hhash.trans hhash'.symm)
  exact ⟨d, hd, hk, hactive⟩

theorem Rooted.accepted {g : Gateway} {token : JsString} {device : StoredDevice} {now : ℤ}
    {x : Emits} (h : Rooted p g)
    (hauth : authenticateDeviceToken p.digest token g.store.live = some device)
    (hdevices : DevicesKept g.store.live x.2.store.live)
    (hdispatches : x.2.dispatches = g.dispatches)
    (haccepts : Accepts g device.deviceId token now x) : Rooted p x.2 := by
  obtain ⟨k, hk, hhash, -⟩ := exists_of_authenticateDeviceToken hauth
  have hid : device.deviceId = k := h.devices.keyed k device hk
  have hjoined : Rooted p (g.join device.deviceId token now) := by
    constructor
    · intro d hd
      obtain ⟨socket, hsocket, hdevice⟩ := h.dispatched d hd
      refine ⟨socket, ?_, hdevice⟩
      rw [Gateway.join, List.getElem?_append_left (List.getElem?_eq_some_iff.mp hsocket).1]
      exact hsocket
    · intro k' s hs
      simp only [Gateway.join, Function.update_apply] at hs
      split_ifs at hs with hk'
      · obtain rfl := Option.some.inj hs
        exact ⟨_, List.getElem?_concat_length, hk'.symm⟩
      · obtain ⟨socket, hsocket, hdevice⟩ := h.live k' s hs
        refine ⟨socket, ?_, hdevice⟩
        rw [Gateway.join, List.getElem?_append_left (List.getElem?_eq_some_iff.mp hsocket).1]
        exact hsocket
    · intro s socket hsocket
      rw [Gateway.join, List.getElem?_append] at hsocket
      split_ifs at hsocket with hs
      · exact h.credentials s socket hsocket
      · obtain rfl := List.mem_singleton.mp (List.mem_of_getElem? hsocket)
        exact ⟨device, by rw [← hid] at hk; exact hk, hhash⟩
    · exact h.devices
  refine hjoined.of_kept hdevices haccepts.sockets (fun k => .inl ?_) hdispatches
  exact congrFun haccepts.live k

theorem Rooted.sent {g : Gateway} {input : DispatchInput} {s : ℕ} {socket : AgentSocket} {x : Emits}
    (h : Rooted p g) (hx : Sends p g input s socket x) : Rooted p x.2 := by
  constructor
  · intro d hd
    rw [hx.dispatches, List.mem_append, List.mem_singleton] at hd
    rw [hx.sockets]
    rcases hd with hd | rfl
    · exact h.dispatched d hd
    · exact h.live input.deviceId s hx.live
  · rw [hx.kept, hx.sockets]
    exact fun k t ht => h.live k t ht
  · rw [hx.sockets, hx.store]
    exact h.credentials
  · rw [hx.store]
    exact h.devices

/-- What an input does to the device table. -/
theorem devicesKept_step {g : Gateway} {i : GatewayInput} {x : Emits} (hx : StepCase p g i x) :
    DevicesKept g.store.live x.2.store.live := by
  have heq : ∀ {store : Store}, store = g.store → DevicesKept g.store.live store.live := by
    rintro store rfl
    exact DevicesKept.refl _
  cases hx with
  | idle hidle => exact heq hidle.untouched.store
  | accepted hauth htouch haccepts =>
      rw [htouch.store]
      exact devicesKept_touch ..
  | heartbeat hsocket hauth htouch hlive hsockets =>
      rw [htouch.store]
      exact devicesKept_touch ..
  | result hsocket hauth hdelivers hclears => exact heq hclears.store
  | sent hsends => exact heq hsends.store
  | rejected hclears hclosed => exact heq hclears.store
  | revoked => exact devicesKept_revoke ..

theorem Rooted.step {g : Gateway} {i : GatewayInput} {x : Emits} (h : Rooted p g)
    (hx : StepCase p g i x) : Rooted p x.2 := by
  have hdevices := devicesKept_step hx
  cases hx with
  | idle hidle =>
      refine h.of_kept hdevices hidle.untouched.sockets (fun k => .inl ?_)
        hidle.untouched.dispatches
      rw [hidle.untouched.live]
  | accepted hauth htouch haccepts => exact h.accepted hauth hdevices htouch.dispatches haccepts
  | heartbeat hsocket hauth htouch hlive hsockets =>
      refine h.of_kept hdevices hsockets (fun k => .inl ?_) htouch.dispatches
      rw [hlive]
  | result hsocket hauth hdelivers hclears =>
      exact h.of_kept hdevices hclears.sockets hclears.live hclears.dispatches
  | sent hsends => exact h.sent hsends
  | rejected hclears hclosed =>
      exact h.of_kept hdevices hclears.sockets hclears.live hclears.dispatches
  | revoked => exact h.of_kept hdevices (SocketsKept.refl _) (fun k => .inl rfl) rfl

/-! ## Runs -/

theorem stepCase_gateway (g : Gateway) (i : GatewayInput) :
    StepCase p g i ((gateway p start).step g i) := by
  show StepCase p g i (if g.crashed = true then ([], g) else i.step p g)
  split_ifs
  · exact .idle (idle_none g)
  · exact stepCase_step p g i

theorem tabled_after (is : List GatewayInput) : Tabled ((gateway p start).after is) := by
  refine (gateway p start).invariant (E := fun _ => True) (I := fun _ g => Tabled g)
    (fun _ _ _ => trivial) ?_ (fun is i _ h => h.step (stepCase_gateway _ i)) is trivial
  constructor <;> simp [gateway, Entered]

theorem rooted_after (is : List GatewayInput) : Rooted p ((gateway p start).after is) := by
  refine (gateway p start).invariant (E := fun _ => True) (I := fun _ g => Rooted p g)
    (fun _ _ _ => trivial) ?_ (fun is i _ h => h.step (stepCase_gateway _ i)) is trivial
  constructor
  · simp [gateway]
  · simp [gateway]
  · simp [gateway]
  · exact ⟨start.keyed, start.distinct⟩

/-- The promises that settle in a run are the ones on the list. -/
theorem settled_after (is : List GatewayInput) :
    ((gateway p start).after is).settled =
      (settlements (((gateway p start).trace is).flatMap Prod.snd)).map Prod.fst := by
  induction is using List.reverseRecOn with
  | nil => rfl
  | append_singleton is i ih =>
      have hlast : Settles ((gateway p start).after is)
          ((gateway p start).step ((gateway p start).after is) i) :=
        (stepCase_gateway _ i).settles
      rw [Machine.after_concat, Machine.trace_concat, List.flatMap_append, settlements_append,
        List.map_append, ← ih, hlast.settled]
      simp [Machine.answer]

/-! ## Results -/

/-- A message that carries the request id of a call, over a connection that is
authenticated as the device of the call. -/
inductive ResolvedBy (p : Platform) (g : Gateway) : GatewayInput → ℕ → ExecResult → Prop where
  | intro {s n : ℕ} {input : MessageInput} {socket : AgentSocket} {device : StoredDevice}
      {call : Dispatch} {msg : Json} {r : ExecResult} (hsocket : g.sockets[s]? = some socket)
      (hauth : authenticateDeviceToken p.digest socket.token g.store.live = some device)
      (hcall : g.dispatches[n]? = some call) (hdevice : call.deviceId = device.deviceId)
      (hsame : socket.deviceId = device.deviceId) (hmsg : safeJson p input.data = some msg)
      (htype : strOrEmpty (msg.get (js "type")) = some (js "execute_result"))
      (hid : call.requestId = stringOr (msg.get (js "request_id")))
      (hresult : resultOf msg = some r) : ResolvedBy p g (.message s input) n r

theorem eq_of_settlementOf_resolved {msg : Json} {r : ExecResult}
    (h : settlementOf msg = .resolved r) : resultOf msg = some r := by
  unfold settlementOf at h
  split at h
  · rename_i hresult
    rw [hresult, Settlement.resolved.inj h]
  · cases h

theorem resolvedBy_of_mem {g : Gateway} {i : GatewayInput} {x : Emits} {n : ℕ} {r : ExecResult}
    (htabled : Tabled g) (hrooted : Rooted p g) (hx : StepCase p g i x)
    (hmem : (n, .resolved r) ∈ settlements x.1) : ResolvedBy p g i n r := by
  have hquiet : ∀ {events : List GatewayEvent}, Quiet events →
      (n, Settlement.resolved r) ∉ settlements events := by
    intro events h
    simp [h.settlements]
  cases hx with
  | idle hidle => exact absurd hmem (hquiet hidle.quiet)
  | accepted hauth htouch haccepts => exact absurd hmem (hquiet htouch.quiet)
  | heartbeat hsocket hauth htouch hlive hsockets => exact absurd hmem (hquiet htouch.quiet)
  | result hsocket hauth hdelivers hclears =>
      obtain ⟨rfl, hsettlement⟩ := hclears.mem n _ hmem
      obtain ⟨d, hd, hfound, -⟩ := hrooted.authenticated hsocket hauth
      obtain ⟨t, ht⟩ := htabled.entered _ hdelivers.pending
      have hid := hrooted.devices.keyed _ d hfound
      exact .intro hsocket hd ht (hdelivers.deviceId.trans hid.symm) hid.symm hdelivers.message
        hdelivers.type hdelivers.requestId (eq_of_settlementOf_resolved hsettlement.symm)
  | sent hsends =>
      rw [hsends.settlements] at hmem
      cases hmem
  | rejected hclears hclosed =>
      have hcause := hclears.mem n _ hmem
      cases hcause
  | revoked => cases hmem

/-! ## Revocation -/

/-- Every record under the id is revoked. -/
def DeviceDead (deviceId : JsString) (live : Live) : Prop :=
  ∀ d, live.state.devices.get? deviceId = some d → live.realm.isRevoked d.revokedAt = true

theorem DeviceDead.kept {deviceId : JsString} {live live' : Live} (h : DeviceDead deviceId live)
    (hkept : DevicesKept live live') :
    DeviceDead deviceId live' ∧
      live'.state.devices.get? deviceId = live.state.devices.get? deviceId := by
  cases hd : live.state.devices.get? deviceId with
  | none =>
      have hnone := hkept.back deviceId hd
      exact ⟨fun d' hd' => by simp [hnone] at hd', hnone⟩
  | some d =>
      obtain ⟨d', hd', -, -, hrevoked⟩ := hkept.forth deviceId d hd
      obtain ⟨rfl, hdead⟩ := hrevoked (h d hd)
      refine ⟨fun e he => ?_, hd'⟩
      rw [hd', Option.some.injEq] at he
      exact he ▸ hdead

/-- No operation goes to the device, none of its calls gets a result, and what it
sends changes nothing in the store. -/
structure Silenced (deviceId : JsString) (g : Gateway) (i : GatewayInput) (x : Emits) : Prop where
  executions : ∀ s ∈ executions x.1, ∀ socket, g.sockets[s]? = some socket →
    socket.deviceId ≠ deviceId
  results : ∀ n r, (n, .resolved r) ∈ settlements x.1 →
    ∀ call, g.dispatches[n]? = some call → call.deviceId ≠ deviceId
  messages : ∀ s input socket, i = .message s input → g.sockets[s]? = some socket →
    socket.deviceId = deviceId → x.2.store = g.store
  record : x.2.store.live.state.devices.get? deviceId = g.store.live.state.devices.get? deviceId

theorem Rooted.ne_of_authenticated {g : Gateway} (h : Rooted p g) {deviceId : JsString}
    (hdead : DeviceDead deviceId g.store.live) {s : ℕ} {socket : AgentSocket}
    (hsocket : g.sockets[s]? = some socket)
    (hauth : (authenticateDeviceToken p.digest socket.token g.store.live).isSome = true) :
    socket.deviceId ≠ deviceId := by
  rintro rfl
  obtain ⟨d, -, hd, hactive⟩ := h.authenticated hsocket hauth
  rw [hdead d hd] at hactive
  cases hactive

theorem silenced_of_dead {deviceId : JsString} {g : Gateway} {i : GatewayInput} {x : Emits}
    (htabled : Tabled g) (hrooted : Rooted p g) (hdead : DeviceDead deviceId g.store.live)
    (hx : StepCase p g i x) : Silenced deviceId g i x := by
  constructor
  · intro s hs socket hsocket
    cases hx with
    | idle hidle => simp [hidle.quiet.executions] at hs
    | accepted hauth htouch haccepts => simp [htouch.quiet.executions] at hs
    | heartbeat hfound hauth htouch hlive hsockets => simp [htouch.quiet.executions] at hs
    | result hfound hauth hdelivers hclears => simp [hclears.executions] at hs
    | sent hsends =>
        rw [hsends.executions, List.mem_singleton] at hs
        subst hs
        obtain rfl := Option.some.inj (hsends.found.symm.trans hsocket)
        exact hrooted.ne_of_authenticated hdead hsocket hsends.authenticated
    | rejected hclears hclosed => simp [hclears.executions] at hs
    | revoked => cases hs
  · intro n r hmem call hcall
    cases resolvedBy_of_mem htabled hrooted hx hmem with
    | intro hsocket hauth hfound hdevice hsame hmsg htype hid hresult =>
        obtain rfl := Option.some.inj (hfound.symm.trans hcall)
        rw [hdevice, ← hsame]
        exact hrooted.ne_of_authenticated hdead hsocket (by rw [hauth]; rfl)
  · rintro s input socket rfl hsocket hdevice
    have hne : ∀ {socket' : AgentSocket}, g.sockets[s]? = some socket' →
        (authenticateDeviceToken p.digest socket'.token g.store.live).isSome = true → False := by
      intro socket' hsocket' hauth
      obtain rfl := Option.some.inj (hsocket.symm.trans hsocket')
      exact hrooted.ne_of_authenticated hdead hsocket hauth hdevice
    cases hx with
    | idle hidle => exact hidle.untouched.store
    | heartbeat hfound hauth htouch hlive hsockets => exact (hne hfound hauth).elim
    | result hfound hauth hdelivers hclears => exact hclears.store
    | rejected hclears hclosed => exact hclears.store
  · exact (hdead.kept (devicesKept_step hx)).2

theorem deviceDead_of_get?_eq_none {deviceId : JsString} {live : Live}
    (h : live.state.devices.get? deviceId = none) : DeviceDead deviceId live := by
  intro d hd
  rw [h] at hd
  cases hd

theorem deviceDead_of_done {deviceId : JsString} {now : ℤ} {live : Live} {b : Bool}
    (h : revokeDevice deviceId now live = .done b) : DeviceDead deviceId live := by
  unfold revokeDevice at h
  split at h
  · rename_i hslot
    have hother : ∀ x, live.realm.slot live.state.devices deviceId ≠ .own x := fun x => by
      simp [hslot]
    exact deviceDead_of_get?_eq_none (Realm.get?_of_slot_ne_own hother)
  · split_ifs at h
  · split_ifs at h
    split at h <;> cases h

theorem deviceDead_of_persist {deviceId : JsString} {now : ℤ} (hnow : 0 < now) {live live' : Live}
    {b : Bool} (h : revokeDevice deviceId now live = .persist live' b) :
    DeviceDead deviceId live' := by
  have hset : isSet (some now) = true := by simpa [isSet] using hnow.ne'
  unfold revokeDevice at h
  split at h
  · cases h
  · rename_i device hslot
    split_ifs at h with hactive
    · obtain ⟨rfl, -⟩ := Effect.persist.inj h
      intro d hd
      simp only [Record.get?_set, if_true, Option.some.injEq] at hd
      subst hd
      exact hset
    · obtain ⟨rfl, -⟩ := Effect.persist.inj h
      intro d hd
      obtain rfl := Option.some.inj ((Realm.get?_of_slot_eq_own hslot).symm.trans hd)
      simpa using hactive
  · rename_i hother
    have hnone : live.state.devices.get? deviceId = none :=
      Realm.get?_of_slot_ne_own fun x hx => hother x hx
    split_ifs at h
    · split at h
      · cases h
      · obtain ⟨rfl, -⟩ := Effect.persist.inj h
        exact deviceDead_of_get?_eq_none hnone
    · obtain ⟨rfl, -⟩ := Effect.persist.inj h
      exact deviceDead_of_get?_eq_none hnone

/-- `revokeDevice` has returned. -/
theorem deviceDead_of_revoke {deviceId : JsString} {now : ℤ} {writes b : Bool} {g : Gateway}
    (hnow : 0 < now) (h : (g.revoke deviceId now writes).1 = [.revoked (.ok b)]) :
    DeviceDead deviceId (g.revoke deviceId now writes).2.store.live := by
  unfold Gateway.revoke Store.run at h ⊢
  cases heffect : revokeDevice deviceId now g.store.live with
  | done x => exact deviceDead_of_done heffect
  | throw e => simp [heffect] at h
  | persist live x =>
      dsimp only
      split_ifs <;> exact deviceDead_of_persist hnow heffect

theorem deviceDead_after {deviceId : JsString} (pre mid : List GatewayInput)
    (h : DeviceDead deviceId ((gateway p start).after pre).store.live) :
    DeviceDead deviceId ((gateway p start).after (pre ++ mid)).store.live :=
  (gateway p start).stable (E := fun _ => True) (P := fun _ g => DeviceDead deviceId g.store.live)
    (fun _ _ _ => trivial)
    (fun _ i _ h => (h.kept (devicesKept_step (stepCase_gateway _ i))).1) pre mid trivial h

/-- Every promise settles at most once; a result comes from the device that was
asked; and once `revokeDevice` has returned the device is silenced, whether its
sockets are closed or not. -/
theorem channel_safe (p : Platform) (start : PairedStore) (is : List GatewayInput) :
    ((settlements (((gateway p start).trace is).flatMap Prod.snd)).map Prod.fst).Nodup ∧
      (∀ pre i n r, (n, .resolved r) ∈ settlements ((gateway p start).answer pre i) →
        ResolvedBy p ((gateway p start).after pre) i n r) ∧
        ∀ pre deviceId now writes b mid i, 0 < now →
          (gateway p start).answer pre (.revokeDevice deviceId now writes) = [.revoked (.ok b)] →
            Silenced deviceId
              ((gateway p start).after (pre ++ .revokeDevice deviceId now writes :: mid)) i
              ((gateway p start).step
                ((gateway p start).after (pre ++ .revokeDevice deviceId now writes :: mid)) i) := by
  refine ⟨?_, ?_, ?_⟩
  · rw [← settled_after]
    exact (tabled_after is).nodup
  · intro pre i n r hmem
    exact resolvedBy_of_mem (tabled_after pre) (rooted_after pre) (stepCase_gateway _ i) hmem
  · intro pre deviceId now writes b mid i hnow hreturned
    refine silenced_of_dead (tabled_after _) (rooted_after _) ?_ (stepCase_gateway _ i)
    rw [← List.singleton_append, ← List.append_assoc]
    apply deviceDead_after
    rw [Machine.after_concat]
    rw [Machine.answer] at hreturned
    by_cases hcrashed : ((gateway p start).after pre).crashed = true
    · have hstep : (gateway p start).step ((gateway p start).after pre)
          (.revokeDevice deviceId now writes) = ([], (gateway p start).after pre) := if_pos hcrashed
      rw [hstep] at hreturned
      cases hreturned
    · have hstep : (gateway p start).step ((gateway p start).after pre)
          (.revokeDevice deviceId now writes) =
            ((gateway p start).after pre).revoke deviceId now writes := if_neg hcrashed
      rw [hstep] at hreturned ⊢
      exact deviceDead_of_revoke hnow hreturned

end RemoteOps

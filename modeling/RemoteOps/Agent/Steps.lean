import RemoteOps.Agent.Gateway

/-!
# What a callback of the gateway can do

`StepCase` lists the ways in which one input can change the process: it may touch
sockets only, accept a connection, take a heartbeat, take a result, send a call,
reject calls, or revoke a device. Every input is one of them (`stepCase_step`), so
that a fact about all runs is a case analysis over seven cases.
-/

namespace RemoteOps

open Ecma Transition

/-! ## Events -/

/-- The promises that settle, in order. -/
def settlements (events : List GatewayEvent) : List (ℕ × Settlement) :=
  events.filterMap fun
    | .settled n outcome => some (n, outcome)
    | _ => none

/-- The operations that are sent, with their sockets. -/
def executions (events : List GatewayEvent) : List ℕ :=
  events.filterMap fun
    | .sent s (.executeRequest _ _ _ _) => some s
    | _ => none

@[simp] theorem settlements_nil : settlements [] = [] := rfl

@[simp] theorem executions_nil : executions [] = [] := rfl

@[simp] theorem settlements_append (xs ys : List GatewayEvent) :
    settlements (xs ++ ys) = settlements xs ++ settlements ys := List.filterMap_append

@[simp] theorem executions_append (xs ys : List GatewayEvent) :
    executions (xs ++ ys) = executions xs ++ executions ys := List.filterMap_append

/-- Neither a settlement nor an operation. -/
structure Quiet (events : List GatewayEvent) : Prop where
  settlements : settlements events = []
  executions : executions events = []

theorem quiet_nil : Quiet [] := ⟨rfl, rfl⟩

theorem Quiet.append {xs ys : List GatewayEvent} (hx : Quiet xs) (hy : Quiet ys) :
    Quiet (xs ++ ys) := by
  constructor
  · rw [settlements_append, hx.settlements, hy.settlements, List.append_nil]
  · rw [executions_append, hx.executions, hy.executions, List.append_nil]

/-! ## Sockets -/

/-- A socket keeps what it is, and a closed one stays closed. -/
structure SocketKept (x y : AgentSocket) : Prop where
  deviceId : y.deviceId = x.deviceId
  token : y.token = x.token
  closed : x.readyState = .closed → y.readyState = .closed

theorem SocketKept.refl (x : AgentSocket) : SocketKept x x := ⟨rfl, rfl, id⟩

theorem SocketKept.trans {x y z : AgentSocket} (h : SocketKept x y) (h' : SocketKept y z) :
    SocketKept x z :=
  ⟨h'.deviceId.trans h.deviceId, h'.token.trans h.token, h'.closed ∘ h.closed⟩

def SocketsKept (xs ys : List AgentSocket) : Prop := List.Forall₂ SocketKept xs ys

theorem SocketsKept.refl (xs : List AgentSocket) : SocketsKept xs xs :=
  List.forall₂_same.mpr fun x _ => SocketKept.refl x

theorem SocketsKept.trans {xs ys zs : List AgentSocket} (h : SocketsKept xs ys)
    (h' : SocketsKept ys zs) : SocketsKept xs zs := by
  induction h generalizing zs with
  | nil => exact h'
  | cons hxy _ ih =>
      cases h' with
      | cons hyz hrest => exact .cons (hxy.trans hyz) (ih hrest)

theorem socketsKept_modify {f : AgentSocket → AgentSocket} (hf : ∀ x, SocketKept x (f x))
    (xs : List AgentSocket) (s : ℕ) : SocketsKept xs (xs.modify s f) := by
  induction xs generalizing s with
  | nil => cases s <;> exact .nil
  | cons x xs ih =>
      cases s with
      | zero => exact .cons (hf x) (SocketsKept.refl xs)
      | succ s => exact .cons (SocketKept.refl x) (ih s)

theorem SocketsKept.getElem? {xs ys : List AgentSocket} (h : SocketsKept xs ys) {s : ℕ}
    {x : AgentSocket} (hx : xs[s]? = some x) : ∃ y, ys[s]? = some y ∧ SocketKept x y := by
  induction h generalizing s with
  | nil => simp at hx
  | cons hxy _ ih =>
      cases s with
      | zero =>
          obtain rfl := Option.some.inj hx
          exact ⟨_, rfl, hxy⟩
      | succ s => exact ih hx

theorem SocketsKept.getElem?_of_right {xs ys : List AgentSocket} (h : SocketsKept xs ys) {s : ℕ}
    {y : AgentSocket} (hy : ys[s]? = some y) : ∃ x, xs[s]? = some x ∧ SocketKept x y := by
  induction h generalizing s with
  | nil => simp at hy
  | cons hxy _ ih =>
      cases s with
      | zero =>
          obtain rfl := Option.some.inj hy
          exact ⟨_, rfl, hxy⟩
      | succ s => exact ih hy

/-! ## Steps that touch sockets only -/

/-- Everything but sockets is as before. -/
structure Untouched (g g' : Gateway) : Prop where
  store : g'.store = g.store
  live : g'.live = g.live
  dispatches : g'.dispatches = g.dispatches
  pending : g'.pending = g.pending
  settled : g'.settled = g.settled
  sockets : SocketsKept g.sockets g'.sockets

theorem Untouched.refl (g : Gateway) : Untouched g g :=
  ⟨rfl, rfl, rfl, rfl, rfl, SocketsKept.refl _⟩

theorem Untouched.trans {g g' g'' : Gateway} (h : Untouched g g') (h' : Untouched g' g'') :
    Untouched g g'' :=
  ⟨h'.store.trans h.store, h'.live.trans h.live, h'.dispatches.trans h.dispatches,
    h'.pending.trans h.pending, h'.settled.trans h.settled, h.sockets.trans h'.sockets⟩

structure Idle (g : Gateway) (x : Emits) : Prop where
  untouched : Untouched g x.2
  quiet : Quiet x.1

theorem idle_none (g : Gateway) : Idle g ([], g) := ⟨Untouched.refl g, quiet_nil⟩

theorem Idle.andThen {g : Gateway} {x : Emits} {f : Gateway → Emits} (hx : Idle g x)
    (hf : Idle x.2 (f x.2)) : Idle g (x.andThen f) :=
  ⟨hx.untouched.trans hf.untouched, hx.quiet.append hf.quiet⟩

theorem untouched_setSocket {f : AgentSocket → AgentSocket} (hf : ∀ x, SocketKept x (f x))
    (g : Gateway) (s : ℕ) : Untouched g (g.setSocket s f) :=
  ⟨rfl, rfl, rfl, rfl, rfl, socketsKept_modify hf g.sockets s⟩

theorem socketKept_seen (now : ℤ) (x : AgentSocket) : SocketKept x (seen now x) := ⟨rfl, rfl, id⟩

theorem idle_closeSocket (g : Gateway) (s code : ℕ) (reason : String) :
    Idle g (g.closeSocket s code reason) := by
  unfold Gateway.closeSocket
  by_cases hopen : g.isOpen s = true
  · rw [if_pos hopen]
    refine ⟨⟨rfl, rfl, rfl, rfl, rfl, ?_⟩, ⟨rfl, rfl⟩⟩
    -- only an open socket is set to closing
    refine List.forall₂_iff_get.mpr ⟨by simp [Gateway.setSocket], fun i hi hi' => ?_⟩
    simp only [Gateway.setSocket, List.get_eq_getElem, List.getElem_modify]
    split_ifs with hs
    · subst hs
      refine ⟨rfl, rfl, fun hclosed => ?_⟩
      simp [Gateway.isOpen, List.getElem?_eq_getElem hi] at hopen
      rw [hclosed] at hopen
      cases hopen
    · exact SocketKept.refl _
  · rw [if_neg hopen]
    exact idle_none g

theorem idle_send {g : Gateway} {s : ℕ} {message : ServerMessage}
    (h : executions [.sent s message] = []) : Idle g (g.send s message) := by
  refine ⟨Untouched.refl g, ?_⟩
  unfold Gateway.send
  split_ifs
  · exact ⟨rfl, h⟩
  · exact quiet_nil

theorem idle_sweepSocket (p : Platform) (now : ℤ) (g : Gateway) (s : ℕ) :
    Idle g (sweepSocket p now g s) := by
  unfold sweepSocket
  split
  · exact idle_none g
  · split
    · exact idle_closeSocket g s 4003 "revoked"
    · split_ifs
      · exact idle_closeSocket g s 4000 "heartbeat_timeout"
      · exact ⟨Untouched.refl g, ⟨rfl, rfl⟩⟩
      · exact idle_none g

theorem idle_sweep (p : Platform) (now : ℤ) (g : Gateway) : Idle g (sweep p now g) := by
  unfold sweep
  generalize (List.range g.sockets.length).filter _ = current
  suffices h : ∀ x : Emits, Idle g x →
      Idle g (current.foldl (fun x s => x.andThen fun g => sweepSocket p now g s) x) from
    h _ (idle_none g)
  intro x hx
  induction current generalizing x with
  | nil => exact hx
  | cons s current ih => exact ih _ (hx.andThen (idle_sweepSocket p now x.2 s))

/-! ## Settling -/

/-- The promises that the events settle are the ones added to the list, each new. -/
structure Settles (g : Gateway) (x : Emits) : Prop where
  settled : x.2.settled = g.settled ++ (settlements x.1).map Prod.fst
  nodup : g.settled.Nodup → x.2.settled.Nodup

theorem Idle.settles {g : Gateway} {x : Emits} (h : Idle g x) : Settles g x := by
  constructor
  · rw [h.quiet.settlements, h.untouched.settled, List.map_nil, List.append_nil]
  · rw [h.untouched.settled]
    exact id

theorem Settles.andThen {g : Gateway} {x : Emits} {f : Gateway → Emits} (hx : Settles g x)
    (hf : Settles x.2 (f x.2)) : Settles g (x.andThen f) := by
  constructor
  · rw [Emits.andThen, settlements_append, List.map_append, ← List.append_assoc, ← hx.settled]
    exact hf.settled
  · exact hf.nodup ∘ hx.nodup

theorem settles_settle (g : Gateway) (n : ℕ) (outcome : Settlement) :
    Settles g (g.settle n outcome) := by
  unfold Gateway.settle
  by_cases hn : n ∈ g.settled
  · rw [if_pos hn]
    exact (idle_none g).settles
  · rw [if_neg hn]
    refine ⟨rfl, fun h => ?_⟩
    exact List.nodup_append.mpr ⟨h, List.nodup_singleton n, by
      intro m hm m' hm' heq
      rw [List.mem_singleton] at hm'
      exact hn (hm' ▸ heq ▸ hm)⟩

/-- What settling one promise after the other does. -/
structure SettlesAs (promises : List ℕ) (outcome : Settlement) (g : Gateway) (x : Emits) :
    Prop where
  settles : Settles g x
  store : x.2.store = g.store
  live : x.2.live = g.live
  sockets : x.2.sockets = g.sockets
  dispatches : x.2.dispatches = g.dispatches
  pending : x.2.pending = g.pending
  executions : executions x.1 = []
  mem : ∀ n o, (n, o) ∈ settlements x.1 → n ∈ promises ∧ o = outcome

theorem settlesAs_settle (g : Gateway) (n : ℕ) (outcome : Settlement) :
    SettlesAs [n] outcome g (g.settle n outcome) := by
  have hsettles := settles_settle g n outcome
  unfold Gateway.settle at hsettles ⊢
  by_cases hn : n ∈ g.settled
  · rw [if_pos hn] at hsettles ⊢
    exact ⟨hsettles, rfl, rfl, rfl, rfl, rfl, rfl, by simp⟩
  · rw [if_neg hn] at hsettles ⊢
    exact ⟨hsettles, rfl, rfl, rfl, rfl, rfl, rfl, by simp [settlements]⟩

theorem settlesAs_settleAll (g : Gateway) (promises : List ℕ) (outcome : Settlement) :
    SettlesAs promises outcome g (g.settleAll promises outcome) := by
  induction promises using List.reverseRecOn with
  | nil => exact ⟨(idle_none g).settles, rfl, rfl, rfl, rfl, rfl, rfl, by simp [Gateway.settleAll]⟩
  | append_singleton promises n ih =>
      have hlast := settlesAs_settle (g.settleAll promises outcome).2 n outcome
      have hall : g.settleAll (promises ++ [n]) outcome =
          (g.settleAll promises outcome).andThen fun g => g.settle n outcome := by
        simp [Gateway.settleAll]
      rw [hall]
      refine ⟨ih.settles.andThen hlast.settles, hlast.store.trans ih.store,
        hlast.live.trans ih.live, hlast.sockets.trans ih.sockets,
        hlast.dispatches.trans ih.dispatches, hlast.pending.trans ih.pending, ?_, ?_⟩
      · rw [Emits.andThen, executions_append, ih.executions, hlast.executions, List.append_nil]
      · intro m o hmem
        rw [Emits.andThen, settlements_append, List.mem_append] at hmem
        rcases hmem with hmem | hmem
        · exact ⟨List.mem_append_left _ (ih.mem m o hmem).1, (ih.mem m o hmem).2⟩
        · exact ⟨List.mem_append_right _ (hlast.mem m o hmem).1, (hlast.mem m o hmem).2⟩

/-! ## The seven cases -/

/-- A pending entry belongs to the call that its promise stands for. -/
def Entered (g : Gateway) : Prop :=
  ∀ q ∈ g.pending, ∃ s, g.dispatches[q.promise]? = some ⟨q.requestId, q.deviceId, s⟩

/-- Calls are taken off the table; what settles satisfies `C`, and what stays on
the table does not settle. -/
structure Clears (g : Gateway) (x : Emits) (C : ℕ → Settlement → Prop) : Prop where
  store : x.2.store = g.store
  live : ∀ k, x.2.live k = g.live k ∨ x.2.live k = none
  dispatches : x.2.dispatches = g.dispatches
  pending : ∀ q ∈ x.2.pending, q ∈ g.pending
  sockets : SocketsKept g.sockets x.2.sockets
  settles : Settles g x
  executions : executions x.1 = []
  mem : ∀ n o, (n, o) ∈ settlements x.1 → C n o
  unsettled : Entered g → ∀ q ∈ x.2.pending, ∀ o, (q.promise, o) ∉ settlements x.1

/-- One record of the store is touched, and nothing settles. -/
structure Touches (g : Gateway) (deviceId : JsString) (beat : Heartbeat) (now : ℤ) (writes : Bool)
    (x : Emits) : Prop where
  store : x.2.store = (g.store.run (touchDeviceHeartbeat deviceId beat now) writes).2
  dispatches : x.2.dispatches = g.dispatches
  pending : x.2.pending = g.pending
  settled : x.2.settled = g.settled
  quiet : Quiet x.1

/-- The new connection of a device. -/
structure Accepts (g : Gateway) (deviceId token : JsString) (now : ℤ) (x : Emits) : Prop where
  live : x.2.live = Function.update g.live deviceId (some g.sockets.length)
  sockets : SocketsKept (g.sockets ++ [⟨deviceId, token, now, now, .opened⟩]) x.2.sockets

/-- A message that asks for a result to be delivered to the call of `q`. -/
structure Answers (p : Platform) (g : Gateway) (socket : AgentSocket) (data : ByteArray)
    (msg : Json) (q : Pending) : Prop where
  message : safeJson p data = some msg
  type : strOrEmpty (msg.get (js "type")) = some (js "execute_result")
  pending : q ∈ g.pending
  requestId : q.requestId = stringOr (msg.get (js "request_id"))
  deviceId : q.deviceId = socket.deviceId

/-- A call that is sent on the connection `s`. -/
structure Sends (p : Platform) (g : Gateway) (input : DispatchInput) (s : ℕ) (socket : AgentSocket)
    (x : Emits) : Prop where
  live : g.live input.deviceId = some s
  found : g.sockets[s]? = some socket
  authenticated : (authenticateDeviceToken p.digest socket.token g.store.live).isSome = true
  store : x.2.store = g.store
  kept : x.2.live = g.live
  sockets : x.2.sockets = g.sockets
  settled : x.2.settled = g.settled
  dispatches : x.2.dispatches = g.dispatches ++ [⟨input.newRequestId, input.deviceId, s⟩]
  pending : ∀ q ∈ x.2.pending,
    q ∈ g.pending ∨ q = ⟨input.newRequestId, input.deviceId, g.dispatches.length⟩
  settlements : settlements x.1 = []
  executions : executions x.1 = [s]

/-- Why a call is rejected. -/
inductive RejectCause (g : Gateway) : GatewayInput → ℕ → Settlement → Prop where
  | disconnected {s : ℕ} {socket : AgentSocket} {q : Pending} (hsocket : g.sockets[s]? = some socket)
      (hopen : socket.readyState ≠ .closed) (hq : q ∈ g.pending)
      (hdevice : q.deviceId = socket.deviceId) :
      RejectCause g (.closeEvent s) q.promise (.rejected (js "agent_disconnected"))
  | revoked {q : Pending} (hq : q ∈ g.pending) :
      RejectCause g (.disconnectAgentDevice q.deviceId) q.promise (.rejected (js "agent_revoked"))
  | timeout {n : ℕ} {d : Dispatch} (hd : g.dispatches[n]? = some d) :
      RejectCause g (.requestTimeout n) n (.rejected (js "agent_request_timeout"))
  | failed {n : ℕ} {d : Dispatch} {error : JsString} (hd : g.dispatches[n]? = some d) :
      RejectCause g (.sendFailed n error) n (.failed error)

inductive StepCase (p : Platform) (g : Gateway) : GatewayInput → Emits → Prop where
  | idle {i : GatewayInput} {x : Emits} (h : Idle g x) : StepCase p g i x
  | accepted {input : UpgradeInput} {token : JsString} {device : StoredDevice} {x : Emits}
      (hauth : authenticateDeviceToken p.digest token g.store.live = some device)
      (htouch : Touches g device.deviceId ⟨device.agentVersion, device.capabilities⟩ input.now
        input.writes x)
      (haccepts : Accepts g device.deviceId token input.now x) : StepCase p g (.upgrade input) x
  | heartbeat {s : ℕ} {input : MessageInput} {socket : AgentSocket} {beat : Heartbeat} {x : Emits}
      (hsocket : g.sockets[s]? = some socket)
      (hauth : (authenticateDeviceToken p.digest socket.token g.store.live).isSome = true)
      (htouch : Touches g socket.deviceId beat input.now input.writes x)
      (hlive : x.2.live = g.live) (hsockets : SocketsKept g.sockets x.2.sockets) :
      StepCase p g (.message s input) x
  | result {s : ℕ} {input : MessageInput} {socket : AgentSocket} {msg : Json} {q : Pending}
      {x : Emits} (hsocket : g.sockets[s]? = some socket)
      (hauth : (authenticateDeviceToken p.digest socket.token g.store.live).isSome = true)
      (hdelivers : Answers p g socket input.data msg q)
      (hclears : Clears g x fun n o => n = q.promise ∧ o = settlementOf msg) :
      StepCase p g (.message s input) x
  | sent {input : DispatchInput} {s : ℕ} {socket : AgentSocket} {x : Emits}
      (h : Sends p g input s socket x) : StepCase p g (.dispatch input) x
  | rejected {i : GatewayInput} {x : Emits} (hclears : Clears g x (RejectCause g i))
      (hclosed : ∀ s, i = .closeEvent s →
        ∃ socket, x.2.sockets[s]? = some socket ∧ socket.readyState = .closed) :
      StepCase p g i x
  | revoked {deviceId : JsString} {now : ℤ} {writes : Bool} :
      StepCase p g (.revokeDevice deviceId now writes) (g.revoke deviceId now writes)

theorem Touches.settles {g : Gateway} {deviceId : JsString} {beat : Heartbeat} {now : ℤ}
    {writes : Bool} {x : Emits} (h : Touches g deviceId beat now writes x) : Settles g x := by
  constructor
  · rw [h.quiet.settlements, h.settled, List.map_nil, List.append_nil]
  · rw [h.settled]
    exact id

theorem StepCase.settles {p : Platform} {g : Gateway} {i : GatewayInput} {x : Emits}
    (hx : StepCase p g i x) : Settles g x := by
  cases hx with
  | idle hidle => exact hidle.settles
  | accepted hauth htouch haccepts => exact htouch.settles
  | heartbeat hsocket hauth htouch hlive hsockets => exact htouch.settles
  | result hsocket hauth hdelivers hclears => exact hclears.settles
  | sent hsends =>
      constructor
      · rw [hsends.settlements, hsends.settled, List.map_nil, List.append_nil]
      · rw [hsends.settled]
        exact id
  | rejected hclears hclosed => exact hclears.settles
  | revoked => exact ⟨(List.append_nil _).symm, id⟩

/-! ## Every input is one of them -/

theorem storeCall_touches {g : Gateway} {deviceId : JsString} {beat : Heartbeat} {now : ℤ}
    {writes : Bool} {k : Gateway → Emits} (hk : ∀ g', Idle g' (k g')) :
    Touches g deviceId beat now writes
        (g.storeCall (touchDeviceHeartbeat deviceId beat now) writes k) ∧
      (g.storeCall (touchDeviceHeartbeat deviceId beat now) writes k).2.live = g.live ∧
        SocketsKept g.sockets
          (g.storeCall (touchDeviceHeartbeat deviceId beat now) writes k).2.sockets := by
  unfold Gateway.storeCall
  cases hrun : g.store.run (touchDeviceHeartbeat deviceId beat now) writes with
  | mk result store =>
      have hstore : store = (g.store.run (touchDeviceHeartbeat deviceId beat now) writes).2 := by
        rw [hrun]
      cases result with
      | error e =>
          exact ⟨⟨hstore, rfl, rfl, rfl, ⟨rfl, rfl⟩⟩, rfl, SocketsKept.refl _⟩
      | ok updated =>
          obtain ⟨hidle, hquiet⟩ := hk { g with store := store }
          exact ⟨⟨hidle.store.trans hstore, hidle.dispatches, hidle.pending, hidle.settled,
            hquiet⟩, hidle.live, hidle.sockets⟩

theorem accept_spec (g : Gateway) (token : JsString) (device : StoredDevice) (now : ℤ)
    (writes : Bool) :
    Touches g device.deviceId ⟨device.agentVersion, device.capabilities⟩ now writes
        (accept token device now writes g) ∧
      Accepts g device.deviceId token now (accept token device now writes g) := by
  have hclosed : Idle g (closeSuperseded device.deviceId g) := by
    unfold closeSuperseded
    cases g.live device.deviceId with
    | none => exact idle_none g
    | some previous => exact idle_closeSocket g previous 4001 "superseded"
  have hlength : (closeSuperseded device.deviceId g).2.sockets.length = g.sockets.length :=
    (List.Forall₂.length_eq hclosed.untouched.sockets).symm
  unfold accept
  generalize closeSuperseded device.deviceId g = closed at hclosed hlength ⊢
  obtain ⟨htouch, hlive, hsockets⟩ :
      Touches (closed.2.join device.deviceId token now) device.deviceId _ now writes _ ∧ _ :=
    storeCall_touches fun joined =>
      (idle_send rfl : Idle joined (joined.send closed.2.sockets.length (.welcome device.deviceId)))
  constructor
  · exact ⟨by rw [← hclosed.untouched.store]; exact htouch.store,
      htouch.dispatches.trans hclosed.untouched.dispatches,
      htouch.pending.trans hclosed.untouched.pending,
      htouch.settled.trans hclosed.untouched.settled, hclosed.quiet.append htouch.quiet⟩
  · constructor
    · rw [← hlength, ← hclosed.untouched.live]
      exact hlive
    · refine SocketsKept.trans ?_ hsockets
      exact List.rel_append hclosed.untouched.sockets (SocketsKept.refl _)

theorem stepCase_upgrade (p : Platform) (g : Gateway) (input : UpgradeInput) :
    StepCase p g (.upgrade input) (upgrade p input g) := by
  unfold upgrade
  by_cases hpath : input.pathname ≠ js "/agent/connect"
  · rw [if_pos hpath]
    exact .idle (idle_none g)
  rw [if_neg hpath]
  cases input.token with
  | none => exact .idle ⟨Untouched.refl g, ⟨rfl, rfl⟩⟩
  | some token =>
      dsimp only
      cases hauth : authenticateDeviceToken p.digest token g.store.live with
      | none => exact .idle ⟨Untouched.refl g, ⟨rfl, rfl⟩⟩
      | some device =>
          dsimp only
          split_ifs
          · obtain ⟨htouch, haccepts⟩ := accept_spec g token device input.now input.writes
            exact .accepted hauth htouch haccepts
          · exact .idle (idle_none g)

theorem clears_of_settlesAs {g kept : Gateway} {x : Emits} {promises : List ℕ}
    {outcome : Settlement} {C : ℕ → Settlement → Prop} (hx : SettlesAs promises outcome kept x)
    (hstore : kept.store = g.store) (hlive : ∀ k, kept.live k = g.live k ∨ kept.live k = none)
    (hdispatches : kept.dispatches = g.dispatches) (hpending : ∀ q ∈ kept.pending, q ∈ g.pending)
    (hsockets : SocketsKept g.sockets kept.sockets) (hsettled : kept.settled = g.settled)
    (hC : ∀ n ∈ promises, C n outcome)
    (hunsettled : Entered g → ∀ q ∈ kept.pending, q.promise ∉ promises) : Clears g x C where
  store := hx.store.trans hstore
  live k := by
    rw [hx.live]
    exact hlive k
  dispatches := hx.dispatches.trans hdispatches
  pending q hq := by
    rw [hx.pending] at hq
    exact hpending q hq
  sockets := by
    rw [hx.sockets]
    exact hsockets
  settles := by
    constructor
    · rw [← hsettled]
      exact hx.settles.settled
    · rw [← hsettled]
      exact hx.settles.nodup
  executions := hx.executions
  mem n o hmem := by
    obtain ⟨hn, rfl⟩ := hx.mem n o hmem
    exact hC n hn
  unsettled hentered q hq o hmem := by
    rw [hx.pending] at hq
    exact hunsettled hentered q hq (hx.mem q.promise o hmem).1

theorem clears_reject {g kept : Gateway} {deviceId : JsString} {reason : String}
    {C : ℕ → Settlement → Prop} (hstore : kept.store = g.store)
    (hlive : ∀ k, kept.live k = g.live k ∨ kept.live k = none)
    (hdispatches : kept.dispatches = g.dispatches) (hpending : kept.pending = g.pending)
    (hsockets : SocketsKept g.sockets kept.sockets) (hsettled : kept.settled = g.settled)
    (hC : ∀ q ∈ g.pending, q.deviceId = deviceId → C q.promise (.rejected (js reason))) :
    Clears g (rejectPendingForDevice deviceId reason kept) C := by
  refine clears_of_settlesAs (settlesAs_settleAll _ _ _) hstore hlive hdispatches ?_ hsockets
    hsettled ?_ ?_
  · intro q hq
    rw [← hpending]
    exact (List.mem_filter.mp hq).1
  · intro n hn
    obtain ⟨q, hq, rfl⟩ := List.mem_map.mp hn
    obtain ⟨hq, hdevice⟩ := List.mem_filter.mp hq
    exact hC q (hpending ▸ hq) (by simpa using hdevice)
  · intro hentered q hq hdoomed
    obtain ⟨hq, hother⟩ := List.mem_filter.mp hq
    obtain ⟨q', hq', hpromise⟩ := List.mem_map.mp hdoomed
    obtain ⟨hq', hdevice⟩ := List.mem_filter.mp hq'
    obtain ⟨s, hs⟩ := hentered q (hpending ▸ hq)
    obtain ⟨s', hs'⟩ := hentered q' (hpending ▸ hq')
    -- one promise stands for one call, so the two entries name the same device
    rw [hpromise, hs] at hs'
    obtain ⟨-, hsame, -⟩ := Dispatch.mk.inj (Option.some.inj hs')
    simp only [decide_eq_true_eq] at hother hdevice
    exact hother (hsame.trans hdevice)

/-- The call of a promise is taken off the table under its own request id. -/
theorem clears_drop {g kept : Gateway} {requestId : JsString} {n : ℕ} {outcome : Settlement}
    {C : ℕ → Settlement → Prop} (hkept : Untouched (g.drop requestId n) kept) (hC : C n outcome)
    (hown : Entered g → ∃ d, g.dispatches[n]? = some d ∧ d.requestId = requestId) :
    Clears g (kept.settle n outcome) C := by
  refine clears_of_settlesAs (settlesAs_settle _ n outcome) hkept.store
    (fun k => .inl (congrFun hkept.live k)) hkept.dispatches ?_ hkept.sockets hkept.settled ?_ ?_
  · intro q hq
    rw [hkept.pending] at hq
    exact (List.mem_filter.mp hq).1
  · intro m hm
    rw [List.mem_singleton.mp hm]
    exact hC
  · intro hentered q hq hn
    rw [hkept.pending] at hq
    obtain ⟨hq, hother⟩ := List.mem_filter.mp hq
    obtain ⟨s, hs⟩ := hentered q hq
    obtain ⟨d, hd, hid⟩ := hown hentered
    rw [List.mem_singleton.mp hn, hd] at hs
    obtain rfl := Option.some.inj hs
    have hsame : q.requestId = requestId := hid
    simp [hsame] at hother

theorem Clears.after {g : Gateway} {x : Emits} {f : Gateway → Emits}
    {C : ℕ → Settlement → Prop} (h : Clears x.2 (f x.2) C) (hx : Idle g x) :
    Clears g (x.andThen f) C where
  store := h.store.trans hx.untouched.store
  live k := by
    rw [← hx.untouched.live]
    exact h.live k
  dispatches := h.dispatches.trans hx.untouched.dispatches
  pending q hq := by
    rw [← hx.untouched.pending]
    exact h.pending q hq
  sockets := hx.untouched.sockets.trans h.sockets
  settles := hx.settles.andThen h.settles
  executions := by
    rw [Emits.andThen, executions_append, hx.quiet.executions, h.executions, List.append_nil]
  mem n o hmem := by
    rw [Emits.andThen, settlements_append, hx.quiet.settlements, List.nil_append] at hmem
    exact h.mem n o hmem
  unsettled hentered q hq o hmem := by
    rw [Emits.andThen, settlements_append, hx.quiet.settlements, List.nil_append] at hmem
    refine h.unsettled ?_ q hq o hmem
    rw [Entered, hx.untouched.pending, hx.untouched.dispatches]
    exact hentered

theorem stepCase_message (p : Platform) (g : Gateway) (s : ℕ) (input : MessageInput) :
    StepCase p g (.message s input) (message p s input g) := by
  unfold message
  cases hsocket : g.sockets[s]? with
  | none => exact .idle (idle_none g)
  | some socket =>
      dsimp only
      split_ifs
      · exact .idle (idle_none g)
      · unfold receiveMessage
        cases hauth : authenticateDeviceToken p.digest socket.token g.store.live with
        | none => exact .idle (idle_closeSocket g s 4003 "revoked")
        | some device =>
            have hsome : (authenticateDeviceToken p.digest socket.token g.store.live).isSome =
                true := by rw [hauth]; rfl
            dsimp only
            cases hmsg : safeJson p input.data with
            | none => exact .idle (idle_closeSocket g s 4002 "invalid_json")
            | some msg =>
                dsimp only
                cases htype : strOrEmpty (msg.get (js "type")) with
                | none => exact .idle ⟨⟨rfl, rfl, rfl, rfl, rfl, SocketsKept.refl _⟩, ⟨rfl, rfl⟩⟩
                | some type =>
                    dsimp only
                    split_ifs with hbeat hresult
                    · have hk : ∀ g' : Gateway,
                          Idle g' ((g'.setSocket s (seen input.now)).send s .heartbeatAck) :=
                        fun g' => ⟨untouched_setSocket (socketKept_seen input.now) g' s,
                          (idle_send rfl).quiet⟩
                      obtain ⟨htouch, hlive, hsockets⟩ := storeCall_touches hk
                      exact .heartbeat hsocket hsome htouch hlive hsockets
                    · subst hresult
                      unfold receiveResult
                      cases hfind : g.pending.find? fun q =>
                          q.requestId = stringOr (msg.get (js "request_id")) with
                      | none => exact .idle (idle_none g)
                      | some q =>
                          dsimp only
                          split_ifs with hdevice
                          · exact .idle (idle_none g)
                          · refine .result hsocket hsome ⟨hmsg, htype, ?_, ?_, ?_⟩
                              (clears_drop (untouched_setSocket (socketKept_seen input.now) _ s)
                                ⟨rfl, rfl⟩ ?_)
                            · exact List.mem_of_find?_eq_some hfind
                            · simpa using List.find?_some hfind
                            · simpa using hdevice
                            · intro hentered
                              obtain ⟨t, ht⟩ := hentered q (List.mem_of_find?_eq_some hfind)
                              exact ⟨_, ht, rfl⟩
                    · exact .idle (idle_send rfl)

theorem stepCase_dispatch (p : Platform) (g : Gateway) (input : DispatchInput) :
    StepCase p g (.dispatch input) (dispatchAgentOperation p input g) := by
  unfold dispatchAgentOperation
  have hrefused : ∀ reason, Idle g ([.refused reason], g) :=
    fun _ => ⟨Untouched.refl g, ⟨rfl, rfl⟩⟩
  cases hlive : g.live input.deviceId with
  | none => exact .idle (hrefused _)
  | some s =>
      dsimp only
      cases hsocket : g.sockets[s]? with
      | none => exact .idle (hrefused _)
      | some socket =>
          dsimp only
          by_cases hopen : socket.readyState ≠ .opened
          · rw [if_pos hopen]
            exact .idle (hrefused _)
          rw [if_neg hopen]
          cases hauth : authenticateDeviceToken p.digest socket.token g.store.live with
          | none => exact .idle (hrefused _)
          | some device =>
              have hsome : (authenticateDeviceToken p.digest socket.token g.store.live).isSome =
                  true := by rw [hauth]; rfl
              have hisOpen : g.isOpen s = true := by
                rw [Gateway.isOpen, hsocket]
                simpa using hopen
              refine .sent (s := s)
                ⟨hlive, hsocket, hsome, rfl, rfl, rfl, rfl, rfl, ?_, ?_, ?_⟩
              · intro q hq
                rcases List.mem_append.mp hq with hq | hq
                · exact .inl (List.mem_filter.mp hq).1
                · exact .inr (List.mem_singleton.mp hq)
              · unfold Gateway.send
                split_ifs <;> rfl
              · have hawait : (g.await input.newRequestId input.deviceId s).isOpen s = true := hisOpen
                rw [Gateway.send, if_pos hawait]
                rfl

theorem leave_spec (g : Gateway) (deviceId : JsString) (s : ℕ) :
    (g.leave deviceId s).store = g.store ∧ (g.leave deviceId s).dispatches = g.dispatches ∧
      (g.leave deviceId s).pending = g.pending ∧ (g.leave deviceId s).settled = g.settled ∧
        (g.leave deviceId s).sockets = g.sockets ∧
          ∀ k, (g.leave deviceId s).live k = g.live k ∨ (g.leave deviceId s).live k = none := by
  unfold Gateway.leave
  split_ifs with hlast
  · refine ⟨rfl, rfl, rfl, rfl, rfl, fun k => ?_⟩
    by_cases hk : k = deviceId
    · subst hk
      exact .inr (Function.update_self ..)
    · exact .inl (Function.update_of_ne hk ..)
  · exact ⟨rfl, rfl, rfl, rfl, rfl, fun k => .inl rfl⟩

theorem stepCase_closeEvent (p : Platform) (g : Gateway) (s : ℕ) :
    StepCase p g (.closeEvent s) (closeEvent s g) := by
  unfold closeEvent
  cases hsocket : g.sockets[s]? with
  | none => exact .idle (idle_none g)
  | some socket =>
      dsimp only
      by_cases hclosed : socket.readyState = .closed
      · rw [if_pos hclosed]
        exact .idle (idle_none g)
      rw [if_neg hclosed]
      obtain ⟨hstore, hdispatches, hpending, hsettled, hsockets, hlive⟩ :=
        leave_spec (g.setSocket s setClosed) socket.deviceId s
      have hset : SocketsKept g.sockets (g.setSocket s setClosed).sockets :=
        socketsKept_modify (f := setClosed) (fun _ => ⟨rfl, rfl, fun _ => rfl⟩) g.sockets s
      have hclears : Clears g (rejectPendingForDevice socket.deviceId "agent_disconnected"
          ((g.setSocket s setClosed).leave socket.deviceId s)) (RejectCause g (.closeEvent s)) :=
        clears_reject hstore hlive hdispatches hpending (by rw [hsockets]; exact hset) hsettled
          fun q hq hdevice => .disconnected hsocket hclosed hq hdevice
      refine .rejected hclears fun s' hs' => ?_
      obtain rfl : s = s' := GatewayInput.closeEvent.inj hs'
      refine ⟨setClosed socket, ?_, rfl⟩
      rw [rejectPendingForDevice, (settlesAs_settleAll _ _ _).sockets]
      show ((g.setSocket s setClosed).leave socket.deviceId s).sockets[s]? = _
      rw [hsockets]
      simp [Gateway.setSocket, hsocket]

theorem stepCase_disconnect (p : Platform) (g : Gateway) (deviceId : JsString) :
    StepCase p g (.disconnectAgentDevice deviceId) (disconnectAgentDevice deviceId g) := by
  have hclosed : Idle g (closeLive deviceId g) := by
    unfold closeLive
    cases g.live deviceId with
    | none => exact idle_none g
    | some s => exact idle_closeSocket g s 4003 "revoked"
  unfold disconnectAgentDevice
  generalize closeLive deviceId g = closed at hclosed ⊢
  have hclears : Clears closed.2 (rejectPendingForDevice deviceId "agent_revoked"
      { closed.2 with live := Function.update closed.2.live deviceId none })
      (RejectCause g (.disconnectAgentDevice deviceId)) := by
    refine clears_reject rfl (fun k => ?_) rfl rfl (SocketsKept.refl _) rfl fun q hq hdevice => ?_
    · by_cases hk : k = deviceId
      · subst hk
        exact .inr (Function.update_self ..)
      · exact .inl (Function.update_of_ne hk ..)
    · subst hdevice
      rw [hclosed.untouched.pending] at hq
      exact .revoked hq
  refine .rejected (hclears.after hclosed) fun s hs => ?_
  cases hs

theorem stepCase_requestTimeout (p : Platform) (g : Gateway) (n : ℕ) :
    StepCase p g (.requestTimeout n) (requestTimeout n g) := by
  unfold requestTimeout
  cases hd : g.dispatches[n]? with
  | none => exact .idle (idle_none g)
  | some d =>
      dsimp only
      by_cases hcleared : n ∉ g.timers
      · rw [if_pos hcleared]
        exact .idle (idle_none g)
      · rw [if_neg hcleared]
        refine .rejected (clears_drop (Untouched.refl _) (.timeout hd) fun _ => ⟨d, hd, rfl⟩) ?_
        intro s hs
        cases hs

theorem stepCase_sendFailed (p : Platform) (g : Gateway) (n : ℕ) (error : JsString) :
    StepCase p g (.sendFailed n error) (sendFailed n error g) := by
  unfold sendFailed
  cases hd : g.dispatches[n]? with
  | none => exact .idle (idle_none g)
  | some d =>
      refine .rejected (clears_drop (Untouched.refl _) (.failed hd) fun _ => ⟨d, hd, rfl⟩) ?_
      intro s hs
      cases hs

theorem stepCase_step (p : Platform) (g : Gateway) (i : GatewayInput) :
    StepCase p g i (i.step p g) := by
  cases i with
  | upgrade input => exact stepCase_upgrade p g input
  | message s input => exact stepCase_message p g s input
  | closeEvent s => exact stepCase_closeEvent p g s
  | sweep now => exact .idle (idle_sweep p now g)
  | dispatch input => exact stepCase_dispatch p g input
  | requestTimeout n => exact stepCase_requestTimeout p g n
  | sendFailed n error => exact stepCase_sendFailed p g n error
  | revokeDevice deviceId now writes => exact .revoked
  | disconnectAgentDevice deviceId => exact stepCase_disconnect p g deviceId

end RemoteOps

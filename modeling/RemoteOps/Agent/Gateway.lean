import RemoteOps.Ecma.Buffer
import RemoteOps.State.Store
import RemoteOps.Transition.Machine

/-!
# The agent gateway

Agents connect by WebSocket; `live` maps a device to its last connection and
`pending` a request id to the call that waits for it. A connection that was
superseded stays in the process until its close event, so there may be several of
a device. Every callback is one input of the machine `gateway`: an upgrade, a
message, a close event, a call, a timer that fires, a failed send.

A call that has reached its socket is a `Dispatch`; its place in `dispatches`
stands for its promise. A promise settles once, and later attempts do nothing. An
exception in a callback has no handler and ends the process.
-/

namespace RemoteOps

open Ecma Transition

/-! ## Messages and sockets -/

structure AgentOperation where
  op : JsString
  args : List (JsString × Json) := []

inductive ServerMessage where
  | welcome (deviceId : JsString)
  | heartbeatAck
  | executeRequest (requestId : JsString) (operation : AgentOperation) (timeoutMs maxBytes : ℤ)
  | unsupported

inductive ReadyState where
  | opened
  | closing
  | closed
  deriving DecidableEq

/-- A connection, with what its callbacks remember. -/
structure AgentSocket where
  deviceId : JsString
  token : JsString
  connectedAt : ℤ
  lastSeenAt : ℤ
  readyState : ReadyState := .opened

structure ExecResult where
  code : Option JsNumber
  stdout : JsString
  stderr : JsString
  durationMs : JsNumber
  truncated : Bool
  timedOut : Bool
  deriving DecidableEq

inductive Settlement where
  | resolved (result : ExecResult)
  /-- `reject(new Error(reason))` -/
  | rejected (reason : JsString)
  /-- `reject(err)` with the error of the socket -/
  | failed (error : JsString)
  deriving DecidableEq

/-- A call of `dispatchAgentOperation` that was sent. -/
structure Dispatch where
  requestId : JsString
  deviceId : JsString
  socket : ℕ
  deriving DecidableEq

structure Pending where
  requestId : JsString
  deviceId : JsString
  promise : ℕ

structure Gateway where
  store : Store
  sockets : List AgentSocket := []
  live : JsString → Option ℕ := fun _ => none
  dispatches : List Dispatch := []
  pending : List Pending := []
  timers : List ℕ := []
  settled : List ℕ := []
  crashed : Bool := false

/-- What can be seen from outside. -/
inductive GatewayEvent where
  | unauthorized
  | sent (socket : ℕ) (message : ServerMessage)
  | closing (socket : ℕ) (code : ℕ) (reason : JsString)
  | ping (socket : ℕ)
  | settled (promise : ℕ) (outcome : Settlement)
  /-- `dispatchAgentOperation` throws before it sends -/
  | refused (reason : JsString)
  | revoked (result : Except JsString Bool)
  | crashed

abbrev Emits := List GatewayEvent × Gateway

/-! ## Small steps -/

def Gateway.setSocket (g : Gateway) (s : ℕ) (f : AgentSocket → AgentSocket) : Gateway :=
  { g with sockets := g.sockets.modify s f }

def Gateway.isOpen (g : Gateway) (s : ℕ) : Bool :=
  match g.sockets[s]? with
  | some socket => socket.readyState = .opened
  | none => false

/-- `ws.send(..)`; on a socket that is not open nothing is sent. -/
def Gateway.send (g : Gateway) (s : ℕ) (message : ServerMessage) : Emits :=
  (if g.isOpen s then [.sent s message] else [], g)

/-- `ws.close(code, reason)`. -/
def Gateway.closeSocket (g : Gateway) (s code : ℕ) (reason : String) : Emits :=
  if g.isOpen s then
    ([.closing s code (js reason)], g.setSocket s fun socket => { socket with readyState := .closing })
  else ([], g)

/-- `resolve(..)` or `reject(..)`. -/
def Gateway.settle (g : Gateway) (promise : ℕ) (outcome : Settlement) : Emits :=
  if promise ∈ g.settled then ([], g)
  else ([.settled promise outcome], { g with settled := g.settled ++ [promise] })

/-- One step after the other. -/
def Emits.andThen (x : Emits) (f : Gateway → Emits) : Emits := (x.1 ++ (f x.2).1, (f x.2).2)

def Gateway.settleAll (g : Gateway) (promises : List ℕ) (outcome : Settlement) : Emits :=
  promises.foldl (fun x n => x.andThen fun g => g.settle n outcome) ([], g)

/-- `clearTimeout(p.timer); pending.delete(id)`. -/
def Gateway.drop (g : Gateway) (requestId : JsString) (promise : ℕ) : Gateway :=
  { g with
    pending := g.pending.filter fun p => p.requestId ≠ requestId
    timers := g.timers.filter fun n => n ≠ promise }

def rejectPendingForDevice (deviceId : JsString) (reason : String) (g : Gateway) : Emits :=
  let doomed := g.pending.filter fun p => p.deviceId = deviceId
  let kept : Gateway :=
    { g with
      pending := g.pending.filter fun p => p.deviceId ≠ deviceId
      timers := g.timers.filter fun n => n ∉ doomed.map Pending.promise }
  kept.settleAll (doomed.map Pending.promise) (.rejected (js reason))

/-- Run an operation of the store inside a callback, whose exceptions nobody
catches. -/
def Gateway.storeCall {α : Type} (g : Gateway) (op : Live → Effect α) (writes : Bool)
    (k : Gateway → Emits) : Emits :=
  match g.store.run op writes with
  | (.ok _, store) => k { g with store := store }
  | (.error _, store) => ([.crashed], { g with store := store, crashed := true })

/-! ## Connections -/

structure UpgradeInput where
  pathname : JsString
  /-- the bearer token of the request -/
  token : Option JsString
  /-- whether the WebSocket handshake succeeds -/
  handshake : Bool
  now : ℤ
  writes : Bool

def closeSuperseded (deviceId : JsString) (g : Gateway) : Emits :=
  match g.live deviceId with
  | some previous => g.closeSocket previous 4001 "superseded"
  | none => ([], g)

/-- The new connection becomes the device's last. -/
def Gateway.join (g : Gateway) (deviceId token : JsString) (now : ℤ) : Gateway :=
  { g with
    sockets := g.sockets ++ [⟨deviceId, token, now, now, .opened⟩]
    live := Function.update g.live deviceId (some g.sockets.length) }

/-- The callback of `handleUpgrade`. -/
def accept (token : JsString) (device : StoredDevice) (now : ℤ) (writes : Bool) (g : Gateway) :
    Emits :=
  (closeSuperseded device.deviceId g).andThen fun g =>
    (g.join device.deviceId token now).storeCall
      (touchDeviceHeartbeat device.deviceId ⟨device.agentVersion, device.capabilities⟩ now) writes
      fun joined => joined.send g.sockets.length (.welcome device.deviceId)

def upgrade (p : Platform) (input : UpgradeInput) (g : Gateway) : Emits :=
  if input.pathname ≠ js "/agent/connect" then ([], g)
  else
    match input.token with
    | none => ([.unauthorized], g)
    | some token =>
        match authenticateDeviceToken p.digest token g.store.live with
        | none => ([.unauthorized], g)
        | some device =>
            if input.handshake then accept token device input.now input.writes g else ([], g)

/-! ## Messages -/

structure MessageInput where
  data : ByteArray
  now : ℤ
  writes : Bool

/-- `safeJson(data)`: the properties of an object. -/
def safeJson (p : Platform) (data : ByteArray) : Option Json :=
  match parse (p.fromUtf8 data) with
  | some (.obj props) => some (.obj props)
  | _ => none

def stringOr (x : Option Json) : JsString :=
  match x with
  | some (.str s) => s
  | _ => []

/-- What a heartbeat reports, cut to size. -/
def heartbeatOf (msg : Json) : Heartbeat where
  agentVersion :=
    match msg.get (js "agent_version") with
    | some (.str s) => some (s.take 40)
    | _ => none
  capabilities :=
    match msg.get (js "capabilities") with
    | some (.arr xs) =>
        some ((xs.filterMap fun | .str s => some s | _ => none).take 64)
    | _ => none

/-- A number, or the given one. -/
def numberOr (other : JsNumber) (x : Option Json) : JsNumber :=
  match x with
  | some (.num n) => n
  | _ => other

/-- The result in a message; `none` when it is no object. -/
def resultOf (msg : Json) : Option ExecResult :=
  match msg.get (js "result") with
  | some (.obj props) =>
      let raw : Json := .obj props
      some
        { code :=
            match raw.get (js "code") with
            | some .null => none
            | code => some (numberOr (JsNumber.ofInt 1 inRange_one) code)
          stdout := stringOr (raw.get (js "stdout"))
          stderr := stringOr (raw.get (js "stderr"))
          durationMs := numberOr (JsNumber.ofInt 0 inRange_zero) (raw.get (js "durationMs"))
          truncated := raw.get (js "truncated") matches some (.bool true)
          timedOut := raw.get (js "timedOut") matches some (.bool true) }
  | _ => none

def settlementOf (msg : Json) : Settlement :=
  match resultOf msg with
  | some result => .resolved result
  | none => .rejected (js "invalid_agent_result")

def seen (now : ℤ) (socket : AgentSocket) : AgentSocket := { socket with lastSeenAt := now }

/-- `msg.type === "execute_result"`. -/
def receiveResult (s : ℕ) (deviceId : JsString) (msg : Json) (now : ℤ) (g : Gateway) : Emits :=
  match g.pending.find? fun p => p.requestId = stringOr (msg.get (js "request_id")) with
  | none => ([], g)
  | some p =>
      if p.deviceId ≠ deviceId then ([], g)
      else ((g.drop p.requestId p.promise).setSocket s (seen now)).settle p.promise (settlementOf msg)

def receiveMessage (p : Platform) (s : ℕ) (socket : AgentSocket) (input : MessageInput)
    (g : Gateway) : Emits :=
  match authenticateDeviceToken p.digest socket.token g.store.live with
  | none => g.closeSocket s 4003 "revoked"
  | some _ =>
      match safeJson p input.data with
      | none => g.closeSocket s 4002 "invalid_json"
      | some msg =>
          match strOrEmpty (msg.get (js "type")) with
          | none => ([.crashed], { g with crashed := true })
          | some type =>
              if type = js "hello" ∨ type = js "heartbeat" then
                g.storeCall (touchDeviceHeartbeat socket.deviceId (heartbeatOf msg) input.now)
                  input.writes fun g => (g.setSocket s (seen input.now)).send s .heartbeatAck
              else if type = js "execute_result" then
                receiveResult s socket.deviceId msg input.now g
              else g.send s .unsupported

/-- A message is delivered until the close event, also while the socket closes. -/
def message (p : Platform) (s : ℕ) (input : MessageInput) (g : Gateway) : Emits :=
  match g.sockets[s]? with
  | none => ([], g)
  | some socket =>
      if socket.readyState = .closed then ([], g) else receiveMessage p s socket input g

/-! ## Ends of connections -/

def setClosed (socket : AgentSocket) : AgentSocket := { socket with readyState := .closed }

/-- `if (live.get(deviceId)?.ws === ws) live.delete(deviceId)`. -/
def Gateway.leave (g : Gateway) (deviceId : JsString) (s : ℕ) : Gateway :=
  if g.live deviceId = some s then { g with live := Function.update g.live deviceId none } else g

/-- The close event, which comes once. -/
def closeEvent (s : ℕ) (g : Gateway) : Emits :=
  match g.sockets[s]? with
  | none => ([], g)
  | some socket =>
      if socket.readyState = .closed then ([], g)
      else
        rejectPendingForDevice socket.deviceId "agent_disconnected"
          ((g.setSocket s setClosed).leave socket.deviceId s)

/-- One round of the sweep over a live connection. -/
def sweepSocket (p : Platform) (now : ℤ) (g : Gateway) (s : ℕ) : Emits :=
  match g.sockets[s]? with
  | none => ([], g)
  | some socket =>
      match authenticateDeviceToken p.digest socket.token g.store.live with
      | none => g.closeSocket s 4003 "revoked"
      | some _ =>
          if 90000 < now - socket.lastSeenAt then g.closeSocket s 4000 "heartbeat_timeout"
          else (if g.isOpen s then [.ping s] else [], g)

/-- The sweep visits every connection that is its device's last. -/
def sweep (p : Platform) (now : ℤ) (g : Gateway) : Emits :=
  let current := (List.range g.sockets.length).filter fun s =>
    match g.sockets[s]? with
    | some socket => g.live socket.deviceId = some s
    | none => false
  current.foldl (fun x s => x.andThen fun g => sweepSocket p now g s) ([], g)

def closeLive (deviceId : JsString) (g : Gateway) : Emits :=
  match g.live deviceId with
  | some s => g.closeSocket s 4003 "revoked"
  | none => ([], g)

def disconnectAgentDevice (deviceId : JsString) (g : Gateway) : Emits :=
  (closeLive deviceId g).andThen fun g =>
    rejectPendingForDevice deviceId "agent_revoked"
      { g with live := Function.update g.live deviceId none }

/-! ## Calls -/

structure DispatchInput where
  deviceId : JsString
  operation : AgentOperation
  timeoutMs : Option ℤ
  maxBytes : Option ℤ
  /-- `crypto.randomUUID()` -/
  newRequestId : JsString

/-- A new promise with its timer, under its request id. -/
def Gateway.await (g : Gateway) (requestId deviceId : JsString) (s : ℕ) : Gateway :=
  { g with
    dispatches := g.dispatches ++ [⟨requestId, deviceId, s⟩]
    timers := g.timers ++ [g.dispatches.length]
    pending := (g.pending.filter fun p => p.requestId ≠ requestId) ++
      [⟨requestId, deviceId, g.dispatches.length⟩] }

def dispatchAgentOperation (p : Platform) (input : DispatchInput) (g : Gateway) : Emits :=
  match g.live input.deviceId with
  | none => ([.refused (js "agent_offline")], g)
  | some s =>
      match g.sockets[s]? with
      | none => ([.refused (js "agent_offline")], g)
      | some socket =>
          if socket.readyState ≠ .opened then ([.refused (js "agent_offline")], g)
          else
            match authenticateDeviceToken p.digest socket.token g.store.live with
            | none => ([.refused (js "agent_revoked")], g)
            | some _ =>
                let timeoutMs := min (max (input.timeoutMs.getD 15000) 2000) 120000
                let maxBytes := min (max (input.maxBytes.getD 262144) 4096) 4194304
                (g.await input.newRequestId input.deviceId s).send s
                  (.executeRequest input.newRequestId input.operation timeoutMs maxBytes)

/-- The timer of a call fires, unless it was cleared. -/
def requestTimeout (promise : ℕ) (g : Gateway) : Emits :=
  match g.dispatches[promise]? with
  | none => ([], g)
  | some d =>
      if promise ∉ g.timers then ([], g)
      else (g.drop d.requestId promise).settle promise (.rejected (js "agent_request_timeout"))

/-- The callback of `ws.send` with an error. -/
def sendFailed (promise : ℕ) (error : JsString) (g : Gateway) : Emits :=
  match g.dispatches[promise]? with
  | none => ([], g)
  | some d => (g.drop d.requestId promise).settle promise (.failed error)

/-! ## The machine -/

inductive GatewayInput where
  | upgrade (input : UpgradeInput)
  | message (socket : ℕ) (input : MessageInput)
  | closeEvent (socket : ℕ)
  | sweep (now : ℤ)
  | dispatch (input : DispatchInput)
  | requestTimeout (promise : ℕ)
  | sendFailed (promise : ℕ) (error : JsString)
  | revokeDevice (deviceId : JsString) (now : ℤ) (writes : Bool)
  | disconnectAgentDevice (deviceId : JsString)

/-- An exception of `revokeDevice` is answered by the HTTP server. -/
def Gateway.revoke (deviceId : JsString) (now : ℤ) (writes : Bool) (g : Gateway) : Emits :=
  let (result, store) := g.store.run (revokeDevice deviceId now) writes
  ([.revoked result], { g with store := store })

def GatewayInput.step (p : Platform) : GatewayInput → Gateway → Emits
  | .upgrade input => RemoteOps.upgrade p input
  | .message s input => RemoteOps.message p s input
  | .closeEvent s => RemoteOps.closeEvent s
  | .sweep now => RemoteOps.sweep p now
  | .dispatch input => dispatchAgentOperation p input
  | .requestTimeout promise => RemoteOps.requestTimeout promise
  | .sendFailed promise error => RemoteOps.sendFailed promise error
  | .revokeDevice deviceId now writes => Gateway.revoke deviceId now writes
  | .disconnectAgentDevice deviceId => RemoteOps.disconnectAgentDevice deviceId

/-- A store whose devices stand under their ids and have different credentials. -/
structure PairedStore extends Store where
  keyed : ∀ k d, live.state.devices.get? k = some d → d.deviceId = k
  distinct : ∀ k k' d d', live.state.devices.get? k = some d →
    live.state.devices.get? k' = some d' → d.credentialHash = d'.credentialHash → k = k'

/-- A process whose store has been loaded, before the first connection. -/
def gateway (p : Platform) (start : PairedStore) : Machine Gateway GatewayInput
    (List GatewayEvent) where
  start := { store := start.toStore }
  step g i := if g.crashed then ([], g) else i.step p g

end RemoteOps

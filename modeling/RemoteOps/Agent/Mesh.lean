import RemoteOps.Agent.Disconnect
import RemoteOps.Auth.OAuth
import RemoteOps.Docker.References
import RemoteOps.Ecma.PrintedText

/-!
# Both ends of the agent channel

The gateway and the agent process of one device, with the messages that are on their way between
them. Connections may break at any time, with messages in flight and operations running, and the
agent connects again; other devices may send what they like. An operation that was started goes on
without its connection, but its result is sent on that connection only.

In every run the agent executes an operation once for each call at most, and the result that a call
returns is that of the one execution of its own operation (`mesh_exact`).
-/

namespace RemoteOps

open Ecma Transition

/-! ## What is sent -/

def protocolJson : Json := .num (JsNumber.ofInt 1 inRange_one)

theorem thirty_inRange : (30 : ℤ).natAbs < 2 ^ 53 := by decide

/-- A number of milliseconds or bytes; the limits of a call are far below `2 ^ 53`. -/
def limitJson (z : ℤ) : Json :=
  if h : z.natAbs < 2 ^ 53 then .num (JsNumber.ofInt z h) else .null

/-- An operation without arguments is sent without them, which the agent reads as `{}`. -/
def AgentOperation.toJson (x : AgentOperation) : Json :=
  .obj [(js "op", .str x.op), (js "args", .obj x.args)]

def ServerMessage.toJson (serverTime : JsString) : ServerMessage → Json
  | .welcome deviceId =>
      .obj [(js "type", .str (js "welcome")), (js "protocol", protocolJson),
        (js "device_id", .str deviceId), (js "server_time", .str serverTime),
        (js "heartbeat_interval_seconds", .num (JsNumber.ofInt 30 thirty_inRange))]
  | .heartbeatAck =>
      .obj [(js "type", .str (js "heartbeat_ack")), (js "server_time", .str serverTime)]
  | .executeRequest requestId operation timeoutMs maxBytes =>
      .obj [(js "type", .str (js "execute_request")), (js "protocol", protocolJson),
        (js "request_id", .str requestId), (js "operation", operation.toJson),
        (js "limits", .obj
          [(js "timeout_ms", limitJson timeoutMs), (js "max_bytes", limitJson maxBytes)])]
  | .unsupported =>
      .obj [(js "type", .str (js "error")), (js "code", .str (js "unsupported_message_type"))]

/-- `JSON.stringify(x)` as it goes over the wire. -/
def wire (x : Json) : ByteArray := textBytes x.stringify

/-- What `executeAgentOperation` returns: exit codes and durations are finite numbers. -/
structure AgentResult extends ExecResult where
  code_finite : ∀ c ∈ code, ∃ d, c = .finite d
  durationMs_finite : ∃ d, durationMs = .finite d

def AgentResult.toJson (r : AgentResult) : Json :=
  .obj [(js "code", r.code.elim .null .num), (js "stdout", .str r.stdout),
    (js "stderr", .str r.stderr), (js "durationMs", .num r.durationMs),
    (js "truncated", .bool r.truncated), (js "timedOut", .bool r.timedOut)]

def resultMessage (requestId : JsString) (r : AgentResult) : Json :=
  .obj [(js "type", .str (js "execute_result")), (js "protocol", protocolJson),
    (js "request_id", .str requestId), (js "result", r.toJson)]

/-- The execution returns or throws; then the error is sent as a result. -/
inductive AgentOutcome where
  | returned (r : AgentResult)
  | threw (message : JsString) (elapsed : Double)

def AgentOutcome.result : AgentOutcome → AgentResult
  | .returned r => r
  | .threw message elapsed =>
      { code := some (JsNumber.ofInt 1 inRange_one)
        stdout := []
        stderr := message
        durationMs := .finite elapsed
        truncated := false
        timedOut := false
        code_finite := fun _ h => ⟨_, (Option.some.inj h).symm⟩
        durationMs_finite := ⟨elapsed, rfl⟩ }

/-- What the agent says of itself, when it connects and every 30 seconds. -/
structure AgentBeat where
  hello : Bool
  hostname : JsString
  fingerprint : JsString
  capabilities : List JsString

def agentVersion : JsString := js "2.0.0-dev"

def AgentBeat.toJson (x : AgentBeat) : Json :=
  if x.hello then
    .obj [(js "type", .str (js "hello")), (js "protocol", protocolJson),
      (js "agent_version", .str agentVersion), (js "hostname", .str x.hostname),
      (js "fingerprint", .str x.fingerprint), (js "capabilities", .arr (x.capabilities.map .str))]
  else
    .obj [(js "type", .str (js "heartbeat")), (js "protocol", protocolJson),
      (js "agent_version", .str agentVersion), (js "capabilities", .arr (x.capabilities.map .str))]

/-! ## What is received -/

structure AgentRequest where
  requestId : JsString
  operation : Json
  timeoutMs : Option Json
  maxBytes : Option Json

/-- A property of a message that is a string. -/
def stringMember (msg : Json) (key : String) : Option JsString :=
  match msg.get (js key) with
  | some (.str s) => some s
  | _ => none

/-- A message that makes the agent execute something. -/
def receivedRequest (p : Platform) (data : ByteArray) : Option AgentRequest := do
  let msg ← parse (p.fromUtf8 data)
  let requestId ← stringMember msg "request_id"
  let operation ← msg.get (js "operation")
  if stringMember msg "type" = some (js "execute_request") && truthy operation then
    some
      { requestId, operation
        timeoutMs := (msg.get (js "limits")).bind fun limits => limits.get (js "timeout_ms")
        maxBytes := (msg.get (js "limits")).bind fun limits => limits.get (js "max_bytes") }
  else none

/-- The request that a call is sent as. -/
def DispatchInput.request (input : DispatchInput) : AgentRequest where
  requestId := input.newRequestId
  operation := input.operation.toJson
  timeoutMs := some (limitJson (min (max (input.timeoutMs.getD 15000) 2000) 120000))
  maxBytes := some (limitJson (min (max (input.maxBytes.getD 262144) 4096) 4194304))

/-! ## The two processes -/

/-- The gateway, the messages in flight by their connections, the connections that the agent has
lost, and the operations that it executes. -/
structure Mesh where
  gateway : Gateway
  down : List (ℕ × ByteArray) := []
  up : List (ℕ × ByteArray) := []
  lost : List ℕ := []
  jobs : List (ℕ × AgentRequest) := []

inductive MeshEvent where
  | gateway (e : GatewayEvent)
  | started (socket : ℕ) (request : AgentRequest)
  | finished (socket : ℕ) (request : AgentRequest) (result : AgentResult)

inductive MeshInput where
  | gateway (i : GatewayInput) (serverTime : JsString)
  /-- the first message in flight on the connection reaches the agent -/
  | receive (socket : ℕ)
  | finish (job : ℕ) (outcome : AgentOutcome)
  | beat (socket : ℕ) (beat : AgentBeat)
  /-- the first message in flight on the connection reaches the gateway -/
  | deliver (socket : ℕ) (now : ℤ) (writes : Bool) (serverTime : JsString)
  | lose (socket : ℕ)

section Steps

variable (p : Platform) (start : PairedStore) (deviceId : JsString)

/-- The connection is one of the device. -/
def Gateway.ownedBy (g : Gateway) (s : ℕ) : Bool :=
  match g.sockets[s]? with
  | some socket => socket.deviceId = deviceId
  | none => false

/-- Messages of other devices come from outside, those of this one from its agent. -/
def isOfAgent (g : Gateway) : GatewayInput → Bool
  | .message s _ => g.ownedBy deviceId s
  | _ => false

def flight (serverTime : JsString) (g : Gateway) : GatewayEvent → Option (ℕ × ByteArray)
  | .sent s message =>
      if g.ownedBy deviceId s then some (s, wire (message.toJson serverTime)) else none
  | _ => none

def gatewayTurn (serverTime : JsString) (i : GatewayInput) (m : Mesh) : List MeshEvent × Mesh :=
  let x := (gateway p start).step m.gateway i
  (x.1.map .gateway,
    { m with
      gateway := x.2
      down := m.down ++ x.1.filterMap (flight deviceId serverTime x.2) })

def isOn (s : ℕ) (x : ℕ × ByteArray) : Bool := x.1 = s

/-- `ws.on("message", ..)` of the agent. -/
def agentReceives (s : ℕ) (m : Mesh) : List MeshEvent × Mesh :=
  if s ∈ m.lost then ([], m)
  else
    match m.down.find? (isOn s) with
    | none => ([], m)
    | some (_, data) =>
        let rest := { m with down := m.down.eraseP (isOn s) }
        match receivedRequest p data with
        | none => ([], rest)
        | some request => ([.started s request], { rest with jobs := m.jobs ++ [(s, request)] })

/-- The agent sends on a connection that it has not lost. -/
def agentSends (s : ℕ) (x : Json) (m : Mesh) : Mesh :=
  if s ∈ m.lost then m else { m with up := m.up ++ [(s, wire x)] }

def jobEnds (job : ℕ) (outcome : AgentOutcome) (m : Mesh) : List MeshEvent × Mesh :=
  match m.jobs[job]? with
  | none => ([], m)
  | some (s, request) =>
      ([.finished s request outcome.result],
        agentSends s (resultMessage request.requestId outcome.result)
          { m with jobs := m.jobs.eraseIdx job })

def gatewayReceives (s : ℕ) (now : ℤ) (writes : Bool) (serverTime : JsString) (m : Mesh) :
    List MeshEvent × Mesh :=
  match m.up.find? (isOn s) with
  | none => ([], m)
  | some (_, data) =>
      gatewayTurn p start deviceId serverTime (.message s ⟨data, now, writes⟩)
        { m with up := m.up.eraseP (isOn s) }

def loseConnection (s : ℕ) (m : Mesh) : Mesh :=
  { m with
    down := m.down.filter fun x => !isOn s x
    up := m.up.filter fun x => !isOn s x
    lost := m.lost ++ [s] }

def MeshInput.step (m : Mesh) : MeshInput → List MeshEvent × Mesh
  | .gateway i serverTime =>
      if isOfAgent deviceId m.gateway i then ([], m)
      else gatewayTurn p start deviceId serverTime i m
  | .receive s => agentReceives p s m
  | .finish job outcome => jobEnds job outcome m
  | .beat s x => ([], if m.gateway.ownedBy deviceId s then agentSends s x.toJson m else m)
  | .deliver s now writes serverTime => gatewayReceives p start deviceId s now writes serverTime m
  | .lose s => ([], loseConnection s m)

def mesh : Machine Mesh MeshInput (List MeshEvent) where
  start := { gateway := (gateway p start).start }
  step := MeshInput.step p start deviceId

end Steps

/-! ## Messages are read as they were sent -/

section Messages

variable {p : Platform} {serverTime : JsString}

theorem normal_protocol : protocolJson.Normal := ⟨_, rfl⟩

theorem normal_limit (z : ℤ) : (limitJson z).Normal := by
  rw [limitJson]
  split_ifs
  · exact ⟨_, rfl⟩
  · trivial

theorem normal_result (r : AgentResult) : r.toJson.Normal := by
  have hcode : (r.code.elim Json.null Json.num).Normal := by
    cases hc : r.code with
    | none => trivial
    | some c => exact r.code_finite c hc
  refine normal_object ["code", "stdout", "stderr", "durationMs", "truncated", "timedOut"] rfl
    (by decide) ?_
  simp only [List.forall_mem_cons, List.not_mem_nil, false_imp_iff, implies_true, and_true]
  exact ⟨hcode, trivial, trivial, r.durationMs_finite, trivial, trivial⟩

theorem normal_resultMessage (requestId : JsString) (r : AgentResult) :
    (resultMessage requestId r).Normal := by
  refine normal_object ["type", "protocol", "request_id", "result"] rfl (by decide) ?_
  simp only [List.forall_mem_cons, List.not_mem_nil, false_imp_iff, implies_true, and_true]
  exact ⟨trivial, normal_protocol, trivial, normal_result r⟩

theorem normal_beat (x : AgentBeat) : x.toJson.Normal := by
  have hcapabilities : (Json.arr (x.capabilities.map .str)).Normal :=
    normalElements_map (f := Json.str) (fun _ => trivial) x.capabilities
  rw [AgentBeat.toJson]
  split_ifs
  · refine normal_object ["type", "protocol", "agent_version", "hostname", "fingerprint",
      "capabilities"] rfl (by decide) ?_
    simp only [List.forall_mem_cons, List.not_mem_nil, false_imp_iff, implies_true, and_true]
    exact ⟨trivial, normal_protocol, trivial, trivial, trivial, hcapabilities⟩
  · refine normal_object ["type", "protocol", "agent_version", "capabilities"] rfl (by decide) ?_
    simp only [List.forall_mem_cons, List.not_mem_nil, false_imp_iff, implies_true, and_true]
    exact ⟨trivial, normal_protocol, trivial, hcapabilities⟩

/-- The arguments of an operation are a value of JSON. -/
def NormalOperation (x : AgentOperation) : Prop := (Json.obj x.args).Normal

theorem normal_operation {x : AgentOperation} (h : NormalOperation x) : x.toJson.Normal := by
  refine normal_object ["op", "args"] rfl (by decide) ?_
  simp only [List.forall_mem_cons, List.not_mem_nil, false_imp_iff, implies_true, and_true]
  exact ⟨trivial, h⟩

theorem normal_request {requestId : JsString} {operation : AgentOperation} {timeoutMs maxBytes : ℤ}
    (h : NormalOperation operation) :
    ((ServerMessage.executeRequest requestId operation timeoutMs maxBytes).toJson
      serverTime).Normal := by
  have hlimits : (Json.obj
      [(js "timeout_ms", limitJson timeoutMs), (js "max_bytes", limitJson maxBytes)]).Normal := by
    refine normal_object ["timeout_ms", "max_bytes"] rfl (by decide) ?_
    simp only [List.forall_mem_cons, List.not_mem_nil, false_imp_iff, implies_true, and_true]
    exact ⟨normal_limit _, normal_limit _⟩
  refine normal_object ["type", "protocol", "request_id", "operation", "limits"] rfl (by decide) ?_
  simp only [List.forall_mem_cons, List.not_mem_nil, false_imp_iff, implies_true, and_true]
  exact ⟨trivial, normal_protocol, trivial, normal_operation h, hlimits⟩

/-- A result is received as it was sent. -/
theorem resultOf_resultMessage (requestId : JsString) (r : AgentResult) :
    resultOf (resultMessage requestId r) = some r.toExecResult := by
  obtain ⟨⟨code, stdout, stderr, durationMs, truncated, timedOut⟩, hcode, hduration⟩ := r
  cases code <;> cases truncated <;> cases timedOut <;> rfl

theorem parse_wire (hp : p.Lawful) {x : Json} (h : x.Normal) :
    parse (p.fromUtf8 (wire x)) = some x := by
  rw [wire, hp.fromUtf8_textBytes, parse_stringify x h]

theorem safeJson_resultMessage (hp : p.Lawful) (requestId : JsString) (r : AgentResult) :
    safeJson p (wire (resultMessage requestId r)) = some (resultMessage requestId r) := by
  rw [safeJson, parse_wire hp (normal_resultMessage requestId r)]
  rfl

theorem receivedRequest_request (hp : p.Lawful) {requestId : JsString} {operation : AgentOperation}
    {timeoutMs maxBytes : ℤ} (h : NormalOperation operation) :
    receivedRequest p (wire
      ((ServerMessage.executeRequest requestId operation timeoutMs maxBytes).toJson serverTime)) =
      some
        ⟨requestId, operation.toJson, some (limitJson timeoutMs), some (limitJson maxBytes)⟩ := by
  rw [receivedRequest, parse_wire hp (normal_request h)]
  rfl

/-- Nothing else is read as a request. -/
theorem receivedRequest_other (hp : p.Lawful) {message : ServerMessage}
    (h : ∀ requestId operation timeoutMs maxBytes,
      message ≠ .executeRequest requestId operation timeoutMs maxBytes) :
    receivedRequest p (wire (message.toJson serverTime)) = none := by
  cases message with
  | welcome deviceId =>
      have hnormal : ((ServerMessage.welcome deviceId).toJson serverTime).Normal := by
        refine normal_object ["type", "protocol", "device_id", "server_time",
          "heartbeat_interval_seconds"] rfl (by decide) ?_
        simp only [List.forall_mem_cons, List.not_mem_nil, false_imp_iff, implies_true, and_true]
        exact ⟨trivial, normal_protocol, trivial, trivial, ⟨_, rfl⟩⟩
      rw [receivedRequest, parse_wire hp hnormal]
      rfl
  | heartbeatAck =>
      have hnormal : (ServerMessage.heartbeatAck.toJson serverTime).Normal := by
        refine normal_object ["type", "server_time"] rfl (by decide) ?_
        simp only [List.forall_mem_cons, List.not_mem_nil, false_imp_iff, implies_true, and_true]
        exact ⟨trivial, trivial⟩
      rw [receivedRequest, parse_wire hp hnormal]
      rfl
  | executeRequest requestId operation timeoutMs maxBytes =>
      exact absurd rfl (h requestId operation timeoutMs maxBytes)
  | unsupported =>
      have hnormal : (ServerMessage.unsupported.toJson serverTime).Normal := by
        refine normal_object ["type", "code"] rfl (by decide) ?_
        simp only [List.forall_mem_cons, List.not_mem_nil, false_imp_iff, implies_true, and_true]
        exact ⟨trivial, trivial⟩
      rw [receivedRequest, parse_wire hp hnormal]
      rfl

end Messages

/-! ## What a turn of the gateway sends -/

section Turns

variable {p : Platform} {start : PairedStore} {deviceId serverTime : JsString}

/-- The requests among messages in flight. -/
def requestsIn (p : Platform) (messages : List (ℕ × ByteArray)) : List AgentRequest :=
  messages.filterMap fun x => receivedRequest p x.2

def GatewayInput.NormalCall : GatewayInput → Prop
  | .dispatch input => NormalOperation input.operation
  | _ => True

theorem requestsIn_append (xs ys : List (ℕ × ByteArray)) :
    requestsIn p (xs ++ ys) = requestsIn p xs ++ requestsIn p ys := List.filterMap_append

theorem requestsIn_of_quiet (hp : p.Lawful) {events : List GatewayEvent} {g : Gateway}
    (h : executions events = []) :
    requestsIn p (events.filterMap (flight deviceId serverTime g)) = [] := by
  rw [requestsIn, List.filterMap_filterMap, List.filterMap_eq_nil_iff]
  intro e he
  cases e with
  | sent s message =>
      rw [flight]
      split_ifs
      · refine receivedRequest_other hp ?_
        rintro requestId operation timeoutMs maxBytes rfl
        have hmem : s ∈ executions events := List.mem_filterMap.mpr ⟨_, he, rfl⟩
        rw [h] at hmem
        cases hmem
      · rfl
  | _ => rfl

/-- A call that is sent goes to the live connection of its device. -/
theorem dispatch_events (input : DispatchInput) (g : Gateway) :
    executions (dispatchAgentOperation p input g).1 = [] ∨
      ∃ s, g.live input.deviceId = some s ∧
        (dispatchAgentOperation p input g).2.sockets = g.sockets ∧
        (dispatchAgentOperation p input g).1 =
          [.sent s (.executeRequest input.newRequestId input.operation
            (min (max (input.timeoutMs.getD 15000) 2000) 120000)
            (min (max (input.maxBytes.getD 262144) 4096) 4194304))] := by
  unfold dispatchAgentOperation
  split
  · exact .inl rfl
  · next s hlive =>
      split
      · exact .inl rfl
      · split_ifs
        · exact .inl rfl
        · split
          · exact .inl rfl
          · dsimp only
            rw [Gateway.send]
            split_ifs
            · exact .inr ⟨s, hlive, rfl, rfl⟩
            · exact .inl rfl

/-- Only a call sends an operation. -/
theorem executions_of_stepCase {g : Gateway} {i : GatewayInput} {x : Emits}
    (hx : StepCase p g i x) (hcall : ∀ input, i ≠ .dispatch input) : executions x.1 = [] := by
  cases hx with
  | idle hidle => exact hidle.quiet.executions
  | accepted hauth htouch haccepts => exact htouch.quiet.executions
  | heartbeat hsocket hauth htouch hlive hsockets => exact htouch.quiet.executions
  | result hsocket hauth hdelivers hclears => exact hclears.executions
  | sent hsends => exact absurd rfl (hcall _)
  | rejected hclears hclosed => exact hclears.executions
  | revoked => rfl

theorem dispatches_prefix {g : Gateway} {i : GatewayInput} {x : Emits} (hx : StepCase p g i x) :
    g.dispatches <+: x.2.dispatches := by
  have hsame : x.2.dispatches = g.dispatches → g.dispatches <+: x.2.dispatches :=
    fun h => h ▸ List.prefix_rfl
  cases hx with
  | idle hidle => exact hsame hidle.untouched.dispatches
  | accepted hauth htouch haccepts => exact hsame htouch.dispatches
  | heartbeat hsocket hauth htouch hlive hsockets => exact hsame htouch.dispatches
  | result hsocket hauth hdelivers hclears => exact hsame hclears.dispatches
  | sent hsends => exact hsends.dispatches ▸ List.prefix_append _ _
  | rejected hclears hclosed => exact hsame hclears.dispatches
  | revoked => exact List.prefix_rfl

theorem Gateway.device_of_ownedBy {g : Gateway} {s : ℕ} (h : g.ownedBy deviceId s = true) :
    ∃ socket, g.sockets[s]? = some socket ∧ socket.deviceId = deviceId := by
  rw [Gateway.ownedBy] at h
  split at h
  · next socket hsocket => exact ⟨socket, hsocket, of_decide_eq_true h⟩
  · cases h

/-- A turn sends the request of its call, if it is a call of the device. -/
theorem requestsIn_turn (hp : p.Lawful) {g : Gateway} (hg : Rooted p g) {i : GatewayInput}
    (hnormal : i.NormalCall) :
    requestsIn p (((gateway p start).step g i).1.filterMap
        (flight deviceId serverTime ((gateway p start).step g i).2)) = [] ∨
      ∃ input, i = .dispatch input ∧ input.deviceId = deviceId ∧
        requestsIn p (((gateway p start).step g i).1.filterMap
          (flight deviceId serverTime ((gateway p start).step g i).2)) = [input.request] := by
  by_cases hcall : ∃ input, i = .dispatch input
  · obtain ⟨input, rfl⟩ := hcall
    by_cases hcrashed : g.crashed = true
    · have hstep : (gateway p start).step g (.dispatch input) = ([], g) := if_pos hcrashed
      rw [hstep]
      exact .inl rfl
    · have hstep : (gateway p start).step g (.dispatch input) = dispatchAgentOperation p input g :=
        if_neg hcrashed
      rw [hstep]
      obtain hnone | ⟨s, hlive, hsockets, hsent⟩ := dispatch_events (p := p) input g
      · exact .inl (requestsIn_of_quiet hp hnone)
      · rw [hsent, List.filterMap_cons, List.filterMap_nil, flight]
        split_ifs with howned
        · obtain ⟨socket, hsocket, hdevice⟩ := Gateway.device_of_ownedBy howned
          obtain ⟨socket', hsocket', hdevice'⟩ := hg.live _ _ hlive
          rw [hsockets] at hsocket
          obtain rfl := Option.some.inj (hsocket.symm.trans hsocket')
          refine .inr ⟨input, rfl, hdevice'.symm.trans hdevice, ?_⟩
          rw [requestsIn, List.filterMap_cons, List.filterMap_nil,
            receivedRequest_request hp hnormal]
          rfl
        · exact .inl rfl
  · exact .inl (requestsIn_of_quiet hp (executions_of_stepCase (stepCase_gateway g i)
      fun input h => hcall ⟨input, h⟩))

end Turns

/-! ## Runs -/

section Runs

variable (p : Platform) (start : PairedStore) (deviceId : JsString)

def meshEvents (is : List MeshInput) : List MeshEvent :=
  ((mesh p start deviceId).trace is).flatMap Prod.snd

/-- The calls of a run. -/
def dispatched (is : List MeshInput) : List DispatchInput :=
  is.filterMap fun
    | .gateway (.dispatch input) _ => some input
    | _ => none

/-- What the agent has begun to execute. -/
def startedRequests (events : List MeshEvent) : List AgentRequest :=
  events.filterMap fun
    | .started _ request => some request
    | _ => none

def MeshInput.drawn : MeshInput → List JsString
  | .gateway (.dispatch input) _ => [input.newRequestId]
  | _ => []

def MeshInput.NormalCall : MeshInput → Prop
  | .gateway i _ => i.NormalCall
  | _ => True

/-- The request ids are new, and what is called can be written as JSON. -/
def WellCalled (is : List MeshInput) : Prop :=
  Fresh MeshInput.drawn is ∧ ∀ i ∈ is, i.NormalCall

theorem prefixClosed_wellCalled : PrefixClosed WellCalled :=
  (prefixClosed_fresh MeshInput.drawn).and (prefixClosed_forall MeshInput.NormalCall)

/-- A message of the agent. -/
inductive FromAgent (events : List MeshEvent) (data : ByteArray) : Prop where
  | result {s : ℕ} {request : AgentRequest} {result : AgentResult}
      (hfinished : .finished s request result ∈ events)
      (hdata : data = wire (resultMessage request.requestId result)) : FromAgent events data
  | beat {x : AgentBeat} (hdata : data = wire x.toJson) : FromAgent events data

/-- The result that a call has returned is that of an execution under its request id. -/
def Answered (events : List MeshEvent) (g : Gateway) : Prop :=
  ∀ n r, .gateway (.settled n (.resolved r)) ∈ events → ∀ call, g.dispatches[n]? = some call →
    call.deviceId = deviceId → ∃ s request result, .finished s request result ∈ events ∧
      request.requestId = call.requestId ∧ r = result.toExecResult

/-- What holds between the messages in flight, the operations and the calls. -/
structure MeshSound (is : List MeshInput) (events : List MeshEvent) (m : Mesh) : Prop where
  reached : ∃ gis, m.gateway = (gateway p start).after gis
  asked : ∀ request ∈ requestsIn p m.down ++ startedRequests events,
    ∃ input ∈ dispatched is, input.deviceId = deviceId ∧ request = input.request
  once : ((requestsIn p m.down ++ startedRequests events).map AgentRequest.requestId).Nodup
  jobs : ∀ x ∈ m.jobs, x.2 ∈ startedRequests events
  finished : ∀ s request result, .finished s request result ∈ events →
    request ∈ startedRequests events
  up : ∀ x ∈ m.up, FromAgent events x.2
  counted : ∀ n r, .gateway (.settled n (.resolved r)) ∈ events → n < m.gateway.dispatches.length
  answered : Answered deviceId events m.gateway

variable {p start deviceId} {is : List MeshInput} {events : List MeshEvent} {m : Mesh}

theorem dispatched_concat (i : MeshInput) :
    dispatched (is ++ [i]) = dispatched is ++ dispatched [i] :=
  List.filterMap_append

theorem startedRequests_append (events later : List MeshEvent) :
    startedRequests (events ++ later) = startedRequests events ++ startedRequests later :=
  List.filterMap_append

theorem startedRequests_gateway (events : List GatewayEvent) :
    startedRequests (events.map .gateway) = [] := by
  rw [startedRequests, List.filterMap_map, List.filterMap_eq_nil_iff]
  intro e _
  rfl

theorem FromAgent.later {data : ByteArray} (h : FromAgent events data) (later : List MeshEvent) :
    FromAgent (events ++ later) data := by
  cases h with
  | result hfinished hdata => exact .result (List.mem_append_left _ hfinished) hdata
  | beat hdata => exact .beat hdata

theorem mem_drawn {input : DispatchInput} (h : input ∈ dispatched is) :
    input.newRequestId ∈ is.flatMap MeshInput.drawn := by
  obtain ⟨i, hi, hinput⟩ := List.mem_filterMap.mp h
  refine List.mem_flatMap.mpr ⟨i, hi, ?_⟩
  cases i with
  | gateway i serverTime =>
      cases i with
      | dispatch input' =>
          obtain rfl := Option.some.inj hinput
          exact List.mem_singleton_self _
      | _ => cases hinput
  | _ => cases hinput

/-- What was there before is there after more calls and events. -/
theorem Asked.later {requests : List AgentRequest} (i : MeshInput)
    (h : ∀ request ∈ requests,
      ∃ input ∈ dispatched is, input.deviceId = deviceId ∧ request = input.request) :
    ∀ request ∈ requests,
      ∃ input ∈ dispatched (is ++ [i]), input.deviceId = deviceId ∧ request = input.request := by
  intro request hrequest
  obtain ⟨input, hinput, heq⟩ := h request hrequest
  rw [dispatched_concat]
  exact ⟨input, List.mem_append_left _ hinput, heq⟩

theorem Answered.later {g g' : Gateway} {later : List MeshEvent} (h : Answered deviceId events g)
    (hgrows : g.dispatches <+: g'.dispatches)
    (hold : ∀ n r, .gateway (.settled n (.resolved r)) ∈ events → n < g.dispatches.length)
    (hlater : ∀ n r, .gateway (.settled n (.resolved r)) ∉ later) :
    Answered deviceId (events ++ later) g' := by
  intro n r hsettled call hcall hdevice
  have hbefore := (List.mem_append.mp hsettled).resolve_right (hlater n r)
  obtain ⟨post, hpost⟩ := hgrows
  rw [← hpost, List.getElem?_append_left (hold n r hbefore)] at hcall
  obtain ⟨s, request, result, hfinished, hid, hr⟩ := h n r hbefore call hcall hdevice
  exact ⟨s, request, result, List.mem_append_left _ hfinished, hid, hr⟩

theorem after_step (gis : List GatewayInput) (i : GatewayInput) :
    ((gateway p start).step ((gateway p start).after gis) i).2 =
      (gateway p start).after (gis ++ [i]) :=
  ((gateway p start).after_concat gis i).symm

/-- A result that a turn delivers is one that the agent has sent. -/
theorem answered_turn (hp : p.Lawful) (h : MeshSound p start deviceId is events m)
    {i : GatewayInput}
    (hfrom : ∀ s input socket, i = .message s input → m.gateway.sockets[s]? = some socket →
      socket.deviceId = deviceId → FromAgent events input.data)
    {n : ℕ} {r : ExecResult}
    (hmem : (n, .resolved r) ∈ settlements ((gateway p start).step m.gateway i).1) :
    n < m.gateway.dispatches.length ∧
      ∀ call, m.gateway.dispatches[n]? = some call → call.deviceId = deviceId →
        ∃ s request result, .finished s request result ∈ events ∧
          request.requestId = call.requestId ∧ r = result.toExecResult := by
  obtain ⟨gis, hgis⟩ := h.reached
  have hresolved : ResolvedBy p m.gateway i n r := by
    rw [hgis] at hmem ⊢
    exact resolvedBy_of_mem (tabled_after gis) (rooted_after gis) (stepCase_gateway _ i) hmem
  cases hresolved with
  | intro hsocket hauth hcall hdevice hsame hmsg htype hid hresult =>
      refine ⟨(List.getElem?_eq_some_iff.mp hcall).1, fun call' hcall' hdevice' => ?_⟩
      obtain rfl := Option.some.inj (hcall.symm.trans hcall')
      have hdata := hfrom _ _ _ rfl hsocket (hsame.trans (hdevice.symm.trans hdevice'))
      cases hdata with
      | result hfinished hdata =>
          rw [hdata, safeJson_resultMessage hp] at hmsg
          obtain rfl := Option.some.inj hmsg
          rw [resultOf_resultMessage] at hresult
          exact ⟨_, _, _, hfinished, hid.symm, (Option.some.inj hresult).symm⟩
      | beat hdata =>
          rw [hdata, safeJson, parse_wire hp (normal_beat _), AgentBeat.toJson] at hmsg
          split_ifs at hmsg
          · obtain rfl := Option.some.inj hmsg
            exact absurd (Option.some.inj htype) (by decide)
          · obtain rfl := Option.some.inj hmsg
            exact absurd (Option.some.inj htype) (by decide)

theorem mem_settlements {events : List GatewayEvent} {n : ℕ} {r : ExecResult} :
    (n, .resolved r) ∈ settlements events ↔ GatewayEvent.settled n (.resolved r) ∈ events := by
  rw [settlements, List.mem_filterMap]
  constructor
  · rintro ⟨e, he, heq⟩
    cases e with
    | settled n' outcome =>
        obtain ⟨rfl, rfl⟩ := Prod.mk.inj (Option.some.inj heq)
        exact he
    | _ => cases heq
  · exact fun h => ⟨_, h, rfl⟩

/-- One turn of the gateway. -/
theorem MeshSound.turn (hp : p.Lawful) (h : MeshSound p start deviceId is events m)
    {serverTime : JsString} {j : MeshInput} {i : GatewayInput} (hwell : WellCalled (is ++ [j]))
    (hnormal : i.NormalCall)
    (hcall : ∀ input, i = .dispatch input → j.drawn = [input.newRequestId] ∧
      dispatched [j] = [input])
    (hfrom : ∀ s input socket, i = .message s input → m.gateway.sockets[s]? = some socket →
      socket.deviceId = deviceId → FromAgent events input.data) :
    MeshSound p start deviceId (is ++ [j])
      (events ++ (gatewayTurn p start deviceId serverTime i m).1)
      (gatewayTurn p start deviceId serverTime i m).2 := by
  obtain ⟨gis, hgis⟩ := h.reached
  have hgrows : m.gateway.dispatches <+: ((gateway p start).step m.gateway i).2.dispatches :=
    dispatches_prefix (stepCase_gateway m.gateway i)
  have hstarted : startedRequests (events ++ (gatewayTurn p start deviceId serverTime i m).1) =
      startedRequests events := by
    rw [startedRequests_append, gatewayTurn]
    dsimp only
    rw [startedRequests_gateway, List.append_nil]
  have hold := Asked.later j h.asked
  have hrooted : Rooted p m.gateway := hgis ▸ rooted_after gis
  have hnew := @requestsIn_turn p start deviceId serverTime hp m.gateway hrooted i hnormal
  have hsettled : ∀ n r, .gateway (.settled n (.resolved r)) ∈
      (gatewayTurn p start deviceId serverTime i m).1 →
      (n, .resolved r) ∈ settlements ((gateway p start).step m.gateway i).1 := by
    intro n r hmem
    obtain ⟨e, he, heq⟩ := List.mem_map.mp hmem
    obtain rfl := MeshEvent.gateway.inj heq
    exact mem_settlements.mpr he
  refine ⟨⟨gis ++ [i], ?_⟩, ?_, ?_, ?_, ?_, ?_, ?_, ?_⟩
  · rw [gatewayTurn, hgis]
    exact after_step gis i
  · rw [hstarted, gatewayTurn]
    dsimp only
    rw [requestsIn_append]
    obtain hnone | ⟨input, hinput, hdevice, hsent⟩ := hnew
    · rw [hnone, List.append_nil]
      exact hold
    · intro request hrequest
      rw [hsent, List.append_assoc] at hrequest
      obtain hrequest | hrequest := List.mem_append.mp hrequest
      · exact hold request (List.mem_append_left _ hrequest)
      · obtain rfl | hrequest := List.mem_cons.mp hrequest
        · refine ⟨input, ?_, hdevice, rfl⟩
          rw [dispatched_concat, (hcall input hinput).2]
          exact List.mem_append_right _ (List.mem_singleton_self _)
        · exact hold request (List.mem_append_right _ hrequest)
  · rw [hstarted, gatewayTurn]
    dsimp only
    rw [requestsIn_append]
    obtain hnone | ⟨input, hinput, hdevice, hsent⟩ := hnew
    · rw [hnone, List.append_nil]
      exact h.once
    · rw [hsent, List.append_assoc, List.singleton_append]
      rw [(List.perm_middle.map AgentRequest.requestId).nodup_iff, List.map_cons, List.nodup_cons]
      refine ⟨fun hmem => ?_, h.once⟩
      -- the request id is new
      obtain ⟨request, hrequest, hid⟩ := List.mem_map.mp hmem
      obtain ⟨input', hinput', -, rfl⟩ := h.asked request hrequest
      have hfresh : input.newRequestId ∉ is.flatMap MeshInput.drawn :=
        hwell.1.notMem ((hcall input hinput).1 ▸ List.mem_singleton_self _)
      have hsame : input'.newRequestId = input.newRequestId := hid
      exact hfresh (hsame ▸ mem_drawn hinput')
  · rw [hstarted]
    exact h.jobs
  · intro s request result hfinished
    rw [hstarted]
    refine h.finished s request result ((List.mem_append.mp hfinished).resolve_right fun hnew => ?_)
    obtain ⟨e, -, heq⟩ := List.mem_map.mp hnew
    cases heq
  · exact fun x hx => (h.up x hx).later _
  · intro n r hmem
    refine lt_of_lt_of_le ?_ hgrows.length_le
    obtain hmem | hmem := List.mem_append.mp hmem
    · exact h.counted n r hmem
    · exact (answered_turn hp h hfrom (hsettled n r hmem)).1
  · intro n r hmem call hcall' hdevice
    obtain ⟨post, hpost⟩ := hgrows
    have hcount : n < m.gateway.dispatches.length := by
      obtain hmem | hmem := List.mem_append.mp hmem
      · exact h.counted n r hmem
      · exact (answered_turn hp h hfrom (hsettled n r hmem)).1
    have hcall : m.gateway.dispatches[n]? = some call := by
      rw [gatewayTurn] at hcall'
      dsimp only at hcall'
      rwa [← hpost, List.getElem?_append_left hcount] at hcall'
    have hanswer : ∃ s request result, .finished s request result ∈ events ∧
        request.requestId = call.requestId ∧ r = result.toExecResult := by
      obtain hmem | hmem := List.mem_append.mp hmem
      · exact h.answered n r hmem call hcall hdevice
      · exact (answered_turn hp h hfrom (hsettled n r hmem)).2 call hcall hdevice
    obtain ⟨s, request, result, hfinished, hid, hr⟩ := hanswer
    exact ⟨s, request, result, List.mem_append_left _ hfinished, hid, hr⟩

/-- A turn of the agent or of the network, which leaves the gateway as it is. -/
theorem MeshSound.local (h : MeshSound p start deviceId is events m) {later : List MeshEvent}
    {m' : Mesh} (j : MeshInput) (hgateway : m'.gateway = m.gateway)
    (hrequests : (requestsIn p m'.down ++ startedRequests later).Subperm (requestsIn p m.down))
    (hjobs : ∀ x ∈ m'.jobs, x ∈ m.jobs ∨ x.2 ∈ startedRequests later)
    (hfinished : ∀ s request result, .finished s request result ∈ later →
      ∃ x ∈ m.jobs, x.2 = request)
    (hup : ∀ x ∈ m'.up, x ∈ m.up ∨ FromAgent later x.2)
    (hsettled : ∀ e, .gateway e ∉ later) :
    MeshSound p start deviceId (is ++ [j]) (events ++ later) m' := by
  have hall : (requestsIn p m'.down ++ startedRequests (events ++ later)).Subperm
      (requestsIn p m.down ++ startedRequests events) := by
    rw [startedRequests_append]
    have hswap : (requestsIn p m'.down ++ (startedRequests events ++ startedRequests later)).Perm
        (requestsIn p m'.down ++ startedRequests later ++ startedRequests events) := by
      rw [List.append_assoc]
      exact List.perm_append_comm.append_left _
    exact hswap.subperm.trans ((List.subperm_append_right _).mpr hrequests)
  refine ⟨hgateway ▸ h.reached, ?_, ?_, ?_, ?_, ?_, ?_, ?_⟩
  · exact fun request hrequest => Asked.later j h.asked request (hall.subset hrequest)
  · obtain ⟨requests, hperm, hsub⟩ := hall
    exact (hperm.map AgentRequest.requestId).nodup_iff.mp
      ((hsub.map AgentRequest.requestId).nodup h.once)
  · intro x hx
    rw [startedRequests_append]
    obtain hx | hx := hjobs x hx
    · exact List.mem_append_left _ (h.jobs x hx)
    · exact List.mem_append_right _ hx
  · intro s request result hmem
    rw [startedRequests_append]
    refine List.mem_append_left _ ?_
    obtain hmem | hmem := List.mem_append.mp hmem
    · exact h.finished s request result hmem
    · obtain ⟨x, hx, rfl⟩ := hfinished s request result hmem
      exact h.jobs x hx
  · intro x hx
    obtain hx | hx := hup x hx
    · exact (h.up x hx).later later
    · cases hx with
      | result hfinished hdata => exact .result (List.mem_append_right _ hfinished) hdata
      | beat hdata => exact .beat hdata
  · intro n r hmem
    rw [hgateway]
    exact h.counted n r ((List.mem_append.mp hmem).resolve_right (hsettled _))
  · rw [hgateway]
    exact Answered.later h.answered List.prefix_rfl h.counted fun n r => hsettled _

theorem perm_cons_eraseP {α : Type*} {q : α → Bool} {l : List α} {x : α}
    (h : l.find? q = some x) : l.Perm (x :: l.eraseP q) := by
  induction l with
  | nil => cases h
  | cons y l ih =>
      by_cases hy : q y = true
      · rw [List.find?_cons_of_pos hy] at h
        obtain rfl := Option.some.inj h
        rw [List.eraseP_cons_of_pos hy]
      · rw [List.find?_cons_of_neg hy] at h
        rw [List.eraseP_cons_of_neg hy]
        exact ((ih h).cons y).trans (List.Perm.swap _ _ _)

/-- A turn without events that starts and ends nothing. -/
theorem MeshSound.quiet (h : MeshSound p start deviceId is events m) {m' : Mesh} (j : MeshInput)
    (hgateway : m'.gateway = m.gateway) (hjobs : m'.jobs = m.jobs)
    (hdown : (requestsIn p m'.down).Subperm (requestsIn p m.down))
    (hup : ∀ x ∈ m'.up, x ∈ m.up ∨ ∃ y : AgentBeat, x.2 = wire y.toJson) :
    MeshSound p start deviceId (is ++ [j]) events m' := by
  have hrequests : (requestsIn p m'.down ++ startedRequests []).Subperm (requestsIn p m.down) := by
    simpa [startedRequests] using hdown
  have hsent : ∀ x ∈ m'.up, x ∈ m.up ∨ FromAgent [] x.2 := fun x hx =>
    (hup x hx).imp id fun ⟨_, hy⟩ => .beat hy
  have hlocal : MeshSound p start deviceId (is ++ [j]) (events ++ []) m' :=
    h.local j hgateway hrequests (fun x hx => .inl (hjobs ▸ hx)) (by simp) hsent (by simp)
  rwa [List.append_nil] at hlocal

theorem MeshSound.receives (h : MeshSound p start deviceId is events m) (s : ℕ) :
    MeshSound p start deviceId (is ++ [.receive s]) (events ++ (agentReceives p s m).1)
      (agentReceives p s m).2 := by
  have hstays : MeshSound p start deviceId (is ++ [.receive s]) (events ++ []) m := by
    rw [List.append_nil]
    exact h.quiet _ rfl rfl (List.Subperm.refl _) fun x hx => .inl hx
  rw [agentReceives]
  split_ifs
  · exact hstays
  · cases hfind : m.down.find? (isOn s) with
    | none => exact hstays
    | some x =>
        obtain ⟨s', data⟩ := x
        have hrequests : (((s', data) :: m.down.eraseP (isOn s)).filterMap
            fun x => receivedRequest p x.2).Perm (requestsIn p m.down) :=
          ((perm_cons_eraseP hfind).filterMap _).symm
        dsimp only
        cases hreceived : receivedRequest p data with
        | none =>
            simp only [List.filterMap_cons, hreceived] at hrequests
            dsimp only
            rw [List.append_nil]
            exact h.quiet _ rfl rfl hrequests.subperm fun x hx => .inl hx
        | some request =>
            simp only [List.filterMap_cons, hreceived] at hrequests
            refine h.local _ rfl ?_ (fun x hx => ?_) (by simp) (fun x hx => .inl hx) (by simp)
            · exact ((List.perm_append_singleton _ _).trans hrequests).subperm
            · obtain hx | hx := List.mem_append.mp hx
              · exact .inl hx
              · obtain rfl := List.mem_singleton.mp hx
                exact .inr (List.mem_singleton_self _)

/-- What the agent sends is put in flight or nothing is. -/
theorem mem_agentSends {s : ℕ} {x : Json} {y : ℕ × ByteArray} (h : y ∈ (agentSends s x m).up) :
    y ∈ m.up ∨ y.2 = wire x := by
  rw [agentSends] at h
  split_ifs at h
  · exact .inl h
  · obtain h | h := List.mem_append.mp h
    · exact .inl h
    · obtain rfl := List.mem_singleton.mp h
      exact .inr rfl

theorem agentSends_spec (s : ℕ) (x : Json) (m : Mesh) :
    (agentSends s x m).gateway = m.gateway ∧ (agentSends s x m).down = m.down ∧
      (agentSends s x m).jobs = m.jobs := by
  rw [agentSends]
  split_ifs <;> exact ⟨rfl, rfl, rfl⟩

theorem MeshSound.ends (h : MeshSound p start deviceId is events m) (job : ℕ)
    (outcome : AgentOutcome) :
    MeshSound p start deviceId (is ++ [.finish job outcome])
      (events ++ (jobEnds job outcome m).1) (jobEnds job outcome m).2 := by
  rw [jobEnds]
  cases hjob : m.jobs[job]? with
  | none =>
      dsimp only
      rw [List.append_nil]
      exact h.quiet _ rfl rfl (List.Subperm.refl _) fun x hx => .inl hx
  | some x =>
      obtain ⟨s, request⟩ := x
      obtain ⟨hgateway, hdown, hjobs⟩ := agentSends_spec s
        (resultMessage request.requestId outcome.result) { m with jobs := m.jobs.eraseIdx job }
      refine h.local _ hgateway ?_ (fun x hx => .inl ?_) ?_ (fun x hx => ?_) ?_
      · rw [hdown]
        exact (List.append_nil _).symm ▸ List.Subperm.refl _
      · rw [hjobs] at hx
        exact List.mem_of_mem_eraseIdx hx
      · intro s' request' result hmem
        cases List.mem_singleton.mp hmem
        exact ⟨_, List.mem_of_getElem? hjob, rfl⟩
      · obtain hx | hx := mem_agentSends hx
        · exact .inl hx
        · exact .inr (.result (List.mem_singleton_self _) hx)
      · intro e hmem
        cases List.mem_singleton.mp hmem

theorem MeshSound.beats (h : MeshSound p start deviceId is events m) (s : ℕ) (x : AgentBeat)
    (j : MeshInput) : MeshSound p start deviceId (is ++ [j]) events (agentSends s x.toJson m) := by
  obtain ⟨hgateway, hdown, hjobs⟩ := agentSends_spec s x.toJson m
  refine h.quiet j hgateway hjobs (hdown ▸ List.Subperm.refl _) fun y hy => ?_
  exact (mem_agentSends hy).imp id fun hdata => ⟨x, hdata⟩

theorem MeshSound.loses (h : MeshSound p start deviceId is events m) (s : ℕ) :
    MeshSound p start deviceId (is ++ [.lose s]) events (loseConnection s m) :=
  h.quiet _ rfl rfl (List.filter_sublist.filterMap _).subperm
    fun _ hx => .inl (List.mem_filter.mp hx).1

/-- The message that the gateway reads is taken out of flight. -/
theorem MeshSound.taken (h : MeshSound p start deviceId is events m) (s : ℕ) :
    MeshSound p start deviceId is events { m with up := m.up.eraseP (isOn s) } where
  reached := h.reached
  asked := h.asked
  once := h.once
  jobs := h.jobs
  finished := h.finished
  up x hx := h.up x (List.eraseP_sublist.mem hx)
  counted := h.counted
  answered := h.answered

theorem MeshSound.step (hp : p.Lawful) {i : MeshInput} (hwell : WellCalled (is ++ [i]))
    (h : MeshSound p start deviceId is events m) :
    MeshSound p start deviceId (is ++ [i]) (events ++ ((mesh p start deviceId).step m i).1)
      ((mesh p start deviceId).step m i).2 := by
  have hstays : ∀ j, MeshSound p start deviceId (is ++ [j]) (events ++ []) m := by
    intro j
    rw [List.append_nil]
    exact h.quiet j rfl rfl (List.Subperm.refl _) fun x hx => .inl hx
  cases i with
  | gateway i serverTime =>
      have hstep : (mesh p start deviceId).step m (.gateway i serverTime) =
        if isOfAgent deviceId m.gateway i then ([], m)
        else gatewayTurn p start deviceId serverTime i m := rfl
      rw [hstep]
      split_ifs with hmessage
      · exact hstays _
      · refine h.turn hp hwell (hwell.2 (.gateway i serverTime) (by simp)) ?_ ?_
        · rintro input rfl
          exact ⟨rfl, rfl⟩
        · rintro s input socket rfl hsocket hdevice
          apply absurd _ hmessage
          rw [isOfAgent, Gateway.ownedBy, hsocket]
          exact decide_eq_true hdevice
  | receive s => exact h.receives s
  | finish job outcome => exact h.ends job outcome
  | beat s x =>
      have hstep : (mesh p start deviceId).step m (.beat s x) =
        ([], if m.gateway.ownedBy deviceId s then agentSends s x.toJson m else m) := rfl
      rw [hstep, List.append_nil]
      dsimp only
      split_ifs
      · exact h.beats s x _
      · exact List.append_nil events ▸ hstays _
  | deliver s now writes serverTime =>
      have hstep : (mesh p start deviceId).step m (.deliver s now writes serverTime) =
        gatewayReceives p start deviceId s now writes serverTime m := rfl
      rw [hstep, gatewayReceives]
      cases hfind : m.up.find? (isOn s) with
      | none => exact hstays _
      | some x =>
          obtain ⟨s', data⟩ := x
          refine (h.taken s).turn hp hwell trivial (fun input hinput => by cases hinput) ?_
          rintro _ input socket hinput - -
          obtain ⟨-, rfl⟩ := GatewayInput.message.inj hinput
          exact h.up _ (List.mem_of_find?_eq_some hfind)
  | lose s =>
      have hstep : (mesh p start deviceId).step m (.lose s) = ([], loseConnection s m) := rfl
      rw [hstep, List.append_nil]
      exact h.loses s

theorem meshSound_start : MeshSound p start deviceId [] [] (mesh p start deviceId).start where
  reached := ⟨[], rfl⟩
  asked := by simp [mesh, requestsIn, startedRequests]
  once := List.nodup_nil
  jobs := by simp [mesh]
  finished := by simp
  up := by simp [mesh]
  counted := by simp
  answered := by
    intro n r hmem
    cases hmem

theorem meshEvents_concat (is : List MeshInput) (i : MeshInput) :
    meshEvents p start deviceId (is ++ [i]) = meshEvents p start deviceId is ++
      ((mesh p start deviceId).step ((mesh p start deviceId).after is) i).1 := by
  rw [meshEvents, Machine.trace_concat, List.flatMap_append, List.flatMap_singleton]
  rfl

theorem meshSound_after (hp : p.Lawful) (hwell : WellCalled is) :
    MeshSound p start deviceId is (meshEvents p start deviceId is)
      ((mesh p start deviceId).after is) := by
  refine (mesh p start deviceId).invariant (I := fun is m =>
    MeshSound p start deviceId is (meshEvents p start deviceId is) m)
    prefixClosed_wellCalled meshSound_start (fun is i hwell h => ?_) is hwell
  rw [meshEvents_concat]
  exact h.step hp hwell

/-- What the channel gives end to end. -/
structure MeshExact (p : Platform) (start : PairedStore) (deviceId : JsString)
    (is : List MeshInput) : Prop where
  once : ((startedRequests (meshEvents p start deviceId is)).map AgentRequest.requestId).Nodup
  asked : ∀ request ∈ startedRequests (meshEvents p start deviceId is),
    ∃ input ∈ dispatched is, input.deviceId = deviceId ∧ request = input.request
  answered : ∀ n r, .gateway (.settled n (.resolved r)) ∈ meshEvents p start deviceId is →
    ∀ call, ((mesh p start deviceId).after is).gateway.dispatches[n]? = some call →
      call.deviceId = deviceId →
        ∃ input ∈ dispatched is, input.deviceId = deviceId ∧
          input.newRequestId = call.requestId ∧
          ∃ s result, .finished s input.request result ∈ meshEvents p start deviceId is ∧
            r = result.toExecResult

/-- An operation is executed once for each call at most, on the device that was called, as it was
called; and what a call returns is what this execution has returned. -/
theorem mesh_exact (p : Platform) (start : PairedStore) (deviceId : JsString) (is : List MeshInput)
    (hp : p.Lawful) (hwell : WellCalled is) : MeshExact p start deviceId is := by
  have h : MeshSound p start deviceId is (meshEvents p start deviceId is)
      ((mesh p start deviceId).after is) := meshSound_after hp hwell
  refine ⟨?_, fun request hrequest => ?_, ?_⟩
  · have honce := h.once
    rw [List.map_append] at honce
    exact (List.nodup_append.mp honce).2.1
  · exact h.asked request (List.mem_append_right _ hrequest)
  · intro n r hmem call hcall hdevice
    obtain ⟨s, request, result, hfinished, hid, hr⟩ := h.answered n r hmem call hcall hdevice
    have hstarted := h.finished s request result hfinished
    obtain ⟨input, hinput, hsame, rfl⟩ := h.asked request (List.mem_append_right _ hstarted)
    exact ⟨input, hinput, hsame, hid, s, result, hfinished, hr⟩

/-! ### A run -/

def sampleHostname : AgentResult where
  code := some (JsNumber.ofInt 0 inRange_zero)
  stdout := js "h"
  stderr := []
  durationMs := JsNumber.ofInt 1 inRange_one
  truncated := false
  timedOut := false
  code_finite := fun _ h => ⟨_, (Option.some.inj h).symm⟩
  durationMs_finite := ⟨_, rfl⟩

/-- The device connects and is called; it reads its welcome and the request, and answers. -/
def answeredRun : List MeshInput :=
  [.gateway (sampleUpgrade 1) (js "t"),
    .gateway
      (.dispatch
        { deviceId := js "d"
          operation := { op := js "system.hostname" }
          timeoutMs := none
          maxBytes := none
          newRequestId := js "r" })
      (js "t"),
    .receive 0, .receive 0, .finish 0 (.returned sampleHostname), .deliver 0 2 true (js "t")]

theorem wellCalled_answeredRun : WellCalled answeredRun := by
  refine ⟨List.nodup_singleton _, ?_⟩
  have hargs : (Json.obj []).Normal := normal_object [] rfl (by decide) (by simp)
  simp only [answeredRun, List.forall_mem_cons, List.not_mem_nil, false_imp_iff, implies_true,
    and_true]
  exact ⟨trivial, hargs, trivial, trivial, trivial, trivial⟩

/-- The agent executes the one call. -/
theorem mesh_exact_answered :
    MeshExact samplePlatform samplePaired (js "d") answeredRun ∧
      (startedRequests (meshEvents samplePlatform samplePaired (js "d") answeredRun)).map
        AgentRequest.requestId = [js "r"] :=
  ⟨mesh_exact _ _ _ _ samplePlatform_lawful wellCalled_answeredRun, by decide +kernel⟩

end Runs

end RemoteOps

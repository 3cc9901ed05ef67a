import RemoteOps.Tools.Catalogue

/-!
# What a call may do

A target grants an operation by its profile and by the list for each of its arguments. Whatever is
answered to its requests, a call of any tool sends a request that changes something only to a
target that it has resolved as enabled and that grants the request, and only the tools of OpenHands
send anything to a target of OpenHands (`sends_authorized`).
-/

namespace RemoteOps

open Ecma Transition

/-! ## Grants -/

/-- The words of Docker that only read. -/
def dockerReads : List JsString := ["ps", "inspect", "logs"].map js

/-- A command that is not one of those that only read. -/
def isMutatingCommand : List JsString → Bool
  | program :: verb :: _ =>
      (program = js "docker" && verb ∉ dockerReads) ||
        (program = js "systemctl" && verb ≠ js "show")
  | _ => false

/-- The families of operations of which some change something. -/
def mutatingFamilies : List String := ["workspace.", "docker.", "service.", "process.", "paperclip."]

/-- The operations of these families that only read. -/
def readOnlyOperations : List JsString :=
  ["process.read", "process.list", "paperclip.task_drain_status", "paperclip.tool_policies_list",
    "paperclip.tool_connection_activity_safe", "paperclip.tool_policy_test"].map js

/-- The operations of other families that change something. -/
def otherMutations : List JsString :=
  ["openhands.start", "openhands.stop", "host.managed_admin"].map js

/-- An operation that is not one of those that only read. -/
def isMutatingOperation (op : JsString) : Bool :=
  (mutatingFamilies.any (fun family => startsWith op (js family)) && op ∉ readOnlyOperations) ||
    op ∈ otherMutations

def TargetRequest.isMutating : TargetRequest → Bool
  | .exec argv => isMutatingCommand argv
  | .operation o => isMutatingOperation o.op

def TargetRequest.isOpenHands : TargetRequest → Bool
  | .exec _ => false
  | .operation o => startsWith o.op (js "openhands.")

/-- The arguments of a workspace operation that are paths. -/
def WorkspaceOp.pathKeys : WorkspaceOp → List JsString
  | .mkdir | .write | .edit => [js "path"]
  | .move => [js "source", js "destination"]

/-- The configuration of a target grants a request. -/
inductive Grants (t : TargetConfig) : TargetRequest → Prop
  | dockerExec {container program : JsString} {argv : List JsString}
      (hoperator : t.capabilityProfile = .operator)
      (hcontainer : Allows t.allowedDockerExecContainers container)
      (hprogram : Allows t.allowedDockerExecPrograms program) :
      Grants t (.exec (js "docker" :: js "exec" :: container :: program :: argv))
  | dockerAction {action container : JsString}
      (hoperator : t.capabilityProfile = .operator)
      (haction : action ∈ t.allowedDockerActions.map DockerAction.text)
      (hcontainer : Allows t.allowedDockerContainers container) :
      Grants t (.exec [js "docker", action, container])
  | serviceAction {action service : JsString}
      (hoperator : t.capabilityProfile = .operator)
      (haction : action ∈ t.allowedServiceActions.map ServiceAction.text)
      (hservice : Allows t.allowedServices service) :
      Grants t (.exec [js "systemctl", action, unitOf service])
  | imageLoad {path : JsString}
      (hoperator : t.capabilityProfile = .operator)
      (haction : .loadImage ∈ t.allowedDockerActions)
      (hpath : isInsideSome t.allowedDockerImageLoadRoots path = true) :
      Grants t (.operation ⟨js "docker.image_load", [(js "path", .str path)]⟩)
  | candidateRun {name image network : JsString} {hostPort containerPort : JsNumber}
      (hoperator : t.capabilityProfile = .operator)
      (haction : .candidateRun ∈ t.allowedDockerActions)
      (hname : HasPrefix t.allowedDockerCandidateNamePrefixes name)
      (himage : HasPrefix t.allowedDockerCandidateImagePrefixes image)
      (hnetwork : Allows t.allowedDockerCandidateNetworks network)
      (hhostPort : PortListed t.allowedDockerCandidateHostPorts hostPort)
      (hcontainerPort : PortListed t.allowedDockerCandidateContainerPorts containerPort) :
      Grants t (.operation ⟨js "docker.candidate_run",
        [(js "name", .str name), (js "image", .str image), (js "network", .str network),
          (js "hostPort", .num hostPort), (js "containerPort", .num containerPort)]⟩)
  | candidateRemove {name : JsString}
      (hoperator : t.capabilityProfile = .operator)
      (haction : .candidateRemove ∈ t.allowedDockerActions)
      (hname : HasPrefix t.allowedDockerCandidateNamePrefixes name) :
      Grants t (.operation ⟨js "docker.candidate_remove", [(js "name", .str name)]⟩)
  | workspace {op : WorkspaceOp} {props : List (JsString × Json)}
      (hoperator : t.capabilityProfile = .operator)
      (hpaths : ∀ key ∈ op.pathKeys, ∃ path, lookup key props = some (.str path) ∧
        isInsideSome t.allowedWritePaths path = true) :
      Grants t (.operation ⟨op.text, props⟩)
  | processStart {cwd program : JsString} {argv : List Json}
      (hoperator : t.capabilityProfile = .operator)
      (hcwd : isInsideSome t.allowedProcessCwds cwd = true)
      (hprogram : program ∈ t.allowedProcessPrograms) :
      Grants t (.operation ⟨js "process.start",
        [(js "cwd", .str cwd), (js "program", .str program), (js "argv", .arr argv)]⟩)
  | process {op : JsString} {props : List (JsString × Json)}
      (hoperator : t.capabilityProfile = .operator)
      (hsession : op = js "process.input" ∨ op = js "process.kill") :
      Grants t (.operation ⟨op, props⟩)
  | paperclip {op : JsString} {props : List (JsString × Json)}
      (hoperator : t.capabilityProfile = .operator)
      (hcontainer : Allows t.allowedDockerExecContainers paperclipContainer)
      (hpaperclip : startsWith op (js "paperclip.") = true) :
      Grants t (.operation ⟨op, props⟩)
  | openhands {op : JsString} {props : List (JsString × Json)}
      (hsemantic : t.capabilityProfile = .semanticOperator)
      (hcapability : Allows t.allowedSemanticCapabilities (js "openhands.execute"))
      (hopenhands : op = js "openhands.start" ∨ op = js "openhands.stop") :
      Grants t (.operation ⟨op, props⟩)
  | managedAdmin {ticket : ManagedAdminTicketV1} {signature : JsString}
      (hoperator : t.capabilityProfile = .operator)
      (hcapability : managedAdminCapability ∈ t.allowedSemanticCapabilities)
      (htarget : ticket.targetId = t.id)
      (hprogram : ticket.program ∈ t.allowedAdminPrograms)
      (hcwd : cwdLexicallyAllowed ticket.cwd t.allowedAdminCwds = true) :
      Grants t (.operation ⟨js "host.managed_admin",
        [(js "ticket", ticket.toJson), (js "signature", .str signature)]⟩)

/-- A request that the state in which the call began allows. -/
structure Authorized (w : ToolWorld) (s : Sent) : Prop where
  resolved : ResolvedTarget w.admin.registry w.admin.live s.target.id s.target
  granted : s.request.isMutating = true → Grants s.target s.request
  semantic : s.target.capabilityProfile = .semanticOperator → s.request.isOpenHands = true

/-! ## Runs on a target -/

/-- A request to `t` that `t` grants. -/
structure Respects (t : TargetConfig) (s : Sent) : Prop where
  target : s.target = t
  granted : s.request.isMutating = true → Grants s.target s.request

/-- Whatever is answered, each request satisfies `S` and each result `Q`. -/
def SendsOnly {α : Type} (S : Sent → Prop) (Q : α → Prop) (p : ToolRun α) : Prop :=
  p.Only (fun batch => ∀ s ∈ batch, S s) Q

section Runs

variable {t : TargetConfig} {α : Type} {S : Sent → Prop}

theorem sendsOnly_gate {x : Except OpsError α} {Q : α → Prop} (h : ∀ a, x = .ok a → Q a) :
    SendsOnly S Q (gate x) := Attempt.only_ofExcept fun a ha => h a (mapError_eq_ok ha)

/-- What is checked holds in what comes after it. -/
theorem sendsOnly_gate_bind {β : Type} {x : Except OpsError α} {f : α → ToolRun β} {Q : β → Prop}
    (h : ∀ a, x = .ok a → SendsOnly S Q (f a)) : SendsOnly S Q (gate x >>= f) :=
  Attempt.only_ofExcept_bind fun a ha => h a (mapError_eq_ok ha)

theorem sendsOnly_bind {β : Type} {p : ToolRun α} {f : α → ToolRun β} {Q : α → Prop} {R : β → Prop}
    (hp : SendsOnly S Q p) (hf : ∀ a, Q a → SendsOnly S R (f a)) : SendsOnly S R (p >>= f) :=
  Attempt.Only.bind hp hf

theorem sendsOnly_call {sents : List Sent} {f : SentAnswers → ToolRun α} {Q : α → Prop}
    (hS : ∀ s ∈ sents, S s) (hf : ∀ answers, SendsOnly S Q (f answers)) :
    SendsOnly S Q (Attempt.call sents >>= f) := ⟨hS, hf⟩

theorem sendsOnly_exec {argv : List JsString} (h : S ⟨t, .exec argv⟩) :
    SendsOnly S (fun _ => True) (exec t argv) :=
  sendsOnly_call (fun s hs => by rwa [List.mem_singleton.mp hs]) fun _ =>
    Attempt.only_ofExcept fun _ _ => trivial

theorem sendsOnly_agentJson {operation : AgentOperation} (h : S ⟨t, .operation operation⟩) :
    SendsOnly S (fun _ => True) (agentJson t operation) :=
  sendsOnly_gate_bind fun _ _ =>
    sendsOnly_call (fun s hs => by rwa [List.mem_singleton.mp hs]) fun _ =>
      Attempt.only_ofExcept fun _ _ => trivial

theorem sendsOnly_send {request : TargetRequest} (h : S ⟨t, request⟩) :
    SendsOnly S (fun _ => True) (send t request) := by
  cases request with
  | exec argv => exact sendsOnly_exec h
  | operation operation => exact sendsOnly_agentJson h

theorem sendsOnly_execAll {commands : List (List JsString)}
    (h : ∀ argv ∈ commands, S ⟨t, .exec argv⟩) :
    SendsOnly S (fun _ => True) (execAll t commands) := by
  refine Attempt.only_call (fun s hs => ?_) fun _ => trivial
  obtain ⟨argv, hargv, rfl⟩ := List.mem_map.mp hs
  exact h argv hargv

theorem sendsOnly_mono {Q : α → Prop} {p : ToolRun α} (hp : SendsOnly S Q p) :
    SendsOnly S (fun _ => True) p := Attempt.Only.mono hp (fun _ h => h) fun _ _ => trivial

/-- A command that only reads may be sent. -/
theorem respects_exec {argv : List JsString} (h : isMutatingCommand argv = false) :
    Respects t ⟨t, .exec argv⟩ :=
  ⟨rfl, fun hmutating => absurd (h.symm.trans hmutating) Bool.false_ne_true⟩

theorem sendsOnly_askRealPath (inputPath : JsString) :
    SendsOnly (Respects t) (fun _ => True) (askRealPath t inputPath) := by
  refine sendsOnly_gate_bind fun normalized _ => ?_
  refine sendsOnly_call (fun s hs => ?_) fun answers => sendsOnly_gate fun _ _ => trivial
  rw [List.mem_singleton.mp hs]
  exact respects_exec rfl

theorem requireInside_eq_ok {roots : List JsString} {unset outside real path : JsString}
    (h : requireInside roots unset outside real = .ok path) : isInsideSome roots path = true := by
  unfold requireInside at h
  split_ifs at h with _ hinside
  obtain rfl := Except.ok.inj h
  simpa using hinside

theorem sendsOnly_askCheckedPath (inputPath : JsString) :
    SendsOnly (Respects t) (fun _ => True) (askCheckedPath t inputPath) :=
  sendsOnly_bind (sendsOnly_askRealPath inputPath) fun _ _ => sendsOnly_gate fun _ _ => trivial

theorem sendsOnly_askCheckedProcessCwd (inputPath : JsString) :
    SendsOnly (Respects t) (fun real => isInsideSome t.allowedProcessCwds real = true)
      (askCheckedProcessCwd t inputPath) :=
  sendsOnly_bind (sendsOnly_askRealPath inputPath) fun _ _ =>
    sendsOnly_gate fun _ h => requireInside_eq_ok h

theorem sendsOnly_askRepos (real : JsString) (repos : List JsString) :
    SendsOnly (Respects t) (fun _ => True) (askRepos t real repos) := by
  induction repos with
  | nil => exact sendsOnly_gate fun _ _ => trivial
  | cons configured rest ih =>
      refine sendsOnly_bind (Attempt.Only.caught (sendsOnly_askRealPath configured))
        fun allowed _ => ?_
      split_ifs
      · exact Attempt.only_pure trivial
      · exact ih

theorem sendsOnly_askCheckedGitRepo (inputPath : JsString) :
    SendsOnly (Respects t) (fun _ => True) (askCheckedGitRepo t inputPath) := by
  refine sendsOnly_bind (sendsOnly_askRealPath inputPath) fun real _ => ?_
  split_ifs
  · exact sendsOnly_gate fun _ _ => trivial
  · exact sendsOnly_askRepos real _

end Runs

/-! ## Single requests -/

section Requests

variable {settings : ToolSettings} {t : TargetConfig} {args : List (JsString × Json)}
  {r : TargetRequest}

theorem dockerAction_mem {action : JsString}
    (h : Allows (t.allowedDockerActions.map DockerAction.text) action) :
    action ∈ t.allowedDockerActions.map DockerAction.text := by
  refine h.resolve_left fun hstar => ?_
  obtain ⟨a, -, ha⟩ := List.mem_map.mp hstar
  revert ha
  cases a <;> decide

theorem serviceAction_mem {action : JsString}
    (h : Allows (t.allowedServiceActions.map ServiceAction.text) action) :
    action ∈ t.allowedServiceActions.map ServiceAction.text := by
  refine h.resolve_left fun hstar => ?_
  obtain ⟨a, -, ha⟩ := List.mem_map.mp hstar
  revert ha
  cases a <;> decide

theorem mem_of_text_mem {action : DockerAction}
    (h : action.text ∈ t.allowedDockerActions.map DockerAction.text) :
    action ∈ t.allowedDockerActions := by
  obtain ⟨a, ha, htext⟩ := List.mem_map.mp h
  have heq : a = action := by
    revert htext
    cases a <;> cases action <;> decide
  rwa [← heq]

theorem dockerExecRequest_grants (h : dockerExecRequest t args = .ok r) : Grants t r := by
  obtain ⟨_, hoperator, h⟩ := bind_eq_ok h
  obtain ⟨_, -, h⟩ := bind_eq_ok h
  obtain ⟨container, -, h⟩ := bind_eq_ok h
  obtain ⟨_, hcontainer, h⟩ := bind_eq_ok h
  obtain ⟨program, hprogram, h⟩ := bind_eq_ok h
  obtain ⟨argv, -, h⟩ := bind_eq_ok h
  obtain rfl := Except.ok.inj h
  exact .dockerExec (requireOperator_eq_ok hoperator) (checkAllow_eq_ok hcontainer)
    (requireNamedCapability_eq_ok hprogram).2

theorem loadImageRequest_grants (hoperator : t.capabilityProfile = .operator)
    (haction : .loadImage ∈ t.allowedDockerActions) (h : loadImageRequest t args = .ok r) :
    Grants t r := by
  obtain ⟨_, -, h⟩ := bind_eq_ok h
  obtain ⟨path, hpath, h⟩ := bind_eq_ok h
  obtain ⟨_, -, h⟩ := bind_eq_ok h
  obtain rfl := Except.ok.inj h
  exact .imageLoad hoperator haction (assertConfiguredPath_eq_ok hpath)

theorem candidateRunRequest_grants (hoperator : t.capabilityProfile = .operator)
    (haction : .candidateRun ∈ t.allowedDockerActions) (h : candidateRunRequest t args = .ok r) :
    Grants t r := by
  obtain ⟨name, hname, h⟩ := bind_eq_ok h
  obtain ⟨image, himage, h⟩ := bind_eq_ok h
  obtain ⟨network, hnetwork, h⟩ := bind_eq_ok h
  obtain ⟨hostPort, hhost, h⟩ := bind_eq_ok h
  obtain ⟨containerPort, hport, h⟩ := bind_eq_ok h
  obtain rfl := Except.ok.inj h
  exact .candidateRun hoperator haction (requireCandidateName_eq_ok hname)
    (requirePrefixCapability_eq_ok himage) (requireNamedCapability_eq_ok hnetwork).2
    (requireAllowedPort_eq_ok hhost) (requireAllowedPort_eq_ok hport)

theorem candidateRemoveRequest_grants (hoperator : t.capabilityProfile = .operator)
    (haction : .candidateRemove ∈ t.allowedDockerActions)
    (h : candidateRemoveRequest t args = .ok r) : Grants t r := by
  obtain ⟨name, hname, h⟩ := bind_eq_ok h
  obtain rfl := Except.ok.inj h
  exact .candidateRemove hoperator haction (requireCandidateName_eq_ok hname)

theorem dockerActionRequest_grants (h : dockerActionRequest t args = .ok r) : Grants t r := by
  obtain ⟨_, hoperator, h⟩ := bind_eq_ok h
  obtain ⟨_, -, h⟩ := bind_eq_ok h
  obtain ⟨action, haction, h⟩ := bind_eq_ok h
  have hoperator := requireOperator_eq_ok hoperator
  have hlisted := dockerAction_mem (requireNamedCapability_eq_ok haction).2
  split_ifs at h with _ hload hrun hremove
  · obtain ⟨container, hcontainer, h⟩ := bind_eq_ok h
    obtain rfl := Except.ok.inj h
    exact .dockerAction hoperator hlisted (listedContainer_eq_ok hcontainer).listed
  · subst hload
    exact loadImageRequest_grants hoperator (mem_of_text_mem hlisted) h
  · subst hrun
    exact candidateRunRequest_grants hoperator (mem_of_text_mem hlisted) h
  · subst hremove
    exact candidateRemoveRequest_grants hoperator (mem_of_text_mem hlisted) h
  · cases h

theorem serviceActionRequest_grants (h : serviceActionRequest t args = .ok r) : Grants t r := by
  obtain ⟨_, hoperator, h⟩ := bind_eq_ok h
  obtain ⟨unit, hunit, h⟩ := bind_eq_ok h
  obtain ⟨action, haction, h⟩ := bind_eq_ok h
  obtain rfl := Except.ok.inj h
  obtain ⟨service, rfl, hservice⟩ := listedUnit_eq_ok hunit
  exact .serviceAction (requireOperator_eq_ok hoperator)
    (serviceAction_mem (requireNamedCapability_eq_ok haction).2) hservice.listed

theorem paperclipRequest_grants {op : String} {props : Except OpsError (List (JsString × Json))}
    (hop : startsWith (js op) (js "paperclip.") = true) (h : paperclipRequest t op props = .ok r) :
    Grants t r := by
  obtain ⟨_, hpaperclip, h⟩ := bind_eq_ok h
  obtain ⟨props', -, h⟩ := bind_eq_ok h
  obtain rfl := Except.ok.inj h
  obtain ⟨hoperator, -, hcontainer⟩ := requirePaperclipSemantic_eq_ok hpaperclip
  exact .paperclip hoperator hcontainer hop

theorem writePath_eq_ok {key : String} {path : JsString} (h : writePath t args key = .ok path) :
    isInsideSome t.allowedWritePaths path = true := by
  obtain ⟨_, -, h⟩ := bind_eq_ok h
  exact assertConfiguredPath_eq_ok h

theorem workspaceArguments_eq_ok {op : WorkspaceOp} {props : List (JsString × Json)}
    (h : workspaceArguments t args op = .ok props) :
    t.capabilityProfile = .operator ∧ ∀ key ∈ op.pathKeys, ∃ path,
      lookup key props = some (.str path) ∧ isInsideSome t.allowedWritePaths path = true := by
  obtain ⟨_, hoperator, h⟩ := bind_eq_ok h
  refine ⟨requireOperator_eq_ok hoperator, ?_⟩
  cases op with
  | mkdir =>
      obtain ⟨path, hpath, h⟩ := bind_eq_ok h
      obtain rfl := Except.ok.inj h
      intro key hkey
      rw [List.mem_singleton.mp hkey]
      exact ⟨path, rfl, writePath_eq_ok hpath⟩
  | write =>
      obtain ⟨path, hpath, h⟩ := bind_eq_ok h
      obtain ⟨_, -, h⟩ := bind_eq_ok h
      obtain rfl := Except.ok.inj h
      intro key hkey
      rw [List.mem_singleton.mp hkey]
      exact ⟨path, rfl, writePath_eq_ok hpath⟩
  | edit =>
      obtain ⟨path, hpath, h⟩ := bind_eq_ok h
      obtain ⟨_, -, h⟩ := bind_eq_ok h
      obtain ⟨_, -, h⟩ := bind_eq_ok h
      obtain ⟨_, -, h⟩ := bind_eq_ok h
      obtain rfl := Except.ok.inj h
      intro key hkey
      rw [List.mem_singleton.mp hkey]
      exact ⟨path, rfl, writePath_eq_ok hpath⟩
  | move =>
      obtain ⟨source, hsource, h⟩ := bind_eq_ok h
      obtain ⟨destination, hdestination, h⟩ := bind_eq_ok h
      obtain rfl := Except.ok.inj h
      intro key hkey
      rcases List.mem_cons.mp hkey with rfl | hkey
      · exact ⟨source, rfl, writePath_eq_ok hsource⟩
      · rw [List.mem_singleton.mp hkey]
        exact ⟨destination, rfl, writePath_eq_ok hdestination⟩

theorem workspaceRequest_grants {op : WorkspaceOp} (h : workspaceRequest t args op = .ok r) :
    Grants t r := by
  obtain ⟨props, hprops, h⟩ := bind_eq_ok h
  obtain rfl := Except.ok.inj h
  obtain ⟨hoperator, hpaths⟩ := workspaceArguments_eq_ok hprops
  exact .workspace hoperator hpaths

theorem processRequest_grants {op : String} {props : Except OpsError (List (JsString × Json))}
    (hop : js op = js "process.input" ∨ js op = js "process.kill")
    (h : processRequest t op props = .ok r) : Grants t r := by
  obtain ⟨_, hoperator, h⟩ := bind_eq_ok h
  obtain ⟨props', -, h⟩ := bind_eq_ok h
  obtain rfl := Except.ok.inj h
  exact .process (requireOperator_eq_ok hoperator) hop

theorem openhandsExecuteRequest_grants {op : String} {props : List (JsString × Json)}
    (hop : js op = js "openhands.start" ∨ js op = js "openhands.stop")
    (h : openhandsExecuteRequest t op props = .ok r) : Grants t r := by
  obtain ⟨_, hexecutor, h⟩ := bind_eq_ok h
  obtain rfl := Except.ok.inj h
  obtain ⟨hsemantic, hcapability⟩ := requireOpenHandsExecutor_eq_ok hexecutor
  exact .openhands hsemantic hcapability hop

theorem processRequest_op {op : String} {props : Except OpsError (List (JsString × Json))}
    (h : processRequest t op props = .ok r) : ∃ props', r = .operation ⟨js op, props'⟩ := by
  obtain ⟨_, -, h⟩ := bind_eq_ok h
  obtain ⟨props', -, h⟩ := bind_eq_ok h
  exact ⟨props', (Except.ok.inj h).symm⟩

theorem openhandsReadRequest_op {op : String} {props : List (JsString × Json)}
    (h : openhandsReadRequest t op props = .ok r) : r = .operation ⟨js op, props⟩ := by
  obtain ⟨_, -, h⟩ := bind_eq_ok h
  exact (Except.ok.inj h).symm

theorem openhandsExecuteRequest_op {op : String} {props : List (JsString × Json)}
    (h : openhandsExecuteRequest t op props = .ok r) : r = .operation ⟨js op, props⟩ := by
  obtain ⟨_, -, h⟩ := bind_eq_ok h
  exact (Except.ok.inj h).symm

theorem postgresRequest_op (h : postgresPinnedVerifierReadbackRequest t args = .ok r) :
    ∃ props, r = .operation ⟨js "postgres.pinned_readback", props⟩ := by
  obtain ⟨_, -, h⟩ := bind_eq_ok h
  obtain ⟨_, -, h⟩ := bind_eq_ok h
  obtain ⟨_, -, h⟩ := bind_eq_ok h
  exact ⟨_, (Except.ok.inj h).symm⟩

theorem isMutating_operation {op : JsString} {props : List (JsString × Json)}
    (h : isMutatingOperation op = false) :
    (TargetRequest.operation ⟨op, props⟩).isMutating = false := h

theorem isOpenHands_operation {op : JsString} {props : List (JsString × Json)}
    (h : startsWith op (js "openhands.") = true) :
    (TargetRequest.operation ⟨op, props⟩).isOpenHands = true := h

/-- Each request either only reads or is granted. -/
theorem request_granted {tool : RequestTool} (h : tool.request settings t args = .ok r) :
    r.isMutating = true → Grants t r := by
  have hread : r.isMutating = false → r.isMutating = true → Grants t r := fun hfalse htrue =>
    absurd (hfalse.symm.trans htrue) Bool.false_ne_true
  cases tool with
  | diskUsage | memoryStatus =>
      obtain rfl := Except.ok.inj h
      exact hread rfl
  | dockerHealth | dockerInspectSafe | serviceStatus =>
      obtain ⟨_, -, h⟩ := bind_eq_ok h
      obtain rfl := Except.ok.inj h
      exact hread rfl
  | dockerLogs | serviceLogs =>
      obtain ⟨_, -, h⟩ := bind_eq_ok h
      obtain ⟨_, -, h⟩ := bind_eq_ok h
      obtain ⟨_, -, h⟩ := bind_eq_ok h
      obtain rfl := Except.ok.inj h
      exact hread rfl
  | dockerExec => exact fun _ => dockerExecRequest_grants h
  | dockerAction => exact fun _ => dockerActionRequest_grants h
  | serviceAction => exact fun _ => serviceActionRequest_grants h
  | postgresPinnedVerifierReadback =>
      obtain ⟨props, rfl⟩ := postgresRequest_op h
      exact hread (isMutating_operation (by decide))
  | paperclipTaskDrainStatus => exact fun _ => paperclipRequest_grants (by decide) h
  | paperclipToolPoliciesList => exact fun _ => paperclipRequest_grants (by decide) h
  | paperclipToolConnectionActivitySafe => exact fun _ => paperclipRequest_grants (by decide) h
  | paperclipToolPolicyTest => exact fun _ => paperclipRequest_grants (by decide) h
  | paperclipTaskDrainStart => exact fun _ => paperclipRequest_grants (by decide) h
  | paperclipTaskDrainStop => exact fun _ => paperclipRequest_grants (by decide) h
  | paperclipToolPolicyCreate => exact fun _ => paperclipRequest_grants (by decide) h
  | paperclipToolPolicyDelete => exact fun _ => paperclipRequest_grants (by decide) h
  | createDirectory => exact fun _ => workspaceRequest_grants h
  | writeFile => exact fun _ => workspaceRequest_grants h
  | editFile => exact fun _ => workspaceRequest_grants h
  | moveFile => exact fun _ => workspaceRequest_grants h
  | readProcessOutput | listProcesses =>
      obtain ⟨props, rfl⟩ := processRequest_op h
      exact hread (isMutating_operation (by decide))
  | sendProcessInput => exact fun _ => processRequest_grants (.inl rfl) h
  | killProcess => exact fun _ => processRequest_grants (.inr rfl) h
  | openhandsHealth | openhandsList | openhandsStatus | openhandsResult | openhandsEvents =>
      obtain rfl := openhandsReadRequest_op h
      exact hread (isMutating_operation (by decide))
  | openhandsStart => exact fun _ => openhandsExecuteRequest_grants (.inl rfl) h
  | openhandsStop => exact fun _ => openhandsExecuteRequest_grants (.inr rfl) h

/-- The tools of OpenHands send only its operations. -/
theorem request_openhands {tool : RequestTool} (htool : tool.name ∈ openhandsSemanticTools)
    (h : tool.request settings t args = .ok r) : r.isOpenHands = true := by
  cases tool with
  | openhandsHealth | openhandsList | openhandsStatus | openhandsResult | openhandsEvents =>
      obtain rfl := openhandsReadRequest_op h
      exact isOpenHands_operation (by decide)
  | openhandsStart | openhandsStop =>
      obtain rfl := openhandsExecuteRequest_op h
      exact isOpenHands_operation (by decide)
  | _ => exact absurd htool (by decide)

end Requests

/-! ## Runs of several requests -/

section Several

variable {settings : ToolSettings} {t : TargetConfig} {args : List (JsString × Json)}

/-- Commands that only read may be sent together. -/
theorem sendsOnly_reads {commands : List (List JsString)}
    (h : ∀ argv ∈ commands, isMutatingCommand argv = false) :
    SendsOnly (Respects t) (fun _ => True) (execAll t commands) :=
  sendsOnly_execAll fun argv hargv => respects_exec (h argv hargv)

theorem sendsOnly_read {argv : List JsString} (h : isMutatingCommand argv = false) :
    SendsOnly (Respects t) (fun _ => True) (exec t argv) := sendsOnly_exec (respects_exec h)

theorem sendsOnly_pure {α : Type} {S : Sent → Prop} (a : α) :
    SendsOnly S (fun _ => True) (pure a : ToolRun α) := Attempt.only_pure trivial

theorem sendsOnly_hostStatus : SendsOnly (Respects t) (fun _ => True) (hostStatus t) := by
  refine sendsOnly_bind (sendsOnly_read (by decide)) fun hostname _ => ?_
  refine sendsOnly_gate_bind fun _ _ => ?_
  refine sendsOnly_bind (sendsOnly_reads (by decide)) fun _ _ => ?_
  exact sendsOnly_pure _

theorem sendsOnly_uptime : SendsOnly (Respects t) (fun _ => True) (uptime t) := by
  refine sendsOnly_bind (sendsOnly_reads (by decide)) fun answers _ => ?_
  refine Attempt.only_ofExcept_bind fun _ _ => ?_
  refine Attempt.only_ofExcept_bind fun _ _ => ?_
  exact sendsOnly_pure _

theorem sendsOnly_dockerListRun : SendsOnly (Respects t) (fun _ => True) (dockerListRun t) := by
  unfold dockerListRun
  split_ifs
  · exact sendsOnly_pure _
  · exact sendsOnly_bind (sendsOnly_read (by decide)) fun _ _ => sendsOnly_pure _

theorem sendsOnly_runtimeSummary : SendsOnly (Respects t) (fun _ => True) (runtimeSummary t) :=
  sendsOnly_bind (sendsOnly_reads (by decide)) fun _ _ => sendsOnly_pure _

theorem sendsOnly_askRepository : SendsOnly (Respects t) (fun _ => True) (askRepository t args) :=
  sendsOnly_gate_bind fun inputPath _ => sendsOnly_askCheckedGitRepo inputPath

theorem sendsOnly_gitHead : SendsOnly (Respects t) (fun _ => True) (gitHead t args) := by
  refine sendsOnly_bind sendsOnly_askRepository fun repo _ => ?_
  refine sendsOnly_bind (sendsOnly_read rfl) fun head _ => ?_
  refine sendsOnly_gate_bind fun _ _ => ?_
  refine sendsOnly_bind (sendsOnly_mono (Attempt.Only.caught (sendsOnly_read rfl))) fun _ _ => ?_
  exact sendsOnly_pure _

theorem sendsOnly_gitStatus : SendsOnly (Respects t) (fun _ => True) (gitStatus t args) := by
  refine sendsOnly_bind sendsOnly_askRepository fun repo _ => ?_
  exact sendsOnly_bind (sendsOnly_read rfl) fun _ _ => sendsOnly_pure _

theorem sendsOnly_gitDiffSummary :
    SendsOnly (Respects t) (fun _ => True) (gitDiffSummary t args) := by
  refine sendsOnly_bind sendsOnly_askRepository fun repo _ => ?_
  refine sendsOnly_bind (sendsOnly_mono (Attempt.Only.caught (sendsOnly_read rfl))) fun _ _ => ?_
  refine sendsOnly_bind (sendsOnly_mono (Attempt.Only.caught (sendsOnly_read rfl))) fun _ _ => ?_
  exact sendsOnly_pure _

theorem sendsOnly_listDirectory :
    SendsOnly (Respects t) (fun _ => True) (listDirectory t args) := by
  refine sendsOnly_gate_bind fun inputPath _ => ?_
  refine sendsOnly_bind (sendsOnly_askCheckedPath inputPath) fun real _ => ?_
  refine sendsOnly_bind (sendsOnly_read rfl) fun res _ => ?_
  exact sendsOnly_gate_bind fun _ _ => sendsOnly_pure _

theorem sendsOnly_readFile :
    SendsOnly (Respects t) (fun _ => True) (readFile settings t args) := by
  refine sendsOnly_gate_bind fun _ _ => ?_
  refine sendsOnly_gate_bind fun inputPath _ => ?_
  refine sendsOnly_bind (sendsOnly_askCheckedPath inputPath) fun real _ => ?_
  refine sendsOnly_bind (sendsOnly_read rfl) fun stat _ => ?_
  refine sendsOnly_bind (sendsOnly_read rfl) fun head _ => ?_
  exact sendsOnly_gate_bind fun _ _ => sendsOnly_pure _

/-- The directory of a process is resolved before its program is looked at. -/
theorem sendsOnly_startProcess : SendsOnly (Respects t) (fun _ => True) (startProcess t args) := by
  refine sendsOnly_gate_bind fun _ hoperator => ?_
  refine sendsOnly_gate_bind fun inputPath _ => ?_
  refine sendsOnly_bind (sendsOnly_askCheckedProcessCwd inputPath) fun cwd hcwd => ?_
  refine sendsOnly_gate_bind fun program hprogram => ?_
  refine sendsOnly_gate_bind fun argv _ => ?_
  refine sendsOnly_bind (sendsOnly_agentJson ?_) fun _ _ => sendsOnly_pure _
  exact ⟨rfl, fun _ => .processStart (requireOperator_eq_ok hoperator) hcwd
    (requireProgram_eq_ok hprogram)⟩

end Several

/-! ## Calls -/

section Calls

variable {c : Invocation} {w : ToolWorld}

/-- What the wrapper has checked of the target that the call resolves. -/
theorem guardSemantic_eq_ok {u : Unit} (h : c.guardSemantic w = .ok u) {id : JsString}
    (hid : lookup (js "target") c.args = some (.str id)) {t : TargetConfig}
    (ht : getTarget w.admin.registry id = some t)
    (hsemantic : t.capabilityProfile = .semanticOperator) :
    c.tool.name ∈ openhandsSemanticTools := by
  unfold Invocation.guardSemantic at h
  simp only [hid, ht] at h
  by_contra hname
  exact requireThat_eq_ok h ⟨hsemantic, hname⟩

/-- A run on the target of the call that the target grants is authorized. -/
theorem sendsOnly_onTarget {u : Unit} (hguard : c.guardSemantic w = .ok u)
    {run : TargetConfig → ToolRun Unit}
    (hrun : ∀ t, SendsOnly (fun s => Respects t s ∧
      (c.tool.name ∈ openhandsSemanticTools → s.request.isOpenHands = true)) (fun _ => True)
      (run t)) :
    SendsOnly (Authorized w) (fun _ => True) (c.onTarget w run) := by
  refine sendsOnly_gate_bind fun t ht => ?_
  obtain ⟨id, hid, hresolved⟩ := resolveTargetArg_eq_ok ht
  refine Attempt.Only.mono (hrun t) (fun batch hbatch s hs => ?_) fun _ h => h
  obtain ⟨⟨rfl, hgranted⟩, hopenhands⟩ := hbatch s hs
  have hown : s.target.id = id := getTarget_id hresolved.found
  refine ⟨⟨by rw [hown]; exact hresolved.found, hresolved.enabled⟩, hgranted, fun hsemantic => ?_⟩
  exact hopenhands (guardSemantic_eq_ok hguard hid hresolved.found hsemantic)

/-- As before, for the tools that are none of OpenHands. -/
theorem sendsOnly_onTarget_of_respects {u : Unit} (hguard : c.guardSemantic w = .ok u)
    (hname : c.tool.name ∉ openhandsSemanticTools) {run : TargetConfig → ToolRun Unit}
    (hrun : ∀ t, SendsOnly (Respects t) (fun _ => True) (run t)) :
    SendsOnly (Authorized w) (fun _ => True) (c.onTarget w run) := by
  refine sendsOnly_onTarget hguard fun t => ?_
  refine Attempt.Only.mono (hrun t) (fun batch hbatch s hs => ⟨hbatch s hs, ?_⟩) fun _ h => h
  exact fun hmem => absurd hmem hname

theorem sendsOnly_sendRequest {u : Unit} (hguard : c.guardSemantic w = .ok u) {tool : RequestTool}
    (htool : c.tool = .request tool) :
    SendsOnly (Authorized w) (fun _ => True) (c.sendRequest w tool) := by
  refine sendsOnly_gate_bind fun _ _ => ?_
  refine sendsOnly_onTarget hguard fun t => ?_
  refine sendsOnly_gate_bind fun request hrequest => ?_
  refine sendsOnly_bind (sendsOnly_send ⟨⟨rfl, request_granted hrequest⟩, fun hname => ?_⟩)
    fun _ _ => sendsOnly_pure _
  rw [htool] at hname
  exact request_openhands hname hrequest

/-- The ticket is for the target that was checked, with the program and the directory that its
configuration allows at this moment. -/
theorem sendsOnly_hostAdminApply :
    SendsOnly (Authorized w) (fun _ => True) (c.hostAdminApply w) := by
  refine sendsOnly_gate_bind fun approved happroved => ?_
  unfold Invocation.consumed at happroved
  split at happroved
  · cases happroved
  · next input _ =>
    obtain ⟨approval, hconsumes, -⟩ := consumeManagedAdminApproval_eq_ok (Prod.ext happroved rfl)
    have hadmin := hconsumes.administrable
    refine sendsOnly_bind (sendsOnly_agentJson ?_) fun _ _ => sendsOnly_pure _
    have hticket := hconsumes.ticket
    refine ⟨⟨hadmin.registered, hadmin.enabled⟩, fun _ => ?_, fun hsemantic => ?_⟩
    · refine .managedAdmin hadmin.operator hadmin.capability ?_ ?_ ?_
      · rw [hticket]
        exact hconsumes.targetId.symm
      · rw [hticket]
        exact hconsumes.programAllowed
      · rw [hticket]
        exact hconsumes.cwdAllowed
    · rw [hadmin.operator] at hsemantic
      cases hsemantic

theorem sendsOnly_run (c : Invocation) (w : ToolWorld) :
    SendsOnly (Authorized w) (fun _ => True) (c.run w) := by
  refine sendsOnly_gate_bind fun _ hguard => ?_
  have hother {tool : Tool} (htool : c.tool = tool) (hname : tool.name ∉ openhandsSemanticTools)
      {run : TargetConfig → ToolRun Unit}
      (hrun : ∀ t, SendsOnly (Respects t) (fun _ => True) (run t)) :
      SendsOnly (Authorized w) (fun _ => True) (c.onTarget w run) :=
    sendsOnly_onTarget_of_respects hguard (by rwa [htool]) hrun
  unfold Invocation.originalRun
  split
  · exact sendsOnly_pure _
  · next tool htool => exact sendsOnly_sendRequest hguard htool
  · exact sendsOnly_hostAdminApply
  · next htool => exact hother htool (by decide) fun _ => sendsOnly_hostStatus
  · next htool => exact hother htool (by decide) fun _ => sendsOnly_uptime
  · next htool => exact hother htool (by decide) fun _ => sendsOnly_dockerListRun
  · next htool => exact hother htool (by decide) fun _ => sendsOnly_gitHead
  · next htool => exact hother htool (by decide) fun _ => sendsOnly_gitStatus
  · next htool => exact hother htool (by decide) fun _ => sendsOnly_gitDiffSummary
  · next htool => exact hother htool (by decide) fun _ => sendsOnly_listDirectory
  · next htool => exact hother htool (by decide) fun _ => sendsOnly_readFile
  · next htool => exact hother htool (by decide) fun _ => sendsOnly_startProcess
  · next htool => exact hother htool (by decide) fun _ => sendsOnly_runtimeSummary

/-- Whatever the arguments, the registry, the runtime controls and the answers to the earlier
requests, what a call of a tool sends is authorized. -/
theorem sends_authorized {h : List (List Sent × SentAnswers)} {batch : List Sent} {s : Sent}
    (hasks : Program.Asks (c.run w) h batch) (hs : s ∈ batch) : Authorized w s :=
  Program.Only.asks (sendsOnly_run c w) hasks s hs

theorem sends_authorized_kill :
    Authorized opsWorld ⟨opsTarget, .operation ⟨js "process.kill",
      [(js "session_id", .str (js "s")), (js "signal", .str (js "SIGTERM"))]⟩⟩ := by
  have hasks : Program.Asks
      ((opsCall (.request .killProcess) [(js "session_id", .str (js "s"))]).run opsWorld) []
      [⟨opsTarget, .operation ⟨js "process.kill",
        [(js "session_id", .str (js "s")), (js "signal", .str (js "SIGTERM"))]⟩⟩] := Eq.refl _
  exact sends_authorized hasks (List.mem_singleton_self _)

end Calls

end RemoteOps

import RemoteOps.Tools.Runs

/-!
# The tools

Most tools make their checks and send one request: a `RequestTool` is a function from the target
and the arguments to that request. The others have a run of their own. `Invocation.run` is a call of
any tool, with the wrapper that keeps the tools away from the targets of OpenHands.
-/

namespace RemoteOps

open Ecma Transition

/-! ## Settings and names -/

/-- The limits of the environment, within the bounds of its schema. -/
structure ToolSettings where
  maxLogLines : ℕ := 500
  readFileMaxBytes : ℕ := 65536
  logLines_inRange : 10 ≤ maxLogLines ∧ maxLogLines ≤ 1000 := by decide
  readBytes_inRange : 1024 ≤ readFileMaxBytes ∧ readFileMaxBytes ≤ 1048576 := by decide

def ToolSettings.logLimit (settings : ToolSettings) : JsNumber :=
  JsNumber.ofInt settings.maxLogLines (by have := settings.logLines_inRange; omega)

def ToolSettings.readLimit (settings : ToolSettings) : JsNumber :=
  JsNumber.ofInt settings.readFileMaxBytes (by have := settings.readBytes_inRange; omega)

/-- The tools that send at most one request, which their checks determine. -/
inductive RequestTool where
  | diskUsage
  | memoryStatus
  | dockerHealth
  | dockerInspectSafe
  | dockerLogs
  | dockerExec
  | dockerAction
  | postgresPinnedVerifierReadback
  | paperclipTaskDrainStatus
  | paperclipToolPoliciesList
  | paperclipToolConnectionActivitySafe
  | paperclipToolPolicyTest
  | paperclipTaskDrainStart
  | paperclipTaskDrainStop
  | paperclipToolPolicyCreate
  | paperclipToolPolicyDelete
  | serviceStatus
  | serviceLogs
  | serviceAction
  | createDirectory
  | writeFile
  | editFile
  | moveFile
  | readProcessOutput
  | sendProcessInput
  | killProcess
  | listProcesses
  | openhandsHealth
  | openhandsList
  | openhandsStatus
  | openhandsResult
  | openhandsEvents
  | openhandsStart
  | openhandsStop
  deriving DecidableEq

/-- The tools that send nothing to a target. -/
inductive LocalTool where
  | health
  | targetsList
  | targetStatus
  | targetAgentPrepare
  | targetAgentApply
  | deepharnessDockerReadPrepare
  | deepharnessDockerReadApply
  | hostAdminPrepare
  | portainerStatus
  | portainerEndpointsList
  | portainerStacksList
  | portainerStackGet
  | portainerStackStart
  | portainerStackStop
  | portainerStackDelete
  | portainerStackUpdateEnv
  | portainerStackGitRedeploy
  | portainerStackCreateGit
  deriving DecidableEq

inductive Tool where
  | localTool (tool : LocalTool)
  | request (tool : RequestTool)
  | hostAdminApply
  | hostStatus
  | uptime
  | dockerList
  | gitHead
  | gitStatus
  | gitDiffSummary
  | listDirectory
  | readFile
  | startProcess
  | runtimeSummary
  deriving DecidableEq

def RequestTool.name : RequestTool → String
  | diskUsage => "disk_usage"
  | memoryStatus => "memory_status"
  | dockerHealth => "docker_health"
  | dockerInspectSafe => "docker_inspect_safe"
  | dockerLogs => "docker_logs"
  | dockerExec => "docker_exec"
  | dockerAction => "docker_action"
  | postgresPinnedVerifierReadback => "postgres_pinned_verifier_readback"
  | paperclipTaskDrainStatus => "paperclip_task_drain_status"
  | paperclipToolPoliciesList => "paperclip_tool_policies_list"
  | paperclipToolConnectionActivitySafe => "paperclip_tool_connection_activity_safe"
  | paperclipToolPolicyTest => "paperclip_tool_policy_test"
  | paperclipTaskDrainStart => "paperclip_task_drain_start"
  | paperclipTaskDrainStop => "paperclip_task_drain_stop"
  | paperclipToolPolicyCreate => "paperclip_tool_policy_create"
  | paperclipToolPolicyDelete => "paperclip_tool_policy_delete"
  | serviceStatus => "service_status"
  | serviceLogs => "service_logs"
  | serviceAction => "service_action"
  | createDirectory => "create_directory"
  | writeFile => "write_file"
  | editFile => "edit_file"
  | moveFile => "move_file"
  | readProcessOutput => "read_process_output"
  | sendProcessInput => "send_process_input"
  | killProcess => "kill_process"
  | listProcesses => "list_processes"
  | openhandsHealth => "openhands_health"
  | openhandsList => "openhands_list"
  | openhandsStatus => "openhands_status"
  | openhandsResult => "openhands_result"
  | openhandsEvents => "openhands_events"
  | openhandsStart => "openhands_start"
  | openhandsStop => "openhands_stop"

def LocalTool.name : LocalTool → String
  | health => "health"
  | targetsList => "targets_list"
  | targetStatus => "target_status"
  | targetAgentPrepare => "target_agent_prepare"
  | targetAgentApply => "target_agent_apply"
  | deepharnessDockerReadPrepare => "deepharness_docker_read_prepare"
  | deepharnessDockerReadApply => "deepharness_docker_read_apply"
  | hostAdminPrepare => "host_admin_prepare"
  | portainerStatus => "portainer_status"
  | portainerEndpointsList => "portainer_endpoints_list"
  | portainerStacksList => "portainer_stacks_list"
  | portainerStackGet => "portainer_stack_get"
  | portainerStackStart => "portainer_stack_start"
  | portainerStackStop => "portainer_stack_stop"
  | portainerStackDelete => "portainer_stack_delete"
  | portainerStackUpdateEnv => "portainer_stack_update_env"
  | portainerStackGitRedeploy => "portainer_stack_git_redeploy"
  | portainerStackCreateGit => "portainer_stack_create_git"

def Tool.name : Tool → String
  | localTool tool => tool.name
  | request tool => tool.name
  | hostAdminApply => "host_admin_apply"
  | hostStatus => "host_status"
  | uptime => "uptime"
  | dockerList => "docker_list"
  | gitHead => "git_head"
  | gitStatus => "git_status"
  | gitDiffSummary => "git_diff_summary"
  | listDirectory => "list_directory"
  | readFile => "read_file"
  | startProcess => "start_process"
  | runtimeSummary => "runtime_summary"

def openhandsSemanticTools : List String :=
  ["openhands_health", "openhands_list", "openhands_status", "openhands_result",
    "openhands_events", "openhands_start", "openhands_stop"]

/-! ## Requests -/

section Requests

variable (settings : ToolSettings) (t : TargetConfig) (args : List (JsString × Json))

def identifierArg (key : String) : Except OpsError JsString := do
  assertIdentifier (← toolText (lookup (js key) args)) key

/-- The container argument, on the list of the target. -/
def listedContainer : Except OpsError JsString := do
  let container ← identifierArg args "container"
  checkAllow t.allowedDockerContainers container "contêiner" "CONTAINER_NOT_ALLOWED"
  return container

/-- `service.includes(".") ? service : service + ".service"`. -/
def unitOf (service : JsString) : JsString :=
  if service.contains (unit '.') then service else service ++ js ".service"

/-- The unit of the service argument, on the list of the target. -/
def listedUnit : Except OpsError JsString := do
  let service ← identifierArg args "service"
  checkAllow t.allowedServices service "serviço" "SERVICE_NOT_ALLOWED"
  return unitOf service

/-- `String(Math.min(Math.max(Number(args.lines ?? 100), 1), env.MAX_LOG_LINES))`. -/
def logLines : Except OpsError JsString := do
  let lines ← toolNumber (JsNumber.ofInt 100 (by decide)) (lookup (js "lines") args)
  return ofChars (clampNumber jsOne settings.logLimit lines).text

def dockerHealthRequest : Except OpsError TargetRequest := do
  let container ← listedContainer t args
  return .exec [js "docker", js "inspect", js "--format", js "{{json .State}}", container]

def dockerInspectSafeRequest : Except OpsError TargetRequest := do
  let container ← listedContainer t args
  return .exec [js "docker", js "inspect", container]

/-- The lines are read before the list is consulted. -/
def dockerLogsRequest : Except OpsError TargetRequest := do
  let container ← identifierArg args "container"
  let lines ← logLines settings args
  checkAllow t.allowedDockerContainers container "contêiner" "CONTAINER_NOT_ALLOWED"
  return .exec [js "docker", js "logs", js "--tail", lines, js "--timestamps", container]

def dockerExecRequest : Except OpsError TargetRequest := do
  requireOperator t
  requireAgentMutationTransport t
  let container ← identifierArg args "container"
  checkAllow t.allowedDockerExecContainers container "contêiner para exec" "CONTAINER_NOT_ALLOWED"
  let program ← requireNamedCapability t.allowedDockerExecPrograms (lookup (js "program") args)
    "programa docker exec"
  let argv ← stringArgs (lookup (js "args") args)
  return .exec (js "docker" :: js "exec" :: container :: program :: argv)

def loadImageRequest : Except OpsError TargetRequest := do
  let path ← assertConfiguredPath (← toolText (lookup (js "path") args))
    t.allowedDockerImageLoadRoots (js "Docker image load")
  requireThat (endsWith path (js ".tar") = true) "INVALID_ARGUMENT"
    (js "load_image aceita somente arquivo .tar")
  return .operation ⟨js "docker.image_load", [(js "path", .str path)]⟩

def candidateRunRequest : Except OpsError TargetRequest := do
  let name ← requireCandidateName t.allowedDockerCandidateNamePrefixes (lookup (js "name") args)
  let image ← requirePrefixCapability t.allowedDockerCandidateImagePrefixes
    (lookup (js "image") args) "imagem candidate"
  let network ← requireNamedCapability t.allowedDockerCandidateNetworks
    (lookup (js "network") args) "rede candidate"
  let hostPort ← requireAllowedPort t.allowedDockerCandidateHostPorts
    (lookup (js "host_port") args) "porta host candidate"
  let containerPort ← requireAllowedPort t.allowedDockerCandidateContainerPorts
    (lookup (js "container_port") args) "porta container candidate"
  return .operation ⟨js "docker.candidate_run",
    [(js "name", .str name), (js "image", .str image), (js "network", .str network),
      (js "hostPort", .num hostPort), (js "containerPort", .num containerPort)]⟩

def candidateRemoveRequest : Except OpsError TargetRequest := do
  let name ← requireCandidateName t.allowedDockerCandidateNamePrefixes (lookup (js "name") args)
  return .operation ⟨js "docker.candidate_remove", [(js "name", .str name)]⟩

def dockerActionRequest : Except OpsError TargetRequest := do
  requireOperator t
  requireAgentMutationTransport t
  let action ← requireNamedCapability (t.allowedDockerActions.map DockerAction.text)
    (lookup (js "action") args) "ação docker"
  if action ∈ dockerActions then
    let container ← listedContainer t args
    return .exec [js "docker", action, container]
  else if action = js "load_image" then loadImageRequest t args
  else if action = js "candidate_run" then candidateRunRequest t args
  else if action = js "candidate_remove" then candidateRemoveRequest t args
  else deny "INVALID_ARGUMENT" (js "ação docker não suportada")

def postgresPinnedVerifierReadbackRequest : Except OpsError TargetRequest := do
  requireSemanticCapability t "postgres.pinned_readback"
  let verifierId ← plainText (lookup (js "verifier_id") args)
  let sql ← plainText (lookup (js "sql") args)
  return .operation ⟨js "postgres.pinned_readback",
    [(js "verifierId", .str verifierId), (js "sql", .str sql)]⟩

/-- `key: args.name`, which JSON leaves out when it is `undefined`. -/
def rawArg (key name : String) : List (JsString × Json) :=
  match lookup (js name) args with
  | some x => [(js key, x)]
  | none => []

/-- `key: args.name ?? fallback`. -/
def argOr (key name : String) (fallback : Json) : List (JsString × Json) :=
  [(js key, orElseJson (lookup (js name) args) fallback)]

/-- `key: String(args.name)`. -/
def textArg (key name : String) : Except OpsError (List (JsString × Json)) := do
  return [(js key, .str (← plainText (lookup (js name) args)))]

/-- `key: Number(args.name ?? fallback)`. -/
def numberArg (key name : String) (fallback : JsNumber) :
    Except OpsError (List (JsString × Json)) := do
  return [(js key, .num (← toolNumber fallback (lookup (js name) args)))]

/-- A tool of the Paperclip family. -/
def paperclipRequest (op : String) (props : Except OpsError (List (JsString × Json))) :
    Except OpsError TargetRequest := do
  requirePaperclipSemantic t
  return .operation ⟨js op, ← props⟩

def paperclipTaskDrainStatusRequest : Except OpsError TargetRequest :=
  paperclipRequest t "paperclip.task_drain_status" (.ok [])

def paperclipToolPoliciesListRequest : Except OpsError TargetRequest :=
  paperclipRequest t "paperclip.tool_policies_list" (textArg args "companyId" "company_id")

def paperclipToolConnectionActivitySafeRequest : Except OpsError TargetRequest :=
  paperclipRequest t "paperclip.tool_connection_activity_safe" do
    return (← textArg args "companyId" "company_id") ++
      (← textArg args "connectionId" "connection_id") ++
      (← numberArg args "limit" "limit" (JsNumber.ofInt 20 (by decide))) ++
      (← textArg args "runId" "run_id") ++ (← textArg args "toolName" "tool_name")

def paperclipToolPolicyTestRequest : Except OpsError TargetRequest :=
  paperclipRequest t "paperclip.tool_policy_test" do
    return (← textArg args "companyId" "company_id") ++ rawArg args "actor" "actor" ++
      argOr args "runContext" "run_context" .null ++ rawArg args "request" "request"

/-- `Number(args.ttl_ms)`. -/
def paperclipTaskDrainStartRequest : Except OpsError TargetRequest :=
  paperclipRequest t "paperclip.task_drain_start" do
    return [(js "ttlMs", .num (← convertedOr (numOrNaN (lookup (js "ttl_ms") args))))]

def paperclipTaskDrainStopRequest : Except OpsError TargetRequest :=
  paperclipRequest t "paperclip.task_drain_stop" (.ok [])

def paperclipToolPolicyCreateRequest : Except OpsError TargetRequest :=
  paperclipRequest t "paperclip.tool_policy_create" do
    return (← textArg args "companyId" "company_id") ++ (← textArg args "name" "name") ++
      argOr args "description" "description" .null ++
      (← textArg args "policyType" "policy_type") ++
      (← numberArg args "priority" "priority" (JsNumber.ofInt 100 (by decide))) ++
      rawArg args "selectors" "selectors" ++ argOr args "config" "config" .null

def paperclipToolPolicyDeleteRequest : Except OpsError TargetRequest :=
  paperclipRequest t "paperclip.tool_policy_delete" do
    return (← textArg args "companyId" "company_id") ++ (← textArg args "policyId" "policy_id") ++
      (← textArg args "expectedName" "expected_name")

def serviceStatusOptions : List JsString :=
  ["-p", "LoadState", "-p", "ActiveState", "-p", "SubState", "-p", "UnitFileState", "-p",
    "ExecMainPID", "-p", "MemoryCurrent", "-p", "NRestarts", "-p", "FragmentPath",
    "--no-pager"].map js

def serviceStatusRequest : Except OpsError TargetRequest := do
  let unit ← listedUnit t args
  return .exec ([js "systemctl", js "show", unit] ++ serviceStatusOptions)

/-- As for the logs of a container. -/
def serviceLogsRequest : Except OpsError TargetRequest := do
  let service ← identifierArg args "service"
  let lines ← logLines settings args
  checkAllow t.allowedServices service "serviço" "SERVICE_NOT_ALLOWED"
  return .exec [js "journalctl", js "-u", unitOf service, js "-n", lines, js "--no-pager", js "-o",
    js "short-iso"]

def serviceActionRequest : Except OpsError TargetRequest := do
  requireOperator t
  let unit ← listedUnit t args
  let action ← requireNamedCapability (t.allowedServiceActions.map ServiceAction.text)
    (lookup (js "action") args) "ação systemd"
  return .exec [js "systemctl", action, unit]

def workspaceRequest (op : WorkspaceOp) : Except OpsError TargetRequest := do
  return .operation ⟨op.text, ← workspaceArguments t args op⟩

/-- A tool for the process sessions of the execution broker. -/
def processRequest (op : String) (props : Except OpsError (List (JsString × Json))) :
    Except OpsError TargetRequest := do
  requireOperator t
  return .operation ⟨js op, ← props⟩

def readProcessOutputRequest : Except OpsError TargetRequest :=
  processRequest t "process.read" do
    return (← textArg args "session_id" "session_id") ++
      (← numberArg args "offset" "offset" (JsNumber.ofInt 0 inRange_zero)) ++
      (← numberArg args "max_chars" "max_chars" (JsNumber.ofInt 65536 (by decide)))

def sendProcessInputRequest : Except OpsError TargetRequest :=
  processRequest t "process.input" do
    let input ← toolText (lookup (js "input") args)
    return (← textArg args "session_id" "session_id") ++
      [(js "input_b64", .str (base64 (utf8 input)))]

def killProcessRequest : Except OpsError TargetRequest :=
  processRequest t "process.kill" do
    let signal ← convertedOr (orElseJson (lookup (js "signal") args) (.str (js "SIGTERM"))).toStr
    return (← textArg args "session_id" "session_id") ++ [(js "signal", .str signal)]

def listProcessesRequest : Except OpsError TargetRequest := processRequest t "process.list" (.ok [])

/-- A tool that reads from OpenHands. -/
def openhandsReadRequest (op : String) (props : List (JsString × Json)) :
    Except OpsError TargetRequest := do
  requireSemanticCapability t "openhands.read"
  return .operation ⟨js op, props⟩

def openhandsHealthRequest : Except OpsError TargetRequest :=
  openhandsReadRequest t "openhands.health" []

def openhandsListRequest : Except OpsError TargetRequest :=
  openhandsReadRequest t "openhands.list"
    (argOr args "limit" "limit" (.num (JsNumber.ofInt 10 (by decide))) ++
      rawArg args "page_id" "page_id")

def openhandsStatusRequest : Except OpsError TargetRequest :=
  openhandsReadRequest t "openhands.status" (rawArg args "conversation_id" "conversation_id")

def openhandsResultRequest : Except OpsError TargetRequest :=
  openhandsReadRequest t "openhands.result" (rawArg args "conversation_id" "conversation_id")

def openhandsEventsRequest : Except OpsError TargetRequest :=
  openhandsReadRequest t "openhands.events"
    (rawArg args "conversation_id" "conversation_id" ++
      argOr args "limit" "limit" (.num (JsNumber.ofInt 20 (by decide))) ++
      rawArg args "page_id" "page_id")

/-- A tool that starts or stops something in OpenHands. -/
def openhandsExecuteRequest (op : String) (props : List (JsString × Json)) :
    Except OpsError TargetRequest := do
  requireOpenHandsExecutor t
  return .operation ⟨js op, props⟩

def openhandsStartRequest : Except OpsError TargetRequest :=
  openhandsExecuteRequest t "openhands.start" (rawArg args "task" "task")

def openhandsStopRequest : Except OpsError TargetRequest :=
  openhandsExecuteRequest t "openhands.stop" (rawArg args "conversation_id" "conversation_id")

def RequestTool.request : RequestTool → Except OpsError TargetRequest
  | diskUsage => .ok (.exec [js "df", js "-hP"])
  | memoryStatus => .ok (.exec [js "free", js "-b"])
  | dockerHealth => dockerHealthRequest t args
  | dockerInspectSafe => dockerInspectSafeRequest t args
  | dockerLogs => dockerLogsRequest settings t args
  | dockerExec => dockerExecRequest t args
  | dockerAction => dockerActionRequest t args
  | postgresPinnedVerifierReadback => postgresPinnedVerifierReadbackRequest t args
  | paperclipTaskDrainStatus => paperclipTaskDrainStatusRequest t
  | paperclipToolPoliciesList => paperclipToolPoliciesListRequest t args
  | paperclipToolConnectionActivitySafe => paperclipToolConnectionActivitySafeRequest t args
  | paperclipToolPolicyTest => paperclipToolPolicyTestRequest t args
  | paperclipTaskDrainStart => paperclipTaskDrainStartRequest t args
  | paperclipTaskDrainStop => paperclipTaskDrainStopRequest t
  | paperclipToolPolicyCreate => paperclipToolPolicyCreateRequest t args
  | paperclipToolPolicyDelete => paperclipToolPolicyDeleteRequest t args
  | serviceStatus => serviceStatusRequest t args
  | serviceLogs => serviceLogsRequest settings t args
  | serviceAction => serviceActionRequest t args
  | createDirectory => workspaceRequest t args .mkdir
  | writeFile => workspaceRequest t args .write
  | editFile => workspaceRequest t args .edit
  | moveFile => workspaceRequest t args .move
  | readProcessOutput => readProcessOutputRequest t args
  | sendProcessInput => sendProcessInputRequest t args
  | killProcess => killProcessRequest t args
  | listProcesses => listProcessesRequest t
  | openhandsHealth => openhandsHealthRequest t
  | openhandsList => openhandsListRequest t args
  | openhandsStatus => openhandsStatusRequest t args
  | openhandsResult => openhandsResultRequest t args
  | openhandsEvents => openhandsEventsRequest t args
  | openhandsStart => openhandsStartRequest t args
  | openhandsStop => openhandsStopRequest t args

end Requests

section Listed

variable {t : TargetConfig} {args : List (JsString × Json)}

/-- A checked name on a list of the target. -/
structure ListedName (list : List JsString) (name : JsString) : Prop where
  identifier : isAgentId name = true
  listed : Allows list name

theorem identifierArg_eq_ok {key : String} {id : JsString} (h : identifierArg args key = .ok id) :
    isAgentId id = true := by
  obtain ⟨_, -, h⟩ := bind_eq_ok h
  exact (assertIdentifier_eq_ok h).2

theorem listedContainer_eq_ok {container : JsString}
    (h : listedContainer t args = .ok container) :
    ListedName t.allowedDockerContainers container := by
  obtain ⟨container', hid, h⟩ := bind_eq_ok h
  obtain ⟨_, hlisted, h⟩ := bind_eq_ok h
  obtain rfl := Except.ok.inj h
  exact ⟨identifierArg_eq_ok hid, checkAllow_eq_ok hlisted⟩

theorem listedUnit_eq_ok {unit : JsString} (h : listedUnit t args = .ok unit) :
    ∃ service, unit = unitOf service ∧ ListedName t.allowedServices service := by
  obtain ⟨service, hid, h⟩ := bind_eq_ok h
  obtain ⟨_, hlisted, h⟩ := bind_eq_ok h
  exact ⟨service, (Except.ok.inj h).symm, identifierArg_eq_ok hid, checkAllow_eq_ok hlisted⟩

end Listed

/-- `x === y` on values that were parsed: two objects are never the same. -/
def strictlyEqual : Option Json → Option Json → Bool
  | none, none => true
  | some .null, some .null => true
  | some (.bool a), some (.bool b) => a = b
  | some (.num a), some (.num b) => a = b && a ≠ JsNumber.nan
  | some (.str a), some (.str b) => a = b
  | _, _ => false

/-- What a tool looks at before it resolves its target. -/
def RequestTool.precheck (args : List (JsString × Json)) : RequestTool → Except OpsError Unit
  | openhandsStop =>
      requireThat (strictlyEqual (lookup (js "conversation_id") args)
          (lookup (js "confirm_conversation_id") args) = true) "INVALID_ARGUMENT"
        (js "confirmação do conversation_id diverge")
  | _ => .ok ()

/-! ## Runs of several requests -/

section Runs

variable (settings : ToolSettings) (t : TargetConfig) (args : List (JsString × Json))

def hostStatus : ToolRun Unit := do
  let hostname ← exec t [js "hostname"]
  let _ ← gate (requireExec hostname "hostname")
  let _ ← execAll t [[js "uname", js "-srm"], [js "cat", js "/proc/loadavg"],
    [js "uptime", js "-p"], [js "head", js "-n", js "5", js "/etc/os-release"]]
  return

def uptime : ToolRun Unit := do
  let answers ← execAll t [[js "uptime", js "-p"], [js "uptime", js "-s"]]
  let _ ← Attempt.ofExcept (answers 0)
  let _ ← Attempt.ofExcept (answers 1)
  return

def dockerListRun : ToolRun Unit :=
  if t.allowedDockerContainers.length = 0 then return
  else do
    let _ ← exec t dockerPsCommand
    return

def runtimeSummary : ToolRun Unit := do
  let _ ← execAll t [[js "df", js "-hP"], [js "free", js "-b"], [js "uptime", js "-p"],
    [js "docker", js "ps", js "-q"]]
  return

/-- The repository argument, resolved on the target. -/
def askRepository : ToolRun JsString := do
  askCheckedGitRepo t (← gate (toolText (lookup (js "repository") args)))

def gitHead : ToolRun Unit := do
  let repo ← askRepository t args
  let head ← exec t [js "git", js "-C", repo, js "rev-parse", js "HEAD"]
  let _ ← gate (requireExec head "git")
  let _ ← (exec t [js "git", js "-C", repo, js "log", js "-1",
    js "--format=%H%n%an%n%aI%n%s"]).caught
  return

def gitStatus : ToolRun Unit := do
  let repo ← askRepository t args
  let _ ← exec t [js "git", js "-C", repo, js "-c", js "core.quotepath=false", js "status",
    js "--porcelain=v1", js "-b"]
  return

def gitDiffSummary : ToolRun Unit := do
  let repo ← askRepository t args
  let _ ← (exec t [js "git", js "-C", repo, js "diff", js "--stat"]).caught
  let _ ← (exec t [js "git", js "-C", repo, js "diff", js "--cached", js "--stat"]).caught
  return

def listDirectory : ToolRun Unit := do
  let real ← askCheckedPath t (← gate (toolText (lookup (js "path") args)))
  let res ← exec t [js "ls", js "-la", js "--time-style=long-iso", real]
  let _ ← gate (requireExec res "ls")
  return

def jsZero : JsNumber := JsNumber.ofInt 0 inRange_zero

/-- `Number(stdout.trim()) || 0`. -/
def sizeOf (stdout : JsString) : JsNumber :=
  match numberOfString stdout with
  | .nan => jsZero
  | size => size

/-- `Math.min(size || env.READ_FILE_MAX_BYTES, env.READ_FILE_MAX_BYTES)`. -/
def bytesToRead (size : JsNumber) : JsNumber :=
  let wanted := if size = jsZero then settings.readLimit else size
  if settings.readLimit.lt wanted then settings.readLimit else wanted

def readFile : ToolRun Unit := do
  let _ ← gate (toolNumber (JsNumber.ofInt 200 (by decide)) (lookup (js "max_lines") args))
  let real ← askCheckedPath t (← gate (toolText (lookup (js "path") args)))
  let stat ← exec t [js "stat", js "-c", js "%s", real]
  let bytes := ofChars (bytesToRead settings (sizeOf stat.stdout)).text
  let head ← exec t [js "head", js "-c", bytes, real]
  let _ ← gate (requireExec head "head")
  return

def startProcess : ToolRun Unit := do
  gate (requireOperator t)
  let cwd ← askCheckedProcessCwd t (← gate (toolText (lookup (js "cwd") args)))
  let program ← gate (requireProgram t (lookup (js "program") args))
  let argv ← gate (stringArgs (lookup (js "args") args))
  let _ ← agentJson t ⟨js "process.start",
    [(js "cwd", .str cwd), (js "program", .str program), (js "argv", .arr (argv.map .str))]⟩
  return

end Runs

/-! ## Calls -/

/-- What a call finds when it begins. -/
structure ToolWorld where
  settings : ToolSettings
  auth : AuthEnv
  scheme : SignatureScheme
  /-- the registry, the runtime controls and the approvals of managed-admin -/
  admin : ApprovalState

/-- A call of a tool; the nonce and the clock are for the ticket of `host_admin_apply`. -/
structure Invocation where
  tool : Tool
  args : List (JsString × Json)
  actor : JsString
  nonce : JsString
  clock : CallClock

namespace Invocation

variable (c : Invocation) (w : ToolWorld)

/-- The wrapper: a target of OpenHands is for the tools of OpenHands only. -/
def guardSemantic : Except OpsError Unit :=
  match lookup (js "target") c.args with
  | some (.str id) =>
      match getTarget w.admin.registry id with
      | some t =>
          requireThat (¬(t.capabilityProfile = .semanticOperator ∧
              c.tool.name ∉ openhandsSemanticTools)) "CAPABILITY_DENIED"
            (js "Target OpenHands semântico não autoriza esta ferramenta MCP")
      | none => .ok ()
  | _ => .ok ()

def onTarget (run : TargetConfig → ToolRun Unit) : ToolRun Unit := do
  run (← gate (resolveTargetArg w.admin.registry w.admin.live (lookup (js "target") c.args)))

def sendRequest (tool : RequestTool) : ToolRun Unit := do
  gate (tool.precheck c.args)
  c.onTarget w fun t => do
    let request ← gate (tool.request w.settings t c.args)
    let _ ← send t request
    return

def consumeInput : Except OpsError ConsumeInput := do
  let targetId ← plainText (lookup (js "target") c.args)
  let approvalId ← plainText (lookup (js "approval_id") c.args)
  let confirmation ← plainText (lookup (js "confirmation") c.args)
  return {
    actor := c.actor, targetId, approvalId, confirmation, nonce := c.nonce, clock := c.clock }

/-- The approval that is consumed, and what is left of the approvals. -/
def consumed : Except OpsError ManagedAdminGrant × ApprovalState :=
  match c.consumeInput with
  | .error e => (.error e, w.admin)
  | .ok input => consumeManagedAdminApproval w.auth w.scheme w.admin input

def hostAdminApply : ToolRun Unit := do
  let approved ← gate (c.consumed w).1
  let _ ← agentJson approved.target ⟨js "host.managed_admin",
    [(js "ticket", approved.ticket.toJson), (js "signature", .str approved.signature)]⟩
  return

/-- The run of the tool itself. -/
def originalRun : ToolRun Unit :=
  match c.tool with
  | .localTool _ => return
  | .request tool => c.sendRequest w tool
  | .hostAdminApply => c.hostAdminApply w
  | .hostStatus => c.onTarget w hostStatus
  | .uptime => c.onTarget w uptime
  | .dockerList => c.onTarget w dockerListRun
  | .gitHead => c.onTarget w fun t => gitHead t c.args
  | .gitStatus => c.onTarget w fun t => gitStatus t c.args
  | .gitDiffSummary => c.onTarget w fun t => gitDiffSummary t c.args
  | .listDirectory => c.onTarget w fun t => listDirectory t c.args
  | .readFile => c.onTarget w fun t => readFile w.settings t c.args
  | .startProcess => c.onTarget w fun t => startProcess t c.args
  | .runtimeSummary => c.onTarget w runtimeSummary

def run : ToolRun Unit := do
  gate (c.guardSemantic w)
  c.originalRun w

end Invocation

/-! ## A world with one target -/

def opsTarget : TargetConfig where
  id := js "lab"
  capabilityProfile := .operator
  transport := .agent
  deviceId := some (js "dev_00000000")
  allowedPaths := [js "/srv"]
  allowedDockerContainers := [js "cafe"]
  allowedDockerActions := [.start]

def opsWorld : ToolWorld where
  settings := {}
  auth := ⟨false, none, 120⟩
  scheme := ⟨fun _ _ => [], fun _ _ => false⟩
  admin := ⟨[opsTarget], ⟨emptyState, Realm.fresh, Record.empty⟩, Record.empty, 0⟩

def opsCall (tool : Tool) (args : List (JsString × Json)) : Invocation where
  tool
  args := (js "target", .str opsTarget.id) :: args
  actor := js "static"
  nonce := []
  clock := ⟨⟨5, by decide⟩, ⟨5, by decide⟩, ⟨5, by decide⟩⟩

end RemoteOps

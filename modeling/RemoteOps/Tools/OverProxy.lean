import RemoteOps.Agent.DockerOperator
import RemoteOps.Tools.Authority
import RemoteOps.Tools.OverAgent

/-!
# Docker operations of the tools

A Docker command of a tool goes through three hands: it becomes an operation, the agent posts that to
the proxy of its host, and the proxy asks the daemon. What the daemon is asked to change in the end
is what the tool has sent, word by word, and the target grants it.
-/

namespace RemoteOps

open Ecma Transition

/-- The operation that is dispatched for a request. -/
def TargetRequest.agentOperation : TargetRequest → Except String AgentOperation
  | .exec argv => argvToAgentOperation argv
  | .operation x => .ok x

/-- The request that an operation of the proxy stands for. -/
def DockerOperation.request : DockerOperation → TargetRequest
  | .exec container program argv => .exec (js "docker" :: js "exec" :: container.1 :: program :: argv)
  | .lifecycle container action => .exec [js "docker", action.1, container.1]
  | .imageLoad path => .operation ⟨js "docker.image_load", [(js "path", .str path.1)]⟩
  | .candidateRun name image network hostPort containerPort =>
      .operation ⟨js "docker.candidate_run",
        [(js "name", .str name.1), (js "image", .str image), (js "network", .str network.1),
          (js "hostPort", hostPort.toJson ports_inRange),
          (js "containerPort", containerPort.toJson ports_inRange)]⟩
  | .candidateRemove name => .operation ⟨js "docker.candidate_remove", [(js "name", .str name.1)]⟩

/-! ## From a command to the proxy -/

theorem safeId_str_eq_ok {s : JsString} {id : AgentId} (h : safeId (some (.str s)) = .ok id) :
    id.1 = s := by
  rw [safeId, textOf_str, ok_bind] at h
  split_ifs at h with hid
  exact congrArg Subtype.val (Except.ok.inj h).symm

theorem safePath_str_eq_ok {s : JsString} {path : AgentPath}
    (h : safePath (some (.str s)) = .ok path) : path.1 = s := by
  rw [safePath, textOf_str, ok_bind] at h
  split_ifs at h
  exact congrArg Subtype.val (Except.ok.inj h).symm

theorem safeProgram_str_eq_ok {s program : JsString}
    (h : safeProgram (some (.str s)) = .ok program) : program = s := by
  rw [safeProgram, textOf_str, ok_bind] at h
  split_ifs at h
  exact (Except.ok.inj h).symm

theorem safeOneOf_str_eq_ok {words : List JsString} {error : String} {s : JsString}
    {w : OneOf words} (h : safeOneOf words error (some (.str s)) = .ok w) : w.1 = s := by
  rw [safeOneOf, textOf_str, ok_bind] at h
  split_ifs at h
  exact congrArg Subtype.val (Except.ok.inj h).symm

theorem mapM_safeArgument_eq_ok {args argv : List JsString}
    (h : (args.map Json.str).mapM safeArgument = .ok argv) : argv = args := by
  induction args generalizing argv with
  | nil => exact (Except.ok.inj h).symm
  | cons s args ih =>
      rw [List.map_cons, List.mapM_cons] at h
      obtain ⟨text, htext, h⟩ := bind_eq_ok h
      obtain ⟨rest, hrest, h⟩ := bind_eq_ok h
      rw [safeArgument, textOf_str, ok_bind] at htext
      split_ifs at htext
      rw [← Except.ok.inj h, ← Except.ok.inj htext, ih hrest]

theorem safeArgv_strings_eq_ok {args argv : List JsString}
    (h : safeArgv (some (.arr (args.map .str))) = .ok argv) : argv = args := by
  rw [safeArgv] at h
  split_ifs at h
  exact mapM_safeArgument_eq_ok h

theorem safeImageRef_str_eq_ok {s image : JsString}
    (h : safeImageRef (some (.str s)) = .ok image) : image = s := by
  rw [safeImageRef, textOf_str, ok_bind] at h
  split_ifs at h
  exact (Except.ok.inj h).symm

theorem safePort_num_eq_ok {port : JsNumber} {n : Count 65535}
    (h : safePort (some (.num port)) = .ok n) : Json.num port = n.toJson ports_inRange := by
  rw [safePort, safeCount, numOrNaN_num] at h
  dsimp only at h
  cases hz : port.toInt? with
  | none =>
      rw [hz] at h
      cases h
  | some z =>
      rw [hz] at h
      dsimp only at h
      split_ifs at h with hrange
      obtain rfl := Except.ok.inj h
      exact congrArg Json.num (JsNumber.eq_of_toInt? hz (JsNumber.toInt?_ofInt _ _))

/-- The operation of a `docker exec` has its words as arguments. -/
theorem argvToAgentOperation_exec {container program : JsString} {args : List JsString}
    {x : AgentOperation}
    (h : argvToAgentOperation (js "docker" :: js "exec" :: container :: program :: args) = .ok x) :
    x = ⟨js "docker.exec", [(js "container", .str container), (js "program", .str program),
      (js "argv", .arr (args.map .str))]⟩ := by
  have hps := not_dockerPs (w := js "exec") (u := unit 'e') rfl (by decide)
  have hparse : argvToAgentOperation (js "docker" :: js "exec" :: container :: program :: args) =
      (do
        let container ← safeId (some (.str container))
        let program ← safeProgram (some (.str program))
        let argv ← safeArgv (some (.arr (args.map Json.str)))
        return ⟨js "docker.exec", [(js "container", .str container.1), (js "program", .str program),
          (js "argv", .arr (argv.map Json.str))]⟩) := by
    simp +decide [argvToAgentOperation, isAt, argAt, hps]
  rw [hparse] at h
  obtain ⟨id, hid, h⟩ := bind_eq_ok h
  obtain ⟨program', hprogram, h⟩ := bind_eq_ok h
  obtain ⟨argv, hargv, h⟩ := bind_eq_ok h
  rw [← Except.ok.inj h, safeId_str_eq_ok hid, safeProgram_str_eq_ok hprogram,
    safeArgv_strings_eq_ok hargv]

theorem argvToAgentOperation_lifecycle {action container : JsString}
    (haction : action ∈ dockerActions) {x : AgentOperation}
    (h : argvToAgentOperation [js "docker", action, container] = .ok x) :
    x = ⟨js "docker.action", [(js "action", .str action), (js "container", .str container)]⟩ := by
  have hhead : ∀ w ∈ dockerActions, ∃ u, w.head? = some u ∧ u ≠ unit 'p' ∧ w ≠ js "inspect" ∧
      w ≠ js "logs" ∧ w ≠ js "exec" := by
    have hall : ∀ w ∈ dockerActions, (w.head? = some (unit 's') ∨ w.head? = some (unit 'r')) ∧
        w ≠ js "inspect" ∧ w ≠ js "logs" ∧ w ≠ js "exec" := by decide
    intro w hw
    obtain ⟨hfirst | hfirst, hother⟩ := hall w hw
    · exact ⟨_, hfirst, by decide, hother⟩
    · exact ⟨_, hfirst, by decide, hother⟩
  obtain ⟨u, hu, hp, hinspect, hlogs, hexec⟩ := hhead action haction
  have hps := not_dockerPs hu hp
  have hok : safeDockerAction (some (.str action)) = .ok ⟨action, haction⟩ :=
    safeOneOf_str ⟨action, haction⟩
  have hparse : argvToAgentOperation [js "docker", action, container] =
      (do
        let action ← safeDockerAction (some (.str action))
        let container ← safeId (some (.str container))
        return ⟨js "docker.action",
          [(js "action", .str action.1), (js "container", .str container.1)]⟩) := by
    simp +decide [argvToAgentOperation, isAt, argAt, hps, hinspect, hlogs, hexec, haction]
  rw [hparse] at h
  obtain ⟨action', haction', h⟩ := bind_eq_ok h
  obtain ⟨id, hid, h⟩ := bind_eq_ok h
  rw [← Except.ok.inj h, safeId_str_eq_ok hid, safeOneOf_str_eq_ok haction']

/-! ## What the proxy makes of an operation -/

/-- An operation whose arguments are texts is read as it is written. -/
theorem dockerOperation_exec {container program : JsString} {args : List JsString}
    {o : DockerOperation}
    (h : dockerOperation ⟨js "docker.exec", [(js "container", .str container),
      (js "program", .str program), (js "argv", .arr (args.map .str))]⟩ = .ok o) :
    o.request = .exec (js "docker" :: js "exec" :: container :: program :: args) := by
  have hread : dockerOperation ⟨js "docker.exec", [(js "container", .str container),
      (js "program", .str program), (js "argv", .arr (args.map .str))]⟩ = (do
        return .exec (← safeId (some (.str container))) (← safeProgram (some (.str program)))
          (← safeArgv (some (.arr (args.map .str))))) := by
    simp +decide [dockerOperation, lookup]
  rw [hread] at h
  obtain ⟨id, hid, h⟩ := bind_eq_ok h
  obtain ⟨program', hprogram, h⟩ := bind_eq_ok h
  obtain ⟨argv, hargv, h⟩ := bind_eq_ok h
  rw [← Except.ok.inj h, DockerOperation.request, safeId_str_eq_ok hid,
    safeProgram_str_eq_ok hprogram, safeArgv_strings_eq_ok hargv]

theorem dockerOperation_lifecycle {action container : JsString} {o : DockerOperation}
    (h : dockerOperation ⟨js "docker.action", [(js "action", .str action),
      (js "container", .str container)]⟩ = .ok o) :
    o.request = .exec [js "docker", action, container] := by
  have hread : dockerOperation ⟨js "docker.action", [(js "action", .str action),
      (js "container", .str container)]⟩ = (do
        return .lifecycle (← safeId (some (.str container)))
          (← safeDockerAction (some (.str action)))) := by
    simp +decide [dockerOperation, lookup]
  rw [hread] at h
  obtain ⟨id, hid, h⟩ := bind_eq_ok h
  obtain ⟨action', haction, h⟩ := bind_eq_ok h
  rw [← Except.ok.inj h, DockerOperation.request, safeId_str_eq_ok hid,
    safeOneOf_str_eq_ok haction]

theorem dockerOperation_imageLoad {path : JsString} {o : DockerOperation}
    (h : dockerOperation ⟨js "docker.image_load", [(js "path", .str path)]⟩ = .ok o) :
    o.request = .operation ⟨js "docker.image_load", [(js "path", .str path)]⟩ := by
  have hread : dockerOperation ⟨js "docker.image_load", [(js "path", .str path)]⟩ = (do
      return .imageLoad (← safePath (some (.str path)))) := by
    simp +decide [dockerOperation, lookup]
  rw [hread] at h
  obtain ⟨path', hpath, h⟩ := bind_eq_ok h
  rw [← Except.ok.inj h, DockerOperation.request, safePath_str_eq_ok hpath]

theorem dockerOperation_candidateRun {name image network : JsString}
    {hostPort containerPort : JsNumber} {o : DockerOperation}
    (h : dockerOperation ⟨js "docker.candidate_run", [(js "name", .str name),
      (js "image", .str image), (js "network", .str network), (js "hostPort", .num hostPort),
      (js "containerPort", .num containerPort)]⟩ = .ok o) :
    o.request = .operation ⟨js "docker.candidate_run", [(js "name", .str name),
      (js "image", .str image), (js "network", .str network), (js "hostPort", .num hostPort),
      (js "containerPort", .num containerPort)]⟩ := by
  have hread : dockerOperation ⟨js "docker.candidate_run", [(js "name", .str name),
      (js "image", .str image), (js "network", .str network), (js "hostPort", .num hostPort),
      (js "containerPort", .num containerPort)]⟩ = (do
        return .candidateRun (← safeId (some (.str name))) (← safeImageRef (some (.str image)))
          (← safeId (some (.str network))) (← safePort (some (.num hostPort)))
          (← safePort (some (.num containerPort)))) := by
    simp +decide [dockerOperation, lookup]
  rw [hread] at h
  obtain ⟨name', hname, h⟩ := bind_eq_ok h
  obtain ⟨image', himage, h⟩ := bind_eq_ok h
  obtain ⟨network', hnetwork, h⟩ := bind_eq_ok h
  obtain ⟨hostPort', hhostPort, h⟩ := bind_eq_ok h
  obtain ⟨containerPort', hcontainerPort, h⟩ := bind_eq_ok h
  rw [← Except.ok.inj h, DockerOperation.request, safeId_str_eq_ok hname,
    safeImageRef_str_eq_ok himage, safeId_str_eq_ok hnetwork, safePort_num_eq_ok hhostPort,
    safePort_num_eq_ok hcontainerPort]

theorem dockerOperation_candidateRemove {name : JsString} {o : DockerOperation}
    (h : dockerOperation ⟨js "docker.candidate_remove", [(js "name", .str name)]⟩ = .ok o) :
    o.request = .operation ⟨js "docker.candidate_remove", [(js "name", .str name)]⟩ := by
  have hread : dockerOperation ⟨js "docker.candidate_remove", [(js "name", .str name)]⟩ = (do
      return .candidateRemove (← safeId (some (.str name)))) := by
    simp +decide [dockerOperation, lookup]
  rw [hread] at h
  obtain ⟨name', hname, h⟩ := bind_eq_ok h
  rw [← Except.ok.inj h, DockerOperation.request, safeId_str_eq_ok hname]

/-! ## From the tool to the daemon -/

/-- The operations of the proxy. -/
def dockerOps : List JsString :=
  ["docker.exec", "docker.action", "docker.image_load", "docker.candidate_run",
    "docker.candidate_remove"].map js

theorem op_mem_of_dockerOperation {x : AgentOperation} {o : DockerOperation}
    (h : dockerOperation x = .ok o) : x.op ∈ dockerOps := by
  by_contra hop
  simp only [dockerOps, List.map_cons, List.map_nil, List.mem_cons, List.not_mem_nil, or_false,
    not_or] at hop
  simp [dockerOperation, hop] at h

/-- The agent runs no operation of the proxy itself. -/
theorem readOperation_dockerOps {x : AgentOperation} (h : x.op ∈ dockerOps) (o : ReadOperation) :
    readOperation x ≠ .ok o := by
  simp only [dockerOps, List.map_cons, List.map_nil, List.mem_cons, List.not_mem_nil,
    or_false] at h
  obtain h | h | h | h | h := h <;> simp +decide [readOperation, unsupported, h]

theorem not_overAgent_of_dockerOperation {argv argv' : List JsString} {x : AgentOperation}
    {o : DockerOperation} (hx : argvToAgentOperation argv = .ok x) (ho : dockerOperation x = .ok o) :
    overAgent argv ≠ .ok argv' := by
  intro h
  rw [overAgent, hx, ok_bind] at h
  obtain ⟨o', ho', -⟩ := operationArgv_eq_ok h
  exact readOperation_dockerOps (op_mem_of_dockerOperation ho) o' ho'

theorem isMutating_of_op_mem {x : AgentOperation} (h : x.op ∈ dockerOps) :
    (TargetRequest.operation x).isMutating = true := by
  have hall : ∀ op ∈ dockerOps, isMutatingOperation op = true := by decide
  exact hall _ h

/-- A granted operation of the proxy is read as it is written. -/
theorem request_of_granted {t : TargetConfig} {x : AgentOperation} {o : DockerOperation}
    (hgrants : Grants t (.operation x)) (ho : dockerOperation x = .ok o) :
    o.request = .operation x := by
  have hop := op_mem_of_dockerOperation ho
  have hpaperclip : ∀ op ∈ dockerOps, startsWith op (js "paperclip.") = false := by decide
  have hother : ∀ op ∈ [js "process.start", js "process.input", js "process.kill",
      js "openhands.start", js "openhands.stop", js "host.managed_admin", js "workspace.mkdir",
      js "workspace.write", js "workspace.edit", js "workspace.move"], op ∉ dockerOps := by decide
  have hworkspace : ∀ op : WorkspaceOp, op.text ∉ dockerOps := by
    intro op
    cases op <;> exact hother _ (by simp [WorkspaceOp.text])
  cases hgrants with
  | imageLoad _ _ _ => exact dockerOperation_imageLoad ho
  | candidateRun _ _ _ _ _ _ _ => exact dockerOperation_candidateRun ho
  | candidateRemove _ _ _ => exact dockerOperation_candidateRemove ho
  | workspace _ _ => exact absurd hop (hworkspace _)
  | processStart _ _ _ => exact absurd hop (hother _ (by simp))
  | process _ hsession =>
      obtain rfl | rfl := hsession
      · exact absurd hop (hother _ (by simp))
      · exact absurd hop (hother _ (by simp))
  | paperclip _ _ hpap => exact absurd ((hpaperclip _ hop).symm.trans hpap) Bool.false_ne_true
  | openhands _ _ hopenhands =>
      obtain rfl | rfl := hopenhands
      · exact absurd hop (hother _ (by simp))
      · exact absurd hop (hother _ (by simp))
  | managedAdmin _ _ _ _ _ => exact absurd hop (hother _ (by simp))

theorem isMutatingCommand_of_docker {argv : List JsString} (h : isDockerOperation argv = true) :
    isMutatingCommand argv = true := by
  have hverbs : ∀ verb ∈ js "exec" :: dockerActions, verb ∉ dockerReads := by decide
  match argv with
  | [] => cases h
  | [_] => cases h
  | program :: verb :: rest =>
      rw [isDockerOperation, Bool.and_eq_true, decide_eq_true_eq, decide_eq_true_eq] at h
      simp [isMutatingCommand, h.1, hverbs verb h.2]

/-- A Docker command of a tool for the proxy has one of two forms. -/
theorem ToolCommand.request_of_docker {settings : ToolSettings} {t : TargetConfig}
    {args : List (JsString × Json)} {past : SentExchanges} {argv : List JsString}
    (h : ToolCommand settings t args past argv) (hdocker : isDockerOperation argv = true)
    {x : AgentOperation} {o : DockerOperation} (hx : argvToAgentOperation argv = .ok x)
    (ho : dockerOperation x = .ok o) : o.request = .exec argv := by
  have hfixedOther : ∀ argv ∈ fixedCommands, isDockerOperation argv = false := by decide
  have hinspect : js "inspect" ∉ js "exec" :: dockerActions := by decide
  have hlogs : js "logs" ∉ js "exec" :: dockerActions := by decide
  cases h with
  | fixed hfixed => exact absurd ((hfixedOther _ hfixed).symm.trans hdocker) (by decide)
  | dockerHealth _ => simp [isDockerOperation, hinspect] at hdocker
  | dockerInspect _ => simp [isDockerOperation, hinspect] at hdocker
  | dockerLogs _ _ => simp [isDockerOperation, hlogs] at hdocker
  | dockerAction haction _ =>
      obtain rfl := argvToAgentOperation_lifecycle haction hx
      exact dockerOperation_lifecycle ho
  | dockerExec _ _ =>
      obtain rfl := argvToAgentOperation_exec hx
      exact dockerOperation_exec ho
  | serviceStatus _ => cases hdocker
  | serviceLogs _ _ => cases hdocker
  | serviceAction _ _ => cases hdocker
  | realpath _ => cases hdocker
  | list _ _ => cases hdocker
  | size _ _ => cases hdocker
  | head _ _ _ => cases hdocker
  | git _ _ _ => cases hdocker

section Calls

variable {c : Invocation} {w : ToolWorld} {past : SentExchanges} {batch : List Sent} {s : Sent}

/-- What the agent makes of a request for the proxy is the request. -/
theorem request_of_sent (hasks : Program.Asks (c.run w) past batch) (hs : s ∈ batch)
    {x : AgentOperation} {o : DockerOperation} (hx : s.request.agentOperation = .ok x)
    (ho : dockerOperation x = .ok o) :
    o.request = s.request ∧ s.request.isMutating = true := by
  have hsends : ToolSends w.settings s.target c.args past s.request := callSends hasks hs
  have hrespects : Authorized w s := Program.Only.asks (sendsOnly_run c w) hasks s hs
  obtain ⟨t, request⟩ := s
  cases request with
  | operation y =>
      obtain rfl : y = x := Except.ok.inj hx
      have hmutating := isMutating_of_op_mem (op_mem_of_dockerOperation ho)
      exact ⟨request_of_granted (hrespects.granted hmutating) ho, hmutating⟩
  | exec argv =>
      cases hsends with
      | command hcommand =>
          cases hdocker : isDockerOperation argv with
          | false =>
              obtain hover | ⟨e, he, -⟩ := hcommand.sameOverAgent hdocker
              · exact absurd hover (not_overAgent_of_dockerOperation hx ho)
              · cases hx.symm.trans he
          | true =>
              exact ⟨hcommand.request_of_docker hdocker hx ho, isMutatingCommand_of_docker hdocker⟩

theorem dockerOperatorPost_eq_ok {dockerHost : Option JsString} {x : AgentOperation}
    {post : ProxyPost} (h : dockerOperatorPost dockerHost x = .ok post) :
    ∃ o, dockerOperation x = .ok o ∧ o.post = .ok post := by
  unfold dockerOperatorPost at h
  split_ifs at h
  exact bind_eq_ok h

/-- Whatever was answered, when a call sends a request that its agent posts to the Docker proxy, the
daemon is asked to change only what the request stands for, and the target grants the request. -/
theorem docker_acts {cfg : ProxyConfig} {host : ProxyHost} {routes : SemanticRoutes}
    {dockerHost : Option JsString} {x : AgentOperation} {post : ProxyPost} {asked : Exchanges}
    {call : DockerCall} (hasks : Program.Asks (c.run w) past batch) (hs : s ∈ batch)
    (hx : s.request.agentOperation = .ok x) (hpost : dockerOperatorPost dockerHost x = .ok post)
    (hp : host.platform.Lawful) (hcall : (handle cfg host routes post.request).Asks asked call)
    (hmutating : call.isMutating = true) :
    Grants s.target s.request ∧ ∃ o, o.request = s.request ∧ DockerAct host asked o call := by
  obtain ⟨o, ho, hposted⟩ := dockerOperatorPost_eq_ok hpost
  obtain ⟨hrequest, hchanges⟩ := request_of_sent hasks hs hx ho
  have hauthorized : Authorized w s := Program.Only.asks (sendsOnly_run c w) hasks s hs
  have hacts : ActsAs host o ([] ++ asked) call :=
    Program.asks_of_wp (acts_handle hp hposted) hcall
  exact ⟨hauthorized.granted hchanges, o, hrequest, hacts hmutating⟩

theorem docker_acts_start :
    Grants opsTarget (.exec [js "docker", js "start", js "cafe"]) ∧
      ∃ o : DockerOperation, o.request = .exec [js "docker", js "start", js "cafe"] ∧
        DockerAct sampleHost [] o (.lifecycle (js "cafe") (js "start")) := by
  have hasks : Program.Asks
      ((opsCall (.request .dockerAction) [(js "container", .str (js "cafe")),
        (js "action", .str (js "start"))]).run opsWorld) []
      [⟨opsTarget, .exec [js "docker", js "start", js "cafe"]⟩] := Eq.refl _
  have hx : (TargetRequest.exec [js "docker", js "start", js "cafe"]).agentOperation =
      .ok ⟨js "docker.action",
        [(js "action", .str (js "start")), (js "container", .str (js "cafe"))]⟩ := rfl
  have hpost : dockerOperatorPost (some (js "tcp://127.0.0.1:23751")) ⟨js "docker.action",
      [(js "action", .str (js "start")), (js "container", .str (js "cafe"))]⟩ =
      .ok ⟨js "/ops/containers/cafe/start", []⟩ := rfl
  have hcall : (handle (sampleProxy [js "start"] (by decide)) sampleHost sampleRoutes
      (ProxyPost.request ⟨js "/ops/containers/cafe/start", []⟩)).Asks []
        (.lifecycle (js "cafe") (js "start")) := by
    decide +kernel
  exact docker_acts hasks (List.mem_singleton_self _) hx hpost samplePlatform_lawful hcall rfl

end Calls

end RemoteOps

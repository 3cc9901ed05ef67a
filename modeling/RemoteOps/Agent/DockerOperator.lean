import RemoteOps.Agent.Operations
import RemoteOps.Docker.References
import RemoteOps.Ecma.PercentText

/-!
# Docker operations

The agent hands the operations that change containers to the Docker proxy of its host:
`dockerOperatorPost` is what it posts there, and the proxy reads the post and asks the daemon.
`DockerAct` says which requests to the daemon an operation stands for. The proxy makes no other
request that changes anything (`acts_handle`).
-/

namespace RemoteOps

open Ecma Transition

/-! ## What the agent posts -/

def safeImageRef (value : Option Json) : Except String JsString := do
  let s ← textOf value
  if matchesHeadTail isAlnum (fun u => isAlnum u || isOneOf "_./:@+-" u) 0 199 s then .ok s
  else .error "invalid_image_ref"

def safePort (value : Option Json) : Except String (Count 65535) :=
  safeCount 65535 "invalid_port" value

theorem ports_inRange : 65535 < 2 ^ 53 := by decide

/-- The operations of the Docker proxy, with what is posted of their arguments. -/
inductive DockerOperation where
  | exec (container : AgentId) (program : JsString) (argv : List JsString)
  | lifecycle (container : AgentId) (action : OneOf dockerActions)
  | imageLoad (path : AgentPath)
  | candidateRun (name : AgentId) (image : JsString) (network : AgentId)
      (hostPort containerPort : Count 65535)
  | candidateRemove (name : AgentId)

/-- The checks of `executeDockerOperatorOperation`, in the order in which it makes them. -/
def dockerOperation (x : AgentOperation) : Except String DockerOperation :=
  let op (name : String) : Bool := x.op = js name
  let a (key : String) : Option Json := lookup (js key) x.args
  if op "docker.exec" then do
    return .exec (← safeId (a "container")) (← safeProgram (a "program")) (← safeArgv (a "argv"))
  else if op "docker.action" then do
    return .lifecycle (← safeId (a "container")) (← safeDockerAction (a "action"))
  else if op "docker.image_load" then do return .imageLoad (← safePath (a "path"))
  else if op "docker.candidate_run" then do
    return .candidateRun (← safeId (a "name")) (← safeImageRef (a "image"))
      (← safeId (a "network")) (← safePort (a "hostPort")) (← safePort (a "containerPort"))
  else if op "docker.candidate_remove" then do return .candidateRemove (← safeId (a "name"))
  else .error "unsupported_docker_operator_operation"

/-- The path and the body of a post to the proxy. -/
structure ProxyPost where
  path : JsString
  body : List (JsString × Json)

/-- `encodeURIComponent(id)`. -/
def componentOf (id : AgentId) : Except String JsString :=
  match encodeURIComponent id.1 with
  | some component => .ok component
  | none => .error "URI malformed"

def DockerOperation.post : DockerOperation → Except String ProxyPost
  | .exec container program argv => do
      let component ← componentOf container
      return ⟨js "/ops/containers/" ++ component ++ js "/exec",
        [(js "program", .str program), (js "argv", .arr (argv.map .str))]⟩
  | .lifecycle container action => do
      let component ← componentOf container
      return ⟨js "/ops/containers/" ++ component ++ (js "/" ++ action.1), []⟩
  | .imageLoad path => .ok ⟨js "/ops/images/load", [(js "path", .str path.1)]⟩
  | .candidateRun name image network hostPort containerPort =>
      .ok ⟨js "/ops/candidates/run",
        [(js "name", .str name.1), (js "image", .str image), (js "network", .str network.1),
          (js "hostPort", hostPort.toJson ports_inRange),
          (js "containerPort", containerPort.toJson ports_inRange)]⟩
  | .candidateRemove name => do
      let component ← componentOf name
      return ⟨js "/ops/candidates/" ++ component ++ js "/remove", []⟩

/-- `executeDockerOperatorOperation`, as far as the post. -/
def dockerOperatorPost (dockerHost : Option JsString) (x : AgentOperation) :
    Except String ProxyPost :=
  if dockerHost ≠ some (js "tcp://127.0.0.1:23751") then .error "docker_read_proxy_required"
  else do (← dockerOperation x).post

/-- The post as the proxy receives it: the path has no character that a URL would change. -/
def ProxyPost.request (post : ProxyPost) : HttpRequest where
  method := js "POST"
  url := some ⟨post.path, [], []⟩
  body := some (textBytes (Json.obj post.body).stringify)

/-! ## What the proxy is to do -/

/-- What changes something at the daemon. -/
def DockerCall.isMutating : DockerCall → Bool
  | lifecycle _ _ | loadImage _ | create _ | startCandidate _ | removeCandidate _ | cleanup _
  | execCreate _ _ | execStart _ => true
  | ping | version | list _ | inspect _ | logs _ _ | execInspect _ => false

def candidateOf (name : AgentId) (image : JsString) (network : AgentId)
    (hostPort containerPort : Count 65535) : CandidateSpec :=
  ⟨name.1, image, network.1, hostPort.1.toNat, containerPort.1.toNat⟩

/-- A request to the daemon that an operation stands for. The ids of a start and of a clean-up are
those that the daemon has reported for what was created just before. -/
inductive DockerAct (host : ProxyHost) (past : Exchanges) : DockerOperation → DockerCall → Prop
  | execCreate {container : AgentId} {program : JsString} {argv : List JsString} :
      DockerAct host past (.exec container program argv)
        (.execCreate container.1 { cmd := program :: argv })
  | execStart {container : AgentId} {program : JsString} {argv : List JsString}
      {response : DockerResponse}
      (hcreated : (DockerCall.execCreate container.1 { cmd := program :: argv },
        Except.ok response) ∈ past) :
      DockerAct host past (.exec container program argv)
        (.execStart (reportedId host response.body))
  | lifecycle {container : AgentId} {action : OneOf dockerActions} :
      DockerAct host past (.lifecycle container action) (.lifecycle container.1 action.1)
  | loadImage {path : AgentPath} {real : JsString} (hreal : host.realpath path.1 = some real) :
      DockerAct host past (.imageLoad path) (.loadImage real)
  | create {name network : AgentId} {image : JsString} {hostPort containerPort : Count 65535} :
      DockerAct host past (.candidateRun name image network hostPort containerPort)
        (.create (candidateOf name image network hostPort containerPort))
  | startCandidate {name network : AgentId} {image : JsString} {hostPort containerPort : Count 65535}
      {response : DockerResponse}
      (hcreated : (DockerCall.create (candidateOf name image network hostPort containerPort),
        Except.ok response) ∈ past) :
      DockerAct host past (.candidateRun name image network hostPort containerPort)
        (.startCandidate (reportedId host response.body))
  | cleanup {name network : AgentId} {image : JsString} {hostPort containerPort : Count 65535}
      {response : DockerResponse}
      (hcreated : (DockerCall.create (candidateOf name image network hostPort containerPort),
        Except.ok response) ∈ past) :
      DockerAct host past (.candidateRun name image network hostPort containerPort)
        (.cleanup (reportedId host response.body))
  | removeCandidate {name : AgentId} :
      DockerAct host past (.candidateRemove name) (.removeCandidate name.1)

/-- What changes something is what the operation stands for. -/
def ActsAs (host : ProxyHost) (o : DockerOperation) (past : Exchanges) (call : DockerCall) : Prop :=
  call.isMutating = true → DockerAct host past o call

/-! ## What the proxy reads -/

section Reading

variable {host : ProxyHost}

/-- The proxy reads the body that was posted. -/
theorem readPayload_request (hp : host.platform.Lawful) {post : ProxyPost}
    (hnormal : (Json.obj post.body).Normal) {payload : Json}
    (h : readPayload host post.request = .ok payload) : payload = .obj post.body := by
  have htext : host.platform.fromUtf8 (textBytes (Json.obj post.body).stringify) =
      (Json.obj post.body).stringify := hp.fromUtf8_textBytes _
  have hparse := parse_stringify (Json.obj post.body) hnormal
  have hempty : (Json.obj post.body).stringify.isEmpty = false := by
    rw [Json.stringify]
    rfl
  unfold readPayload readJson readBody ProxyPost.request refuse at h
  dsimp only at h
  by_cases hlarge : bodyLimit < (textBytes (Json.obj post.body).stringify).size
  · rw [if_pos hlarge] at h
    cases h
  · rw [if_neg hlarge] at h
    simp only [htext, hempty, Bool.false_eq_true, if_false, hparse] at h
    exact (Except.ok.inj h).symm

theorem componentOf_eq_ok {id : AgentId} {component : JsString} (h : componentOf id = .ok component) :
    encodeURIComponent id.1 = some component := by
  unfold componentOf at h
  split at h
  · next hsome => rw [hsome, Except.ok.inj h]
  · cases h

theorem cleanContainerRef_component {id : AgentId} {component ref : JsString}
    (h : componentOf id = .ok component) (href : cleanContainerRef component = some ref) :
    ref = id.1 := by
  have hread := decodeURIComponent_encodeURIComponent (componentOf_eq_ok h)
  simp only [cleanContainerRef, hread] at href
  split_ifs at href
  exact (Option.some.inj href).symm

/-- A text without an escape is read as it is. -/
theorem decodeURIComponent_of_plain {t : JsString} (h : unit '%' ∉ t) :
    decodeURIComponent t = some t := by
  have hread (fuel : ℕ) (hfuel : t.length ≤ fuel) : decodeUnits fuel t = some t := by
    induction t generalizing fuel with
    | nil => cases fuel <;> rfl
    | cons u t ih =>
        rw [List.mem_cons, not_or] at h
        obtain ⟨n, rfl⟩ : ∃ n, fuel = n + 1 := ⟨fuel - 1, by simp at hfuel; omega⟩
        rw [decodeUnits, if_pos (Ne.symm h.1), ih h.2 n (by simpa using hfuel)]
        rfl
  exact hread t.length le_rfl

theorem percent_notMem (id : AgentId) : unit '%' ∉ id.1 := by
  intro hmem
  have hid := id.2
  unfold isAgentId at hid
  cases hs : id.1 with
  | nil =>
      rw [hs] at hmem
      cases hmem
  | cons u s =>
      rw [hs, matchesHeadTail, Bool.and_eq_true, matchesClass_iff] at hid
      rw [hs] at hmem
      obtain hu | hu := List.mem_cons.mp hmem
      · rw [← hu] at hid
        exact absurd hid.1 (by decide)
      · exact absurd (hid.2.1 _ hu) (by decide)

theorem cleanContainerRef_id {id : AgentId} {ref : JsString}
    (h : cleanContainerRef id.1 = some ref) : ref = id.1 := by
  simp only [cleanContainerRef, decodeURIComponent_of_plain (percent_notMem id)] at h
  split_ifs at h
  exact (Option.some.inj h).symm

theorem cleanArgList_strings {argv argv' : List JsString}
    (h : cleanArgList (argv.map Json.str) = .ok (some argv')) : argv' = argv := by
  induction argv generalizing argv' with
  | nil =>
      cases h
      rfl
  | cons s argv ih =>
      obtain ⟨text, htext, h⟩ := bind_eq_ok h
      obtain rfl := Except.ok.inj htext
      split_ifs at h
      · obtain ⟨rest, hrest, hend⟩ := bind_eq_ok h
        cases rest with
        | none => cases hend
        | some rest => rw [← Option.some.inj (Except.ok.inj hend), ih hrest]
      · cases h

theorem cleanPort_number {n : Count 65535} {port : ℕ}
    (h : cleanPort (n.number ports_inRange) = some port) : port = n.1.toNat := by
  rw [cleanPort, Count.number, JsNumber.toInt?_ofInt] at h
  dsimp only at h
  split_ifs at h
  exact (Option.some.inj h).symm

theorem checkExec_post (hp : host.platform.Lawful) {path program : JsString}
    {argv : List JsString} {cfg : ProxyConfig} {spec : ExecSpec}
    (h : checkExec cfg host (ProxyPost.request ⟨path,
      [(js "program", .str program), (js "argv", .arr (argv.map .str))]⟩) = .ok spec) :
    spec = { cmd := program :: argv } := by
  have hnormal : (Json.obj [(js "program", .str program), (js "argv", .arr (argv.map .str))]).Normal := by
    have hargv : NormalElements (argv.map Json.str) :=
      normalElements_map (f := Json.str) (fun _ => trivial) argv
    refine ⟨⟨trivial, hargv, trivial⟩, ?_⟩
    exact fromEntries_eq_self (by simp [show js "program" ≠ js "argv" by decide])
      (by simpa using ⟨by decide, by decide⟩)
  obtain ⟨payload, hpayload, h⟩ := bind_eq_ok h
  obtain rfl := readPayload_request hp hnormal hpayload
  obtain ⟨program', hprogram, h⟩ := bind_eq_ok h
  obtain rfl := Except.ok.inj hprogram
  obtain ⟨argv', hargv, h⟩ := bind_eq_ok h
  have hlist : Json.get (.obj [(js "program", .str program), (js "argv", .arr (argv.map .str))])
      (js "argv") = some (.arr (argv.map .str)) := rfl
  rw [hlist] at hargv
  have hargv' (argv'' : List JsString) (h : argv' = some argv'') : argv'' = argv := by
    rw [h, cleanArgs] at hargv
    split_ifs at hargv
    · cases hargv
    · exact cleanArgList_strings hargv
  split at h
  · next _ _ program' argv'' hclean =>
    split_ifs at h
    · obtain rfl := Except.ok.inj h
      rw [cleanProgram] at hclean
      split_ifs at hclean
      rw [← Option.some.inj hclean, hargv' argv'' rfl]
    · cases h
  · cases h

theorem normal_candidateBody (name image network : JsString) (hostPort containerPort : Count 65535) :
    (Json.obj [(js "name", .str name), (js "image", .str image), (js "network", .str network),
      (js "hostPort", hostPort.toJson ports_inRange),
      (js "containerPort", containerPort.toJson ports_inRange)]).Normal := by
  refine ⟨⟨trivial, trivial, trivial, ⟨_, rfl⟩, ⟨_, rfl⟩, trivial⟩, ?_⟩
  refine fromEntries_eq_self ?_ ?_
  · show [js "name", js "image", js "network", js "hostPort", js "containerPort"].Nodup
    decide
  · show ∀ key ∈ [js "name", js "image", js "network", js "hostPort", js "containerPort"],
      isIndexKey key = none
    decide

theorem checkCandidateRun_post (hp : host.platform.Lawful) {path image : JsString}
    {name network : AgentId} {hostPort containerPort : Count 65535} {cfg : ProxyConfig}
    {spec : CandidateSpec}
    (h : checkCandidateRun cfg host (ProxyPost.request ⟨path,
      [(js "name", .str name.1), (js "image", .str image), (js "network", .str network.1),
        (js "hostPort", hostPort.toJson ports_inRange),
        (js "containerPort", containerPort.toJson ports_inRange)]⟩) = .ok spec) :
    spec = candidateOf name image network hostPort containerPort := by
  obtain ⟨-, -, h⟩ := bind_eq_ok h
  obtain ⟨payload, hpayload, h⟩ := bind_eq_ok h
  obtain rfl := readPayload_request hp
    (normal_candidateBody name.1 image network.1 hostPort containerPort) hpayload
  obtain ⟨text, htext, h⟩ := bind_eq_ok h
  obtain rfl := Except.ok.inj htext
  obtain ⟨text, htext, h⟩ := bind_eq_ok h
  obtain rfl := Except.ok.inj htext
  obtain ⟨text, htext, h⟩ := bind_eq_ok h
  obtain rfl := Except.ok.inj htext
  obtain ⟨port, hport, h⟩ := bind_eq_ok h
  obtain rfl := Except.ok.inj hport
  obtain ⟨port, hport, h⟩ := bind_eq_ok h
  obtain rfl := Except.ok.inj hport
  obtain ⟨name', hname, h⟩ := bind_eq_ok h
  obtain ⟨image', himage, h⟩ := bind_eq_ok h
  obtain ⟨network', hnetwork, h⟩ := bind_eq_ok h
  obtain ⟨hostPort', hhostPort, h⟩ := bind_eq_ok h
  obtain ⟨containerPort', hcontainerPort, h⟩ := bind_eq_ok h
  obtain rfl := Except.ok.inj h
  have himage' : image' = image := by
    have hclean := (orRefuse_eq_ok himage).1
    rw [cleanImageRef] at hclean
    split_ifs at hclean
    exact (Option.some.inj hclean).symm
  rw [candidateOf, cleanContainerRef_id (orRefuse_eq_ok hname).1, himage',
    cleanContainerRef_id (orRefuse_eq_ok hnetwork).1, cleanPort_number (orRefuse_eq_ok hhostPort).1,
    cleanPort_number (orRefuse_eq_ok hcontainerPort).1]

theorem checkImageLoad_post (hp : host.platform.Lawful) {path raw filePath : JsString}
    {cfg : ProxyConfig}
    (h : checkImageLoad cfg host (ProxyPost.request ⟨path, [(js "path", .str raw)]⟩) =
      .ok filePath) : host.realpath raw = some filePath := by
  have hnormal : (Json.obj [(js "path", .str raw)]).Normal :=
    ⟨⟨trivial, trivial⟩, fromEntries_eq_self (by simp) (by simpa using by decide)⟩
  obtain ⟨-, -, h⟩ := bind_eq_ok h
  obtain ⟨payload, hpayload, h⟩ := bind_eq_ok h
  obtain rfl := readPayload_request hp hnormal hpayload
  obtain ⟨text, htext, h⟩ := bind_eq_ok h
  obtain rfl := Except.ok.inj htext
  exact (cleanAllowedLoadPath_eq_some (orRefuse_eq_ok h).1).1

theorem component_ne_nil {id : AgentId} {component : JsString}
    (h : componentOf id = .ok component) : component ≠ [] := by
  rintro rfl
  have hread := decodeURIComponent_encodeURIComponent (componentOf_eq_ok h)
  have hnil : id.1 = [] := (Option.some.inj hread).symm
  have hid := id.2
  rw [hnil] at hid
  cases hid

end Reading

/-! ## Routes -/

section Routes

variable {cfg : ProxyConfig} {host : ProxyHost} {routes : SemanticRoutes}

/-- A path of two segments behind `/ops/family`. -/
structure OpsPath (path family component tail : JsString) : Prop where
  segments : pathSegments path = [[], js "ops", family, component, tail]
  start : startsWith path (js "/v") = false

theorem opsPath {path family component tail : JsString} (hfamily : unit '/' ∉ family)
    (hcomponent : unit '/' ∉ component) (htail : unit '/' ∉ tail)
    (hpath : path = js "/ops" ++ unit '/' :: (family ++ unit '/' :: (component ++ unit '/' :: tail))) :
    OpsPath path family component tail := by
  have hops : pathSegments (js "/ops") = [[], js "ops"] := by decide
  have hone {s : JsString} (h : unit '/' ∉ s) : pathSegments s = [s] := splitUnit_of_notMem h
  have hslash (s t : JsString) : pathSegments (s ++ unit '/' :: t) =
      pathSegments s ++ pathSegments t := splitUnit_append_separator (unit '/') s t
  subst hpath
  refine ⟨?_, rfl⟩
  rw [hslash, hslash, hslash, hops, hone hfamily, hone hcomponent, hone htail]
  rfl

theorem stripApiVersion_of_start {path : JsString} (h : startsWith path (js "/v") = false)
    (hne : path ≠ []) : stripApiVersion path = path := by
  unfold stripApiVersion
  rw [h, Bool.false_and, if_neg Bool.false_ne_true]
  exact if_neg hne

/-- The paths of four segments that the proxy compares as a whole. -/
theorem fixedPath_length : ∀ path ∈ [postgresPath, js "/ops/images/load", js "/ops/candidates/run"] ++
    paperclipOperations.map paperclipPath, (pathSegments path).length = 4 := by
  decide

theorem OpsPath.ne_fixed {path path' family component tail : JsString}
    (h : OpsPath path family component tail)
    (hmem : path' ∈ [postgresPath, js "/ops/images/load", js "/ops/candidates/run"] ++
      paperclipOperations.map paperclipPath) : path ≠ path' := by
  rintro rfl
  have hlength := fixedPath_length _ hmem
  rw [h.segments] at hlength
  cases hlength

/-- Such a path reaches the routes that are told apart by their segments. -/
theorem handle_opsPath {post : ProxyPost} {family component tail : JsString}
    (h : OpsPath post.path family component tail) {program : Proxy HttpReply}
    (hroute : handleOperator cfg host post.request post.path = some program) :
    handle cfg host routes post.request = program := by
  have hne : post.path ≠ [] := by
    intro hnil
    have hsegments := h.segments
    rw [hnil] at hsegments
    revert hsegments
    simp [pathSegments, splitUnit]
  have hpath : requestPath post.request = post.path := stripApiVersion_of_start h.start hne
  have hpaperclip : (paperclipOperations.find? fun op => post.path = paperclipPath op) = none := by
    rw [List.find?_eq_none]
    intro op hop
    rw [decide_eq_true_eq]
    exact h.ne_fixed (List.mem_append_right _ (List.mem_map_of_mem hop))
  have hpostgres : post.path ≠ postgresPath := h.ne_fixed (by simp)
  have hurl : post.request.url = some ⟨post.path, [], []⟩ := rfl
  simp only [handle, hurl, hpath, if_neg hpostgres, hpaperclip, hroute]

theorem matchRoute_opsPath {path family component tail : JsString}
    (h : OpsPath path family component tail) (hne : component ≠ []) (family' : String)
    (tails : List String) :
    matchRoute ["ops", family'] tails path =
      if js family' = family ∧ tail ∈ tails.map js then some (component, tail) else none := by
  unfold matchRoute
  rw [h.segments]
  simp only [List.length_cons, List.length_nil, List.drop_succ_cons, List.drop_zero,
    List.take_succ_cons, List.take_zero, List.map_cons, List.map_nil, List.cons.injEq, true_and,
    and_true, hne, ne_eq, not_false_eq_true]
  by_cases hfamily : js family' = family
  · simp [hfamily]
  · simp [hfamily, Ne.symm hfamily]

theorem handleOperator_opsPath {path family component tail : JsString} {req : HttpRequest}
    (h : OpsPath path family component tail) (hne : component ≠ []) :
    handleOperator cfg host req path =
      if js "candidates" = family ∧ tail ∈ ["remove"].map js then
        some (removeCandidate cfg component req)
      else if js "containers" = family ∧ tail ∈ ["exec"].map js then
        some (execInContainer cfg host component req)
      else if js "containers" = family ∧ tail ∈ ["start", "stop", "restart"].map js then
        some (lifecycleAction cfg host component tail req)
      else none := by
  have hload : path ≠ js "/ops/images/load" := h.ne_fixed (by simp)
  have hrun : path ≠ js "/ops/candidates/run" := h.ne_fixed (by simp)
  unfold handleOperator
  rw [if_neg hload, if_neg hrun, matchRoute_opsPath h hne, matchRoute_opsPath h hne,
    matchRoute_opsPath h hne]
  split_ifs <;> rfl

theorem opsPath_exec {id : AgentId} {component : JsString} (h : componentOf id = .ok component) :
    OpsPath (js "/ops/containers/" ++ component ++ js "/exec") (js "containers") component
      (js "exec") := by
  have hhead : js "/ops/containers/" = js "/ops" ++ unit '/' :: (js "containers" ++ [unit '/']) := by
    decide
  have htail : js "/exec" = unit '/' :: js "exec" := by decide
  refine opsPath (by decide) (slash_notMem_encodeURIComponent (componentOf_eq_ok h)) (by decide) ?_
  rw [hhead, htail]
  simp

theorem opsPath_lifecycle {id : AgentId} {component : JsString} (h : componentOf id = .ok component)
    (action : OneOf dockerActions) :
    OpsPath (js "/ops/containers/" ++ component ++ (js "/" ++ action.1)) (js "containers") component
      action.1 := by
  have hhead : js "/ops/containers/" = js "/ops" ++ unit '/' :: (js "containers" ++ [unit '/']) := by
    decide
  have htail : js "/" = [unit '/'] := by decide
  have haction : ∀ w ∈ dockerActions, unit '/' ∉ w := by decide
  refine opsPath (by decide) (slash_notMem_encodeURIComponent (componentOf_eq_ok h))
    (haction _ action.2) ?_
  rw [hhead, htail]
  simp

theorem opsPath_remove {id : AgentId} {component : JsString} (h : componentOf id = .ok component) :
    OpsPath (js "/ops/candidates/" ++ component ++ js "/remove") (js "candidates") component
      (js "remove") := by
  have hhead : js "/ops/candidates/" = js "/ops" ++ unit '/' :: (js "candidates" ++ [unit '/']) := by
    decide
  have htail : js "/remove" = unit '/' :: js "remove" := by decide
  refine opsPath (by decide) (slash_notMem_encodeURIComponent (componentOf_eq_ok h)) (by decide) ?_
  rw [hhead, htail]
  simp

/-- The two posts whose path is compared as a whole. -/
theorem handle_fixedPath {body : List (JsString × Json)} :
    handle cfg host routes (ProxyPost.request ⟨js "/ops/images/load", body⟩) =
        loadImage cfg host (ProxyPost.request ⟨js "/ops/images/load", body⟩) ∧
      handle cfg host routes (ProxyPost.request ⟨js "/ops/candidates/run", body⟩) =
        runCandidate cfg host (ProxyPost.request ⟨js "/ops/candidates/run", body⟩) := by
  have hpath : ∀ path ∈ [js "/ops/images/load", js "/ops/candidates/run"],
      stripApiVersion path = path ∧ path ≠ postgresPath ∧
        (paperclipOperations.find? fun op => path = paperclipPath op) = none := by
    decide
  have hreq (path : JsString) : requestPath (ProxyPost.request ⟨path, body⟩) = stripApiVersion path :=
    rfl
  obtain ⟨hstrip, hpostgres, hpaperclip⟩ := hpath _ List.mem_cons_self
  obtain ⟨hstrip', hpostgres', hpaperclip'⟩ := hpath (js "/ops/candidates/run") (by simp)
  have hrun : js "/ops/candidates/run" ≠ js "/ops/images/load" := by decide
  constructor
  · simp only [handle, ProxyPost.request] at hreq ⊢
    simp only [hreq, hstrip, if_neg hpostgres, hpaperclip, handleOperator, if_true]
  · simp only [handle, ProxyPost.request] at hreq ⊢
    simp only [hreq, hstrip', if_neg hpostgres', hpaperclip', handleOperator, if_neg hrun, if_true]

end Routes

/-! ## What the proxy does -/

section Acts

variable {cfg : ProxyConfig} {host : ProxyHost} {routes : SemanticRoutes} {o : DockerOperation}
  {past : Exchanges}

theorem actsAs_reading {call : DockerCall} (h : call.isMutating = false) :
    ActsAs host o past call := by
  intro hmutating
  rw [h] at hmutating
  cases hmutating

/-- A reference that is resolved is the one that was cleaned. -/
theorem acts_resolve {rawRef : JsString} {scope : List JsString}
    {k : Option JsString → Proxy HttpReply}
    (hnone : ∀ past', Obeys (ActsAs host o) (k none) past')
    (hsome : ∀ past' ref, cleanContainerRef rawRef = some ref →
      Obeys (ActsAs host o) (k (some ref)) past') :
    Obeys (ActsAs host o) (resolveAllowedContainerRef host rawRef scope k) past := by
  unfold resolveAllowedContainerRef
  cases href : cleanContainerRef rawRef with
  | none => exact hnone past
  | some ref =>
      dsimp only
      split_ifs
      · exact hsome past ref href
      · exact hnone past
      · refine obeys_dockerRequest.mpr ⟨actsAs_reading rfl, fun response => ?_⟩
        refine obeys_run.mpr fun found _ => ?_
        cases found with
        | false => exact hnone _
        | true => exact hsome _ ref href

theorem acts_execInContainer (hp : host.platform.Lawful) {container : AgentId}
    {component path program : JsString} {argv : List JsString}
    (hcomponent : componentOf container = .ok component) :
    Obeys (ActsAs host (.exec container program argv))
      (execInContainer cfg host component (ProxyPost.request ⟨path,
        [(js "program", .str program), (js "argv", .arr (argv.map .str))]⟩)) [] := by
  refine obeys_run.mpr fun _ _ => acts_resolve (fun _ => trivial) fun past ref href => ?_
  refine obeys_run.mpr fun ref' href' => obeys_run.mpr fun spec hspec => ?_
  obtain rfl := Option.some.inj (orRefuse_eq_ok href').1
  obtain rfl := cleanContainerRef_component hcomponent href
  obtain rfl := checkExec_post hp hspec
  refine obeys_dockerOr.mpr ⟨fun _ => .execCreate, fun created => ?_⟩
  split_ifs
  · trivial
  · trivial
  · refine obeys_dockerOr.mpr ⟨fun _ => .execStart (by simp), fun started => ?_⟩
    split_ifs
    · trivial
    · exact obeys_dockerOr.mpr ⟨actsAs_reading rfl, fun _ => trivial⟩

theorem acts_lifecycleAction {container : AgentId} {action : OneOf dockerActions}
    {component : JsString} {req : HttpRequest}
    (hcomponent : componentOf container = .ok component) :
    Obeys (ActsAs host (.lifecycle container action))
      (lifecycleAction cfg host component action.1 req) [] := by
  refine obeys_run.mpr fun _ _ => ?_
  split_ifs
  · trivial
  · refine acts_resolve (fun _ => trivial) fun past ref href => ?_
    refine obeys_run.mpr fun ref' href' => ?_
    obtain rfl := Option.some.inj (orRefuse_eq_ok href').1
    obtain rfl := cleanContainerRef_component hcomponent href
    refine obeys_dockerRequest.mpr ⟨fun _ => .lifecycle, fun u => ?_⟩
    split_ifs <;> trivial

theorem acts_loadImage (hp : host.platform.Lawful) {path : AgentPath} {url : JsString} :
    Obeys (ActsAs host (.imageLoad path))
      (loadImage cfg host (ProxyPost.request ⟨url, [(js "path", .str path.1)]⟩)) [] := by
  refine obeys_run.mpr fun filePath hfile => ?_
  split_ifs
  · trivial
  · refine obeys_dockerRequest.mpr ⟨fun _ => .loadImage (checkImageLoad_post hp hfile), fun u => ?_⟩
    split_ifs <;> trivial

theorem acts_runCandidate (hp : host.platform.Lawful) {name network : AgentId}
    {image url : JsString} {hostPort containerPort : Count 65535} :
    Obeys (ActsAs host (.candidateRun name image network hostPort containerPort))
      (runCandidate cfg host (ProxyPost.request ⟨url,
        [(js "name", .str name.1), (js "image", .str image), (js "network", .str network.1),
          (js "hostPort", hostPort.toJson ports_inRange),
          (js "containerPort", containerPort.toJson ports_inRange)]⟩)) [] := by
  refine obeys_run.mpr fun spec hspec => ?_
  obtain rfl := checkCandidateRun_post hp hspec
  refine obeys_dockerRequest.mpr ⟨fun _ => .create, fun created => ?_⟩
  split_ifs
  · trivial
  · trivial
  · refine obeys_dockerRequest.mpr ⟨fun _ => .startCandidate (by simp), fun started => ?_⟩
    split_ifs
    · exact ⟨fun _ => .cleanup (by simp), fun _ => trivial⟩
    · trivial

theorem acts_removeCandidate {name : AgentId} {component : JsString} {req : HttpRequest}
    (hcomponent : componentOf name = .ok component) :
    Obeys (ActsAs host (.candidateRemove name)) (removeCandidate cfg component req) [] := by
  refine obeys_run.mpr fun name' hname => ?_
  obtain rfl := cleanContainerRef_component hcomponent (checkCandidateRemove_eq_ok hname).1
  refine obeys_dockerRequest.mpr ⟨fun _ => .removeCandidate, fun u => ?_⟩
  split_ifs <;> trivial

/-- The proxy answers what was posted for an operation by that operation. -/
theorem acts_handle (hp : host.platform.Lawful) {post : ProxyPost} (h : o.post = .ok post) :
    Obeys (ActsAs host o) (handle cfg host routes post.request) [] := by
  cases o with
  | exec container program argv =>
      obtain ⟨component, hcomponent, h⟩ := bind_eq_ok h
      obtain rfl := Except.ok.inj h
      have hpath := opsPath_exec hcomponent
      rw [handle_opsPath hpath ((handleOperator_opsPath hpath (component_ne_nil hcomponent)).trans
        ((if_neg (by decide)).trans (if_pos (by decide))))]
      exact acts_execInContainer hp hcomponent
  | lifecycle container action =>
      obtain ⟨component, hcomponent, h⟩ := bind_eq_ok h
      obtain rfl := Except.ok.inj h
      have hpath := opsPath_lifecycle hcomponent action
      have hexec : ¬(js "containers" = js "containers" ∧ action.1 ∈ ["exec"].map js) := by
        have hwords : ∀ w ∈ dockerActions, w ∉ ["exec"].map js := by decide
        exact fun h => hwords _ action.2 h.2
      rw [handle_opsPath hpath ((handleOperator_opsPath hpath (component_ne_nil hcomponent)).trans
        ((if_neg fun h => absurd h.1 (by decide)).trans
          ((if_neg hexec).trans (if_pos ⟨rfl, action.2⟩))))]
      exact acts_lifecycleAction hcomponent
  | imageLoad path =>
      obtain rfl := Except.ok.inj h
      rw [handle_fixedPath.1]
      exact acts_loadImage hp
  | candidateRun name image network hostPort containerPort =>
      obtain rfl := Except.ok.inj h
      rw [handle_fixedPath.2]
      exact acts_runCandidate hp
  | candidateRemove name =>
      obtain ⟨component, hcomponent, h⟩ := bind_eq_ok h
      obtain rfl := Except.ok.inj h
      have hpath := opsPath_remove hcomponent
      rw [handle_opsPath hpath ((handleOperator_opsPath hpath (component_ne_nil hcomponent)).trans
        (if_pos (by decide)))]
      exact acts_removeCandidate hcomponent

end Acts

end RemoteOps

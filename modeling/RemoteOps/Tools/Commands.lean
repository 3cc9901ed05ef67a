import RemoteOps.Tools.Catalogue

/-!
# The commands that the tools send

`ToolCommand` lists the commands that a call may send, with what the call knows of each of their
arguments when it sends them: an identifier was checked, a path was printed by the target itself for
the path the call was asked for. `SendsAlways` says it of all that a call sends, operations
included, whatever was answered before.
-/

namespace RemoteOps

open Ecma Transition

abbrev SentExchanges : Type := List (List Sent × SentAnswers)

/-! ## What has been seen -/

/-- The target has printed `real` for a path of the call. -/
def ResolvesTo (t : TargetConfig) (past : SentExchanges) (inputPath real : JsString) : Prop :=
  ∃ normalized answers, normalizedPath inputPath = .ok normalized ∧
    ([⟨t, .exec (realpathCommand normalized)⟩], answers) ∈ past ∧ realPathOf (answers 0) = .ok real

theorem ResolvesTo.mono {t : TargetConfig} {past past' : SentExchanges} {inputPath real : JsString}
    (h : ResolvesTo t past inputPath real) (hpast : past <+: past') :
    ResolvesTo t past' inputPath real := by
  obtain ⟨normalized, answers, hnormalized, hmem, hreal⟩ := h
  exact ⟨normalized, answers, hnormalized, hpast.subset hmem, hreal⟩

/-- The target has printed `stdout` for a command. -/
def Printed (t : TargetConfig) (past : SentExchanges) (argv : List JsString) (stdout : JsString) :
    Prop :=
  ∃ answers res, ([⟨t, .exec argv⟩], answers) ∈ past ∧ answers 0 = .ok res ∧ res.stdout = stdout

/-- A path that may be read: it was resolved and stands under an allowed root. -/
structure ReadablePath (t : TargetConfig) (past : SentExchanges) (inputPath real : JsString) :
    Prop where
  resolved : ResolvesTo t past inputPath real
  inside : isInsideSome t.allowedPaths real = true

/-- A repository that may be read: it was resolved, and so was an entry of the list. -/
structure ReadableRepo (t : TargetConfig) (past : SentExchanges) (inputPath repo : JsString) :
    Prop where
  resolved : ResolvesTo t past inputPath repo
  listed : ∃ configured ∈ t.allowedGitRepos, ResolvesTo t past configured repo

/-- A directory in which a process may start. -/
structure ProcessCwd (t : TargetConfig) (past : SentExchanges) (inputPath cwd : JsString) :
    Prop where
  resolved : ResolvesTo t past inputPath cwd
  inside : isInsideSome t.allowedProcessCwds cwd = true

section Mono

variable {t : TargetConfig} {past past' : SentExchanges} {inputPath real : JsString}

theorem ReadablePath.mono (h : ReadablePath t past inputPath real) (hpast : past <+: past') :
    ReadablePath t past' inputPath real := ⟨h.resolved.mono hpast, h.inside⟩

theorem ReadableRepo.mono (h : ReadableRepo t past inputPath real) (hpast : past <+: past') :
    ReadableRepo t past' inputPath real := by
  obtain ⟨configured, hmem, hconfigured⟩ := h.listed
  exact ⟨h.resolved.mono hpast, configured, hmem, hconfigured.mono hpast⟩

/-- What was accepted of an answer is absolute, without dots and not secret. -/
theorem acceptedRealPath_eq_ok {s : JsString} (h : acceptedRealPath s = .ok real) :
    real = s ∧ startsWith real (js "/") = true ∧ js ".." ∉ pathSegments real ∧
      denySecretPath real = false := by
  unfold acceptedRealPath pathDenied at h
  split_ifs at h with hplain hsecret
  obtain rfl := Except.ok.inj h
  rw [Bool.not_eq_true, Bool.or_eq_false_iff, Bool.not_eq_false', List.contains_eq_mem,
    decide_eq_false_iff_not] at hplain
  refine ⟨rfl, hplain.1, fun hmem => hplain.2 ?_, by simpa using hsecret⟩
  exact List.mem_filter.mpr ⟨hmem, by decide⟩

theorem realPathOf_eq_ok {answer : SentAnswer} (h : realPathOf answer = .ok real) :
    ∃ res, answer = .ok res ∧ res.code = some (JsNumber.ofInt 0 inRange_zero) ∧
      real = headLine res.stdout ∧ startsWith real (js "/") = true ∧
      js ".." ∉ pathSegments real ∧ denySecretPath real = false := by
  unfold realPathOf pathDenied at h
  split at h
  · next res =>
    split_ifs at h with hcode
    exact ⟨res, rfl, not_not.mp hcode, acceptedRealPath_eq_ok h⟩
  · cases h
  · cases h

theorem ResolvesTo.printed (h : ResolvesTo t past inputPath real) :
    ∃ answer, realPathOf answer = .ok real := by
  obtain ⟨_, answers, -, -, hreal⟩ := h
  exact ⟨answers 0, hreal⟩

end Mono

/-! ## Commands -/

/-- The commands without arguments. -/
def fixedCommands : List (List JsString) :=
  [["hostname"], ["uname", "-srm"], ["cat", "/proc/loadavg"], ["uptime", "-p"], ["uptime", "-s"],
    ["head", "-n", "5", "/etc/os-release"], ["df", "-hP"], ["free", "-b"],
    ["docker", "ps", "-a", "--format", "{{json .}}"], ["docker", "ps", "-q"]].map (·.map js)

/-- What comes after `git -C repo`. -/
def gitCommands : List (List JsString) :=
  [["rev-parse", "HEAD"], ["log", "-1", "--format=%H%n%an%n%aI%n%s"],
    ["-c", "core.quotepath=false", "status", "--porcelain=v1", "-b"], ["diff", "--stat"],
    ["diff", "--cached", "--stat"]].map (·.map js)

/-- A command of a call for `t` with the arguments `args`, after the exchanges `past`. -/
inductive ToolCommand (settings : ToolSettings) (t : TargetConfig) (args : List (JsString × Json))
    (past : SentExchanges) : List JsString → Prop
  | fixed {argv : List JsString} (hfixed : argv ∈ fixedCommands) :
      ToolCommand settings t args past argv
  | dockerHealth {container : JsString}
      (hcontainer : ListedName t.allowedDockerContainers container) :
      ToolCommand settings t args past
        [js "docker", js "inspect", js "--format", js "{{json .State}}", container]
  | dockerInspect {container : JsString}
      (hcontainer : ListedName t.allowedDockerContainers container) :
      ToolCommand settings t args past [js "docker", js "inspect", container]
  | dockerLogs {container lines : JsString}
      (hcontainer : ListedName t.allowedDockerContainers container)
      (hlines : logLines settings args = .ok lines) :
      ToolCommand settings t args past
        [js "docker", js "logs", js "--tail", lines, js "--timestamps", container]
  | dockerAction {action container : JsString} (haction : action ∈ dockerActions)
      (hcontainer : ListedName t.allowedDockerContainers container) :
      ToolCommand settings t args past [js "docker", action, container]
  | dockerExec {container program : JsString} {argv : List JsString}
      (hcontainer : ListedName t.allowedDockerExecContainers container)
      (hprogram : Allows t.allowedDockerExecPrograms program) :
      ToolCommand settings t args past
        (js "docker" :: js "exec" :: container :: program :: argv)
  | serviceStatus {service : JsString} (hservice : ListedName t.allowedServices service) :
      ToolCommand settings t args past
        ([js "systemctl", js "show", unitOf service] ++ serviceStatusOptions)
  | serviceLogs {service lines : JsString} (hservice : ListedName t.allowedServices service)
      (hlines : logLines settings args = .ok lines) :
      ToolCommand settings t args past
        [js "journalctl", js "-u", unitOf service, js "-n", lines, js "--no-pager", js "-o",
          js "short-iso"]
  | serviceAction {action service : JsString} (haction : action ∈ serviceActions)
      (hservice : ListedName t.allowedServices service) :
      ToolCommand settings t args past [js "systemctl", action, unitOf service]
  | realpath {inputPath normalized : JsString}
      (hnormalized : normalizedPath inputPath = .ok normalized) :
      ToolCommand settings t args past (realpathCommand normalized)
  | list {inputPath real : JsString} (hinput : toolText (lookup (js "path") args) = .ok inputPath)
      (hreal : ReadablePath t past inputPath real) :
      ToolCommand settings t args past [js "ls", js "-la", js "--time-style=long-iso", real]
  | size {inputPath real : JsString} (hinput : toolText (lookup (js "path") args) = .ok inputPath)
      (hreal : ReadablePath t past inputPath real) :
      ToolCommand settings t args past [js "stat", js "-c", js "%s", real]
  | head {inputPath real stdout : JsString}
      (hinput : toolText (lookup (js "path") args) = .ok inputPath)
      (hreal : ReadablePath t past inputPath real)
      (hsize : Printed t past [js "stat", js "-c", js "%s", real] stdout) :
      ToolCommand settings t args past
        [js "head", js "-c", ofChars (bytesToRead settings (sizeOf stdout)).text, real]
  | git {inputPath repo : JsString} {rest : List JsString}
      (hinput : toolText (lookup (js "repository") args) = .ok inputPath)
      (hrepo : ReadableRepo t past inputPath repo) (hrest : rest ∈ gitCommands) :
      ToolCommand settings t args past ([js "git", js "-C", repo] ++ rest)

/-- A request of a call: a command, the start of a process in a directory that was resolved, or
another operation. -/
inductive ToolSends (settings : ToolSettings) (t : TargetConfig) (args : List (JsString × Json))
    (past : SentExchanges) : TargetRequest → Prop
  | command {argv : List JsString} (hcommand : ToolCommand settings t args past argv) :
      ToolSends settings t args past (.exec argv)
  | processStart {inputPath cwd program : JsString} {argv : List Json}
      (hinput : toolText (lookup (js "cwd") args) = .ok inputPath)
      (hcwd : ProcessCwd t past inputPath cwd) :
      ToolSends settings t args past (.operation ⟨js "process.start",
        [(js "cwd", .str cwd), (js "program", .str program), (js "argv", .arr argv)]⟩)
  | operation {op : JsString} {props : List (JsString × Json)} (hop : op ≠ js "process.start") :
      ToolSends settings t args past (.operation ⟨op, props⟩)

/-! ## Runs -/

/-- A request to `t` that a call for `t` may send. -/
structure Sendable (settings : ToolSettings) (t : TargetConfig) (args : List (JsString × Json))
    (past : SentExchanges) (s : Sent) : Prop where
  target : s.target = t
  sends : ToolSends settings t args past s.request

/-- Whatever is answered, each request satisfies `S` and each result `Q`. -/
def SendsAlways {α : Type} (S : SentExchanges → Sent → Prop) (Q : SentExchanges → α → Prop)
    (past : SentExchanges) (p : ToolRun α) : Prop :=
  p.Always (fun h batch => ∀ s ∈ batch, S h s) Q past

section Runs

variable {α β : Type} {S : SentExchanges → Sent → Prop} {past : SentExchanges}

theorem sendsAlways_gate {x : Except OpsError α} {Q : SentExchanges → α → Prop}
    (h : ∀ a, x = .ok a → Q past a) : SendsAlways S Q past (gate x) :=
  Attempt.always_ofExcept fun a ha => h a (mapError_eq_ok ha)

theorem sendsAlways_gate_bind {x : Except OpsError α} {f : α → ToolRun β}
    {Q : SentExchanges → β → Prop} (h : ∀ a, x = .ok a → SendsAlways S Q past (f a)) :
    SendsAlways S Q past (gate x >>= f) :=
  Attempt.always_ofExcept_bind fun a ha => h a (mapError_eq_ok ha)

theorem sendsAlways_bind {p : ToolRun α} {f : α → ToolRun β} {Q : SentExchanges → α → Prop}
    {R : SentExchanges → β → Prop} (hp : SendsAlways S Q past p)
    (hf : ∀ h a, past <+: h → Q h a → SendsAlways S R h (f a)) : SendsAlways S R past (p >>= f) :=
  Attempt.Always.bind hp hf

theorem sendsAlways_pure (a : α) : SendsAlways S (fun _ _ => True) past (pure a : ToolRun α) :=
  Attempt.always_pure trivial

variable {settings : ToolSettings} {t : TargetConfig} {args : List (JsString × Json)}

theorem sendsAlways_exec {argv : List JsString} (h : ToolCommand settings t args past argv) :
    SendsAlways (Sendable settings t args) (fun h res => Printed t h argv res.stdout) past
      (exec t argv) := by
  refine Attempt.always_call_bind (fun s hs => ?_) fun answers => ?_
  · rw [List.mem_singleton.mp hs]
    exact ⟨rfl, .command h⟩
  · refine Attempt.always_ofExcept fun res hres => ?_
    exact ⟨answers, res, List.mem_append_right _ (List.mem_singleton_self _), hres, rfl⟩

theorem sendsAlways_exec_caught {argv : List JsString}
    (h : ToolCommand settings t args past argv) :
    SendsAlways (Sendable settings t args) (fun h x => ∀ res, x = some res →
      Printed t h argv res.stdout) past (exec t argv).caught :=
  Attempt.Always.caught (sendsAlways_exec h)

theorem sendsAlways_execAll {commands : List (List JsString)}
    (h : ∀ argv ∈ commands, argv ∈ fixedCommands) :
    SendsAlways (Sendable settings t args) (fun _ _ => True) past (execAll t commands) := by
  refine ⟨fun s hs => ?_, fun _ => trivial⟩
  obtain ⟨argv, hargv, rfl⟩ := List.mem_map.mp hs
  exact ⟨rfl, .command (.fixed (h argv hargv))⟩

theorem sendsAlways_agentJson {operation : AgentOperation}
    (h : ToolSends settings t args past (.operation operation)) :
    SendsAlways (Sendable settings t args) (fun _ _ => True) past (agentJson t operation) := by
  refine sendsAlways_gate_bind fun _ _ => ?_
  refine Attempt.always_call_bind (fun s hs => ?_) fun answers => ?_
  · rw [List.mem_singleton.mp hs]
    exact ⟨rfl, h⟩
  · exact Attempt.always_ofExcept fun _ _ => trivial

theorem sendsAlways_send {request : TargetRequest} (h : ToolSends settings t args past request) :
    SendsAlways (Sendable settings t args) (fun _ _ => True) past (send t request) := by
  cases h with
  | command hcommand =>
      exact Attempt.Always.mono (sendsAlways_exec hcommand) fun _ _ _ => trivial
  | processStart hinput hcwd => exact sendsAlways_agentJson (.processStart hinput hcwd)
  | operation hop => exact sendsAlways_agentJson (.operation hop)

/-! ## Paths -/

theorem sendsAlways_askRealPath (inputPath : JsString) :
    SendsAlways (Sendable settings t args) (fun h real => ResolvesTo t h inputPath real) past
      (askRealPath t inputPath) := by
  refine sendsAlways_gate_bind fun normalized hnormalized => ?_
  refine Attempt.always_call_bind (fun s hs => ?_) fun answers => ?_
  · rw [List.mem_singleton.mp hs]
    exact ⟨rfl, .command (.realpath hnormalized)⟩
  · refine sendsAlways_gate fun real hreal => ?_
    exact ⟨normalized, answers, hnormalized, List.mem_append_right _ (List.mem_singleton_self _),
      hreal⟩

theorem requireInside_ok {roots : List JsString} {unset outside real path : JsString}
    (h : requireInside roots unset outside real = .ok path) :
    path = real ∧ isInsideSome roots path = true := by
  unfold requireInside at h
  split_ifs at h with _ hinside
  obtain rfl := Except.ok.inj h
  exact ⟨rfl, by simpa using hinside⟩

theorem sendsAlways_askCheckedPath (inputPath : JsString) :
    SendsAlways (Sendable settings t args) (fun h real => ReadablePath t h inputPath real) past
      (askCheckedPath t inputPath) := by
  refine sendsAlways_bind (sendsAlways_askRealPath inputPath) fun h real _ hreal => ?_
  refine sendsAlways_gate fun path hpath => ?_
  obtain ⟨rfl, hinside⟩ := requireInside_ok hpath
  exact ⟨hreal, hinside⟩

theorem sendsAlways_askCheckedProcessCwd (inputPath : JsString) :
    SendsAlways (Sendable settings t args) (fun h cwd => ProcessCwd t h inputPath cwd) past
      (askCheckedProcessCwd t inputPath) := by
  refine sendsAlways_bind (sendsAlways_askRealPath inputPath) fun h real _ hreal => ?_
  refine sendsAlways_gate fun path hpath => ?_
  obtain ⟨rfl, hinside⟩ := requireInside_ok hpath
  exact ⟨hreal, hinside⟩

/-- The loop ends with an entry that leads to the same place. -/
theorem sendsAlways_askRepos (real : JsString) (repos : List JsString) :
    SendsAlways (Sendable settings t args) (fun h repo => repo = real ∧
      ∃ configured ∈ repos, ResolvesTo t h configured real) past (askRepos t real repos) := by
  induction repos generalizing past with
  | nil => exact sendsAlways_gate fun _ h => by cases h
  | cons configured rest ih =>
      refine sendsAlways_bind (Attempt.Always.caught (sendsAlways_askRealPath configured))
        fun h allowed _ hallowed => ?_
      split_ifs with heq
      · exact Attempt.always_pure ⟨rfl, configured, List.mem_cons_self, hallowed real heq⟩
      · refine Attempt.Always.mono ih fun h' repo hrepo => ?_
        obtain ⟨hrepo, entry, hentry, hresolved⟩ := hrepo
        exact ⟨hrepo, entry, List.mem_cons_of_mem _ hentry, hresolved⟩

theorem sendsAlways_askCheckedGitRepo (inputPath : JsString) :
    SendsAlways (Sendable settings t args) (fun h repo => ReadableRepo t h inputPath repo) past
      (askCheckedGitRepo t inputPath) := by
  refine sendsAlways_bind (sendsAlways_askRealPath inputPath) fun h real _ hreal => ?_
  split_ifs
  · exact sendsAlways_gate fun _ h => by cases h
  · refine Attempt.Always.mono (Attempt.Always.extends (sendsAlways_askRepos real _))
      fun h' repo hrepo => ?_
    obtain ⟨hpast, rfl, hlisted⟩ := hrepo
    exact ⟨hreal.mono hpast, hlisted⟩

end Runs

/-! ## Tools -/

section Tools

variable {settings : ToolSettings} {t : TargetConfig} {args : List (JsString × Json)}
  {past : SentExchanges} {r : TargetRequest}

theorem serviceActions_of_allows {action : JsString}
    (h : Allows (t.allowedServiceActions.map ServiceAction.text) action) :
    action ∈ serviceActions := by
  have htext (a : ServiceAction) : js "*" ≠ a.text ∧ a.text ∈ serviceActions := by
    cases a <;> decide
  rcases h with hstar | hmem
  · obtain ⟨a, -, ha⟩ := List.mem_map.mp hstar
    exact absurd ha.symm (htext a).1
  · obtain ⟨a, -, rfl⟩ := List.mem_map.mp hmem
    exact (htext a).2

theorem dockerActionRequest_sends (h : dockerActionRequest t args = .ok r) :
    ToolSends settings t args past r := by
  obtain ⟨_, -, h⟩ := bind_eq_ok h
  obtain ⟨_, -, h⟩ := bind_eq_ok h
  obtain ⟨action, -, h⟩ := bind_eq_ok h
  split_ifs at h with hverb
  · obtain ⟨container, hcontainer, h⟩ := bind_eq_ok h
    obtain rfl := Except.ok.inj h
    exact .command (.dockerAction hverb (listedContainer_eq_ok hcontainer))
  · obtain ⟨_, -, h⟩ := bind_eq_ok h
    obtain ⟨_, -, h⟩ := bind_eq_ok h
    obtain ⟨_, -, h⟩ := bind_eq_ok h
    obtain rfl := Except.ok.inj h
    exact .operation (by decide)
  · obtain ⟨_, -, h⟩ := bind_eq_ok h
    obtain ⟨_, -, h⟩ := bind_eq_ok h
    obtain ⟨_, -, h⟩ := bind_eq_ok h
    obtain ⟨_, -, h⟩ := bind_eq_ok h
    obtain ⟨_, -, h⟩ := bind_eq_ok h
    obtain rfl := Except.ok.inj h
    exact .operation (by decide)
  · obtain ⟨_, -, h⟩ := bind_eq_ok h
    obtain rfl := Except.ok.inj h
    exact .operation (by decide)
  · cases h

/-- A request that is made of its checked arguments is one of those listed. -/
theorem request_sends {tool : RequestTool} (h : tool.request settings t args = .ok r) :
    ToolSends settings t args past r := by
  cases tool with
  | diskUsage | memoryStatus =>
      obtain rfl := Except.ok.inj h
      exact .command (.fixed (by decide))
  | dockerHealth =>
      obtain ⟨container, hcontainer, h⟩ := bind_eq_ok h
      obtain rfl := Except.ok.inj h
      exact .command (.dockerHealth (listedContainer_eq_ok hcontainer))
  | dockerInspectSafe =>
      obtain ⟨container, hcontainer, h⟩ := bind_eq_ok h
      obtain rfl := Except.ok.inj h
      exact .command (.dockerInspect (listedContainer_eq_ok hcontainer))
  | dockerLogs =>
      obtain ⟨container, hcontainer, h⟩ := bind_eq_ok h
      obtain ⟨lines, hlines, h⟩ := bind_eq_ok h
      obtain ⟨_, hlisted, h⟩ := bind_eq_ok h
      obtain rfl := Except.ok.inj h
      exact .command (.dockerLogs
        ⟨identifierArg_eq_ok hcontainer, checkAllow_eq_ok hlisted⟩ hlines)
  | serviceStatus =>
      obtain ⟨unit, hunit, h⟩ := bind_eq_ok h
      obtain rfl := Except.ok.inj h
      obtain ⟨service, rfl, hservice⟩ := listedUnit_eq_ok hunit
      exact .command (.serviceStatus hservice)
  | serviceLogs =>
      obtain ⟨service, hservice, h⟩ := bind_eq_ok h
      obtain ⟨lines, hlines, h⟩ := bind_eq_ok h
      obtain ⟨_, hlisted, h⟩ := bind_eq_ok h
      obtain rfl := Except.ok.inj h
      exact .command (.serviceLogs ⟨identifierArg_eq_ok hservice, checkAllow_eq_ok hlisted⟩ hlines)
  | serviceAction =>
      obtain ⟨_, -, h⟩ := bind_eq_ok h
      obtain ⟨unit, hunit, h⟩ := bind_eq_ok h
      obtain ⟨action, haction, h⟩ := bind_eq_ok h
      obtain rfl := Except.ok.inj h
      obtain ⟨service, rfl, hservice⟩ := listedUnit_eq_ok hunit
      exact .command (.serviceAction
        (serviceActions_of_allows (requireNamedCapability_eq_ok haction).2) hservice)
  | dockerExec =>
      obtain ⟨_, -, h⟩ := bind_eq_ok h
      obtain ⟨_, -, h⟩ := bind_eq_ok h
      obtain ⟨container, hcontainer, h⟩ := bind_eq_ok h
      obtain ⟨_, hlisted, h⟩ := bind_eq_ok h
      obtain ⟨program, hprogram, h⟩ := bind_eq_ok h
      obtain ⟨_, -, h⟩ := bind_eq_ok h
      obtain rfl := Except.ok.inj h
      exact .command (.dockerExec ⟨identifierArg_eq_ok hcontainer, checkAllow_eq_ok hlisted⟩
        (requireNamedCapability_eq_ok hprogram).2)
  | dockerAction => exact dockerActionRequest_sends h
  | postgresPinnedVerifierReadback =>
      obtain ⟨_, -, h⟩ := bind_eq_ok h
      obtain ⟨_, -, h⟩ := bind_eq_ok h
      obtain ⟨_, -, h⟩ := bind_eq_ok h
      obtain rfl := Except.ok.inj h
      exact .operation (by decide)
  | createDirectory | writeFile | editFile | moveFile =>
      obtain ⟨_, -, h⟩ := bind_eq_ok h
      obtain rfl := Except.ok.inj h
      exact .operation (by decide)
  | paperclipTaskDrainStatus | paperclipToolPoliciesList | paperclipToolConnectionActivitySafe
  | paperclipToolPolicyTest | paperclipTaskDrainStart | paperclipTaskDrainStop
  | paperclipToolPolicyCreate | paperclipToolPolicyDelete | readProcessOutput | sendProcessInput
  | killProcess | listProcesses =>
      obtain ⟨_, -, h⟩ := bind_eq_ok h
      obtain ⟨_, -, h⟩ := bind_eq_ok h
      obtain rfl := Except.ok.inj h
      exact .operation (by decide)
  | openhandsHealth | openhandsList | openhandsStatus | openhandsResult | openhandsEvents
  | openhandsStart | openhandsStop =>
      obtain ⟨_, -, h⟩ := bind_eq_ok h
      obtain rfl := Except.ok.inj h
      exact .operation (by decide)

theorem sendsAlways_hostStatus :
    SendsAlways (Sendable settings t args) (fun _ _ => True) past (hostStatus t) := by
  refine sendsAlways_bind (sendsAlways_exec (.fixed (by decide))) fun _ _ _ _ => ?_
  refine sendsAlways_gate_bind fun _ _ => ?_
  exact sendsAlways_bind (sendsAlways_execAll (by decide)) fun _ _ _ _ => sendsAlways_pure _

theorem sendsAlways_uptime :
    SendsAlways (Sendable settings t args) (fun _ _ => True) past (uptime t) := by
  refine sendsAlways_bind (sendsAlways_execAll (by decide)) fun _ _ _ _ => ?_
  refine Attempt.always_ofExcept_bind fun _ _ => ?_
  refine Attempt.always_ofExcept_bind fun _ _ => ?_
  exact sendsAlways_pure _

theorem sendsAlways_dockerListRun :
    SendsAlways (Sendable settings t args) (fun _ _ => True) past (dockerListRun t) := by
  unfold dockerListRun
  split_ifs
  · exact sendsAlways_pure _
  · exact sendsAlways_bind (sendsAlways_exec (.fixed (by decide))) fun _ _ _ _ =>
      sendsAlways_pure _

theorem sendsAlways_runtimeSummary :
    SendsAlways (Sendable settings t args) (fun _ _ => True) past (runtimeSummary t) :=
  sendsAlways_bind (sendsAlways_execAll (by decide)) fun _ _ _ _ => sendsAlways_pure _

theorem sendsAlways_askRepository :
    SendsAlways (Sendable settings t args) (fun h repo => ∃ inputPath,
      toolText (lookup (js "repository") args) = .ok inputPath ∧ ReadableRepo t h inputPath repo)
      past (askRepository t args) := by
  refine sendsAlways_gate_bind fun inputPath hinput => ?_
  exact Attempt.Always.mono (sendsAlways_askCheckedGitRepo inputPath) fun _ _ h =>
    ⟨inputPath, hinput, h⟩

theorem sendsAlways_gitHead :
    SendsAlways (Sendable settings t args) (fun _ _ => True) past (gitHead t args) := by
  refine sendsAlways_bind sendsAlways_askRepository fun h repo _ hrepo => ?_
  obtain ⟨inputPath, hinput, hrepo⟩ := hrepo
  refine sendsAlways_bind (sendsAlways_exec (.git hinput hrepo (by decide)))
    fun h' head hpast _ => ?_
  refine sendsAlways_gate_bind fun _ _ => ?_
  exact sendsAlways_bind (sendsAlways_exec_caught (.git hinput (hrepo.mono hpast) (by decide)))
    fun _ _ _ _ => sendsAlways_pure _

theorem sendsAlways_gitStatus :
    SendsAlways (Sendable settings t args) (fun _ _ => True) past (gitStatus t args) := by
  refine sendsAlways_bind sendsAlways_askRepository fun h repo _ hrepo => ?_
  obtain ⟨inputPath, hinput, hrepo⟩ := hrepo
  exact sendsAlways_bind (sendsAlways_exec (.git hinput hrepo (by decide))) fun _ _ _ _ =>
    sendsAlways_pure _

theorem sendsAlways_gitDiffSummary :
    SendsAlways (Sendable settings t args) (fun _ _ => True) past (gitDiffSummary t args) := by
  refine sendsAlways_bind sendsAlways_askRepository fun h repo _ hrepo => ?_
  obtain ⟨inputPath, hinput, hrepo⟩ := hrepo
  refine sendsAlways_bind (sendsAlways_exec_caught (.git hinput hrepo (by decide)))
    fun h' _ hpast _ => ?_
  exact sendsAlways_bind (sendsAlways_exec_caught (.git hinput (hrepo.mono hpast) (by decide)))
    fun _ _ _ _ => sendsAlways_pure _

theorem sendsAlways_listDirectory :
    SendsAlways (Sendable settings t args) (fun _ _ => True) past (listDirectory t args) := by
  refine sendsAlways_gate_bind fun inputPath hinput => ?_
  refine sendsAlways_bind (sendsAlways_askCheckedPath inputPath) fun h real _ hreal => ?_
  refine sendsAlways_bind (sendsAlways_exec (.list hinput hreal)) fun _ _ _ _ => ?_
  exact sendsAlways_gate_bind fun _ _ => sendsAlways_pure _

theorem sendsAlways_readFile :
    SendsAlways (Sendable settings t args) (fun _ _ => True) past (readFile settings t args) := by
  refine sendsAlways_gate_bind fun _ _ => ?_
  refine sendsAlways_gate_bind fun inputPath hinput => ?_
  refine sendsAlways_bind (sendsAlways_askCheckedPath inputPath) fun h real _ hreal => ?_
  refine sendsAlways_bind (sendsAlways_exec (.size hinput hreal)) fun h' stat hpast hstat => ?_
  refine sendsAlways_bind (sendsAlways_exec (.head hinput (hreal.mono hpast) hstat))
    fun _ _ _ _ => ?_
  exact sendsAlways_gate_bind fun _ _ => sendsAlways_pure _

theorem sendsAlways_startProcess :
    SendsAlways (Sendable settings t args) (fun _ _ => True) past (startProcess t args) := by
  refine sendsAlways_gate_bind fun _ _ => ?_
  refine sendsAlways_gate_bind fun inputPath hinput => ?_
  refine sendsAlways_bind (sendsAlways_askCheckedProcessCwd inputPath) fun h cwd _ hcwd => ?_
  refine sendsAlways_gate_bind fun program _ => ?_
  refine sendsAlways_gate_bind fun argv _ => ?_
  exact sendsAlways_bind (sendsAlways_agentJson (.processStart hinput hcwd)) fun _ _ _ _ =>
    sendsAlways_pure _

end Tools

/-! ## Calls -/

/-- What a call sends: a request for its own arguments, to a target. -/
def CallSends (w : ToolWorld) (c : Invocation) (past : SentExchanges) (s : Sent) : Prop :=
  ToolSends w.settings s.target c.args past s.request

section Calls

variable {c : Invocation} {w : ToolWorld} {past : SentExchanges}

theorem callSends_of_sendable {α : Type} {t : TargetConfig} {Q : SentExchanges → α → Prop}
    {p : ToolRun α} (h : SendsAlways (Sendable w.settings t c.args) Q past p) :
    SendsAlways (CallSends w c) (fun _ _ => True) past p := by
  refine Attempt.Always.weaken h fun h' batch hbatch s hs => ?_
  obtain ⟨rfl, hsends⟩ := hbatch s hs
  exact hsends

theorem sendsAlways_onTarget {run : TargetConfig → ToolRun Unit}
    (hrun : ∀ t, SendsAlways (Sendable w.settings t c.args) (fun _ _ => True) past (run t)) :
    SendsAlways (CallSends w c) (fun _ _ => True) past (c.onTarget w run) :=
  sendsAlways_gate_bind fun t _ => callSends_of_sendable (hrun t)

theorem sendsAlways_sendRequest (tool : RequestTool) :
    SendsAlways (CallSends w c) (fun _ _ => True) past (c.sendRequest w tool) := by
  refine sendsAlways_gate_bind fun _ _ => ?_
  refine sendsAlways_onTarget fun t => ?_
  refine sendsAlways_gate_bind fun request hrequest => ?_
  exact sendsAlways_bind (sendsAlways_send (request_sends hrequest)) fun _ _ _ _ =>
    sendsAlways_pure _

theorem sendsAlways_hostAdminApply :
    SendsAlways (CallSends w c) (fun _ _ => True) past (c.hostAdminApply w) := by
  refine sendsAlways_gate_bind fun approved _ => ?_
  refine callSends_of_sendable (t := approved.target) (Q := fun _ _ => True) ?_
  exact sendsAlways_bind (sendsAlways_agentJson (.operation (by decide))) fun _ _ _ _ =>
    sendsAlways_pure _

theorem sendsAlways_run (c : Invocation) (w : ToolWorld) (past : SentExchanges) :
    SendsAlways (CallSends w c) (fun _ _ => True) past (c.run w) := by
  refine sendsAlways_gate_bind fun _ _ => ?_
  unfold Invocation.originalRun
  split
  · exact sendsAlways_pure _
  · next tool _ => exact sendsAlways_sendRequest tool
  · exact sendsAlways_hostAdminApply
  · exact sendsAlways_onTarget fun _ => sendsAlways_hostStatus
  · exact sendsAlways_onTarget fun _ => sendsAlways_uptime
  · exact sendsAlways_onTarget fun _ => sendsAlways_dockerListRun
  · exact sendsAlways_onTarget fun _ => sendsAlways_gitHead
  · exact sendsAlways_onTarget fun _ => sendsAlways_gitStatus
  · exact sendsAlways_onTarget fun _ => sendsAlways_gitDiffSummary
  · exact sendsAlways_onTarget fun _ => sendsAlways_listDirectory
  · exact sendsAlways_onTarget fun _ => sendsAlways_readFile
  · exact sendsAlways_onTarget fun _ => sendsAlways_startProcess
  · exact sendsAlways_onTarget fun _ => sendsAlways_runtimeSummary

/-- Every request of a call is one of those listed, for what the call has seen before it. -/
theorem callSends {batch : List Sent} {s : Sent} (hasks : Program.Asks (c.run w) past batch)
    (hs : s ∈ batch) : CallSends w c past s := by
  have h := Attempt.Always.asks (sendsAlways_run c w []) hasks s hs
  simpa using h

end Calls

/-! ## Containers and services -/

/-- What a name stands for on a target. -/
inductive NameKind
  | container
  | execContainer
  | service

/-- The list of the target for a kind of names. -/
def NameKind.list (t : TargetConfig) : NameKind → List JsString
  | .container => t.allowedDockerContainers
  | .execContainer => t.allowedDockerExecContainers
  | .service => t.allowedServices

/-- A command on a container or on a service. -/
inductive ActsOn (name : JsString) : NameKind → List JsString → Prop
  | health : ActsOn name .container
      [js "docker", js "inspect", js "--format", js "{{json .State}}", name]
  | inspect : ActsOn name .container [js "docker", js "inspect", name]
  | logs {lines : JsString} : ActsOn name .container
      [js "docker", js "logs", js "--tail", lines, js "--timestamps", name]
  | action {action : JsString} : ActsOn name .container [js "docker", action, name]
  | exec {command : List JsString} : ActsOn name .execContainer
      (js "docker" :: js "exec" :: name :: command)
  | unit {verb : JsString} {options : List JsString} : ActsOn name .service
      (js "systemctl" :: verb :: unitOf name :: options)
  | journal {lines : JsString} : ActsOn name .service
      [js "journalctl", js "-u", unitOf name, js "-n", lines, js "--no-pager", js "-o",
        js "short-iso"]

/-- The programs that reach containers and services. -/
def daemonClients : List JsString := ["docker", "systemctl", "journalctl"].map js

section Names

variable {settings : ToolSettings} {t : TargetConfig} {args : List (JsString × Json)}
  {past : SentExchanges}

theorem ToolCommand.actsOn {program : JsString} {rest : List JsString}
    (h : ToolCommand settings t args past (program :: rest)) (hprogram : program ∈ daemonClients) :
    program :: rest ∈ fixedCommands ∨
      ∃ kind name, ActsOn name kind (program :: rest) ∧ ListedName (kind.list t) name := by
  have hno {other : JsString} (hother : other ∉ daemonClients) (hmem : other ∈ daemonClients) :
      False := hother hmem
  cases h with
  | fixed hfixed => exact .inl hfixed
  | dockerHealth hcontainer => exact .inr ⟨.container, _, .health, hcontainer⟩
  | dockerInspect hcontainer => exact .inr ⟨.container, _, .inspect, hcontainer⟩
  | dockerLogs hcontainer _ => exact .inr ⟨.container, _, .logs, hcontainer⟩
  | dockerAction _ hcontainer => exact .inr ⟨.container, _, .action, hcontainer⟩
  | dockerExec hcontainer _ => exact .inr ⟨.execContainer, _, .exec, hcontainer⟩
  | serviceStatus hservice => exact .inr ⟨.service, _, .unit, hservice⟩
  | serviceLogs hservice _ => exact .inr ⟨.service, _, .journal, hservice⟩
  | serviceAction _ hservice => exact .inr ⟨.service, _, .unit, hservice⟩
  | realpath _ => exact (hno (by decide) hprogram).elim
  | list _ _ => exact (hno (by decide) hprogram).elim
  | size _ _ => exact (hno (by decide) hprogram).elim
  | head _ _ _ => exact (hno (by decide) hprogram).elim
  | git _ _ _ => exact (hno (by decide) hprogram).elim

/-- Whatever was answered, a command to Docker or to systemd is a listing without a name, or it
names one container or one service, which the target lists. -/
theorem actsOn_listed {c : Invocation} {w : ToolWorld} {batch : List Sent} {t : TargetConfig}
    {program : JsString} {rest : List JsString} (hasks : Program.Asks (c.run w) past batch)
    (hsent : ⟨t, .exec (program :: rest)⟩ ∈ batch) (hprogram : program ∈ daemonClients) :
    program :: rest ∈ fixedCommands ∨
      ∃ kind name, ActsOn name kind (program :: rest) ∧ ListedName (kind.list t) name := by
  have hsends : ToolSends w.settings t c.args past (.exec (program :: rest)) :=
    callSends hasks hsent
  cases hsends with
  | command hcommand => exact hcommand.actsOn hprogram

theorem actsOn_listed_inspect :
    [js "docker", js "inspect", js "cafe"] ∈ fixedCommands ∨
      ∃ kind name, ActsOn name kind [js "docker", js "inspect", js "cafe"] ∧
        ListedName (kind.list opsTarget) name := by
  have hasks : Program.Asks
      ((opsCall (.request .dockerInspectSafe) [(js "container", .str (js "cafe"))]).run opsWorld) []
      [⟨opsTarget, .exec [js "docker", js "inspect", js "cafe"]⟩] := Eq.refl _
  exact actsOn_listed hasks (List.mem_singleton_self _) (by decide)

end Names

/-! ## Files and directories -/

/-- What a call uses a path of the target for. -/
inductive PathUse
  | file
  | repository
  | directory

/-- The argument of a call that names the path. -/
def PathUse.key : PathUse → JsString
  | .file => js "path"
  | .repository => js "repository"
  | .directory => js "cwd"

section Files

variable {t : TargetConfig} {args : List (JsString × Json)} {past : SentExchanges}

end Files

end RemoteOps

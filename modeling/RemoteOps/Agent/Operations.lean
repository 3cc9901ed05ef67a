import RemoteOps.Agent.Gateway
import RemoteOps.Ecma.NumberText
import RemoteOps.Security.Paths

/-!
# Agent operations

The control plane sends the commands of its read and service tools to an agent not as
argument vectors but as named operations: `argvToAgentOperation` recognises a command
by an ordered list of patterns, and `operationArgv` prints the operation as a command
again. `ReadOperation` is an operation with the arguments that are printed, each of
which carries the check it has passed.
-/

namespace RemoteOps

open Ecma

/-! ## Checks -/

/-- `String(value ?? "")`. -/
def textOf (value : Option Json) : Except String JsString :=
  match strOrEmpty value with
  | some s => .ok s
  | none => .error "Cannot convert object to primitive value"

def isPlainPath (s : JsString) : Bool :=
  startsWith s (js "/") && !s.any isNulOrNewline && !(pathSegments s).contains (js "..") &&
    s.length ≤ 1024

def isAgentPath (s : JsString) : Bool := isPlainPath s && !denySecretPath s

def AgentPath : Type := { s : JsString // isAgentPath s = true }
  deriving DecidableEq

def isIdChar (u : CodeUnit) : Bool := isAlnum u || isOneOf "_.@+-" u

/-- `^[A-Za-z0-9][A-Za-z0-9_.@+-]{0,99}$`. -/
def isAgentId (s : JsString) : Bool := matchesHeadTail isAlnum isIdChar 0 99 s

def AgentId : Type := { s : JsString // isAgentId s = true }
  deriving DecidableEq

/-- An integer from `1` to `max`. -/
def Count (max : ℕ) : Type := { z : ℤ // 1 ≤ z ∧ z ≤ max }
  deriving DecidableEq

/-- One of the words of a list. -/
def OneOf (words : List JsString) : Type := { s : JsString // s ∈ words }
  deriving DecidableEq

def safePath (value : Option Json) : Except String AgentPath := do
  let s ← textOf value
  if isPlainPath s then
    if h : isAgentPath s = true then .ok ⟨s, h⟩ else .error "secret_path_denied"
  else .error "invalid_path"

def safeId (value : Option Json) : Except String AgentId := do
  let s ← textOf value
  if h : isAgentId s = true then .ok ⟨s, h⟩ else .error "invalid_identifier"

def safeCount (max : ℕ) (error : String) (value : Option Json) : Except String (Count max) :=
  match numOrNaN value with
  | none => .error "Cannot convert object to primitive value"
  | some n =>
      match n.toInt? with
      | some z => if h : 1 ≤ z ∧ z ≤ max then .ok ⟨z, h⟩ else .error error
      | none => .error error

def safeLines (value : Option Json) : Except String (Count 500) := safeCount 500 "invalid_lines" value

def safeBytes (value : Option Json) : Except String (Count 1048576) :=
  safeCount 1048576 "invalid_bytes" value

def safeOneOf (words : List JsString) (error : String) (value : Option Json) :
    Except String (OneOf words) := do
  let s ← textOf value
  if h : s ∈ words then .ok ⟨s, h⟩ else .error error

def dockerActions : List JsString := [js "start", js "stop", js "restart"]

def safeDockerAction (value : Option Json) : Except String (OneOf dockerActions) :=
  safeOneOf dockerActions "invalid_docker_action" value

def serviceActions : List JsString := [js "start", js "stop", js "restart", js "reload"]

def safeServiceAction (value : Option Json) : Except String (OneOf serviceActions) :=
  safeOneOf serviceActions "invalid_service_action" value

/-- `^[A-Za-z0-9_.+-]{1,80}$`. -/
def isAgentProgram (s : JsString) : Bool := matchesClass (fun u => isAlnum u || isOneOf "_.+-" u) 1 80 s

def safeProgram (value : Option Json) : Except String JsString := do
  let s ← textOf value
  if isAgentProgram s then .ok s else .error "invalid_program"

def safeArgument (value : Json) : Except String JsString := do
  let s ← textOf (some value)
  if 16384 < utf8Length s ∨ s.any isNulOrNewline then .error "invalid_argument" else .ok s

def safeArgv (value : Option Json) : Except String (List JsString) :=
  match value with
  | some (.arr xs) => if 80 < xs.length then .error "invalid_argv" else xs.mapM safeArgument
  | _ => .error "invalid_argv"

/-! ## From a command to an operation -/

theorem Count.inRange {max : ℕ} (n : Count max) (h : max < 2 ^ 53) : n.1.natAbs < 2 ^ 53 := by
  have hn := n.2
  omega

def Count.number {max : ℕ} (n : Count max) (h : max < 2 ^ 53) : JsNumber :=
  JsNumber.ofInt n.1 (n.inRange h)

def Count.toJson {max : ℕ} (n : Count max) (h : max < 2 ^ 53) : Json := .num (n.number h)

/-- `a[i] === word`. -/
def isAt (a : List JsString) (i : ℕ) (word : String) : Bool := a[i]? = some (js word)

/-- `a[i]`, as a value. -/
def argAt (a : List JsString) (i : ℕ) : Option Json := a[i]?.map Json.str

def unsupported {α : Type} : Except String α := .error "unsupported_agent_operation"

theorem lines_inRange : 500 < 2 ^ 53 := by decide

theorem bytes_inRange : 1048576 < 2 ^ 53 := by decide

def withId (op key : String) (value : Option Json) : Except String AgentOperation := do
  let id ← safeId value
  return ⟨js op, [(js key, .str id.1)]⟩

def withPath (op key : String) (value : Option Json) : Except String AgentOperation := do
  let path ← safePath value
  return ⟨js op, [(js key, .str path.1)]⟩

def argvToAgentOperation (argv : List JsString) : Except String AgentOperation :=
  let a := argv.tail
  let cmd (word : String) : Bool := argv.head? = some (js word)
  if cmd "hostname" && a.length = 0 then .ok ⟨js "host.hostname", []⟩
  else if cmd "uname" && join (js " ") a = js "-srm" then .ok ⟨js "host.uname", []⟩
  else if cmd "cat" && a.length = 1 && isAt a 0 "/proc/loadavg" then .ok ⟨js "host.loadavg", []⟩
  else if cmd "uptime" && a.length = 1 && isAt a 0 "-p" then .ok ⟨js "host.uptime_pretty", []⟩
  else if cmd "uptime" && a.length = 1 && isAt a 0 "-s" then .ok ⟨js "host.uptime_since", []⟩
  else if cmd "head" && a.length = 3 && isAt a 0 "-n" && isAt a 1 "5" && isAt a 2 "/etc/os-release" then
    .ok ⟨js "host.os_release", []⟩
  else if cmd "df" && join (js " ") a = js "-hP" then .ok ⟨js "host.disk_usage", []⟩
  else if cmd "free" && join (js " ") a = js "-b" then .ok ⟨js "host.memory", []⟩
  else if cmd "docker" && join (js " ") a = js "ps -a --format {{json .}}" then
    .ok ⟨js "docker.list", []⟩
  else if cmd "docker" && join (js " ") a = js "ps -q" then .ok ⟨js "docker.running", []⟩
  else if cmd "docker" && isAt a 0 "inspect" && isAt a 1 "--format" && isAt a 2 "{{json .State}}" &&
      a.length = 4 then
    withId "docker.health" "container" (argAt a 3)
  else if cmd "docker" && isAt a 0 "inspect" && a.length = 2 then
    withId "docker.inspect" "container" (argAt a 1)
  else if cmd "docker" && isAt a 0 "logs" && isAt a 1 "--tail" && isAt a 3 "--timestamps" &&
      a.length = 5 then do
    let container ← safeId (argAt a 4)
    let lines ← safeLines (argAt a 2)
    return ⟨js "docker.logs",
      [(js "container", .str container.1), (js "lines", lines.toJson lines_inRange)]⟩
  else if cmd "docker" && isAt a 0 "exec" && 3 ≤ a.length then do
    let container ← safeId (argAt a 1)
    let program ← safeProgram (argAt a 2)
    let argv ← safeArgv (some (.arr ((a.drop 3).map Json.str)))
    return ⟨js "docker.exec",
      [(js "container", .str container.1), (js "program", .str program),
        (js "argv", .arr (argv.map Json.str))]⟩
  else if cmd "docker" && a.head?.any dockerActions.contains && a.length = 2 then do
    let action ← safeDockerAction (argAt a 0)
    let container ← safeId (argAt a 1)
    return ⟨js "docker.action", [(js "action", .str action.1), (js "container", .str container.1)]⟩
  else if cmd "systemctl" && isAt a 0 "show" && 2 ≤ a.length then
    withId "service.status" "unit" (argAt a 1)
  else if cmd "systemctl" && a.head?.any serviceActions.contains && a.length = 2 then do
    let action ← safeServiceAction (argAt a 0)
    let unit ← safeId (argAt a 1)
    return ⟨js "service.action", [(js "action", .str action.1), (js "unit", .str unit.1)]⟩
  else if cmd "journalctl" && isAt a 0 "-u" && isAt a 2 "-n" then do
    let unit ← safeId (argAt a 1)
    let lines ← safeLines (argAt a 3)
    return ⟨js "service.logs", [(js "unit", .str unit.1), (js "lines", lines.toJson lines_inRange)]⟩
  else if cmd "git" && isAt a 0 "-C" && isAt a 2 "rev-parse" && isAt a 3 "HEAD" then
    withPath "git.head" "repo" (argAt a 1)
  else if cmd "git" && isAt a 0 "-C" && isAt a 2 "log" then withPath "git.log" "repo" (argAt a 1)
  else if cmd "git" && isAt a 0 "-C" && a.contains (js "status") then
    withPath "git.status" "repo" (argAt a 1)
  else if cmd "git" && isAt a 0 "-C" && isAt a 2 "diff" && a.contains (js "--cached") then
    withPath "git.diff_staged" "repo" (argAt a 1)
  else if cmd "git" && isAt a 0 "-C" && isAt a 2 "diff" then withPath "git.diff" "repo" (argAt a 1)
  else if cmd "realpath" && isAt a 0 "-e" && isAt a 1 "--" && a.length = 3 then
    withPath "fs.realpath" "path" (argAt a 2)
  else if cmd "ls" && isAt a 0 "-la" && isAt a 1 "--time-style=long-iso" && a.length = 3 then
    withPath "fs.list" "path" (argAt a 2)
  else if cmd "stat" && isAt a 0 "-c" && isAt a 1 "%s" && a.length = 3 then
    withPath "fs.stat_size" "path" (argAt a 2)
  else if cmd "head" && isAt a 0 "-c" && a.length = 3 then do
    let bytes ← safeBytes (argAt a 1)
    let path ← safePath (argAt a 2)
    return ⟨js "fs.read_head", [(js "bytes", bytes.toJson bytes_inRange), (js "path", .str path.1)]⟩
  else unsupported

/-! ## From an operation to a command -/

/-- The operations that the agent runs as a command, with what is printed of their
arguments. -/
inductive ReadOperation where
  | hostHostname
  | hostUname
  | hostLoadavg
  | hostUptimePretty
  | hostUptimeSince
  | hostOsRelease
  | hostDiskUsage
  | hostMemory
  | dockerList
  | dockerRunning
  | dockerHealth (container : AgentId)
  | dockerInspect (container : AgentId)
  | dockerLogs (lines : Count 500) (container : AgentId)
  | serviceStatus (unit : AgentId)
  | serviceLogs (unit : AgentId) (lines : Count 500)
  | serviceAction (action : OneOf serviceActions) (unit : AgentId)
  | gitHead (repo : AgentPath)
  | gitLog (repo : AgentPath)
  | gitStatus (repo : AgentPath)
  | gitDiff (repo : AgentPath)
  | gitDiffStaged (repo : AgentPath)
  | fsRealpath (path : AgentPath)
  | fsList (path : AgentPath)
  | fsStatSize (path : AgentPath)
  | fsReadHead (bytes : Count 1048576) (path : AgentPath)
  deriving DecidableEq

/-- The checks of `operationArgv`, in the order in which it makes them. -/
def readOperation (x : AgentOperation) : Except String ReadOperation :=
  let op (name : String) : Bool := x.op = js name
  let a (key : String) : Option Json := lookup (js key) x.args
  if op "host.hostname" then .ok .hostHostname
  else if op "host.uname" then .ok .hostUname
  else if op "host.loadavg" then .ok .hostLoadavg
  else if op "host.uptime_pretty" then .ok .hostUptimePretty
  else if op "host.uptime_since" then .ok .hostUptimeSince
  else if op "host.os_release" then .ok .hostOsRelease
  else if op "host.disk_usage" then .ok .hostDiskUsage
  else if op "host.memory" then .ok .hostMemory
  else if op "docker.list" then .ok .dockerList
  else if op "docker.running" then .ok .dockerRunning
  else if op "docker.health" then do return .dockerHealth (← safeId (a "container"))
  else if op "docker.inspect" then do return .dockerInspect (← safeId (a "container"))
  else if op "docker.logs" then do
    return .dockerLogs (← safeLines (a "lines")) (← safeId (a "container"))
  else if op "service.status" then do return .serviceStatus (← safeId (a "unit"))
  else if op "service.logs" then do
    return .serviceLogs (← safeId (a "unit")) (← safeLines (a "lines"))
  else if op "service.action" then do
    return .serviceAction (← safeServiceAction (a "action")) (← safeId (a "unit"))
  else if op "git.head" then do return .gitHead (← safePath (a "repo"))
  else if op "git.log" then do return .gitLog (← safePath (a "repo"))
  else if op "git.status" then do return .gitStatus (← safePath (a "repo"))
  else if op "git.diff" then do return .gitDiff (← safePath (a "repo"))
  else if op "git.diff_staged" then do return .gitDiffStaged (← safePath (a "repo"))
  else if op "fs.realpath" then do return .fsRealpath (← safePath (a "path"))
  else if op "fs.list" then do return .fsList (← safePath (a "path"))
  else if op "fs.stat_size" then do return .fsStatSize (← safePath (a "path"))
  else if op "fs.read_head" then do
    return .fsReadHead (← safeBytes (a "bytes")) (← safePath (a "path"))
  else unsupported

/-- An element of a command: a fixed word, or printed from an argument. -/
inductive ArgvItem where
  | word (s : JsString)
  | arg (s : JsString)
  deriving DecidableEq

def ArgvItem.text : ArgvItem → JsString
  | .word s => s
  | .arg s => s

def fixed (ws : List String) : List ArgvItem := ws.map fun w => .word (js w)

/-- `String(n)`. -/
def Count.text {max : ℕ} (n : Count max) (h : max < 2 ^ 53) : JsString := ofChars (n.number h).text

/-- The command of `operationArgv`. -/
def ReadOperation.items : ReadOperation → List ArgvItem
  | .hostHostname => fixed ["hostname"]
  | .hostUname => fixed ["uname", "-srm"]
  | .hostLoadavg => fixed ["cat", "/proc/loadavg"]
  | .hostUptimePretty => fixed ["uptime", "-p"]
  | .hostUptimeSince => fixed ["uptime", "-s"]
  | .hostOsRelease => fixed ["head", "-n", "5", "/etc/os-release"]
  | .hostDiskUsage => fixed ["df", "-hP"]
  | .hostMemory => fixed ["free", "-b"]
  | .dockerList => fixed ["docker", "ps", "-a", "--format", "{{json .}}"]
  | .dockerRunning => fixed ["docker", "ps", "-q"]
  | .dockerHealth container =>
      fixed ["docker", "inspect", "--format", "{{json .State}}"] ++ [.arg container.1]
  | .dockerInspect container => fixed ["docker", "inspect"] ++ [.arg container.1]
  | .dockerLogs lines container =>
      fixed ["docker", "logs", "--tail"] ++ [.arg (lines.text lines_inRange)] ++
        fixed ["--timestamps"] ++ [.arg container.1]
  | .serviceStatus unit =>
      fixed ["systemctl", "show"] ++ [.arg unit.1] ++
        fixed ["-p", "LoadState", "-p", "ActiveState", "-p", "SubState", "-p", "UnitFileState", "-p",
          "ExecMainPID", "-p", "MemoryCurrent", "-p", "NRestarts", "-p", "FragmentPath", "--no-pager"]
  | .serviceLogs unit lines =>
      fixed ["journalctl", "-u"] ++ [.arg unit.1] ++ fixed ["-n"] ++
        [.arg (lines.text lines_inRange)] ++ fixed ["--no-pager", "-o", "short-iso"]
  | .serviceAction action unit => fixed ["systemctl"] ++ [.arg action.1, .arg unit.1]
  | .gitHead repo => fixed ["git", "-C"] ++ [.arg repo.1] ++ fixed ["rev-parse", "HEAD"]
  | .gitLog repo =>
      fixed ["git", "-C"] ++ [.arg repo.1] ++ fixed ["log", "-1", "--format=%H%n%an%n%aI%n%s"]
  | .gitStatus repo =>
      fixed ["git", "-C"] ++ [.arg repo.1] ++
        fixed ["-c", "core.quotepath=false", "status", "--porcelain=v1", "-b"]
  | .gitDiff repo => fixed ["git", "-C"] ++ [.arg repo.1] ++ fixed ["diff", "--stat"]
  | .gitDiffStaged repo => fixed ["git", "-C"] ++ [.arg repo.1] ++ fixed ["diff", "--cached", "--stat"]
  | .fsRealpath path => fixed ["realpath", "-e", "--"] ++ [.arg path.1]
  | .fsList path => fixed ["ls", "-la", "--time-style=long-iso"] ++ [.arg path.1]
  | .fsStatSize path => fixed ["stat", "-c", "%s"] ++ [.arg path.1]
  | .fsReadHead bytes path =>
      fixed ["head", "-c"] ++ [.arg (bytes.text bytes_inRange), .arg path.1]

def ReadOperation.argv (o : ReadOperation) : List JsString := o.items.map ArgvItem.text

def operationArgv (x : AgentOperation) : Except String (List JsString) := do
  return (← readOperation x).argv

/-- The operation with its arguments as they are printed. -/
def ReadOperation.normal : ReadOperation → AgentOperation
  | .hostHostname => ⟨js "host.hostname", []⟩
  | .hostUname => ⟨js "host.uname", []⟩
  | .hostLoadavg => ⟨js "host.loadavg", []⟩
  | .hostUptimePretty => ⟨js "host.uptime_pretty", []⟩
  | .hostUptimeSince => ⟨js "host.uptime_since", []⟩
  | .hostOsRelease => ⟨js "host.os_release", []⟩
  | .hostDiskUsage => ⟨js "host.disk_usage", []⟩
  | .hostMemory => ⟨js "host.memory", []⟩
  | .dockerList => ⟨js "docker.list", []⟩
  | .dockerRunning => ⟨js "docker.running", []⟩
  | .dockerHealth container => ⟨js "docker.health", [(js "container", .str container.1)]⟩
  | .dockerInspect container => ⟨js "docker.inspect", [(js "container", .str container.1)]⟩
  | .dockerLogs lines container =>
      ⟨js "docker.logs",
        [(js "container", .str container.1), (js "lines", lines.toJson lines_inRange)]⟩
  | .serviceStatus unit => ⟨js "service.status", [(js "unit", .str unit.1)]⟩
  | .serviceLogs unit lines =>
      ⟨js "service.logs", [(js "unit", .str unit.1), (js "lines", lines.toJson lines_inRange)]⟩
  | .serviceAction action unit =>
      ⟨js "service.action", [(js "action", .str action.1), (js "unit", .str unit.1)]⟩
  | .gitHead repo => ⟨js "git.head", [(js "repo", .str repo.1)]⟩
  | .gitLog repo => ⟨js "git.log", [(js "repo", .str repo.1)]⟩
  | .gitStatus repo => ⟨js "git.status", [(js "repo", .str repo.1)]⟩
  | .gitDiff repo => ⟨js "git.diff", [(js "repo", .str repo.1)]⟩
  | .gitDiffStaged repo => ⟨js "git.diff_staged", [(js "repo", .str repo.1)]⟩
  | .fsRealpath path => ⟨js "fs.realpath", [(js "path", .str path.1)]⟩
  | .fsList path => ⟨js "fs.list", [(js "path", .str path.1)]⟩
  | .fsStatSize path => ⟨js "fs.stat_size", [(js "path", .str path.1)]⟩
  | .fsReadHead bytes path =>
      ⟨js "fs.read_head", [(js "bytes", bytes.toJson bytes_inRange), (js "path", .str path.1)]⟩

/-! ## The checks accept what they have let through -/

theorem textOf_str (s : JsString) : textOf (some (.str s)) = .ok s := rfl

theorem safeId_str (id : AgentId) : safeId (some (.str id.1)) = .ok id := by
  rw [safeId, textOf_str]
  exact dif_pos id.2

theorem safePath_str (path : AgentPath) : safePath (some (.str path.1)) = .ok path := by
  have hplain : isPlainPath path.1 = true := (Bool.and_eq_true_iff.mp path.2).1
  rw [safePath, textOf_str, ok_bind, if_pos hplain]
  exact dif_pos path.2

theorem safeOneOf_str {words : List JsString} {error : String} (w : OneOf words) :
    safeOneOf words error (some (.str w.1)) = .ok w := by
  rw [safeOneOf, textOf_str]
  exact dif_pos w.2

theorem safeCount_text {max : ℕ} {error : String} (n : Count max) (h : max < 2 ^ 53) :
    safeCount max error (some (.str (n.text h))) = .ok n := by
  have hread : numOrNaN (some (.str (n.text h))) = some (n.number h) :=
    congrArg some (numberOfString_text _)
  have hint : (n.number h).toInt? = some n.1 := JsNumber.toInt?_ofInt _ _
  rw [safeCount, hread]
  dsimp only
  rw [hint]
  exact dif_pos n.2

/-! ## Printed commands are recognised -/

theorem join_ne {w s : JsString} {u : CodeUnit} (hw : w.head? = some u) (hs : s.head? ≠ some u)
    (sep : JsString) (rest : List JsString) : join sep (w :: rest) ≠ s := by
  have hhead : (join sep (w :: rest)).head? = some u := by
    cases rest with
    | nil => exact hw
    | cons v rest =>
        rw [join, List.append_assoc, List.head?_append, hw]
        rfl
  rintro rfl
  exact hs hhead

/-- A subcommand that does not begin with `p` is no `docker ps`. -/
theorem not_dockerPs {w : JsString} {u : CodeUnit} (hw : w.head? = some u) (hu : u ≠ unit 'p')
    (rest : List JsString) :
    join (js " ") (w :: rest) ≠ js "ps -a --format {{json .}}" ∧
      join (js " ") (w :: rest) ≠ js "ps -q" := by
  have hp : some (unit 'p') ≠ some u := fun heq => hu (Option.some.inj heq).symm
  have hlist : (js "ps -a --format {{json .}}").head? ≠ some u := hp
  have hrunning : (js "ps -q").head? ≠ some u := hp
  exact ⟨join_ne hw hlist _ _, join_ne hw hrunning _ _⟩

theorem head_agentPath (path : AgentPath) : path.1.head? = some (unit '/') := by
  have hplain : isPlainPath path.1 = true := (Bool.and_eq_true_iff.mp path.2).1
  simp only [isPlainPath, Bool.and_eq_true] at hplain
  obtain ⟨rest, hrest⟩ := startsWith_iff.mp hplain.1.1.1
  rw [← hrest]
  rfl

theorem agentPath_ne (path : AgentPath) {w : JsString} (hw : w.head? ≠ some (unit '/')) :
    w ≠ path.1 := by
  rintro rfl
  exact hw (head_agentPath path)

theorem withId_ok (op key : String) (id : AgentId) :
    withId op key (some (.str id.1)) = .ok ⟨js op, [(js key, .str id.1)]⟩ := by
  rw [withId, safeId_str]
  rfl

theorem withPath_ok (op key : String) (path : AgentPath) :
    withPath op key (some (.str path.1)) = .ok ⟨js op, [(js key, .str path.1)]⟩ := by
  rw [withPath, safePath_str]
  rfl

/-- Every printed command is recognised as the operation it was printed from. -/
theorem argvToAgentOperation_argv (o : ReadOperation) :
    argvToAgentOperation o.argv = .ok o.normal := by
  cases o with
  | hostHostname =>
      show argvToAgentOperation [js "hostname"] =
        .ok ⟨js "host.hostname", []⟩
      simp +decide [argvToAgentOperation]
  | hostUname =>
      show argvToAgentOperation [js "uname", js "-srm"] =
        .ok ⟨js "host.uname", []⟩
      simp +decide [argvToAgentOperation]
  | hostLoadavg =>
      show argvToAgentOperation [js "cat", js "/proc/loadavg"] =
        .ok ⟨js "host.loadavg", []⟩
      simp +decide [argvToAgentOperation]
  | hostUptimePretty =>
      show argvToAgentOperation [js "uptime", js "-p"] =
        .ok ⟨js "host.uptime_pretty", []⟩
      simp +decide [argvToAgentOperation]
  | hostUptimeSince =>
      show argvToAgentOperation [js "uptime", js "-s"] =
        .ok ⟨js "host.uptime_since", []⟩
      simp +decide [argvToAgentOperation]
  | hostOsRelease =>
      show argvToAgentOperation [js "head", js "-n", js "5", js "/etc/os-release"] =
        .ok ⟨js "host.os_release", []⟩
      simp +decide [argvToAgentOperation]
  | hostDiskUsage =>
      show argvToAgentOperation [js "df", js "-hP"] =
        .ok ⟨js "host.disk_usage", []⟩
      simp +decide [argvToAgentOperation]
  | hostMemory =>
      show argvToAgentOperation [js "free", js "-b"] =
        .ok ⟨js "host.memory", []⟩
      simp +decide [argvToAgentOperation]
  | dockerList =>
      show argvToAgentOperation [js "docker", js "ps", js "-a", js "--format", js "{{json .}}"] =
        .ok ⟨js "docker.list", []⟩
      simp +decide [argvToAgentOperation]
  | dockerRunning =>
      show argvToAgentOperation [js "docker", js "ps", js "-q"] =
        .ok ⟨js "docker.running", []⟩
      simp +decide [argvToAgentOperation]
  | dockerHealth container =>
      have hps := not_dockerPs (w := js "inspect") (u := unit 'i') rfl (by decide)
      have hcheck := withId_ok "docker.health" "container" container
      show argvToAgentOperation [js "docker", js "inspect", js "--format", js "{{json .State}}", container.1] =
        .ok ⟨js "docker.health", [(js "container", .str container.1)]⟩
      simp +decide [argvToAgentOperation, isAt, argAt, hps, hcheck]
  | dockerInspect container =>
      have hps := not_dockerPs (w := js "inspect") (u := unit 'i') rfl (by decide)
      have hcheck := withId_ok "docker.inspect" "container" container
      show argvToAgentOperation [js "docker", js "inspect", container.1] =
        .ok ⟨js "docker.inspect", [(js "container", .str container.1)]⟩
      simp +decide [argvToAgentOperation, isAt, argAt, hps, hcheck]
  | dockerLogs lines container =>
      have hps := not_dockerPs (w := js "logs") (u := unit 'l') rfl (by decide)
      have hlines : safeLines (some (.str (lines.text lines_inRange))) = .ok lines :=
        safeCount_text lines _
      show argvToAgentOperation [js "docker", js "logs", js "--tail", lines.text lines_inRange,
          js "--timestamps", container.1] =
        .ok ⟨js "docker.logs",
          [(js "container", .str container.1), (js "lines", lines.toJson lines_inRange)]⟩
      simp +decide [argvToAgentOperation, isAt, argAt, hps, safeId_str container, hlines, ok_bind]
  | serviceStatus unit =>
      have hcheck := withId_ok "service.status" "unit" unit
      show argvToAgentOperation [js "systemctl", js "show", unit.1, js "-p", js "LoadState", js "-p", js "ActiveState", js "-p", js "SubState", js "-p", js "UnitFileState", js "-p", js "ExecMainPID", js "-p", js "MemoryCurrent", js "-p", js "NRestarts", js "-p", js "FragmentPath", js "--no-pager"] =
        .ok ⟨js "service.status", [(js "unit", .str unit.1)]⟩
      simp +decide [argvToAgentOperation, isAt, argAt, hcheck]
  | serviceLogs unit lines =>
      have hlines : safeLines (some (.str (lines.text lines_inRange))) = .ok lines :=
        safeCount_text lines _
      show argvToAgentOperation [js "journalctl", js "-u", unit.1, js "-n", lines.text lines_inRange,
          js "--no-pager", js "-o", js "short-iso"] =
        .ok ⟨js "service.logs", [(js "unit", .str unit.1), (js "lines", lines.toJson lines_inRange)]⟩
      simp +decide [argvToAgentOperation, isAt, argAt, safeId_str unit, hlines, ok_bind]
  | serviceAction action unit =>
      have haction : safeServiceAction (some (.str action.1)) = .ok action := safeOneOf_str action
      have hshow : action.1 ≠ js "show" := fun heq => absurd (heq ▸ action.2) (by decide)
      show argvToAgentOperation [js "systemctl", action.1, unit.1] =
        .ok ⟨js "service.action", [(js "action", .str action.1), (js "unit", .str unit.1)]⟩
      simp +decide [argvToAgentOperation, isAt, argAt, hshow, action.2, haction,
        safeId_str unit, ok_bind]
  | gitHead repo =>
      have hcheck := withPath_ok "git.head" "repo" repo
      show argvToAgentOperation [js "git", js "-C", repo.1, js "rev-parse", js "HEAD"] =
        .ok ⟨js "git.head", [(js "repo", .str repo.1)]⟩
      simp +decide [argvToAgentOperation, isAt, argAt, hcheck]
  | gitLog repo =>
      have hcheck := withPath_ok "git.log" "repo" repo
      show argvToAgentOperation [js "git", js "-C", repo.1, js "log", js "-1", js "--format=%H%n%an%n%aI%n%s"] =
        .ok ⟨js "git.log", [(js "repo", .str repo.1)]⟩
      simp +decide [argvToAgentOperation, isAt, argAt, hcheck]
  | gitStatus repo =>
      have hcheck := withPath_ok "git.status" "repo" repo
      show argvToAgentOperation [js "git", js "-C", repo.1, js "-c", js "core.quotepath=false", js "status", js "--porcelain=v1", js "-b"] =
        .ok ⟨js "git.status", [(js "repo", .str repo.1)]⟩
      simp +decide [argvToAgentOperation, isAt, argAt, hcheck]
  | gitDiff repo =>
      have hstatus : js "status" ≠ repo.1 := agentPath_ne repo (by decide)
      have hcached : js "--cached" ≠ repo.1 := agentPath_ne repo (by decide)
      have hcheck := withPath_ok "git.diff" "repo" repo
      show argvToAgentOperation [js "git", js "-C", repo.1, js "diff", js "--stat"] =
        .ok ⟨js "git.diff", [(js "repo", .str repo.1)]⟩
      simp +decide [argvToAgentOperation, isAt, argAt, hstatus, hcached, hcheck]
  | gitDiffStaged repo =>
      have hstatus : js "status" ≠ repo.1 := agentPath_ne repo (by decide)
      have hcheck := withPath_ok "git.diff_staged" "repo" repo
      show argvToAgentOperation [js "git", js "-C", repo.1, js "diff", js "--cached", js "--stat"] =
        .ok ⟨js "git.diff_staged", [(js "repo", .str repo.1)]⟩
      simp +decide [argvToAgentOperation, isAt, argAt, hstatus, hcheck]
  | fsRealpath path =>
      have hcheck := withPath_ok "fs.realpath" "path" path
      show argvToAgentOperation [js "realpath", js "-e", js "--", path.1] =
        .ok ⟨js "fs.realpath", [(js "path", .str path.1)]⟩
      simp +decide [argvToAgentOperation, isAt, argAt, hcheck]
  | fsList path =>
      have hcheck := withPath_ok "fs.list" "path" path
      show argvToAgentOperation [js "ls", js "-la", js "--time-style=long-iso", path.1] =
        .ok ⟨js "fs.list", [(js "path", .str path.1)]⟩
      simp +decide [argvToAgentOperation, isAt, argAt, hcheck]
  | fsStatSize path =>
      have hcheck := withPath_ok "fs.stat_size" "path" path
      show argvToAgentOperation [js "stat", js "-c", js "%s", path.1] =
        .ok ⟨js "fs.stat_size", [(js "path", .str path.1)]⟩
      simp +decide [argvToAgentOperation, isAt, argAt, hcheck]
  | fsReadHead bytes path =>
      have hbytes : safeBytes (some (.str (bytes.text bytes_inRange))) = .ok bytes :=
        safeCount_text bytes _
      show argvToAgentOperation [js "head", js "-c", bytes.text bytes_inRange, path.1] =
        .ok ⟨js "fs.read_head", [(js "bytes", bytes.toJson bytes_inRange), (js "path", .str path.1)]⟩
      simp +decide [argvToAgentOperation, isAt, argAt, hbytes, safePath_str path, ok_bind]

/-! ## What the checks keep out -/

/-- No NUL and no line break, and no option. -/
def Clean (s : JsString) : Prop :=
  (∀ u ∈ s, isNulOrNewline u = false) ∧ s.head? ≠ some (unit '-')

instance decidableClean (s : JsString) : Decidable (Clean s) :=
  @instDecidableAnd _ _ (List.decidableBAll _ s) inferInstance

theorem isNulOrNewline_cases {u : CodeUnit} (hu : isNulOrNewline u = true) :
    u = 0 ∨ u = 10 ∨ u = 13 := by
  simpa [isNulOrNewline, or_assoc] using hu

theorem clean_agentId (id : AgentId) : Clean id.1 := by
  obtain ⟨s, hs⟩ := id
  cases s with
  | nil => cases hs
  | cons u s =>
      rw [isAgentId, matchesHeadTail, Bool.and_eq_true] at hs
      obtain ⟨hu, htail⟩ := hs
      have hchars : ∀ v ∈ u :: s, isIdChar v = true := by
        intro v hv
        rcases List.mem_cons.mp hv with rfl | hv
        · rw [isIdChar, hu, Bool.true_or]
        · exact (matchesClass_iff.mp htail).1 v hv
      constructor
      · intro v hv
        by_contra hbad
        rw [Bool.not_eq_false] at hbad
        have hchar := hchars v hv
        rcases isNulOrNewline_cases hbad with rfl | rfl | rfl <;> revert hchar <;> decide
      · intro hdash
        obtain rfl := Option.some.inj hdash
        revert hu
        decide

theorem clean_agentPath (path : AgentPath) : Clean path.1 := by
  have hplain : isPlainPath path.1 = true := (Bool.and_eq_true_iff.mp path.2).1
  simp only [isPlainPath, Bool.and_eq_true, Bool.not_eq_true'] at hplain
  constructor
  · intro u hu
    have hnone := List.any_eq_false.mp hplain.1.1.2 u hu
    rwa [Bool.not_eq_true] at hnone
  · rw [head_agentPath]
    decide

theorem clean_serviceActions : ∀ w ∈ serviceActions, Clean w := by
  simp only [serviceActions, List.forall_mem_cons]
  exact ⟨by decide, by decide, by decide, by decide, List.forall_mem_nil _⟩

theorem clean_count {max : ℕ} (n : Count max) (h : max < 2 ^ 53) : Clean (n.text h) := by
  have hpos : 0 < n.1 * (scale : ℤ) := by
    have hn := n.2.1
    have hscale : (0 : ℤ) < scale := by exact_mod_cast scale_pos
    positivity
  rw [Count.text, Count.number, JsNumber.ofInt, JsNumber.text]
  generalize hx : (⟨n.1 * scale, _, _⟩ : Double) = x
  have hchars := numeral_doubleText x
  obtain ⟨c, cs, htext, hdigit⟩ := head_doubleText_of_pos (x := x) (by rw [← hx]; exact hpos)
  rw [htext] at hchars ⊢
  constructor
  · intro u hu
    obtain ⟨d, hd, rfl⟩ := mem_ofChars hchars hu
    by_contra hbad
    rw [Bool.not_eq_false] at hbad
    have hvalue := toNat_unit hd
    have hrange := toNat_of_isNumeralChar hd
    rcases isNulOrNewline_cases hbad with heq | heq | heq <;>
      · rw [heq] at hvalue
        change _ = _ at hvalue
        simp at hvalue
        omega
  · rw [ofChars_numeral hchars, List.map_cons, List.head?_cons]
    intro hdash
    have hvalue := toNat_unit (hchars c List.mem_cons_self)
    rw [Option.some.inj hdash] at hvalue
    have hminus : c = '-' := Char.toNat_inj.mp hvalue.symm
    rw [hminus] at hdigit
    revert hdigit
    decide

theorem arg_notMem_fixed (s : JsString) (ws : List String) : .arg s ∉ fixed ws := by
  intro hs
  obtain ⟨w, -, heq⟩ := List.mem_map.mp hs
  cases heq

/-- Whatever is printed from an argument is clean. -/
theorem clean_of_arg (o : ReadOperation) : ∀ s, .arg s ∈ o.items → Clean s := by
  intro s hs
  cases o with
  | dockerHealth id | dockerInspect id | serviceStatus id =>
      simp only [ReadOperation.items, List.mem_append, List.mem_singleton, ArgvItem.arg.injEq,
        arg_notMem_fixed, false_or, or_false] at hs
      exact hs ▸ clean_agentId id
  | gitHead path | gitLog path | gitStatus path | gitDiff path | gitDiffStaged path
  | fsRealpath path | fsList path | fsStatSize path =>
      simp only [ReadOperation.items, List.mem_append, List.mem_singleton, ArgvItem.arg.injEq,
        arg_notMem_fixed, false_or, or_false] at hs
      exact hs ▸ clean_agentPath path
  | dockerLogs lines id | serviceLogs id lines =>
      simp only [ReadOperation.items, List.mem_append, List.mem_singleton, ArgvItem.arg.injEq,
        arg_notMem_fixed, false_or, or_false] at hs
      rcases hs with rfl | rfl
      all_goals first
        | exact clean_agentId id
        | exact clean_count lines _
  | serviceAction action id =>
      simp only [ReadOperation.items, List.mem_append, List.mem_cons, List.not_mem_nil,
        ArgvItem.arg.injEq, arg_notMem_fixed, false_or, or_false] at hs
      rcases hs with rfl | rfl
      · exact clean_serviceActions _ action.2
      · exact clean_agentId id
  | fsReadHead bytes path =>
      simp only [ReadOperation.items, List.mem_append, List.mem_cons, List.not_mem_nil,
        ArgvItem.arg.injEq, arg_notMem_fixed, false_or, or_false] at hs
      rcases hs with rfl | rfl
      · exact clean_count bytes _
      · exact clean_agentPath path
  | _ => exact absurd hs (arg_notMem_fixed s _)

/-! ## Printing and parsing back -/

/-- The operation with its arguments reduced to the strings and integers printed. -/
def normalOperation (x : AgentOperation) : Except String AgentOperation := do
  return (← readOperation x).normal

section Names

variable {x : AgentOperation} {name : String} {o : ReadOperation}

theorem op_of_ite {A B : Except String ReadOperation} (hA : A = .ok o → o.normal.op = js name)
    (hB : B = .ok o → o.normal.op = x.op) :
    (if decide (x.op = js name) then A else B) = .ok o → o.normal.op = x.op := by
  intro h
  by_cases hop : x.op = js name
  · rw [if_pos (decide_eq_true hop)] at h
    rw [hop]
    exact hA h
  · rw [if_neg (by simpa using hop)] at h
    exact hB h

theorem op_of_ok {o' : ReadOperation} (hop : o'.normal.op = js name) :
    (Except.ok o' : Except String ReadOperation) = .ok o → o.normal.op = js name := by
  intro h
  rw [← Except.ok.inj h]
  exact hop

theorem op_of_return {α : Type} {c : Except String α} {f : α → ReadOperation}
    (hf : ∀ a, (f a).normal.op = js name) :
    (do return f (← c)) = Except.ok o → o.normal.op = js name := by
  intro h
  obtain ⟨a, -, h⟩ := bind_eq_ok h
  exact op_of_ok (hf a) h

theorem op_of_return₂ {α β : Type} {c : Except String α} {d : Except String β}
    {f : α → β → ReadOperation} (hf : ∀ a b, (f a b).normal.op = js name) :
    (do return f (← c) (← d)) = Except.ok o → o.normal.op = js name := by
  intro h
  obtain ⟨a, -, h⟩ := bind_eq_ok h
  exact op_of_return (hf a) h

/-- The checks are those of the operation that is asked for. -/
theorem op_normal : readOperation x = .ok o → o.normal.op = x.op := by
  unfold readOperation
  refine op_of_ite (op_of_ok rfl) ?_
  refine op_of_ite (op_of_ok rfl) ?_
  refine op_of_ite (op_of_ok rfl) ?_
  refine op_of_ite (op_of_ok rfl) ?_
  refine op_of_ite (op_of_ok rfl) ?_
  refine op_of_ite (op_of_ok rfl) ?_
  refine op_of_ite (op_of_ok rfl) ?_
  refine op_of_ite (op_of_ok rfl) ?_
  refine op_of_ite (op_of_ok rfl) ?_
  refine op_of_ite (op_of_ok rfl) ?_
  -- docker
  refine op_of_ite (op_of_return fun _ => rfl) ?_
  refine op_of_ite (op_of_return fun _ => rfl) ?_
  refine op_of_ite (op_of_return₂ fun _ _ => rfl) ?_
  -- systemctl and journalctl
  refine op_of_ite (op_of_return fun _ => rfl) ?_
  refine op_of_ite (op_of_return₂ fun _ _ => rfl) ?_
  refine op_of_ite (op_of_return₂ fun _ _ => rfl) ?_
  -- git
  refine op_of_ite (op_of_return fun _ => rfl) ?_
  refine op_of_ite (op_of_return fun _ => rfl) ?_
  refine op_of_ite (op_of_return fun _ => rfl) ?_
  refine op_of_ite (op_of_return fun _ => rfl) ?_
  refine op_of_ite (op_of_return fun _ => rfl) ?_
  -- files
  refine op_of_ite (op_of_return fun _ => rfl) ?_
  refine op_of_ite (op_of_return fun _ => rfl) ?_
  refine op_of_ite (op_of_return fun _ => rfl) ?_
  refine op_of_ite (op_of_return₂ fun _ _ => rfl) ?_
  intro h
  cases h

end Names

/-- What holds of the command printed for an operation. -/
structure PrintsBack (x : AgentOperation) (argv : List JsString) : Prop where
  /-- it is parsed as the same operation, with the arguments as printed -/
  parsed : ∃ n, normalOperation x = .ok n ∧ n.op = x.op ∧ argvToAgentOperation argv = .ok n
  /-- no other operation is printed so -/
  unique : ∀ y, operationArgv y = .ok argv → normalOperation y = normalOperation x
  /-- what comes from the arguments is clean -/
  clean : ∃ o, readOperation x = .ok o ∧ o.items.map ArgvItem.text = argv ∧
    ∀ s, .arg s ∈ o.items → Clean s

theorem operationArgv_eq_ok {x : AgentOperation} {argv : List JsString}
    (h : operationArgv x = .ok argv) : ∃ o, readOperation x = .ok o ∧ o.argv = argv := by
  obtain ⟨o, ho, h⟩ := bind_eq_ok h
  exact ⟨o, ho, Except.ok.inj h⟩

theorem parse_operationArgv {x : AgentOperation} {argv : List JsString}
    (h : operationArgv x = .ok argv) : argvToAgentOperation argv = normalOperation x := by
  obtain ⟨o, ho, rfl⟩ := operationArgv_eq_ok h
  rw [argvToAgentOperation_argv, normalOperation, ho]
  rfl

theorem printsBack {x : AgentOperation} {argv : List JsString} (h : operationArgv x = .ok argv) :
    PrintsBack x argv := by
  obtain ⟨o, ho, hargv⟩ := operationArgv_eq_ok h
  have hparse := parse_operationArgv h
  have hnormal : normalOperation x = .ok o.normal := by
    rw [normalOperation, ho]
    rfl
  refine ⟨⟨o.normal, hnormal, op_normal ho, hparse.trans hnormal⟩, fun y hy => ?_,
    o, ho, hargv, clean_of_arg o⟩
  exact (parse_operationArgv hy).symm.trans hparse

/-- The log lines of a container, with arguments that are not yet in normal form. -/
def sampleLogs : AgentOperation where
  op := js "docker.logs"
  args := [(js "lines", .str (js " 0x10 ")), (js "container", .arr [.str (js "web")])]

theorem printsBack_sampleLogs :
    PrintsBack sampleLogs
      [js "docker", js "logs", js "--tail", js "16", js "--timestamps", js "web"] :=
  printsBack (by decide +kernel)

end RemoteOps

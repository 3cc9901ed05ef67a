import RemoteOps.Security.RemotePaths
import RemoteOps.Tools.DockerList
import RemoteOps.Tools.Gates
import RemoteOps.Transition.Attempt

/-!
# What the tools send

A call of a tool resolves its target, makes its checks and then sends commands or agent operations
to that target, some of them after the answers to others. A `ToolRun` is this part of a call: it
ends when the last answer is there. What a tool makes of the answers sends nothing more and is left
out here.

Requests that are sent before any of them is awaited (`Promise.all`) are one request of the
program, which is answered by the list of their answers.
-/

namespace RemoteOps

open Ecma Transition

/-! ## Requests -/

inductive TargetRequest where
  /-- `T.exec(argv)` -/
  | exec (argv : List JsString)
  /-- `dispatchAgentOperation(t.deviceId, operation)` -/
  | operation (operation : AgentOperation)

/-- A request with the target it is sent to, in the configuration that the call has resolved. -/
structure Sent where
  target : TargetConfig
  request : TargetRequest

abbrev SentAnswer : Type := Except RunFailure ExecResult

/-- The answers to a list of requests, by their position. -/
abbrev SentAnswers : Type := ℕ → SentAnswer

abbrev ToolRun : Type → Type := Attempt (List Sent) SentAnswers RunFailure

def gate {α : Type} (x : Except OpsError α) : ToolRun α :=
  Attempt.ofExcept (x.mapError RunFailure.ops)

def exec (t : TargetConfig) (argv : List JsString) : ToolRun ExecResult := do
  let answers ← Attempt.call [⟨t, .exec argv⟩]
  Attempt.ofExcept (answers 0)

/-- Commands of which none is awaited before all are sent. -/
def execAll (t : TargetConfig) (commands : List (List JsString)) : ToolRun SentAnswers :=
  Attempt.call (commands.map fun argv => ⟨t, .exec argv⟩)

/-- `agentJson`, as far as the answer. -/
def agentJson (t : TargetConfig) (operation : AgentOperation) : ToolRun ExecResult := do
  gate (requireAgent t)
  let answers ← Attempt.call [⟨t, .operation operation⟩]
  Attempt.ofExcept (answers 0)

def requireExec (res : ExecResult) (argv0 : String) : Except OpsError ExecResult := do
  requireThat (res.code ≠ none) "SSH_UNAVAILABLE"
    (js "comando interrompido (" ++ js argv0 ++ js ")")
  return res

def send (t : TargetConfig) : TargetRequest → ToolRun ExecResult
  | .exec argv => exec t argv
  | .operation operation => agentJson t operation

/-! ## Paths that are resolved on the target -/

/-- What `canonicalRealPath` does before it asks the target. -/
def normalizedPath (inputPath : JsString) : Except OpsError JsString :=
  let cleaned := sanitizeSegments inputPath
  let segs := (pathSegments cleaned).filter fun s => s ≠ [] && s ≠ js "."
  let normalized := js "/" ++ join (js "/") segs
  if !startsWith cleaned (js "/") then pathDenied "caminho deve ser absoluto"
  else if segs = [] then pathDenied "caminho vazio não é permitido"
  else if js ".." ∈ segs then pathDenied "path traversal não é permitido"
  else if denySecretPath normalized then
    .error ⟨"SECRET_PATH_DENIED", js "caminho nega regra de segredo"⟩
  else .ok normalized

/-- What it does with the line that was printed. -/
def acceptedRealPath (real : JsString) : Except OpsError JsString :=
  if !startsWith real (js "/") || ((pathSegments real).filter (· ≠ [])).contains (js "..") then
    pathDenied "caminho resolvido inválido"
  else if denySecretPath real then
    .error ⟨"SECRET_PATH_DENIED", js "caminho real nega regra de segredo (symlink?)"⟩
  else .ok real

/-- The real path in an answer of `realpath`. -/
def realPathOf : SentAnswer → Except OpsError JsString
  | .ok res =>
      if res.code ≠ some (JsNumber.ofInt 0 inRange_zero) then
        pathDenied "caminho inexistente ou inacessível"
      else acceptedRealPath (headLine res.stdout)
  | .error (.ops e) => .error e
  | .error .other => pathDenied "falha ao resolver caminho"

def askRealPath (t : TargetConfig) (inputPath : JsString) : ToolRun JsString := do
  let normalized ← gate (normalizedPath inputPath)
  let answers ← Attempt.call [⟨t, .exec (realpathCommand normalized)⟩]
  gate (realPathOf (answers 0))

def requireInside (roots : List JsString) (unset outside : JsString) (real : JsString) :
    Except OpsError JsString :=
  if roots = [] then .error ⟨"PATH_DENIED", unset⟩
  else if !isInsideSome roots real then .error ⟨"PATH_DENIED", outside⟩
  else .ok real

def askCheckedPath (t : TargetConfig) (inputPath : JsString) : ToolRun JsString := do
  let real ← askRealPath t inputPath
  gate (requireInside t.allowedPaths
    (js "target \"" ++ t.id ++ js "\" não possui allowedPaths configurado")
    (js "caminho fora da allowlist do target \"" ++ t.id ++ js "\"") real)

def askCheckedProcessCwd (t : TargetConfig) (inputPath : JsString) : ToolRun JsString := do
  let real ← askRealPath t inputPath
  gate (requireInside t.allowedProcessCwds
    (js "target \"" ++ t.id ++ js "\" não possui allowedProcessCwds configurado")
    (js "cwd fora da allowlist do target \"" ++ t.id ++ js "\"") real)

/-- The loop over the configured repositories; one that cannot be resolved is passed over. -/
def askRepos (t : TargetConfig) (real : JsString) : List JsString → ToolRun JsString
  | [] =>
      gate (.error ⟨"REPO_NOT_ALLOWED",
        js "repositório \"" ++ real ++ js "\" não está na allowlist do target"⟩)
  | configured :: rest => do
      let allowed ← (askRealPath t configured).caught
      if allowed = some real then return real else askRepos t real rest

def askCheckedGitRepo (t : TargetConfig) (inputPath : JsString) : ToolRun JsString := do
  let real ← askRealPath t inputPath
  if t.allowedGitRepos = [] then
    gate (.error ⟨"REPO_NOT_ALLOWED",
      js "target \"" ++ t.id ++ js "\" não possui allowedGitRepos configurado"⟩)
  else askRepos t real t.allowedGitRepos

end RemoteOps

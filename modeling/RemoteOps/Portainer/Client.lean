import RemoteOps.Auth.OAuth
import RemoteOps.Ecma.JsonText
import RemoteOps.Ecma.OrderedMap
import RemoteOps.Security.Redaction
import RemoteOps.Transition.TwoRuns

/-!
# The Portainer client

The tools on stacks, as programs that talk to the API of a Portainer server. Everything the
server answers is arbitrary: the status, the text of the body, and what its JSON holds. A tool
ends with a result or throws.
-/

namespace RemoteOps

open Ecma Transition

/-! ## Requests -/

/-- An error with the hint that is shown beside its message. -/
structure HintedError where
  code : String
  message : JsString
  hint : Option JsString := none
  deriving DecidableEq

/-- What a tool throws. -/
inductive PortainerThrow where
  | ops (e : HintedError)
  /-- an exception of the language -/
  | typeError
  deriving DecidableEq

structure PortainerConfig where
  portainerUrl : JsString
  apiKeyFile : JsString
  cachedApiKey : Option JsString
  /-- what the key file holds, if it can be read -/
  keyFileText : Option JsString

structure PortainerCall where
  url : JsString
  method : JsString
  apiKey : JsString
  body : Option Json := none

inductive PortainerAnswer where
  | response (status : ℕ) (text : JsString)
  /-- the time is over -/
  | aborted
  | failed (message : JsString)
  deriving DecidableEq

abbrev Portainer (α : Type) := ExceptT PortainerThrow (Program PortainerCall PortainerAnswer) α

abbrev PortainerExchanges := List (PortainerCall × PortainerAnswer)

/-- A key that was read is cached, so that the requests of one tool all have the same. -/
def apiKey (cfg : PortainerConfig) : Except PortainerThrow JsString :=
  match cfg.cachedApiKey with
  | some token => .ok token
  | none =>
      match cfg.keyFileText with
      | none =>
          .error (.ops ⟨"CAPABILITY_DENIED", js "Portainer API não configurada",
            some (js "crie um access token no Portainer e grave-o somente em " ++
              cfg.apiKeyFile)⟩)
      | some raw =>
          let token := trim raw
          if token.isEmpty || token.length < 16 || token.any isWhite then
            .error (.ops ⟨"CAPABILITY_DENIED", js "token do Portainer ausente ou inválido", none⟩)
          else .ok token

def apiUrl (cfg : PortainerConfig) (path : JsString) : JsString :=
  let normalized := if startsWith path (js "/") then path else js "/" ++ path
  dropTrailing (unit '/') cfg.portainerUrl ++ js "/api" ++ normalized

/-- The body as JSON, or as text when it is none. -/
def responsePayload (text : JsString) : Json :=
  if text.isEmpty then .null
  else (parse (toChars text)).getD (.str (redactText (text.take 1000)))

/-- What an error tells of the body. -/
def responseDetail (payload : Json) : JsString :=
  match payload with
  | .arr _ | .obj _ => (ofChars (redactObject payload).stringify).take 800
  | x => ((strOrEmpty (some x)).getD []).take 800

def statusText (status : ℕ) : JsString := ofChars (digitsText status)

def responseError (status : ℕ) (payload : Json) : HintedError :=
  if status = 401 ∨ status = 403 then
    ⟨"CAPABILITY_DENIED",
      js "Portainer recusou a credencial (HTTP " ++ statusText status ++ js ")",
      some (js "gere um novo Access Token em My Account → Access tokens")⟩
  else
    ⟨"REMOTE_COMMAND_FAILED", js "Portainer API retornou HTTP " ++ statusText status,
      if responseDetail payload = [] then none else some (responseDetail payload)⟩

/-- `response.ok`. -/
def isOkStatus (status : ℕ) : Bool := 200 ≤ status && status ≤ 299

def readAnswer : PortainerAnswer → Except PortainerThrow Json
  | .response status text =>
      let payload := responsePayload text
      if isOkStatus status then .ok payload else .error (.ops (responseError status payload))
  | .aborted => .error (.ops ⟨"COMMAND_TIMEOUT", js "timeout ao acessar Portainer API", none⟩)
  | .failed message =>
      .error (.ops ⟨"REMOTE_COMMAND_FAILED", js "falha ao acessar Portainer API",
        some (redactText message)⟩)

def askPortainer (call : PortainerCall) : Portainer PortainerAnswer :=
  ExceptT.lift (Program.call call)

section Client

variable (cfg : PortainerConfig)

def requestJson (path : JsString) (method : JsString := js "GET") (body : Option Json := none) :
    Portainer Json := do
  let token ← apiKey cfg
  let answer ← askPortainer ⟨apiUrl cfg path, method, token, body⟩
  readAnswer answer

/-! ## Stacks -/

structure EnvVar where
  name : JsString
  value : JsString
  deriving DecidableEq

/-- Reading a property of `null` throws. -/
def notNull : Json → Except PortainerThrow Unit
  | .null => .error .typeError
  | _ => .ok ()

/-- `String(x ?? "")`. -/
def coerceText (x : Option Json) : Except PortainerThrow JsString :=
  match strOrEmpty x with
  | some s => .ok s
  | none => .error .typeError

/-- The variables among the rows. What is no object has no name. -/
def envRows : List Json → Except PortainerThrow (List EnvVar)
  | [] => .ok []
  | row :: rows =>
      match row.get (js "name") with
      | some (.str name) => do
          let value ← coerceText (row.get (js "value"))
          let rest ← envRows rows
          return ⟨name, value⟩ :: rest
      | _ => envRows rows

def envArray : Option Json → Except PortainerThrow (List EnvVar)
  | some (.arr rows) => envRows rows
  | _ => .ok []

structure SafeGit where
  url : Json
  referenceName : Json
  configFilePath : Json
  configHash : Json

structure SafeVar where
  name : JsString
  configured : Bool
  value : JsString := redacted

structure SafeStack where
  id : Json
  name : Json
  type : Json
  status : Json
  endpointId : Json
  entryPoint : Json
  createdBy : Json
  updatedBy : Json
  gitConfig : Option SafeGit
  env : List SafeVar

/-- `x[name] ?? null`. -/
def field (x : Json) (name : String) : Json := (x.get (js name)).getD .null

def gitFields (git : Json) : SafeGit :=
  ⟨field git "URL", field git "ReferenceName", field git "ConfigFilePath", field git "ConfigHash"⟩

/-- An array is an object too. -/
def safeGit : Option Json → Option SafeGit
  | some (.obj ps) => some (gitFields (.obj ps))
  | some (.arr xs) => some (gitFields (.arr xs))
  | _ => none

def safeVar (v : EnvVar) : SafeVar := { name := v.name, configured := v.value.length > 0 }

def safeStack (stack : Json) : Except PortainerThrow SafeStack := do
  notNull stack
  let env ← envArray (stack.get (js "Env"))
  return {
    id := field stack "Id"
    name := field stack "Name"
    type := field stack "Type"
    status := field stack "Status"
    endpointId := field stack "EndpointId"
    entryPoint := field stack "EntryPoint"
    createdBy := field stack "CreatedBy"
    updatedBy := field stack "UpdatedBy"
    gitConfig := safeGit (stack.get (js "GitConfig"))
    env := env.map safeVar }

def idText (id : JsNumber) : JsString := ofChars id.text

def rawStack (id : JsNumber) : Portainer Json := requestJson cfg (js "/stacks/" ++ idText id)

def stackEndpointId (stack : Json) : Except PortainerThrow JsNumber :=
  match numOrNaN (stack.get (js "EndpointId")) with
  | none => .error .typeError
  | some id =>
      if id.toInt?.any (0 < ·) then .ok id
      else .error (.ops ⟨"REMOTE_COMMAND_FAILED", js "stack sem EndpointId válido", none⟩)

def stackName (stack : Json) : Except PortainerThrow JsString := do
  notNull stack
  let name ← coerceText (stack.get (js "Name"))
  if name.isEmpty then
    throw (.ops ⟨"REMOTE_COMMAND_FAILED", js "stack sem nome válido", none⟩)
  else return name

/-! ## The tools -/

def stacksOf : Json → List Json
  | .arr items => items.map fun item =>
      match item with
      | .null => .obj []
      | item => item
  | _ => []

def safeStacks : List Json → Except PortainerThrow (List SafeStack)
  | [] => .ok []
  | x :: xs => do
      let stack ← safeStack x
      let rest ← safeStacks xs
      return stack :: rest

def portainerStacks : Portainer (List SafeStack) := do
  let items ← requestJson cfg (js "/stacks")
  safeStacks (stacksOf items)

def portainerStack (id : JsNumber) : Portainer SafeStack := do
  let stack ← rawStack cfg id
  safeStack stack

/-- A stack that goes by the name that the caller confirmed. -/
structure ConfirmedStack where
  json : Json
  name : JsString

def checkName (stack : Json) (confirmStackName : JsString) :
    Except PortainerThrow ConfirmedStack := do
  let name ← stackName stack
  if confirmStackName = name then return ⟨stack, name⟩
  else
    throw (.ops ⟨"INVALID_ARGUMENT", js "confirmação do nome da stack não corresponde",
      some (js "informe confirm_stack_name exatamente como \"" ++ name ++ js "\"")⟩)

def confirmedStack (stackId : JsNumber) (confirmStackName : JsString) :
    Portainer ConfirmedStack := do
  let stack ← rawStack cfg stackId
  checkName stack confirmStackName

def onEndpoint (path : JsString) (endpointId : JsNumber) : JsString :=
  path ++ js "?endpointId=" ++ idText endpointId

structure EnvUpdate where
  stackId : JsNumber
  confirmStackName : JsString
  changes : List EnvVar
  unsetNames : List JsString
  replaceAll : Bool
  pullImage : Bool
  prune : Bool

structure EnvReport where
  stackId : JsNumber
  stackName : JsString
  fromGit : Bool
  updatedVariables : List JsString
  removedVariables : List JsString
  totalVariables : ℕ
  deriving DecidableEq

def envPairs (env : List EnvVar) : List (JsString × JsString) := env.map fun v => (v.name, v.value)

/-- The variables after the update: first the names to unset are deleted, then the changes are
set. -/
def mergedMap (input : EnvUpdate) (current : List EnvVar) : OrderedMap JsString :=
  let start := if input.replaceAll then .empty else OrderedMap.empty.setAll (envPairs current)
  (start.deleteAll input.unsetNames).setAll (envPairs input.changes)

def mergedEnv (input : EnvUpdate) (current : List EnvVar) : List EnvVar :=
  (mergedMap input current).entries.map fun p => ⟨p.1, p.2⟩

def envJson (env : List EnvVar) : Json :=
  .arr (env.map fun v => .obj [(js "name", .str v.name), (js "value", .str v.value)])

def redeployBody (env : List EnvVar) (pullImage prune : Bool) : List (JsString × Json) :=
  [(js "env", envJson env), (js "pullImage", .bool pullImage), (js "prune", .bool prune)]

/-- `PUT /stacks/{id}/git/redeploy`. -/
def gitRedeploy (stackId endpointId : JsNumber) (env : List EnvVar) (pullImage prune : Bool) :
    Portainer Json :=
  requestJson cfg (onEndpoint (js "/stacks/" ++ idText stackId ++ js "/git/redeploy") endpointId)
    (js "PUT") (some (.obj (redeployBody env pullImage prune)))

def stackFileContent (file : Json) : Except PortainerThrow JsString := do
  notNull file
  let content ← coerceText (file.get (js "StackFileContent"))
  if content.isEmpty then
    throw (.ops ⟨"REMOTE_COMMAND_FAILED", js "Portainer não retornou StackFileContent", none⟩)
  else return content

/-- The stack file is read and sent back with the variables. -/
def composeRedeploy (stackId endpointId : JsNumber) (env : List EnvVar) (pullImage prune : Bool) :
    Portainer Json := do
  let file ← requestJson cfg (js "/stacks/" ++ idText stackId ++ js "/file")
  let content ← stackFileContent file
  requestJson cfg (onEndpoint (js "/stacks/" ++ idText stackId) endpointId) (js "PUT")
    (some (.obj ((js "stackFileContent", .str content) :: redeployBody env pullImage prune)))

def isGitStack (stack : Json) : Bool := (stack.get (js "GitConfig")).any truthy

def updatePortainerStackEnv (input : EnvUpdate) : Portainer EnvReport := do
  let stack ← confirmedStack cfg input.stackId input.confirmStackName
  let current ← envArray (stack.json.get (js "Env"))
  let merged := mergedEnv input current
  let endpointId ← stackEndpointId stack.json
  let redeploy := if isGitStack stack.json then gitRedeploy cfg else composeRedeploy cfg
  let _ ← redeploy input.stackId endpointId merged input.pullImage input.prune
  return {
    stackId := input.stackId
    stackName := stack.name
    fromGit := isGitStack stack.json
    updatedVariables := input.changes.map EnvVar.name
    removedVariables := input.unsetNames
    totalVariables := merged.length }

structure GitRedeploy where
  stackId : JsNumber
  confirmStackName : JsString
  pullImage : Bool
  prune : Bool

def checkGitStack (stack : ConfirmedStack) : Except PortainerThrow Unit :=
  if isGitStack stack.json then .ok ()
  else
    .error (.ops ⟨"INVALID_ARGUMENT", js "esta stack não foi criada a partir de Git", none⟩)

def redeployPortainerGitStack (input : GitRedeploy) : Portainer JsString := do
  let stack ← confirmedStack cfg input.stackId input.confirmStackName
  checkGitStack stack
  let endpointId ← stackEndpointId stack.json
  let current ← envArray (stack.json.get (js "Env"))
  let _ ← gitRedeploy cfg input.stackId endpointId current input.pullImage input.prune
  return stack.name

/-- Start or stop a stack: the name, and the stack that the server returns. -/
def changeStackState (verb : String) (stackId : JsNumber) (confirmStackName : JsString) :
    Portainer (JsString × SafeStack) := do
  let stack ← confirmedStack cfg stackId confirmStackName
  let endpointId ← stackEndpointId stack.json
  let changed ← requestJson cfg
    (onEndpoint (js "/stacks/" ++ idText stackId ++ js "/" ++ js verb) endpointId) (js "POST")
  let shown ← safeStack changed
  return (stack.name, shown)

def startPortainerStack : JsNumber → JsString → Portainer (JsString × SafeStack) :=
  changeStackState cfg "start"

def stopPortainerStack : JsNumber → JsString → Portainer (JsString × SafeStack) :=
  changeStackState cfg "stop"

def deletePortainerStack (stackId : JsNumber) (confirmStackName : JsString)
    (removeVolumes : Bool) : Portainer JsString := do
  let stack ← confirmedStack cfg stackId confirmStackName
  let endpointId ← stackEndpointId stack.json
  let _ ← requestJson cfg
    (onEndpoint (js "/stacks/" ++ idText stackId) endpointId ++ js "&removeVolumes=" ++
      js (if removeVolumes then "true" else "false")) (js "DELETE")
  return stack.name

structure GitStack where
  endpointId : JsNumber
  name : JsString
  confirmStackName : JsString
  repositoryUrl : JsString
  referenceName : JsString
  composeFile : JsString
  env : List EnvVar

def createPortainerGitStack (input : GitStack) : Portainer SafeStack := do
  let created ← requestJson cfg
    (onEndpoint (js "/stacks/create/standalone/repository") input.endpointId) (js "POST")
    (some (.obj
      [(js "Name", .str input.name), (js "RepositoryURL", .str input.repositoryUrl),
        (js "RepositoryReferenceName", .str input.referenceName),
        (js "ComposeFile", .str input.composeFile),
        (js "RepositoryAuthentication", .bool false), (js "Env", envJson input.env)]))
  safeStack created

inductive PortainerTool where
  | stacksList
  | stackGet (stackId : JsNumber)
  | stackStart (stackId : JsNumber) (confirmStackName : JsString)
  | stackStop (stackId : JsNumber) (confirmStackName : JsString)
  | stackDelete (stackId : JsNumber) (confirmStackName : JsString) (removeVolumes : Bool)
  | stackUpdateEnv (input : EnvUpdate)
  | stackGitRedeploy (input : GitRedeploy)
  | stackCreateGit (input : GitStack)

inductive PortainerResult where
  | listed (shown : List SafeStack)
  | stack (stack : SafeStack)
  | started (stackId : JsNumber) (stackName : JsString) (stack : SafeStack)
  | stopped (stackId : JsNumber) (stackName : JsString) (stack : SafeStack)
  | deleted (stackId : JsNumber) (stackName : JsString) (removeVolumes : Bool)
  | envUpdated (report : EnvReport)
  | redeployed (stackId : JsNumber) (stackName : JsString) (pullImage prune : Bool)

/-- What the tools check before they call the client. -/
def PortainerTool.check : PortainerTool → Except PortainerThrow Unit
  | stackUpdateEnv input =>
      if input.changes.isEmpty && input.unsetNames.isEmpty && !input.replaceAll then
        .error (.ops ⟨"INVALID_ARGUMENT", js "nenhuma alteração de variável foi solicitada", none⟩)
      else .ok ()
  | stackCreateGit input =>
      if input.confirmStackName = input.name then .ok ()
      else
        .error (.ops ⟨"INVALID_ARGUMENT", js "confirm_stack_name deve ser exatamente igual a name",
          none⟩)
  | _ => .ok ()

def PortainerTool.call : PortainerTool → Portainer PortainerResult
  | stacksList => PortainerResult.listed <$> portainerStacks cfg
  | stackGet id => PortainerResult.stack <$> portainerStack cfg id
  | stackStart id confirm =>
      (fun r => .started id r.1 r.2) <$> startPortainerStack cfg id confirm
  | stackStop id confirm =>
      (fun r => .stopped id r.1 r.2) <$> stopPortainerStack cfg id confirm
  | stackDelete id confirm removeVolumes =>
      (fun name => .deleted id name removeVolumes) <$>
        deletePortainerStack cfg id confirm removeVolumes
  | stackUpdateEnv input => PortainerResult.envUpdated <$> updatePortainerStackEnv cfg input
  | stackGitRedeploy input =>
      (fun name => .redeployed input.stackId name input.pullImage input.prune) <$>
        redeployPortainerGitStack cfg input
  | stackCreateGit input => PortainerResult.stack <$> createPortainerGitStack cfg input

def PortainerTool.run (tool : PortainerTool) : Portainer PortainerResult := do
  tool.check
  tool.call cfg

/-- A Portainer server answers by the exchanges so far. -/
abbrev PortainerServer := PortainerExchanges → PortainerCall → PortainerAnswer

def PortainerTool.against (tool : PortainerTool) (server : PortainerServer) :
    PortainerExchanges × Except PortainerThrow PortainerResult :=
  Program.against server (tool.run cfg).run []

end Client

/-! ## Requests in a run -/

section Requests

variable {cfg : PortainerConfig} {α : Type} {g : Json → Portainer α} {path method : JsString}
  {body : Option Json}

theorem run_requestJson_of_key {token : JsString} (h : apiKey cfg = .ok token) :
    (requestJson cfg path method body >>= g).run =
      .ask ⟨apiUrl cfg path, method, token, body⟩ fun answer =>
        ((liftM (readAnswer answer) : Portainer Json) >>= g).run := by
  rw [requestJson, h]
  rfl

theorem run_requestJson_of_no_key {e : PortainerThrow} (h : apiKey cfg = .error e) :
    (requestJson cfg path method body >>= g).run = .done (.error e) := by
  rw [requestJson, h]
  rfl

end Requests

/-! ## The merged variables -/

section Merge

variable (input : EnvUpdate) (current : List EnvVar)

theorem map_fst_envPairs (env : List EnvVar) :
    (envPairs env).map Prod.fst = env.map EnvVar.name := by
  rw [envPairs, List.map_map]
  rfl

theorem envPairs_mergedEnv :
    envPairs (mergedEnv input current) = (mergedMap input current).entries := by
  rw [envPairs, mergedEnv, List.map_map]
  exact List.map_id _

theorem names_mergedEnv :
    (mergedEnv input current).map EnvVar.name = (mergedMap input current).keys := by
  rw [← map_fst_envPairs, envPairs_mergedEnv, OrderedMap.keys]

/-- Which names are sent does not depend on their values. -/
theorem names_mergedEnv_congr {env env' : List EnvVar}
    (h : env.map EnvVar.name = env'.map EnvVar.name) :
    (mergedEnv input env).map EnvVar.name = (mergedEnv input env').map EnvVar.name := by
  rw [names_mergedEnv, names_mergedEnv, mergedMap, mergedMap, OrderedMap.keys_setAll,
    OrderedMap.keys_setAll, OrderedMap.keys_deleteAll, OrderedMap.keys_deleteAll]
  cases input.replaceAll with
  | true => rfl
  | false =>
      simp only [Bool.false_eq_true, if_false]
      simp only [OrderedMap.keys_setAll, map_fst_envPairs, h]

end Merge

end RemoteOps

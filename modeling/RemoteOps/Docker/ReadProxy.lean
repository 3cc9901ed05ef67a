import RemoteOps.Ecma.Buffer
import RemoteOps.Security.Paths
import RemoteOps.Transition.Program

/-!
# The Docker proxy

`handle` answers one HTTP request. It is a program over the Docker daemon: each
request to the daemon is a `DockerCall`, answered with a response or, when the
connection fails, times out or grows too large, with the text of an error. An
error that no route catches ends in status 502.

The two routes that run a fixed program in a fixed container (the pinned
PostgreSQL verifier and the Paperclip operations) are here with their gates; how
they turn a payload into a command is left to `SemanticRoutes`.
-/

namespace RemoteOps

open Ecma Transition

/-! ## Configuration -/

def knownDockerActions : List JsString :=
  [js "start", js "stop", js "restart", js "load_image", js "candidate_run",
    js "candidate_remove"]

/-- The allowlists of the host, as checked when the proxy starts. -/
structure ProxyConfig where
  allowed : List JsString
  execContainers : List JsString
  execPrograms : List JsString
  allowedActions : List JsString
  imageLoadRoots : List JsString
  candidateImagePrefixes : List JsString
  candidateNetworks : List JsString
  candidateNamePrefixes : List JsString
  candidateHostPorts : List ℕ
  candidateContainerPorts : List ℕ
  postgresContainer : Option JsString
  paperclipContainer : JsString
  allowed_ne_nil : allowed ≠ []
  actions_known : ∀ a ∈ allowedActions, a ∈ knownDockerActions
  ports_range : ∀ n ∈ candidateHostPorts ++ candidateContainerPorts, 1 ≤ n ∧ n ≤ 65535
  postgres_allowed : ∀ c ∈ postgresContainer, c ∈ allowed

/-- What the host of the proxy provides. -/
structure ProxyHost where
  platform : Platform
  /-- `fs.realpathSync`, which throws on a path that does not exist -/
  realpath : JsString → Option JsString
  /-- `fs.statSync(path).isFile()`, false when it throws -/
  isFile : JsString → Bool

/-! ## Requests, calls and replies -/

structure RequestUrl where
  pathname : JsString
  search : JsString
  searchParams : List (JsString × JsString)

structure HttpRequest where
  method : JsString
  /-- `new URL(req.url, ..)`, which may throw -/
  url : Option RequestUrl
  /-- the bytes sent, unless the stream fails -/
  body : Option ByteArray

/-- The body of a `POST /containers/create`. -/
structure CandidateSpec where
  name : JsString
  image : JsString
  network : JsString
  hostPort : ℕ
  containerPort : ℕ
  deriving DecidableEq

/-- The body of a `POST /containers/<ref>/exec`. -/
structure ExecSpec where
  cmd : List JsString
  user : Option JsString := none
  env : List JsString := []
  deriving DecidableEq

inductive HttpReply where
  | error (status : ℕ) (code : JsString)
  /-- the answer of the daemon as it is -/
  | forward (status : ℕ) (body : ByteArray)
  | health
  | listing (items : List Json)
  | loaded (file : JsString) (output : ByteArray)
  | started (id : JsString) (spec : CandidateSpec)
  | absent (name : JsString)
  | removed (name : JsString)
  | acted (ref action : JsString)
  | ran (code : JsNumber) (output : ByteArray)

inductive DockerCall where
  /-- `GET /_ping`, `GET /version` -/
  | ping
  | version
  /-- `GET /containers/json` -/
  | list (query : List (JsString × JsString))
  /-- `GET /containers/<ref>/json`, `GET /containers/<ref>/logs` -/
  | inspect (ref : JsString)
  | logs (ref : JsString) (query : List (JsString × JsString))
  /-- `GET /exec/<id>/json` -/
  | execInspect (id : JsString)
  /-- `POST /containers/<ref>/<action>` -/
  | lifecycle (ref action : JsString)
  /-- `POST /images/load?quiet=1` with the file as body -/
  | loadImage (filePath : JsString)
  /-- `POST /containers/create?name=<name>`, `POST /containers/<id>/start` -/
  | create (spec : CandidateSpec)
  | startCandidate (id : JsString)
  /-- `DELETE /containers/<name>?force=1&v=1`, of a candidate and after a failed start -/
  | removeCandidate (name : JsString)
  | cleanup (id : JsString)
  /-- `POST /containers/<ref>/exec`, `POST /exec/<id>/start` -/
  | execCreate (ref : JsString) (spec : ExecSpec)
  | execStart (id : JsString)
  deriving DecidableEq

structure DockerResponse where
  status : ℕ
  body : ByteArray

abbrev DockerAnswer := Except JsString DockerResponse

abbrev Proxy (α : Type) := Program DockerCall DockerAnswer α

def upstreamError : HttpReply := .error 502 (js "upstream_error")

/-- `await dockerRequest(..)` where an error is caught and answered by `failed`. -/
def dockerOr (failed : JsString → HttpReply) (call : DockerCall)
    (k : DockerResponse → Proxy HttpReply) : Proxy HttpReply :=
  .ask call fun
    | .error message => .done (failed message)
    | .ok response => k response

/-- `await dockerRequest(..)` where nobody catches. -/
def dockerRequest (call : DockerCall) (k : DockerResponse → Proxy HttpReply) : Proxy HttpReply :=
  dockerOr (fun _ => upstreamError) call k

/-- Checks of a request end early with a reply. -/
abbrev Checked (α : Type) := Except HttpReply α

def refuse {α : Type} (status : ℕ) (code : String) : Checked α := .error (.error status (js code))

/-- A conversion that may throw. -/
def mayThrow {α : Type} (x : Option α) : Checked α :=
  match x with
  | some y => .ok y
  | none => .error upstreamError

/-- `if (!x || !ok(x)) jsonError(..)`. -/
def orRefuse {α : Type} (x : Option α) (ok : α → Bool) (status : ℕ) (code : String) :
    Checked α :=
  match x with
  | some y => if ok y then .ok y else refuse status code
  | none => refuse status code

def Checked.run {α : Type} (x : Checked α) (k : α → Proxy HttpReply) : Proxy HttpReply :=
  match x with
  | .error reply => .done reply
  | .ok y => k y

/-! ## Cleaning -/

def isRefHead (u : CodeUnit) : Bool := isAlnum u

def isRefTail (u : CodeUnit) : Bool := isAlnum u || isOneOf "_.-" u

def cleanContainerRef (raw : JsString) : Option JsString :=
  match decodeURIComponent raw with
  | none => none
  | some ref => if matchesHeadTail isRefHead isRefTail 0 127 ref then some ref else none

/-- `/^[a-f0-9]{12,64}$/i`. -/
def isHexId (s : JsString) : Bool := matchesClass isHex 12 64 s

def allowedPrefix (set : List JsString) (value : JsString) : Bool :=
  set.any fun start => start = js "*" || startsWith value start

def cleanImageRef (s : JsString) : Option JsString :=
  if matchesHeadTail isAlnum (fun u => isAlnum u || isOneOf "_./:@+-" u) 0 199 s then some s
  else none

def cleanPort (x : JsNumber) : Option ℕ :=
  match x.toInt? with
  | some n => if 1 ≤ n ∧ n ≤ 65535 then some n.toNat else none
  | none => none

def cleanProgram (s : JsString) : Option JsString :=
  if matchesClass (fun u => isAlnum u || isOneOf "_.+-" u) 1 80 s then some s else none

def cleanArgument (s : JsString) : Bool := utf8Length s ≤ 16384 && !s.any isNulOrNewline

/-- The arguments are converted one by one, up to the first that is refused. -/
def cleanArgList : List Json → Checked (Option (List JsString))
  | [] => .ok (some [])
  | item :: items => do
      let s ← mayThrow (strOrEmpty (some item))
      if cleanArgument s then
        let rest ← cleanArgList items
        return rest.map (s :: ·)
      else return none

def cleanArgs (value : Option Json) : Checked (Option (List JsString)) :=
  match value with
  | some (.arr items) => if 80 < items.length then .ok none else cleanArgList items
  | _ => .ok none

/-- The path is resolved, and so is every root; a root that does not exist is
skipped. -/
def cleanAllowedLoadPath (cfg : ProxyConfig) (host : ProxyHost) (raw : JsString) :
    Option JsString :=
  if !startsWith raw (js "/") || raw.any isNulOrNewline || (pathSegments raw).contains (js "..") ||
      denySecretPath raw || !endsWith raw (js ".tar") then none
  else
    match host.realpath raw with
    | none => none
    | some real =>
        if denySecretPath real || !endsWith real (js ".tar") then none
        else if cfg.imageLoadRoots.any (fun rootRaw =>
            match host.realpath rootRaw with
            | none => false
            | some root => isInsideRoot (dropTrailing (unit '/') root) real) then some real
        else none

/-! ## Bodies -/

/-- `readBody(req)` with its limit. -/
def readBody (req : HttpRequest) (limit : ℕ) : Option ByteArray :=
  match req.body with
  | none => none
  | some bytes => if limit < bytes.size then none else some bytes

def bodyLimit : ℕ := 128 * 1024

/-- `JSON.parse(body || "{}")`, refused when it throws. -/
def readJson (host : ProxyHost) (req : HttpRequest) (limit : ℕ) : Checked Json :=
  match readBody req limit with
  | none => refuse 400 "invalid_json"
  | some bytes =>
      let text := host.platform.fromUtf8 bytes
      match parse (if text.isEmpty then ['{', '}'] else text) with
      | none => refuse 400 "invalid_json"
      | some payload => .ok payload

/-- A payload whose fields are read outside the `try`: reading one of `null` throws. -/
def readPayload (host : ProxyHost) (req : HttpRequest) : Checked Json :=
  match readJson host req bodyLimit with
  | .ok .null => .error upstreamError
  | x => x

def requirePost (req : HttpRequest) : Checked Unit :=
  if req.method = js "POST" then .ok () else refuse 405 "method_not_allowed"

def bodyJson (host : ProxyHost) (body : ByteArray) : Option Json :=
  parse (host.platform.fromUtf8 body)

/-- The id that the daemon reports; every failure reads as an empty id. -/
def reportedId (host : ProxyHost) (body : ByteArray) : JsString :=
  match bodyJson host body with
  | none => []
  | some x => (strOrEmpty (x.get (js "Id"))).getD []

/-! ## References -/

/-- `names.some((n) => typeof n === "string" && scope.has(n.replace(/^\//, "")))`. -/
def hasNameIn (scope : List JsString) (item : Json) : Bool :=
  match item.get (js "Names") with
  | some (.arr names) =>
      names.any fun
        | .str (u :: s) => scope.contains (if u = unit '/' then s else u :: s)
        | .str [] => scope.contains []
        | _ => false
  | _ => false

def itemId (item : Json) : JsString :=
  match item.get (js "Id") with
  | some (.str s) => s
  | _ => []

/-- Search the list in order; `null` in it throws. -/
def searchItems (scope : List JsString) (ref : JsString) : List Json → Checked Bool
  | [] => .ok false
  | .null :: _ => .error upstreamError
  | item :: items =>
      if startsWith (itemId item) ref && hasNameIn scope item then .ok true
      else searchItems scope ref items

/-- Whether a listing shows a container whose id starts with `ref` and that has a
name in the scope. -/
def listingShows (host : ProxyHost) (scope : List JsString) (ref : JsString)
    (response : DockerResponse) : Checked Bool :=
  if response.status ≠ 200 then .ok false
  else
    match bodyJson host response.body with
    | some (.arr items) => searchItems scope ref items
    | _ => .ok false

def resolveAllowedContainerRef (host : ProxyHost) (rawRef : JsString) (scope : List JsString)
    (k : Option JsString → Proxy HttpReply) : Proxy HttpReply :=
  match cleanContainerRef rawRef with
  | none => k none
  | some ref =>
      if scope.contains ref then k (some ref)
      else if !isHexId ref then k none
      else
        dockerRequest (.list [(js "all", js "1")]) fun response =>
          (listingShows host scope ref response).run fun found =>
            k (if found then some ref else none)

/-! ## Exec -/

/-- The exit code that the daemon reports, 1 when it reports none. -/
def exitCode (host : ProxyHost) (inspected : DockerResponse) : JsNumber :=
  let one := JsNumber.ofInt 1 inRange_one
  if inspected.status ≠ 200 then one
  else
    match bodyJson host inspected.body with
    | none => one
    | some x =>
        match x.get (js "ExitCode") with
        | some (.num code) => code
        | _ => one

/-- Create an exec, start it, read its exit code. -/
def runExec (failed : JsString → HttpReply) (host : ProxyHost) (ref : JsString)
    (spec : ExecSpec) : Proxy HttpReply :=
  dockerOr failed (.execCreate ref spec) fun created =>
    if created.status ≠ 201 then .done (.forward created.status created.body)
    else if !isHexId (reportedId host created.body) then
      .done (.error 502 (js "invalid_exec_id"))
    else
      dockerOr failed (.execStart (reportedId host created.body)) fun started =>
        if started.status ≠ 200 then .done (.forward started.status started.body)
        else
          dockerOr failed (.execInspect (reportedId host created.body)) fun inspected =>
            .done (.ran (exitCode host inspected) started.body)

/-! ## The semantic routes -/

/-- How the payloads of the two fixed programs become commands, or errors. -/
structure SemanticRoutes where
  postgresExec : Json → Except JsString ExecSpec
  paperclipExec : JsString → Json → Checked ExecSpec

/-- `s.includes(part)`. -/
def includesText (s part : JsString) : Bool := s.tails.any (startsWith · part)

/-- Everything after the body is read is in one `try`. -/
def postgresFailure (message : JsString) : HttpReply :=
  if includesText message (js "not_allowed") || includesText message (js "hash_mismatch") then
    .error 403 message
  else .error 400 message

def handlePostgresPinnedReadback (cfg : ProxyConfig) (host : ProxyHost) (routes : SemanticRoutes)
    (req : HttpRequest) : Proxy HttpReply :=
  (requirePost req).run fun _ =>
    match cfg.postgresContainer with
    | none => .done (.error 403 (js "postgres_readback_not_configured"))
    | some container =>
        (readJson host req (160 * 1024)).run fun payload =>
          match routes.postgresExec payload with
          | .error message => .done (postgresFailure message)
          | .ok spec => runExec postgresFailure host container spec

def paperclipOperations : List JsString :=
  [js "task-drain-status", js "task-drain-start", js "task-drain-stop", js "tool-policies-list",
    js "tool-connection-activity-safe", js "tool-policy-test", js "tool-policy-create",
    js "tool-policy-delete"]

def handlePaperclipSemantic (cfg : ProxyConfig) (host : ProxyHost) (routes : SemanticRoutes)
    (op : JsString) (req : HttpRequest) : Proxy HttpReply :=
  (requirePost req).run fun _ =>
    if !cfg.allowed.contains cfg.paperclipContainer ||
        !cfg.execContainers.contains cfg.paperclipContainer then
      .done (.error 403 (js "paperclip_semantic_container_not_allowed"))
    else
      (readJson host req bodyLimit).run fun payload =>
        (routes.paperclipExec op payload).run fun spec =>
          runExec (fun _ => upstreamError) host cfg.paperclipContainer spec

/-! ## The operator routes -/

/-- `POST /ops/images/load`: the real path of the file. -/
def checkImageLoad (cfg : ProxyConfig) (host : ProxyHost) (req : HttpRequest) :
    Checked JsString := do
  requirePost req
  let payload ← readPayload host req
  let raw ← mayThrow (strOrEmpty (payload.get (js "path")))
  orRefuse (cleanAllowedLoadPath cfg host raw) (fun _ => !cfg.imageLoadRoots.isEmpty) 403
    "image_load_path_not_allowed"

/-- `dockerFileRequest` throws before it sends anything when the path is no file. -/
def loadImage (cfg : ProxyConfig) (host : ProxyHost) (req : HttpRequest) : Proxy HttpReply :=
  (checkImageLoad cfg host req).run fun filePath =>
    if !host.isFile filePath then .done upstreamError
    else
      dockerRequest (.loadImage filePath) fun u =>
        if u.status ≠ 200 then .done (.forward u.status u.body)
        else .done (.loaded (lastSegment filePath) u.body)

/-- `POST /ops/candidates/run`: the fields are all cleaned before the first is
checked. -/
def checkCandidateRun (cfg : ProxyConfig) (host : ProxyHost) (req : HttpRequest) :
    Checked CandidateSpec := do
  requirePost req
  let payload ← readPayload host req
  let name ← mayThrow (strOrEmpty (payload.get (js "name")))
  let image ← mayThrow (strOrEmpty (payload.get (js "image")))
  let network ← mayThrow (strOrEmpty (payload.get (js "network")))
  let hostPort ← mayThrow (numOrNaN (payload.get (js "hostPort")))
  let containerPort ← mayThrow (numOrNaN (payload.get (js "containerPort")))
  let name ← orRefuse (cleanContainerRef name) (allowedPrefix cfg.candidateNamePrefixes) 403
    "candidate_name_not_allowed"
  let image ← orRefuse (cleanImageRef image) (allowedPrefix cfg.candidateImagePrefixes) 403
    "candidate_image_not_allowed"
  let network ← orRefuse (cleanContainerRef network) cfg.candidateNetworks.contains 403
    "candidate_network_not_allowed"
  let hostPort ← orRefuse (cleanPort hostPort) cfg.candidateHostPorts.contains 403
    "candidate_host_port_not_allowed"
  let containerPort ← orRefuse (cleanPort containerPort) cfg.candidateContainerPorts.contains 403
    "candidate_container_port_not_allowed"
  return { name, image, network, hostPort, containerPort }

def runCandidate (cfg : ProxyConfig) (host : ProxyHost) (req : HttpRequest) : Proxy HttpReply :=
  (checkCandidateRun cfg host req).run fun spec =>
    dockerRequest (.create spec) fun created =>
      if created.status ≠ 201 then .done (.forward created.status created.body)
      else if !isHexId (reportedId host created.body) then
        .done (.error 502 (js "invalid_container_id"))
      else
        dockerRequest (.startCandidate (reportedId host created.body)) fun started =>
          if started.status ≠ 204 then
            .ask (.cleanup (reportedId host created.body)) fun _ =>
              .done (.forward started.status started.body)
          else .done (.started (reportedId host created.body) spec)

/-- `POST /ops/candidates/<name>/remove`. The body is read and ignored. -/
def checkCandidateRemove (cfg : ProxyConfig) (rawName : JsString) (req : HttpRequest) :
    Checked JsString := do
  requirePost req
  orRefuse (cleanContainerRef rawName) (allowedPrefix cfg.candidateNamePrefixes) 403
    "candidate_name_not_allowed"

def removeCandidate (cfg : ProxyConfig) (rawName : JsString) (req : HttpRequest) :
    Proxy HttpReply :=
  (checkCandidateRemove cfg rawName req).run fun name =>
    dockerRequest (.removeCandidate name) fun u =>
      if u.status = 404 then .done (.absent name)
      else if u.status ≠ 204 then .done (.forward u.status u.body)
      else .done (.removed name)

def checkExec (cfg : ProxyConfig) (host : ProxyHost) (req : HttpRequest) : Checked ExecSpec := do
  let payload ← readPayload host req
  let program ← mayThrow (strOrEmpty (payload.get (js "program")))
  let argv ← cleanArgs (payload.get (js "argv"))
  match cleanProgram program, argv with
  | some program, some argv =>
      if cfg.execPrograms.contains program then return { cmd := program :: argv }
      else refuse 403 "program_not_allowed"
  | _, _ => refuse 400 "invalid_exec"

/-- `POST /ops/containers/<ref>/exec`. -/
def execInContainer (cfg : ProxyConfig) (host : ProxyHost) (rawRef : JsString)
    (req : HttpRequest) : Proxy HttpReply :=
  (requirePost req).run fun _ =>
    resolveAllowedContainerRef host rawRef cfg.execContainers fun resolved =>
      (orRefuse resolved cfg.allowed.contains 403 "container_exec_not_allowed").run fun ref =>
        (checkExec cfg host req).run fun spec =>
          runExec (fun _ => upstreamError) host ref spec

/-- `POST /ops/containers/<ref>/<action>`. The body is read and ignored. -/
def lifecycleAction (cfg : ProxyConfig) (host : ProxyHost) (rawRef action : JsString)
    (req : HttpRequest) : Proxy HttpReply :=
  (requirePost req).run fun _ =>
    if !cfg.allowedActions.contains action then
      .done (.error 403 (js "docker_action_not_allowed"))
    else
      resolveAllowedContainerRef host rawRef cfg.allowed fun resolved =>
        (orRefuse resolved (fun _ => true) 403 "container_not_allowed").run fun ref =>
          dockerRequest (.lifecycle ref action) fun u =>
            if u.status ≠ 204 ∧ u.status ≠ 304 then .done (.forward u.status u.body)
            else .done (.acted ref action)

/-! ## Routes -/

/-- `^/head/([^/]+)/(tails)$`. -/
def matchRoute (head tails : List String) (path : JsString) : Option (JsString × JsString) :=
  let segments := pathSegments path
  match segments.drop (head.length + 1) with
  | [x, tail] =>
      if segments.take (head.length + 1) = [] :: head.map js ∧ x ≠ [] ∧ tail ∈ tails.map js then
        some (x, tail)
      else none
  | _ => none

def handleOperator (cfg : ProxyConfig) (host : ProxyHost) (req : HttpRequest) (path : JsString) :
    Option (Proxy HttpReply) :=
  if path = js "/ops/images/load" then some (loadImage cfg host req)
  else if path = js "/ops/candidates/run" then some (runCandidate cfg host req)
  else
    match matchRoute ["ops", "candidates"] ["remove"] path with
    | some (name, _) => some (removeCandidate cfg name req)
    | none =>
        match matchRoute ["ops", "containers"] ["exec"] path with
        | some (ref, _) => some (execInContainer cfg host ref req)
        | none =>
            match matchRoute ["ops", "containers"] ["start", "stop", "restart"] path with
            | some (ref, action) => some (lifecycleAction cfg host ref action req)
            | none => none

/-- `pathname.replace(/^\/v\d+(?:\.\d+)?/, "") || "/"`. -/
def stripApiVersion (pathname : JsString) : JsString :=
  let stripped :=
    if startsWith pathname (js "/v") && ((pathname.drop 2).head?.any isDigit) then
      let rest := (pathname.drop 2).dropWhile isDigit
      match rest with
      | dot :: digits =>
          if dot = unit '.' ∧ digits.head?.any isDigit then digits.dropWhile isDigit else rest
      | [] => rest
    else pathname
  if stripped = [] then js "/" else stripped

def allowedQuery (url : RequestUrl) (keys : List String) : Bool :=
  url.searchParams.all fun param => (keys.map js).contains param.1

/-- `searchParams.get(key)`. -/
def RequestUrl.param (url : RequestUrl) (key : String) : Option JsString :=
  lookup (js key) url.searchParams

def number (n : ℕ) (h : n < 2 ^ 53 := by decide) : JsNumber := JsNumber.ofInt n (by simpa using h)

/-- `String(Math.min(Math.max(x || other, lo), hi))`. -/
def clampedText (x other lo hi : JsNumber) : JsString :=
  let x := if x = JsNumber.nan ∨ x = number 0 then other else x
  let x := if x.lt lo then lo else x
  ofChars (if hi.lt x then hi else x).text

def flag (b : Bool) : JsString := if b then js "1" else js "0"

def listQuery (url : RequestUrl) : List (JsString × JsString) :=
  [(js "all", flag (url.param "all" = some (js "1")))] ++
    (match url.param "limit" with
    | some limit =>
        [(js "limit", clampedText (numberOfString limit) (number 0) (number 0) (number 100))]
    | none => []) ++
    match url.param "size" with
    | some size => [(js "size", flag (size = js "1"))]
    | none => []

/-- `/^\d+(?:\.\d+)?$/`. -/
def isUnixTime (s : JsString) : Bool :=
  match splitUnit (unit '.') s with
  | [whole] => !whole.isEmpty && whole.all isDigit
  | [whole, part] => !whole.isEmpty && whole.all isDigit && !part.isEmpty && part.all isDigit
  | _ => false

def logsQuery (url : RequestUrl) : List (JsString × JsString) :=
  [(js "stdout", flag (url.param "stdout" ≠ some (js "0"))),
    (js "stderr", flag (url.param "stderr" ≠ some (js "0"))),
    (js "timestamps", flag (url.param "timestamps" = some (js "1"))),
    (js "tail", clampedText (numberOfString ((url.param "tail").getD (js "100"))) (number 100)
      (number 1) (number 500))] ++
    ["since", "until"].filterMap fun k =>
      match url.param k with
      | some v => if isUnixTime v then some (js k, v) else none
      | none => none

/-- The containers of a listing with an allowed name; `null` in it throws. -/
def filterItems (scope : List JsString) : List Json → Checked (List Json)
  | [] => .ok []
  | .null :: _ => .error upstreamError
  | item :: items => do
      let rest ← filterItems scope items
      return if hasNameIn scope item then item :: rest else rest

/-- `GET /containers/json`. -/
def listContainers (cfg : ProxyConfig) (host : ProxyHost) (url : RequestUrl) : Proxy HttpReply :=
  if !allowedQuery url ["all", "limit", "size", "filters"] then
    .done (.error 400 (js "query_not_allowed"))
  else
    dockerRequest (.list (listQuery url)) fun u =>
      if u.status ≠ 200 then .done (.forward u.status u.body)
      else
        match bodyJson host u.body with
        | none => .done (.error 502 (js "invalid_upstream_json"))
        | some (.arr items) =>
            (filterItems cfg.allowed items).run fun filtered => .done (.listing filtered)
        | some _ => .done (.error 502 (js "invalid_upstream_shape"))

/-- The query is checked after the reference is resolved. -/
def readCall (url : RequestUrl) (ref kind : JsString) : Checked DockerCall :=
  if kind = js "json" then
    if url.search ≠ [] then refuse 400 "query_not_allowed" else .ok (.inspect ref)
  else if !allowedQuery url ["stdout", "stderr", "timestamps", "tail", "since", "until"] then
    refuse 400 "query_not_allowed"
  else .ok (.logs ref (logsQuery url))

/-- `GET /containers/<ref>/json` and `GET /containers/<ref>/logs`. -/
def readContainer (cfg : ProxyConfig) (host : ProxyHost) (url : RequestUrl)
    (rawRef kind : JsString) : Proxy HttpReply :=
  resolveAllowedContainerRef host rawRef cfg.allowed fun resolved =>
    (orRefuse resolved (fun _ => true) 403 "container_not_allowed").run fun ref =>
      (readCall url ref kind).run fun call =>
        dockerRequest call fun u => .done (.forward u.status u.body)

/-- `GET /_ping` and `GET /version`. -/
def plainRead (call : DockerCall) (url : RequestUrl) : Proxy HttpReply :=
  if url.search ≠ [] then .done (.error 400 (js "query_not_allowed"))
  else dockerRequest call fun u => .done (.forward u.status u.body)

def handleRead (cfg : ProxyConfig) (host : ProxyHost) (url : RequestUrl) (path : JsString) :
    Proxy HttpReply :=
  if path = js "/healthz" then .done .health
  else if path = js "/_ping" then plainRead .ping url
  else if path = js "/version" then plainRead .version url
  else if path = js "/containers/json" then listContainers cfg host url
  else
    match matchRoute ["containers"] ["json", "logs"] path with
    | some (rawRef, kind) => readContainer cfg host url rawRef kind
    | none => .done (.error 404 (js "not_allowed"))

def postgresPath : JsString := js "/ops/postgres/pinned-verifier"

def paperclipPath (op : JsString) : JsString := js "/ops/paperclip/" ++ op

/-- The path that the routes are told apart by. -/
def requestPath (req : HttpRequest) : JsString :=
  match req.url with
  | none => []
  | some url => stripApiVersion url.pathname

def handle (cfg : ProxyConfig) (host : ProxyHost) (routes : SemanticRoutes) (req : HttpRequest) :
    Proxy HttpReply :=
  match req.url with
  | none => .done upstreamError
  | some url =>
      let path := requestPath req
      if path = postgresPath then handlePostgresPinnedReadback cfg host routes req
      else
        match paperclipOperations.find? fun op => path = paperclipPath op with
        | some op => handlePaperclipSemantic cfg host routes op req
        | none =>
            match handleOperator cfg host req path with
            | some program => program
            | none =>
                if req.method ≠ js "GET" then .done (.error 405 (js "method_not_allowed"))
                else handleRead cfg host url path

example : stripApiVersion (js "/v1.43/containers/json") = js "/containers/json" := by decide

example : matchRoute ["ops", "containers"] ["exec"] (js "/ops/containers/db/exec") =
    some (js "db", js "exec") := by decide

/-! ## A small host -/

/-- One container to look at, candidates named `web-..`, and the given actions. -/
def sampleProxy (actions : List JsString) (h : ∀ a ∈ actions, a ∈ knownDockerActions) :
    ProxyConfig where
  allowed := [js "cafe"]
  execContainers := []
  execPrograms := []
  allowedActions := actions
  imageLoadRoots := []
  candidateImagePrefixes := []
  candidateNetworks := []
  candidateNamePrefixes := [js "web-"]
  candidateHostPorts := []
  candidateContainerPorts := []
  postgresContainer := none
  paperclipContainer := js "wandora-paperclip"
  allowed_ne_nil := by simp
  actions_known := h
  ports_range := by simp
  postgres_allowed := by simp

def sampleHost : ProxyHost where
  platform := samplePlatform
  realpath _ := none
  isFile _ := false

/-- Deployments without the semantic routes refuse their payloads. -/
def sampleRoutes : SemanticRoutes where
  postgresExec _ := .error (js "postgres_verifier_not_allowed")
  paperclipExec _ _ := refuse 400 "invalid_payload"

def sampleRequest (method pathname : String) : HttpRequest where
  method := js method
  url := some ⟨js pathname, [], []⟩
  body := some ByteArray.empty

end RemoteOps

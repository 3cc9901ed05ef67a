import RemoteOps.Auth.OAuth
import RemoteOps.DeepHarness.AgentMesh
import RemoteOps.Exec.Checks
import RemoteOps.Transition.Program

/-!
# Platform administration

The administration of workspaces and teams on the DSH host. An operation checks its input
against the registry, asks for its grant and calls the services of the host from within the
callback of the grant. Every awaited call is a request of a program. The registry may be
another one each time a call resumes, so an answer carries the registry of that moment; `null`
as an answer stands for `undefined` too.
-/

namespace RemoteOps

open Ecma Posix Transition

/-! ## Checks -/

/-- `exact(input, names)`. -/
def exactFields (names : List JsString) : Json → Option Props
  | .obj ps => if hasExactly ps names then some ps else none
  | _ => none

def label (x : Option Json) (max : ℕ) : Option JsString :=
  match x with
  | some (.str s) =>
      if s ≠ [] ∧ trim s = s ∧ s.length ≤ max ∧ s.any isNulOrNewline = false then some s else none
  | _ => none

/-- `[a-z0-9-]`. -/
def isSlugTail (u : CodeUnit) : Bool := isLower u || isDigit u || u = unit '-'

/-- `SLUG`. -/
def isSlug (s : JsString) : Bool := matchesHeadTail isLower isSlugTail 1 47 s

def slugOf : Option Json → Option JsString
  | some (.str s) => if isSlug s then some s else none
  | _ => none

/-- `ID.test(x)`, which converts what is no string. -/
def testId : Option Json → Bool
  | none => validId (js "undefined")
  | some x =>
      match x.toStr with
      | some s => validId s
      | none => false

/-- Sameness of primitive values; two objects are never the same one. -/
def sameValueZero : Json → Json → Bool
  | .null, .null => true
  | .bool b, .bool c => b = c
  | .num x, .num y => x = y
  | .str s, .str t => s = t
  | _, _ => false

/-- `xs.includes(x)`, which a string has too. -/
def includes : Option Json → Option Json → Bool
  | some (.arr ys), some x => ys.any (sameValueZero x)
  | some (.str s), x =>
      match (x.map Json.toStr).getD (some (js "undefined")) with
      | some t => decide (t <:+: s)
      | none => false
  | _, _ => false

def isNull : Json → Bool
  | .null => true
  | _ => false

def safeIntegerOf (x : Option Json) : Option ℤ :=
  match x with
  | some (.num n) =>
      match n.toInt? with
      | some z => if z.natAbs < 2 ^ 53 then some z else none
      | none => none
  | _ => none

def isTruthy (x : Option Json) : Bool :=
  match x with
  | some v => truthy v
  | none => false

/-- A member of a literal, which `JSON` leaves out when it is `undefined`. -/
def member (name : String) (x : Option Json) : Props :=
  match x with
  | some v => [(js name, v)]
  | none => []

def workspaceView (ws : Json) : Option Json :=
  match ws.get (js "title"), ws.get (js "sessionIds") with
  | some (.str title), some (.arr sessionIds) =>
      if testId (ws.get (js "id")) ∧ sessionIds.length ≤ 10000 ∧
          (sessionIds.all fun x => testId (some x)) = true then
        some (.obj (member "workspaceId" (ws.get (js "id")) ++
          [(js "title", .str (title.take 120)),
            (js "sessionCount", .num (.ofDecimal false sessionIds.length 0)),
            (js "createdAt", (ws.get (js "createdAt")).getD .null),
            (js "updatedAt", (ws.get (js "updatedAt")).getD .null)]))
      else none
  | _, _ => none

/-! ## The host -/

/-- What the registry answers between two awaits. It finds a workspace by its identifier. -/
structure WorkspaceRegistry where
  list : Option Json
  get : JsString → Option Json
  keyed : ∀ id ws, get id = some ws → ws.get (js "id") = some (.str id)

/-- The awaited calls. `endWrite` is the end of the callback of a grant. -/
inductive HostRequest where
  | authorizeRead (context : Props)
  | beginWrite (context : Props)
  | endWrite
  | resolveByPath (path : JsString)
  | createDirectory (root name : JsString)
  | createWorkspace (path : JsString)
  | renameWorkspace (workspaceId : Option Json) (title : JsString)
  | createSession (workspaceId agentPreset : JsString)
  | resolveAgent (leadSessionId : JsString)
  | spawnTeammate (agent : Json) (details : Props)
  | createTask (agent : Json) (details : Props)
  | updateTask (agent : Json) (details : Props)

/-- A call that throws has no value; a grant that is refused throws. -/
structure HostAnswer where
  value : Option Json
  registry : WorkspaceRegistry

abbrev Host (α : Type) := Program HostRequest HostAnswer α

/-- What is thrown before an operation goes on ends it. -/
def orDeny {α β : Type} (x : Option α) (k : α → Host (Option β)) : Host (Option β) :=
  match x with
  | some a => k a
  | none => .done none

def await {β : Type} (request : HostRequest) (k : Json → WorkspaceRegistry → Host (Option β)) :
    Host (Option β) :=
  .ask request fun a => orDeny a.value fun value => k value a.registry

/-- The services of the host, with the operator's directory as a place that is not the root. -/
structure PlatformEnv where
  cwd : List FileName
  parent : List FileName
  proper : parent ≠ []
  hasSpawn : Bool

/-- The checks of `workspaceParent` at construction. -/
def checkParent (cwd : List FileName) (workspaceParent : JsString) :
    Option { names : List FileName // names ≠ [] } :=
  let names := resolvePath cwd workspaceParent
  if h : startsWith workspaceParent (js "/") = true ∧ placeText names = workspaceParent ∧
      names ≠ [] then
    some ⟨names, h.2.2⟩
  else none

namespace PlatformEnv

variable (env : PlatformEnv)

def root : JsString := pathText env.parent

/-- `resolve(path).startsWith(root + sep)`. -/
def isBelow (path : JsString) : Bool :=
  startsWith (placeText (resolvePath env.cwd path)) (env.root ++ js "/")

def owned (ws : Json) : Option Json :=
  match ws.get (js "path") with
  | some (.str path) => if env.isBelow path then some ws else none
  | _ => none

/-- `workspace(workspaceId)` with its `id`. -/
def workspace (registry : WorkspaceRegistry) (workspaceId : Option Json) :
    Option (JsString × Json) := do
  let id ← safeMeshId workspaceId
  let ws ← registry.get id
  return (id, ← env.owned ws)

end PlatformEnv

/-- `lead(ws, leadSessionId)`. -/
def leadOf (ws : Json) (leadSessionId : Option Json) : Option JsString := do
  let lead ← safeMeshId leadSessionId
  match ws.get (js "sessionIds") with
  | some (.arr ids) => if ids.any (sameValueZero (.str lead)) then some lead else none
  | _ => none

def operationContext (operation : String) (fields : Props) : Props :=
  (js "operation", .str (js operation)) :: fields

/-- `read(operation, scope, work)`. -/
def readScoped (context : Props) (work : WorkspaceRegistry → Option Json) : Host (Option Json) :=
  await (.authorizeRead context) fun _ registry =>
    orDeny (work registry) fun result =>
      await (.authorizeRead context) fun _ _ => .done (some result)

/-- `write(operation, scope, work)`, which passes on what the callback returns. -/
def writeScoped (context : Props) (work : WorkspaceRegistry → Host (Option Json)) :
    Host (Option Json) :=
  await (.beginWrite context) fun _ registry => do
    let result ← work registry
    let answer ← Program.call .endWrite
    return answer.value.bind fun _ => result

/-! ## Operations -/

section Operations

variable (env : PlatformEnv) (registry : WorkspaceRegistry) (input : Json)

def listWorkspaces : Host (Option Json) :=
  readScoped (operationContext "workspace.list" []) fun registry => do
    match registry.list with
    | some (.arr all) =>
        guard (all.length ≤ 5000)
        let selected := all.filter fun ws => (env.owned ws).isSome
        guard (selected.length ≤ 500)
        return .arr (← selected.mapM workspaceView)
    | _ => none

/-- `join(root, name)` below the root. -/
def workspacePath (name : JsString) : Option JsString :=
  let path := (normalizePath (env.root ++ js "/" ++ name)).text
  if startsWith path (env.root ++ js "/") then some path else none

def createdView (created : Bool) (view : Json) : Json :=
  .obj [(js "created", .bool created), (js "workspace", view)]

/-- The workspace that the controller created. -/
def createdWorkspace (path : JsString) (created : Json) : Option Json := do
  let ws ← created.get (js "workspace")
  guard (isString (ws.get (js "path")) path = true)
  return ws

/-- The end of `createWorkspace`. -/
def showCreated (created ws : Json) (registry : WorkspaceRegistry) : Option Json := do
  let (_, current) ← env.workspace registry (ws.get (js "workspaceId"))
  let view ← workspaceView current
  return createdView (match created.get (js "created") with
    | some (.bool b) => b
    | _ => false) view

def createFresh (name title path : JsString) : Host (Option Json) :=
  await (.createDirectory env.root name) fun createdPath _ =>
    orDeny (guard (isString (some createdPath) path = true)) fun _ =>
      await (.createWorkspace path) fun created registry =>
        orDeny (createdWorkspace path created) fun ws =>
          if isString (ws.get (js "title")) title then .done (showCreated env created ws registry)
          else
            await (.renameWorkspace (ws.get (js "workspaceId")) title) fun _ registry =>
              .done (showCreated env created ws registry)

def createWorkspace : Host (Option Json) :=
  orDeny (do
    let ps ← exactFields [js "name", js "title"] input
    let name ← slugOf (lookup (js "name") ps)
    let title ← label (lookup (js "title") ps) 120
    return (name, title, ← workspacePath env name)) fun (name, title, path) =>
  writeScoped (operationContext "workspace.create" []) fun _ =>
    .ask (.resolveByPath path) fun a =>
      match a.value.filter truthy with
      | some existing => .done do
          let ws ← env.owned existing
          guard (isString (ws.get (js "title")) title = true)
          return createdView false (← workspaceView ws)
      | none => createFresh env name title path

def workspaceField (id : JsString) : Props := [(js "workspaceId", .str id)]

def renameWorkspace : Host (Option Json) :=
  orDeny (do
    let ps ← exactFields [js "workspaceId", js "title"] input
    let (id, _) ← env.workspace registry (lookup (js "workspaceId") ps)
    return (id, ← label (lookup (js "title") ps) 120)) fun (id, title) =>
  writeScoped (operationContext "workspace.rename" (workspaceField id)) fun _ =>
    await (.renameWorkspace (some (.str id)) title) fun result registry => .done do
      let renamed ← result.get (js "workspace")
      guard (isString (renamed.get (js "workspaceId")) id = true)
      let (_, ws) ← env.workspace registry (some (.str id))
      workspaceView ws

def createLeadSession : Host (Option Json) :=
  orDeny (do
    let ps ← exactFields [js "workspaceId", js "agentPreset"] input
    let (id, _) ← env.workspace registry (lookup (js "workspaceId") ps)
    return (id, ← label (lookup (js "agentPreset") ps) 90)) fun (id, agentPreset) =>
  writeScoped (operationContext "session.create" (workspaceField id)) fun _ =>
    await (.createSession id agentPreset) fun result registry => .done do
      guard (testId (result.get (js "sessionId")) = true ∧ isNull result = false)
      let (_, ws) ← env.workspace registry (some (.str id))
      guard (includes (ws.get (js "sessionIds")) (result.get (js "sessionId")) = true)
      return .obj (workspaceField id ++ member "leadSessionId" (result.get (js "sessionId")))

def listWorkspaceSessions : Host (Option Json) :=
  orDeny (do
    let ps ← exactFields [js "workspaceId"] input
    env.workspace registry (lookup (js "workspaceId") ps)) fun (id, _) =>
  readScoped (operationContext "session.list" (workspaceField id)) fun registry => do
    let (_, ws) ← env.workspace registry (some (.str id))
    match ws.get (js "sessionIds") with
    | some (.arr ids) =>
        guard (ids.length ≤ 10000)
        return .arr (← ids.mapM fun x => (safeMeshId (some x)).map .str)
    | _ => none

def leadFields (id lead : JsString) : Props :=
  workspaceField id ++ [(js "leadSessionId", .str lead)]

/-- The workspace of the input and its Lead. -/
def inputLead (ps : Props) : Option (JsString × JsString) := do
  let (id, ws) ← env.workspace registry (lookup (js "workspaceId") ps)
  return (id, ← leadOf ws (lookup (js "leadSessionId") ps))

/-- The agent of a Lead that was resolved without an error. -/
def agentOf (resolved : Json) : Option Json := do
  let agent ← resolved.get (js "agent")
  guard (truthy agent ∧ isTruthy (resolved.get (js "error")) = false)
  return agent

/-- The callback of an operation on a team looks up the workspace and its Lead again. -/
def leadScoped (operation : String) (id lead : JsString) (act : Json → Host (Option Json)) :
    Host (Option Json) :=
  writeScoped (operationContext operation (leadFields id lead)) fun registry =>
    orDeny (do
      let (_, ws) ← env.workspace registry (some (.str id))
      leadOf ws (some (.str lead))) fun _ =>
    await (.resolveAgent lead) fun resolved _ => orDeny (agentOf resolved) act

def teammateView (id lead name : JsString) (created : Json) : Option Json := do
  let teammate := (created.get (js "member")).getD .null
  guard (testId (teammate.get (js "id")) = true ∧ isString (teammate.get (js "name")) name = true ∧
    isString (teammate.get (js "role")) (js "teammate") = true)
  return .obj (leadFields id lead ++ [(js "member", .obj (member "id" (teammate.get (js "id")) ++
    [(js "name", .str name), (js "role", .str (js "teammate"))] ++
      member "phase" (teammate.get (js "phase"))))])

def createTeammate : Host (Option Json) :=
  orDeny (do
    let ps ← exactFields [js "workspaceId", js "leadSessionId", js "name", js "description",
      js "prompt", js "provider", js "context"] input
    let (id, lead) ← inputLead env registry ps
    let name ← label (lookup (js "name") ps) 80
    let description ← label (lookup (js "description") ps) 500
    let prompt ← label (lookup (js "prompt") ps) 4096
    let provider ← safeMeshId (lookup (js "provider") ps)
    let context ← strOf (lookup (js "context") ps)
    guard (context = js "fresh" ∨ context = js "fork")
    return (id, lead, name, description, prompt, provider, context))
  fun (id, lead, name, description, prompt, provider, context) =>
  leadScoped env "team.member.create" id lead fun agent =>
    orDeny (guard (env.hasSpawn = true)) fun _ =>
      await (.spawnTeammate agent [(js "name", .str name), (js "description", .str description),
        (js "prompt", .arr [.obj [(js "type", .str (js "text")), (js "text", .str prompt)]]),
        (js "context", .str context), (js "provider", .str provider)]) fun created _ =>
      .done (teammateView id lead name created)

def createTeamTask : Host (Option Json) :=
  orDeny (do
    let ps ← exactFields [js "workspaceId", js "leadSessionId", js "subject", js "description"] input
    let (id, lead) ← inputLead env registry ps
    let subject ← label (lookup (js "subject") ps) 240
    let description ← label (lookup (js "description") ps) 1500
    return (id, lead, subject, description)) fun (id, lead, subject, description) =>
  leadScoped env "team.task.create" id lead fun agent =>
    await (.createTask agent [(js "subject", .str subject), (js "description", .str description)])
      fun task _ => .done do
        guard (testId (task.get (js "id")) = true)
        let _ ← safeIntegerOf (task.get (js "revision"))
        return .obj (member "taskId" (task.get (js "id")) ++
          member "revision" (task.get (js "revision")) ++ member "status" (task.get (js "status")))

def taskActions : List JsString :=
  [js "claim", js "release", js "complete", js "reopen", js "reassign"]

/-- The new owner, if one is named. -/
def checkOwner (action : JsString) : Option Json → Option (Option JsString)
  | some .null => if action = js "reassign" then none else some none
  | owner => (safeMeshId owner).map some

def updateTeamTask : Host (Option Json) :=
  orDeny (do
    let ps ← exactFields [js "workspaceId", js "leadSessionId", js "taskId",
      js "expectedRevision", js "action", js "owner"] input
    let (id, lead) ← inputLead env registry ps
    let taskId ← safeMeshId (lookup (js "taskId") ps)
    let expected ← lookup (js "expectedRevision") ps
    let revision ← safeIntegerOf (some expected)
    let action ← strOf (lookup (js "action") ps)
    guard (1 ≤ revision ∧ action ∈ taskActions)
    let owner ← checkOwner action (lookup (js "owner") ps)
    return (id, lead, taskId, expected, revision, action, owner))
  fun (id, lead, taskId, expected, revision, action, owner) =>
  leadScoped env "team.task.update" id lead fun agent =>
    await (.updateTask agent ([(js "taskId", .str taskId), (js "expectedRevision", expected),
      (js "action", .str action)] ++ member "owner" (owner.map .str))) fun task _ =>
    .done do
      guard (isString (task.get (js "id")) taskId = true)
      let reached ← safeIntegerOf (task.get (js "revision"))
      guard (revision < reached)
      return .obj ([(js "taskId", .str taskId)] ++ member "revision" (task.get (js "revision")) ++
        member "status" (task.get (js "status")))

end Operations

inductive AdminCall where
  | listWorkspaces
  | createWorkspace (input : Json)
  | renameWorkspace (input : Json)
  | createLeadSession (input : Json)
  | listWorkspaceSessions (input : Json)
  | createTeammate (input : Json)
  | createTeamTask (input : Json)
  | updateTeamTask (input : Json)

/-- A call that is made with the registry at `registry`. -/
def AdminCall.program (env : PlatformEnv) (registry : WorkspaceRegistry) :
    AdminCall → Host (Option Json)
  | listWorkspaces => RemoteOps.listWorkspaces env
  | createWorkspace input => RemoteOps.createWorkspace env input
  | renameWorkspace input => RemoteOps.renameWorkspace env registry input
  | createLeadSession input => RemoteOps.createLeadSession env registry input
  | listWorkspaceSessions input => RemoteOps.listWorkspaceSessions env registry input
  | createTeammate input => RemoteOps.createTeammate env registry input
  | createTeamTask input => RemoteOps.createTeamTask env registry input
  | updateTeamTask input => RemoteOps.updateTeamTask env registry input

end RemoteOps

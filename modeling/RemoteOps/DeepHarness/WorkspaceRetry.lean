import RemoteOps.DeepHarness.PlatformScope
import RemoteOps.Security.RootTests

/-!
# Creating a workspace again

`createWorkspace` asks three services for an effect, and each of them may throw before or
after it takes effect. The next call with the same name and title sees the registry only: a
workspace that is registered there under another title is refused.

`Phase` says how far the calls have come. A call that registers the workspace and does not
come to its title leaves it with the title that the controller gave, and then no later call
succeeds unless that is the title asked for (`recovers_iff`). No more than one workspace is
created in any case.
-/

namespace RemoteOps

open Ecma Posix Transition

/-! ## The services -/

/-- A workspace in the registry. -/
structure Registered where
  id : JsString
  path : JsString
  title : JsString
  sessionIds : List JsString
  deriving DecidableEq

def Registered.toJson (ws : Registered) : Json :=
  .obj
    [(js "id", .str ws.id), (js "path", .str ws.path), (js "title", .str ws.title),
      (js "sessionIds", .arr (ws.sessionIds.map Json.str))]

structure HostState where
  workspaces : List Registered
  /-- the names of the directories below the parent -/
  directories : List JsString
  /-- the names that `createWorkspace` requested -/
  requested : List JsString

def HostState.registry (s : HostState) : WorkspaceRegistry where
  list := some (.arr (s.workspaces.map Registered.toJson))
  get id := (s.workspaces.find? fun ws => ws.id = id).map Registered.toJson
  keyed id ws h := by
    obtain ⟨w, hw, rfl⟩ := Option.map_eq_some_iff.mp h
    obtain rfl : w.id = id := by simpa using List.find?_some hw
    rfl

/-- What the controller chooses for a new workspace. -/
structure HostServices where
  newId : List Registered → JsString
  ownTitle : JsString → JsString

/-- A directory that exists is refused, unless this operation requested it. -/
def HostState.createDirectory (root name : JsString) (s : HostState) : Option (Json × HostState) :=
  if name ∈ s.directories ∧ name ∉ s.requested then none
  else
    some (.str (normalizePath (root ++ js "/" ++ name)).text,
      { s with directories := name :: s.directories, requested := name :: s.requested })

def HostServices.newWorkspace (host : HostServices) (path : JsString) (s : HostState) :
    Registered :=
  ⟨host.newId s.workspaces, path, host.ownTitle path, []⟩

def HostServices.create (host : HostServices) (path : JsString) (s : HostState) :
    Option (Json × HostState) :=
  let ws := host.newWorkspace path s
  some
    (.obj [(js "created", .bool true),
      (js "workspace",
        .obj [(js "workspaceId", .str ws.id), (js "path", .str path), (js "title", .str ws.title)])],
      { s with workspaces := s.workspaces ++ [ws] })

def HostState.rename (workspaceId : Option Json) (title : JsString) (s : HostState) :
    Option (Json × HostState) :=
  match workspaceId with
  | some (.str id) =>
      if s.workspaces.any fun ws => ws.id = id then
        some
          (.obj [(js "workspace", .obj [(js "workspaceId", .str id), (js "title", .str title)])],
            { s with workspaces := s.workspaces.map fun ws =>
                if ws.id = id then { ws with title := title } else ws })
      else none
  | _ => none

inductive HostService where
  | createDirectory
  | create
  | rename
  deriving DecidableEq

/-- Where a call fails: the service that throws, and whether after it took effect. -/
structure FailurePoint where
  service : HostService
  after : Bool
  deriving DecidableEq

/-- A service that refuses throws without an effect. -/
def attempt (fail : Option FailurePoint) (service : HostService)
    (effect : Option (Json × HostState)) (s : HostState) : HostAnswer × HostState :=
  match effect with
  | none => (⟨none, s.registry⟩, s)
  | some (value, s') =>
      if fail = some ⟨service, false⟩ then (⟨none, s.registry⟩, s)
      else if fail = some ⟨service, true⟩ then (⟨none, s'.registry⟩, s')
      else (⟨some value, s'.registry⟩, s')

/-- The services, of which one may fail; the grants stand. -/
def HostServices.handle (host : HostServices) (fail : Option FailurePoint) (s : HostState) :
    HostRequest → HostAnswer × HostState
  | .createDirectory root name => attempt fail .createDirectory (s.createDirectory root name) s
  | .createWorkspace path => attempt fail .create (host.create path s) s
  | .renameWorkspace id title => attempt fail .rename (s.rename id title) s
  | .resolveByPath path =>
      (⟨(s.workspaces.find? fun ws => ws.path = path).map Registered.toJson, s.registry⟩, s)
  | _ => (⟨some .null, s.registry⟩, s)

section Calls

variable (host : HostServices) (env : PlatformEnv) (input : Json)

/-- A call of `createWorkspace`: what it returns, and what it leaves. -/
def callCreate (fail : Option FailurePoint) (s : HostState) : Option Json × HostState :=
  (createWorkspace env input).serve (host.handle fail) s

def callsCreate (fails : List (Option FailurePoint)) (s : HostState) : HostState :=
  fails.foldl (fun s fail => (callCreate host env input fail s).2) s

end Calls

/-- What `createWorkspace` reads of its input: the name, the title and the path. -/
def createInput (env : PlatformEnv) (input : Json) : Option (JsString × JsString × JsString) := do
  let ps ← exactFields [js "name", js "title"] input
  let name ← slugOf (lookup (js "name") ps)
  let title ← label (lookup (js "title") ps) 120
  return (name, title, ← workspacePath env name)

/-! ## The property -/

/-- After the calls, one that does not fail returns the workspace; and it is the only one. -/
structure Recovers (host : HostServices) (env : PlatformEnv) (input : Json) (path title : JsString)
    (fails : List (Option FailurePoint)) (s : HostState) : Prop where
  succeeds : ∃ created ws view,
    (callCreate host env input none (callsCreate host env input fails s)).1 =
        some (createdView created view) ∧
      workspaceView ws.toJson = some view ∧ view.get (js "title") = some (.str title) ∧
        ws ∈ (callCreate host env input none (callsCreate host env input fails s)).2.workspaces ∧
          ws.path = path ∧ ws.title = title
  once : ((callsCreate host env input fails s).workspaces.filter fun ws =>
    ws.path = path).length ≤ 1

/-- The workspace can be created: the path is not registered, the directory does not exist
otherwise, and the controller has a new identifier. -/
structure HostState.Free (host : HostServices) (name path : JsString) (s : HostState) : Prop where
  unregistered : ∀ ws ∈ s.workspaces, ws.path ≠ path
  directory : name ∈ s.directories → name ∈ s.requested
  idValid : validId (host.newId s.workspaces) = true
  idFresh : ∀ ws ∈ s.workspaces, ws.id ≠ host.newId s.workspaces

/-- The call gets the workspace registered. -/
def registers : Option FailurePoint → Bool
  | some ⟨.createDirectory, _⟩ => false
  | some ⟨.create, after⟩ => after
  | _ => true

/-- The call ends between the registration and the title. -/
def leavesOwnTitle : Option FailurePoint → Bool
  | some ⟨.create, after⟩ => after
  | some ⟨.rename, after⟩ => !after
  | _ => false

/-! ## How far the calls have come -/

inductive Phase where
  /-- the workspace is not registered -/
  | free
  /-- it is registered under a title -/
  | held (title : JsString)
  deriving DecidableEq

/-- What a call does, for the controller's own title and the title asked for. -/
def Phase.next (own title : JsString) (phase : Phase) (fail : Option FailurePoint) : Phase :=
  match phase with
  | .held t => .held t
  | .free =>
      if registers fail then .held (if leavesOwnTitle fail then own else title) else .free

/-- The first call that registers the workspace settles its title. -/
theorem foldl_next (own title : JsString) (fails : List (Option FailurePoint)) :
    fails.foldl (Phase.next own title) .free =
      match fails.find? registers with
      | none => .free
      | some fail => .held (if leavesOwnTitle fail then own else title) := by
  have hheld : ∀ (t : JsString) (fails : List (Option FailurePoint)),
      fails.foldl (Phase.next own title) (.held t) = .held t := by
    intro t fails
    induction fails with
    | nil => rfl
    | cons fail fails ih => exact ih
  induction fails with
  | nil => rfl
  | cons fail fails ih =>
      rw [List.foldl_cons]
      by_cases hfail : registers fail = true
      · rw [List.find?_cons_of_pos hfail, Phase.next, if_pos hfail, hheld]
      · rw [List.find?_cons_of_neg hfail, Phase.next, if_neg hfail, ih]

/-- The path has one workspace, which has the title and no sessions yet. -/
def HostState.Held (path title : JsString) (s : HostState) : Prop :=
  ∃ ws, (s.workspaces.filter fun ws => ws.path = path) = [ws] ∧ ws.title = title ∧
    validId ws.id = true ∧ ws.sessionIds = []

def HostState.InPhase (host : HostServices) (name path : JsString) (s : HostState) : Phase → Prop
  | .free => s.Free host name path
  | .held title => s.Held path title

/-! ## Serving -/

variable {host : HostServices} {env : PlatformEnv} {input : Json} {name title path : JsString}
  {s : HostState} {fail : Option FailurePoint}

theorem serve_await {β S : Type} (handle : S → HostRequest → HostAnswer × S) (request : HostRequest)
    (k : Json → WorkspaceRegistry → Host (Option β)) (s : S) :
    (await request k).serve handle s =
      match (handle s request).1.value with
      | none => (none, (handle s request).2)
      | some value => (k value (handle s request).1.registry).serve handle (handle s request).2 := by
  rw [await, Program.serve_ask]
  cases (handle s request).1.value <;> rfl

theorem serve_writeScoped {context : Props} {work : WorkspaceRegistry → Host (Option Json)} :
    (writeScoped context work).serve (host.handle fail) s =
      (work s.registry).serve (host.handle fail) s := by
  rw [writeScoped, serve_await]
  change ((work s.registry >>= _).serve (host.handle fail) s) = _
  rw [Program.serve_bind]
  rfl

theorem attempt_before {service : HostService} {value : Json} {s' : HostState} :
    attempt (some ⟨service, false⟩) service (some (value, s')) s = (⟨none, s.registry⟩, s) :=
  if_pos rfl

theorem attempt_after {service : HostService} {value : Json} {s' : HostState} :
    attempt (some ⟨service, true⟩) service (some (value, s')) s = (⟨none, s'.registry⟩, s') := by
  rw [attempt, if_neg (by simp), if_pos rfl]

theorem attempt_of_ne {service : HostService} {value : Json} {s' : HostState}
    (hfail : ∀ after, fail ≠ some ⟨service, after⟩) :
    attempt fail service (some (value, s')) s = (⟨some value, s'.registry⟩, s') := by
  rw [attempt, if_neg (hfail false), if_neg (hfail true)]

/-! ## The path -/

/-- The path of a name is below the parent, and where the directory is created. -/
theorem path_of_createInput (hinput : createInput env input = some (name, title, path)) :
    env.isBelow path = true ∧ path = (normalizePath (env.root ++ js "/" ++ name)).text ∧
      title.length ≤ 120 := by
  simp only [createInput, Option.bind_eq_bind, Option.bind_eq_some_iff, Option.pure_def,
    Option.some.injEq, Prod.mk.injEq] at hinput
  obtain ⟨ps, -, m, hname, t, htitle, q, hpath, rfl, rfl, rfl⟩ := hinput
  obtain ⟨-, n, rfl⟩ := slugOf_eq_some hname
  refine ⟨?_, ?_, ?_⟩
  · rw [workspacePath_text] at hpath
    obtain rfl := Option.some.inj hpath
    exact isBelow_iff.mpr ⟨[n], by simp, resolvePath_pathText (by simp) _⟩
  · unfold workspacePath at hpath
    dsimp only at hpath
    split_ifs at hpath
    exact (Option.some.inj hpath).symm
  · unfold label at htitle
    split at htitle
    · split_ifs at htitle with htext
      obtain rfl := Option.some.inj htitle
      exact htext.2.2.1
    · cases htitle

theorem callCreate_eq (hinput : createInput env input = some (name, title, path)) :
    callCreate host env input fail s =
      match s.workspaces.find? fun ws => ws.path = path with
      | some ws =>
          ((do
            let ws ← env.owned ws.toJson
            guard (isString (ws.get (js "title")) title = true)
            return createdView false (← workspaceView ws)), s)
      | none => (createFresh env name title path).serve (host.handle fail) s := by
  unfold createInput at hinput
  rw [callCreate, createWorkspace, hinput, orDeny]
  dsimp only
  rw [serve_writeScoped, Program.serve_ask]
  rw [HostServices.handle]
  cases s.workspaces.find? fun ws => ws.path = path with
  | none => rfl
  | some ws => rfl

/-! ## One call -/

/-- The view of a workspace without sessions. -/
def Registered.view (ws : Registered) : Json :=
  .obj
    [(js "workspaceId", .str ws.id), (js "title", .str (ws.title.take 120)),
      (js "sessionCount", .num (.ofDecimal false 0 0)), (js "createdAt", .null),
      (js "updatedAt", .null)]

theorem workspaceView_toJson {ws : Registered} (hid : validId ws.id = true)
    (hsessions : ws.sessionIds = []) : workspaceView ws.toJson = some ws.view := by
  have hgetTitle : ws.toJson.get (js "title") = some (.str ws.title) := rfl
  have hgetId : ws.toJson.get (js "id") = some (.str ws.id) := rfl
  have hgetSessions : ws.toJson.get (js "sessionIds") = some (.arr []) := by
    rw [Registered.toJson, hsessions]
    rfl
  rw [workspaceView, hgetTitle, hgetSessions, hgetId]
  exact if_pos ⟨hid, Nat.zero_le _, rfl⟩

theorem view_title {ws : Registered} (htitle : ws.title.length ≤ 120) :
    ws.view.get (js "title") = some (.str ws.title) := by
  have hget : ws.view.get (js "title") = some (.str (ws.title.take 120)) := rfl
  rw [hget, List.take_of_length_le htitle]

theorem owned_toJson {ws : Registered} (hbelow : env.isBelow ws.path = true) :
    env.owned ws.toJson = some ws.toJson := by
  have hpath : ws.toJson.get (js "path") = some (.str ws.path) := rfl
  rw [PlatformEnv.owned, hpath]
  exact if_pos hbelow

/-- A call finds the workspace that is there. -/
theorem callCreate_of_held {ws : Registered} (hinput : createInput env input = some (name, title, path))
    (hws : (s.workspaces.filter fun ws => ws.path = path) = [ws]) (hid : validId ws.id = true)
    (hsessions : ws.sessionIds = []) :
    callCreate host env input fail s =
      (if ws.title = title then some (createdView false ws.view) else none, s) := by
  have hfind : (s.workspaces.find? fun ws => ws.path = path) = some ws := by
    rw [← List.head?_filter, hws]
    rfl
  obtain rfl : ws.path = path := by simpa using List.find?_some hfind
  have htitle : ws.toJson.get (js "title") = some (.str ws.title) := rfl
  rw [callCreate_eq hinput, hfind]
  dsimp only
  rw [owned_toJson (path_of_createInput hinput).1]
  simp only [Option.bind_eq_bind, Option.bind_some, htitle, workspaceView_toJson hid hsessions]
  by_cases hsame : ws.title = title
  · rw [if_pos hsame, guard, if_pos (by simp [isString, hsame])]
    rfl
  · rw [if_neg hsame, guard, if_neg (by simpa [isString] using hsame)]
    rfl

/-- The registry has the workspace that the controller has just created. -/
theorem workspace_new {ws : Registered} {old : List Registered} {s : HostState}
    (hworkspaces : s.workspaces = old ++ [ws]) (hid : validId ws.id = true)
    (hfresh : ∀ w ∈ old, w.id ≠ ws.id) (hbelow : env.isBelow ws.path = true) :
    env.workspace s.registry (some (.str ws.id)) = some (ws.id, ws.toJson) := by
  have hfind : (s.workspaces.find? fun w => w.id = ws.id) = some ws := by
    rw [hworkspaces, List.find?_append, List.find?_eq_none.mpr (by simpa using hfresh)]
    simp
  have hget : s.registry.get ws.id = some ws.toJson := by
    rw [HostState.registry]
    dsimp only
    rw [hfind]
    rfl
  rw [PlatformEnv.workspace, safeMeshId, if_pos hid]
  simp only [Option.bind_eq_bind, Option.bind_some]
  rw [hget, Option.bind_some, owned_toJson hbelow]
  rfl

theorem showCreated_eq {ws : Registered} {old : List Registered} {s : HostState}
    {created workspace : Json} (hworkspaces : s.workspaces = old ++ [ws])
    (hid : validId ws.id = true) (hfresh : ∀ w ∈ old, w.id ≠ ws.id)
    (hbelow : env.isBelow ws.path = true) (hsessions : ws.sessionIds = [])
    (hreported : workspace.get (js "workspaceId") = some (.str ws.id))
    (hcreated : created.get (js "created") = some (.bool true)) :
    showCreated env created workspace s.registry = some (createdView true ws.view) := by
  rw [showCreated, hreported, workspace_new hworkspaces hid hfresh hbelow]
  simp only [Option.bind_eq_bind, Option.bind_some, workspaceView_toJson hid hsessions, hcreated]
  rfl

/-- The new workspace under a title. -/
def HostServices.titled (host : HostServices) (path title : JsString) (s : HostState) :
    Registered :=
  ⟨host.newId s.workspaces, path, title, []⟩

/-- The state with the workspace and its directory. -/
def HostState.made (host : HostServices) (name path title : JsString) (s : HostState) :
    HostState where
  workspaces := s.workspaces ++ [host.titled path title s]
  directories := name :: s.directories
  requested := name :: s.requested

/-- The state with the directory of the workspace. -/
def HostState.withDirectory (name : JsString) (s : HostState) : HostState :=
  { s with directories := name :: s.directories, requested := name :: s.requested }

theorem createDirectory_free (hinput : createInput env input = some (name, title, path))
    (hfree : s.Free host name path) :
    s.createDirectory env.root name = some (.str path, s.withDirectory name) := by
  rw [HostState.createDirectory, if_neg (fun h => h.2 (hfree.directory h.1)),
    ← (path_of_createInput hinput).2.1]
  rfl

theorem rename_made (hfree : s.Free host name path) (own : JsString) :
    (s.made host name path own).rename (some (.str (host.newId s.workspaces))) title =
      some
        (.obj [(js "workspace", .obj [(js "workspaceId", .str (host.newId s.workspaces)),
          (js "title", .str title)])], s.made host name path title) := by
  have hany : ((s.made host name path own).workspaces.any fun ws =>
      ws.id = host.newId s.workspaces) = true := by
    rw [HostState.made, List.any_append]
    simp [HostServices.titled]
  have hold : (s.workspaces.map fun ws =>
      if ws.id = host.newId s.workspaces then { ws with title := title } else ws) =
        s.workspaces := by
    conv_rhs => rw [← List.map_id s.workspaces]
    apply List.map_congr_left
    intro ws hws
    exact if_neg (hfree.idFresh ws hws)
  have hall : ((s.made host name path own).workspaces.map fun ws =>
      if ws.id = host.newId s.workspaces then { ws with title := title } else ws) =
        (s.made host name path title).workspaces := by
    rw [HostState.made, List.map_append, hold]
    exact congrArg (fun ws => s.workspaces ++ [ws]) (if_pos rfl)
  rw [HostState.rename, if_pos hany, hall]
  rfl

/-- What the controller reports of a new workspace. -/
def HostState.report (host : HostServices) (path : JsString) (s : HostState) : Json :=
  .obj
    [(js "workspaceId", .str (host.newId s.workspaces)), (js "path", .str path),
      (js "title", .str (host.ownTitle path))]

/-- The end of a call that has created the directory. -/
theorem createFresh_directory (hinput : createInput env input = some (name, title, path))
    (hfree : s.Free host name path) (hfail : ∀ after, fail ≠ some ⟨.createDirectory, after⟩) :
    (createFresh env name title path).serve (host.handle fail) s =
      (await (.createWorkspace path) fun created registry =>
        orDeny (createdWorkspace path created) fun ws =>
          if isString (ws.get (js "title")) title then .done (showCreated env created ws registry)
          else
            await (.renameWorkspace (ws.get (js "workspaceId")) title) fun _ registry =>
              .done (showCreated env created ws registry)).serve (host.handle fail)
        (s.withDirectory name) := by
  have hhandle : host.handle fail s (.createDirectory env.root name) =
      (⟨some (.str path), (s.withDirectory name).registry⟩, s.withDirectory name) := by
    rw [HostServices.handle, createDirectory_free hinput hfree, attempt_of_ne hfail]
  have hpath : guard (isString (some (.str path)) path = true) = some () := by
    simp [isString]
  rw [createFresh, serve_await, hhandle]
  dsimp only
  rw [hpath]
  rfl

/-- The end of a call that has created the workspace. -/
theorem createFresh_created (hinput : createInput env input = some (name, title, path))
    (hfree : s.Free host name path) (hfail : ∀ after, fail ≠ some ⟨.createDirectory, after⟩)
    (hfail' : ∀ after, fail ≠ some ⟨.create, after⟩) :
    (createFresh env name title path).serve (host.handle fail) s =
      if host.ownTitle path = title then
        (some (createdView true (host.titled path title s).view),
          s.made host name path title)
      else
        (await (.renameWorkspace (some (.str (host.newId s.workspaces))) title) fun _ registry =>
          .done (showCreated env (.obj [(js "created", .bool true),
            (js "workspace", s.report host path)]) (s.report host path) registry)).serve
              (host.handle fail) (s.made host name path (host.ownTitle path)) := by
  have hhandle : host.handle fail (s.withDirectory name) (.createWorkspace path) =
      (⟨some (.obj [(js "created", .bool true), (js "workspace", s.report host path)]),
        (s.made host name path (host.ownTitle path)).registry⟩,
          s.made host name path (host.ownTitle path)) :=
    attempt_of_ne hfail'
  have hcreated : createdWorkspace path (.obj [(js "created", .bool true),
      (js "workspace", s.report host path)]) = some (s.report host path) := by
    have hget : (Json.obj [(js "created", .bool true),
      (js "workspace", s.report host path)]).get (js "workspace") = some (s.report host path) := rfl
    have hpath : (s.report host path).get (js "path") = some (.str path) := rfl
    rw [createdWorkspace, hget]
    simp [hpath, isString]
  have htitle : (s.report host path).get (js "title") = some (.str (host.ownTitle path)) := rfl
  rw [createFresh_directory hinput hfree hfail, serve_await, hhandle]
  dsimp only
  rw [hcreated, orDeny, htitle]
  by_cases hown : host.ownTitle path = title
  · have hshow : showCreated env (.obj [(js "created", .bool true),
        (js "workspace", s.report host path)]) (s.report host path)
          (s.made host name path title).registry =
            some (createdView true (host.titled path title s).view) :=
      showCreated_eq rfl hfree.idValid hfree.idFresh (path_of_createInput hinput).1 rfl rfl rfl
    rw [if_pos (by simpa [isString] using hown), if_pos hown, Program.serve_done, hown, hshow]
  · rw [if_neg (by simpa [isString] using hown), if_neg hown]
    rfl

/-- What a call comes to that finds the workspace free. -/
theorem callCreate_of_free (hinput : createInput env input = some (name, title, path))
    (hfree : s.Free host name path) :
    callCreate host env input fail s =
      match fail with
      | some ⟨.createDirectory, after⟩ => (none, if after then s.withDirectory name else s)
      | some ⟨.create, after⟩ =>
          (none, if after then s.made host name path (host.ownTitle path)
            else s.withDirectory name)
      | some ⟨.rename, after⟩ =>
          if host.ownTitle path = title then
            (some (createdView true (host.titled path title s).view),
              s.made host name path title)
          else (none, s.made host name path (if after then title else host.ownTitle path))
      | none =>
          (some (createdView true (host.titled path title s).view),
            s.made host name path title) := by
  have hnone : (s.workspaces.find? fun ws => ws.path = path) = none :=
    List.find?_eq_none.mpr (by simpa using hfree.unregistered)
  have hshow : showCreated env (.obj [(js "created", .bool true),
      (js "workspace", s.report host path)]) (s.report host path)
        (s.made host name path title).registry =
          some (createdView true (host.titled path title s).view) :=
    showCreated_eq rfl hfree.idValid hfree.idFresh (path_of_createInput hinput).1 rfl rfl rfl
  rw [callCreate_eq hinput, hnone]
  dsimp only
  rcases fail with - | ⟨service, after⟩
  · rw [createFresh_created hinput hfree (by simp) (by simp)]
    split_ifs with hown
    · rfl
    · rw [serve_await, HostServices.handle, rename_made hfree, attempt_of_ne (by simp)]
      exact Prod.ext hshow rfl
  · cases service with
    | createDirectory =>
        have hrequest : host.handle (some ⟨.createDirectory, after⟩) s
            (.createDirectory env.root name) =
              attempt (some ⟨.createDirectory, after⟩) .createDirectory
                (some (.str path, s.withDirectory name)) s := by
          rw [HostServices.handle, createDirectory_free hinput hfree]
        rw [createFresh, serve_await, hrequest]
        cases after with
        | false => rw [attempt_before]; rfl
        | true => rw [attempt_after]; rfl
    | create =>
        have hrequest : host.handle (some ⟨.create, after⟩) (s.withDirectory name)
            (.createWorkspace path) =
              attempt (some ⟨.create, after⟩) .create
                (some (.obj [(js "created", .bool true), (js "workspace", s.report host path)],
                  s.made host name path (host.ownTitle path))) (s.withDirectory name) := rfl
        rw [createFresh_directory hinput hfree (by simp), serve_await, hrequest]
        cases after with
        | false => rw [attempt_before]; rfl
        | true => rw [attempt_after]; rfl
    | rename =>
        rw [createFresh_created hinput hfree (by simp) (by simp)]
        dsimp only
        by_cases hown : host.ownTitle path = title
        · rw [if_pos hown, if_pos hown]
        · rw [if_neg hown, if_neg hown, serve_await, HostServices.handle, rename_made hfree]
          cases after with
          | false => rw [attempt_before]; rfl
          | true => rw [attempt_after]; rfl

/-! ## Calls -/

theorem filter_free (hfree : s.Free host name path) :
    (s.workspaces.filter fun ws => ws.path = path) = [] :=
  List.filter_eq_nil_iff.mpr (by simpa using hfree.unregistered)

theorem free_withDirectory (hfree : s.Free host name path) :
    (s.withDirectory name).Free host name path :=
  ⟨hfree.unregistered, fun _ => List.mem_cons_self, hfree.idValid, hfree.idFresh⟩

theorem held_made (hfree : s.Free host name path) (t : JsString) :
    (s.made host name path t).Held path t := by
  refine ⟨host.titled path t s, ?_, rfl, hfree.idValid, rfl⟩
  have hpath : decide ((host.titled path t s).path = path) = true := decide_eq_true rfl
  rw [HostState.made, List.filter_append, filter_free hfree, List.filter_cons, if_pos hpath]
  rfl

/-- A call goes from phase to phase. -/
theorem inPhase_callCreate (hinput : createInput env input = some (name, title, path))
    {phase : Phase} (hphase : s.InPhase host name path phase) :
    (callCreate host env input fail s).2.InPhase host name path
      (phase.next (host.ownTitle path) title fail) := by
  cases phase with
  | held t =>
      obtain ⟨ws, hws, htitle, hid, hsessions⟩ := hphase
      rw [callCreate_of_held hinput hws hid hsessions]
      exact ⟨ws, hws, htitle, hid, hsessions⟩
  | free =>
      have hfree : s.Free host name path := hphase
      rw [callCreate_of_free hinput hfree]
      rcases fail with - | ⟨service, after⟩
      · exact held_made hfree title
      · cases service with
        | createDirectory =>
            cases after with
            | false => exact hfree
            | true => exact free_withDirectory hfree
        | create =>
            cases after with
            | false => exact free_withDirectory hfree
            | true => exact held_made hfree _
        | rename =>
            dsimp only
            by_cases hown : host.ownTitle path = title
            · have hnext : Phase.free.next (host.ownTitle path) title (some ⟨.rename, after⟩) =
                  .held title := by
                rw [hown]
                exact congrArg Phase.held (ite_self title)
              rw [if_pos hown, hnext]
              exact held_made hfree title
            · rw [if_neg hown]
              cases after with
              | false => exact held_made hfree _
              | true => exact held_made hfree _

theorem inPhase_callsCreate (hinput : createInput env input = some (name, title, path))
    (fails : List (Option FailurePoint)) {phase : Phase} (hphase : s.InPhase host name path phase) :
    (callsCreate host env input fails s).InPhase host name path
      (fails.foldl (Phase.next (host.ownTitle path) title) phase) := by
  induction fails generalizing s phase with
  | nil => exact hphase
  | cons fail fails ih => exact ih (inPhase_callCreate hinput hphase)

/-- In these phases, and only in these, a call that does not fail succeeds. -/
theorem callCreate_isSome_iff (hinput : createInput env input = some (name, title, path))
    {phase : Phase} (hphase : s.InPhase host name path phase) :
    (callCreate host env input none s).1.isSome = true ↔ phase = .free ∨ phase = .held title := by
  cases phase with
  | free =>
      have hfree : s.Free host name path := hphase
      simp [callCreate_of_free hinput hfree]
  | held t =>
      obtain ⟨ws, hws, rfl, hid, hsessions⟩ := hphase
      rw [callCreate_of_held hinput hws hid hsessions]
      by_cases htitle : ws.title = title
      · simp [htitle]
      · simp [htitle]

theorem succeeds_of_phase (hinput : createInput env input = some (name, title, path))
    {phase : Phase} (hphase : s.InPhase host name path phase)
    (hgood : phase = .free ∨ phase = .held title) :
    ∃ created ws view, (callCreate host env input none s).1 = some (createdView created view) ∧
      workspaceView ws.toJson = some view ∧ view.get (js "title") = some (.str title) ∧
        ws ∈ (callCreate host env input none s).2.workspaces ∧ ws.path = path ∧
          ws.title = title := by
  have hlength := (path_of_createInput hinput).2.2
  rcases hgood with rfl | rfl
  · have hfree : s.Free host name path := hphase
    rw [callCreate_of_free hinput hfree]
    refine ⟨true, host.titled path title s, _, rfl, workspaceView_toJson hfree.idValid rfl,
      view_title hlength, ?_, rfl, rfl⟩
    exact List.mem_append_right _ (List.mem_singleton_self _)
  · obtain ⟨ws, hws, rfl, hid, hsessions⟩ := hphase
    have hmem : ws ∈ s.workspaces.filter fun ws => ws.path = path := by
      rw [hws]
      exact List.mem_singleton_self ws
    rw [callCreate_of_held hinput hws hid hsessions, if_pos rfl]
    exact ⟨false, ws, _, rfl, workspaceView_toJson hid hsessions, view_title hlength,
      (List.mem_filter.mp hmem).1, of_decide_eq_true (List.mem_filter.mp hmem).2, rfl⟩

theorem once_of_phase {phase : Phase} (hphase : s.InPhase host name path phase) :
    (s.workspaces.filter fun ws => ws.path = path).length ≤ 1 := by
  cases phase with
  | free =>
      have hfree : s.Free host name path := hphase
      rw [filter_free hfree]
      exact Nat.zero_le 1
  | held t =>
      obtain ⟨ws, hws, -⟩ := hphase
      rw [hws]
      exact le_rfl

/-- The calls leave the workspace creatable or created exactly if the first that registers it
does not leave it under another title. -/
theorem recovers_iff (hinput : createInput env input = some (name, title, path))
    (hfree : s.Free host name path) (fails : List (Option FailurePoint)) :
    Recovers host env input path title fails s ↔
      ∀ fail, fails.find? registers = some fail → leavesOwnTitle fail = true →
        host.ownTitle path = title := by
  have hphase := inPhase_callsCreate hinput fails
    (show s.InPhase host name path Phase.free from hfree)
  rw [foldl_next] at hphase
  have hgood : Recovers host env input path title fails s ↔
      (callCreate host env input none (callsCreate host env input fails s)).1.isSome = true := by
    constructor
    · rintro ⟨⟨created, ws, view, hresult, -⟩, -⟩
      rw [hresult]
      rfl
    · intro hsome
      exact ⟨succeeds_of_phase hinput hphase ((callCreate_isSome_iff hinput hphase).mp hsome),
        once_of_phase hphase⟩
  rw [hgood, callCreate_isSome_iff hinput hphase]
  cases fails.find? registers with
  | none => simp
  | some fail => cases hleaves : leavesOwnTitle fail <;> simp [hleaves]

/-! ## A call that fails between the registration and the title -/

/-- A controller that names a workspace after its directory. -/
def directoryHost : HostServices where
  newId _ := js "bd037d3e-ac18-44a7-bc25-0bbcc5a8be1d"
  ownTitle path := (path.reverse.takeWhile fun u => u ≠ unit '/').reverse

def marketplace : Json :=
  .obj [(js "name", .str (js "marketplace-b2b")), (js "title", .str (js "Marketplace B2B"))]

def emptyHost : HostState := ⟨[], [], []⟩

theorem createInput_marketplace : createInput projectsEnv marketplace =
    some (js "marketplace-b2b", js "Marketplace B2B", js "/projects/marketplace-b2b") := by
  decide +kernel

theorem free_emptyHost :
    emptyHost.Free directoryHost (js "marketplace-b2b") (js "/projects/marketplace-b2b") where
  unregistered _ h := by cases h
  directory h := by cases h
  idValid := by decide
  idFresh _ h := by cases h

/-- The directory cannot be created, then `create` fails, then nothing fails. -/
theorem recovers_marketplace :
    Recovers directoryHost projectsEnv marketplace (js "/projects/marketplace-b2b")
      (js "Marketplace B2B") [some ⟨.createDirectory, true⟩, some ⟨.create, false⟩] emptyHost :=
  (recovers_iff createInput_marketplace free_emptyHost _).mpr fun _ h => by cases h

/-- `create` takes effect and throws; the next call is refused. -/
theorem refused_after_create :
    ¬Recovers directoryHost projectsEnv marketplace (js "/projects/marketplace-b2b")
      (js "Marketplace B2B") [some ⟨.create, true⟩] emptyHost := by
  rintro ⟨⟨created, ws, view, hresult, -⟩, -⟩
  have hrefused : (callCreate directoryHost projectsEnv marketplace none
      (callsCreate directoryHost projectsEnv marketplace [some ⟨.create, true⟩] emptyHost)).1.isNone =
        true := by decide +kernel
  rw [hresult] at hrefused
  cases hrefused

end RemoteOps

import RemoteOps.Docker.ReadProxy

/-!
# What the proxy asks of the daemon

`Licensed` says which requests to the daemon the configuration of the host
admits, given the exchanges that went before. Each route is taken apart by one
lemma, which says when everything the route may ask is licensed. The three routes
that load an image, run a candidate and remove one pass their own checks and then
ask, so for them it is so exactly when the action is listed.
-/

namespace RemoteOps

open Ecma Transition

abbrev Exchanges := List (DockerCall × DockerAnswer)

/-! ## Licences -/

/-- The reference is a name in the scope, or the daemon has listed a container
with a name in the scope whose id starts with it. -/
def Accepted (host : ProxyHost) (scope : List JsString) (ref : JsString) (past : Exchanges) :
    Prop :=
  ref ∈ scope ∨ isHexId ref = true ∧ ∃ response : DockerResponse,
    (DockerCall.list [(js "all", js "1")], .ok response) ∈ past ∧
      listingShows host scope ref response = .ok true

structure LoadPathLicensed (cfg : ProxyConfig) (host : ProxyHost) (filePath : JsString) :
    Prop where
  action : js "load_image" ∈ cfg.allowedActions
  tar : endsWith filePath (js ".tar") = true
  real : ∃ raw, host.realpath raw = some filePath
  root : ∃ rootRaw ∈ cfg.imageLoadRoots, ∃ root, host.realpath rootRaw = some root ∧
    isInsideRoot (dropTrailing (unit '/') root) filePath = true

/-- The lists that a candidate is checked against, apart from the actions. -/
structure CandidateListed (cfg : ProxyConfig) (spec : CandidateSpec) : Prop where
  name : allowedPrefix cfg.candidateNamePrefixes spec.name = true
  image : allowedPrefix cfg.candidateImagePrefixes spec.image = true
  network : spec.network ∈ cfg.candidateNetworks
  hostPort : spec.hostPort ∈ cfg.candidateHostPorts
  containerPort : spec.containerPort ∈ cfg.candidateContainerPorts

def CandidateLicensed (cfg : ProxyConfig) (spec : CandidateSpec) : Prop :=
  js "candidate_run" ∈ cfg.allowedActions ∧ CandidateListed cfg spec

/-- A program of the caller's choice in a container of both lists. -/
structure GenericExec (cfg : ProxyConfig) (host : ProxyHost) (past : Exchanges) (ref : JsString)
    (spec : ExecSpec) : Prop where
  allowed : ref ∈ cfg.allowed
  execContainer : Accepted host cfg.execContainers ref past
  program : ∃ program ∈ cfg.execPrograms, spec.cmd.head? = some program

/-- A fixed program, on its own path and in its own container. -/
def SemanticExec (cfg : ProxyConfig) (path ref : JsString) : Prop :=
  (path = postgresPath ∧ cfg.postgresContainer = some ref) ∨
    (∃ op ∈ paperclipOperations, path = paperclipPath op) ∧ ref = cfg.paperclipContainer ∧
      ref ∈ cfg.allowed ∧ ref ∈ cfg.execContainers

def ExecLicensed (cfg : ProxyConfig) (host : ProxyHost) (path : JsString) (past : Exchanges)
    (ref : JsString) (spec : ExecSpec) : Prop :=
  GenericExec cfg host past ref spec ∨ SemanticExec cfg path ref

/-- The host configuration licenses the call, made for a request to `path` after
the exchanges `past`. What only reads needs no licence; a container is started by
the id that its creation reported, and cleaned up when its start was refused. -/
def Licensed (cfg : ProxyConfig) (host : ProxyHost) (path : JsString) (past : Exchanges) :
    DockerCall → Prop
  | .lifecycle ref action => action ∈ cfg.allowedActions ∧ Accepted host cfg.allowed ref past
  | .loadImage filePath => LoadPathLicensed cfg host filePath
  | .create spec => CandidateLicensed cfg spec
  | .startCandidate id =>
      ∃ spec response, (DockerCall.create spec, Except.ok response) ∈ past ∧
        reportedId host response.body = id ∧ CandidateLicensed cfg spec
  | .removeCandidate name =>
      js "candidate_remove" ∈ cfg.allowedActions ∧
        allowedPrefix cfg.candidateNamePrefixes name = true
  | .cleanup id =>
      ∃ response, (DockerCall.startCandidate id, Except.ok response) ∈ past ∧
        response.status ≠ 204
  | .execCreate ref spec => ExecLicensed cfg host path past ref spec
  | .execStart id =>
      ∃ ref spec response, (DockerCall.execCreate ref spec, Except.ok response) ∈ past ∧
        reportedId host response.body = id ∧ ExecLicensed cfg host path past ref spec
  | .ping | .version | .list _ | .inspect _ | .logs _ _ | .execInspect _ => True

/-- The six actions that `ALLOWED_DOCKER_ACTIONS` may name. -/
def DockerCall.isAction : DockerCall → Bool
  | lifecycle _ _ | loadImage _ | create _ | startCandidate _ | removeCandidate _ => true
  | _ => false

structure ProxyLicensing (cfg : ProxyConfig) (host : ProxyHost) (routes : SemanticRoutes)
    (req : HttpRequest) : Prop where
  licensed : ∀ past call, (handle cfg host routes req).Asks past call →
    Licensed cfg host (requestPath req) past call
  empty_denies : cfg.allowedActions = [] → ∀ past call,
    (handle cfg host routes req).Asks past call → call.isAction = false

/-! ## Rules -/

/-- Everything the program may ask after `past` satisfies `P`. -/
abbrev Obeys (P : Exchanges → DockerCall → Prop) (program : Proxy HttpReply) (past : Exchanges) :
    Prop :=
  program.wp P (fun _ _ => True) past

section Rules

variable {P : Exchanges → DockerCall → Prop} {past : Exchanges}

theorem obeys_dockerOr {failed : JsString → HttpReply} {call : DockerCall}
    {k : DockerResponse → Proxy HttpReply} :
    Obeys P (dockerOr failed call k) past ↔
      P past call ∧ ∀ response, Obeys P (k response) (past ++ [(call, .ok response)]) := by
  refine and_congr_right fun _ => ⟨fun h response => h (.ok response), fun h answer => ?_⟩
  cases answer with
  | error message => trivial
  | ok response => exact h response

theorem obeys_dockerRequest {call : DockerCall} {k : DockerResponse → Proxy HttpReply} :
    Obeys P (dockerRequest call k) past ↔
      P past call ∧ ∀ response, Obeys P (k response) (past ++ [(call, .ok response)]) :=
  obeys_dockerOr

theorem obeys_run {α : Type} {x : Checked α} {k : α → Proxy HttpReply} :
    Obeys P (x.run k) past ↔ ∀ y, x = .ok y → Obeys P (k y) past := by
  cases x with
  | error reply => simp [Checked.run]
  | ok y => simp [Checked.run]

/-- A call whose answer is passed on. -/
theorem obeys_lastCall {call : DockerCall} {reply : DockerResponse → HttpReply} :
    Obeys P (dockerRequest call fun u => .done (reply u)) past ↔ P past call := by
  simp [obeys_dockerRequest]

theorem obeys_resolve {host : ProxyHost} {rawRef : JsString} {scope : List JsString}
    {k : Option JsString → Proxy HttpReply}
    (hlist : P past (.list [(js "all", js "1")]))
    (hnone : ∀ past', Obeys P (k none) past')
    (hsome : ∀ past' ref, Accepted host scope ref past' → Obeys P (k (some ref)) past') :
    Obeys P (resolveAllowedContainerRef host rawRef scope k) past := by
  unfold resolveAllowedContainerRef
  cases cleanContainerRef rawRef with
  | none => exact hnone past
  | some ref =>
      dsimp only
      split_ifs with hscope hhex
      · exact hsome past ref (.inl (by simpa using hscope))
      · exact hnone past
      · refine obeys_dockerRequest.mpr ⟨hlist, fun response => obeys_run.mpr fun found hfound => ?_⟩
        cases found with
        | false => exact hnone _
        | true =>
            exact hsome _ ref (.inr ⟨by simpa using hhex, response, by simp, hfound⟩)

end Rules

/-! ## What the checks leave -/

theorem orRefuse_eq_ok {α : Type} {x : Option α} {ok : α → Bool} {status : ℕ} {code : String}
    {y : α} (h : orRefuse x ok status code = .ok y) : x = some y ∧ ok y = true := by
  cases x with
  | none => cases h
  | some z =>
      by_cases hz : ok z = true
      · rw [orRefuse, if_pos hz] at h
        cases h
        exact ⟨rfl, hz⟩
      · rw [orRefuse, if_neg hz] at h
        cases h

theorem cleanAllowedLoadPath_eq_some {cfg : ProxyConfig} {host : ProxyHost} {raw real : JsString}
    (h : cleanAllowedLoadPath cfg host raw = some real) :
    host.realpath raw = some real ∧ endsWith real (js ".tar") = true ∧
      ∃ rootRaw ∈ cfg.imageLoadRoots, ∃ root, host.realpath rootRaw = some root ∧
        isInsideRoot (dropTrailing (unit '/') root) real = true := by
  unfold cleanAllowedLoadPath at h
  split at h
  · cases h
  · cases hreal : host.realpath raw with
    | none => simp [hreal] at h
    | some path =>
        simp only [hreal] at h
        split_ifs at h with hbad hroot
        obtain rfl := Option.some.inj h
        obtain ⟨rootRaw, hmem, hinside⟩ := List.any_eq_true.mp hroot
        have htar : endsWith path (js ".tar") = true := by
          simp only [Bool.or_eq_true, not_or, Bool.not_eq_true', Bool.not_eq_false] at hbad
          exact hbad.2
        cases hrootReal : host.realpath rootRaw with
        | none => simp [hrootReal] at hinside
        | some root =>
            exact ⟨rfl, htar, rootRaw, hmem, root, hrootReal, by simpa [hrootReal] using hinside⟩

theorem checkImageLoad_eq_ok {cfg : ProxyConfig} {host : ProxyHost} {req : HttpRequest}
    {filePath : JsString} (h : checkImageLoad cfg host req = .ok filePath)
    (haction : js "load_image" ∈ cfg.allowedActions) : LoadPathLicensed cfg host filePath := by
  obtain ⟨-, -, h⟩ := bind_eq_ok h
  obtain ⟨payload, -, h⟩ := bind_eq_ok h
  obtain ⟨raw, -, h⟩ := bind_eq_ok h
  obtain ⟨hreal, htar, hroot⟩ := cleanAllowedLoadPath_eq_some (orRefuse_eq_ok h).1
  exact ⟨haction, htar, ⟨raw, hreal⟩, hroot⟩

theorem checkCandidateRun_eq_ok {cfg : ProxyConfig} {host : ProxyHost} {req : HttpRequest}
    {spec : CandidateSpec} (h : checkCandidateRun cfg host req = .ok spec) :
    CandidateListed cfg spec := by
  obtain ⟨-, -, h⟩ := bind_eq_ok h
  obtain ⟨payload, -, h⟩ := bind_eq_ok h
  obtain ⟨name, -, h⟩ := bind_eq_ok h
  obtain ⟨image, -, h⟩ := bind_eq_ok h
  obtain ⟨network, -, h⟩ := bind_eq_ok h
  obtain ⟨hostPort, -, h⟩ := bind_eq_ok h
  obtain ⟨containerPort, -, h⟩ := bind_eq_ok h
  obtain ⟨name', hname, h⟩ := bind_eq_ok h
  obtain ⟨image', himage, h⟩ := bind_eq_ok h
  obtain ⟨network', hnetwork, h⟩ := bind_eq_ok h
  obtain ⟨hostPort', hhostPort, h⟩ := bind_eq_ok h
  obtain ⟨containerPort', hcontainerPort, h⟩ := bind_eq_ok h
  cases h
  exact
    { name := (orRefuse_eq_ok hname).2
      image := (orRefuse_eq_ok himage).2
      network := by simpa using (orRefuse_eq_ok hnetwork).2
      hostPort := by simpa using (orRefuse_eq_ok hhostPort).2
      containerPort := by simpa using (orRefuse_eq_ok hcontainerPort).2 }

theorem checkCandidateRemove_eq_ok {cfg : ProxyConfig} {rawName name : JsString}
    {req : HttpRequest} (h : checkCandidateRemove cfg rawName req = .ok name) :
    cleanContainerRef rawName = some name ∧
      allowedPrefix cfg.candidateNamePrefixes name = true := by
  obtain ⟨-, -, h⟩ := bind_eq_ok h
  exact orRefuse_eq_ok h

theorem checkExec_eq_ok {cfg : ProxyConfig} {host : ProxyHost} {req : HttpRequest}
    {spec : ExecSpec} (h : checkExec cfg host req = .ok spec) :
    ∃ program ∈ cfg.execPrograms, spec.cmd.head? = some program := by
  obtain ⟨payload, -, h⟩ := bind_eq_ok h
  obtain ⟨raw, -, h⟩ := bind_eq_ok h
  obtain ⟨argv, -, h⟩ := bind_eq_ok h
  cases hprogram : cleanProgram raw with
  | none => simp [hprogram, refuse] at h
  | some program =>
      cases argv with
      | none => simp [hprogram, refuse] at h
      | some argv =>
          simp only [hprogram] at h
          split_ifs at h with hlisted
          · cases h
            exact ⟨program, by simpa using hlisted, rfl⟩
          · cases h

/-! ## The routes -/

section Routes

variable {cfg : ProxyConfig} {host : ProxyHost} {req : HttpRequest} {path : JsString}

theorem obeys_loadImage :
    Obeys (Licensed cfg host path) (loadImage cfg host req) [] ↔
      ∀ filePath, checkImageLoad cfg host req = .ok filePath → host.isFile filePath = true →
        js "load_image" ∈ cfg.allowedActions := by
  rw [loadImage, obeys_run]
  refine forall₂_congr fun filePath hcheck => ?_
  by_cases hfile : host.isFile filePath = true
  · rw [if_neg (by simpa using hfile), obeys_dockerRequest]
    refine ⟨fun h _ => h.1.action, fun h => ⟨checkImageLoad_eq_ok hcheck (h hfile), ?_⟩⟩
    intro response
    split <;> trivial
  · simp [hfile]

theorem obeys_runCandidate :
    Obeys (Licensed cfg host path) (runCandidate cfg host req) [] ↔
      ∀ spec, checkCandidateRun cfg host req = .ok spec →
        js "candidate_run" ∈ cfg.allowedActions := by
  rw [runCandidate, obeys_run]
  refine forall₂_congr fun spec hcheck => ?_
  rw [obeys_dockerRequest]
  refine ⟨fun h => h.1.1, fun haction => ?_⟩
  have hspec : CandidateLicensed cfg spec := ⟨haction, checkCandidateRun_eq_ok hcheck⟩
  refine ⟨hspec, fun created => ?_⟩
  split_ifs
  · trivial
  · trivial
  · refine obeys_dockerRequest.mpr ⟨⟨spec, created, by simp, rfl, hspec⟩, fun started => ?_⟩
    split_ifs with hstarted
    · exact ⟨⟨started, by simp, hstarted⟩, fun _ => trivial⟩
    · trivial

theorem obeys_removeCandidate {rawName : JsString} :
    Obeys (Licensed cfg host path) (removeCandidate cfg rawName req) [] ↔
      ∀ name, checkCandidateRemove cfg rawName req = .ok name →
        js "candidate_remove" ∈ cfg.allowedActions := by
  rw [removeCandidate, obeys_run]
  refine forall₂_congr fun name hcheck => ?_
  rw [obeys_dockerRequest]
  refine ⟨fun h => h.1.1, fun h => ⟨⟨h, (checkCandidateRemove_eq_ok hcheck).2⟩, ?_⟩⟩
  intro response
  split_ifs <;> trivial

theorem obeys_runExec {failed : JsString → HttpReply} {ref : JsString} {spec : ExecSpec}
    {past : Exchanges} (h : ∀ past', past <+: past' → ExecLicensed cfg host path past' ref spec) :
    Obeys (Licensed cfg host path) (runExec failed host ref spec) past := by
  refine obeys_dockerOr.mpr ⟨h past List.prefix_rfl, fun created => ?_⟩
  split_ifs
  · trivial
  · trivial
  · refine obeys_dockerOr.mpr ⟨⟨ref, spec, created, by simp, rfl, h _ (by simp)⟩, fun started => ?_⟩
    split_ifs
    · trivial
    · exact obeys_dockerOr.mpr ⟨trivial, fun _ => trivial⟩

theorem Accepted.mono {scope : List JsString} {ref : JsString} {past past' : Exchanges}
    (h : Accepted host scope ref past) (hpast : past <+: past') :
    Accepted host scope ref past' :=
  h.imp_right fun ⟨hhex, response, hmem, hshows⟩ =>
    ⟨hhex, response, hpast.subset hmem, hshows⟩

theorem obeys_execInContainer {rawRef : JsString} :
    Obeys (Licensed cfg host path) (execInContainer cfg host rawRef req) [] := by
  refine obeys_run.mpr fun _ _ => obeys_resolve trivial (fun _ => trivial) ?_
  intro past ref haccepted
  refine obeys_run.mpr fun ref' href => obeys_run.mpr fun spec hspec => obeys_runExec ?_
  obtain ⟨hsome, hallowed⟩ := orRefuse_eq_ok href
  obtain rfl := Option.some.inj hsome
  intro past' hpast
  exact .inl ⟨by simpa using hallowed, haccepted.mono hpast, checkExec_eq_ok hspec⟩

theorem obeys_lifecycleAction {rawRef action : JsString} :
    Obeys (Licensed cfg host path) (lifecycleAction cfg host rawRef action req) [] := by
  refine obeys_run.mpr fun _ _ => ?_
  split_ifs with haction
  · trivial
  · refine obeys_resolve trivial (fun _ => trivial) fun past ref haccepted => ?_
    refine obeys_run.mpr fun ref' href => obeys_dockerRequest.mpr ⟨?_, fun u => ?_⟩
    · obtain rfl := Option.some.inj (orRefuse_eq_ok href).1
      exact ⟨by simpa using haction, haccepted⟩
    · split_ifs <;> trivial

theorem obeys_postgres {routes : SemanticRoutes} (hpath : path = postgresPath) :
    Obeys (Licensed cfg host path) (handlePostgresPinnedReadback cfg host routes req) [] := by
  refine obeys_run.mpr fun _ _ => ?_
  cases hcontainer : cfg.postgresContainer with
  | none => trivial
  | some container =>
      refine obeys_run.mpr fun payload _ => ?_
      cases routes.postgresExec payload with
      | error message => trivial
      | ok spec => exact obeys_runExec fun _ _ => .inr (.inl ⟨hpath, hcontainer⟩)

theorem obeys_paperclip {routes : SemanticRoutes} {op : JsString}
    (hop : op ∈ paperclipOperations) (hpath : path = paperclipPath op) :
    Obeys (Licensed cfg host path) (handlePaperclipSemantic cfg host routes op req) [] := by
  refine obeys_run.mpr fun _ _ => ?_
  split_ifs with hlists
  · trivial
  · simp only [Bool.or_eq_true, Bool.not_eq_true', not_or, Bool.not_eq_false,
      List.contains_iff_mem] at hlists
    refine obeys_run.mpr fun payload _ => obeys_run.mpr fun spec _ => obeys_runExec fun _ _ => ?_
    exact .inr (.inr ⟨⟨op, hop, hpath⟩, rfl, hlists⟩)

theorem obeys_handleRead {url : RequestUrl} :
    Obeys (Licensed cfg host path) (handleRead cfg host url path) [] := by
  unfold handleRead
  split_ifs
  · trivial
  · unfold plainRead
    split_ifs
    · trivial
    · exact obeys_lastCall.mpr trivial
  · unfold plainRead
    split_ifs
    · trivial
    · exact obeys_lastCall.mpr trivial
  · unfold listContainers
    split_ifs
    · trivial
    · refine obeys_dockerRequest.mpr ⟨trivial, fun u => ?_⟩
      split_ifs
      · trivial
      · cases bodyJson host u.body with
        | none => trivial
        | some listed => cases listed <;> first | trivial | exact obeys_run.mpr fun _ _ => trivial
  · cases matchRoute ["containers"] ["json", "logs"] path with
    | none => trivial
    | some hit =>
        refine obeys_resolve trivial (fun _ => trivial) fun past ref _ => ?_
        refine obeys_run.mpr fun ref' _ => obeys_run.mpr fun call hcall => obeys_lastCall.mpr ?_
        unfold readCall refuse at hcall
        split_ifs at hcall <;> cases hcall <;> trivial

end Routes

/-! ## Exactly when the proxy keeps to the action list -/

/-- The action of a request that passes the checks of a route which does not look
at the action list. -/
def ungatedAction (cfg : ProxyConfig) (host : ProxyHost) (req : HttpRequest) : Option JsString :=
  if requestPath req = js "/ops/images/load" then
    match checkImageLoad cfg host req with
    | .ok filePath => if host.isFile filePath then some (js "load_image") else none
    | .error _ => none
  else if requestPath req = js "/ops/candidates/run" then
    match checkCandidateRun cfg host req with
    | .ok _ => some (js "candidate_run")
    | .error _ => none
  else
    match matchRoute ["ops", "candidates"] ["remove"] (requestPath req) with
    | some (rawName, _) =>
        match checkCandidateRemove cfg rawName req with
        | .ok _ => some (js "candidate_remove")
        | .error _ => none
    | none => none

theorem semanticPath_spec : ∀ path ∈ postgresPath :: paperclipOperations.map paperclipPath,
    path ≠ js "/ops/images/load" ∧ path ≠ js "/ops/candidates/run" ∧
      matchRoute ["ops", "candidates"] ["remove"] path = none := by
  decide

theorem ungatedAction_of_semanticPath {cfg : ProxyConfig} {host : ProxyHost} {req : HttpRequest}
    (h : requestPath req ∈ postgresPath :: paperclipOperations.map paperclipPath) :
    ungatedAction cfg host req = none := by
  obtain ⟨hload, hrun, hremove⟩ := semanticPath_spec _ h
  simp only [ungatedAction, if_neg hload, if_neg hrun, hremove]

/-- The operator routes, told apart as `handleOperator` and `ungatedAction` do. -/
theorem obeys_handleOperator {cfg : ProxyConfig} {host : ProxyHost} {req : HttpRequest}
    {program : Proxy HttpReply}
    (h : handleOperator cfg host req (requestPath req) = some program) :
    Obeys (Licensed cfg host (requestPath req)) program [] ↔
      ∀ action, ungatedAction cfg host req = some action → action ∈ cfg.allowedActions := by
  unfold handleOperator at h
  unfold ungatedAction
  split_ifs at h ⊢ with hload hrun
  · cases h
    rw [obeys_loadImage]
    cases checkImageLoad cfg host req with
    | error reply => simp
    | ok filePath => simp
  · cases h
    rw [obeys_runCandidate]
    cases checkCandidateRun cfg host req with
    | error reply => simp
    | ok spec => simp
  · cases hremove : matchRoute ["ops", "candidates"] ["remove"] (requestPath req) with
    | some hit =>
        simp only [hremove] at h
        cases h
        rw [obeys_removeCandidate]
        dsimp only
        cases checkCandidateRemove cfg hit.1 req with
        | error reply => simp
        | ok name => simp
    | none =>
        simp only [hremove] at h
        refine iff_of_true ?_ (by simp)
        cases hexec : matchRoute ["ops", "containers"] ["exec"] (requestPath req) with
        | some hit =>
            simp only [hexec] at h
            cases h
            exact obeys_execInContainer
        | none =>
            simp only [hexec] at h
            split at h
            · cases h
              exact obeys_lifecycleAction
            · cases h

theorem ungatedAction_of_handleOperator_eq_none {cfg : ProxyConfig} {host : ProxyHost}
    {req : HttpRequest} (h : handleOperator cfg host req (requestPath req) = none) :
    ungatedAction cfg host req = none := by
  unfold handleOperator at h
  split_ifs at h with hload hrun
  cases hremove : matchRoute ["ops", "candidates"] ["remove"] (requestPath req) with
  | some hit => simp [hremove] at h
  | none => simp only [ungatedAction, if_neg hload, if_neg hrun, hremove]

theorem obeys_handle {cfg : ProxyConfig} {host : ProxyHost} {routes : SemanticRoutes}
    {req : HttpRequest} :
    Obeys (Licensed cfg host (requestPath req)) (handle cfg host routes req) [] ↔
      ∀ action, ungatedAction cfg host req = some action → action ∈ cfg.allowedActions := by
  cases hurl : req.url with
  | none =>
      have hpath : requestPath req = [] := by rw [requestPath, hurl]
      have hremove : matchRoute ["ops", "candidates"] ["remove"] [] = none := by decide
      refine iff_of_true ?_ ?_
      · rw [handle, hurl]
        trivial
      · rw [ungatedAction, hpath, if_neg (by decide), if_neg (by decide), hremove]
        simp
  | some url =>
      simp only [handle, hurl]
      by_cases hpostgres : requestPath req = postgresPath
      · rw [if_pos hpostgres]
        have hnone : ungatedAction cfg host req = none :=
          ungatedAction_of_semanticPath (List.mem_cons.mpr (.inl hpostgres))
        exact iff_of_true (obeys_postgres hpostgres) (by simp [hnone])
      · rw [if_neg hpostgres]
        cases hfind : paperclipOperations.find? fun op => requestPath req = paperclipPath op with
        | some op =>
            have hmem := List.mem_of_find?_eq_some hfind
            have hpath : requestPath req = paperclipPath op := by
              simpa using List.find?_some hfind
            have hsemantic : requestPath req ∈ paperclipOperations.map paperclipPath :=
              List.mem_map.mpr ⟨op, hmem, hpath.symm⟩
            have hnone : ungatedAction cfg host req = none :=
              ungatedAction_of_semanticPath (List.mem_cons_of_mem _ hsemantic)
            exact iff_of_true (obeys_paperclip hmem hpath) (by simp [hnone])
        | none =>
            dsimp only
            cases hoperator : handleOperator cfg host req (requestPath req) with
            | some program => exact obeys_handleOperator hoperator
            | none =>
                have hnone := ungatedAction_of_handleOperator_eq_none hoperator
                refine iff_of_true ?_ (by simp [hnone])
                dsimp only
                split_ifs
                · trivial
                · exact obeys_handleRead

/-- A licence for one of the six actions needs a list that is not empty. -/
theorem isAction_of_licensed {cfg : ProxyConfig} {host : ProxyHost} {path : JsString}
    {past : Exchanges} {call : DockerCall} (h : Licensed cfg host path past call)
    (hempty : cfg.allowedActions = []) : call.isAction = false := by
  cases call with
  | lifecycle ref action => exact absurd h.1 (by simp [hempty])
  | loadImage filePath => exact absurd h.action (by simp [hempty])
  | create spec => exact absurd h.1 (by simp [hempty])
  | startCandidate id =>
      obtain ⟨spec, response, -, -, hspec⟩ := h
      exact absurd hspec.1 (by simp [hempty])
  | removeCandidate name => exact absurd h.1 (by simp [hempty])
  | _ => rfl

/-- The proxy keeps to the host's lists exactly when the request does not pass the
checks of an image load, a candidate run or a candidate removal that the action
list leaves out. -/
theorem proxyLicensing_iff (cfg : ProxyConfig) (host : ProxyHost) (routes : SemanticRoutes)
    (req : HttpRequest) :
    ProxyLicensing cfg host routes req ↔
      ∀ action, ungatedAction cfg host req = some action → action ∈ cfg.allowedActions := by
  have hobeys : Obeys (Licensed cfg host (requestPath req)) (handle cfg host routes req) [] ↔ _ :=
    obeys_handle
  rw [← hobeys, Obeys, Program.wp_iff_asks]
  refine ⟨fun h => h.licensed, fun h => ⟨h, fun hempty past call hasks => ?_⟩⟩
  exact isAction_of_licensed (h past call hasks) hempty

/-- With an empty action list a candidate is removed all the same. -/
theorem sampleRemove_not_licensed :
    ¬ ProxyLicensing (sampleProxy [] (by simp)) sampleHost sampleRoutes
        (sampleRequest "POST" "/ops/candidates/web-1/remove") := by
  intro h
  have hasks : (handle (sampleProxy [] (by simp)) sampleHost sampleRoutes
      (sampleRequest "POST" "/ops/candidates/web-1/remove")).Asks []
        (.removeCandidate (js "web-1")) := by decide +kernel
  exact absurd (h.empty_denies rfl [] _ hasks) (by simp [DockerCall.isAction])

end RemoteOps

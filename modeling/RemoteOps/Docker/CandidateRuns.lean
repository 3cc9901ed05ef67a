import RemoteOps.Docker.Licensing

/-!
# What a failed candidate run leaves behind

A candidate is created, started by the id that the daemon reported, and removed when
the daemon refuses to start it. The daemon is arbitrary: it answers as it likes, may
make a container whatever it answers, and decides by which references it finds one.
A container stays behind when the answer to its creation is lost or names no id, and
when the answer to its start is lost (`candidateLeavesNothing_iff`).
-/

namespace RemoteOps

open Ecma Transition

structure Daemon where
  /-- the answer to a request after the exchanges so far -/
  answer : Exchanges → DockerCall → DockerAnswer
  /-- the id of the container that a creation makes, if it makes one -/
  makes : CandidateSpec → Option JsString
  /-- the references by which the container with an id is found -/
  finds : JsString → JsString → Prop

/-- The exchanges of a request and its reply. -/
def Daemon.serve (daemon : Daemon) (program : Proxy HttpReply) : Exchanges × HttpReply :=
  program.against daemon.answer []

def HttpReply.isStarted : HttpReply → Bool
  | started _ _ => true
  | _ => false

/-- A forced removal of the container was sent to the daemon. -/
def RemovalAttempted (daemon : Daemon) (id : JsString) (exchanges : Exchanges) : Prop :=
  ∃ ref answer, (DockerCall.cleanup ref, answer) ∈ exchanges ∧ daemon.finds ref id

/-- A container that the request made was started, as the reply says, or its removal was
attempted. -/
def LeavesNothing (daemon : Daemon) (program : Proxy HttpReply) : Prop :=
  ∀ spec answer id, (DockerCall.create spec, answer) ∈ (daemon.serve program).1 →
    daemon.makes spec = some id →
      (daemon.serve program).2.isStarted = true ∨
        RemovalAttempted daemon id (daemon.serve program).1

/-- The creation is answered with an id. -/
def ReportsId (host : ProxyHost) (daemon : Daemon) (spec : CandidateSpec)
    (created : DockerResponse) : Prop :=
  daemon.answer [] (.create spec) = .ok created ∧ created.status = 201 ∧
    isHexId (reportedId host created.body) = true

/-- Creation and start are both answered, the first with an id; when the start is refused,
that id finds the container. -/
def AnswersToTheEnd (host : ProxyHost) (daemon : Daemon) (spec : CandidateSpec) (id : JsString) :
    Prop :=
  ∃ created, ReportsId host daemon spec created ∧
    ∃ started : DockerResponse,
      daemon.answer [(.create spec, .ok created)]
          (.startCandidate (reportedId host created.body)) = .ok started ∧
        (started.status ≠ 204 → daemon.finds (reportedId host created.body) id)

/-! ## The run -/

section Runs

variable {cfg : ProxyConfig} {host : ProxyHost} {req : HttpRequest} {daemon : Daemon}
  {spec : CandidateSpec}

theorem serve_dockerRequest {call : DockerCall} {k : DockerResponse → Proxy HttpReply}
    {past : Exchanges} :
    (dockerRequest call k).against daemon.answer past =
      match daemon.answer past call with
      | .error message => (past ++ [(call, .error message)], upstreamError)
      | .ok response => (k response).against daemon.answer (past ++ [(call, .ok response)]) := by
  rw [dockerRequest, dockerOr, Program.against_ask]
  cases daemon.answer past call with
  | error message => rfl
  | ok response => rfl

/-- What is asked after the creation was answered. -/
def afterCreate (host : ProxyHost) (spec : CandidateSpec) (created : DockerResponse) :
    Proxy HttpReply :=
  if created.status ≠ 201 then .done (.forward created.status created.body)
  else if !isHexId (reportedId host created.body) then
    .done (.error 502 (js "invalid_container_id"))
  else
    dockerRequest (.startCandidate (reportedId host created.body)) fun started =>
      if started.status ≠ 204 then
        .ask (.cleanup (reportedId host created.body)) fun _ =>
          .done (.forward started.status started.body)
      else .done (.started (reportedId host created.body) spec)

theorem runCandidate_of_checked (h : checkCandidateRun cfg host req = .ok spec) :
    runCandidate cfg host req = dockerRequest (.create spec) (afterCreate host spec) := by
  rw [runCandidate, h]
  rfl

theorem runCandidate_of_refused {reply : HttpReply}
    (h : checkCandidateRun cfg host req = .error reply) :
    runCandidate cfg host req = .done reply := by
  rw [runCandidate, h]
  rfl

/-- A run that creates one candidate is about the container of that creation. -/
theorem leavesNothing_iff_of_serve {program : Proxy HttpReply} {answer : DockerAnswer}
    {rest : Exchanges} {reply : HttpReply}
    (hserve : daemon.serve program = ((.create spec, answer) :: rest, reply))
    (hrest : ∀ x ∈ rest, ∀ spec', x.1 ≠ .create spec') :
    LeavesNothing daemon program ↔
      ∀ id, daemon.makes spec = some id →
        reply.isStarted = true ∨ RemovalAttempted daemon id rest := by
  have hremoval : ∀ id, RemovalAttempted daemon id ((.create spec, answer) :: rest) ↔
      RemovalAttempted daemon id rest := by
    intro id
    simp [RemovalAttempted]
  rw [LeavesNothing, hserve]
  simp only [hremoval]
  constructor
  · intro h id hid
    exact h spec answer id List.mem_cons_self hid
  · intro h spec' answer' id hmem hid
    obtain heq | hmem := List.mem_cons.mp hmem
    · obtain ⟨hspec, -⟩ := Prod.mk.inj heq
      obtain rfl := DockerCall.create.inj hspec
      exact h id hid
    · exact absurd rfl (hrest _ hmem spec')

/-- The creation was answered, but with no id: the run ends at once. -/
theorem against_afterCreate_of_no_id {created : DockerResponse} {past : Exchanges}
    (h : ¬(created.status = 201 ∧ isHexId (reportedId host created.body) = true)) :
    ∃ reply, (afterCreate host spec created).against daemon.answer past = (past, reply) ∧
      reply.isStarted = false := by
  unfold afterCreate
  split_ifs with hstatus hid
  · exact ⟨_, rfl, rfl⟩
  · exact ⟨_, rfl, rfl⟩
  · exact absurd ⟨of_not_not hstatus, by simpa using hid⟩ h

theorem against_afterCreate {created : DockerResponse} {past : Exchanges}
    (hstatus : created.status = 201) (hid : isHexId (reportedId host created.body) = true) :
    (afterCreate host spec created).against daemon.answer past =
      match daemon.answer past (.startCandidate (reportedId host created.body)) with
      | .error message =>
          (past ++ [(.startCandidate (reportedId host created.body), .error message)],
            upstreamError)
      | .ok started =>
          if started.status = 204 then
            (past ++ [(.startCandidate (reportedId host created.body), .ok started)],
              .started (reportedId host created.body) spec)
          else
            (past ++ [(.startCandidate (reportedId host created.body), .ok started)] ++
              [(.cleanup (reportedId host created.body),
                daemon.answer
                  (past ++ [(.startCandidate (reportedId host created.body), .ok started)])
                  (.cleanup (reportedId host created.body)))],
              .forward started.status started.body) := by
  rw [afterCreate, if_neg (not_not.mpr hstatus), if_neg (by simp [hid]), serve_dockerRequest]
  cases daemon.answer past (.startCandidate (reportedId host created.body)) with
  | error message => rfl
  | ok started =>
      by_cases hstarted : started.status = 204
      · simp only [hstarted, ne_eq, not_true_eq_false, if_false, if_true]
        rfl
      · simp only [hstarted, ne_eq, not_false_eq_true, if_false, if_true]
        rfl

theorem answersToTheEnd_iff {created : DockerResponse} {id : JsString}
    (hreports : ReportsId host daemon spec created) :
    AnswersToTheEnd host daemon spec id ↔
      ∃ started : DockerResponse,
        daemon.answer [(.create spec, .ok created)]
            (.startCandidate (reportedId host created.body)) = .ok started ∧
          (started.status ≠ 204 → daemon.finds (reportedId host created.body) id) := by
  constructor
  · rintro ⟨created', ⟨hcreated', -⟩, h⟩
    obtain rfl := Except.ok.inj (hreports.1.symm.trans hcreated')
    exact h
  · exact fun h => ⟨created, hreports, h⟩

/-- Once the id is known, the container stays if the answer to its start is lost, or if the
start is refused and the id is that of another container. -/
theorem leavesNothing_of_reportsId {program : Proxy HttpReply} {created : DockerResponse}
    (hreports : ReportsId host daemon spec created)
    (hserve : daemon.serve program =
      (afterCreate host spec created).against daemon.answer [(.create spec, .ok created)]) :
    LeavesNothing daemon program ↔
      ∀ id, daemon.makes spec = some id → AnswersToTheEnd host daemon spec id := by
  rw [against_afterCreate hreports.2.1 hreports.2.2] at hserve
  cases hstart : daemon.answer [(.create spec, .ok created)]
      (.startCandidate (reportedId host created.body)) with
  | error message =>
      rw [hstart] at hserve
      rw [leavesNothing_iff_of_serve hserve (by simp)]
      refine forall₂_congr fun id _ => ?_
      rw [answersToTheEnd_iff hreports, hstart]
      simp [HttpReply.isStarted, upstreamError, RemovalAttempted]
  | ok started =>
      rw [hstart] at hserve
      dsimp only at hserve
      by_cases hstarted : started.status = 204
      · rw [if_pos hstarted] at hserve
        rw [leavesNothing_iff_of_serve hserve (by simp)]
        refine forall₂_congr fun id _ => ?_
        rw [answersToTheEnd_iff hreports, hstart]
        simp [HttpReply.isStarted, hstarted]
      · rw [if_neg hstarted] at hserve
        rw [leavesNothing_iff_of_serve hserve (by simp)]
        refine forall₂_congr fun id _ => ?_
        rw [answersToTheEnd_iff hreports, hstart]
        simp [HttpReply.isStarted, RemovalAttempted, hstarted]

/-- Without the answers to creation and start the container stays. -/
theorem leavesNothing_runCandidate_iff (hcheck : checkCandidateRun cfg host req = .ok spec) :
    LeavesNothing daemon (runCandidate cfg host req) ↔
      ∀ id, daemon.makes spec = some id → AnswersToTheEnd host daemon spec id := by
  have hserve : daemon.serve (runCandidate cfg host req) =
      (dockerRequest (.create spec) (afterCreate host spec)).against daemon.answer [] := by
    rw [Daemon.serve, runCandidate_of_checked hcheck]
  rw [serve_dockerRequest] at hserve
  cases hcreated : daemon.answer [] (.create spec) with
  | error message =>
      rw [hcreated] at hserve
      rw [leavesNothing_iff_of_serve hserve (by simp)]
      refine forall₂_congr fun id _ => ?_
      simp [HttpReply.isStarted, upstreamError, RemovalAttempted, AnswersToTheEnd, ReportsId,
        hcreated]
  | ok created =>
      rw [hcreated] at hserve
      dsimp only at hserve
      by_cases hid : created.status = 201 ∧ isHexId (reportedId host created.body) = true
      · exact leavesNothing_of_reportsId ⟨hcreated, hid⟩ hserve
      · have hnone : ∃ reply, (afterCreate host spec created).against daemon.answer
            ([] ++ [(.create spec, .ok created)]) = ([] ++ [(.create spec, .ok created)], reply) ∧
            reply.isStarted = false := against_afterCreate_of_no_id hid
        obtain ⟨reply, hagainst, hreply⟩ := hnone
        rw [hagainst] at hserve
        rw [leavesNothing_iff_of_serve hserve (by simp)]
        refine forall₂_congr fun id _ => iff_of_false ?_ ?_
        · simp [hreply, RemovalAttempted]
        · rintro ⟨created', ⟨hcreated', hid'⟩, -⟩
          obtain rfl := Except.ok.inj (hcreated.symm.trans hcreated')
          exact hid hid'

theorem handle_candidateRun {routes : SemanticRoutes}
    (hpath : requestPath req = js "/ops/candidates/run") :
    handle cfg host routes req = runCandidate cfg host req := by
  have hsemantic : js "/ops/candidates/run" ≠ postgresPath := by decide
  have hpaperclip : (paperclipOperations.find? fun op =>
      js "/ops/candidates/run" = paperclipPath op) = none := by decide
  have hload : js "/ops/candidates/run" ≠ js "/ops/images/load" := by decide
  cases hurl : req.url with
  | none =>
      have hnil : requestPath req = [] := by rw [requestPath, hurl]
      exact absurd (hpath.symm.trans hnil) (by decide)
  | some url =>
      rw [handle, hurl]
      simp only [hpath, if_neg hsemantic, hpaperclip, handleOperator, if_neg hload, if_true]

end Runs

/-- A request to run a candidate leaves no container behind exactly if the daemon answers its
creation with an id and its start at all, and finds the container by that id when it refuses to
start it. -/
theorem candidateLeavesNothing_iff (cfg : ProxyConfig) (host : ProxyHost)
    (routes : SemanticRoutes) (req : HttpRequest) (daemon : Daemon)
    (hpath : requestPath req = js "/ops/candidates/run") :
    LeavesNothing daemon (handle cfg host routes req) ↔
      ∀ spec id, checkCandidateRun cfg host req = .ok spec → daemon.makes spec = some id →
        AnswersToTheEnd host daemon spec id := by
  rw [handle_candidateRun hpath]
  cases hcheck : checkCandidateRun cfg host req with
  | error reply =>
      refine iff_of_true ?_ (by simp)
      rw [LeavesNothing, Daemon.serve, runCandidate_of_refused hcheck]
      simp
  | ok spec =>
      rw [leavesNothing_runCandidate_iff hcheck]
      constructor
      · intro h spec' id hspec hid
        obtain rfl := Except.ok.inj hspec
        exact h id hid
      · exact fun h id => h spec id rfl

/-! ## A candidate whose start is not answered -/

def candidateProxy : ProxyConfig where
  allowed := [js "web"]
  execContainers := []
  execPrograms := []
  allowedActions := [js "candidate_run"]
  imageLoadRoots := []
  candidateImagePrefixes := [js "web:"]
  candidateNetworks := [js "core"]
  candidateNamePrefixes := [js "web-"]
  candidateHostPorts := [18080]
  candidateContainerPorts := [8080]
  postgresContainer := none
  paperclipContainer := js "wandora-paperclip"
  allowed_ne_nil := by simp
  actions_known := by simp [knownDockerActions]
  ports_range := by simp
  postgres_allowed := by simp

def candidateSpec : CandidateSpec := ⟨js "web-1", js "web:1", js "core", 18080, 8080⟩

def candidateRequest : HttpRequest where
  method := js "POST"
  url := some ⟨js "/ops/candidates/run", [], []⟩
  body := some (textBytes (Json.obj
    [(js "name", .str (js "web-1")), (js "image", .str (js "web:1")),
      (js "network", .str (js "core")), (js "hostPort", .num (number 18080)),
      (js "containerPort", .num (number 8080))]).stringify)

def candidateId : JsString := js "4f1c0d2e9ab3"

/-- The daemon makes the container and answers as given when it is to be started. -/
def candidateDaemon (start : DockerAnswer) : Daemon where
  answer _ call :=
    match call with
    | .create _ => .ok ⟨201, textBytes (Json.obj [(js "Id", .str candidateId)]).stringify⟩
    | .startCandidate _ => start
    | _ => .ok ⟨204, ByteArray.empty⟩
  makes _ := some candidateId
  finds ref id := startsWith id ref = true

theorem refusedStart_leavesNothing :
    requestPath candidateRequest = js "/ops/candidates/run" ∧
      (LeavesNothing (candidateDaemon (.ok ⟨500, ByteArray.empty⟩))
          (handle candidateProxy sampleHost sampleRoutes candidateRequest) ↔
        ∀ spec id, checkCandidateRun candidateProxy sampleHost candidateRequest = .ok spec →
          (candidateDaemon (.ok ⟨500, ByteArray.empty⟩)).makes spec = some id →
            AnswersToTheEnd sampleHost (candidateDaemon (.ok ⟨500, ByteArray.empty⟩)) spec id) :=
  ⟨by decide, candidateLeavesNothing_iff _ _ _ _ _ (by decide)⟩

/-- When the connection breaks as the container is started, nothing removes it. -/
theorem lostStart_leavesContainer :
    ¬LeavesNothing (candidateDaemon (.error (js "socket hang up")))
        (handle candidateProxy sampleHost sampleRoutes candidateRequest) := by
  intro h
  have hcalls : ((candidateDaemon (.error (js "socket hang up"))).serve
      (handle candidateProxy sampleHost sampleRoutes candidateRequest)).1.map Prod.fst =
        [.create candidateSpec, .startCandidate candidateId] := by decide +kernel
  have hreply : ((candidateDaemon (.error (js "socket hang up"))).serve
      (handle candidateProxy sampleHost sampleRoutes candidateRequest)).2.isStarted = false := by
    decide +kernel
  obtain ⟨⟨call, answer⟩, hmem, rfl⟩ :=
    List.mem_map.mp (hcalls ▸ List.mem_cons_self : DockerCall.create candidateSpec ∈ _)
  obtain hstarted | ⟨ref, reply, hcleanup, -⟩ := h candidateSpec answer candidateId hmem rfl
  · exact absurd hstarted (by simp [hreply])
  · have hlisted := List.mem_map_of_mem (f := Prod.fst) hcleanup
    rw [hcalls] at hlisted
    simp at hlisted

end RemoteOps

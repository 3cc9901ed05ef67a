import RemoteOps.DeepHarness.AgentMesh
import RemoteOps.Transition.Program

/-!
# The Unix relay

The relay takes HTTP requests from a local socket, checks framing and operation, asks the
private bridge at most once, filters what it answers and writes either a result or one
fixed refusal. A handler is a program whose requests are the payloads of the bridge; an
answer that is `none` is a call that failed. Writing to the response may throw too.
-/

namespace RemoteOps

open Ecma Transition

/-! ## Framing -/

/-- A request as the handler finds it. -/
structure RelayRequest where
  method : JsString
  url : JsString
  contentEncoding : Option JsString
  transferEncoding : Option JsString
  contentType : Option JsString
  contentLength : Option JsString
  chunks : List ByteArray
  /-- whether the stream ends, and does not break off -/
  ended : Bool

def dshBridgePath : JsString := js "/wandora/dsh-bridge/v1"

/-- `/^application\/json(?:\s*;\s*charset=utf-8)?$/i`. -/
def isJsonContentType (s : JsString) : Bool :=
  let s := asciiLower s
  let rest := s.drop (js "application/json").length
  startsWith s (js "application/json") &&
    (rest.isEmpty ||
      match rest.dropWhile isWhite with
      | [] => false
      | u :: rest => u = unit ';' && rest.dropWhile isWhite = js "charset=utf-8")

/-- `/^[1-9][0-9]*$/`. -/
def isPositiveNumeral : JsString → Bool
  | [] => false
  | u :: s => unit '1' ≤ u && u ≤ unit '9' && s.all isDigit

/-- The declared length, when it is a safe integer within the limit. -/
def declaredLength : Option JsString → Option ℕ
  | some s =>
      if isPositiveNumeral s then
        match (numberOfString s).toInt? with
        | some z => if z.natAbs < 2 ^ 53 ∧ z ≤ maxRequest then some z.toNat else none
        | none => none
      else none
  | none => none

/-- The chunks that follow `body`, as long as they stay within the limits. -/
def readChunks (declared : ℕ) : ByteArray → List ByteArray → Option ByteArray
  | body, [] => some body
  | body, chunk :: chunks =>
      if declared < body.size + chunk.size ∨ maxRequest < body.size + chunk.size then none
      else readChunks declared (body ++ chunk) chunks

/-- The validated operation of a request. -/
def RelayRequest.input (p : Platform) (scope : MeshScope) (req : RelayRequest) : Option Props := do
  guard (req.method = js "POST" ∧ req.url = dshBridgePath ∧ req.contentEncoding = none ∧
    req.transferEncoding = none ∧ isJsonContentType (req.contentType.getD []) = true)
  let declared ← declaredLength req.contentLength
  let body ← readChunks declared ByteArray.empty req.chunks
  guard (req.ended = true ∧ body.size = declared)
  let value ← parse (p.fromUtf8 body)
  checkOperation scope value

/-! ## The client of the private bridge -/

abbrev Upstream (α : Type) := Program Json (Option Json) α

/-- `{operation, ...args}`. -/
def bridgePayload (operation : String) (args : Props) : Json :=
  .obj ((js "operation", .str (js operation)) :: args)

/-- A call whose arguments are checked before and whose answer after it. -/
def bridgeCall {α : Type} (operation : String) (args : Option Props) (check : Json → Option α) :
    Upstream (Option α) :=
  match args with
  | none => .done none
  | some args => .ask (bridgePayload operation args) fun answer => .done (answer.bind check)

def workspaceArgs (workspaceId : Option Json) : Option Props := do
  return [(js "workspaceId", .str (← safeMeshId workspaceId))]

def leadArgs (workspaceId : Option Json) (leadSessionId : JsString) : Option Props := do
  return [(js "workspaceId", .str (← safeMeshId workspaceId)),
    (js "leadSessionId", .str (← safeMeshId (some (.str leadSessionId))))]

def arrayOf : Json → Option (List Json)
  | .arr xs => some xs
  | _ => none

def recordOf : Json → Option Props
  | .obj ps => some ps
  | _ => none

def clientListTeams (workspaceId : Option Json) : Upstream (Option (List Json)) :=
  bridgeCall "listTeams" (workspaceArgs workspaceId) arrayOf

def clientGetTeamStatus (workspaceId : Option Json) (leadSessionId : JsString) :
    Upstream (Option Props) :=
  bridgeCall "getTeamStatus" (leadArgs workspaceId leadSessionId) recordOf

def clientListTasks (workspaceId : Option Json) (leadSessionId : JsString) :
    Upstream (Option (List Json)) :=
  bridgeCall "listTasks" (leadArgs workspaceId leadSessionId) arrayOf

/-- The default of 50 messages is above the limit of 20. -/
def clientReadLeadChat (workspaceId : Option Json) (leadSessionId : JsString)
    (maxMessages : Option Json) : Upstream (Option Props) :=
  bridgeCall "readLeadChat"
    (do
      let count ← maxMessages
      guard (isMaxMessages (some count))
      return (← leadArgs workspaceId leadSessionId) ++ [(js "maxMessages", count)])
    recordOf

/-- The acknowledgement has to name the request; only these two members are passed on. -/
def clientSendLeadInstruction (workspaceId : Option Json) (leadSessionId : JsString)
    (requestId text : Option Json) : Upstream (Option Json) :=
  bridgeCall "sendLeadInstruction"
    (do
      let id ← requestId
      let instruction ← text
      guard (isRequestId (some id) && isInstructionText (some instruction))
      return (← leadArgs workspaceId leadSessionId) ++
        [(js "requestId", id), (js "text", instruction)])
    fun result => do
      let id ← strOf requestId
      match result.get (js "accepted") with
      | some (.bool true) =>
          if isString (result.get (js "requestId")) id then
            some (.obj [(js "accepted", .bool true), (js "requestId", .str id)])
          else none
      | _ => none

/-! ## The relay -/

/-- `teams` when every one is a record with an identifier. -/
def scopedTeams (scope : MeshScope) (teams : List Json) : Option Json :=
  if teams.length ≤ 256 ∧
      (teams.all fun team => (safeMeshId (team.get (js "leadSessionId"))).isSome) = true then
    some (.arr (teams.filter fun team =>
      isString (team.get (js "leadSessionId")) scope.leadSessionId))
  else none

def isArray : Option Json → Bool
  | some (.arr _) => true
  | _ => false

def scopedTeam (scope : MeshScope) (team : Props) : Option Json :=
  if isString (lookup (js "leadSessionId") team) scope.leadSessionId &&
      isArray (lookup (js "members") team) && isArray (lookup (js "tasks") team) then
    some (.obj team)
  else none

def boundedTasks (tasks : List Json) : Option Json :=
  if tasks.length ≤ 512 then some (.arr tasks) else none

/-- `messages.length > maxMessages` for the validated Number. -/
def exceeds (count : ℕ) : Option Json → Bool
  | some (.num x) =>
      match x.toInt? with
      | some z => z < count
      | none => false
  | _ => false

def boundedHistory (maxMessages : Option Json) (history : Props) : Option Json :=
  match lookup (js "messages") history, lookup (js "hasMore") history with
  | some (.arr messages), some (.bool _) =>
      if exceeds messages.length maxMessages then none else some (.obj history)
  | _, _ => none

/-- `call(client, input, leadSessionId)`. -/
def callUpstream (scope : MeshScope) (input : Props) : Upstream (Option Json) :=
  let operation := lookup (js "operation") input
  let workspaceId := lookup (js "workspaceId") input
  if isString operation (js "listTeams") then do
    let teams ← clientListTeams workspaceId
    return teams.bind (scopedTeams scope)
  else if isString operation (js "getTeamStatus") then do
    let team ← clientGetTeamStatus workspaceId scope.leadSessionId
    return team.bind (scopedTeam scope)
  else if isString operation (js "listTasks") then do
    let tasks ← clientListTasks workspaceId scope.leadSessionId
    return tasks.bind boundedTasks
  else if isString operation (js "readLeadChat") then do
    let history ← clientReadLeadChat workspaceId scope.leadSessionId
      (lookup (js "maxMessages") input)
    return history.bind (boundedHistory (lookup (js "maxMessages") input))
  else if isString operation (js "sendLeadInstruction") then
    clientSendLeadInstruction workspaceId scope.leadSessionId (lookup (js "requestId") input)
      (lookup (js "text") input)
  else .done none

inductive RelayAnswer where
  | sent (status : ℕ) (headers : List (String × String)) (body : List Char)
  | closed

/-- Which writes to the response throw. -/
structure WireFaults where
  resultHead : Bool
  resultEnd : Bool
  refusal : Bool

def refusedAnswer : RelayAnswer :=
  .sent 403 [("content-type", "application/json"), ("cache-control", "no-store")]
    "\x7b\"error\":\"deepharness_unavailable\"\x7d".toList

def reject (faults : WireFaults) (headersSent : Bool) : RelayAnswer :=
  if headersSent ∨ faults.refusal then .closed else refusedAnswer

def maxResponse : ℕ := 262144

/-- `JSON.stringify({result})`. -/
def resultText (result : Json) : List Char := (Json.obj [(js "result", result)]).stringify

def respond (faults : WireFaults) : Option Json → RelayAnswer
  | none => reject faults false
  | some result =>
      if maxResponse < byteLength (resultText result) ∨ faults.resultHead then reject faults false
      else if faults.resultEnd then reject faults true
      else
        .sent 200 [("content-type", "application/json; charset=utf-8"),
          ("cache-control", "no-store"), ("x-content-type-options", "nosniff")]
          (resultText result)

/-- The handler. Whatever throws before the result is written ends in `reject`. -/
def relay (p : Platform) (scope : MeshScope) (req : RelayRequest) (faults : WireFaults) :
    Upstream RelayAnswer :=
  match req.input p scope with
  | none => .done (reject faults false)
  | some input => do
      let result ← callUpstream scope input
      return respond faults result

/-! ## Confinement -/

/-- The request has passed every check, its body to the last byte. -/
structure PassesChecks (p : Platform) (scope : MeshScope) (req : RelayRequest) (input : Props) :
    Prop where
  method : req.method = js "POST"
  path : req.url = dshBridgePath
  unencoded : req.contentEncoding = none ∧ req.transferEncoding = none
  json : isJsonContentType (req.contentType.getD []) = true
  complete : req.ended = true
  declared : declaredLength req.contentLength =
    some (req.chunks.foldl (· ++ ·) ByteArray.empty).size
  bounded : (req.chunks.foldl (· ++ ·) ByteArray.empty).size ≤ maxRequest
  operation : ∃ value, parse (p.fromUtf8 (req.chunks.foldl (· ++ ·) ByteArray.empty)) = some value ∧
    checkOperation scope value = some input

/-- A payload for the configured scope that has only fields of the operation. -/
def Forwards (scope : MeshScope) (input : Props) (payload : Json) : Prop :=
  ∃ fields, payload = .obj fields ∧ (∀ q ∈ fields, lookup q.1 input = some q.2) ∧
    (js "workspaceId", .str scope.workspaceId) ∈ fields ∧
      (isString (lookup (js "operation") input) (js "listTeams") = true ∨
        (js "leadSessionId", .str scope.leadSessionId) ∈ fields)

/-- What is about teams is about the configured Lead. -/
structure ResultConfined (scope : MeshScope) (input : Props) (result : Json) : Prop where
  teams : isString (lookup (js "operation") input) (js "listTeams") = true →
    ∃ teams, result = .arr teams ∧
      ∀ team ∈ teams, isString (team.get (js "leadSessionId")) scope.leadSessionId = true
  status : isString (lookup (js "operation") input) (js "getTeamStatus") = true →
    isString (result.get (js "leadSessionId")) scope.leadSessionId = true

/-- A history of exchanges with the bridge comes before a request or an end. -/
structure RelayConfined (p : Platform) (scope : MeshScope) (req : RelayRequest)
    (faults : WireFaults) : Prop where
  once : ∀ history payload, (relay p scope req faults).Asks history payload → history = []
  checked : ∀ history payload, (relay p scope req faults).Asks history payload →
    ∃ input, PassesChecks p scope req input ∧ Forwards scope input payload
  granted : ∀ history headers body,
    (relay p scope req faults).Ends history (.sent 200 headers body) →
      ∃ input result, PassesChecks p scope req input ∧ body = resultText result ∧
        ResultConfined scope input result
  refused : ∀ history answer, (relay p scope req faults).Ends history answer →
    (∃ headers body, answer = .sent 200 headers body) ∨ answer = refusedAnswer ∨ answer = .closed

/-! ### Framing -/

theorem readChunks_eq_some {declared : ℕ} {body body' : ByteArray} {chunks : List ByteArray}
    (h : readChunks declared body chunks = some body') : body' = chunks.foldl (· ++ ·) body := by
  induction chunks generalizing body with
  | nil => exact (Option.some.inj h).symm
  | cons chunk chunks ih =>
      rw [readChunks] at h
      split_ifs at h
      exact ih h

theorem declaredLength_le {s : Option JsString} {n : ℕ} (h : declaredLength s = some n) :
    n ≤ maxRequest := by
  unfold declaredLength at h
  split at h
  · split_ifs at h
    split at h
    · next z hz =>
        split_ifs at h with hbound
        obtain rfl := Option.some.inj h
        omega
    · cases h
  · cases h

theorem passesChecks_of_input {p : Platform} {scope : MeshScope} {req : RelayRequest}
    {input : Props} (h : req.input p scope = some input) : PassesChecks p scope req input := by
  simp only [RelayRequest.input, Option.bind_eq_bind, Option.bind_eq_some_iff,
    Option.guard_eq_some'] at h
  obtain ⟨-, ⟨hmethod, hpath, hencoding, htransfer, hjson⟩, declared, hdeclared, body, hbody, -,
    ⟨hended, hsize⟩, value, hparse, hcheck⟩ := h
  obtain rfl := readChunks_eq_some hbody
  subst hsize
  exact ⟨hmethod, hpath, ⟨hencoding, htransfer⟩, hjson, hended, hdeclared,
    declaredLength_le hdeclared, value, hparse, hcheck⟩

/-! ### The operation of a validated request -/

section Operation

variable {scope : MeshScope} {value : Json} {input : Props}

theorem workspace_of_checkOperation (h : checkOperation scope value = some input) :
    lookup (js "workspaceId") input = some (.str scope.workspaceId) := by
  unfold checkOperation at h
  split at h
  · next ps =>
      dsimp only at h
      by_cases hworkspace : isString (lookup (js "workspaceId") ps) scope.workspaceId = true
      · have hinput : ps = input := by
          split_ifs at h <;> exact Option.some.inj h
        rw [← hinput]
        exact isString_iff.mp hworkspace
      · simp [hworkspace] at h
  · cases h

theorem lead_of_checkOperation (h : checkOperation scope value = some input) :
    isString (lookup (js "operation") input) (js "listTeams") = true ∨
      lookup (js "leadSessionId") input = some (.str scope.leadSessionId) := by
  unfold checkOperation at h
  split at h
  · next ps =>
      dsimp only at h
      by_cases hlead : isString (lookup (js "leadSessionId") ps) scope.leadSessionId = true
      · have hinput : ps = input := by
          split_ifs at h <;> exact Option.some.inj h
        rw [← hinput]
        exact .inr (isString_iff.mp hlead)
      · simp only [hlead, Bool.and_false, Bool.false_and, Bool.false_eq_true, if_false] at h
        split_ifs at h with h₁ h₂ h₃
        obtain rfl := Option.some.inj h
        exact .inl h₂
  · cases h

end Operation

/-! ### The one call -/

section Call

variable {scope : MeshScope} {input : Props}

theorem wp_bridgeCall {α : Type} {operation : String} {args : Option Props}
    {check : Json → Option α} {P : List (Json × Option Json) → Json → Prop}
    {Q : List (Json × Option Json) → Option α → Prop}
    (hP : ∀ fields, args = some fields → P [] (bridgePayload operation fields))
    (hQ : ∀ past result, Q past result) : (bridgeCall operation args check).wp P Q [] := by
  cases args with
  | none => exact hQ _ _
  | some fields => exact ⟨hP fields rfl, fun answer => hQ _ _⟩

theorem forwards_bridgePayload {operation : String} {fields : Props}
    (hnamed : isString (lookup (js "operation") input) (js operation) = true)
    (hfields : ∀ q ∈ fields, lookup q.1 input = some q.2)
    (hworkspace : (js "workspaceId", .str scope.workspaceId) ∈ fields)
    (hlead : isString (lookup (js "operation") input) (js "listTeams") = true ∨
      (js "leadSessionId", .str scope.leadSessionId) ∈ fields) :
    Forwards scope input (bridgePayload operation fields) := by
  refine ⟨_, rfl, ?_, List.mem_cons_of_mem _ hworkspace, hlead.imp_right (List.mem_cons_of_mem _)⟩
  intro q hq
  rcases List.mem_cons.mp hq with rfl | hq
  · exact isString_iff.mp hnamed
  · exact hfields q hq

theorem workspaceArgs_eq_some {fields : Props}
    (hworkspace : lookup (js "workspaceId") input = some (.str scope.workspaceId))
    (h : workspaceArgs (lookup (js "workspaceId") input) = some fields) :
    fields = [(js "workspaceId", .str scope.workspaceId)] := by
  simp only [workspaceArgs, Option.bind_eq_bind, Option.bind_eq_some_iff, Option.pure_def,
    Option.some.injEq, hworkspace, safeMeshId_eq_some_iff] at h
  obtain ⟨w, ⟨heq, -⟩, rfl⟩ := h
  rw [Json.str.inj heq]

theorem leadArgs_eq_some {fields : Props}
    (hworkspace : lookup (js "workspaceId") input = some (.str scope.workspaceId))
    (h : leadArgs (lookup (js "workspaceId") input) scope.leadSessionId = some fields) :
    fields = [(js "workspaceId", .str scope.workspaceId),
      (js "leadSessionId", .str scope.leadSessionId)] := by
  simp only [leadArgs, Option.bind_eq_bind, Option.bind_eq_some_iff, Option.pure_def,
    Option.some.injEq, hworkspace, safeMeshId_eq_some_iff] at h
  obtain ⟨w, ⟨heq, -⟩, l, ⟨heq', -⟩, rfl⟩ := h
  rw [Json.str.inj heq, Json.str.inj heq']

/-- The fields of a call about the Lead, with those of its operation. -/
theorem forwards_leadArgs {operation : String} {fields extra : Props}
    (hnamed : isString (lookup (js "operation") input) (js operation) = true)
    (hworkspace : lookup (js "workspaceId") input = some (.str scope.workspaceId))
    (hlead : lookup (js "leadSessionId") input = some (.str scope.leadSessionId))
    (hextra : ∀ q ∈ extra, lookup q.1 input = some q.2)
    (h : leadArgs (lookup (js "workspaceId") input) scope.leadSessionId = some fields) :
    Forwards scope input (bridgePayload operation (fields ++ extra)) := by
  obtain rfl := leadArgs_eq_some hworkspace h
  refine forwards_bridgePayload hnamed ?_ (by simp) (.inr (by simp))
  intro q hq
  rcases List.mem_append.mp hq with hq | hq
  · simp only [List.mem_cons, List.not_mem_nil, or_false] at hq
    rcases hq with rfl | rfl
    · exact hworkspace
    · exact hlead
  · exact hextra q hq

/-- An operation that is neither of the two has no result about teams. -/
theorem resultConfined_of_other {operation : JsString}
    (h : isString (lookup (js "operation") input) operation = true)
    (hteams : operation ≠ js "listTeams") (hstatus : operation ≠ js "getTeamStatus")
    (result : Json) : ResultConfined scope input result := by
  rw [isString_iff] at h
  constructor
  · intro heq
    rw [h, isString_iff] at heq
    exact absurd (Json.str.inj (Option.some.inj heq)) hteams
  · intro heq
    rw [h, isString_iff] at heq
    exact absurd (Json.str.inj (Option.some.inj heq)) hstatus

theorem resultConfined_scopedTeams {teams : List Json} {result : Json}
    (hlist : isString (lookup (js "operation") input) (js "listTeams") = true)
    (h : scopedTeams scope teams = some result) : ResultConfined scope input result := by
  unfold scopedTeams at h
  split_ifs at h
  obtain rfl := Option.some.inj h
  constructor
  · exact fun _ => ⟨_, rfl, fun team hteam => (List.mem_filter.mp hteam).2⟩
  · intro heq
    rw [isString_iff] at hlist
    rw [hlist, isString_iff] at heq
    exact absurd (Json.str.inj (Option.some.inj heq)) (by decide)

theorem resultConfined_scopedTeam {team : Props} {result : Json}
    (hget : isString (lookup (js "operation") input) (js "getTeamStatus") = true)
    (h : scopedTeam scope team = some result) : ResultConfined scope input result := by
  unfold scopedTeam at h
  split_ifs at h with hteam
  obtain rfl := Option.some.inj h
  constructor
  · intro heq
    rw [isString_iff] at hget
    rw [hget, isString_iff] at heq
    exact absurd (Json.str.inj (Option.some.inj heq)) (by decide)
  · rw [Bool.and_eq_true, Bool.and_eq_true] at hteam
    exact fun _ => hteam.1.1

/-- One call at most, for the scope, and a result within it. -/
theorem wp_callUpstream {P : List (Json × Option Json) → Json → Prop}
    (hP : ∀ payload, Forwards scope input payload → P [] payload)
    (hworkspace : lookup (js "workspaceId") input = some (.str scope.workspaceId))
    (hlead : isString (lookup (js "operation") input) (js "listTeams") = true ∨
      lookup (js "leadSessionId") input = some (.str scope.leadSessionId)) :
    (callUpstream scope input).wp P
      (fun _ result => ∀ x, result = some x → ResultConfined scope input x) [] := by
  unfold callUpstream
  dsimp only
  split_ifs with hteams hstatus htasks hchat hinstruction
  · rw [Program.wp_bind]
    refine wp_bridgeCall (fun fields hfields => hP _ ?_) fun past teams x hx => ?_
    · obtain rfl := workspaceArgs_eq_some hworkspace hfields
      refine forwards_bridgePayload hteams ?_ (by simp) (.inl hteams)
      intro q hq
      rw [List.mem_singleton.mp hq]
      exact hworkspace
    · obtain ⟨teams, -, hx⟩ := Option.bind_eq_some_iff.mp hx
      exact resultConfined_scopedTeams hteams hx
  · rw [Program.wp_bind]
    refine wp_bridgeCall (fun fields hfields => hP _ ?_) fun past team x hx => ?_
    · rw [← List.append_nil fields]
      exact forwards_leadArgs hstatus hworkspace (hlead.resolve_left hteams) (by simp) hfields
    · obtain ⟨team, -, hx⟩ := Option.bind_eq_some_iff.mp hx
      exact resultConfined_scopedTeam hstatus hx
  · rw [Program.wp_bind]
    refine wp_bridgeCall (fun fields hfields => hP _ ?_) fun past tasks x hx => ?_
    · rw [← List.append_nil fields]
      exact forwards_leadArgs htasks hworkspace (hlead.resolve_left hteams) (by simp) hfields
    · exact resultConfined_of_other htasks (by decide) (by decide) x
  · rw [Program.wp_bind]
    refine wp_bridgeCall (fun fields hfields => hP _ ?_) fun past history x hx => ?_
    · simp only [Option.bind_eq_bind, Option.bind_eq_some_iff, Option.guard_eq_some',
        Option.pure_def, Option.some.injEq] at hfields
      obtain ⟨count, hcount, -, -, lead, hargs, rfl⟩ := hfields
      refine forwards_leadArgs hchat hworkspace (hlead.resolve_left hteams) ?_ hargs
      intro q hq
      rw [List.mem_singleton.mp hq]
      exact hcount
    · exact resultConfined_of_other hchat (by decide) (by decide) x
  · refine wp_bridgeCall (fun fields hfields => hP _ ?_) fun past ack x hx => ?_
    · simp only [Option.bind_eq_bind, Option.bind_eq_some_iff, Option.guard_eq_some',
        Option.pure_def, Option.some.injEq] at hfields
      obtain ⟨id, hid, text, htext, -, -, lead, hargs, rfl⟩ := hfields
      refine forwards_leadArgs hinstruction hworkspace (hlead.resolve_left hteams) ?_ hargs
      intro q hq
      simp only [List.mem_cons, List.not_mem_nil, or_false] at hq
      rcases hq with rfl | rfl
      · exact hid
      · exact htext
    · exact resultConfined_of_other hinstruction (by decide) (by decide) x
  · intro x hx
    cases hx

end Call

/-! ### The answer -/

theorem reject_cases (faults : WireFaults) (headersSent : Bool) :
    reject faults headersSent = refusedAnswer ∨ reject faults headersSent = .closed := by
  unfold reject
  split_ifs
  · exact .inr rfl
  · exact .inl rfl

theorem respond_cases (faults : WireFaults) (result : Option Json) :
    (∃ x headers, result = some x ∧ respond faults result = .sent 200 headers (resultText x)) ∨
      respond faults result = refusedAnswer ∨ respond faults result = .closed := by
  cases result with
  | none => exact .inr (reject_cases faults false)
  | some x =>
      unfold respond
      dsimp only
      split_ifs
      · exact .inr (reject_cases faults false)
      · exact .inr (reject_cases faults true)
      · exact .inl ⟨x, _, rfl, rfl⟩

/-- What an end of the handler is. -/
def AnswerConfined (p : Platform) (scope : MeshScope) (req : RelayRequest) (answer : RelayAnswer) :
    Prop :=
  (∃ headers input result, PassesChecks p scope req input ∧ ResultConfined scope input result ∧
      answer = .sent 200 headers (resultText result)) ∨
    answer = refusedAnswer ∨ answer = .closed

theorem wp_relay (p : Platform) (scope : MeshScope) (req : RelayRequest) (faults : WireFaults) :
    (relay p scope req faults).wp
      (fun past payload => past = [] ∧
        ∃ input, PassesChecks p scope req input ∧ Forwards scope input payload)
      (fun _ answer => AnswerConfined p scope req answer) [] := by
  unfold relay
  cases hinput : req.input p scope with
  | none => exact .inr (reject_cases faults false)
  | some input =>
      have hpasses := passesChecks_of_input hinput
      obtain ⟨value, -, hcheck⟩ := hpasses.operation
      rw [Program.wp_bind]
      refine Program.wp_mono ?_ (wp_callUpstream
        (fun payload hforwards => ⟨rfl, input, hpasses, hforwards⟩)
        (workspace_of_checkOperation hcheck) (lead_of_checkOperation hcheck))
      intro past result hresult
      rcases respond_cases faults result with ⟨x, headers, hx, heq⟩ | hrefused
      · exact .inl ⟨headers, input, x, hpasses, hresult x hx, heq⟩
      · exact .inr hrefused

/-- The relay stays within its configuration on every request. -/
theorem relayIsConfined (p : Platform) (scope : MeshScope) (req : RelayRequest)
    (faults : WireFaults) : RelayConfined p scope req faults := by
  have hwp := wp_relay p scope req faults
  constructor
  · intro history payload hasks
    exact (Program.asks_of_wp hwp hasks).1
  · intro history payload hasks
    exact (Program.asks_of_wp hwp hasks).2
  · intro history headers body hends
    rcases Program.ends_of_wp hwp hends with ⟨_, input, result, hpasses, hconfined, heq⟩ | heq | heq
    · exact ⟨input, result, hpasses, (RelayAnswer.sent.inj heq).2.2, hconfined⟩
    · cases heq
    · cases heq
  · intro history answer hends
    rcases Program.ends_of_wp hwp hends with ⟨headers, _, result, -, -, rfl⟩ | hrefused
    · exact .inl ⟨headers, _, rfl⟩
    · exact .inr hrefused

/-- A request in two chunks that passes. -/
example :
    (RelayRequest.input samplePlatform ⟨js "lab", js "lead-1", by decide, by decide⟩
      { method := js "POST", url := dshBridgePath, contentEncoding := none,
        transferEncoding := none, contentType := some (js "Application/json ; charset=utf-8"),
        contentLength := some (js "45"),
        chunks := [textBytes "\x7b\"operation\":\"listTeams\",".toList,
          textBytes "\"workspaceId\":\"lab\"\x7d".toList],
        ended := true }).isSome = true := by
  decide +kernel

end RemoteOps

import RemoteOps.DeepHarness.PlatformAdmin

/-!
# Administration inside the parent directory

What a call of the platform administration may ask of the host: a change only from within
the callback of its grant, for a workspace that lies below the parent directory in the
registry with which that callback starts. Operations on teams look the workspace up again
there. Renaming a workspace and creating a Lead session do not, so that a workspace that
was moved away while the grant was awaited is changed all the same.
-/

namespace RemoteOps

open Ecma Posix Transition

/-! ## Containment -/

def HostRequest.mutates : HostRequest → Bool
  | .createDirectory .. | .createWorkspace .. | .renameWorkspace .. | .createSession ..
  | .spawnTeammate .. | .createTask .. | .updateTask .. => true
  | _ => false

abbrev HostTrace := List (HostRequest × HostAnswer)

/-- The callback for `context` has started with `registry`, and has not ended. -/
def InCallback (history : HostTrace) (context : Props) (registry : WorkspaceRegistry) : Prop :=
  ∃ before value after,
    history = before ++ (.beginWrite context, ⟨some value, registry⟩) :: after ∧
      ∀ x ∈ after, x.1 ≠ .endWrite

/-- The path of the record resolves strictly below the parent directory. -/
def ResolvesBelow (env : PlatformEnv) (ws : Json) : Prop :=
  ∃ path rest, ws.get (js "path") = some (.str path) ∧ rest ≠ [] ∧
    resolvePath env.cwd path = env.parent ++ rest

def HasLead (ws : Json) (lead : JsString) : Prop :=
  ∃ ids, ws.get (js "sessionIds") = some (.arr ids) ∧ Json.str lead ∈ ids

namespace AdminCall

def input : AdminCall → Json
  | listWorkspaces => .null
  | createWorkspace input | renameWorkspace input | createLeadSession input
  | listWorkspaceSessions input | createTeammate input | createTeamTask input
  | updateTeamTask input => input

def operation : AdminCall → String
  | listWorkspaces => "workspace.list"
  | createWorkspace _ => "workspace.create"
  | renameWorkspace _ => "workspace.rename"
  | createLeadSession _ => "session.create"
  | listWorkspaceSessions _ => "session.list"
  | createTeammate _ => "team.member.create"
  | createTeamTask _ => "team.task.create"
  | updateTeamTask _ => "team.task.update"

def onTeam : AdminCall → Bool
  | createTeammate _ | createTeamTask _ | updateTeamTask _ => true
  | _ => false

/-- The context of the grant for the workspace and, on a team, its Lead. -/
def context (call : AdminCall) (id lead : JsString) : Props :=
  operationContext call.operation (if call.onTeam then leadFields id lead else workspaceField id)

/-- The operations that look the workspace up only before their grant. -/
def looksUpBefore : AdminCall → Bool
  | renameWorkspace _ | createLeadSession _ => true
  | _ => false

end AdminCall

/-- The request is for this workspace, or for the agent that was resolved from this Lead. -/
def Concerns (history : HostTrace) (id lead : JsString) : HostRequest → Prop
  | .renameWorkspace workspaceId _ => workspaceId = some (.str id)
  | .createSession workspaceId _ => workspaceId = id
  | .spawnTeammate agent _ | .createTask agent _ | .updateTask agent _ =>
      ∃ resolved registry, (.resolveAgent lead, ⟨some resolved, registry⟩) ∈ history ∧
        agentOf resolved = some agent
  | _ => False

/-- The change is made under the grant for the workspace that the input names, which lies
below the parent directory and has the Lead when the callback starts. -/
def Scoped (env : PlatformEnv) (call : AdminCall) (history : HostTrace) (request : HostRequest) :
    Prop :=
  ∃ id lead registry ws, call.input.get (js "workspaceId") = some (.str id) ∧
    Concerns history id lead request ∧ InCallback history (call.context id lead) registry ∧
    registry.get id = some ws ∧ ResolvesBelow env ws ∧
    (call.onTeam = true →
      call.input.get (js "leadSessionId") = some (.str lead) ∧ HasLead ws lead)

/-- A workspace is created at the one path that its name gives below the parent directory. -/
def CreatesOnly (env : PlatformEnv) (input : Json) : HostRequest → Prop
  | .createDirectory root name =>
      root = env.root ∧ ∃ n : FileName, n.text = name ∧ input.get (js "name") = some (.str name)
  | .createWorkspace path => ∃ n : FileName, input.get (js "name") = some (.str n.text) ∧
      path = pathText (env.parent ++ [n])
  | .renameWorkspace .. => True
  | _ => False

def ChangeContained (env : PlatformEnv) (call : AdminCall) (history : HostTrace)
    (request : HostRequest) : Prop :=
  match call with
  | .listWorkspaces | .listWorkspaceSessions _ => False
  | .createWorkspace input => CreatesOnly env input request ∧
      ∃ registry, InCallback history (operationContext "workspace.create" []) registry
  | call => Scoped env call history request

def AdminCall.reads : AdminCall → Bool
  | listWorkspaces | listWorkspaceSessions _ => true
  | _ => false

/-- The one context was accepted before and after. -/
def ReadTwice (exchanges : HostTrace) : Prop :=
  ∃ context first last, exchanges = [(.authorizeRead context, first),
    (.authorizeRead context, last)] ∧ first.value.isSome = true ∧ last.value.isSome = true

/-- A run stays inside the parent directory and its grants. -/
structure PlatformContained (env : PlatformEnv) (call : AdminCall) (registry : WorkspaceRegistry)
    (exchanges : HostTrace) : Prop where
  changes : ∀ history request, history <+: exchanges →
    (call.program env registry).Asks history request → request.mutates = true →
      ChangeContained env call history request
  reads : ∀ data, (call.program env registry).Ends exchanges (some data) → call.reads = true →
    ReadTwice exchanges

/-- The workspace is still below the parent directory when the callback starts. -/
def StillBelow (env : PlatformEnv) (call : AdminCall) (exchanges : HostTrace) : Prop :=
  ∀ context value registry, (.beginWrite context, ⟨some value, registry⟩) ∈ exchanges →
    ∃ id ws, call.input.get (js "workspaceId") = some (.str id) ∧ registry.get id = some ws ∧
      ResolvesBelow env ws

/-! ## Paths -/

theorem startsWith_placeText {root l : List FileName} (hroot : root ≠ []) :
    startsWith (placeText l) (pathText root ++ js "/") = true ↔
      ∃ rest, rest ≠ [] ∧ l = root ++ rest := by
  have hinside : isInsideRoot (pathText root) (placeText l) = true ↔ root <+: l :=
    isInsideRoot_iff
  rw [isInsideRoot, Bool.or_eq_true, decide_eq_true_eq] at hinside
  constructor
  · intro h
    obtain ⟨rest, rfl⟩ := hinside.mp (.inr h)
    refine ⟨rest, ?_, rfl⟩
    rintro rfl
    -- the root itself is shorter than what it would begin with
    rw [List.append_nil, placeText, if_neg hroot, startsWith_iff] at h
    have hlength := h.length_le
    rw [List.length_append, show (js "/").length = 1 from by decide] at hlength
    omega
  · rintro ⟨rest, hrest, rfl⟩
    refine (hinside.mpr (List.prefix_append root rest)).resolve_left fun heq => ?_
    rw [placeText, if_neg (by simp [hroot])] at heq
    have hnil := pathText_injective heq
    exact hrest (by simpa using hnil)

variable {env : PlatformEnv}

theorem isBelow_iff {path : JsString} : env.isBelow path = true ↔
    ∃ rest, rest ≠ [] ∧ resolvePath env.cwd path = env.parent ++ rest :=
  startsWith_placeText env.proper

theorem owned_eq_some {ws ws' : Json} (h : env.owned ws = some ws') :
    ws' = ws ∧ ResolvesBelow env ws := by
  unfold PlatformEnv.owned at h
  split at h
  · next path hpath =>
      split_ifs at h with hbelow
      obtain ⟨rest, hrest, heq⟩ := isBelow_iff.mp hbelow
      exact ⟨(Option.some.inj h).symm, path, rest, hpath, hrest, heq⟩
  · cases h

theorem workspace_eq_some {registry : WorkspaceRegistry} {x : Option Json} {id : JsString}
    {ws : Json} (h : env.workspace registry x = some (id, ws)) :
    x = some (.str id) ∧ registry.get id = some ws ∧ ResolvesBelow env ws := by
  simp only [PlatformEnv.workspace, Option.bind_eq_bind, Option.bind_eq_some_iff, Option.pure_def,
    Option.some.injEq, Prod.mk.injEq] at h
  obtain ⟨i, hid, ws', hget, ws'', howned, rfl, rfl⟩ := h
  obtain ⟨rfl, hbelow⟩ := owned_eq_some howned
  exact ⟨(safeMeshId_eq_some_iff.mp hid).1, hget, hbelow⟩

theorem sameValueZero_str {s : JsString} {x : Json} (h : sameValueZero (.str s) x = true) :
    x = .str s := by
  cases x with
  | str t => rw [of_decide_eq_true h]
  | _ => cases h

theorem leadOf_eq_some {ws : Json} {x : Option Json} {lead : JsString}
    (h : leadOf ws x = some lead) : x = some (.str lead) ∧ HasLead ws lead := by
  simp only [leadOf, Option.bind_eq_bind, Option.bind_eq_some_iff] at h
  obtain ⟨l, hl, h⟩ := h
  split at h
  · next ids hids =>
      split_ifs at h with hany
      obtain rfl := Option.some.inj h
      obtain ⟨y, hy, hsame⟩ := List.any_eq_true.mp hany
      obtain rfl := sameValueZero_str hsame
      exact ⟨(safeMeshId_eq_some_iff.mp hl).1, ids, hids, hy⟩
  · cases h

theorem lexical_text (names l : List FileName) : lexical names (l.map FileName.text) = names ++ l := by
  induction l generalizing names with
  | nil => simp [lexical]
  | cons n l ih =>
      have hup : n.text ≠ js ".." := by
        intro heq
        have hvalid := n.valid
        rw [heq] at hvalid
        exact absurd hvalid (by decide)
      rw [List.map_cons, lexical, if_neg hup, dif_pos n.valid, ih, List.append_assoc]
      rfl

theorem isFileName_of_isSlug {s : JsString} (h : isSlug s = true) : isFileName s = true := by
  cases s with
  | nil => cases h
  | cons u s =>
      rw [isSlug, matchesHeadTail, Bool.and_eq_true, matchesClass_iff] at h
      obtain ⟨hhead, htail, -⟩ := h
      have hslash : unit '/' ∉ u :: s := by
        intro hmem
        rcases List.mem_cons.mp hmem with rfl | hmem
        · exact absurd hhead (by decide)
        · exact absurd (htail _ hmem) (by decide)
      have hdots : ∀ t : JsString, t.head? = some (unit '.') → u :: s ≠ t := by
        rintro t ht rfl
        rw [List.head?_cons, Option.some.injEq] at ht
        rw [ht] at hhead
        exact absurd hhead (by decide)
      simp only [isFileName, Bool.and_eq_true, decide_eq_true_eq, Bool.not_eq_true',
        List.contains_eq_mem, decide_eq_false_iff_not]
      exact ⟨⟨⟨List.cons_ne_nil u s, hslash⟩, hdots _ (by decide)⟩, hdots _ (by decide)⟩

theorem not_endsWith_slash (l : List FileName) (n : FileName) :
    endsWith (pathText (l ++ [n])) (js "/") = false := by
  rw [Bool.eq_false_iff, Ne, endsWith_iff]
  intro h
  obtain ⟨t, ht⟩ := h
  have hlast := congrArg List.getLast? ht
  obtain ⟨name, u, hname⟩ := (List.eq_nil_or_concat n.text).resolve_left n.text_ne_nil
  rw [List.concat_eq_append] at hname
  rw [pathText_append, pathText_cons, pathText_nil, List.append_nil, hname,
    ← List.cons_append, ← List.append_assoc, List.getLast?_concat,
    show js "/" = [unit '/'] from by decide, List.getLast?_concat] at hlast
  have hu : unit '/' ∈ n.text := by
    rw [hname, Option.some.inj hlast]
    exact List.mem_append_right _ (List.mem_singleton_self u)
  exact slash_notMem n.valid hu

theorem normalizePath_pathText (l : List FileName) (n : FileName) :
    normalizePath (pathText (l ++ [n])) = ⟨l ++ [n], false⟩ := by
  have hnames : lexical [] (pathSegments (pathText (l ++ [n]))) = l ++ [n] := by
    rw [pathSegments_pathText, lexical, if_neg (by decide), dif_neg (by decide), lexical_text,
      List.nil_append]
  rw [normalizePath, hnames, not_endsWith_slash, Bool.false_and]

/-- The path of a name is the one place below the parent directory that has it. -/
theorem workspacePath_text (n : FileName) :
    workspacePath env n.text = some (pathText (env.parent ++ [n])) := by
  have htext : env.root ++ js "/" ++ n.text = pathText (env.parent ++ [n]) := by
    rw [pathText_append, pathText_cons, pathText_nil, List.append_nil, List.append_assoc]
    rfl
  have hplace : (normalizePath (pathText (env.parent ++ [n]))).text =
      placeText (env.parent ++ [n]) := by
    rw [normalizePath_pathText]
    rfl
  have hbelow : startsWith (placeText (env.parent ++ [n])) (env.root ++ js "/") = true :=
    (startsWith_placeText env.proper).mpr ⟨[n], by simp, rfl⟩
  unfold workspacePath
  dsimp only
  rw [htext, hplace, if_pos hbelow, placeText, if_neg (by simp)]

/-! ## The rules of the host's programs -/

section Rules

variable {P : HostTrace → HostRequest → Prop} {past : HostTrace}

theorem wp_orDeny {α β : Type} {Q : HostTrace → Option β → Prop} {x : Option α}
    {k : α → Host (Option β)} (hdeny : Q past none)
    (h : ∀ a, x = some a → (k a).wp P Q past) : (orDeny x k).wp P Q past := by
  cases x with
  | none => exact hdeny
  | some a => exact h a rfl

theorem wp_await {β : Type} {Q : HostTrace → Option β → Prop} {request : HostRequest}
    {k : Json → WorkspaceRegistry → Host (Option β)} (hrequest : P past request)
    (hdeny : ∀ h, Q h none)
    (h : ∀ value registry, (k value registry).wp P Q
      (past ++ [(request, ⟨some value, registry⟩)])) : (await request k).wp P Q past := by
  refine ⟨hrequest, fun a => ?_⟩
  obtain ⟨value, registry⟩ := a
  apply wp_orDeny (hdeny _)
  rintro v rfl
  exact h v registry

/-- Only what the callback asks is left to check. -/
theorem wp_writeScoped {context : Props} {work : WorkspaceRegistry → Host (Option Json)}
    (hbegin : P [] (.beginWrite context)) (hend : ∀ h, P h .endWrite)
    (hwork : ∀ value registry, (work registry).wp P (fun _ _ => True)
      [(.beginWrite context, ⟨some value, registry⟩)]) :
    (writeScoped context work).wp P (fun _ _ => True) [] := by
  apply wp_await hbegin (fun _ => trivial)
  intro value registry
  rw [Program.wp_bind]
  refine Program.wp_mono ?_ (hwork value registry)
  intro h result _
  exact ⟨hend h, fun _ => trivial⟩

end Rules

theorem inCallback_begin (context : Props) (value : Json) (registry : WorkspaceRegistry) :
    InCallback [(.beginWrite context, ⟨some value, registry⟩)] context registry :=
  ⟨[], value, [], rfl, by simp⟩

theorem InCallback.snoc {history : HostTrace} {context : Props} {registry : WorkspaceRegistry}
    (h : InCallback history context registry) {r : HostRequest} (hr : r ≠ .endWrite)
    (answer : HostAnswer) : InCallback (history ++ [(r, answer)]) context registry := by
  obtain ⟨before, value, after, rfl, hafter⟩ := h
  refine ⟨before, value, after ++ [(r, answer)], by simp, fun x hx => ?_⟩
  rcases List.mem_append.mp hx with hx | hx
  · exact hafter x hx
  · rw [List.mem_singleton.mp hx]
    exact hr

/-! ## Operations on teams -/

/-- What is asked obeys the law of the call. -/
def Guarded (env : PlatformEnv) (call : AdminCall) (past : HostTrace) (request : HostRequest) :
    Prop :=
  request.mutates = true → ChangeContained env call past request

theorem guarded_of_not_mutates {call : AdminCall} {past : HostTrace} {request : HostRequest}
    (h : request.mutates = false) : Guarded env call past request := fun hmutates =>
  absurd hmutates (by simp [h])

/-- The agent was resolved from the Lead. -/
def ResolvedFrom (past : HostTrace) (lead : JsString) (agent : Json) : Prop :=
  ∃ resolved registry, (.resolveAgent lead, ⟨some resolved, registry⟩) ∈ past ∧
    agentOf resolved = some agent

/-- A change for the agent is within its grant when it comes to the act. -/
theorem wp_leadScoped {call : AdminCall} {operation : String} {id lead : JsString}
    {act : Json → Host (Option Json)} {ps : Props} {registry : WorkspaceRegistry}
    (hteam : call.onTeam = true) (hcall : call.input = .obj ps)
    (hoperation : call.operation = operation)
    (hlead : inputLead env registry ps = some (id, lead))
    (hact : ∀ agent past, ResolvedFrom past lead agent →
      (∀ request, Concerns past id lead request → Scoped env call past request) →
      (act agent).wp (Guarded env call) (fun _ _ => True) past) :
    (leadScoped env operation id lead act).wp (Guarded env call) (fun _ _ => True) [] := by
  simp only [inputLead, Option.bind_eq_bind, Option.bind_eq_some_iff, Option.pure_def,
    Option.some.injEq, Prod.mk.injEq] at hlead
  obtain ⟨⟨i, ws₀⟩, hworkspace, l, hl, rfl, rfl⟩ := hlead
  apply wp_writeScoped (guarded_of_not_mutates rfl) (fun _ => guarded_of_not_mutates rfl)
  intro value registry
  apply wp_orDeny trivial
  intro l' hagain
  simp only [Option.bind_eq_bind, Option.bind_eq_some_iff] at hagain
  obtain ⟨⟨i', ws⟩, hcurrent, hlead'⟩ := hagain
  obtain ⟨heq, hget, hbelow⟩ := workspace_eq_some hcurrent
  obtain rfl := Json.str.inj (Option.some.inj heq)
  apply wp_await (guarded_of_not_mutates rfl) (fun _ => trivial)
  intro resolved registry'
  apply wp_orDeny trivial
  intro agent hagent
  apply hact
  · exact ⟨resolved, registry', by simp, hagent⟩
  · intro request hconcerns
    refine ⟨i, l, registry, ws, ?_, hconcerns, ?_, hget, hbelow, fun _ => ⟨?_, ?_⟩⟩
    · rw [hcall]
      exact (workspace_eq_some hworkspace).1
    · rw [AdminCall.context, hoperation, if_pos hteam]
      apply (inCallback_begin _ value registry).snoc
      exact HostRequest.noConfusion
    · rw [hcall]
      exact (leadOf_eq_some hl).1
    · obtain ⟨heq', hhas⟩ := leadOf_eq_some hlead'
      rwa [Json.str.inj (Option.some.inj heq')]

theorem exactFields_eq_some {names : List JsString} {input : Json} {ps : Props}
    (h : exactFields names input = some ps) : input = .obj ps := by
  unfold exactFields at h
  split at h
  · split_ifs at h
    rw [Option.some.inj h]
  · cases h

theorem wp_createTeammate (registry : WorkspaceRegistry) (input : Json) :
    (createTeammate env registry input).wp (Guarded env (.createTeammate input))
      (fun _ _ => True) [] := by
  apply wp_orDeny trivial
  rintro ⟨id, lead, name, description, prompt, provider, context⟩ hchecks
  simp only [Option.bind_eq_bind, Option.bind_eq_some_iff, Option.pure_def, Option.some.injEq,
    Prod.mk.injEq] at hchecks
  obtain ⟨ps, hps, ⟨i, l⟩, hlead, -, -, -, -, -, -, -, -, -, -, -, -, rfl, rfl, -⟩ := hchecks
  apply wp_leadScoped rfl (exactFields_eq_some hps) rfl hlead
  intro agent past hagent hscoped
  apply wp_orDeny trivial
  intro _ _
  apply wp_await
  · exact fun _ => hscoped _ hagent
  · exact fun _ => trivial
  · exact fun _ _ => trivial

theorem wp_createTeamTask (registry : WorkspaceRegistry) (input : Json) :
    (createTeamTask env registry input).wp (Guarded env (.createTeamTask input))
      (fun _ _ => True) [] := by
  apply wp_orDeny trivial
  rintro ⟨id, lead, subject, description⟩ hchecks
  simp only [Option.bind_eq_bind, Option.bind_eq_some_iff, Option.pure_def, Option.some.injEq,
    Prod.mk.injEq] at hchecks
  obtain ⟨ps, hps, ⟨i, l⟩, hlead, -, -, -, -, rfl, rfl, -⟩ := hchecks
  apply wp_leadScoped rfl (exactFields_eq_some hps) rfl hlead
  intro agent past hagent hscoped
  apply wp_await
  · exact fun _ => hscoped _ hagent
  · exact fun _ => trivial
  · exact fun _ _ => trivial

theorem wp_updateTeamTask (registry : WorkspaceRegistry) (input : Json) :
    (updateTeamTask env registry input).wp (Guarded env (.updateTeamTask input))
      (fun _ _ => True) [] := by
  apply wp_orDeny trivial
  rintro ⟨id, lead, taskId, expected, revision, action, owner⟩ hchecks
  simp only [Option.bind_eq_bind, Option.bind_eq_some_iff, Option.pure_def, Option.some.injEq,
    Prod.mk.injEq] at hchecks
  obtain ⟨ps, hps, ⟨i, l⟩, hlead, -, -, -, -, -, -, -, -, -, -, -, -, rfl, rfl, -⟩ := hchecks
  apply wp_leadScoped rfl (exactFields_eq_some hps) rfl hlead
  intro agent past hagent hscoped
  apply wp_await
  · exact fun _ => hscoped _ hagent
  · exact fun _ => trivial
  · exact fun _ _ => trivial

/-! ## Creating a workspace -/

theorem slugOf_eq_some {x : Option Json} {name : JsString} (h : slugOf x = some name) :
    x = some (.str name) ∧ ∃ n : FileName, n.text = name := by
  unfold slugOf at h
  split at h
  · split_ifs at h with hslug
    obtain rfl := Option.some.inj h
    exact ⟨rfl, ⟨_, isFileName_of_isSlug hslug⟩, rfl⟩
  · cases h

theorem wp_createFresh {input : Json} {n : FileName} {title : JsString} {past : HostTrace}
    {registry : WorkspaceRegistry} (hname : input.get (js "name") = some (.str n.text))
    (hcallback : InCallback past (operationContext "workspace.create" []) registry) :
    (createFresh env n.text title (pathText (env.parent ++ [n]))).wp
      (Guarded env (.createWorkspace input)) (fun _ _ => True) past := by
  apply wp_await
  · exact fun _ => ⟨⟨rfl, n, rfl, hname⟩, registry, hcallback⟩
  · exact fun _ => trivial
  intro createdPath _
  apply wp_orDeny trivial
  intro _ _
  have hmade := fun answer => hcallback.snoc (r := .createDirectory env.root n.text)
    HostRequest.noConfusion answer
  apply wp_await
  · exact fun _ => ⟨⟨n, hname, rfl⟩, registry, hmade _⟩
  · exact fun _ => trivial
  intro created registry'
  apply wp_orDeny trivial
  intro ws _
  split_ifs
  · trivial
  · apply wp_await
    · refine fun _ => ⟨trivial, registry, (hmade _).snoc ?_ _⟩
      exact HostRequest.noConfusion
    · exact fun _ => trivial
    · exact fun _ _ => trivial

/-- The law of `createWorkspace`, within its callback. -/
theorem wp_createWorkspace (input : Json) :
    (createWorkspace env input).wp (Guarded env (.createWorkspace input)) (fun _ _ => True) [] := by
  apply wp_orDeny trivial
  rintro ⟨name, title, path⟩ hchecks
  simp only [Option.bind_eq_bind, Option.bind_eq_some_iff, Option.pure_def, Option.some.injEq,
    Prod.mk.injEq] at hchecks
  obtain ⟨ps, hps, m, hname, t, -, q, hpath, rfl, rfl, rfl⟩ := hchecks
  obtain ⟨hlookup, n, rfl⟩ := slugOf_eq_some hname
  rw [workspacePath_text, Option.some.injEq] at hpath
  subst hpath
  have hinput : input.get (js "name") = some (.str n.text) := by
    rw [exactFields_eq_some hps]
    exact hlookup
  apply wp_writeScoped (guarded_of_not_mutates rfl) (fun _ => guarded_of_not_mutates rfl)
  intro value registry
  refine ⟨guarded_of_not_mutates rfl, fun answer => ?_⟩
  have hcallback := (inCallback_begin (operationContext "workspace.create" []) value registry).snoc
    (r := .resolveByPath (pathText (env.parent ++ [n]))) HostRequest.noConfusion answer
  dsimp only
  cases answer.value.filter truthy with
  | some existing => exact trivial
  | none => exact wp_createFresh hinput hcallback

/-! ## Reads -/

/-- What a call comes to when it ends. -/
def ReadsTwice (call : AdminCall) (history : HostTrace) (result : Option Json) : Prop :=
  call.reads = true → ∀ data, result = some data → ReadTwice history

theorem wp_readScoped {call : AdminCall} {context : Props}
    {work : WorkspaceRegistry → Option Json} :
    (readScoped context work).wp (Guarded env call) (ReadsTwice call) [] := by
  have hdenied : ∀ history, ReadsTwice call history none := fun _ _ _ => nofun
  apply wp_await (guarded_of_not_mutates rfl) hdenied
  intro value registry
  apply wp_orDeny (hdenied _)
  intro result _
  apply wp_await (guarded_of_not_mutates rfl) hdenied
  intro value' registry' _ _ _
  exact ⟨context, _, _, rfl, rfl, rfl⟩

theorem wp_listWorkspaceSessions (registry : WorkspaceRegistry) (input : Json) :
    (listWorkspaceSessions env registry input).wp (Guarded env (.listWorkspaceSessions input))
      (ReadsTwice (.listWorkspaceSessions input)) [] := by
  apply wp_orDeny
  · exact fun _ _ => nofun
  · exact fun _ _ => wp_readScoped

/-! ## The operations that look up before their grant -/

/-- The grant comes first, and with its callback the change. -/
structure AtStart (call : AdminCall) (past : HostTrace) (request : HostRequest) : Prop where
  grant : ∀ context, request = .beginWrite context → past = []
  change : request.mutates = true → ∃ id value registry,
    past = [(.beginWrite (call.context id []), ⟨some value, registry⟩)] ∧
      call.input.get (js "workspaceId") = some (.str id) ∧ Concerns past id [] request

theorem atStart_of_other {call : AdminCall} {past : HostTrace} {request : HostRequest}
    (hgrant : ∀ context, request ≠ .beginWrite context) (hchange : request.mutates = false) :
    AtStart call past request :=
  ⟨fun context heq => absurd heq (hgrant context), fun h => absurd h (by simp [hchange])⟩

theorem atStart_beginWrite {call : AdminCall} (context : Props) :
    AtStart call [] (.beginWrite context) :=
  ⟨fun _ _ => rfl, nofun⟩

theorem wp_renameWorkspace (registry : WorkspaceRegistry) (input : Json) :
    (renameWorkspace env registry input).wp (AtStart (.renameWorkspace input))
      (fun _ _ => True) [] := by
  apply wp_orDeny trivial
  rintro ⟨id, title⟩ hchecks
  simp only [Option.bind_eq_bind, Option.bind_eq_some_iff, Option.pure_def, Option.some.injEq,
    Prod.mk.injEq] at hchecks
  obtain ⟨ps, hps, ⟨i, ws⟩, hworkspace, t, -, rfl, rfl⟩ := hchecks
  have hinput : input.get (js "workspaceId") = some (.str i) := by
    rw [exactFields_eq_some hps]
    exact (workspace_eq_some hworkspace).1
  apply wp_writeScoped (atStart_beginWrite _)
  · exact fun _ => atStart_of_other (fun _ => HostRequest.noConfusion) rfl
  intro value registry'
  apply wp_await
  · exact ⟨nofun, fun _ => ⟨i, value, registry', rfl, hinput, rfl⟩⟩
  · exact fun _ => trivial
  · exact fun _ _ => trivial

theorem wp_createLeadSession (registry : WorkspaceRegistry) (input : Json) :
    (createLeadSession env registry input).wp (AtStart (.createLeadSession input))
      (fun _ _ => True) [] := by
  apply wp_orDeny trivial
  rintro ⟨id, agentPreset⟩ hchecks
  simp only [Option.bind_eq_bind, Option.bind_eq_some_iff, Option.pure_def, Option.some.injEq,
    Prod.mk.injEq] at hchecks
  obtain ⟨ps, hps, ⟨i, ws⟩, hworkspace, t, -, rfl, rfl⟩ := hchecks
  have hinput : input.get (js "workspaceId") = some (.str i) := by
    rw [exactFields_eq_some hps]
    exact (workspace_eq_some hworkspace).1
  apply wp_writeScoped (atStart_beginWrite _)
  · exact fun _ => atStart_of_other (fun _ => HostRequest.noConfusion) rfl
  intro value registry'
  apply wp_await
  · exact ⟨nofun, fun _ => ⟨i, value, registry', rfl, hinput, rfl⟩⟩
  · exact fun _ => trivial
  · exact fun _ _ => trivial

theorem asks_of_orDeny {α : Type} {x : Option α} {k : α → Host (Option Json)} {history : HostTrace}
    {request : HostRequest} (h : (orDeny x k).Asks history request) :
    ∃ a, x = some a ∧ (k a).Asks history request := by
  cases x with
  | none => exact h.elim
  | some a => exact ⟨a, rfl, h⟩

/-- With the start of its callback the call asks for a change. -/
def ChangesNext (program : Host (Option Json)) : Prop :=
  ∀ context value registry, program.Asks [] (.beginWrite context) →
    ∃ request, request.mutates = true ∧
      program.Asks [(.beginWrite context, ⟨some value, registry⟩)] request

theorem changesNext_renameWorkspace (registry : WorkspaceRegistry) (input : Json) :
    ChangesNext (renameWorkspace env registry input) := by
  intro context value registry' h
  unfold renameWorkspace at h ⊢
  obtain ⟨a, ha, hasks⟩ := asks_of_orDeny h
  rw [ha]
  exact ⟨_, rfl, hasks, rfl⟩

theorem changesNext_createLeadSession (registry : WorkspaceRegistry) (input : Json) :
    ChangesNext (createLeadSession env registry input) := by
  intro context value registry' h
  unfold createLeadSession at h ⊢
  obtain ⟨a, ha, hasks⟩ := asks_of_orDeny h
  rw [ha]
  exact ⟨_, rfl, hasks, rfl⟩

/-! ## Every run -/

theorem wp_program (env : PlatformEnv) {call : AdminCall} (hbefore : call.looksUpBefore = false)
    (registry : WorkspaceRegistry) :
    (call.program env registry).wp (Guarded env call) (ReadsTwice call) [] := by
  have hread : call.reads = false → ∀ history result, True → ReadsTwice call history result :=
    fun h _ _ _ hreads => absurd hreads (by simp [h])
  cases call with
  | listWorkspaces =>
      unfold AdminCall.program listWorkspaces
      exact wp_readScoped
  | createWorkspace input => exact Program.wp_mono (hread rfl) (wp_createWorkspace input)
  | renameWorkspace input => cases hbefore
  | createLeadSession input => cases hbefore
  | listWorkspaceSessions input => exact wp_listWorkspaceSessions registry input
  | createTeammate input => exact Program.wp_mono (hread rfl) (wp_createTeammate registry input)
  | createTeamTask input => exact Program.wp_mono (hread rfl) (wp_createTeamTask registry input)
  | updateTeamTask input => exact Program.wp_mono (hread rfl) (wp_updateTeamTask registry input)

theorem wp_program_before (env : PlatformEnv) {call : AdminCall} (hbefore : call.looksUpBefore = true)
    (registry : WorkspaceRegistry) :
    (call.program env registry).wp (AtStart call) (fun _ _ => True) [] := by
  cases call with
  | renameWorkspace input => exact wp_renameWorkspace registry input
  | createLeadSession input => exact wp_createLeadSession registry input
  | _ => cases hbefore

theorem changesNext_program {call : AdminCall} (hbefore : call.looksUpBefore = true)
    (registry : WorkspaceRegistry) : ChangesNext (call.program env registry) := by
  cases call with
  | renameWorkspace input => exact changesNext_renameWorkspace registry input
  | createLeadSession input => exact changesNext_createLeadSession registry input
  | _ => cases hbefore

theorem registry_of_inCallback {context context' : Props} {value : Json}
    {registry registry' : WorkspaceRegistry}
    (h : InCallback [(.beginWrite context, ⟨some value, registry⟩)] context' registry') :
    registry' = registry := by
  obtain ⟨before, value', after, hhistory, -⟩ := h
  cases before with
  | nil => exact (HostAnswer.mk.inj (Prod.mk.inj (List.cons.inj hhistory).1).2).2.symm
  | cons x before => cases before <;> cases (List.cons.inj hhistory).2

/-- Whether the change is contained is what the registry says when the callback starts. -/
theorem contained_iff_of_atStart {call : AdminCall} {history : HostTrace} {request : HostRequest}
    (hbefore : call.looksUpBefore = true) (h : AtStart call history request)
    (hmutates : request.mutates = true) :
    ChangeContained env call history request ↔ StillBelow env call history := by
  obtain ⟨id, value, registry, rfl, hinput, hconcerns⟩ := h.change hmutates
  have hteam : call.onTeam = false := by
    cases call <;> first | rfl | cases hbefore
  have hscoped : ChangeContained env call [(.beginWrite (call.context id []), ⟨some value, registry⟩)]
      request ↔ Scoped env call [(.beginWrite (call.context id []), ⟨some value, registry⟩)]
        request := by
    cases call with
    | renameWorkspace input => rfl
    | createLeadSession input => rfl
    | _ => cases hbefore
  rw [hscoped]
  constructor
  · rintro ⟨id', lead, registry', ws, hinput', -, hcallback, hget, hbelow, -⟩
    obtain rfl := registry_of_inCallback hcallback
    intro context value' registry'' hmem
    cases List.mem_singleton.mp hmem
    exact ⟨id', ws, hinput', hget, hbelow⟩
  · intro hstill
    obtain ⟨id', ws, hinput', hget, hbelow⟩ := hstill _ value registry (List.mem_singleton_self _)
    rw [hinput, Option.some.injEq] at hinput'
    obtain rfl := Json.str.inj hinput'
    exact ⟨id, [], registry, ws, hinput, hconcerns, inCallback_begin _ value registry, hget, hbelow,
      fun h => absurd h (by simp [hteam])⟩

theorem stillBelow_of_contained {call : AdminCall} {registry : WorkspaceRegistry}
    (hbefore : call.looksUpBefore = true) (run : (call.program env registry).Run)
    (h : PlatformContained env call registry run.exchanges) :
    StillBelow env call run.exchanges := by
  intro context value registry' hmem
  obtain ⟨past, rest, hrun⟩ := List.append_of_mem hmem
  have hwp := wp_program_before env hbefore registry
  have hbegin : (call.program env registry).Asks past (.beginWrite context) := by
    have hfollows := run.follows
    rw [hrun] at hfollows
    exact hfollows.asks
  obtain rfl : past = [] := (Program.asks_of_wp hwp hbegin).grant context rfl
  obtain ⟨request, hmutates, hasks⟩ :=
    changesNext_program hbefore registry context value registry' hbegin
  have hcontained := h.changes _ request ⟨rest, hrun.symm⟩ hasks hmutates
  exact (contained_iff_of_atStart hbefore (Program.asks_of_wp hwp hasks) hmutates).mp hcontained
    context value registry' (List.mem_singleton_self _)

/-- A run is contained unless the workspace of a call that does not look it up again has
left the parent directory when its callback starts. -/
theorem platformContained_iff (env : PlatformEnv) (call : AdminCall) (registry : WorkspaceRegistry)
    (run : (call.program env registry).Run) :
    PlatformContained env call registry run.exchanges ↔
      (call.looksUpBefore = true → StillBelow env call run.exchanges) := by
  refine ⟨fun h hbefore => stillBelow_of_contained hbefore run h, fun h => ?_⟩
  cases hbefore : call.looksUpBefore with
  | false =>
      have hwp := wp_program env hbefore registry
      constructor
      · exact fun history request _ hasks => Program.asks_of_wp hwp hasks
      · exact fun data hends hreads => Program.ends_of_wp hwp hends hreads data rfl
  | true =>
      constructor
      · intro history request hearlier hasks hmutates
        have hstart : AtStart call history request :=
          Program.asks_of_wp (wp_program_before env hbefore registry) hasks
        rw [contained_iff_of_atStart hbefore hstart hmutates]
        exact fun context value registry' hmem =>
          h hbefore context value registry' (hearlier.subset hmem)
      · intro data _ hreads
        cases call with
        | listWorkspaces => cases hbefore
        | listWorkspaceSessions input => cases hbefore
        | _ => cases hreads

/-! ## A workspace that is moved -/

/-- A registry with one workspace at most. -/
def singleRegistry (ws : Json) : WorkspaceRegistry where
  list := some (.arr [ws])
  get id := if isString (ws.get (js "id")) id then some ws else none
  keyed id ws' h := by
    split_ifs at h with hid
    rw [← Option.some.inj h]
    exact isString_iff.mp hid

def labAt (path : String) : WorkspaceRegistry :=
  singleRegistry (.obj [(js "id", .str (js "w1")), (js "path", .str (js path)),
    (js "title", .str (js "lab")), (js "sessionIds", .arr [])])

def projectsDirectory : FileName := ⟨js "projects", by decide⟩

def projectsEnv : PlatformEnv where
  cwd := []
  parent := [projectsDirectory]
  proper := by simp
  hasSpawn := true

def renameLab : AdminCall :=
  .renameWorkspace (.obj [(js "workspaceId", .str (js "w1")), (js "title", .str (js "New"))])

/-- The workspace moves out of the directory while the grant is awaited. -/
def movedWhileAwaited : (renameLab.program projectsEnv (labAt "/projects/lab")).Run where
  exchanges := [(.beginWrite (renameLab.context (js "w1") []), ⟨some .null, labAt "/opt/other"⟩)]
  follows := ⟨rfl, trivial⟩

theorem not_resolvesBelow_moved {id : JsString} {ws : Json}
    (hget : (labAt "/opt/other").get id = some ws) : ¬ResolvesBelow projectsEnv ws := by
  rintro ⟨path, rest, hpath, -, hresolve⟩
  unfold labAt singleRegistry at hget
  dsimp only at hget
  split_ifs at hget
  rw [← Option.some.inj hget] at hpath
  have htext : js "/opt/other" = path := Json.str.inj (Option.some.inj hpath)
  rw [← htext] at hresolve
  have hhead : (resolvePath [] (js "/opt/other")).head? = some projectsDirectory :=
    congrArg List.head? hresolve
  exact absurd hhead (by decide)

theorem movedWorkspace_renamed :
    ¬PlatformContained projectsEnv renameLab (labAt "/projects/lab")
      movedWhileAwaited.exchanges := by
  intro h
  obtain ⟨id, ws, -, hget, hbelow⟩ := stillBelow_of_contained rfl movedWhileAwaited h _ .null
    (labAt "/opt/other") (List.mem_singleton_self _)
  exact not_resolvesBelow_moved hget hbelow

end RemoteOps

import Mathlib.Data.List.DropRight
import RemoteOps.DeepHarness.PlatformAdmin
import RemoteOps.DeepHarness.Prompts

/-!
# The chat of a Lead

`readAuthorizedChat` of the host session reads the durable events of a session and shows the
texts of its user and assistant messages. What it shows depends on the conversation alone
(`messageOf`): event lists with the same messages and the same text parts at the same places
give one answer, and the answer is the last projections of the last 2000 events.
-/

namespace RemoteOps

open Ecma

/-! ## The host session -/

/-- The services of the host as one call finds them. A call that is rejected has no value. -/
structure HostSession where
  /-- `workspaceRegistry.get(workspaceId)` -/
  workspace : JsString → Option Json
  /-- `sessionController.projections({ sessionId })` -/
  projections : JsString → Option Json
  /-- `sessionController.inspect(sessionId)` -/
  inspect : JsString → Option Json

/-- `m && m.id === leadSessionId && m.role === "lead" && m.phase === "active"`. -/
def isActiveLead (leadSessionId : JsString) (m : Json) : Bool :=
  isString (m.get (js "id")) leadSessionId && isString (m.get (js "role")) (js "lead") &&
    isString (m.get (js "phase")) (js "active")

/-- A member that is `null` has no role to read, and the call throws. -/
def hasOneLead (leadSessionId : JsString) (members : List Json) : Bool :=
  decide ((members.filter (isActiveLead leadSessionId)).length = 1) && !members.any isNull &&
    decide ((members.filter fun m => isString (m.get (js "role")) (js "lead")).length = 1)

def isLeadOfTeam (leadSessionId : JsString) (v : Json) : Bool :=
  (v.get (js "failure")).isNone &&
    match v.get (js "members"), v.get (js "tasks") with
    | some (.arr members), some (.arr tasks) =>
        decide (1 ≤ members.length ∧ members.length ≤ 40 ∧ tasks.length ≤ 500) &&
          hasOneLead leadSessionId members
    | _, _ => false

/-- `team(auth)`, of which the chat needs the scope. -/
def leadTeam (host : HostSession) (auth : Json) : Option GrantIdentity := do
  let (scope, _) ← backendAuthority auth
  let workspace ← host.workspace scope.workspaceId
  let _ ← leadOf workspace (some (.str scope.leadSessionId))
  let projection ← host.projections scope.leadSessionId
  guard (isString (projection.get (js "kind")) (js "sequenced") = true)
  let _ ← safeIntegerOf (projection.get (js "asOfSeq"))
  let values ← projection.get (js "values")
  let v ← values.get (js "agentTeam")
  guard (isLeadOfTeam scope.leadSessionId v = true)
  return scope

/-! ## The projection of an event -/

inductive ChatRole where
  | user
  | assistant
  deriving DecidableEq

def ChatRole.text : ChatRole → JsString
  | user => js "user"
  | assistant => js "assistant"

def ChatRole.eventType : ChatRole → JsString
  | user => js "user/message"
  | assistant => js "assistant/message"

structure ChatMessage where
  role : ChatRole
  text : JsString
  deriving DecidableEq

/-- The role that the type of an event stands for. -/
def chatRole (event : Json) : Option ChatRole :=
  if isString (event.get (js "type")) ChatRole.user.eventType then some .user
  else if isString (event.get (js "type")) ChatRole.assistant.eventType then some .assistant
  else none

/-- `isUser ? event.data : event.data?.message`. -/
def ChatRole.payload (role : ChatRole) (event : Json) : Option Json :=
  match role with
  | user => event.get (js "data")
  | assistant => (event.get (js "data")).bind fun data => data.get (js "message")

def textPart (p : Json) : Option JsString :=
  if isString (p.get (js "type")) (js "text") then strOf (p.get (js "text")) else none

/-- The role of the message and its text parts. -/
def messageOf (event : Json) : Option (ChatRole × List JsString) := do
  let role ← chatRole event
  let message ← role.payload event
  guard (isString (message.get (js "role")) role.text = true)
  match message.get (js "content") with
  | some (.arr content) => return (role, content.filterMap textPart)
  | _ => none

/-- `parts.join("\n").slice(0, 1000)`. -/
def joinedText (parts : List JsString) : JsString := (join (js "\n") parts).take 1000

/-- What a turn of the loop pushes. -/
def projectMessage (event : Json) : Option ChatMessage :=
  match messageOf event with
  | some (role, parts) => if parts.isEmpty then none else some ⟨role, joinedText parts⟩
  | none => none

/-- The loop over the events; `none` is a denial. -/
def collectMessages : List Json → List ChatMessage → Option (List ChatMessage)
  | [], messages => some messages
  | event :: events, messages =>
      match projectMessage event with
      | none => collectMessages events messages
      | some message =>
          if 2000 < (messages ++ [message]).length then none
          else collectMessages events (messages ++ [message])

structure ChatView where
  workspaceId : JsString
  leadSessionId : JsString
  messages : List ChatMessage
  deriving DecidableEq

/-- The events of an inspection of this session. -/
def inspectedEvents (leadSessionId : JsString) (inspected : Json) : Option (List Json) :=
  match inspected.get (js "meta"), inspected.get (js "events") with
  | some found, some (.arr events) =>
      if isString (found.get (js "id")) leadSessionId ∧ events.length ≤ 30000 then some events
      else none
  | _, _ => none

/-- `auth.limit`. -/
def chatLimit (auth : Json) : Option ℕ := do
  let limit ← safeIntegerOf (auth.get (js "limit"))
  if 1 ≤ limit ∧ limit ≤ 20 then some limit.toNat else none

def readAuthorizedChat (host : HostSession) (auth : Json) : Option ChatView := do
  let scope ← leadTeam host auth
  let limit ← chatLimit auth
  let inspected ← host.inspect scope.leadSessionId
  let events ← inspectedEvents scope.leadSessionId inspected
  let messages ← collectMessages (events.rtake 2000) []
  return ⟨scope.workspaceId, scope.leadSessionId, messages.rtake limit⟩

/-! ## Events with the same conversation -/

/-- The event is a well-formed message of the role with these parts. -/
structure IsMessage (event : Json) (role : ChatRole) (content : List Json) : Prop where
  type : event.get (js "type") = some (.str role.eventType)
  payload : ∃ message, role.payload event = some message ∧
    message.get (js "role") = some (.str role.text) ∧
    message.get (js "content") = some (.arr content)

def WellFormed (event : Json) (role : ChatRole) : Prop := ∃ content, IsMessage event role content

/-- The text parts of a well-formed message; any other event has none. -/
def textParts (event : Json) : List JsString := ((messageOf event).map Prod.snd).getD []

/-- Two events agree on whether they are a well-formed user or assistant message and on the
text parts. -/
structure SameConversation (x y : Json) : Prop where
  user : WellFormed x .user ↔ WellFormed y .user
  assistant : WellFormed x .assistant ↔ WellFormed y .assistant
  parts : textParts x = textParts y

/-- Two inspections of one session, of which the events are alike. -/
structure AlikeInspections (x y : Json) : Prop where
  found : x.get (js "meta") = y.get (js "meta")
  events : ∃ xs ys, x.get (js "events") = some (.arr xs) ∧ y.get (js "events") = some (.arr ys) ∧
    List.Forall₂ SameConversation xs ys

/-- Hosts that differ in the events of their sessions only. -/
structure AlikeHosts (h h' : HostSession) : Prop where
  workspace : h.workspace = h'.workspace
  projections : h.projections = h'.projections
  inspect : ∀ sessionId, h.inspect sessionId = h'.inspect sessionId ∨
    ∃ x y, h.inspect sessionId = some x ∧ h'.inspect sessionId = some y ∧ AlikeInspections x y

theorem chatRole_eq_some_iff {event : Json} {role : ChatRole} :
    chatRole event = some role ↔ event.get (js "type") = some (.str role.eventType) := by
  have hne : ChatRole.user.eventType ≠ ChatRole.assistant.eventType := by decide
  rw [chatRole]
  split_ifs with huser hassistant
  · rw [isString_iff] at huser
    rw [huser]
    cases role <;> simp [hne]
  · rw [isString_iff] at huser hassistant
    rw [hassistant]
    cases role <;> simp [hne.symm]
  · rw [isString_iff] at huser hassistant
    cases role <;> simp [huser, hassistant]

/-- `messageOf` finds the well-formed messages. -/
theorem messageOf_eq_some_iff {event : Json} {role : ChatRole} {parts : List JsString} :
    messageOf event = some (role, parts) ↔
      ∃ content, IsMessage event role content ∧ content.filterMap textPart = parts := by
  constructor
  · intro h
    obtain ⟨role', hrole, h⟩ := Option.bind_eq_some_iff.mp h
    obtain ⟨message, hpayload, h⟩ := Option.bind_eq_some_iff.mp h
    obtain ⟨_, hguard, h⟩ := Option.bind_eq_some_iff.mp h
    have htext := (Option.guard_eq_some' _).mp hguard
    split at h
    · rename_i content hcontent
      obtain ⟨rfl, rfl⟩ := Prod.mk.inj (Option.some.inj h)
      exact ⟨content, ⟨chatRole_eq_some_iff.mp hrole, message, hpayload, isString_iff.mp htext,
        hcontent⟩, rfl⟩
    · cases h
  · rintro ⟨content, ⟨htype, message, hpayload, hrole, hcontent⟩, rfl⟩
    rw [messageOf, chatRole_eq_some_iff.mpr htype]
    simp [hpayload, hrole, hcontent, isString]

theorem wellFormed_iff {event : Json} {role : ChatRole} :
    WellFormed event role ↔ ∃ parts, messageOf event = some (role, parts) := by
  simp only [messageOf_eq_some_iff, WellFormed]
  constructor
  · rintro ⟨content, h⟩
    exact ⟨_, content, h, rfl⟩
  · rintro ⟨_, content, h, -⟩
    exact ⟨content, h⟩

theorem messageOf_congr {x y : Json} (h : SameConversation x y) : messageOf x = messageOf y := by
  have hparts := h.parts
  rw [textParts, textParts] at hparts
  have hrole : ∀ role, (∃ parts, messageOf x = some (role, parts)) ↔
      ∃ parts, messageOf y = some (role, parts) := by
    intro role
    rw [← wellFormed_iff, ← wellFormed_iff]
    cases role with
    | user => exact h.user
    | assistant => exact h.assistant
  cases hx : messageOf x with
  | some found =>
      obtain ⟨role, parts⟩ := found
      obtain ⟨parts', hy⟩ := (hrole role).mp ⟨parts, hx⟩
      rw [hx, hy] at hparts
      have hsame : parts = parts' := hparts
      rw [hy, hsame]
  | none =>
      cases hy : messageOf y with
      | none => rfl
      | some found =>
          obtain ⟨role, parts⟩ := found
          obtain ⟨parts', hx'⟩ := (hrole role).mpr ⟨parts, hy⟩
          rw [hx] at hx'
          cases hx'

/-! ## What the loop collects -/

theorem collectMessages_eq (events : List Json) (messages : List ChatMessage)
    (h : messages.length + events.length ≤ 2000) :
    collectMessages events messages = some (messages ++ events.filterMap projectMessage) := by
  induction events generalizing messages with
  | nil => simp [collectMessages]
  | cons event events ih =>
      rw [List.length_cons] at h
      rw [collectMessages, List.filterMap_cons]
      cases projectMessage event with
      | none => exact ih messages (by omega)
      | some message =>
          have hlength : (messages ++ [message]).length = messages.length + 1 := by simp
          dsimp only
          rw [if_neg (by omega), ih _ (by omega), List.append_assoc]
          rfl

theorem length_rtake (n : ℕ) {α : Type*} (xs : List α) : (xs.rtake n).length = min n xs.length := by
  rw [List.rtake, List.length_drop]
  omega

/-- The loop over the last 2000 events is never denied. -/
theorem collectMessages_rtake (events : List Json) :
    collectMessages (events.rtake 2000) [] =
      some ((events.rtake 2000).filterMap projectMessage) := by
  rw [collectMessages_eq _ _ (by rw [length_rtake, List.length_nil]; omega), List.nil_append]

theorem projectMessage_congr {x y : Json} (h : SameConversation x y) :
    projectMessage x = projectMessage y := by
  rw [projectMessage, projectMessage, messageOf_congr h]

theorem filterMap_congr_of_forall₂ {α β : Type*} {f : α → Option β} {related : α → α → Prop}
    (hf : ∀ x y, related x y → f x = f y) {xs ys : List α} (h : List.Forall₂ related xs ys) :
    xs.filterMap f = ys.filterMap f := by
  induction h with
  | nil => rfl
  | cons hxy _ ih => rw [List.filterMap_cons, List.filterMap_cons, hf _ _ hxy, ih]

theorem forall₂_rtake {α : Type*} {related : α → α → Prop} {xs ys : List α} (n : ℕ)
    (h : List.Forall₂ related xs ys) : List.Forall₂ related (xs.rtake n) (ys.rtake n) := by
  rw [List.rtake, List.rtake, h.length_eq]
  exact List.forall₂_drop _ h

/-! ## Noninterference and exactness -/

theorem leadTeam_congr {h h' : HostSession} (halike : AlikeHosts h h') (auth : Json) :
    leadTeam h auth = leadTeam h' auth := by
  unfold leadTeam
  rw [halike.workspace, halike.projections]

/-- The projections of the last events of an inspection. -/
def projectedEvents (leadSessionId : JsString) (inspected : Json) : Option (List ChatMessage) :=
  (inspectedEvents leadSessionId inspected).map fun events =>
    (events.rtake 2000).filterMap projectMessage

theorem readAuthorizedChat_eq (host : HostSession) (auth : Json) :
    readAuthorizedChat host auth = (do
      let scope ← leadTeam host auth
      let limit ← chatLimit auth
      let inspected ← host.inspect scope.leadSessionId
      let messages ← projectedEvents scope.leadSessionId inspected
      return ⟨scope.workspaceId, scope.leadSessionId, messages.rtake limit⟩) := by
  rw [readAuthorizedChat]
  congr 1
  funext scope
  congr 1
  funext limit
  congr 1
  funext inspected
  rw [projectedEvents]
  cases inspectedEvents scope.leadSessionId inspected with
  | none => rfl
  | some events =>
      rw [Option.bind_eq_bind, Option.bind_some, collectMessages_rtake]
      rfl

theorem projectedEvents_congr {x y : Json} (h : AlikeInspections x y) (leadSessionId : JsString) :
    projectedEvents leadSessionId x = projectedEvents leadSessionId y := by
  obtain ⟨xs, ys, hx, hy, hsame⟩ := h.events
  rw [projectedEvents, projectedEvents, inspectedEvents, inspectedEvents, h.found, hx, hy]
  cases y.get (js "meta") with
  | none => rfl
  | some found =>
      dsimp only
      rw [hsame.length_eq]
      split_ifs
      · rw [Option.map_some, Option.map_some,
          filterMap_congr_of_forall₂ (fun _ _ h => projectMessage_congr h)
            (forall₂_rtake 2000 hsame)]
      · rfl

theorem readAuthorizedChat_congr {h h' : HostSession} (halike : AlikeHosts h h') (auth : Json) :
    readAuthorizedChat h auth = readAuthorizedChat h' auth := by
  rw [readAuthorizedChat_eq, readAuthorizedChat_eq, leadTeam_congr halike]
  congr 1
  funext scope
  congr 1
  funext limit
  rcases halike.inspect scope.leadSessionId with hsame | ⟨x, y, hx, hy, hevents⟩
  · rw [hsame]
  · rw [hx, hy, Option.bind_eq_bind, Option.bind_some, Option.bind_some,
      projectedEvents_congr hevents]

/-- The call is let through to the events of the session. -/
structure Inspects (host : HostSession) (auth : Json) (scope : GrantIdentity) (limit : ℕ)
    (events : List Json) : Prop where
  team : leadTeam host auth = some scope
  limit : chatLimit auth = some limit
  inspected : ∃ x found, host.inspect scope.leadSessionId = some x ∧
    x.get (js "meta") = some found ∧ found.get (js "id") = some (.str scope.leadSessionId) ∧
    x.get (js "events") = some (.arr events)

theorem readAuthorizedChat_of_inspects {host : HostSession} {auth : Json} {scope : GrantIdentity}
    {limit : ℕ} {events : List Json} (h : Inspects host auth scope limit events)
    (hlength : events.length ≤ 30000) :
    readAuthorizedChat host auth = some ⟨scope.workspaceId, scope.leadSessionId,
      ((events.rtake 2000).filterMap projectMessage).rtake limit⟩ := by
  obtain ⟨x, found, hx, hmeta, hid, hevents⟩ := h.inspected
  have hinspected : inspectedEvents scope.leadSessionId x = some events := by
    rw [inspectedEvents, hmeta, hevents]
    exact if_pos ⟨isString_iff.mpr hid, hlength⟩
  rw [readAuthorizedChat_eq, h.team, h.limit]
  simp [hx, projectedEvents, hinspected]

/-- A projection is the beginning of the joined text parts of a well-formed message that has
some. -/
theorem projectMessage_eq_some_iff {event : Json} {message : ChatMessage} :
    projectMessage event = some message ↔
      ∃ content, IsMessage event message.role content ∧ content.filterMap textPart ≠ [] ∧
        message.text = (join (js "\n") (content.filterMap textPart)).take 1000 := by
  rw [projectMessage]
  constructor
  · intro h
    split at h
    · rename_i role parts hmessage
      obtain ⟨content, hcontent, rfl⟩ := messageOf_eq_some_iff.mp hmessage
      split_ifs at h with hempty
      obtain rfl := Option.some.inj h
      exact ⟨content, hcontent, by simpa using hempty, rfl⟩
    · cases h
  · rintro ⟨content, hcontent, hne, htext⟩
    rw [messageOf_eq_some_iff.mpr ⟨content, hcontent, rfl⟩]
    dsimp only
    rw [if_neg (by simpa using hne), joinedText, ← htext]

/-- The chat depends on the conversation only, and is the last `limit` of the projections of
the last 2000 events. -/
theorem readAuthorizedChat_spec (host : HostSession) (auth : Json) :
    (∀ host', AlikeHosts host host' →
      readAuthorizedChat host auth = readAuthorizedChat host' auth) ∧
    ∀ scope limit events, Inspects host auth scope limit events → events.length ≤ 30000 →
      ∃ view, readAuthorizedChat host auth = some view ∧
        view.messages = ((events.rtake 2000).filterMap projectMessage).rtake limit ∧
        ∀ message ∈ view.messages, ∃ event ∈ events.rtake 2000, ∃ content,
          IsMessage event message.role content ∧ content.filterMap textPart ≠ [] ∧
            message.text <+: join (js "\n") (content.filterMap textPart) ∧
            message.text.length ≤ 1000 := by
  refine ⟨fun host' halike => readAuthorizedChat_congr halike auth, ?_⟩
  intro scope limit events hinspects hlength
  refine ⟨_, readAuthorizedChat_of_inspects hinspects hlength, rfl, ?_⟩
  intro message hmessage
  have hmem := (List.drop_sublist _ _).subset hmessage
  obtain ⟨event, hevent, hproject⟩ := List.mem_filterMap.mp hmem
  obtain ⟨content, hcontent, hne, htext⟩ := projectMessage_eq_some_iff.mp hproject
  refine ⟨event, hevent, content, hcontent, hne, ?_, ?_⟩
  · rw [htext]
    exact List.take_prefix _ _
  · rw [htext]
    exact List.length_take_le _ _

/-! ## The session of a small host -/

theorem sameConversation_of_eq {x y : Json} (h : messageOf x = messageOf y) :
    SameConversation x y := by
  refine ⟨?_, ?_, by rw [textParts, textParts, h]⟩
  · rw [wellFormed_iff, wellFormed_iff, h]
  · rw [wellFormed_iff, wellFormed_iff, h]

def chatAuth : Json :=
  .obj (sampleCaller ++
    [(js "leadSessionId", .str (js "lead")),
      (js "revision", .str (js "0b0e7a5c-3f7b-4c59-8a44-2f6d0f3c9e11")),
      (js "limit", .num (.ofInt 1 inRange_one))])

def textEvent (type role text : String) : Json :=
  .obj [(js "type", .str (js type)),
    (js "data", .obj [(js "role", .str (js role)),
      (js "content", .arr [.obj [(js "type", .str (js "text")), (js "text", .str (js text))]])])]

/-- A Lead that is alone in its team. -/
def chatHost (events : List Json) : HostSession where
  workspace _ := some (.obj [(js "sessionIds", .arr [.str (js "lead")])])
  projections _ := some (.obj [(js "kind", .str (js "sequenced")),
    (js "asOfSeq", .num (.ofInt 1 inRange_one)),
    (js "values", .obj [(js "agentTeam", .obj
      [(js "members", .arr [.obj [(js "id", .str (js "lead")), (js "role", .str (js "lead")),
        (js "phase", .str (js "active"))]]), (js "tasks", .arr [])])])])
  inspect _ := some (.obj [(js "meta", .obj [(js "id", .str (js "lead"))]),
    (js "events", .arr events)])

/-- A system prompt in front of a message of the user. -/
def chatEvents (prompt : String) : List Json :=
  [textEvent "system/message" "system" prompt, textEvent "user/message" "user" "Hello"]

theorem readAuthorizedChat_sample :
    readAuthorizedChat (chatHost (chatEvents "one")) chatAuth =
        readAuthorizedChat (chatHost (chatEvents "two")) chatAuth ∧
      ∃ view, readAuthorizedChat (chatHost (chatEvents "one")) chatAuth = some view ∧
        view.messages = [⟨.user, js "Hello"⟩] := by
  have hspec := readAuthorizedChat_spec (chatHost (chatEvents "one")) chatAuth
  constructor
  · apply hspec.1
    refine ⟨rfl, rfl, fun _ => Or.inr ⟨_, _, rfl, rfl, rfl, _, _, rfl, rfl, ?_⟩⟩
    exact .cons (sameConversation_of_eq (by decide)) (.cons (sameConversation_of_eq rfl) .nil)
  · have hteam : (leadTeam (chatHost (chatEvents "one")) chatAuth).map
        (fun scope => scope.leadSessionId) = some (js "lead") := by decide +kernel
    obtain ⟨scope, hscope, hlead⟩ := Option.map_eq_some_iff.mp hteam
    have hinspects : Inspects (chatHost (chatEvents "one")) chatAuth scope 1 (chatEvents "one") :=
      ⟨hscope, by decide +kernel, _, _, rfl, rfl, by rw [hlead]; rfl, rfl⟩
    obtain ⟨view, hview, hmessages, -⟩ := hspec.2 _ _ _ hinspects (by decide)
    exact ⟨view, hview, hmessages.trans (by decide)⟩

end RemoteOps

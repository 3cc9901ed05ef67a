import RemoteOps.DeepHarness.GrantStore
import RemoteOps.Transition.Machine

/-!
# The semantic policy over the grant store

A read of the policy looks the grant of the caller up, awaits the backend, and looks it
up again before it returns what the backend said.

`grantWorld` is the machine of one grant file and of the processes that use it one
after the other. Whatever is awaited (the turn of a queued operation, the
acknowledgement of `submit`, the answer of the backend) is an input, so that anything
may come in between.
-/

namespace RemoteOps

open Ecma Transition

/-! ## The policy -/

structure Principal where
  actor : JsString
  clientId : JsString
  sessionId : JsString
  deriving DecidableEq

structure Scope where
  workspaceId : JsString
  leadSessionId : JsString
  deriving DecidableEq

structure Authority where
  principal : Principal
  scope : Scope
  action : JsString
  revision : JsString
  deriving DecidableEq

def scopeOf (input : Json) : Option Scope := do
  let workspaceId ← strOf (input.get (js "workspaceId"))
  let leadSessionId ← strOf (input.get (js "leadSessionId"))
  if validId workspaceId ∧ validId leadSessionId then some ⟨workspaceId, leadSessionId⟩ else none

def principalOf (trusted : Json) : Option Principal := do
  let actor ← strOf (trusted.get (js "actor"))
  let clientId ← strOf (trusted.get (js "clientId"))
  let sessionId ← strOf (trusted.get (js "sessionId"))
  if startsWith actor (js "oauth:") ∧ validId clientId ∧ validId sessionId ∧
      actor = oauthActor clientId sessionId then
    some ⟨actor, clientId, sessionId⟩
  else none

/-- `Object.freeze({...principal, ...scope})`. -/
def lookupInput (principal : Principal) (scope : Scope) : Json :=
  .obj
    [(js "actor", .str principal.actor), (js "clientId", .str principal.clientId),
      (js "sessionId", .str principal.sessionId), (js "workspaceId", .str scope.workspaceId),
      (js "leadSessionId", .str scope.leadSessionId)]

/-- The grant is the one of the caller and the Lead, and allows the action. -/
structure Matches (grant : CurrentGrant) (principal : Principal) (scope : Scope)
    (action : JsString) : Prop where
  actor : grant.identity.actor = principal.actor
  clientId : grant.identity.clientId = principal.clientId
  sessionId : grant.identity.sessionId = principal.sessionId
  workspaceId : grant.identity.workspaceId = scope.workspaceId
  leadSessionId : grant.identity.leadSessionId = scope.leadSessionId
  action : action ∈ grant.actions
  known : ∀ a ∈ grant.actions, a ∈ grantActions
  revision : validId grant.revision = true

theorem matches_iff (grant : CurrentGrant) (principal : Principal) (scope : Scope)
    (action : JsString) :
    Matches grant principal scope action ↔
      grant.identity.actor = principal.actor ∧ grant.identity.clientId = principal.clientId ∧
        grant.identity.sessionId = principal.sessionId ∧
          grant.identity.workspaceId = scope.workspaceId ∧
            grant.identity.leadSessionId = scope.leadSessionId ∧ action ∈ grant.actions ∧
              (∀ a ∈ grant.actions, a ∈ grantActions) ∧ validId grant.revision = true :=
  ⟨fun h => ⟨h.actor, h.clientId, h.sessionId, h.workspaceId, h.leadSessionId, h.action, h.known,
    h.revision⟩, fun ⟨h1, h2, h3, h4, h5, h6, h7, h8⟩ => ⟨h1, h2, h3, h4, h5, h6, h7, h8⟩⟩

instance decidableMatches (grant : CurrentGrant) (principal : Principal) (scope : Scope)
    (action : JsString) : Decidable (Matches grant principal scope action) :=
  decidable_of_iff _ (matches_iff grant principal scope action).symm

def validateGrant (grant : Option CurrentGrant) (principal : Principal) (scope : Scope)
    (action : JsString) : Option Authority :=
  match grant with
  | none => none
  | some grant =>
      if Matches grant principal scope action then
        some ⟨principal, scope, action, grant.revision⟩
      else none

def authority (h : HexDigest) (trusted input : Json) (action : JsString) (s : GrantStore) :
    Option Authority := do
  let principal ← principalOf trusted
  let scope ← scopeOf input
  let grant ← lookupCurrentGrant h (lookupInput principal scope) s
  validateGrant grant principal scope action

def recheck (h : HexDigest) (expected : Authority) (s : GrantStore) : Bool :=
  match lookupCurrentGrant h (lookupInput expected.principal expected.scope) s with
  | none => false
  | some fresh =>
      match validateGrant fresh expected.principal expected.scope expected.action with
      | none => false
      | some found => found.revision = expected.revision

inductive ReadKind where
  | team
  | chat
  deriving DecidableEq

/-- `readTeam` and `readChat` up to the call of the backend. -/
def startRead (h : HexDigest) (kind : ReadKind) (trusted input : Json) (s : GrantStore) :
    Option Authority :=
  match kind with
  | .team => authority h trusted input (js "team.read") s
  | .chat =>
      match authority h trusted input (js "chat.read") s with
      | none => none
      | some auth =>
          match input.get (js "limit") with
          | some (.num n) =>
              match n.toInt? with
              | some limit => if 1 ≤ limit ∧ limit ≤ 20 then some auth else none
              | none => none
          | _ => none

/-! ## The machine -/

inductive StoreCall where
  | putGrant (input : Json)
  | revokeGrant (input : Json)
  | withAuthorizedLeadCommit (input : Json) (submits : Bool)

/-- A commit that awaits `submit`. -/
structure CommitInFlight where
  call : ℕ
  request : CommitRequest
  delivery : Delivery

structure GrantWorld where
  store : GrantStore := ⟨none, GrantState.empty, false⟩
  /-- whether there is a process with a store -/
  running : Bool := false
  queue : List (ℕ × StoreCall) := []
  inFlight : Option CommitInFlight := none
  /-- the reads that await the backend -/
  reads : List (ℕ × Authority) := []
  /-- the calls so far, by which they are numbered -/
  calls : ℕ := 0

inductive GrantInput where
  | call (c : StoreCall)
  /-- the next operation of the queue begins -/
  | turn (env : TurnEnv)
  /-- `submit` settles; whether with `accepted: true` -/
  | acknowledged (accepted : Bool) (now : SafeInt) (persist : PersistOutcome)
  | lookup (input : Json)
  | list (input : Json)
  | read (kind : ReadKind) (trusted input : Json)
  /-- the backend answers a read, or fails -/
  | answered (read : ℕ) (result : Option Json)
  /-- the process ends, and a new one creates its store -/
  | restart (persist : PersistOutcome)

inductive GrantEvent where
  | rejected (call : ℕ)
  | put (call : ℕ) (grant : Grant)
  | revoked (call : ℕ) (done : Bool)
  | submitted (request : CommitRequest)
  | committed (request : CommitRequest) (receipt : CommitReceipt)
  | looked (result : Option (Option CurrentGrant))
  | listed (rows : Option (List LeadRow))
  | refused (read : ℕ)
  | disclosed (read : ℕ) (auth : Authority) (data : Json)

/-- `createPersistentDshGrantStore`, and whether it returned. -/
def createStore (file : Option GrantState) (persist : PersistOutcome) : Bool × GrantStore :=
  match file with
  | none => GrantStore.save ⟨none, GrantState.empty, false⟩ GrantState.empty persist
  | some state =>
      match loadText state.fileText with
      | none => (false, ⟨some state, GrantState.empty, false⟩)
      | some loaded => (true, ⟨some state, loaded, false⟩)

/-- One operation of the queue, up to its end or to the call of `submit`. -/
def runCall (h : HexDigest) (n : ℕ) (c : StoreCall) (env : TurnEnv) (s : GrantStore) :
    List GrantEvent × GrantStore × Option CommitInFlight :=
  if s.faulted then ([.rejected n], s, none)
  else
    match c with
    | .putGrant input =>
        match putGrant h input env s with
        | (some grant, s) => ([.put n grant], s, none)
        | (none, s) => ([.rejected n], s, none)
    | .revokeGrant input =>
        match revokeGrant h input env s with
        | (some done, s) => ([.revoked n done], s, none)
        | (none, s) => ([.rejected n], s, none)
    | .withAuthorizedLeadCommit input submits =>
        match readRequest input submits with
        | none => ([.rejected n], s, none)
        | some request =>
            match startCommit h request env s with
            | (.denied, s) => ([.rejected n], s, none)
            | (.duplicate receipt, s) => ([.committed request receipt], s, none)
            | (.submitted delivery, s) => ([.submitted request], s, some ⟨n, request, delivery⟩)

def GrantWorld.turn (h : HexDigest) (env : TurnEnv) (w : GrantWorld) :
    List GrantEvent × GrantWorld :=
  match w.inFlight, w.queue with
  | none, (n, c) :: queue =>
      let (events, store, inFlight) := runCall h n c env w.store
      (events, { w with queue := queue, store := store, inFlight := inFlight })
  | _, _ => ([], w)

def GrantWorld.acknowledge (h : HexDigest) (accepted : Bool) (now : SafeInt)
    (persist : PersistOutcome) (w : GrantWorld) : List GrantEvent × GrantWorld :=
  match w.inFlight with
  | none => ([], w)
  | some c =>
      match finishCommit h c.request c.delivery accepted now persist w.store with
      | (some receipt, s) =>
          ([.committed c.request receipt], { w with store := s, inFlight := none })
      | (none, s) => ([.rejected c.call], { w with store := s, inFlight := none })

def GrantWorld.answer (h : HexDigest) (n : ℕ) (result : Option Json) (w : GrantWorld) :
    List GrantEvent × GrantWorld :=
  match w.reads.find? fun r => r.1 = n with
  | none => ([], w)
  | some read =>
      let settled := { w with reads := w.reads.filter fun r => r.1 ≠ n }
      match result with
      | none => ([.refused n], settled)
      | some data =>
          if recheck h read.2 w.store then ([.disclosed n read.2 data], settled)
          else ([.refused n], settled)

def GrantWorld.restart (persist : PersistOutcome) (w : GrantWorld) : GrantWorld :=
  let (running, store) := createStore w.store.file persist
  { store := store, running := running, calls := w.calls }

/-- Without a process only a restart does anything. -/
def GrantInput.step (h : HexDigest) (w : GrantWorld) : GrantInput → List GrantEvent × GrantWorld
  | .restart persist => ([], w.restart persist)
  | .call c =>
      if !w.running then ([], w)
      else ([], { w with queue := w.queue ++ [(w.calls, c)], calls := w.calls + 1 })
  | .turn env => if !w.running then ([], w) else w.turn h env
  | .acknowledged accepted now persist =>
      if !w.running then ([], w) else w.acknowledge h accepted now persist
  | .lookup input => if !w.running then ([], w) else ([.looked (lookupCurrentGrant h input w.store)], w)
  | .list input => if !w.running then ([], w) else ([.listed (listCurrentLeadGrants input w.store)], w)
  | .read kind trusted input =>
      if !w.running then ([], w)
      else
        let called := { w with calls := w.calls + 1 }
        match startRead h kind trusted input w.store with
        | none => ([.refused w.calls], called)
        | some auth => ([], { called with reads := w.reads ++ [(w.calls, auth)] })
  | .answered n result => if !w.running then ([], w) else w.answer h n result

/-- There is no file and no process at first. -/
def grantWorld (h : HexDigest) : Machine GrantWorld GrantInput (List GrantEvent) where
  start := {}
  step := GrantInput.step h

end RemoteOps

import Mathlib.Data.List.Sort
import RemoteOps.DeepHarness.GrantFile

/-!
# The grant store

One process holds the state in memory and writes the whole of it to the file before an
operation succeeds. `putGrant`, `revokeGrant` and `withAuthorizedLeadCommit` go through
a queue, one after the other; a commit keeps the queue waiting while it awaits
`submit`. The lookups do not queue: they read the memory when they are called.
`faulted` is set when a write has failed, perhaps after the file was replaced.
-/

namespace RemoteOps

open Ecma

/-! ## The store object -/

inductive PersistOutcome where
  | written
  /-- an exception up to and including the rename -/
  | failedBefore
  /-- an exception after the rename -/
  | failedAfter
  deriving DecidableEq

/-- What one turn of an operation draws: a name, two clock readings, and the end of its
write. -/
structure TurnEnv where
  uuid : Uuid
  now : SafeInt
  later : SafeInt
  persist : PersistOutcome

/-- The store of a process, with its file. -/
structure GrantStore where
  file : Option GrantState
  state : GrantState
  faulted : Bool

/-- `save(next)`, and whether it returned. -/
def GrantStore.save (s : GrantStore) (next : GrantState) (outcome : PersistOutcome) :
    Bool × GrantStore :=
  match outcome with
  | .written => (true, { s with file := some next, state := next })
  | .failedBefore => (false, { s with faulted := true })
  | .failedAfter => (false, { s with file := some next, faulted := true })

structure CommitReceipt where
  grantRevision : JsString
  receiptId : JsString
  duplicate : Bool
  deriving DecidableEq

/-! ### Grants -/

/-- `[...actions].sort()`. -/
def sortActions (actions : List JsString) : List JsString := actions.insertionSort (· ≤ ·)

theorem validActions_sortActions {actions : List JsString} (h : validActions actions = true) :
    validActions (sortActions actions) = true := by
  have hperm : (sortActions actions).Perm actions := List.perm_insertionSort _ actions
  simp only [validActions, Bool.and_eq_true, Bool.not_eq_true', List.isEmpty_eq_false_iff,
    decide_eq_true_eq, List.all_eq_true] at h ⊢
  obtain ⟨⟨hne, hknown⟩, hnodup⟩ := h
  refine ⟨⟨fun hnil => hne ?_, fun a ha => hknown a (hperm.mem_iff.mp ha)⟩,
    hperm.nodup_iff.mpr hnodup⟩
  rw [hnil] at hperm
  exact hperm.nil_eq.symm

def newGrant (identity : GrantIdentity) (actions : { xs : List JsString // validActions xs = true })
    (env : TurnEnv) : Grant where
  identity := identity
  actions := sortActions actions.1
  actionsValid := validActions_sortActions actions.2
  revision := env.uuid.text
  revisionValid := validId_of_isUuid env.uuid.isUuid
  updatedAt := env.now
  revokedAt := none

def putGrant (h : HexDigest) (input : Json) (env : TurnEnv) (s : GrantStore) :
    Option Grant × GrantStore :=
  match identityOf input, readActions (input.get (js "actions")) with
  | some identity, some actions =>
      let key := identityKey h identity.toIdentityFields
      if (s.state.grants.get? key).isNone ∧ maxGrants ≤ s.state.grants.size then (none, s)
      else
        let grant := newGrant identity actions env
        let (saved, s) := s.save { s.state with grants := s.state.grants.set key grant } env.persist
        (if saved then some grant else none, s)
  | _, _ => (none, s)

def revokedGrant (current : Grant) (env : TurnEnv) : Grant :=
  { current with
    revision := env.uuid.text
    revisionValid := validId_of_isUuid env.uuid.isUuid
    updatedAt := env.now
    revokedAt := some env.later }

/-- `none` is a rejection. -/
def revokeGrant (h : HexDigest) (input : Json) (env : TurnEnv) (s : GrantStore) :
    Option Bool × GrantStore :=
  match identityOf input with
  | none => (none, s)
  | some identity =>
      let key := identityKey h identity.toIdentityFields
      match s.state.grants.get? key with
      | none => (some false, s)
      | some current =>
          if current.revokedAt.isSome then (some false, s)
          else
            let (saved, s) := s.save
              { s.state with grants := s.state.grants.set key (revokedGrant current env) }
              env.persist
            (if saved then some true else none, s)

/-! ### Lookups -/

structure CurrentGrant where
  identity : GrantIdentity
  actions : List JsString
  revision : JsString
  deriving DecidableEq

/-- `none` is a rejection, `some none` is `null`. -/
def lookupCurrentGrant (h : HexDigest) (input : Json) (s : GrantStore) :
    Option (Option CurrentGrant) :=
  if s.faulted then none
  else
    match identityOf input with
    | none => none
    | some identity =>
        match s.state.grants.get? (identityKey h identity.toIdentityFields) with
        | none => some none
        | some grant =>
            if grant.revokedAt.isSome ∨ grant.identity ≠ identity then some none
            else some (some ⟨identity, grant.actions, grant.revision⟩)

structure LeadRow where
  workspaceId : JsString
  leadSessionId : JsString
  revision : JsString
  deriving DecidableEq

/-- The caller of `listCurrentLeadGrants`; `none` is a rejection. -/
def readLister (input : Json) : Option (JsString × JsString × JsString × JsString) := do
  let actor ← strOf (input.get (js "actor"))
  let clientId ← strOf (input.get (js "clientId"))
  let sessionId ← strOf (input.get (js "sessionId"))
  let workspaceId ← strOf (input.get (js "workspaceId"))
  if validId actor ∧ validId clientId ∧ validId sessionId ∧ validId workspaceId ∧
      actor = oauthActor clientId sessionId ∧
        strOf (input.get (js "action")) = some (js "team.read") then
    some (actor, clientId, sessionId, workspaceId)
  else none

def listCurrentLeadGrants (input : Json) (s : GrantStore) : Option (List LeadRow) :=
  match readLister input with
  | none => none
  | some (actor, clientId, sessionId, workspaceId) =>
      some
        ((s.state.grants.values.filter fun grant =>
            grant.revokedAt.isNone && grant.identity.actor = actor &&
              grant.identity.clientId = clientId && grant.identity.sessionId = sessionId &&
                grant.identity.workspaceId = workspaceId &&
                  grant.actions.contains (js "team.read")).map
          fun grant =>
            ⟨grant.identity.workspaceId, grant.identity.leadSessionId, grant.revision⟩)

/-! ### Commits -/

/-- What `withAuthorizedLeadCommit` reads of its input. -/
structure CommitRequest where
  identity : GrantIdentity
  revision : JsString
  idempotencyKey : JsString
  payloadHash : { hash : JsString // isHash hash = true }
  deriving DecidableEq

/-- `submits` says whether `submit` is a function. -/
def readRequest (input : Json) (submits : Bool) : Option CommitRequest := do
  let identity ← identityOf input
  let action ← strOf (input.get (js "action"))
  let revision ← strOf (input.get (js "revision"))
  let idempotencyKey ← strOf (input.get (js "idempotencyKey"))
  let payloadHash ← (strOf (input.get (js "payloadHash"))).bind (checked isHash)
  if action = js "lead.instruct" ∧ validId revision ∧ isUuid idempotencyKey ∧ submits then
    some ⟨identity, revision, idempotencyKey, payloadHash⟩
  else none

def CommitRequest.key (h : HexDigest) (r : CommitRequest) : JsString :=
  deliveryKey h r.identity.toIdentityFields r.idempotencyKey

/-- The grant of the identity allows instructions and has the given revision. -/
def instructGrant (h : HexDigest) (r : CommitRequest) (state : GrantState) : Option Grant :=
  match state.grants.get? (identityKey h r.identity.toIdentityFields) with
  | none => none
  | some grant =>
      if grant.revokedAt.isSome ∨ js "lead.instruct" ∉ grant.actions ∨
          grant.revision ≠ r.revision then none
      else some grant

/-- `receipt_${crypto.randomUUID()}`. -/
def receiptOf (uuid : Uuid) : JsString := js "receipt_" ++ uuid.text

theorem validId_receiptOf (uuid : Uuid) : validId (receiptOf uuid) = true := by
  obtain ⟨hall, hlength⟩ := isIdTail_of_isUuid uuid.isUuid
  have hreceipt : receiptOf uuid = unit 'r' :: (js "eceipt_" ++ uuid.text) := rfl
  have hprefix : ∀ u ∈ js "eceipt_", isIdTail u = true := List.all_eq_true.mp (by decide)
  rw [hreceipt, validId, matchesHeadTail]
  refine Bool.and_eq_true_iff.mpr ⟨by decide, matchesClass_iff.mpr ⟨fun u hu => ?_, ?_⟩⟩
  · rcases List.mem_append.mp hu with hu | hu
    · exact hprefix u hu
    · exact List.all_eq_true.mp hall u hu
  · rw [List.length_append, hlength]
    decide

def newDelivery (r : CommitRequest) (grant : Grant) (env : TurnEnv) : Delivery where
  identity := r.identity.toIdentityFields
  payloadHash := r.payloadHash.1
  payloadHashValid := r.payloadHash.2
  grantRevision := grant.revision
  grantRevisionValid := grant.revisionValid
  status := .pending
  receiptId := receiptOf env.uuid
  receiptIdValid := validId_receiptOf env.uuid
  createdAt := env.now
  acceptedAt := none

/-- How the first turn of a commit ends. -/
inductive CommitStart where
  | denied
  | duplicate (receipt : CommitReceipt)
  /-- `submit` is called -/
  | submitted (delivery : Delivery)

/-- `withAuthorizedLeadCommit` up to the call of `submit`. -/
def startCommit (h : HexDigest) (r : CommitRequest) (env : TurnEnv) (s : GrantStore) :
    CommitStart × GrantStore :=
  match instructGrant h r s.state with
  | none => (.denied, s)
  | some grant =>
      match s.state.deliveries.get? (r.key h) with
      | some previous =>
          if previous.payloadHash ≠ r.payloadHash.1 ∨ previous.grantRevision ≠ grant.revision then
            (.denied, s)
          else
            match previous.status with
            | .accepted => (.duplicate ⟨grant.revision, previous.receiptId, true⟩, s)
            | .pending => (.submitted previous, s)
      | none =>
          if maxDeliveries ≤ s.state.deliveries.size then (.denied, s)
          else
            let delivery := newDelivery r grant env
            let (saved, s) := s.save
              { s.state with deliveries := s.state.deliveries.set (r.key h) delivery } env.persist
            (if saved then .submitted delivery else .denied, s)

def acceptedDelivery (delivery : Delivery) (now : SafeInt) : Delivery :=
  { delivery with status := .accepted, acceptedAt := some now }

/-- The rest of `withAuthorizedLeadCommit`; `acknowledged` says whether `submit` resolved
with `accepted: true`. -/
def finishCommit (h : HexDigest) (r : CommitRequest) (delivery : Delivery) (acknowledged : Bool)
    (now : SafeInt) (persist : PersistOutcome) (s : GrantStore) :
    Option CommitReceipt × GrantStore :=
  if !acknowledged then (none, s)
  else
    match instructGrant h r s.state with
    | none => (none, s)
    | some grant =>
        let (saved, s) := s.save
          { s.state with
            deliveries := s.state.deliveries.set (r.key h) (acceptedDelivery delivery now) }
          persist
        (if saved then some ⟨grant.revision, delivery.receiptId, false⟩ else none, s)

end RemoteOps

import RemoteOps.Auth.Credentials
import RemoteOps.Config.TargetApprovals

/-!
# Approvals and the sessions that prepared them

A tool call comes with a bearer token, and `requireBearer` makes the actor of the call from
the client and the first twelve units of the session id. An approval belongs to the actor
who prepared it. Five of the twelve units are the same in every session id, so that two
sessions of a client may be one actor.

The control plane is the OAuth store, the registry and the three tables of approvals. The
devices are set from outside, as pairings, heartbeats and revocations leave them.
-/

namespace RemoteOps

open Ecma Transition

/-- `` `oauth:${cid}:${sid.slice(0, 12)}` ``. -/
def actorOf (clientId sessionId : JsString) : JsString :=
  js "oauth:" ++ clientId ++ js ":" ++ sessionId.take 12

/-! ## The control plane -/

structure ControlPlane where
  store : Store
  devices : Record StoredDevice
  registry : RegistryState
  /-- of `target-approvals.ts` -/
  approvals : Record PendingTargetApproval
  /-- of `deepharness-read-approval.ts` -/
  pending : Record PendingReadApproval
  /-- of `managed-admin-approvals.ts` -/
  managed : Record PendingManagedAdminApproval
  prepared : ℕ

namespace ControlPlane

def live (s : ControlPlane) : Live :=
  { s.store.live with state := { s.store.live.state with devices := s.devices } }

def targetAdministration (s : ControlPlane) : TargetAdministration :=
  ⟨s.registry, s.live, s.approvals, s.pending⟩

def approvalState (s : ControlPlane) : ApprovalState :=
  ⟨s.registry.registry, s.live, s.managed, s.prepared⟩

def withTargets (s : ControlPlane) (t : TargetAdministration) : ControlPlane :=
  { s with registry := t.registry, approvals := t.approvals, pending := t.pending }

def withApprovals (s : ControlPlane) (t : ApprovalState) : ControlPlane :=
  { s with managed := t.approvals, prepared := t.prepared }

end ControlPlane

/-- The calls of the approval tools. Whatever actor an input names, the tool puts the actor
of the call in its place. -/
inductive ApprovalCall where
  | targetAgentPrepare (input : PrepareTargetInput)
  | targetAgentApply (input : ApplyInput)
  | deepharnessDockerReadPrepare (input : PrepareReadInput)
  | deepharnessDockerReadApply (input : ApplyInput)
  | hostAdminPrepare (input : PrepareInput)
  | hostAdminApply (input : ConsumeInput)

inductive CallReply where
  | prepared (approvalId : JsString)
  | applied (approvalId : JsString)
  deriving DecidableEq

/-- The settings of the control plane. -/
structure ControlEnv where
  oauth : OAuthEnv
  auth : AuthEnv
  registry : RegistryEnv
  scheme : SignatureScheme

def ApprovalCall.run (env : ControlEnv) (actor : JsString) (s : ControlPlane) :
    ApprovalCall → Except OpsError CallReply × ControlPlane
  | targetAgentPrepare input =>
      let (answer, t) := prepareAgentTarget env.auth s.targetAdministration { input with actor }
      (answer.map fun approval => .prepared approval.id, s.withTargets t)
  | targetAgentApply input =>
      let (answer, t) :=
        applyAgentTargetApproval env.auth env.registry s.targetAdministration { input with actor }
      (answer.map fun _ => .applied input.approvalId, s.withTargets t)
  | deepharnessDockerReadPrepare input =>
      let (answer, t) :=
        prepareDeepharnessDockerRead env.auth s.targetAdministration { input with actor }
      (answer.map fun _ => .prepared input.newApprovalId, s.withTargets t)
  | deepharnessDockerReadApply input =>
      let (answer, t) :=
        applyDeepharnessDockerRead env.auth env.registry s.targetAdministration { input with actor }
      (answer.map fun _ => .applied input.approvalId, s.withTargets t)
  | hostAdminPrepare input =>
      let (answer, t) := prepareManagedAdminAction env.auth s.approvalState { input with actor }
      (answer.map fun approval => .prepared approval.id, s.withApprovals t)
  | hostAdminApply input =>
      let (answer, t) :=
        consumeManagedAdminApproval env.auth env.scheme s.approvalState { input with actor }
      (answer.map fun _ => .applied input.approvalId, s.withApprovals t)

inductive ControlInput where
  | request (i : OAuthInput)
  | devices (table : Record StoredDevice)
  | call (bearer : BearerInput) (c : ApprovalCall)

inductive ControlReply where
  | http (reply : OAuthReply)
  | stored
  | called (who : BearerIdentity) (answer : Except OpsError CallReply)
  deriving DecidableEq

section Machine

variable (p : Platform) (env : ControlEnv)

def ControlInput.step (s : ControlPlane) : ControlInput → ControlReply × ControlPlane
  | request i =>
      let (reply, store) := i.step p env.oauth s.store
      (.http reply, { s with store })
  | devices table => (.stored, { s with devices := table })
  | call bearer c =>
      match requireBearer p env.oauth bearer s.store with
      | (.authorized who, store) =>
          let (answer, s) := c.run env who.actor { s with store }
          (.called who answer, s)
      | (reply, store) => (.http reply, { s with store })

def controlPlane (registry : RegistryState) : Machine ControlPlane ControlInput ControlReply where
  start := ⟨Store.initial, Record.empty, registry, Record.empty, Record.empty, Record.empty, 0⟩
  step := ControlInput.step p env

end Machine

/-- The approval ids that a call draws. -/
def ApprovalCall.names : ApprovalCall → List JsString
  | targetAgentPrepare input => [input.newApprovalId]
  | deepharnessDockerReadPrepare input => [input.newApprovalId]
  | hostAdminPrepare input => [input.newApprovalId]
  | _ => []

def ControlInput.names : ControlInput → List JsString
  | call _ c => c.names
  | _ => []

/-! ## What is claimed -/

/-- A session that bearer requests of the client are let through for. -/
def ActiveSession (store : Store) (now : ℤ) (clientId sessionId : JsString) : Prop :=
  sessionIsActive sessionId clientId now store.live = true

/-- Distinct active sessions are distinct actors. -/
def ActorsAreDistinct (store : Store) (now : ℤ) : Prop :=
  ∀ cid sid cid' sid', ActiveSession store now cid sid → ActiveSession store now cid' sid' →
    actorOf cid sid = actorOf cid' sid' → cid = cid' ∧ sid = sid'

/-- The active sessions of a client differ in the first twelve units of their ids. -/
def BeginningsAreDistinct (store : Store) (now : ℤ) : Prop :=
  ∀ cid sid sid', ActiveSession store now cid sid → ActiveSession store now cid sid' →
    sid.take 12 = sid'.take 12 → sid = sid'

section Claim

variable (p : Platform) (env : ControlEnv) (registry : RegistryState)

/-- An approval that is applied was prepared in the same session. -/
def ApprovalsStayInSession (is : List ControlInput) : Prop :=
  ∀ pre b c who id mid b' c' who' post,
    is = pre ++ .call b c :: (mid ++ .call b' c' :: post) →
    (controlPlane p env registry).answer pre (.call b c) = .called who (.ok (.prepared id)) →
    (controlPlane p env registry).answer (pre ++ .call b c :: mid) (.call b' c') =
      .called who' (.ok (.applied id)) →
    who'.oauthClientId = who.oauthClientId ∧ who'.oauthSessionId = who.oauthSessionId

/-- No two sessions of a client, active at whatever times of the run, have ids that begin
alike. -/
def SessionsApart (is : List ControlInput) : Prop :=
  ∀ pre post pre' post', is = pre ++ post → is = pre' ++ post' → ∀ cid sid sid' now now',
    ActiveSession ((controlPlane p env registry).after pre).store now cid sid →
    ActiveSession ((controlPlane p env registry).after pre').store now' cid sid' →
    sid.take 12 = sid'.take 12 → sid = sid'

end Claim

/-! ## Actors -/

theorem colon_notMem_of_drawn {is : List OAuthInput} {n : JsString} (hn : n ∈ drawnNames is) :
    unit ':' ∉ n := by
  obtain ⟨i, -, hi⟩ := List.mem_flatMap.mp hn
  cases i with
  | register input =>
      rw [List.mem_singleton.mp hi]
      exact notMem_randomId (by decide) (by decide) _
  | submit input =>
      rw [List.mem_singleton.mp hi]
      exact notMem_randomId (by decide) (by decide) _
  | token input =>
      simp only [OAuthInput.names, List.mem_cons, List.not_mem_nil, or_false] at hi
      rcases hi with rfl | rfl
      · exact notMem_randomId (by decide) (by decide) _
      · exact notMem_randomId (by decide) (by decide) _
  | _ => simp [OAuthInput.names] at hi

/-- Without a colon in the client ids, the actor says which client it is of. -/
theorem actorOf_inj {cid cid' sid sid' : JsString} (h : unit ':' ∉ cid) (h' : unit ':' ∉ cid') :
    actorOf cid sid = actorOf cid' sid' ↔ cid = cid' ∧ sid.take 12 = sid'.take 12 := by
  constructor
  · intro heq
    simp only [actorOf, List.append_assoc] at heq
    exact append_separator_inj h h' (List.append_cancel_left heq)
  · rintro ⟨rfl, htake⟩
    rw [actorOf, actorOf, htake]

section Sessions

variable {p : Platform} {env : ControlEnv} {registry : RegistryState}

/-- The request that an input makes of the OAuth endpoints. -/
def ControlInput.oauth : ControlInput → Option OAuthInput
  | request i => some i
  | devices _ => none
  | call bearer _ => some (.bearer bearer)

@[simp] theorem ControlPlane.store_withTargets (s : ControlPlane) (t : TargetAdministration) :
    (s.withTargets t).store = s.store := rfl

@[simp] theorem ControlPlane.store_withApprovals (s : ControlPlane) (t : ApprovalState) :
    (s.withApprovals t).store = s.store := rfl

theorem store_run (c : ApprovalCall) (actor : JsString) (s : ControlPlane) :
    (c.run env actor s).2.store = s.store := by
  cases c <;> rfl

theorem store_step (s : ControlPlane) (i : ControlInput) :
    (i.step p env s).2.store =
      i.oauth.toList.foldl (fun store j => (j.step p env.oauth store).2) s.store := by
  cases i with
  | request i => rfl
  | devices table => rfl
  | call bearer c =>
      show (ControlInput.step p env s (.call bearer c)).2.store =
        (requireBearer p env.oauth bearer s.store).2
      unfold ControlInput.step
      dsimp only
      generalize requireBearer p env.oauth bearer s.store = result
      obtain ⟨reply, store⟩ := result
      cases reply with
      | authorized who => exact store_run c who.actor _
      | _ => rfl

/-- The OAuth store goes through a run of the OAuth endpoints. -/
theorem store_after (is : List ControlInput) :
    ((controlPlane p env registry).after is).store =
      (RemoteOps.oauth p env.oauth).after (is.filterMap ControlInput.oauth) := by
  induction is using List.reverseRecOn with
  | nil => rfl
  | append_singleton is i ih =>
      rw [Machine.after_concat, List.filterMap_append]
      refine (store_step _ i).trans ?_
      rw [ih]
      cases h : i.oauth with
      | none => simp [h]
      | some j =>
          rw [List.filterMap_cons_some h, List.filterMap_nil, Machine.after_concat]
          rfl

theorem colon_notMem_of_active {is : List ControlInput} {now : ℤ} {cid sid : JsString}
    (h : ActiveSession ((controlPlane p env registry).after is).store now cid sid) :
    unit ':' ∉ cid := by
  rw [store_after] at h
  have hsound := (sound_after p env.oauth (is.filterMap ControlInput.oauth)).1
  unfold ActiveSession sessionIsActive at h
  cases hsession : ((RemoteOps.oauth p env.oauth).after
      (is.filterMap ControlInput.oauth)).live.state.sessions.get? sid with
  | none => simp [hsession] at h
  | some x =>
      simp only [hsession, Bool.and_eq_true, decide_eq_true_eq] at h
      obtain ⟨-, -, hclient, -⟩ := hsound.sessions sid x hsession
      rw [← h.1.1.1]
      exact colon_notMem_of_drawn hclient

theorem actorsAreDistinct_iff (is : List ControlInput) (now : ℤ) :
    ActorsAreDistinct ((controlPlane p env registry).after is).store now ↔
      BeginningsAreDistinct ((controlPlane p env registry).after is).store now := by
  constructor
  · intro h cid sid sid' hactive hactive' htake
    have hcolon := colon_notMem_of_active hactive
    exact (h cid sid cid sid' hactive hactive' ((actorOf_inj hcolon hcolon).mpr ⟨rfl, htake⟩)).2
  · intro h cid sid cid' sid' hactive hactive' hactor
    obtain ⟨rfl, htake⟩ := (actorOf_inj (colon_notMem_of_active hactive)
      (colon_notMem_of_active hactive')).mp hactor
    exact ⟨rfl, h cid sid sid' hactive hactive' htake⟩

end Sessions

/-! ## One call -/

/-- The table holds the approval for the actor. -/
def HeldIn {α : Type} (owner : α → JsString) (table : Record α) (id actor : JsString) : Prop :=
  ∃ x, table.get? id = some x ∧ owner x = actor

section Held

variable {α : Type} {owner : α → JsString} {table table' : Record α} {id actor : JsString}

theorem HeldIn.of_pruned (h : HeldIn owner table' id actor) (hpruned : Pruned table table') :
    HeldIn owner table id actor := by
  obtain ⟨x, hx, howner⟩ := h
  exact ⟨x, hpruned id x hx, howner⟩

theorem HeldIn.of_set {k : JsString} {x : α} (h : HeldIn owner (table.set k x) id actor) :
    HeldIn owner table id actor ∨ id = k ∧ actor = owner x := by
  obtain ⟨y, hy, howner⟩ := h
  rw [Record.get?_set] at hy
  split_ifs at hy with hk
  · rw [← Option.some.inj hy] at howner
    exact Or.inr ⟨hk, howner.symm⟩
  · exact Or.inl ⟨y, hy, howner⟩

end Held

/-- One of the three tables holds the approval for the actor. -/
def ControlPlane.Holds (s : ControlPlane) (id actor : JsString) : Prop :=
  HeldIn (·.actor) s.approvals id actor ∨ HeldIn (·.actor) s.pending id actor ∨
    HeldIn (·.actor) s.managed id actor

/-- What a call of the actor does to the approvals. -/
structure ApprovalStep (c : ApprovalCall) (actor : JsString) (s : ControlPlane)
    (answer : Except OpsError CallReply) (s' : ControlPlane) : Prop where
  /-- only a preparation adds an approval, under its id and for the actor -/
  held : ∀ id a, s'.Holds id a → s.Holds id a ∨ answer = .ok (.prepared id) ∧ a = actor
  applied : ∀ id, answer = .ok (.applied id) → s.Holds id actor
  prepared : ∀ id, answer = .ok (.prepared id) → id ∈ c.names

section Calls

variable {env : ControlEnv} {actor : JsString} {s : ControlPlane}

/-- A call that only drops approvals, and was refused or applied one that it held. -/
theorem approvalStep_of_pruned {c : ApprovalCall} {answer : Except OpsError CallReply}
    {s' : ControlPlane} (happrovals : Pruned s.approvals s'.approvals)
    (hpending : Pruned s.pending s'.pending) (hmanaged : Pruned s.managed s'.managed)
    (happlied : ∀ r, answer = .ok r → ∃ id, r = .applied id ∧ s.Holds id actor) :
    ApprovalStep c actor s answer s' where
  held id a h := by
    rcases h with h | h | h
    · exact Or.inl (Or.inl (h.of_pruned happrovals))
    · exact Or.inl (Or.inr (Or.inl (h.of_pruned hpending)))
    · exact Or.inl (Or.inr (Or.inr (h.of_pruned hmanaged)))
  applied id h := by
    obtain ⟨id', hid, hheld⟩ := happlied _ h
    rw [CallReply.applied.inj hid]
    exact hheld
  prepared id h := by
    obtain ⟨id', hid, -⟩ := happlied _ h
    cases hid

theorem approvalStep_targetAgentPrepare (input : PrepareTargetInput) :
    ApprovalStep (.targetAgentPrepare input) actor s
      (ApprovalCall.run env actor s (.targetAgentPrepare input)).1
      (ApprovalCall.run env actor s (.targetAgentPrepare input)).2 := by
  unfold ApprovalCall.run prepareAgentTarget
  dsimp only
  split
  · exact approvalStep_of_pruned (pruned_filter _ _) (pruned_refl _) (pruned_refl _)
      (fun r hr => by cases hr)
  · constructor
    · intro id a h
      rcases h with h | h | h
      · rcases h.of_set with h | ⟨rfl, rfl⟩
        · exact Or.inl (Or.inl (h.of_pruned (pruned_filter _ _)))
        · exact Or.inr ⟨rfl, rfl⟩
      · exact Or.inl (Or.inr (Or.inl h))
      · exact Or.inl (Or.inr (Or.inr h))
    · intro id h
      cases h
    · intro id h
      cases h
      exact List.mem_singleton.mpr rfl

theorem approvalStep_deepharnessDockerReadPrepare (input : PrepareReadInput) :
    ApprovalStep (.deepharnessDockerReadPrepare input) actor s
      (ApprovalCall.run env actor s (.deepharnessDockerReadPrepare input)).1
      (ApprovalCall.run env actor s (.deepharnessDockerReadPrepare input)).2 := by
  unfold ApprovalCall.run prepareDeepharnessDockerRead
  dsimp only
  split
  · exact approvalStep_of_pruned (pruned_refl _) (pruned_refl _) (pruned_refl _)
      (fun r hr => by cases hr)
  · constructor
    · intro id a h
      rcases h with h | h | h
      · exact Or.inl (Or.inl h)
      · rcases h.of_set with h | ⟨rfl, rfl⟩
        · exact Or.inl (Or.inr (Or.inl (h.of_pruned (pruned_filter _ _))))
        · exact Or.inr ⟨rfl, rfl⟩
      · exact Or.inl (Or.inr (Or.inr h))
    · intro id h
      cases h
    · intro id h
      cases h
      exact List.mem_singleton.mpr rfl

theorem approvalStep_hostAdminPrepare (input : PrepareInput) :
    ApprovalStep (.hostAdminPrepare input) actor s
      (ApprovalCall.run env actor s (.hostAdminPrepare input)).1
      (ApprovalCall.run env actor s (.hostAdminPrepare input)).2 := by
  unfold ApprovalCall.run prepareManagedAdminAction
  dsimp only
  split
  · exact approvalStep_of_pruned (pruned_refl _) (pruned_refl _) (pruned_filter _ _)
      (fun r hr => by cases hr)
  · constructor
    · intro id a h
      rcases h with h | h | h
      · exact Or.inl (Or.inl h)
      · exact Or.inl (Or.inr (Or.inl h))
      · rcases h.of_set with h | ⟨rfl, rfl⟩
        · exact Or.inl (Or.inr (Or.inr (h.of_pruned (pruned_filter _ _))))
        · exact Or.inr ⟨rfl, rfl⟩
    · intro id h
      cases h
    · intro id h
      cases h
      exact List.mem_singleton.mpr rfl

theorem actor_of_applyTargetChecks {auth : AuthEnv} {live : Live} {input : ApplyInput}
    {approval : PendingTargetApproval} {u : Unit}
    (h : applyTargetChecks auth live input approval = .ok u) : approval.actor = input.actor := by
  obtain ⟨_, hactor, -⟩ := bind_eq_ok h
  exact requireThat_eq_ok hactor

theorem approvalStep_targetAgentApply (input : ApplyInput) :
    ApprovalStep (.targetAgentApply input) actor s
      (ApprovalCall.run env actor s (.targetAgentApply input)).1
      (ApprovalCall.run env actor s (.targetAgentApply input)).2 := by
  unfold ApprovalCall.run applyAgentTargetApproval
  dsimp only
  split
  · exact approvalStep_of_pruned (pruned_filter _ _) (pruned_refl _) (pruned_refl _)
      (fun r hr => by cases hr)
  · rename_i approval hfound
    split
    · exact approvalStep_of_pruned (pruned_filter _ _) (pruned_refl _) (pruned_refl _)
        (fun r hr => by cases hr)
    · rename_i hchecks
      split
      · exact approvalStep_of_pruned (pruned_filter _ _) (pruned_refl _) (pruned_refl _)
          (fun r hr => by cases hr)
      · refine approvalStep_of_pruned (fun k x hx => ?_) (pruned_refl _) (pruned_refl _) ?_
        · exact pruned_filter _ _ k x (pruned_erase _ _ k x hx)
        · intro r hr
          refine ⟨input.approvalId, (Except.ok.inj hr).symm, Or.inl ⟨approval, ?_, ?_⟩⟩
          · exact pruned_filter _ _ _ _ hfound
          · exact actor_of_applyTargetChecks hchecks

theorem approvalStep_deepharnessDockerReadApply (input : ApplyInput) :
    ApprovalStep (.deepharnessDockerReadApply input) actor s
      (ApprovalCall.run env actor s (.deepharnessDockerReadApply input)).1
      (ApprovalCall.run env actor s (.deepharnessDockerReadApply input)).2 := by
  unfold ApprovalCall.run applyDeepharnessDockerRead
  dsimp only
  split
  · exact approvalStep_of_pruned (pruned_refl _) (pruned_erase _ _) (pruned_refl _)
      (fun r hr => by cases hr)
  · rename_i approval hfound
    split_ifs with hexpired
    · exact approvalStep_of_pruned (pruned_refl _) (pruned_erase _ _) (pruned_refl _)
        (fun r hr => by cases hr)
    · split
      · exact approvalStep_of_pruned (pruned_refl _) (pruned_refl _) (pruned_refl _)
          (fun r hr => by cases hr)
      · rename_i hchecks
        split
        · exact approvalStep_of_pruned (pruned_refl _) (pruned_refl _) (pruned_refl _)
            (fun r hr => by cases hr)
        · refine approvalStep_of_pruned (pruned_refl _) (pruned_erase _ _) (pruned_refl _) ?_
          intro r hr
          exact ⟨input.approvalId, (Except.ok.inj hr).symm,
            Or.inr (Or.inl ⟨approval, hfound, (applyReadChecks_eq_ok hchecks).1.symm⟩)⟩

theorem approvalStep_hostAdminApply (input : ConsumeInput) :
    ApprovalStep (.hostAdminApply input) actor s
      (ApprovalCall.run env actor s (.hostAdminApply input)).1
      (ApprovalCall.run env actor s (.hostAdminApply input)).2 := by
  unfold ApprovalCall.run
  dsimp only
  generalize hresult : consumeManagedAdminApproval env.auth env.scheme s.approvalState
    { input with actor } = result
  obtain ⟨answer, t⟩ := result
  cases answer with
  | error e =>
      obtain ⟨keep, rfl⟩ := consumeManagedAdminApproval_error hresult
      exact approvalStep_of_pruned (pruned_refl _) (pruned_refl _) (pruned_filter _ _)
        (fun r hr => by cases hr)
  | ok grant =>
      obtain ⟨approval, hconsumes, rfl⟩ := consumeManagedAdminApproval_eq_ok hresult
      refine approvalStep_of_pruned (pruned_refl _) (pruned_refl _) (fun k x hx => ?_) ?_
      · exact pruned_filter _ _ k x (pruned_erase _ _ k x hx)
      · intro r hr
        exact ⟨input.approvalId, (Except.ok.inj hr).symm,
          Or.inr (Or.inr ⟨approval, hconsumes.pending, hconsumes.actor⟩)⟩

variable (env actor s) in
theorem approvalStep (c : ApprovalCall) :
    ApprovalStep c actor s (c.run env actor s).1 (c.run env actor s).2 := by
  cases c with
  | targetAgentPrepare input => exact approvalStep_targetAgentPrepare input
  | targetAgentApply input => exact approvalStep_targetAgentApply input
  | deepharnessDockerReadPrepare input => exact approvalStep_deepharnessDockerReadPrepare input
  | deepharnessDockerReadApply input => exact approvalStep_deepharnessDockerReadApply input
  | hostAdminPrepare input => exact approvalStep_hostAdminPrepare input
  | hostAdminApply input => exact approvalStep_hostAdminApply input

end Calls

theorem actor_of_requireBearer {p : Platform} {env : OAuthEnv} {input : BearerInput} {store : Store}
    {who : BearerIdentity} (h : (requireBearer p env input store).1 = .authorized who) :
    who.actor = actorOf who.oauthClientId who.oauthSessionId := by
  unfold requireBearer at h
  split at h
  · cases h
  · split at h
    · cases h
    · dsimp only at h
      split at h
      · cases h
      · rw [← OAuthReply.authorized.inj h]
        rfl

/-! ## Every run -/

section Runs

variable {p : Platform} {env : ControlEnv} {registry : RegistryState}

/-- What a call does that gets past the bearer check: it is run for the actor of an active
session. -/
theorem step_called {s s' : ControlPlane} {bearer : BearerInput} {c : ApprovalCall}
    {who : BearerIdentity} {answer : Except OpsError CallReply}
    (h : ControlInput.step p env s (.call bearer c) = (.called who answer, s')) :
    (∃ now, ActiveSession s.store now who.oauthClientId who.oauthSessionId) ∧
      who.actor = actorOf who.oauthClientId who.oauthSessionId ∧
        ApprovalStep c who.actor s answer s' := by
  unfold ControlInput.step at h
  dsimp only at h
  generalize hbearer : requireBearer p env.oauth bearer s.store = result at h
  obtain ⟨reply, store⟩ := result
  cases reply with
  | authorized who' =>
      obtain ⟨hcalled, hstate⟩ := Prod.mk.inj h
      obtain ⟨rfl, hanswer⟩ := ControlReply.called.inj hcalled
      have hreply : (requireBearer p env.oauth bearer s.store).1 = .authorized who' :=
        congrArg Prod.fst hbearer
      obtain ⟨accessToken, payload, -, hverify, hcid, hsid⟩ := requireBearer_authorized hreply
      have hsound := approvalStep env who'.actor { s with store } c
      rw [hanswer, hstate] at hsound
      refine ⟨⟨bearer.active.ms, ?_⟩, actor_of_requireBearer hreply, hsound.held, hsound.applied,
        hsound.prepared⟩
      rw [hcid, hsid]
      exact verifyAccessToken_active hverify
  | _ => cases h

/-- An input that is no call let through leaves the approvals. -/
theorem holds_step_of_not_called {s : ControlPlane} {i : ControlInput} {id a : JsString}
    (h : ∀ bearer c who answer, i = .call bearer c → (i.step p env s).1 ≠ .called who answer)
    (hheld : (i.step p env s).2.Holds id a) : s.Holds id a := by
  cases i with
  | request i => exact hheld
  | devices table => exact hheld
  | call bearer c =>
      specialize h bearer c
      unfold ControlInput.step at h hheld
      dsimp only at h hheld
      generalize requireBearer p env.oauth bearer s.store = result at h hheld
      obtain ⟨reply, store⟩ := result
      cases reply with
      | authorized who => exact absurd rfl (h who _ rfl)
      | _ => exact hheld

variable (p env registry) in
/-- An approval for the actor was prepared under the id. -/
def PreparedFor (is : List ControlInput) (id actor : JsString) : Prop :=
  ∃ pre bearer c who post, is = pre ++ .call bearer c :: post ∧
    (controlPlane p env registry).answer pre (.call bearer c) = .called who (.ok (.prepared id)) ∧
      who.actor = actor

theorem PreparedFor.concat {is : List ControlInput} {id actor : JsString}
    (h : PreparedFor p env registry is id actor) (i : ControlInput) :
    PreparedFor p env registry (is ++ [i]) id actor := by
  obtain ⟨pre, bearer, c, who, post, rfl, h⟩ := h
  exact ⟨pre, bearer, c, who, post ++ [i], by simp, h⟩

theorem preparedFor_after (is : List ControlInput) :
    ∀ id a, ((controlPlane p env registry).after is).Holds id a →
      PreparedFor p env registry is id a := by
  refine (controlPlane p env registry).invariant (prefixClosed_forall fun _ => True)
    (I := fun is s => ∀ id a, s.Holds id a → PreparedFor p env registry is id a)
    ?_ ?_ is (fun _ _ => trivial)
  · intro id a h
    rcases h with ⟨x, hx, -⟩ | ⟨x, hx, -⟩ | ⟨x, hx, -⟩ <;> cases hx
  · intro is i _ ih id a hheld
    by_cases hcalled : ∃ bearer c who answer, i = .call bearer c ∧
        (controlPlane p env registry).answer is i = .called who answer
    · obtain ⟨bearer, c, who, answer, rfl, hanswer⟩ := hcalled
      obtain ⟨-, -, hsound⟩ := step_called (Prod.ext hanswer rfl)
      rcases hsound.held id a hheld with hold | ⟨hprepared, rfl⟩
      · exact (ih id a hold).concat _
      · exact ⟨is, bearer, c, who, [], rfl, hprepared ▸ hanswer, rfl⟩
    · refine (ih id a (holds_step_of_not_called ?_ hheld)).concat i
      intro bearer c who answer hi hanswer
      exact hcalled ⟨bearer, c, who, answer, hi, hanswer⟩

/-- A preparation draws its id. -/
theorem mem_names_of_prepared {pre : List ControlInput} {bearer : BearerInput} {c : ApprovalCall}
    {who : BearerIdentity} {id : JsString}
    (h : (controlPlane p env registry).answer pre (.call bearer c) =
      .called who (.ok (.prepared id))) : id ∈ ControlInput.names (.call bearer c) :=
  (step_called (Prod.ext h rfl)).2.2.prepared id rfl

end Runs

theorem approvalsStayInSession_of_apart (p : Platform) (env : ControlEnv) (registry : RegistryState)
    (is : List ControlInput) (hfresh : Fresh ControlInput.names is) :
    (∀ pre post, is = pre ++ post → ∀ now,
      (ActorsAreDistinct ((controlPlane p env registry).after pre).store now ↔
        BeginningsAreDistinct ((controlPlane p env registry).after pre).store now)) ∧
      (SessionsApart p env registry is → ApprovalsStayInSession p env registry is) := by
  constructor
  · intro pre post _ now
    exact actorsAreDistinct_iff pre now
  · rintro hapart pre b c who id mid b' c' who' post rfl hprepared happlied
    obtain ⟨⟨now, hactive⟩, hactor, hsound⟩ := step_called (Prod.ext hprepared rfl)
    obtain ⟨⟨now', hactive'⟩, hactor', hsound'⟩ := step_called (Prod.ext happlied rfl)
    -- the approval that is applied was prepared for the actor, and under its id there was
    -- one preparation
    obtain ⟨pre₀, b₀, c₀, who₀, post₀, heq, hprepared₀, hsame⟩ :=
      preparedFor_after _ id _ (hsound'.applied id rfl)
    have hrun : pre ++ .call b c :: (mid ++ .call b' c' :: post) =
        pre₀ ++ .call b₀ c₀ :: (post₀ ++ .call b' c' :: post) := by
      have := congrArg (· ++ .call b' c' :: post) heq
      simpa using this
    obtain ⟨rfl, hcall⟩ := hfresh.unique hrun (mem_names_of_prepared hprepared)
      (mem_names_of_prepared hprepared₀)
    rw [← hcall, hprepared] at hprepared₀
    obtain ⟨rfl, -⟩ := ControlReply.called.inj hprepared₀
    rw [hactor, hactor'] at hsame
    obtain ⟨hclient, htake⟩ := (actorOf_inj (colon_notMem_of_active hactive)
      (colon_notMem_of_active hactive')).mp hsame
    rw [← hclient] at hactive' ⊢
    have hsession := hapart pre _ (pre ++ .call b c :: mid) (.call b' c' :: post) rfl (by simp)
      who.oauthClientId who.oauthSessionId who'.oauthSessionId now now' hactive hactive' htake
    exact ⟨rfl, hsession.symm⟩

/-! ## Two sessions of a client -/

def approvalEnv : ControlEnv where
  oauth := sampleOAuthEnv
  auth := ⟨true, none, 120⟩
  registry := plainRegistryEnv
  scheme := ⟨fun _ _ => [], fun _ _ => false⟩

/-- Every byte of the texts below is ASCII. -/
def asciiPlatform : Platform :=
  { samplePlatform with fromUtf8 := fun bytes => bytes.data.toList.map fun b => Char.ofNat b.toNat }

/-- 32 units, the last of which is `u`. -/
def sessionText (u : Char) (hu : isBase64url (unit u) = true) : RandomText where
  text := List.replicate 31 (unit 'A') ++ [unit u]
  isBase64url v hv := by
    rcases List.mem_append.mp hv with hv | hv
    · rw [(List.mem_replicate.mp hv).2]
      decide
    · rw [List.mem_singleton.mp hv]
      exact hu

/-- The client signs in: a code is granted and traded for a session. -/
def signIn (r : RandomText) : List ControlInput × TokenInput :=
  let input : TokenInput :=
    ⟨[(js "client_id", js "ro-A"), (js "grant_type", js "authorization_code"),
      (js "code", randomId "code" r), (js "code_verifier", sampleVerifier),
      (js "redirect_uri", js "https://app")], r, r, r, sampleTime, sampleTime, sampleTime, true,
      true⟩
  ([.request (.submit ⟨[(js "client_id", js "ro-A"), (js "redirect_uri", js "https://app"),
    (js "code_challenge", pkceChallengeS256 asciiPlatform sampleVerifier),
    (js "code_challenge_method", js "S256"), (js "password", js "password")], r, sampleTime,
    true⟩), .request (.token input)], input)

/-- A request with the access token of the session that the client signed in to. -/
def bearerOf (r : RandomText) : BearerInput where
  authorization := js "Bearer " ++ (tokenResponse asciiPlatform sampleOAuthEnv (signIn r).2
    (js "ro-A") (randomId "sess" r) sampleOAuthEnv.mcpResource).accessToken
  now := sampleTime
  active := sampleTime
  touched := sampleTime
  writes := true

def firstText : RandomText := sessionText 'A' (by decide)

def secondText : RandomText := sessionText 'B' (by decide)

/-- A client signs in twice and an agent device is there. -/
def twoSessions : List ControlInput :=
  .request sampleRegister :: (signIn firstText).1 ++ (signIn secondText).1 ++
    [.devices (Record.empty.set (js "dev_00000000") approvalDevice)]

def sharedApprovalId : JsString := js "adm_" ++ List.replicate 24 (unit '0')

def firstPrepares : ControlInput :=
  .call (bearerOf firstText)
    (.targetAgentPrepare { operatorPrepare with newApprovalId := sharedApprovalId })

def secondApplies : ControlInput :=
  .call (bearerOf secondText)
    (.targetAgentApply
      { operatorApply with
        approvalId := sharedApprovalId
        confirmation := js "APPROVE " ++ sharedApprovalId })

/-- The second session applies what the first has prepared. -/
def sharedActor : List ControlInput := twoSessions ++ firstPrepares :: ([] ++ secondApplies :: [])

theorem approvalsStayInSession_sharedActor :
    (∀ pre post, sharedActor = pre ++ post → ∀ now,
      (ActorsAreDistinct ((controlPlane asciiPlatform approvalEnv staticBoot.state).after pre).store
          now ↔
        BeginningsAreDistinct
          ((controlPlane asciiPlatform approvalEnv staticBoot.state).after pre).store now)) ∧
      (SessionsApart asciiPlatform approvalEnv staticBoot.state sharedActor →
        ApprovalsStayInSession asciiPlatform approvalEnv staticBoot.state sharedActor) :=
  approvalsStayInSession_of_apart asciiPlatform approvalEnv staticBoot.state sharedActor
    (by decide +kernel)

theorem secondSession_applies :
    Fresh ControlInput.names sharedActor ∧
      ¬ApprovalsStayInSession asciiPlatform approvalEnv staticBoot.state sharedActor := by
  refine ⟨by decide +kernel, fun hstay => ?_⟩
  have hrun : (controlPlane asciiPlatform approvalEnv staticBoot.state).answer twoSessions
      firstPrepares = .called ⟨js "oauth:ro-A:sess-AAAAAAA", js "ro-A", randomId "sess" firstText⟩
        (.ok (.prepared sharedApprovalId)) ∧
      (controlPlane asciiPlatform approvalEnv staticBoot.state).answer
        (twoSessions ++ firstPrepares :: []) secondApplies =
          .called ⟨js "oauth:ro-A:sess-AAAAAAA", js "ro-A", randomId "sess" secondText⟩
            (.ok (.applied sharedApprovalId)) := by
    decide +kernel
  obtain ⟨hprepared, happlied⟩ := hrun
  have hsame := (hstay _ _ _ _ _ [] _ _ _ [] rfl hprepared happlied).2
  exact absurd hsame (by decide +kernel)

end RemoteOps

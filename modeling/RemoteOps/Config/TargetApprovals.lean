import RemoteOps.Config.CapabilityBaseline
import RemoteOps.Transition.Machine

/-!
# Approvals of targets

Two families of approvals change the dynamic overlay: `prepareAgentTarget` keeps a target
that it built from a preset, `prepareDeepharnessDockerRead` keeps the device of the target
`deepharness-read`. Each is applied by the actor who prepared it, with the confirmation
that names its id, and the application checks the device again.

Both families write through `upsertDynamicAgentTarget`. As long as the static file is the
one that was loaded, an application that fails changes nothing and one that succeeds
installs one target (`Loaded.upsert`).
-/

namespace RemoteOps

open Ecma Transition

/-! ## Model -/

structure PendingTargetApproval where
  id : JsString
  actor : JsString
  createdAt : ℤ
  expiresAt : ℤ
  target : TargetConfig
  summary : JsString
  deriving DecidableEq

structure PendingReadApproval where
  actor : JsString
  expires : ℤ
  deviceId : JsString
  deriving DecidableEq

/-- What the four operations read and write. -/
structure TargetAdministration where
  registry : RegistryState
  live : Live
  /-- of `target-approvals.ts` -/
  approvals : Record PendingTargetApproval
  /-- of `deepharness-read-approval.ts` -/
  pending : Record PendingReadApproval

structure PrepareTargetInput extends PresetInput where
  actor : JsString
  /-- the id that `newApprovalId()` draws -/
  newApprovalId : JsString
  clock : CallClock

structure ApplyInput where
  actor : JsString
  approvalId : JsString
  confirmation : JsString
  clock : CallClock
  /-- the overlay can be written -/
  writes : Bool

structure PrepareReadInput where
  actor : JsString
  newApprovalId : JsString
  clock : CallClock

/-- `!device.capabilities?.includes(capability)`. -/
def StoredDevice.lacks (device : StoredDevice) (capability : JsString) : Bool :=
  decide (capability ∉ device.capabilities.getD [])

/-! ### Targets from presets -/

def AgentTargetPreset.privileged : AgentTargetPreset → Bool
  | managedAdmin | openhandsExecute | deepharnessSemanticLab => true
  | _ => false

/-- `AUTH_MODE` is `oauth` and `AUTH_SECRET` has 32 characters. -/
def AuthEnv.strong (env : AuthEnv) : Bool :=
  env.oauth && env.authSecret.any fun secret => 32 ≤ secret.length

def purgeTargetApprovals (approvals : Record PendingTargetApproval) (now : ℤ) :
    Record PendingTargetApproval :=
  approvals.filter fun _ approval => !(approval.expiresAt < now)

/-- The checks of `prepareAgentTarget`, which leave the target. -/
def prepareTargetChecks (env : AuthEnv) (live : Live) (input : PrepareTargetInput) :
    Except OpsError TargetConfig := do
  requireThat (input.preset.privileged = true → env.strong = true) "CAPABILITY_DENIED"
    (js "perfil privilegiado exige AUTH_MODE=oauth e AUTH_SECRET forte")
  requireThat (input.preset = .deepharnessSemanticLab → input.isLab = true) "CAPABILITY_DENIED"
    (js "DSH semantic lab exige target exato e ambiente development")
  let device ← requireLiveDevice env live input.deviceId input.clock.device.ms
  requireThat (input.preset = .deepharnessSemanticLab → device.lacks deepharnessSemantic = false)
    "CAPABILITY_DENIED"
    (js "dispositivo Agent Mesh ainda não anunciou deepharness.semantic no laboratório")
  let target ← buildAgentTargetFromPreset input.toPresetInput
  requireThat (input.preset = .managedAdmin → device.lacks managedAdminCapability = false)
    "CAPABILITY_DENIED"
    (js "Agent Mesh device " ++ quoted input.deviceId ++ js " não anunciou " ++
      managedAdminCapability ++ js "; instale/ative o broker managed-admin primeiro")
  return target

def AgentTargetPreset.authority : AgentTargetPreset → JsString
  | postgresReadback =>
      js "pinned PostgreSQL readback only; generic Docker/process/write access remains disabled"
  | deepharnessSemanticLab =>
      js "DSH semantic lab only; named development target and active device capability required; no generic host/Docker/process/admin/write permissions"
  | openhandsRead =>
      js "OpenHands metadata read-only; no execute, Docker, filesystem, process, service or write permissions"
  | openhandsExecute =>
      js "OpenHands semantic run only, with per-task owner confirmation; no generic operator, Docker, filesystem, process, service, admin or Git operations"
  | managedAdmin =>
      js "workspace operator + signed managed-admin root broker; no generic sudo/docker group and no break-glass shell"
  | operatorWorkspace | readOnly =>
      js "static targets are not modified; Docker access remains disabled"

def PrepareTargetInput.summary (input : PrepareTargetInput) (target : TargetConfig) : JsString :=
  js "create/update dynamic target " ++ target.id ++ js " -> " ++ input.deviceId ++ js " (" ++
    input.environment.text ++ js ", " ++ input.preset.text ++ js "); " ++ input.preset.authority

/-- The caller is shown the fields of the approval. -/
def prepareAgentTarget (env : AuthEnv) (s : TargetAdministration) (input : PrepareTargetInput) :
    Except OpsError PendingTargetApproval × TargetAdministration :=
  let s := { s with approvals := purgeTargetApprovals s.approvals input.clock.purge.ms }
  match prepareTargetChecks env s.live input with
  | .error e => (.error e, s)
  | .ok target =>
      let approval : PendingTargetApproval :=
        { id := input.newApprovalId
          actor := input.actor
          createdAt := input.clock.now.ms
          expiresAt := input.clock.now.ms + approvalTtlMs
          target
          summary := input.summary target }
      (.ok approval, { s with approvals := s.approvals.set input.newApprovalId approval })

/-- `requireLiveDevice(approval.target.deviceId!)`: no device has the id `undefined`. -/
def requireTargetDevice (env : AuthEnv) (live : Live) (target : TargetConfig) (now : ℤ) :
    Except OpsError StoredDevice :=
  match target.deviceId with
  | some deviceId => requireLiveDevice env live deviceId now
  | none =>
      deny "INVALID_ARGUMENT" (js "Agent Mesh device \"undefined\" não existe ou está revogado")

def applyTargetChecks (env : AuthEnv) (live : Live) (input : ApplyInput)
    (approval : PendingTargetApproval) : Except OpsError Unit := do
  requireThat (approval.actor = input.actor) "CAPABILITY_DENIED"
    (js "aprovação pertence a outro ator MCP")
  requireApprovalConfirmation approval.id input.confirmation
  let liveDevice ← requireTargetDevice env live approval.target input.clock.device.ms
  requireThat
    (approval.target.id = deepharnessSemanticLabId ∧
        approval.target.allowedSemanticCapabilities = [deepharnessSemantic] →
      liveDevice.lacks deepharnessSemantic = false)
    "CAPABILITY_DENIED" (js "dispositivo Agent Mesh deixou de anunciar deepharness.semantic")
  requireThat
    (managedAdminCapability ∈ approval.target.allowedSemanticCapabilities →
      liveDevice.lacks managedAdminCapability = false)
    "CAPABILITY_DENIED"
    (js "Agent Mesh device " ++ quoted (approval.target.deviceId.getD []) ++
      js " deixou de anunciar " ++ managedAdminCapability)

/-- What the caller is told of an application. -/
structure AppliedTarget where
  approvalId : JsString
  target : TargetConfig
  summary : JsString
  deriving DecidableEq

/-- The approval is deleted when the target is installed. -/
def applyAgentTargetApproval (env : AuthEnv) (registryEnv : RegistryEnv) (s : TargetAdministration)
    (input : ApplyInput) : Except OpsError AppliedTarget × TargetAdministration :=
  let s := { s with approvals := purgeTargetApprovals s.approvals input.clock.purge.ms }
  match s.approvals.get? input.approvalId with
  | none => (deny "INVALID_ARGUMENT" (js "aprovação inexistente ou expirada"), s)
  | some approval =>
      match applyTargetChecks env s.live input approval with
      | .error e => (.error e, s)
      | .ok () =>
          match upsertDynamicAgentTarget registryEnv s.registry approval.target input.writes with
          | (.error e, registry) => (.error e, { s with registry })
          | (.ok result, registry) =>
              (.ok ⟨approval.id, result, approval.summary⟩,
                { s with registry, approvals := s.approvals.erase approval.id })

/-! ### Docker reads of DeepHarness -/

def deepharnessReadId : JsString := js "deepharness-read"

def deepharnessContainers : List JsString :=
  [js "deepharness-web-1", js "deepharness-mcp-grants-db-1"]

/-- The target with its device, when it has no authority but to read. -/
def deepharnessBaseline (env : AuthEnv) (registry : Registry) (live : Live) (now : ℤ) :
    Except OpsError (TargetConfig × JsString) :=
  let unavailable := deny "CAPABILITY_DENIED" (js "DeepHarness read-only target unavailable")
  match getTarget registry deepharnessReadId with
  | none => unavailable
  | some t =>
      match t.deviceId with
      | none => unavailable
      | some deviceId => do
          requireThat
            (t.transport = .agent ∧ t.capabilityProfile = .readOnly ∧ t.enabled = true ∧
              deviceId ≠ [] ∧ t.environment = .production)
            "CAPABILITY_DENIED" (js "DeepHarness read-only target unavailable")
          requireThat
            (t.allowedDockerExecContainers = [] ∧ t.allowedDockerExecPrograms = [] ∧
              t.allowedDockerActions = [] ∧ t.allowedWritePaths = [] ∧
              t.allowedProcessPrograms = [] ∧ t.allowedAdminPrograms = [] ∧
              t.allowedSemanticCapabilities = [])
            "CAPABILITY_DENIED" (js "DeepHarness target has unexpected authority")
          requireThat (∀ c ∈ t.allowedDockerContainers, c ∈ deepharnessContainers)
            "CAPABILITY_DENIED" (js "Unexpected Docker target entry")
          let _ ← requireLiveDevice env live deviceId now
          return (t, deviceId)

/-- The caller is shown the id, the expiry and the two containers. -/
def prepareDeepharnessDockerRead (env : AuthEnv) (s : TargetAdministration)
    (input : PrepareReadInput) : Except OpsError PendingReadApproval × TargetAdministration :=
  match deepharnessBaseline env s.registry.registry s.live input.clock.device.ms with
  | .error e => (.error e, s)
  | .ok (_, deviceId) =>
      let approval : PendingReadApproval :=
        ⟨input.actor, input.clock.now.ms + approvalTtlMs, deviceId⟩
      let pending := s.pending.filter fun _ p => !(p.expires < input.clock.now.ms)
      (.ok approval, { s with pending := pending.set input.newApprovalId approval })

def applyReadChecks (env : AuthEnv) (s : TargetAdministration) (input : ApplyInput)
    (approval : PendingReadApproval) : Except OpsError TargetConfig := do
  requireThat (input.actor = approval.actor) "CAPABILITY_DENIED"
    (js "Approval belongs to another actor")
  requireApprovalConfirmation input.approvalId input.confirmation
  let (t, deviceId) ← deepharnessBaseline env s.registry.registry s.live input.clock.device.ms
  requireThat (deviceId = approval.deviceId) "CAPABILITY_DENIED" (js "Device binding changed")
  return t

def withReadContainers (t : TargetConfig) : TargetConfig :=
  { t with allowedDockerContainers := deepharnessContainers }

/-- A success tells the caller what the approval said. -/
def applyDeepharnessDockerRead (env : AuthEnv) (registryEnv : RegistryEnv) (s : TargetAdministration)
    (input : ApplyInput) : Except OpsError Unit × TargetAdministration :=
  let missing : Except OpsError Unit × TargetAdministration :=
    (deny "INVALID_ARGUMENT" (js "Approval expired or missing"),
      { s with pending := s.pending.erase input.approvalId })
  match s.pending.get? input.approvalId with
  | none => missing
  | some approval =>
      if approval.expires < input.clock.purge.ms then missing
      else
        match applyReadChecks env s input approval with
        | .error e => (.error e, s)
        | .ok t =>
            match upsertDynamicAgentTarget registryEnv s.registry (withReadContainers t)
              input.writes with
            | (.error e, registry) => (.error e, { s with registry })
            | (.ok _, registry) =>
                (.ok (), { s with registry, pending := s.pending.erase input.approvalId })

/-! ### Runs -/

inductive ApprovalInput where
  | prepareTarget (input : PrepareTargetInput)
  | applyTarget (input : ApplyInput)
  | prepareRead (input : PrepareReadInput)
  | applyRead (input : ApplyInput)
  /-- the state store after heartbeats, revocations or whatever else changes it -/
  | store (live : Live)

inductive ApprovalReply where
  | preparedTarget (approval : PendingTargetApproval)
  | appliedTarget (applied : AppliedTarget)
  | preparedRead (approval : PendingReadApproval)
  | appliedRead
  | stored

def ApprovalInput.step (env : AuthEnv) (registryEnv : RegistryEnv) (s : TargetAdministration) :
    ApprovalInput → Except OpsError ApprovalReply × TargetAdministration
  | .prepareTarget input =>
      let (answer, s) := prepareAgentTarget env s input
      (answer.map .preparedTarget, s)
  | .applyTarget input =>
      let (answer, s) := applyAgentTargetApproval env registryEnv s input
      (answer.map .appliedTarget, s)
  | .prepareRead input =>
      let (answer, s) := prepareDeepharnessDockerRead env s input
      (answer.map .preparedRead, s)
  | .applyRead input =>
      let (answer, s) := applyDeepharnessDockerRead env registryEnv s input
      (answer.map fun () => .appliedRead, s)
  | .store live => (.ok .stored, { s with live })

/-- A control plane that has loaded its registry. -/
structure RegistryBoot (env : RegistryEnv) where
  state : RegistryState
  live : Live
  loaded : Loaded env state

def targetApprovals (env : AuthEnv) {registryEnv : RegistryEnv} (boot : RegistryBoot registryEnv) :
    Machine TargetAdministration ApprovalInput (Except OpsError ApprovalReply) where
  start := ⟨boot.state, boot.live, Record.empty, Record.empty⟩
  step := ApprovalInput.step env registryEnv

/-- The approval ids that an input draws. -/
def ApprovalInput.names : ApprovalInput → List JsString
  | .prepareTarget input => [input.newApprovalId]
  | .prepareRead input => [input.newApprovalId]
  | _ => []

/-- The id that the input applies when it succeeds. -/
def ApprovalInput.applies : ApprovalInput → Option JsString
  | .applyTarget input => some input.approvalId
  | .applyRead input => some input.approvalId
  | _ => none

/-! ## What is claimed -/

/-- A device that is not revoked and was seen recently. -/
structure LiveDevice (env : AuthEnv) (live : Live) (now : ℤ) (deviceId : JsString) (d : StoredDevice) :
    Prop where
  listed : d ∈ listDevices live
  named : d.deviceId = deviceId
  unrevoked : live.realm.isRevoked d.revokedAt = false
  seen : ∃ seen, d.lastSeenAt = some seen ∧ now - seen ≤ env.agentHeartbeatStaleSeconds * 2 * 1000

/-- The conditions under which an approval may be applied: by its actor, confirmed, in time,
for a live device. -/
structure Permitted (env : AuthEnv) (live : Live) (input : ApplyInput) (actor id : JsString)
    (expires : ℤ) (deviceId : JsString) : Prop where
  actor : input.actor = actor
  named : input.approvalId = id
  confirmed : trim input.confirmation = js "APPROVE " ++ id
  unexpired : input.clock.purge.ms ≤ expires
  device : ∃ d, LiveDevice env live input.clock.device.ms deviceId d

section Claim

variable (env : AuthEnv) {registryEnv : RegistryEnv} (boot : RegistryBoot registryEnv)

/-- The application of a target approval, and the preparation it answers. -/
def TargetApplied (pre : List ApprovalInput) (input : ApplyInput) : Prop :=
  ∃ before p between approval target, pre = before ++ .prepareTarget p :: between ∧
    (targetApprovals env boot).answer before (.prepareTarget p) = .ok (.preparedTarget approval) ∧
      Permitted env ((targetApprovals env boot).after pre).live input p.actor p.newApprovalId
        (p.clock.now.ms + approvalTtlMs) p.deviceId ∧
      buildAgentTargetFromPreset p.toPresetInput = .ok target ∧
      Installs ((targetApprovals env boot).after pre).registry
        ((targetApprovals env boot).after (pre ++ [.applyTarget input])).registry target

/-- The application of a read approval, and the preparation it answers. -/
def ReadApplied (pre : List ApprovalInput) (input : ApplyInput) : Prop :=
  ∃ before p between approval prepared t deviceId, pre = before ++ .prepareRead p :: between ∧
    (targetApprovals env boot).answer before (.prepareRead p) = .ok (.preparedRead approval) ∧
      getTarget ((targetApprovals env boot).after before).registry.registry deepharnessReadId =
        some prepared ∧ prepared.deviceId = some deviceId ∧
      Permitted env ((targetApprovals env boot).after pre).live input p.actor p.newApprovalId
        (p.clock.now.ms + approvalTtlMs) deviceId ∧
      getTarget ((targetApprovals env boot).after pre).registry.registry deepharnessReadId = some t ∧
      t.deviceId = some deviceId ∧
      Installs ((targetApprovals env boot).after pre).registry
        ((targetApprovals env boot).after (pre ++ [.applyRead input])).registry
        { t with allowedDockerContainers := deepharnessContainers }

/-- Approvals change what was approved, once. -/
structure ApprovalsAreExact (is : List ApprovalInput) : Prop where
  /-- whatever is not an application that succeeds leaves the registry and the files -/
  others : ∀ pre i post, is = pre ++ i :: post →
    (i.applies = none ∨ ∃ e, (targetApprovals env boot).answer pre i = .error e) →
      ((targetApprovals env boot).after (pre ++ [i])).registry =
        ((targetApprovals env boot).after pre).registry
  once : ∀ pre i mid j post id, is = pre ++ i :: mid ++ j :: post → i.applies = some id →
    j.applies = some id → (∃ r, (targetApprovals env boot).answer pre i = .ok r) →
      ∃ e, (targetApprovals env boot).answer (pre ++ i :: mid) j = .error e
  target : ∀ pre input post r, is = pre ++ .applyTarget input :: post →
    (targetApprovals env boot).answer pre (.applyTarget input) = .ok r →
      TargetApplied env boot pre input
  read : ∀ pre input post r, is = pre ++ .applyRead input :: post →
    (targetApprovals env boot).answer pre (.applyRead input) = .ok r →
      ReadApplied env boot pre input
  static : ∀ pre, pre <+: is → ∀ t ∈ boot.state.files.static.targets,
    getTarget ((targetApprovals env boot).after pre).registry.registry t.id = some t

end Claim

/-! ## What the checks leave -/

section Checks

variable {env : AuthEnv} {live : Live}

theorem requireLiveDevice_eq_ok {deviceId : JsString} {now : ℤ} {d : StoredDevice}
    (h : requireLiveDevice env live deviceId now = .ok d) : LiveDevice env live now deviceId d := by
  unfold requireLiveDevice at h
  cases hfound : (listDevices live).find? fun d => d.deviceId = deviceId with
  | none => simp [hfound, deny] at h
  | some device =>
      simp only [hfound] at h
      split_ifs at h with hrevoked
      · simp [deny] at h
      · cases hseen : device.lastSeenAt with
        | none => simp [hseen, deny] at h
        | some seen =>
            simp only [hseen] at h
            split_ifs at h with hstale
            · simp [deny] at h
            · obtain rfl := Except.ok.inj h
              rw [not_or, not_lt] at hstale
              exact ⟨List.mem_of_find?_eq_some hfound, by simpa using List.find?_some hfound,
                Bool.eq_false_iff.mpr hrevoked, seen, hseen, hstale.2⟩

theorem prepareTargetChecks_eq_ok {input : PrepareTargetInput} {target : TargetConfig}
    (h : prepareTargetChecks env live input = .ok target) :
    buildAgentTargetFromPreset input.toPresetInput = .ok target := by
  obtain ⟨_, -, h⟩ := bind_eq_ok h
  obtain ⟨_, -, h⟩ := bind_eq_ok h
  obtain ⟨device, -, h⟩ := bind_eq_ok h
  obtain ⟨_, -, h⟩ := bind_eq_ok h
  obtain ⟨target', htarget, h⟩ := bind_eq_ok h
  obtain ⟨_, -, h⟩ := bind_eq_ok h
  rw [htarget, ← Except.ok.inj h]

theorem applyTargetChecks_eq_ok {input : ApplyInput} {approval : PendingTargetApproval} {u : Unit}
    {deviceId : JsString} (hdevice : approval.target.deviceId = some deviceId)
    (h : applyTargetChecks env live input approval = .ok u) :
    approval.actor = input.actor ∧ trim input.confirmation = js "APPROVE " ++ approval.id ∧
      ∃ d, LiveDevice env live input.clock.device.ms deviceId d := by
  obtain ⟨_, hactor, h⟩ := bind_eq_ok h
  obtain ⟨_, hconfirm, h⟩ := bind_eq_ok h
  obtain ⟨d, hlive, h⟩ := bind_eq_ok h
  unfold requireTargetDevice at hlive
  rw [hdevice] at hlive
  exact ⟨requireThat_eq_ok hactor, requireThat_eq_ok hconfirm, d, requireLiveDevice_eq_ok hlive⟩

theorem deepharnessBaseline_eq_ok {registry : Registry} {now : ℤ} {t : TargetConfig}
    {deviceId : JsString} (h : deepharnessBaseline env registry live now = .ok (t, deviceId)) :
    getTarget registry deepharnessReadId = some t ∧ t.deviceId = some deviceId ∧
      ∃ d, LiveDevice env live now deviceId d := by
  unfold deepharnessBaseline at h
  cases htarget : getTarget registry deepharnessReadId with
  | none => simp [htarget, deny] at h
  | some t' =>
      simp only [htarget] at h
      cases hdevice : t'.deviceId with
      | none => simp [hdevice, deny] at h
      | some deviceId' =>
          simp only [hdevice] at h
          obtain ⟨_, -, h⟩ := bind_eq_ok h
          obtain ⟨_, -, h⟩ := bind_eq_ok h
          obtain ⟨_, -, h⟩ := bind_eq_ok h
          obtain ⟨d, hlive, h⟩ := bind_eq_ok h
          obtain ⟨rfl, rfl⟩ := Prod.mk.inj (Except.ok.inj h)
          exact ⟨rfl, hdevice, d, requireLiveDevice_eq_ok hlive⟩

theorem applyReadChecks_eq_ok {s : TargetAdministration} {input : ApplyInput}
    {approval : PendingReadApproval} {t : TargetConfig}
    (h : applyReadChecks env s input approval = .ok t) :
    input.actor = approval.actor ∧ trim input.confirmation = js "APPROVE " ++ input.approvalId ∧
      getTarget s.registry.registry deepharnessReadId = some t ∧
      t.deviceId = some approval.deviceId ∧
      ∃ d, LiveDevice env s.live input.clock.device.ms approval.deviceId d := by
  obtain ⟨_, hactor, h⟩ := bind_eq_ok h
  obtain ⟨_, hconfirm, h⟩ := bind_eq_ok h
  obtain ⟨⟨t', deviceId⟩, hbaseline, h⟩ := bind_eq_ok h
  obtain ⟨_, hbinding, h⟩ := bind_eq_ok h
  obtain rfl := Except.ok.inj h
  obtain ⟨htarget, hdevice, hlive⟩ := deepharnessBaseline_eq_ok hbaseline
  rw [requireThat_eq_ok hbinding] at hdevice hlive
  exact ⟨requireThat_eq_ok hactor, requireThat_eq_ok hconfirm, htarget, hdevice, hlive⟩

end Checks

/-! ## Steps -/

/-- Some entries are gone. -/
def Pruned {α : Type} (r r' : Record α) : Prop := ∀ k x, r'.get? k = some x → r.get? k = some x

theorem pruned_refl {α : Type} (r : Record α) : Pruned r r := fun _ _ => id

theorem pruned_erase {α : Type} (r : Record α) (k : JsString) : Pruned r (r.erase k) :=
  fun _ _ h => (Record.get?_of_get?_erase h).2

theorem pruned_filter {α : Type} (r : Record α) (keep : JsString → α → Bool) :
    Pruned r (r.filter keep) :=
  fun _ _ h => (Record.get?_of_get?_filter h).1

theorem Pruned.get?_eq_none {α : Type} {r r' : Record α} (h : Pruned r r') {k : JsString}
    (hk : r.get? k = none) : r'.get? k = none := by
  cases hx : r'.get? k with
  | none => rfl
  | some x => exact absurd (hk.symm.trans (h k x hx)) (by simp)

/-- What one input does when the registry is what the files say. -/
inductive ApprovalMove (env : AuthEnv) (registryEnv : RegistryEnv) (s : TargetAdministration) :
    ApprovalInput → Except OpsError ApprovalReply × TargetAdministration → Prop where
  | failed {i : ApprovalInput} {e : OpsError} {approvals : Record PendingTargetApproval}
      {pending : Record PendingReadApproval} (happrovals : Pruned s.approvals approvals)
      (hpending : Pruned s.pending pending) :
      ApprovalMove env registryEnv s i (.error e, { s with approvals, pending })
  | stored (live : Live) :
      ApprovalMove env registryEnv s (.store live) (.ok .stored, { s with live })
  | preparedTarget {p : PrepareTargetInput} {approval : PendingTargetApproval}
      (hid : approval.id = p.newApprovalId) (hactor : approval.actor = p.actor)
      (hexpires : approval.expiresAt = p.clock.now.ms + approvalTtlMs)
      (hbuilt : buildAgentTargetFromPreset p.toPresetInput = .ok approval.target) :
      ApprovalMove env registryEnv s (.prepareTarget p)
        (.ok (.preparedTarget approval),
          { s with
            approvals :=
              (purgeTargetApprovals s.approvals p.clock.purge.ms).set p.newApprovalId approval })
  | preparedRead {p : PrepareReadInput} {t : TargetConfig} {deviceId : JsString}
      (htarget : getTarget s.registry.registry deepharnessReadId = some t)
      (hdevice : t.deviceId = some deviceId) :
      ApprovalMove env registryEnv s (.prepareRead p)
        (.ok (.preparedRead ⟨p.actor, p.clock.now.ms + approvalTtlMs, deviceId⟩),
          { s with
            pending := (s.pending.filter fun _ p' => !(p'.expires < p.clock.now.ms)).set
              p.newApprovalId ⟨p.actor, p.clock.now.ms + approvalTtlMs, deviceId⟩ })
  | appliedTarget {input : ApplyInput} {approval : PendingTargetApproval} {registry : RegistryState}
      (hpending : s.approvals.get? input.approvalId = some approval)
      (hunexpired : input.clock.purge.ms ≤ approval.expiresAt)
      (hchecks : applyTargetChecks env s.live input approval = .ok ())
      (hloaded : Loaded registryEnv registry)
      (hinstalls : Installs s.registry registry approval.target)
      (hfree : ∀ t ∈ s.registry.files.static.targets, t.id ≠ approval.target.id) :
      ApprovalMove env registryEnv s (.applyTarget input)
        (.ok (.appliedTarget ⟨approval.id, approval.target, approval.summary⟩),
          { s with
            registry
            approvals :=
              (purgeTargetApprovals s.approvals input.clock.purge.ms).erase approval.id })
  | appliedRead {input : ApplyInput} {approval : PendingReadApproval} {t : TargetConfig}
      {registry : RegistryState} (hpending : s.pending.get? input.approvalId = some approval)
      (hunexpired : input.clock.purge.ms ≤ approval.expires)
      (hchecks : applyReadChecks env s input approval = .ok t)
      (hloaded : Loaded registryEnv registry)
      (hinstalls : Installs s.registry registry (withReadContainers t))
      (hfree : ∀ u ∈ s.registry.files.static.targets, u.id ≠ (withReadContainers t).id) :
      ApprovalMove env registryEnv s (.applyRead input)
        (.ok .appliedRead, { s with registry, pending := s.pending.erase input.approvalId })

section Steps

variable {env : AuthEnv} {registryEnv : RegistryEnv} {s : TargetAdministration}

theorem approvalMove_prepareTarget (input : PrepareTargetInput) :
    ApprovalMove env registryEnv s (.prepareTarget input)
      (ApprovalInput.step env registryEnv s (.prepareTarget input)) := by
  unfold ApprovalInput.step prepareAgentTarget
  dsimp only
  cases hchecks : prepareTargetChecks env s.live input with
  | error e => exact .failed (pruned_filter _ _) (pruned_refl _)
  | ok target => exact .preparedTarget rfl rfl rfl (prepareTargetChecks_eq_ok hchecks)

theorem approvalMove_prepareRead (input : PrepareReadInput) :
    ApprovalMove env registryEnv s (.prepareRead input)
      (ApprovalInput.step env registryEnv s (.prepareRead input)) := by
  unfold ApprovalInput.step prepareDeepharnessDockerRead
  dsimp only
  cases hbaseline : deepharnessBaseline env s.registry.registry s.live input.clock.device.ms with
  | error e => exact .failed (pruned_refl _) (pruned_refl _)
  | ok x =>
      obtain ⟨htarget, hdevice, -⟩ := deepharnessBaseline_eq_ok hbaseline
      exact .preparedRead htarget hdevice

theorem approvalMove_applyTarget (hloaded : Loaded registryEnv s.registry) (input : ApplyInput) :
    ApprovalMove env registryEnv s (.applyTarget input)
      (ApprovalInput.step env registryEnv s (.applyTarget input)) := by
  unfold ApprovalInput.step applyAgentTargetApproval
  dsimp only
  cases hfound : (purgeTargetApprovals s.approvals input.clock.purge.ms).get? input.approvalId with
  | none => exact .failed (pruned_filter _ _) (pruned_refl _)
  | some approval =>
      dsimp only
      cases hchecks : applyTargetChecks env s.live input approval with
      | error e => exact .failed (pruned_filter _ _) (pruned_refl _)
      | ok u =>
          dsimp only
          rcases hloaded.upsert approval.target input.writes with
            ⟨e, he⟩ | ⟨registry, hupsert, hloaded', hinstalls, hfree⟩
          · rw [he]
            exact .failed (pruned_filter _ _) (pruned_refl _)
          · rw [hupsert]
            obtain ⟨hpending, hkept⟩ := Record.get?_of_get?_filter hfound
            have hunexpired : input.clock.purge.ms ≤ approval.expiresAt := by simpa using hkept
            exact .appliedTarget hpending hunexpired hchecks hloaded' hinstalls hfree

theorem approvalMove_applyRead (hloaded : Loaded registryEnv s.registry) (input : ApplyInput) :
    ApprovalMove env registryEnv s (.applyRead input)
      (ApprovalInput.step env registryEnv s (.applyRead input)) := by
  unfold ApprovalInput.step applyDeepharnessDockerRead
  dsimp only
  cases hfound : s.pending.get? input.approvalId with
  | none => exact .failed (pruned_refl _) (pruned_erase _ _)
  | some approval =>
      dsimp only
      by_cases hexpired : approval.expires < input.clock.purge.ms
      · rw [if_pos hexpired]
        exact .failed (pruned_refl _) (pruned_erase _ _)
      · rw [if_neg hexpired]
        cases hchecks : applyReadChecks env s input approval with
        | error e => exact .failed (pruned_refl _) (pruned_refl _)
        | ok t =>
            dsimp only
            rcases hloaded.upsert (withReadContainers t) input.writes with
              ⟨e, he⟩ | ⟨registry, hupsert, hloaded', hinstalls, hfree⟩
            · rw [he]
              exact .failed (pruned_refl _) (pruned_refl _)
            · rw [hupsert]
              exact .appliedRead hfound (not_lt.mp hexpired) hchecks hloaded' hinstalls hfree

variable (env) in
theorem approvalMove_step (hloaded : Loaded registryEnv s.registry) (i : ApprovalInput) :
    ApprovalMove env registryEnv s i (ApprovalInput.step env registryEnv s i) := by
  cases i with
  | prepareTarget input => exact approvalMove_prepareTarget input
  | applyTarget input => exact approvalMove_applyTarget hloaded input
  | prepareRead input => exact approvalMove_prepareRead input
  | applyRead input => exact approvalMove_applyRead hloaded input
  | store live => exact .stored live

end Steps

/-! ## The invariant -/

section Runs

variable (env : AuthEnv) {registryEnv : RegistryEnv} (boot : RegistryBoot registryEnv)

/-- The target approval is what an earlier preparation answered. -/
def OfferedTarget (is : List ApprovalInput) (id : JsString) (approval : PendingTargetApproval) :
    Prop :=
  ∃ before p between, is = before ++ .prepareTarget p :: between ∧
    (targetApprovals env boot).answer before (.prepareTarget p) = .ok (.preparedTarget approval) ∧
      p.newApprovalId = id ∧ approval.id = id ∧ approval.actor = p.actor ∧
        approval.expiresAt = p.clock.now.ms + approvalTtlMs ∧
          buildAgentTargetFromPreset p.toPresetInput = .ok approval.target

def OfferedRead (is : List ApprovalInput) (id : JsString) (approval : PendingReadApproval) : Prop :=
  ∃ before p between t, is = before ++ .prepareRead p :: between ∧
    (targetApprovals env boot).answer before (.prepareRead p) = .ok (.preparedRead approval) ∧
      p.newApprovalId = id ∧ approval.actor = p.actor ∧
        approval.expires = p.clock.now.ms + approvalTtlMs ∧
          getTarget ((targetApprovals env boot).after before).registry.registry deepharnessReadId =
            some t ∧ t.deviceId = some approval.deviceId

/-- An application of the id has succeeded. -/
def Spent (is : List ApprovalInput) (id : JsString) : Prop :=
  ∃ i r, i.applies = some id ∧ (i, .ok r) ∈ (targetApprovals env boot).trace is

variable {env boot} {is : List ApprovalInput} {id : JsString}

theorem OfferedTarget.concat {approval : PendingTargetApproval}
    (h : OfferedTarget env boot is id approval) (i : ApprovalInput) :
    OfferedTarget env boot (is ++ [i]) id approval := by
  obtain ⟨before, p, between, rfl, h⟩ := h
  exact ⟨before, p, between ++ [i], by simp, h⟩

theorem OfferedRead.concat {approval : PendingReadApproval}
    (h : OfferedRead env boot is id approval) (i : ApprovalInput) :
    OfferedRead env boot (is ++ [i]) id approval := by
  obtain ⟨before, p, between, t, rfl, h⟩ := h
  exact ⟨before, p, between ++ [i], t, by simp, h⟩

theorem OfferedTarget.drawn {approval : PendingTargetApproval}
    (h : OfferedTarget env boot is id approval) : id ∈ is.flatMap ApprovalInput.names := by
  obtain ⟨before, p, between, rfl, -, rfl, -⟩ := h
  simp [ApprovalInput.names]

theorem OfferedRead.drawn {approval : PendingReadApproval}
    (h : OfferedRead env boot is id approval) : id ∈ is.flatMap ApprovalInput.names := by
  obtain ⟨before, p, between, t, rfl, -, rfl, -⟩ := h
  simp [ApprovalInput.names]

variable (env boot is) in
/-- The registry is what the files say, the static one as it was loaded; every approval was
offered; an id is pending in one family at most, and in none when it has been applied. -/
structure ApprovalFacts (s : TargetAdministration) : Prop where
  loaded : Loaded registryEnv s.registry
  static : s.registry.files.static = boot.state.files.static
  target : ∀ id approval, s.approvals.get? id = some approval →
    OfferedTarget env boot is id approval
  read : ∀ id approval, s.pending.get? id = some approval → OfferedRead env boot is id approval
  apart : ∀ id approval, s.approvals.get? id = some approval → s.pending.get? id = none
  spent : ∀ id, Spent env boot is id →
    id ∈ is.flatMap ApprovalInput.names ∧ s.approvals.get? id = none ∧ s.pending.get? id = none

theorem spent_concat {i : ApprovalInput} :
    Spent env boot (is ++ [i]) id ↔ Spent env boot is id ∨
      i.applies = some id ∧ ∃ r, (targetApprovals env boot).answer is i = .ok r := by
  unfold Spent
  simp only [Machine.trace_concat, List.mem_append, List.mem_singleton, Prod.mk.injEq]
  constructor
  · rintro ⟨j, r, hj, hmem | ⟨rfl, hr⟩⟩
    · exact .inl ⟨j, r, hj, hmem⟩
    · exact .inr ⟨hj, r, hr.symm⟩
  · rintro (⟨j, r, hj, hmem⟩ | ⟨hi, r, hr⟩)
    · exact ⟨j, r, hj, .inl hmem⟩
    · exact ⟨i, r, hi, .inr ⟨rfl, hr.symm⟩⟩

theorem mem_names_concat {i : ApprovalInput} (h : id ∈ is.flatMap ApprovalInput.names) :
    id ∈ (is ++ [i]).flatMap ApprovalInput.names := by
  rw [List.flatMap_append]
  exact List.mem_append_left _ h

variable {s : TargetAdministration}

/-- An input that offers nothing leaves the approvals it does not delete. -/
theorem ApprovalFacts.pruned (h : ApprovalFacts env boot is s) {i : ApprovalInput}
    {registry : RegistryState} {live : Live} {approvals : Record PendingTargetApproval}
    {pending : Record PendingReadApproval} (hloaded : Loaded registryEnv registry)
    (hstatic : registry.files.static = s.registry.files.static)
    (happrovals : Pruned s.approvals approvals) (hpending : Pruned s.pending pending)
    (hspent : ∀ id, i.applies = some id → (∃ r, (targetApprovals env boot).answer is i = .ok r) →
      id ∈ is.flatMap ApprovalInput.names ∧ approvals.get? id = none ∧ pending.get? id = none) :
    ApprovalFacts env boot (is ++ [i]) ⟨registry, live, approvals, pending⟩ := by
  constructor
  · exact hloaded
  · exact hstatic.trans h.static
  · exact fun id a ha => (h.target id a (happrovals id a ha)).concat i
  · exact fun id a ha => (h.read id a (hpending id a ha)).concat i
  · exact fun id a ha => hpending.get?_eq_none (h.apart id a (happrovals id a ha))
  · intro id hid
    rcases spent_concat.mp hid with hid | ⟨hi, hr⟩
    · obtain ⟨hdrawn, hnone, hnone'⟩ := h.spent id hid
      exact ⟨mem_names_concat hdrawn, happrovals.get?_eq_none hnone, hpending.get?_eq_none hnone'⟩
    · obtain ⟨hdrawn, hnone⟩ := hspent id hi hr
      exact ⟨mem_names_concat hdrawn, hnone⟩

/-- A preparation of a target, under an id that no approval has. -/
theorem ApprovalFacts.preparedTarget (h : ApprovalFacts env boot is s) {p : PrepareTargetInput}
    {approval : PendingTargetApproval} {approvals : Record PendingTargetApproval}
    (hfresh : p.newApprovalId ∉ is.flatMap ApprovalInput.names)
    (happrovals : Pruned s.approvals approvals)
    (hoffered : OfferedTarget env boot (is ++ [.prepareTarget p]) p.newApprovalId approval) :
    ApprovalFacts env boot (is ++ [.prepareTarget p])
      { s with approvals := approvals.set p.newApprovalId approval } := by
  have hnone : ∀ id, id ≠ p.newApprovalId →
      (approvals.set p.newApprovalId approval).get? id = approvals.get? id :=
    fun id hid => Record.get?_set_of_ne approvals approval hid
  constructor
  · exact h.loaded
  · exact h.static
  · intro id a ha
    by_cases hid : id = p.newApprovalId
    · subst hid
      rw [Record.get?_set_self, Option.some.injEq] at ha
      rw [← ha]
      exact hoffered
    · rw [hnone id hid] at ha
      exact (h.target id a (happrovals id a ha)).concat _
  · exact fun id a ha => (h.read id a ha).concat _
  · intro id a ha
    by_cases hid : id = p.newApprovalId
    · cases hread : s.pending.get? id with
      | none => rfl
      | some b => exact absurd (hid ▸ (h.read id b hread).drawn) hfresh
    · rw [hnone id hid] at ha
      exact h.apart id a (happrovals id a ha)
  · intro id hid
    rcases spent_concat.mp hid with hid | ⟨hi, -⟩
    · obtain ⟨hdrawn, htarget, hread⟩ := h.spent id hid
      refine ⟨mem_names_concat hdrawn, ?_, hread⟩
      rw [hnone id (fun heq => hfresh (heq ▸ hdrawn))]
      exact happrovals.get?_eq_none htarget
    · exact absurd hi (Option.some_ne_none id).symm

theorem ApprovalFacts.preparedRead (h : ApprovalFacts env boot is s) {p : PrepareReadInput}
    {approval : PendingReadApproval} {pending : Record PendingReadApproval}
    (hfresh : p.newApprovalId ∉ is.flatMap ApprovalInput.names) (hpending : Pruned s.pending pending)
    (hoffered : OfferedRead env boot (is ++ [.prepareRead p]) p.newApprovalId approval) :
    ApprovalFacts env boot (is ++ [.prepareRead p])
      { s with pending := pending.set p.newApprovalId approval } := by
  have hnone : ∀ id, id ≠ p.newApprovalId →
      (pending.set p.newApprovalId approval).get? id = pending.get? id :=
    fun id hid => Record.get?_set_of_ne pending approval hid
  constructor
  · exact h.loaded
  · exact h.static
  · exact fun id a ha => (h.target id a ha).concat _
  · intro id a ha
    by_cases hid : id = p.newApprovalId
    · subst hid
      rw [Record.get?_set_self, Option.some.injEq] at ha
      rw [← ha]
      exact hoffered
    · rw [hnone id hid] at ha
      exact (h.read id a (hpending id a ha)).concat _
  · intro id a ha
    have hid : id ≠ p.newApprovalId := by
      rintro rfl
      exact hfresh (h.target _ a ha).drawn
    show (pending.set p.newApprovalId approval).get? id = none
    rw [hnone id hid]
    exact hpending.get?_eq_none (h.apart id a ha)
  · intro id hid
    rcases spent_concat.mp hid with hid | ⟨hi, -⟩
    · obtain ⟨hdrawn, htarget, hread⟩ := h.spent id hid
      refine ⟨mem_names_concat hdrawn, htarget, ?_⟩
      rw [hnone id (fun heq => hfresh (heq ▸ hdrawn))]
      exact hpending.get?_eq_none hread
    · exact absurd hi (Option.some_ne_none id).symm

theorem approvalFacts_step {i : ApprovalInput}
    (hfresh : Fresh ApprovalInput.names (is ++ [i]))
    (h : ApprovalFacts env boot is ((targetApprovals env boot).after is)) :
    ApprovalFacts env boot (is ++ [i])
      ((targetApprovals env boot).step ((targetApprovals env boot).after is) i).2 := by
  have hmove := approvalMove_step env h.loaded i
  have hanswer : (targetApprovals env boot).answer is i =
      (ApprovalInput.step env registryEnv ((targetApprovals env boot).after is) i).1 := rfl
  show ApprovalFacts env boot (is ++ [i])
    (ApprovalInput.step env registryEnv ((targetApprovals env boot).after is) i).2
  generalize ApprovalInput.step env registryEnv ((targetApprovals env boot).after is) i = x
    at hmove hanswer
  cases hmove with
  | failed happrovals hpending =>
      refine h.pruned h.loaded rfl happrovals hpending fun id _ hr => ?_
      obtain ⟨r, hr⟩ := hr
      exact absurd (hanswer.symm.trans hr) (by simp)
  | stored live =>
      exact h.pruned h.loaded rfl (pruned_refl _) (pruned_refl _)
        fun id hi _ => absurd hi (Option.some_ne_none id).symm
  | preparedTarget hid hactor hexpires hbuilt =>
      exact h.preparedTarget (hfresh.notMem (List.mem_singleton_self _)) (pruned_filter _ _)
        ⟨is, _, [], rfl, hanswer, rfl, hid, hactor, hexpires, hbuilt⟩
  | preparedRead htarget hdevice =>
      exact h.preparedRead (hfresh.notMem (List.mem_singleton_self _)) (pruned_filter _ _)
        ⟨is, _, [], _, rfl, hanswer, rfl, rfl, rfl, htarget, hdevice⟩
  | @appliedTarget input approval registry hpending hunexpired hchecks hloaded hinstalls hfree =>
      have hoffered := h.target _ _ hpending
      have hid : approval.id = input.approvalId := by
        obtain ⟨before, p, between, -, -, -, hid, -⟩ := hoffered
        exact hid
      refine h.pruned hloaded hinstalls.static (fun k a ha => ?_) (pruned_refl _) fun id hi _ => ?_
      · exact pruned_filter _ _ k a (Record.get?_of_get?_erase ha).2
      · obtain rfl := Option.some.inj hi
        refine ⟨hoffered.drawn, ?_, h.apart _ _ hpending⟩
        rw [Record.get?_erase, if_pos hid.symm]
  | @appliedRead input approval t registry hpending hunexpired hchecks hloaded hinstalls hfree =>
      refine h.pruned hloaded hinstalls.static (pruned_refl _) (pruned_erase _ _) fun id hi _ => ?_
      obtain rfl := Option.some.inj hi
      refine ⟨(h.read _ _ hpending).drawn, ?_, ?_⟩
      · cases htarget : ((targetApprovals env boot).after is).approvals.get? input.approvalId with
        | none => rfl
        | some a => exact absurd ((h.apart _ a htarget).symm.trans hpending) (by simp)
      · rw [Record.get?_erase, if_pos rfl]

theorem approvalFacts_after (is : List ApprovalInput) (hfresh : Fresh ApprovalInput.names is) :
    ApprovalFacts env boot is ((targetApprovals env boot).after is) := by
  refine (targetApprovals env boot).invariant (prefixClosed_fresh ApprovalInput.names)
    (I := fun is s => ApprovalFacts env boot is s) ?_
    (fun is i hfresh h => approvalFacts_step hfresh h) is hfresh
  constructor
  · exact boot.loaded
  · rfl
  · exact fun id a ha => absurd ha (by simp [targetApprovals])
  · exact fun id a ha => absurd ha (by simp [targetApprovals])
  · exact fun id a ha => absurd ha (by simp [targetApprovals])
  · rintro id ⟨i, r, -, hmem⟩
    simp at hmem

/-! ## What an application has found -/

theorem registry_kept (h : ApprovalFacts env boot is ((targetApprovals env boot).after is))
    {i : ApprovalInput}
    (hi : i.applies = none ∨ ∃ e, (targetApprovals env boot).answer is i = .error e) :
    ((targetApprovals env boot).after (is ++ [i])).registry =
      ((targetApprovals env boot).after is).registry := by
  have hmove := approvalMove_step env h.loaded i
  have hanswer : (targetApprovals env boot).answer is i =
      (ApprovalInput.step env registryEnv ((targetApprovals env boot).after is) i).1 := rfl
  rw [Machine.after_concat]
  show (ApprovalInput.step env registryEnv ((targetApprovals env boot).after is) i).2.registry = _
  generalize ApprovalInput.step env registryEnv ((targetApprovals env boot).after is) i = x
    at hmove hanswer
  cases hmove with
  | failed happrovals hpending => rfl
  | stored live => rfl
  | preparedTarget hid hactor hexpires hbuilt => rfl
  | preparedRead htarget hdevice => rfl
  | appliedTarget hpending hunexpired hchecks hloaded hinstalls hfree =>
      rcases hi with hi | ⟨e, he⟩
      · exact absurd hi (by simp [ApprovalInput.applies])
      · exact absurd (hanswer.symm.trans he) (by simp)
  | appliedRead hpending hunexpired hchecks hloaded hinstalls hfree =>
      rcases hi with hi | ⟨e, he⟩
      · exact absurd hi (by simp [ApprovalInput.applies])
      · exact absurd (hanswer.symm.trans he) (by simp)

theorem answer_of_absent (h : ApprovalFacts env boot is ((targetApprovals env boot).after is))
    {i : ApprovalInput} (hi : i.applies = some id)
    (htarget : ((targetApprovals env boot).after is).approvals.get? id = none)
    (hread : ((targetApprovals env boot).after is).pending.get? id = none) :
    ∃ e, (targetApprovals env boot).answer is i = .error e := by
  have hmove := approvalMove_step env h.loaded i
  have hanswer : (targetApprovals env boot).answer is i =
      (ApprovalInput.step env registryEnv ((targetApprovals env boot).after is) i).1 := rfl
  generalize ApprovalInput.step env registryEnv ((targetApprovals env boot).after is) i = x
    at hmove hanswer
  cases hmove with
  | failed happrovals hpending => exact ⟨_, hanswer⟩
  | stored live => exact absurd hi (Option.some_ne_none id).symm
  | preparedTarget hid hactor hexpires hbuilt => exact absurd hi (Option.some_ne_none id).symm
  | preparedRead htarget hdevice => exact absurd hi (Option.some_ne_none id).symm
  | appliedTarget hpending hunexpired hchecks hloaded hinstalls hfree =>
      obtain rfl := Option.some.inj hi
      exact absurd (htarget.symm.trans hpending) (by simp)
  | appliedRead hpending hunexpired hchecks hloaded hinstalls hfree =>
      obtain rfl := Option.some.inj hi
      exact absurd (hread.symm.trans hpending) (by simp)

theorem targetApplied (h : ApprovalFacts env boot is ((targetApprovals env boot).after is))
    {input : ApplyInput} {r : ApprovalReply}
    (hr : (targetApprovals env boot).answer is (.applyTarget input) = .ok r) :
    TargetApplied env boot is input := by
  have hmove := approvalMove_step env h.loaded (.applyTarget input)
  have hafter : (targetApprovals env boot).after (is ++ [.applyTarget input]) =
      (ApprovalInput.step env registryEnv ((targetApprovals env boot).after is)
        (.applyTarget input)).2 := Machine.after_concat ..
  unfold TargetApplied
  rw [hafter]
  replace hr : (ApprovalInput.step env registryEnv ((targetApprovals env boot).after is)
    (.applyTarget input)).1 = .ok r := hr
  generalize ApprovalInput.step env registryEnv ((targetApprovals env boot).after is)
    (.applyTarget input) = x at hmove hr
  cases hmove with
  | failed happrovals hpending => exact absurd hr (by simp)
  | @appliedTarget _ approval registry hpending hunexpired hchecks hloaded hinstalls hfree =>
      obtain ⟨before, p, between, his, hanswer, hid, hid', hactor, hexpires, hbuilt⟩ :=
        h.target _ _ hpending
      obtain ⟨-, hdevice, -⟩ := buildAgentTargetFromPreset_eq_ok hbuilt
      obtain ⟨hactor', hconfirmed, hlive⟩ := applyTargetChecks_eq_ok hdevice hchecks
      refine ⟨before, p, between, approval, approval.target, his, hanswer, ?_, hbuilt, hinstalls⟩
      constructor
      · exact hactor'.symm.trans hactor
      · exact hid.symm
      · rw [hconfirmed, hid', hid]
      · exact hexpires ▸ hunexpired
      · exact hlive

theorem readApplied (h : ApprovalFacts env boot is ((targetApprovals env boot).after is))
    {input : ApplyInput} {r : ApprovalReply}
    (hr : (targetApprovals env boot).answer is (.applyRead input) = .ok r) :
    ReadApplied env boot is input := by
  have hmove := approvalMove_step env h.loaded (.applyRead input)
  have hafter : (targetApprovals env boot).after (is ++ [.applyRead input]) =
      (ApprovalInput.step env registryEnv ((targetApprovals env boot).after is)
        (.applyRead input)).2 := Machine.after_concat ..
  unfold ReadApplied
  rw [hafter]
  replace hr : (ApprovalInput.step env registryEnv ((targetApprovals env boot).after is)
    (.applyRead input)).1 = .ok r := hr
  generalize ApprovalInput.step env registryEnv ((targetApprovals env boot).after is)
    (.applyRead input) = x at hmove hr
  cases hmove with
  | failed happrovals hpending => exact absurd hr (by simp)
  | @appliedRead _ approval t registry hpending hunexpired hchecks hloaded hinstalls hfree =>
      obtain ⟨before, p, between, prepared, his, hanswer, hid, hactor, hexpires, hprepared,
        hdevice⟩ := h.read _ _ hpending
      obtain ⟨hactor', hconfirmed, htarget, hdevice', hlive⟩ := applyReadChecks_eq_ok hchecks
      refine ⟨before, p, between, approval, prepared, t, approval.deviceId, his, hanswer, hprepared,
        hdevice, ?_, htarget, hdevice', hinstalls⟩
      constructor
      · exact hactor'.trans hactor
      · exact hid.symm
      · rw [hconfirmed, hid]
      · exact hexpires ▸ hunexpired
      · exact hlive

/-- A static target is found under its id for good. -/
theorem ApprovalFacts.static_found (h : ApprovalFacts env boot is s) {t : TargetConfig}
    (ht : t ∈ boot.state.files.static.targets) : getTarget s.registry.registry t.id = some t := by
  have hloaded : loadRegistry registryEnv s.registry.files = .ok s.registry.registry := h.loaded
  obtain ⟨statics, dynamics, hstatics, -, -, hregistry⟩ := loadRegistry_eq_ok_iff.mp hloaded
  rw [getTarget_eq_some_iff (nodup_of_loadRegistry hloaded), hregistry, List.map_append,
    List.mem_append]
  rw [← h.static, targets_of_parse hstatics] at ht
  exact ⟨.inl ht, rfl⟩

/-- Target approvals change exactly what was approved, once. -/
theorem approvalsAreExact (env : AuthEnv) {registryEnv : RegistryEnv}
    (boot : RegistryBoot registryEnv) (is : List ApprovalInput)
    (hfresh : Fresh ApprovalInput.names is) : ApprovalsAreExact env boot is := by
  have hfacts : ∀ pre post, is = pre ++ post →
      ApprovalFacts env boot pre ((targetApprovals env boot).after pre) := by
    rintro pre post rfl
    exact approvalFacts_after pre ((prefixClosed_fresh ApprovalInput.names).of_append hfresh)
  constructor
  · intro pre i post his hi
    exact registry_kept (hfacts pre _ his) hi
  · intro pre i mid j post id his hi hj hr
    rw [List.append_assoc] at his
    have hspent : Spent env boot (pre ++ i :: mid) id := by
      obtain ⟨r, hr⟩ := hr
      exact ⟨i, r, hi, (Machine.mem_trace_iff _).mpr ⟨pre, mid, rfl, hr⟩⟩
    have hlater := hfacts (pre ++ i :: mid) (j :: post) (by simp [his])
    obtain ⟨-, htarget, hread⟩ := hlater.spent id hspent
    exact answer_of_absent hlater hj htarget hread
  · intro pre input post r his hr
    exact targetApplied (hfacts pre _ his) hr
  · intro pre input post r his hr
    exact readApplied (hfacts pre _ his) hr
  · rintro pre ⟨post, his⟩ t ht
    exact (hfacts pre post his.symm).static_found ht

end Runs

/-! ## A run -/

def plainRegistryEnv : RegistryEnv where
  targetsFile := js "targets.json"
  dynamicTargetsFile := js "dynamic-targets.json"
  schemaMessage _ := js "invalid"
  writeMessage := js "EACCES"
  localeLe _ _ := true

/-- The one target of the static file. -/
def staticTarget : ParsedTarget :=
  ⟨{ id := js "wandora-agent", capabilityProfile := .operator, transport := .mock }, by
    decide +kernel⟩

def staticBoot : RegistryBoot plainRegistryEnv where
  state := ⟨⟨.parsed [staticTarget], .missing⟩, [staticTarget.val]⟩
  live := ⟨emptyState, Realm.fresh, Record.empty⟩
  loaded := rfl

def operatorPrepare : PrepareTargetInput where
  targetId := js "medicspro-agent"
  deviceId := js "dev_00000000"
  environment := .production
  preset := .operatorWorkspace
  actor := js "owner"
  newApprovalId := js "adm_0"
  clock := ⟨⟨15, by decide⟩, ⟨15, by decide⟩, ⟨15, by decide⟩⟩

def operatorApply : ApplyInput where
  actor := js "owner"
  approvalId := js "adm_0"
  confirmation := js " APPROVE adm_0"
  clock := ⟨⟨20, by decide⟩, ⟨20, by decide⟩, ⟨20, by decide⟩⟩
  writes := true

def approvalDevice : StoredDevice where
  deviceId := js "dev_00000000"
  displayName := js "lab"
  hostname := js "lab"
  os := none
  agentVersion := none
  fingerprint := none
  credentialHash := []
  createdAt := 1
  lastSeenAt := some 1

/-- A device is paired, a target is prepared for it and applied twice. -/
def approvalRun : List ApprovalInput :=
  [.store ⟨{ emptyState with devices := Record.empty.set (js "dev_00000000") approvalDevice },
      Realm.fresh, Record.empty⟩,
    .prepareTarget operatorPrepare, .applyTarget operatorApply, .applyTarget operatorApply]

theorem approvalsAreExact_approvalRun :
    ApprovalsAreExact ⟨true, none, 120⟩ staticBoot approvalRun :=
  approvalsAreExact ⟨true, none, 120⟩ staticBoot approvalRun (by decide +kernel)

end RemoteOps

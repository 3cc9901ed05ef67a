import RemoteOps.Config.RegistryFiles

/-!
# Presets of agent targets

`buildAgentTargetFromPreset` builds the target that an approval will install. What it
builds is accepted by the schema whenever the ids it is given are
(`buildAgentTargetFromPreset_accepted`).
-/

namespace RemoteOps

open Ecma

inductive AgentTargetPreset where
  | operatorWorkspace
  | readOnly
  | openhandsRead
  | openhandsExecute
  | postgresReadback
  | managedAdmin
  | deepharnessSemanticLab
  deriving DecidableEq

def AgentTargetPreset.text : AgentTargetPreset → JsString
  | operatorWorkspace => js "operator-workspace"
  | readOnly => js "read-only"
  | openhandsRead => js "openhands-read"
  | openhandsExecute => js "openhands-execute"
  | postgresReadback => js "postgres-readback"
  | managedAdmin => js "managed-admin"
  | deepharnessSemanticLab => js "deepharness-semantic-lab"

def Environment.text : Environment → JsString
  | production => js "production"
  | staging => js "staging"
  | development => js "development"

def agentWorkspaceRoot : JsString := js "/opt/wandora/ops-workspace"

def operatorWorkspacePrograms : List JsString :=
  [js "bash", js "sh", js "git", js "node", js "npm", js "npx", js "pnpm", js "python3",
    js "curl", js "wget", js "jq", js "grep", js "sed", js "awk", js "find", js "head",
    js "tail", js "cat", js "wc", js "make"]

def deepharnessSemantic : JsString := js "deepharness.semantic"

def deepharnessSemanticLabId : JsString := js "deepharness-semantic-lab"

def agentService : JsString := js "wandora-ops-agent.service"

def execBrokerService : JsString := js "wandora-ops-exec-broker.service"

def adminBrokerService : JsString := js "wandora-ops-admin-broker.service"

structure PresetInput where
  targetId : JsString
  deviceId : JsString
  environment : Environment
  preset : AgentTargetPreset

/-- `base`: an enabled agent target without any authority. -/
def PresetInput.base (input : PresetInput) : TargetConfig where
  id := input.targetId
  deviceId := some input.deviceId
  environment := input.environment
  transport := .agent

/-- The semantic laboratory keeps to its own target and environment. -/
def PresetInput.isLab (input : PresetInput) : Bool :=
  input.targetId = deepharnessSemanticLabId && input.environment = .development

def buildAgentTargetFromPreset (input : PresetInput) : Except OpsError TargetConfig :=
  match input.preset with
  | .managedAdmin =>
      .ok { input.base with
        capabilityProfile := .operator
        allowedPaths := [agentWorkspaceRoot]
        allowedServices := [agentService, execBrokerService, adminBrokerService]
        allowedServiceActions := [.restart]
        allowedWritePaths := [agentWorkspaceRoot]
        allowedProcessCwds := [agentWorkspaceRoot]
        allowedProcessPrograms := operatorWorkspacePrograms
        allowedSemanticCapabilities := [managedAdminCapability]
        allowedAdminPrograms := managedAdminDefaultPrograms
        allowedAdminCwds := managedAdminDefaultCwds }
  | .deepharnessSemanticLab =>
      if input.isLab = false then plainError (js "deepharness_lab_target_denied")
      else
        .ok { input.base with
          capabilityProfile := .semanticOperator
          allowedSemanticCapabilities := [deepharnessSemantic] }
  | .openhandsRead =>
      .ok { input.base with
        capabilityProfile := .readOnly
        allowedSemanticCapabilities := [js "openhands.read"] }
  | .openhandsExecute =>
      -- deliberately not an operator: the generic process helpers ask for that profile
      .ok { input.base with
        capabilityProfile := .semanticOperator
        allowedSemanticCapabilities := [js "openhands.read", js "openhands.execute"] }
  | .postgresReadback =>
      .ok { input.base with
        capabilityProfile := .readOnly
        allowedSemanticCapabilities := [js "postgres.pinned_readback"] }
  | .readOnly =>
      .ok { input.base with
        capabilityProfile := .readOnly
        allowedPaths := [agentWorkspaceRoot]
        allowedServices := [agentService, execBrokerService] }
  | .operatorWorkspace =>
      .ok { input.base with
        capabilityProfile := .operator
        allowedPaths := [agentWorkspaceRoot]
        allowedServices := [agentService, execBrokerService]
        allowedServiceActions := [.restart]
        allowedWritePaths := [agentWorkspaceRoot]
        allowedProcessCwds := [agentWorkspaceRoot]
        allowedProcessPrograms := operatorWorkspacePrograms }

/-- What every preset builds: the ids it was given, on the agent mesh, enabled. -/
theorem buildAgentTargetFromPreset_eq_ok {input : PresetInput} {t : TargetConfig}
    (h : buildAgentTargetFromPreset input = .ok t) :
    t.id = input.targetId ∧ t.deviceId = some input.deviceId ∧ t.transport = .agent ∧
      t.environment = input.environment ∧ t.enabled = true := by
  unfold buildAgentTargetFromPreset at h
  split at h
  · rw [← Except.ok.inj h]
    exact ⟨rfl, rfl, rfl, rfl, rfl⟩
  · split_ifs at h
    · simp [plainError, deny] at h
    · rw [← Except.ok.inj h]
      exact ⟨rfl, rfl, rfl, rfl, rfl⟩
  all_goals
    rw [← Except.ok.inj h]
    exact ⟨rfl, rfl, rfl, rfl, rfl⟩

/-- A target that differs from the base in its lists only. -/
theorem accepted_of_base {input : PresetInput} {t : TargetConfig}
    (capabilities programs : List JsString) (hid : t.id = input.targetId) (hdevice : t.deviceId = some input.deviceId)
    (hhost : t.host = js "127.0.0.1") (hport : t.port = 22) (husername : t.username = js "ops-mcp")
    (hnone : (t.hostKeyFingerprint, t.commandTimeoutMs, t.connectTimeoutMs) = (none, none, none))
    (hports : (t.allowedDockerCandidateHostPorts, t.allowedDockerCandidateContainerPorts) = ([], []))
    (hcapabilities : t.allowedSemanticCapabilities = capabilities)
    (hprograms : t.allowedAdminPrograms = programs)
    (hnames : capabilities.all matchesSemanticCapability = true)
    (hwords : programs.all matchesAdminProgram = true) :
    t.accepted = (matchesRegistryId input.targetId && matchesDeviceId input.deviceId) := by
  simp only [Prod.mk.injEq] at hnone hports
  have hhost' : (js "127.0.0.1").isEmpty = false := by decide
  have husername' : (js "ops-mcp").isEmpty = false := by decide
  have hport' : inRangeOf 1 65535 22 = true := by decide
  simp [TargetConfig.accepted, hid, hdevice, hhost, hport, husername, hnone, hports, hcapabilities,
    hprograms, hnames, hwords, hhost', husername', hport']

/-- The ids are all that the schema can refuse. -/
theorem buildAgentTargetFromPreset_accepted {input : PresetInput} {t : TargetConfig}
    (h : buildAgentTargetFromPreset input = .ok t) :
    t.accepted = (matchesRegistryId input.targetId && matchesDeviceId input.deviceId) := by
  unfold buildAgentTargetFromPreset at h
  split at h
  · rw [← Except.ok.inj h]
    exact accepted_of_base [managedAdminCapability] managedAdminDefaultPrograms rfl rfl rfl rfl rfl rfl rfl rfl rfl
      (by decide) (by decide)
  · split_ifs at h
    · simp [plainError, deny] at h
    · rw [← Except.ok.inj h]
      exact accepted_of_base [deepharnessSemantic] [] rfl rfl rfl rfl rfl rfl rfl rfl rfl
        (by decide) (by decide)
  · rw [← Except.ok.inj h]
    exact accepted_of_base [js "openhands.read"] [] rfl rfl rfl rfl rfl rfl rfl rfl rfl
      (by decide) (by decide)
  · rw [← Except.ok.inj h]
    exact accepted_of_base [js "openhands.read", js "openhands.execute"] [] rfl rfl rfl rfl rfl rfl rfl rfl rfl
      (by decide) (by decide)
  · rw [← Except.ok.inj h]
    exact accepted_of_base [js "postgres.pinned_readback"] [] rfl rfl rfl rfl rfl rfl rfl rfl rfl
      (by decide) (by decide)
  · rw [← Except.ok.inj h]
    exact accepted_of_base [] [] rfl rfl rfl rfl rfl rfl rfl rfl rfl
      (by decide) (by decide)
  · rw [← Except.ok.inj h]
    exact accepted_of_base [] [] rfl rfl rfl rfl rfl rfl rfl rfl rfl
      (by decide) (by decide)

end RemoteOps

import RemoteOps.Config.CapabilityBaseline
import RemoteOps.Ecma.Collation

/-!
# Attestation of a target against a preset

`validateAgentTargetAgainstPreset` compares the authority of a target with what
`buildAgentTargetFromPreset` would install, field by field, each list sorted and written as
JSON. Sorting is by `localeCompare`, so the comparison is of lists up to the order of their
elements as long as the lists of the presets hold no ties (`stable_eq_iff`). The verdict
follows in `validateAgentTargetAgainstPreset_spec`.
-/

namespace RemoteOps

open Ecma

def CapabilityProfile.text : CapabilityProfile → JsString
  | readOnly => js "read-only"
  | prodReadMostly => js "prod-read-mostly"
  | operator => js "operator"
  | semanticOperator => js "semantic-operator"

/-! ## Authority fields -/

/-- `AUTHORITY_KEYS`. -/
inductive AuthorityKey where
  | capabilityProfile
  | allowedPaths
  | allowedDockerContainers
  | allowedDockerExecContainers
  | allowedDockerExecPrograms
  | allowedDockerActions
  | allowedDockerImageLoadRoots
  | allowedDockerCandidateImagePrefixes
  | allowedDockerCandidateNetworks
  | allowedDockerCandidateNamePrefixes
  | allowedDockerCandidateHostPorts
  | allowedDockerCandidateContainerPorts
  | allowedServices
  | allowedServiceActions
  | allowedGitRepos
  | allowedSemanticCapabilities
  | allowedAdminPrograms
  | allowedAdminCwds
  | allowedWritePaths
  | allowedProcessCwds
  | allowedProcessPrograms
  deriving DecidableEq

def authorityKeys : List AuthorityKey :=
  [.capabilityProfile, .allowedPaths, .allowedDockerContainers, .allowedDockerExecContainers,
    .allowedDockerExecPrograms, .allowedDockerActions, .allowedDockerImageLoadRoots,
    .allowedDockerCandidateImagePrefixes, .allowedDockerCandidateNetworks,
    .allowedDockerCandidateNamePrefixes, .allowedDockerCandidateHostPorts,
    .allowedDockerCandidateContainerPorts, .allowedServices, .allowedServiceActions,
    .allowedGitRepos, .allowedSemanticCapabilities, .allowedAdminPrograms, .allowedAdminCwds,
    .allowedWritePaths, .allowedProcessCwds, .allowedProcessPrograms]

def AuthorityKey.text : AuthorityKey → JsString
  | capabilityProfile => js "capabilityProfile"
  | allowedPaths => js "allowedPaths"
  | allowedDockerContainers => js "allowedDockerContainers"
  | allowedDockerExecContainers => js "allowedDockerExecContainers"
  | allowedDockerExecPrograms => js "allowedDockerExecPrograms"
  | allowedDockerActions => js "allowedDockerActions"
  | allowedDockerImageLoadRoots => js "allowedDockerImageLoadRoots"
  | allowedDockerCandidateImagePrefixes => js "allowedDockerCandidateImagePrefixes"
  | allowedDockerCandidateNetworks => js "allowedDockerCandidateNetworks"
  | allowedDockerCandidateNamePrefixes => js "allowedDockerCandidateNamePrefixes"
  | allowedDockerCandidateHostPorts => js "allowedDockerCandidateHostPorts"
  | allowedDockerCandidateContainerPorts => js "allowedDockerCandidateContainerPorts"
  | allowedServices => js "allowedServices"
  | allowedServiceActions => js "allowedServiceActions"
  | allowedGitRepos => js "allowedGitRepos"
  | allowedSemanticCapabilities => js "allowedSemanticCapabilities"
  | allowedAdminPrograms => js "allowedAdminPrograms"
  | allowedAdminCwds => js "allowedAdminCwds"
  | allowedWritePaths => js "allowedWritePaths"
  | allowedProcessCwds => js "allowedProcessCwds"
  | allowedProcessPrograms => js "allowedProcessPrograms"

/-- What a target holds under an authority key. -/
inductive AuthorityValue where
  | profile (p : CapabilityProfile)
  | texts (xs : List JsString)
  | dockerActions (xs : List DockerAction)
  | serviceActions (xs : List ServiceAction)
  | ports (ns : List ℕ)

/-- `target[key]`. -/
def AuthorityKey.valueIn (t : TargetConfig) : AuthorityKey → AuthorityValue
  | capabilityProfile => .profile t.capabilityProfile
  | allowedPaths => .texts t.allowedPaths
  | allowedDockerContainers => .texts t.allowedDockerContainers
  | allowedDockerExecContainers => .texts t.allowedDockerExecContainers
  | allowedDockerExecPrograms => .texts t.allowedDockerExecPrograms
  | allowedDockerActions => .dockerActions t.allowedDockerActions
  | allowedDockerImageLoadRoots => .texts t.allowedDockerImageLoadRoots
  | allowedDockerCandidateImagePrefixes => .texts t.allowedDockerCandidateImagePrefixes
  | allowedDockerCandidateNetworks => .texts t.allowedDockerCandidateNetworks
  | allowedDockerCandidateNamePrefixes => .texts t.allowedDockerCandidateNamePrefixes
  | allowedDockerCandidateHostPorts => .ports t.allowedDockerCandidateHostPorts
  | allowedDockerCandidateContainerPorts => .ports t.allowedDockerCandidateContainerPorts
  | allowedServices => .texts t.allowedServices
  | allowedServiceActions => .serviceActions t.allowedServiceActions
  | allowedGitRepos => .texts t.allowedGitRepos
  | allowedSemanticCapabilities => .texts t.allowedSemanticCapabilities
  | allowedAdminPrograms => .texts t.allowedAdminPrograms
  | allowedAdminCwds => .texts t.allowedAdminCwds
  | allowedWritePaths => .texts t.allowedWritePaths
  | allowedProcessCwds => .texts t.allowedProcessCwds
  | allowedProcessPrograms => .texts t.allowedProcessPrograms

def AuthorityValue.toJson : AuthorityValue → Json
  | profile p => .str p.text
  | texts xs => .arr (xs.map .str)
  | dockerActions xs => .arr ((xs.map DockerAction.text).map .str)
  | serviceActions xs => .arr ((xs.map ServiceAction.text).map .str)
  | ports ns => .arr (ns.map fun n => .num (JsNumber.ofDecimal false n 0))

/-! ## The verdict -/

/-- `describeTargetCapabilityBaseline`. -/
structure CapabilityCounts where
  authorityClass : CapabilityProfile
  transport : TransportKind
  workspaceReadRoots : ℕ
  workspaceWriteRoots : ℕ
  processCwdRoots : ℕ
  processPrograms : ℕ
  dockerReadContainers : ℕ
  dockerExecContainers : ℕ
  dockerActions : ℕ
  serviceUnits : ℕ
  serviceActions : ℕ
  semanticCapabilities : ℕ
  managedAdmin : Bool
  adminPrograms : ℕ
  adminCwdRoots : ℕ
  deriving DecidableEq

def describeTargetCapabilityBaseline (t : TargetConfig) : CapabilityCounts where
  authorityClass := t.capabilityProfile
  transport := t.transport
  workspaceReadRoots := t.allowedPaths.length
  workspaceWriteRoots := t.allowedWritePaths.length
  processCwdRoots := t.allowedProcessCwds.length
  processPrograms := t.allowedProcessPrograms.length
  dockerReadContainers := t.allowedDockerContainers.length
  dockerExecContainers := t.allowedDockerExecContainers.length
  dockerActions := t.allowedDockerActions.length
  serviceUnits := t.allowedServices.length
  serviceActions := t.allowedServiceActions.length
  semanticCapabilities := t.allowedSemanticCapabilities.length
  managedAdmin := t.allowedSemanticCapabilities.contains managedAdminCapability
  adminPrograms := t.allowedAdminPrograms.length
  adminCwdRoots := t.allowedAdminCwds.length

structure PresetVerdict where
  preset : AgentTargetPreset
  valid : Bool
  differences : List JsString
  capabilityBaseline : CapabilityCounts
  deriving DecidableEq

def stable (locale : Collation) : Json → List Char
  | .arr xs => (Json.arr (sortByText locale xs)).stringify
  | x => x.stringify

/-- The authority fields in which two targets differ. -/
def differingKeys (locale : Collation) (target expected : TargetConfig) : List AuthorityKey :=
  authorityKeys.filter fun key =>
    decide (stable locale (key.valueIn target).toJson ≠
      stable locale (key.valueIn expected).toJson)

/-- The transport is the agent's and a device id is given. -/
def TargetConfig.onAgent (t : TargetConfig) : Bool :=
  decide (t.transport = .agent) && !(t.deviceId.getD []).isEmpty

def validateAgentTargetAgainstPreset (locale : Collation) (target : TargetConfig)
    (preset : AgentTargetPreset) : Except OpsError PresetVerdict :=
  if target.onAgent = false then
    .ok ⟨preset, false, [js "transport/deviceId"], describeTargetCapabilityBaseline target⟩
  else do
    let expected ← buildAgentTargetFromPreset
      ⟨target.id, target.deviceId.getD [], target.environment, preset⟩
    let differences := (differingKeys locale target expected).map AuthorityKey.text
    return ⟨preset, differences.isEmpty, differences, describeTargetCapabilityBaseline target⟩

/-! ## What the comparison sees -/

/-- The same value, lists up to the order of their elements. -/
def AuthorityValue.SameUpToOrder : AuthorityValue → AuthorityValue → Prop
  | profile p, profile q => p = q
  | texts xs, texts ys => xs.Perm ys
  | dockerActions xs, dockerActions ys => xs.Perm ys
  | serviceActions xs, serviceActions ys => xs.Perm ys
  | ports ms, ports ns => ms.Perm ns
  | _, _ => False

/-- A value that has one sorted form: its texts are separable, and it lists no ports. -/
def AuthorityValue.Attestable : AuthorityValue → Prop
  | profile _ => True
  | texts xs => Separable xs
  | dockerActions xs => Separable (xs.map DockerAction.text)
  | serviceActions xs => Separable (xs.map ServiceAction.text)
  | ports ns => ns = []

theorem CapabilityProfile.text_injective : Function.Injective CapabilityProfile.text := by
  intro p q h
  cases p <;> cases q <;> first | rfl | exact absurd h (by decide)

theorem DockerAction.text_injective : Function.Injective DockerAction.text := by
  intro p q h
  cases p <;> cases q <;> first | rfl | exact absurd h (by decide)

theorem ServiceAction.text_injective : Function.Injective ServiceAction.text := by
  intro p q h
  cases p <;> cases q <;> first | rfl | exact absurd h (by decide)

theorem stable_texts_iff (locale : Collation) {xs ys : List JsString} (h : Separable ys) :
    stable locale (.arr (xs.map .str)) = stable locale (.arr (ys.map .str)) ↔ xs.Perm ys :=
  stringify_sortByText_iff locale h

theorem stable_nil_iff (locale : Collation) {xs : List Json} :
    stable locale (.arr xs) = stable locale (.arr []) ↔ xs = [] := by
  have hnil : sortByText locale [] = [] := List.mergeSort_nil
  rw [stable, stable, hnil, stringify_arr_eq_nil_iff]
  constructor
  · intro h
    have hperm := List.mergeSort_perm xs fun a b => locale.le (stringOf a) (stringOf b)
    rw [show xs.mergeSort _ = [] from h] at hperm
    exact hperm.symm.eq_nil
  · intro h
    rw [h, hnil]

/-- A field has the same text as one with a single sorted form exactly when it agrees with
it up to order. -/
theorem stable_eq_iff (locale : Collation) (key : AuthorityKey) {target expected : TargetConfig}
    (h : (key.valueIn expected).Attestable) :
    stable locale (key.valueIn target).toJson = stable locale (key.valueIn expected).toJson ↔
      (key.valueIn target).SameUpToOrder (key.valueIn expected) := by
  cases key
  case capabilityProfile =>
    constructor
    · intro heq
      have htext := Json.str.inj (stringify_injective trivial trivial heq)
      exact CapabilityProfile.text_injective htext
    · intro heq
      exact congrArg (fun p : CapabilityProfile => stable locale (.str p.text)) heq
  case allowedDockerActions =>
    exact (stable_texts_iff locale h).trans (List.map_perm_map_iff DockerAction.text_injective)
  case allowedServiceActions =>
    exact (stable_texts_iff locale h).trans (List.map_perm_map_iff ServiceAction.text_injective)
  case allowedDockerCandidateHostPorts =>
    have hports : expected.allowedDockerCandidateHostPorts = [] := h
    simp only [AuthorityKey.valueIn, AuthorityValue.toJson, AuthorityValue.SameUpToOrder, hports,
      List.map_nil, stable_nil_iff, List.map_eq_nil_iff, List.perm_nil]
  case allowedDockerCandidateContainerPorts =>
    have hports : expected.allowedDockerCandidateContainerPorts = [] := h
    simp only [AuthorityKey.valueIn, AuthorityValue.toJson, AuthorityValue.SameUpToOrder, hports,
      List.map_nil, stable_nil_iff, List.map_eq_nil_iff, List.perm_nil]
  all_goals exact stable_texts_iff locale h

/-! ## What the presets list -/

/-- The lists of texts that occur in a preset. -/
def presetTexts : List (List JsString) :=
  [[], [agentWorkspaceRoot], [agentService, execBrokerService],
    [agentService, execBrokerService, adminBrokerService], [ServiceAction.restart.text],
    operatorWorkspacePrograms, managedAdminDefaultPrograms, managedAdminDefaultCwds,
    [managedAdminCapability], [deepharnessSemantic], [js "openhands.read"],
    [js "openhands.read", js "openhands.execute"], [js "postgres.pinned_readback"]]

theorem separable_of_mem {xs : List JsString} (h : xs ∈ presetTexts) : Separable xs := by
  revert xs
  decide +kernel

/-- A preset that grants semantic capabilities and nothing else. -/
theorem attestable_semantic (input : PresetInput) (profile : CapabilityProfile)
    {capabilities : List JsString} (h : capabilities ∈ presetTexts) (key : AuthorityKey) :
    (key.valueIn { input.base with
      capabilityProfile := profile
      allowedSemanticCapabilities := capabilities }).Attestable := by
  cases key
  case capabilityProfile => trivial
  case allowedSemanticCapabilities => exact separable_of_mem h
  case allowedDockerCandidateHostPorts => rfl
  case allowedDockerCandidateContainerPorts => rfl
  all_goals exact separable_of_mem List.mem_cons_self

/-- Every field that a preset builds has one sorted form. -/
theorem attestable_of_build {input : PresetInput} {t : TargetConfig}
    (h : buildAgentTargetFromPreset input = .ok t) (key : AuthorityKey) :
    (key.valueIn t).Attestable := by
  unfold buildAgentTargetFromPreset at h
  split at h
  · rw [← Except.ok.inj h]
    cases key <;> first
      | trivial
      | rfl
      | exact separable_of_mem (by simp [presetTexts, PresetInput.base])
  · split_ifs at h
    · simp [plainError, deny] at h
    · rw [← Except.ok.inj h]
      exact attestable_semantic input .semanticOperator (by simp [presetTexts]) key
  · rw [← Except.ok.inj h]
    exact attestable_semantic input .readOnly (by simp [presetTexts]) key
  · rw [← Except.ok.inj h]
    exact attestable_semantic input .semanticOperator (by simp [presetTexts]) key
  · rw [← Except.ok.inj h]
    exact attestable_semantic input .readOnly (by simp [presetTexts]) key
  · rw [← Except.ok.inj h]
    cases key <;> first
      | trivial
      | rfl
      | exact separable_of_mem (by simp [presetTexts, PresetInput.base])
  · rw [← Except.ok.inj h]
    cases key <;> first
      | trivial
      | rfl
      | exact separable_of_mem (by simp [presetTexts, PresetInput.base])

/-! ## The verdict is right -/

/-- Two targets hold the same authority, lists up to the order of their elements. -/
def SameAuthority (target expected : TargetConfig) : Prop :=
  ∀ key : AuthorityKey, (key.valueIn target).SameUpToOrder (key.valueIn expected)

theorem mem_authorityKeys (key : AuthorityKey) : key ∈ authorityKeys := by
  cases key <;> decide

theorem mem_differingKeys_iff (locale : Collation) {input : PresetInput}
    {target expected : TargetConfig} (h : buildAgentTargetFromPreset input = .ok expected)
    (key : AuthorityKey) :
    key ∈ differingKeys locale target expected ↔
      ¬(key.valueIn target).SameUpToOrder (key.valueIn expected) := by
  unfold differingKeys
  rw [List.mem_filter, decide_eq_true_eq, Ne,
    stable_eq_iff locale key (attestable_of_build h key)]
  constructor
  · intro hkey
    exact hkey.2
  · intro hkey
    exact ⟨mem_authorityKeys key, hkey⟩

theorem differingKeys_eq_nil_iff (locale : Collation) {input : PresetInput}
    {target expected : TargetConfig} (h : buildAgentTargetFromPreset input = .ok expected) :
    differingKeys locale target expected = [] ↔ SameAuthority target expected := by
  rw [List.eq_nil_iff_forall_not_mem]
  apply forall_congr'
  intro key
  rw [mem_differingKeys_iff locale h, not_not]

/-- What the preset is built from when a target is attested. -/
def TargetConfig.presetInput (target : TargetConfig) (preset : AgentTargetPreset) : PresetInput :=
  ⟨target.id, target.deviceId.getD [], target.environment, preset⟩

/-- The laboratory preset belongs to one target and one environment. -/
def PresetInput.admitted (input : PresetInput) : Prop :=
  input.preset = .deepharnessSemanticLab → input.isLab = true

theorem buildAgentTargetFromPreset_refused {input : PresetInput} (h : ¬input.admitted) :
    buildAgentTargetFromPreset input = plainError (js "deepharness_lab_target_denied") := by
  obtain ⟨hpreset, hlab⟩ := Classical.not_imp.mp h
  simp [buildAgentTargetFromPreset, hpreset, hlab]

theorem buildAgentTargetFromPreset_admitted {input : PresetInput} (h : input.admitted) :
    ∃ expected, buildAgentTargetFromPreset input = .ok expected := by
  unfold buildAgentTargetFromPreset
  split
  case h_2 hpreset => exact ⟨_, if_neg (by simp [h hpreset])⟩
  all_goals exact ⟨_, rfl⟩

theorem validateAgentTargetAgainstPreset_of_build (locale : Collation) {target : TargetConfig}
    {preset : AgentTargetPreset} {expected : TargetConfig} (hagent : target.onAgent = true)
    (h : buildAgentTargetFromPreset (target.presetInput preset) = .ok expected) :
    validateAgentTargetAgainstPreset locale target preset =
      .ok ⟨preset, ((differingKeys locale target expected).map AuthorityKey.text).isEmpty,
        (differingKeys locale target expected).map AuthorityKey.text,
        describeTargetCapabilityBaseline target⟩ := by
  unfold validateAgentTargetAgainstPreset
  rw [if_neg (by simp [hagent])]
  change buildAgentTargetFromPreset (target.presetInput preset) >>= _ = _
  rw [h]
  rfl

theorem validateAgentTargetAgainstPreset_refused {locale : Collation} {target : TargetConfig}
    {preset : AgentTargetPreset} (hagent : target.onAgent = true)
    (h : ¬(target.presetInput preset).admitted) :
    validateAgentTargetAgainstPreset locale target preset =
      plainError (js "deepharness_lab_target_denied") := by
  unfold validateAgentTargetAgainstPreset
  rw [if_neg (by simp [hagent])]
  change buildAgentTargetFromPreset (target.presetInput preset) >>= _ = _
  rw [buildAgentTargetFromPreset_refused h]
  rfl

/-- A target outside the agent mesh is invalid for that reason alone. The laboratory preset
is refused for any other target of the mesh. In every other case there is a verdict: it is
valid exactly for the authority that the preset builds, lists up to order, and it names
exactly the fields that differ. -/
theorem validateAgentTargetAgainstPreset_spec (locale : Collation) (target : TargetConfig)
    (preset : AgentTargetPreset) :
    (target.onAgent = false →
      validateAgentTargetAgainstPreset locale target preset =
        .ok ⟨preset, false, [js "transport/deviceId"],
          describeTargetCapabilityBaseline target⟩) ∧
    (target.onAgent = true → ¬(target.presetInput preset).admitted →
      validateAgentTargetAgainstPreset locale target preset =
        plainError (js "deepharness_lab_target_denied")) ∧
    (target.onAgent = true → (target.presetInput preset).admitted →
      ∃ expected verdict,
        buildAgentTargetFromPreset (target.presetInput preset) = .ok expected ∧
        validateAgentTargetAgainstPreset locale target preset = .ok verdict ∧
        verdict.preset = preset ∧
        verdict.capabilityBaseline = describeTargetCapabilityBaseline target ∧
        (verdict.valid = true ↔ SameAuthority target expected) ∧
        ∃ keys : List AuthorityKey, keys.Sublist authorityKeys ∧
          verdict.differences = keys.map AuthorityKey.text ∧
          ∀ key : AuthorityKey, key ∈ keys ↔
            ¬(key.valueIn target).SameUpToOrder (key.valueIn expected)) := by
  constructor
  · intro hagent
    exact if_pos hagent
  constructor
  · intro hagent hrefused
    exact validateAgentTargetAgainstPreset_refused hagent hrefused
  · intro hagent hadmitted
    obtain ⟨expected, hbuild⟩ := buildAgentTargetFromPreset_admitted hadmitted
    have hverdict := validateAgentTargetAgainstPreset_of_build locale hagent hbuild
    refine ⟨expected, _, hbuild, hverdict, rfl, rfl, ?_, differingKeys locale target expected,
      List.filter_sublist, rfl, mem_differingKeys_iff locale hbuild⟩
    rw [List.isEmpty_iff, List.map_eq_nil_iff]
    exact differingKeys_eq_nil_iff locale hbuild

/-- An agent target as the `openhands-read` preset builds it. -/
def openhandsTarget : TargetConfig where
  id := js "vigia-openhands-read"
  deviceId := some (js "dev_multivpsbaseline123")
  transport := .agent
  capabilityProfile := .readOnly
  allowedSemanticCapabilities := [js "openhands.read"]

/-- The laboratory preset throws on another target, and a target that is reached by SSH has
a difference that is not an authority field. -/
theorem openhandsTarget_noVerdict :
    openhandsTarget.accepted = true ∧
    (¬∃ verdict, validateAgentTargetAgainstPreset codeUnitOrder openhandsTarget
      .deepharnessSemanticLab = .ok verdict) ∧
    ∃ verdict, validateAgentTargetAgainstPreset codeUnitOrder
        { openhandsTarget with transport := .ssh } .openhandsRead = .ok verdict ∧
      verdict.differences = [js "transport/deviceId"] ∧
      ∀ key ∈ authorityKeys, key.text ≠ js "transport/deviceId" := by
  refine ⟨by decide +kernel, ?_, _, rfl, rfl, by decide⟩
  have hrefused : validateAgentTargetAgainstPreset codeUnitOrder openhandsTarget
      .deepharnessSemanticLab = plainError (js "deepharness_lab_target_denied") := by
    apply validateAgentTargetAgainstPreset_refused (by decide)
    intro hadmitted
    exact absurd (hadmitted rfl) (by decide)
  rw [hrefused]
  intro ⟨verdict, h⟩
  simp [plainError, deny] at h

end RemoteOps

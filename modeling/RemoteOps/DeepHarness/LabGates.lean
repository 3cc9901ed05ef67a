import RemoteOps.Config.Attestation

/-!
# The two gates of the semantic laboratory

A dispatch passes `validateDshSemanticAgentTarget`, which lists nineteen fields that must be
empty. A change of the grants passes `validateAgentTargetAgainstPreset`, which compares
twenty-one fields with the preset. Both come to the authority of `labPresetTarget`
(`sameAuthority_labPreset_iff`), so that they open for the same targets.
-/

namespace RemoteOps

open Ecma

/-- What `validateDshSemanticAgentTarget` returns. -/
structure LabTarget where
  id : JsString
  deviceId : JsString
  deriving DecidableEq

/-- The fields that the dispatch gate wants empty. -/
def labEmptyKeys : List AuthorityKey :=
  [.allowedPaths, .allowedGitRepos,
    .allowedDockerContainers, .allowedDockerExecContainers,
    .allowedDockerExecPrograms, .allowedDockerActions, .allowedDockerImageLoadRoots,
    .allowedDockerCandidateImagePrefixes, .allowedDockerCandidateNetworks,
    .allowedDockerCandidateNamePrefixes, .allowedDockerCandidateHostPorts,
    .allowedDockerCandidateContainerPorts, .allowedServices, .allowedServiceActions,
    .allowedAdminPrograms, .allowedAdminCwds, .allowedWritePaths,
    .allowedProcessCwds, .allowedProcessPrograms]

def arrayEmpty : AuthorityValue → Bool
  | .profile _ => false
  | .texts xs => xs.isEmpty
  | .dockerActions xs => xs.isEmpty
  | .serviceActions xs => xs.isEmpty
  | .ports ns => ns.isEmpty

def validateDshSemanticAgentTarget (t : TargetConfig) : Except OpsError LabTarget :=
  if t.id ≠ deepharnessSemanticLabId ∨ t.transport ≠ .agent ∨
      t.environment ≠ .development ∨ t.capabilityProfile ≠ .semanticOperator ∨
      t.enabled ≠ true ∨ t.deviceId.any matchesDeviceId ≠ true ∨
      t.allowedSemanticCapabilities.length ≠ 1 ∨
      t.allowedSemanticCapabilities[0]? ≠ some deepharnessSemantic ∨
      (labEmptyKeys.all fun key => arrayEmpty (key.valueIn t)) = false then
    plainError (js "deepharness_agent_mesh_client_unavailable")
  else .ok ⟨deepharnessSemanticLabId, t.deviceId.getD []⟩

/-- The dispatch gate is open. -/
def DispatchOpen (t : TargetConfig) : Prop :=
  ∃ trusted, validateDshSemanticAgentTarget t = .ok trusted

/-- The attestation of the grant administration is passed. -/
def Attested (locale : Collation) (t : TargetConfig) : Prop :=
  ∃ verdict, validateAgentTargetAgainstPreset locale t .deepharnessSemanticLab = .ok verdict ∧
    verdict.valid = true

/-- The laboratory's target as its preset builds it. -/
def labPresetTarget (deviceId : JsString) : TargetConfig where
  id := deepharnessSemanticLabId
  deviceId := some deviceId
  environment := .development
  transport := .agent
  capabilityProfile := .semanticOperator
  allowedSemanticCapabilities := [deepharnessSemantic]

/-! ## One authority -/

theorem key_mem_labEmptyKeys (key : AuthorityKey) :
    key = .capabilityProfile ∨ key = .allowedSemanticCapabilities ∨ key ∈ labEmptyKeys := by
  cases key <;> decide

/-- In the fields that must be empty, agreeing with the preset is being empty. -/
theorem same_labPreset_iff_arrayEmpty {key : AuthorityKey} (h : key ∈ labEmptyKeys)
    (t : TargetConfig) (deviceId : JsString) :
    (key.valueIn t).SameUpToOrder (key.valueIn (labPresetTarget deviceId)) ↔
      arrayEmpty (key.valueIn t) = true := by
  cases key
  case capabilityProfile => exact absurd h (by decide)
  case allowedSemanticCapabilities => exact absurd h (by decide)
  all_goals exact List.perm_nil.trans List.isEmpty_iff.symm

theorem sameAuthority_labPreset_iff (t : TargetConfig) (deviceId : JsString) :
    SameAuthority t (labPresetTarget deviceId) ↔
      t.capabilityProfile = .semanticOperator ∧
        t.allowedSemanticCapabilities = [deepharnessSemantic] ∧
        (labEmptyKeys.all fun key => arrayEmpty (key.valueIn t)) = true := by
  constructor
  · intro hsame
    refine ⟨hsame .capabilityProfile, ?_, ?_⟩
    · exact List.perm_singleton.mp (hsame .allowedSemanticCapabilities)
    · apply List.all_eq_true.mpr
      intro key hkey
      exact (same_labPreset_iff_arrayEmpty hkey t deviceId).mp (hsame key)
  · rintro ⟨hprofile, hcapabilities, hempty⟩ key
    rcases key_mem_labEmptyKeys key with hkey | hkey | hkey
    · rw [hkey]
      exact hprofile
    · rw [hkey]
      exact List.Perm.of_eq hcapabilities
    · have hnone := List.all_eq_true.mp hempty key hkey
      exact (same_labPreset_iff_arrayEmpty hkey t deviceId).mpr hnone

/-! ## The gates -/

/-- The laboratory's own list of capabilities, as the dispatch gate reads it. -/
theorem singleton_iff {xs : List JsString} {x : JsString} :
    xs = [x] ↔ xs.length = 1 ∧ xs[0]? = some x := by
  constructor
  · rintro rfl
    exact ⟨rfl, rfl⟩
  · rintro ⟨hlength, hhead⟩
    obtain ⟨y, rfl⟩ := List.length_eq_one_iff.mp hlength
    rw [Option.some.inj hhead]

theorem dispatchOpen_iff (t : TargetConfig) (deviceId : JsString) :
    DispatchOpen t ↔
      t.id = deepharnessSemanticLabId ∧ t.transport = .agent ∧ t.environment = .development ∧
        t.enabled = true ∧ t.deviceId.any matchesDeviceId = true ∧
        SameAuthority t (labPresetTarget deviceId) := by
  rw [sameAuthority_labPreset_iff, singleton_iff]
  unfold DispatchOpen validateDshSemanticAgentTarget
  constructor
  · rintro ⟨trusted, h⟩
    split_ifs at h with hrefused
    · simp [plainError, deny] at h
    · simp only [ne_eq, not_or, not_not, Bool.not_eq_false] at hrefused
      obtain ⟨hid, htransport, henvironment, hprofile, henabled, hdevice, hlength, hhead, hempty⟩ :=
        hrefused
      exact ⟨hid, htransport, henvironment, henabled, hdevice, hprofile, ⟨hlength, hhead⟩, hempty⟩
  · rintro ⟨hid, htransport, henvironment, henabled, hdevice, hprofile, ⟨hlength, hhead⟩, hempty⟩
    refine ⟨_, if_neg ?_⟩
    simp only [ne_eq, not_or, not_not, Bool.not_eq_false]
    exact ⟨hid, htransport, henvironment, hprofile, henabled, hdevice, hlength, hhead, hempty⟩

/-- On the laboratory's id and environment its preset builds the authority of `labPresetTarget`. -/
theorem build_lab {input : PresetInput} (hpreset : input.preset = .deepharnessSemanticLab)
    (hlab : input.isLab = true) (deviceId : JsString) :
    ∃ expected, buildAgentTargetFromPreset input = .ok expected ∧
      ∀ key : AuthorityKey, key.valueIn expected = key.valueIn (labPresetTarget deviceId) := by
  unfold buildAgentTargetFromPreset
  rw [hpreset]
  refine ⟨_, if_neg (by simp [hlab]), ?_⟩
  intro key
  cases key <;> rfl

theorem isLab_presetInput_iff (t : TargetConfig) (preset : AgentTargetPreset) :
    (t.presetInput preset).isLab = true ↔
      t.id = deepharnessSemanticLabId ∧ t.environment = .development := by
  unfold PresetInput.isLab
  rw [Bool.and_eq_true, decide_eq_true_iff, decide_eq_true_iff]
  exact Iff.rfl

/-- On the laboratory's own id and environment the attestation compares with `labPresetTarget`. -/
theorem attested_iff_of_lab (locale : Collation) {t : TargetConfig} (deviceId : JsString)
    (hagent : t.onAgent = true) (hlab : (t.presetInput .deepharnessSemanticLab).isLab = true) :
    Attested locale t ↔ SameAuthority t (labPresetTarget deviceId) := by
  obtain ⟨expected, hbuild, hvalues⟩ := build_lab rfl hlab deviceId
  have hsame : SameAuthority t expected ↔ SameAuthority t (labPresetTarget deviceId) := by
    apply forall_congr'
    intro key
    rw [hvalues key]
  rw [← hsame, ← differingKeys_eq_nil_iff locale hbuild, Attested,
    validateAgentTargetAgainstPreset_of_build locale hagent hbuild]
  constructor
  · rintro ⟨verdict, hverdict, hvalid⟩
    rw [← Except.ok.inj hverdict] at hvalid
    exact List.map_eq_nil_iff.mp (List.isEmpty_iff.mp hvalid)
  · intro hnone
    refine ⟨_, rfl, ?_⟩
    rw [hnone]
    rfl

theorem attested_iff (locale : Collation) (t : TargetConfig) (deviceId : JsString) :
    Attested locale t ↔
      t.onAgent = true ∧ t.id = deepharnessSemanticLabId ∧ t.environment = .development ∧
        SameAuthority t (labPresetTarget deviceId) := by
  constructor
  · intro hattested
    obtain ⟨verdict, hverdict, hvalid⟩ := id hattested
    have hagent : t.onAgent = true := by
      by_contra hagent
      rw [validateAgentTargetAgainstPreset, if_pos (by simpa using hagent)] at hverdict
      rw [← Except.ok.inj hverdict] at hvalid
      cases hvalid
    have hlab : (t.presetInput .deepharnessSemanticLab).isLab = true := by
      by_contra hlab
      have hrefused : ¬(t.presetInput .deepharnessSemanticLab).admitted := fun h => hlab (h rfl)
      rw [validateAgentTargetAgainstPreset_refused hagent hrefused] at hverdict
      cases hverdict
    obtain ⟨hid, henvironment⟩ := (isLab_presetInput_iff t _).mp hlab
    have hsame := (attested_iff_of_lab locale deviceId hagent hlab).mp hattested
    exact ⟨hagent, hid, henvironment, hsame⟩
  · rintro ⟨hagent, hid, henvironment, hsame⟩
    have hlab := (isLab_presetInput_iff t .deepharnessSemanticLab).mpr ⟨hid, henvironment⟩
    exact (attested_iff_of_lab locale deviceId hagent hlab).mpr hsame

/-- A device id that the schema admits is not empty. -/
theorem onAgent_iff_of_accepted {t : TargetConfig} (h : t.accepted = true) :
    t.onAgent = true ↔ t.transport = .agent ∧ t.deviceId.any matchesDeviceId = true := by
  have hdevice : t.deviceId.all matchesDeviceId = true := by
    simp only [TargetConfig.accepted, Bool.and_eq_true] at h
    exact h.1.1.1.1.1.1.1.2
  unfold TargetConfig.onAgent
  cases hid : t.deviceId with
  | none => simp
  | some d =>
      rw [hid] at hdevice
      have hmatches : matchesDeviceId d = true := hdevice
      have hnonempty : d.isEmpty = false := by
        cases d with
        | nil => exact absurd hmatches (by decide)
        | cons u us => rfl
      simp [hmatches, hnonempty]

/-- The gates open for the same targets, and any difference in authority closes both. -/
theorem labGates_agree (locale : Collation) (t : TargetConfig) (henabled : t.enabled = true)
    (haccepted : t.accepted = true) :
    (DispatchOpen t ↔
      t.id = deepharnessSemanticLabId ∧ t.environment = .development ∧ Attested locale t) ∧
    (t.id = deepharnessSemanticLabId → (DispatchOpen t ↔ Attested locale t)) ∧
    ∀ deviceId, ∀ key : AuthorityKey,
      ¬(key.valueIn t).SameUpToOrder (key.valueIn (labPresetTarget deviceId)) →
        ¬DispatchOpen t ∧ ¬Attested locale t := by
  have hagent := onAgent_iff_of_accepted haccepted
  have hdispatch := dispatchOpen_iff t []
  have hattested := attested_iff locale t []
  refine ⟨?_, ?_, ?_⟩
  · rw [hdispatch, hattested, hagent]
    constructor
    · rintro ⟨hid, htransport, henvironment, _, hdevice, hsame⟩
      exact ⟨hid, henvironment, ⟨htransport, hdevice⟩, hid, henvironment, hsame⟩
    · rintro ⟨hid, henvironment, ⟨htransport, hdevice⟩, _, _, hsame⟩
      exact ⟨hid, htransport, henvironment, henabled, hdevice, hsame⟩
  · intro hid
    rw [hdispatch, hattested, hagent]
    constructor
    · rintro ⟨_, htransport, henvironment, _, hdevice, hsame⟩
      exact ⟨⟨htransport, hdevice⟩, hid, henvironment, hsame⟩
    · rintro ⟨⟨htransport, hdevice⟩, _, henvironment, hsame⟩
      exact ⟨hid, htransport, henvironment, henabled, hdevice, hsame⟩
  · intro deviceId key hdiffers
    constructor
    · intro hopen
      exact hdiffers (((dispatchOpen_iff t deviceId).mp hopen).2.2.2.2.2 key)
    · intro hopen
      exact hdiffers (((attested_iff locale t deviceId).mp hopen).2.2.2 key)

/-- The laboratory's target opens both gates. -/
theorem labPresetTarget_gates :
    (labPresetTarget (js "dev_lab_agent_12345678")).enabled = true ∧
    (labPresetTarget (js "dev_lab_agent_12345678")).accepted = true ∧
    (DispatchOpen (labPresetTarget (js "dev_lab_agent_12345678")) ↔
      Attested codeUnitOrder (labPresetTarget (js "dev_lab_agent_12345678"))) := by
  have haccepted : (labPresetTarget (js "dev_lab_agent_12345678")).accepted = true := by decide +kernel
  exact ⟨rfl, haccepted, (labGates_agree codeUnitOrder _ rfl haccepted).2.1 rfl⟩

end RemoteOps

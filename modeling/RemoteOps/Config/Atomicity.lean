import RemoteOps.Config.TargetApprovals

/-!
# Applications that fail

An application should install its target or change nothing. `upsertDynamicAgentTarget`
replaces the overlay and then loads the registry, so a load that fails leaves the new
overlay behind; and `target_agent_apply` looks at the runtime controls of the target when
it has been installed. `applyIsAtomic_iff` says exactly when a call is all or nothing.
-/

namespace RemoteOps

open Ecma

/-! ## The calls -/

/-- `resolveTarget` for an id that is a string. -/
def resolveTarget (registry : Registry) (live : Live) (id : JsString) :
    Except OpsError TargetConfig :=
  if id = [] then deny "INVALID_ARGUMENT" (js "parâmetro target é obrigatório")
  else
    match getTarget registry id with
    | none => deny "TARGET_NOT_FOUND" (js "target " ++ quoted id ++ js " não existe no registry")
    | some t => do
        requireThat (effectiveTargetEnabled t.id t.enabled live = true) "TARGET_DISABLED"
          (js "target " ++ quoted id ++ js " está desabilitado")
        return t

/-- `run` of the tool `target_agent_apply`. -/
def targetAgentApply (env : AuthEnv) (registryEnv : RegistryEnv) (s : TargetAdministration)
    (input : ApplyInput) : Except OpsError AppliedTarget × TargetAdministration :=
  match applyAgentTargetApproval env registryEnv s input with
  | (.error e, s) => (.error e, s)
  | (.ok applied, s) =>
      match resolveTarget s.registry.registry s.live applied.target.id with
      | .error e => (.error e, s)
      | .ok target => (.ok { applied with target }, s)

inductive ApplyCall where
  | upsert (target : TargetConfig) (now : TimeValue) (writes : Bool)
  | applyTarget (input : ApplyInput)
  | applyRead (input : ApplyInput)
  | tool (input : ApplyInput)

/-- The first reading of the clock. -/
def ApplyCall.now : ApplyCall → ℤ
  | .upsert _ now _ => now.ms
  | .applyTarget input | .applyRead input | .tool input => input.clock.purge.ms

def ApplyCall.run (env : AuthEnv) (registryEnv : RegistryEnv) (s : TargetAdministration) :
    ApplyCall → Except OpsError Unit × TargetAdministration
  | .upsert target _ writes =>
      let (answer, registry) := upsertDynamicAgentTarget registryEnv s.registry target writes
      (answer.map fun _ => (), { s with registry })
  | .applyTarget input =>
      let (answer, s) := applyAgentTargetApproval env registryEnv s input
      (answer.map fun _ => (), s)
  | .applyRead input => applyDeepharnessDockerRead env registryEnv s input
  | .tool input =>
      let (answer, s) := targetAgentApply env registryEnv s input
      (answer.map fun _ => (), s)

/-- A state whose approvals are filed under their ids. -/
structure FiledAdministration extends TargetAdministration where
  filed : ∀ id approval, approvals.get? id = some approval → approval.id = id

/-! ## What is claimed -/

/-- The files, the registry and the approvals that have not expired are the same. -/
structure Unchanged (now : ℤ) (s s' : TargetAdministration) : Prop where
  registry : s'.registry = s.registry
  approvals : ∀ id approval, now ≤ approval.expiresAt →
    (s'.approvals.get? id = some approval ↔ s.approvals.get? id = some approval)
  pending : ∀ id approval, now ≤ approval.expires →
    (s'.pending.get? id = some approval ↔ s.pending.get? id = some approval)

/-- A call that ends in an error leaves everything as it was. -/
def AllOrNothing (env : AuthEnv) (registryEnv : RegistryEnv) (s : TargetAdministration)
    (call : ApplyCall) : Prop :=
  ∀ e, (call.run env registryEnv s).1 = .error e →
    Unchanged call.now s (call.run env registryEnv s).2

/-- When the overlay is written, the targets that stay have distinct ids and, on the agent
mesh, a device; or the overlay is already what is written. -/
def Replaceable (env : RegistryEnv) (files : TargetFiles) (target : TargetConfig) (writes : Bool) :
    Prop :=
  writes = true → ∀ (h : target.accepted = true) (statics current : List ParsedTarget),
    Upserts env files ⟨target, h⟩ statics current →
      Registrable statics (current.filter fun t => t.val.id ≠ target.id) ∨
        files.dynamic = .parsed (overlayWith env current ⟨target, h⟩)

/-- The approval passes the checks that come before the upsert. -/
structure AppliesTarget (env : AuthEnv) (s : TargetAdministration) (input : ApplyInput)
    (approval : PendingTargetApproval) : Prop where
  found : s.approvals.get? input.approvalId = some approval
  unexpired : input.clock.purge.ms ≤ approval.expiresAt
  checked : applyTargetChecks env s.live input approval = .ok ()

structure AppliesRead (env : AuthEnv) (s : TargetAdministration) (input : ApplyInput)
    (approval : PendingReadApproval) (t : TargetConfig) : Prop where
  found : s.pending.get? input.approvalId = some approval
  unexpired : input.clock.purge.ms ≤ approval.expires
  checked : applyReadChecks env s input approval = .ok t

/-- The upsert gets to its end. -/
def Installable (env : RegistryEnv) (files : TargetFiles) (target : TargetConfig) (writes : Bool) :
    Prop :=
  writes = true ∧ ∃ (h : target.accepted = true) (statics current : List ParsedTarget),
    Upserts env files ⟨target, h⟩ statics current ∧
      Registrable statics (current.filter fun t => t.val.id ≠ target.id)

/-- When a call is all or nothing. -/
def ApplyCall.Sound (env : AuthEnv) (registryEnv : RegistryEnv) (s : TargetAdministration) :
    ApplyCall → Prop
  | .upsert target _ writes => Replaceable registryEnv s.registry.files target writes
  | .applyTarget input => ∀ approval, AppliesTarget env s input approval →
      Replaceable registryEnv s.registry.files approval.target input.writes
  | .applyRead input => ∀ approval t, AppliesRead env s input approval t →
      Replaceable registryEnv s.registry.files (withReadContainers t) input.writes
  | .tool input => ∀ approval, AppliesTarget env s input approval →
      Replaceable registryEnv s.registry.files approval.target input.writes ∧
        (Installable registryEnv s.registry.files approval.target input.writes →
          effectiveTargetEnabled approval.target.id approval.target.enabled s.live = true)

/-! ## The upsert -/

section Upsert

variable {env : RegistryEnv} {s : RegistryState} {target : TargetConfig} {writes : Bool}

theorem Upserts.loads_iff {parsed : ParsedTarget} {statics current : List ParsedTarget}
    (h : Upserts env s.files parsed statics current) :
    (∃ registry, loadRegistry env
        { s.files with dynamic := .parsed (overlayWith env current parsed) } = .ok registry) ↔
      Registrable statics (current.filter fun t => t.val.id ≠ parsed.val.id) := by
  rw [← h.registrable_iff]
  constructor
  · rintro ⟨registry, hload⟩
    obtain ⟨statics', current', hstatics, hcurrent, hregistrable, -⟩ :=
      loadRegistry_eq_ok_iff.mp hload
    obtain rfl := Except.ok.inj (h.parsesStatic.symm.trans hstatics)
    obtain rfl := Except.ok.inj hcurrent
    exact hregistrable
  · exact fun hregistrable =>
      ⟨_, loadRegistry_eq_ok_iff.mpr ⟨statics, _, h.parsesStatic, rfl, hregistrable, rfl⟩⟩

theorem upsert_atomic_iff :
    (∀ e, (upsertDynamicAgentTarget env s target writes).1 = .error e →
        (upsertDynamicAgentTarget env s target writes).2 = s) ↔
      Replaceable env s.files target writes := by
  have hcase := upsertCase env s target writes
  generalize upsertDynamicAgentTarget env s target writes = x at hcase
  constructor
  · intro hatomic hwrites haccepted statics current hupserts
    have hplanned := planUpsert_eq_ok_iff.mpr ⟨haccepted, statics, current, hupserts, rfl⟩
    cases hcase with
    | refused hplan => exact absurd (hplan.symm.trans hplanned) (by simp)
    | unwritten hplan hunwritten => exact absurd (hwrites.symm.trans hunwritten) (by decide)
    | broken hplan _ hload =>
        obtain rfl := Except.ok.inj (hplan.symm.trans hplanned)
        have hsame := hatomic _ rfl
        exact .inr (congrArg (fun s : RegistryState => s.files.dynamic) hsame).symm
    | installed hplan _ hload hfound =>
        obtain rfl := Except.ok.inj (hplan.symm.trans hplanned)
        exact .inl (hupserts.loads_iff.mp ⟨_, hload⟩)
  · intro hreplaceable e he
    cases hcase with
    | refused hplan => rfl
    | unwritten hplan hunwritten => rfl
    | broken hplan hwrites hload =>
        obtain ⟨haccepted, statics, current, hupserts, rfl⟩ := planUpsert_eq_ok_iff.mp hplan
        rcases hreplaceable hwrites haccepted statics current hupserts with hstay | hsame
        · obtain ⟨registry, hok⟩ := hupserts.loads_iff.mpr hstay
          exact absurd (hload.symm.trans hok) (by simp)
        · rw [← hsame]
    | installed hplan hwrites hload hfound => exact absurd he (by simp)

/-- The answer of an upsert that gets to its end. -/
theorem upsert_ok_iff :
    (∃ t, (upsertDynamicAgentTarget env s target writes).1 = .ok t) ↔
      Installable env s.files target writes := by
  have hcase := upsertCase env s target writes
  generalize upsertDynamicAgentTarget env s target writes = x at hcase
  constructor
  · rintro ⟨t, ht⟩
    cases hcase with
    | refused hplan => exact absurd ht (by simp)
    | unwritten hplan hunwritten => exact absurd ht (by simp [deny])
    | broken hplan hwrites hload => exact absurd ht (by simp)
    | installed hplan hwrites hload hfound =>
        obtain ⟨haccepted, statics, current, hupserts, rfl⟩ := planUpsert_eq_ok_iff.mp hplan
        exact ⟨hwrites, haccepted, statics, current, hupserts, hupserts.loads_iff.mp ⟨_, hload⟩⟩
  · rintro ⟨hwrites, haccepted, statics, current, hupserts, hstay⟩
    have hplanned := planUpsert_eq_ok_iff.mpr ⟨haccepted, statics, current, hupserts, rfl⟩
    cases hcase with
    | refused hplan => exact absurd (hplan.symm.trans hplanned) (by simp)
    | unwritten hplan hunwritten => exact absurd (hwrites.symm.trans hunwritten) (by decide)
    | broken hplan _ hload =>
        obtain rfl := Except.ok.inj (hplan.symm.trans hplanned)
        obtain ⟨registry, hok⟩ := hupserts.loads_iff.mpr hstay
        exact absurd (hload.symm.trans hok) (by simp)
    | installed hplan _ hload hfound => exact ⟨_, rfl⟩

end Upsert

/-! ## The applications -/

section Applications

variable {env : AuthEnv} {registryEnv : RegistryEnv} {s : TargetAdministration} {input : ApplyInput}

/-- How `applyAgentTargetApproval` ends. -/
inductive TargetCase (env : AuthEnv) (registryEnv : RegistryEnv) (s : TargetAdministration)
    (input : ApplyInput) : Except OpsError AppliedTarget × TargetAdministration → Prop where
  | rejected {e : OpsError} (hnone : ∀ approval, ¬AppliesTarget env s input approval) :
      TargetCase env registryEnv s input
        (.error e, { s with approvals := purgeTargetApprovals s.approvals input.clock.purge.ms })
  | failed {approval : PendingTargetApproval} {e : OpsError} {registry : RegistryState}
      (happlies : AppliesTarget env s input approval)
      (hupsert : upsertDynamicAgentTarget registryEnv s.registry approval.target input.writes =
        (.error e, registry)) :
      TargetCase env registryEnv s input
        (.error e, { s with
          registry
          approvals := purgeTargetApprovals s.approvals input.clock.purge.ms })
  | applied {approval : PendingTargetApproval} {result : TargetConfig} {registry : RegistryState}
      (happlies : AppliesTarget env s input approval)
      (hupsert : upsertDynamicAgentTarget registryEnv s.registry approval.target input.writes =
        (.ok result, registry)) :
      TargetCase env registryEnv s input
        (.ok ⟨approval.id, result, approval.summary⟩, { s with
          registry
          approvals := (purgeTargetApprovals s.approvals input.clock.purge.ms).erase approval.id })

theorem get?_purgeTargetApprovals_iff {approvals : Record PendingTargetApproval} {now : ℤ}
    {id : JsString} {approval : PendingTargetApproval} :
    (purgeTargetApprovals approvals now).get? id = some approval ↔
      approvals.get? id = some approval ∧ now ≤ approval.expiresAt := by
  rw [purgeTargetApprovals, Record.get?_filter, Option.filter_eq_some_iff]
  simp

theorem targetCase (env : AuthEnv) (registryEnv : RegistryEnv) (s : TargetAdministration)
    (input : ApplyInput) :
    TargetCase env registryEnv s input (applyAgentTargetApproval env registryEnv s input) := by
  unfold applyAgentTargetApproval
  dsimp only
  cases hfound : (purgeTargetApprovals s.approvals input.clock.purge.ms).get? input.approvalId with
  | none =>
      refine .rejected fun approval happlies => ?_
      have hsome := get?_purgeTargetApprovals_iff.mpr ⟨happlies.found, happlies.unexpired⟩
      exact absurd (hfound.symm.trans hsome) (by simp)
  | some approval =>
      obtain ⟨hget, hunexpired⟩ := get?_purgeTargetApprovals_iff.mp hfound
      dsimp only
      cases hchecks : applyTargetChecks env s.live input approval with
      | error e =>
          refine .rejected fun approval' happlies => ?_
          obtain rfl := Option.some.inj (happlies.found.symm.trans hget)
          exact absurd (hchecks.symm.trans happlies.checked) (by simp)
      | ok u =>
          have happlies : AppliesTarget env s input approval := ⟨hget, hunexpired, hchecks⟩
          dsimp only
          cases hupsert : upsertDynamicAgentTarget registryEnv s.registry approval.target
            input.writes with
          | mk answer registry =>
              cases answer with
              | error e => exact .failed happlies hupsert
              | ok result => exact .applied happlies hupsert

inductive ReadCase (env : AuthEnv) (registryEnv : RegistryEnv) (s : TargetAdministration)
    (input : ApplyInput) : Except OpsError Unit × TargetAdministration → Prop where
  | rejected {e : OpsError} (hnone : ∀ approval t, ¬AppliesRead env s input approval t) :
      ReadCase env registryEnv s input (.error e, s)
  | expired {e : OpsError} (hnone : ∀ approval t, ¬AppliesRead env s input approval t)
      (hexpired : ∀ approval, s.pending.get? input.approvalId = some approval →
        approval.expires < input.clock.purge.ms) :
      ReadCase env registryEnv s input
        (.error e, { s with pending := s.pending.erase input.approvalId })
  | failed {approval : PendingReadApproval} {t : TargetConfig} {e : OpsError}
      {registry : RegistryState} (happlies : AppliesRead env s input approval t)
      (hupsert : upsertDynamicAgentTarget registryEnv s.registry (withReadContainers t)
        input.writes = (.error e, registry)) :
      ReadCase env registryEnv s input (.error e, { s with registry })
  | applied {approval : PendingReadApproval} {t result : TargetConfig} {registry : RegistryState}
      (happlies : AppliesRead env s input approval t)
      (hupsert : upsertDynamicAgentTarget registryEnv s.registry (withReadContainers t)
        input.writes = (.ok result, registry)) :
      ReadCase env registryEnv s input
        (.ok (), { s with registry, pending := s.pending.erase input.approvalId })

theorem readCase (env : AuthEnv) (registryEnv : RegistryEnv) (s : TargetAdministration)
    (input : ApplyInput) :
    ReadCase env registryEnv s input (applyDeepharnessDockerRead env registryEnv s input) := by
  unfold applyDeepharnessDockerRead
  dsimp only
  cases hfound : s.pending.get? input.approvalId with
  | none =>
      refine .expired (fun approval t happlies => ?_) fun approval hsome => ?_
      · exact absurd (hfound.symm.trans happlies.found) (by simp)
      · exact absurd (hfound.symm.trans hsome) (by simp)
  | some approval =>
      dsimp only
      by_cases hexpired : approval.expires < input.clock.purge.ms
      · rw [if_pos hexpired]
        refine .expired (fun approval' t happlies => ?_) fun approval' hsome => ?_
        · obtain rfl := Option.some.inj (happlies.found.symm.trans hfound)
          exact absurd happlies.unexpired (not_le.mpr hexpired)
        · obtain rfl := Option.some.inj (hsome.symm.trans hfound)
          exact hexpired
      · rw [if_neg hexpired]
        cases hchecks : applyReadChecks env s input approval with
        | error e =>
            refine .rejected fun approval' t happlies => ?_
            obtain rfl := Option.some.inj (happlies.found.symm.trans hfound)
            exact absurd (hchecks.symm.trans happlies.checked) (by simp)
        | ok t =>
            have happlies : AppliesRead env s input approval t :=
              ⟨hfound, not_lt.mp hexpired, hchecks⟩
            dsimp only
            cases hupsert : upsertDynamicAgentTarget registryEnv s.registry (withReadContainers t)
              input.writes with
            | mk answer registry =>
                cases answer with
                | error e => exact .failed happlies hupsert
                | ok result => exact .applied happlies hupsert

/-! ## What stays -/

theorem unchanged_refl (now : ℤ) (s : TargetAdministration) : Unchanged now s s :=
  ⟨rfl, fun _ _ _ => Iff.rfl, fun _ _ _ => Iff.rfl⟩

theorem unchanged_purge_iff {now : ℤ} {registry : RegistryState} :
    Unchanged now s { s with registry, approvals := purgeTargetApprovals s.approvals now } ↔
      registry = s.registry := by
  constructor
  · exact fun h => h.registry
  · intro h
    refine ⟨h, fun id approval hnow => ?_, fun _ _ _ => Iff.rfl⟩
    rw [get?_purgeTargetApprovals_iff]
    exact and_iff_left hnow

theorem unchanged_erase_expired {now : ℤ} {id : JsString}
    (hexpired : ∀ approval, s.pending.get? id = some approval → approval.expires < now) :
    Unchanged now s { s with pending := s.pending.erase id } := by
  refine ⟨rfl, fun _ _ _ => Iff.rfl, fun k approval hnow => ?_⟩
  show (s.pending.erase id).get? k = some approval ↔ _
  rw [Record.get?_erase]
  split_ifs with hk
  · subst hk
    constructor
    · exact fun h => absurd h (by simp)
    · exact fun h => absurd (hexpired approval h) (not_lt.mpr hnow)
  · exact Iff.rfl

/-- The upsert of an application fails without a trace. -/
theorem upsert_failed_iff {target : TargetConfig} {writes : Bool} {e : OpsError}
    {registry : RegistryState}
    (hupsert : upsertDynamicAgentTarget registryEnv s.registry target writes =
      (.error e, registry)) :
    registry = s.registry ↔ Replaceable registryEnv s.registry.files target writes := by
  rw [← upsert_atomic_iff, hupsert]
  constructor
  · exact fun h _ _ => h
  · exact fun h => h e rfl

theorem replaceable_of_ok {target result : TargetConfig} {writes : Bool} {registry : RegistryState}
    (hupsert : upsertDynamicAgentTarget registryEnv s.registry target writes =
      (.ok result, registry)) : Replaceable registryEnv s.registry.files target writes := by
  rw [← upsert_atomic_iff, hupsert]
  exact fun e he => absurd he (by simp)

/-! ## The calls -/

theorem upsertCall_iff {target : TargetConfig} {now : TimeValue} {writes : Bool} :
    AllOrNothing env registryEnv s (.upsert target now writes) ↔
      Replaceable registryEnv s.registry.files target writes := by
  have hrun : (ApplyCall.upsert target now writes).run env registryEnv s =
      ((upsertDynamicAgentTarget registryEnv s.registry target writes).1.map fun _ => (),
        { s with registry := (upsertDynamicAgentTarget registryEnv s.registry target writes).2 }) :=
    rfl
  unfold AllOrNothing
  rw [hrun]
  cases hupsert : upsertDynamicAgentTarget registryEnv s.registry target writes with
  | mk answer registry =>
      cases answer with
      | error e =>
          rw [← upsert_failed_iff hupsert]
          constructor
          · exact fun h => (h e rfl).registry
          · rintro rfl e' -
            exact unchanged_refl _ s
      | ok result =>
          refine iff_of_true (fun e he => absurd he (by simp [Except.map])) ?_
          exact replaceable_of_ok hupsert

theorem applyTargetCall_iff :
    AllOrNothing env registryEnv s (.applyTarget input) ↔
      ∀ approval, AppliesTarget env s input approval →
        Replaceable registryEnv s.registry.files approval.target input.writes := by
  have hrun : (ApplyCall.applyTarget input).run env registryEnv s =
      ((applyAgentTargetApproval env registryEnv s input).1.map fun _ => (),
        (applyAgentTargetApproval env registryEnv s input).2) := rfl
  have hcase := targetCase env registryEnv s input
  unfold AllOrNothing
  rw [hrun]
  generalize applyAgentTargetApproval env registryEnv s input = x at hcase
  cases hcase with
  | rejected hnone =>
      refine iff_of_true (fun e _ => unchanged_purge_iff.mpr rfl) ?_
      exact fun approval happlies => absurd happlies (hnone approval)
  | @failed approval e registry happlies hupsert =>
      constructor
      · intro h approval' happlies'
        obtain rfl := Option.some.inj (happlies.found.symm.trans happlies'.found)
        exact (upsert_failed_iff hupsert).mp (h e rfl).registry
      · intro h e' _
        exact unchanged_purge_iff.mpr ((upsert_failed_iff hupsert).mpr (h approval happlies))
  | @applied approval result registry happlies hupsert =>
      refine iff_of_true (fun e he => absurd he (by simp [Except.map])) ?_
      intro approval' happlies'
      obtain rfl := Option.some.inj (happlies.found.symm.trans happlies'.found)
      exact replaceable_of_ok hupsert

theorem applyReadCall_iff :
    AllOrNothing env registryEnv s (.applyRead input) ↔
      ∀ approval t, AppliesRead env s input approval t →
        Replaceable registryEnv s.registry.files (withReadContainers t) input.writes := by
  have hrun : (ApplyCall.applyRead input).run env registryEnv s =
      applyDeepharnessDockerRead env registryEnv s input := rfl
  have hcase := readCase env registryEnv s input
  unfold AllOrNothing
  rw [hrun]
  generalize applyDeepharnessDockerRead env registryEnv s input = x at hcase
  have hsame : ∀ {a b : PendingReadApproval} {t u : TargetConfig},
      AppliesRead env s input a t → AppliesRead env s input b u → t = u := by
    intro a b t u ha hb
    obtain rfl := Option.some.inj (ha.found.symm.trans hb.found)
    exact Except.ok.inj (ha.checked.symm.trans hb.checked)
  cases hcase with
  | rejected hnone =>
      refine iff_of_true (fun e _ => unchanged_refl _ s) ?_
      exact fun approval t happlies => absurd happlies (hnone approval t)
  | expired hnone hexpired =>
      refine iff_of_true (fun e _ => unchanged_erase_expired hexpired) ?_
      exact fun approval t happlies => absurd happlies (hnone approval t)
  | @failed approval t e registry happlies hupsert =>
      constructor
      · intro h approval' t' happlies'
        rw [← hsame happlies happlies']
        exact (upsert_failed_iff hupsert).mp (h e rfl).registry
      · intro h e' _
        rw [(upsert_failed_iff hupsert).mpr (h approval t happlies)]
        exact unchanged_refl _ s
  | @applied approval t result registry happlies hupsert =>
      refine iff_of_true (fun e he => absurd he (by simp)) ?_
      intro approval' t' happlies'
      rw [← hsame happlies happlies']
      exact replaceable_of_ok hupsert

/-- An installed target is found, and the tool reports it unless it is disabled. -/
theorem resolveTarget_of_upsert {registry : RegistryState} (live : Live)
    {target result : TargetConfig} {writes : Bool}
    (hupsert : upsertDynamicAgentTarget registryEnv s.registry target writes =
      (.ok result, registry)) :
    result = target ∧
      ((∃ e, resolveTarget registry.registry live result.id = .error e) ↔
        effectiveTargetEnabled target.id target.enabled live = false) := by
  have hcase := upsertCase registryEnv s.registry target writes
  rw [hupsert] at hcase
  cases hcase with
  | @installed next loaded hplan hwrites hload hfound =>
      refine ⟨rfl, ?_⟩
      have hid : target.id ≠ [] := by
        obtain ⟨haccepted, -⟩ := planUpsert_eq_ok_iff.mp hplan
        intro hid
        rw [TargetConfig.accepted, hid] at haccepted
        simp [matchesRegistryId, matchesHeadTail] at haccepted
      cases henabled : effectiveTargetEnabled target.id target.enabled live with
      | true =>
          refine iff_of_false ?_ (by decide)
          rintro ⟨e, he⟩
          rw [resolveTarget, if_neg hid, hfound] at he
          simp only [henabled, requireThat, if_true, ok_bind] at he
          exact absurd he (by simp [pure, Except.pure])
      | false =>
          have hdisabled : resolveTarget loaded live target.id =
              deny "TARGET_DISABLED" (js "target " ++ quoted target.id ++ js " está desabilitado") := by
            rw [resolveTarget, if_neg hid, hfound]
            simp only [henabled, requireThat, Bool.false_eq_true, if_false]
            rfl
          exact iff_of_true ⟨_, hdisabled⟩ rfl

theorem toolCall_iff
    (hfiled : ∀ id approval, s.approvals.get? id = some approval → approval.id = id) :
    AllOrNothing env registryEnv s (.tool input) ↔
      ∀ approval, AppliesTarget env s input approval →
        Replaceable registryEnv s.registry.files approval.target input.writes ∧
          (Installable registryEnv s.registry.files approval.target input.writes →
            effectiveTargetEnabled approval.target.id approval.target.enabled s.live = true) := by
  have hrun : (ApplyCall.tool input).run env registryEnv s =
      ((targetAgentApply env registryEnv s input).1.map fun _ => (),
        (targetAgentApply env registryEnv s input).2) := rfl
  have hcase := targetCase env registryEnv s input
  unfold AllOrNothing
  rw [hrun, targetAgentApply]
  generalize applyAgentTargetApproval env registryEnv s input = x at hcase
  cases hcase with
  | rejected hnone =>
      refine iff_of_true (fun e _ => unchanged_purge_iff.mpr rfl) ?_
      exact fun approval happlies => absurd happlies (hnone approval)
  | @failed approval e registry happlies hupsert =>
      have hnot : ¬Installable registryEnv s.registry.files approval.target input.writes := by
        rw [← upsert_ok_iff, hupsert]
        simp
      constructor
      · intro h approval' happlies'
        obtain rfl := Option.some.inj (happlies.found.symm.trans happlies'.found)
        exact ⟨(upsert_failed_iff hupsert).mp (h e rfl).registry, fun hinstall => absurd hinstall hnot⟩
      · intro h e' _
        exact unchanged_purge_iff.mpr ((upsert_failed_iff hupsert).mpr (h approval happlies).1)
  | @applied approval result registry happlies hupsert =>
      have hinstall : Installable registryEnv s.registry.files approval.target input.writes := by
        rw [← upsert_ok_iff, hupsert]
        exact ⟨result, rfl⟩
      obtain ⟨hresult, hresolve⟩ := resolveTarget_of_upsert s.live hupsert
      have hexact : (∀ approval', AppliesTarget env s input approval' →
          Replaceable registryEnv s.registry.files approval'.target input.writes ∧
            (Installable registryEnv s.registry.files approval'.target input.writes →
              effectiveTargetEnabled approval'.target.id approval'.target.enabled s.live = true)) ↔
          effectiveTargetEnabled approval.target.id approval.target.enabled s.live = true := by
        constructor
        · exact fun h => (h approval happlies).2 hinstall
        · intro h approval' happlies'
          obtain rfl := Option.some.inj (happlies.found.symm.trans happlies'.found)
          exact ⟨replaceable_of_ok hupsert, fun _ => h⟩
      rw [hexact]
      dsimp only
      cases hanswer : resolveTarget registry.registry s.live result.id with
      | error e =>
          have hdisabled := hresolve.mp ⟨e, hanswer⟩
          refine iff_of_false (fun h => ?_) (by simp [hdisabled])
          -- the approval is spent
          have hkept := ((h e rfl).approvals input.approvalId approval happlies.unexpired).mpr
            happlies.found
          replace hkept : ((purgeTargetApprovals s.approvals input.clock.purge.ms).erase
            approval.id).get? input.approvalId = some approval := hkept
          rw [Record.get?_erase, if_pos (hfiled _ _ happlies.found).symm] at hkept
          exact absurd hkept (by simp)
      | ok target =>
          refine iff_of_true (fun e he => absurd he (by simp [Except.map])) ?_
          cases henabled : effectiveTargetEnabled approval.target.id approval.target.enabled
            s.live with
          | true => rfl
          | false =>
              obtain ⟨e, he⟩ := hresolve.mpr henabled
              exact absurd (hanswer.symm.trans he) (by simp)

/-- A call is all or nothing exactly if the overlay it writes can be loaded, or is the one
that is there, and the tool does not install a target that is disabled. -/
theorem applyIsAtomic_iff (env : AuthEnv) (registryEnv : RegistryEnv) (s : FiledAdministration)
    (call : ApplyCall) :
    AllOrNothing env registryEnv s.toTargetAdministration call ↔
      call.Sound env registryEnv s.toTargetAdministration := by
  cases call with
  | upsert target now writes => exact upsertCall_iff
  | applyTarget input => exact applyTargetCall_iff
  | applyRead input => exact applyReadCall_iff
  | tool input => exact toolCall_iff s.filed

end Applications

/-! ## An overlay that is refused -/

/-- The static file has been edited since the start: two entries have one id. -/
def editedFiles : TargetFiles := ⟨.parsed [staticTarget, staticTarget], .missing⟩

def editedAdministration : TargetAdministration :=
  ⟨⟨editedFiles, [staticTarget.val]⟩, ⟨emptyState, Realm.fresh, Record.empty⟩, Record.empty,
    Record.empty⟩

def labTarget : TargetConfig where
  id := js "lab"
  transport := .agent
  deviceId := some (js "dev_00000000")

/-- The overlay with the new target is in place, and the call reports an error. -/
theorem editedFiles_halfApplied :
    ¬AllOrNothing ⟨true, none, 120⟩ plainRegistryEnv editedAdministration
      (.upsert labTarget ⟨15, by decide⟩ true) := by
  intro h
  have haccepted : labTarget.accepted = true := by decide +kernel
  have hupserts : Upserts plainRegistryEnv editedFiles ⟨labTarget, haccepted⟩
      [staticTarget, staticTarget] [] := by
    constructor
    · rfl
    · rfl
    · rfl
    · simp only [List.forall_mem_cons]
      exact ⟨by decide +kernel, by decide +kernel, List.forall_mem_nil _⟩
    · rfl
  rcases upsertCall_iff.mp h rfl haccepted _ _ hupserts with hstay | hsame
  · have hdistinct := hstay.distinct
    simp at hdistinct
  · exact TargetsFile.noConfusion hsame

end RemoteOps

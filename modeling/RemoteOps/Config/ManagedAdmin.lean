import RemoteOps.Config.Targets
import RemoteOps.Privileged.Ticket
import RemoteOps.State.Store

/-!
# Approval of managed-admin actions

`prepareManagedAdminAction` checks a requested action against the target and
stores it under a fresh approval id. `consumeManagedAdminApproval` is given the
id and the user's confirmation, checks everything again on the configuration of
that moment, deletes the approval and signs a ticket for the stored action.

An approval carries a serial number that the source does not have. Nothing reads
it; it tells two approvals apart even when their random ids coincide.
-/

namespace RemoteOps

open Ecma

/-- What the control plane reads from its environment. -/
structure AuthEnv where
  oauth : Bool
  authSecret : Option JsString
  agentHeartbeatStaleSeconds : ℕ

structure ManagedAdminAction where
  targetId : JsString
  deviceId : JsString
  program : JsString
  argv : List JsString
  cwd : JsString
  timeoutMs : JsNumber
  deriving DecidableEq

structure PendingManagedAdminApproval where
  id : JsString
  actor : JsString
  createdAt : ℤ
  expiresAt : ℤ
  action : ManagedAdminAction
  serial : ℕ
  deriving DecidableEq

def approvalTtlMs : ℤ := 10 * 60000

def ticketTtlMs : ℤ := 90000

/-! ## Checks -/

def deny {α : Type} (code : String) (message : JsString) : Except OpsError α :=
  .error ⟨code, message⟩

/-- Throw unless the condition holds. -/
def requireThat (c : Prop) [Decidable c] (code : String) (message : JsString) :
    Except OpsError Unit :=
  if c then .ok () else deny code message

/-- A conversion to a primitive inside the control plane. -/
def convertedOr {α : Type} (x : Option α) : Except OpsError α :=
  match x with
  | some y => .ok y
  | none => .error ⟨"TypeError", js "Cannot convert object to primitive value"⟩

def requireManagedAdminAuthSecret (env : AuthEnv) : Except OpsError JsString :=
  if !env.oauth then
    deny "CAPABILITY_DENIED" (js "managed-admin é proibido quando AUTH_MODE não é oauth")
  else
    match env.authSecret with
    | some secret =>
        if secret.length < 32 then
          deny "CAPABILITY_DENIED" (js "managed-admin requer AUTH_SECRET forte no control plane")
        else .ok secret
    | none => deny "CAPABILITY_DENIED" (js "managed-admin requer AUTH_SECRET forte no control plane")

/-- The device id of a target of the agent mesh. -/
def meshDevice (t : TargetConfig) : Except OpsError JsString :=
  match t.transport, t.deviceId with
  | .agent, some (u :: v) => .ok (u :: v)
  | _, _ => deny "CAPABILITY_DENIED" (js "managed-admin exige target Agent Mesh")

/-- The target and its device id, when the target may be administered. -/
def requireManagedAdminTarget (registry : Registry) (live : Live) (targetId : JsString) :
    Except OpsError (TargetConfig × JsString) :=
  match getTarget registry targetId with
  | none =>
      deny "TARGET_NOT_FOUND" (js "target \"" ++ targetId ++ js "\" não existe no registry")
  | some t => do
      requireThat (effectiveTargetEnabled t.id t.enabled live = true) "TARGET_DISABLED"
        (js "target \"" ++ targetId ++ js "\" está desabilitado")
      let deviceId ← meshDevice t
      requireThat (t.capabilityProfile = .operator) "CAPABILITY_DENIED"
        (js "managed-admin exige capabilityProfile operator")
      requireThat (managedAdminCapability ∈ t.allowedSemanticCapabilities) "CAPABILITY_DENIED"
        (js "target \"" ++ targetId ++ js "\" não possui " ++ managedAdminCapability)
      return (t, deviceId)

def normalizeProgram (t : TargetConfig) (value : Option Json) : Except OpsError JsString := do
  let program ← convertedOr (strOrEmpty value)
  requireThat (matchesAdminProgram program = true) "INVALID_ARGUMENT"
    (js "program administrativo inválido")
  requireThat (program ∉ managedAdminHardDeny) "CAPABILITY_DENIED"
    (js "program administrativo \"" ++ program ++ js "\" é hard-denied")
  requireThat (program ∈ t.allowedAdminPrograms) "CAPABILITY_DENIED"
    (js "program administrativo \"" ++ program ++ js "\" não está na allowlist do target")
  return program

def normalizeArgument (item : Json) : Except OpsError JsString := do
  let arg ← convertedOr (strOrEmpty (some item))
  requireThat (isAdminArgument arg = true) "INVALID_ARGUMENT"
    (js "argumento administrativo inválido")
  return arg

def normalizeArgv (value : Option Json) : Except OpsError (List JsString) :=
  match value with
  | none => .ok []
  | some (.arr xs) => do
      requireThat (xs.length ≤ 80) "INVALID_ARGUMENT" (js "argv administrativo inválido")
      xs.mapM normalizeArgument
  | some _ => deny "INVALID_ARGUMENT" (js "argv administrativo inválido")

def normalizeCwd (t : TargetConfig) (value : Option Json) : Except OpsError JsString := do
  let cwd ← convertedOr (match value with
    | none => some (js "/opt/wandora/ops-workspace")
    | some .null => some (js "/opt/wandora/ops-workspace")
    | some x => x.toStr)
  requireThat (cwdLexicallyAllowed cwd t.allowedAdminCwds = true) "CAPABILITY_DENIED"
    (js "cwd administrativo \"" ++ cwd ++ js "\" fora da allowlist do target")
  return cwd

def normalizeTimeout (value : Option Json) : Except OpsError JsNumber := do
  let n ← convertedOr (match value with
    | none => some (JsNumber.ofInt 30000 (by decide))
    | some .null => some (JsNumber.ofInt 30000 (by decide))
    | some x => x.toNum)
  requireThat (isIntegerIn 1000 120000 n = true) "INVALID_ARGUMENT"
    (js "timeout_ms administrativo inválido")
  return n

/-- A device that is not revoked and was seen recently. -/
def requireLiveDevice (env : AuthEnv) (live : Live) (deviceId : JsString) (now : ℤ) :
    Except OpsError StoredDevice :=
  let stale := deny "REMOTE_COMMAND_FAILED"
    (js "Agent Mesh device \"" ++ deviceId ++ js "\" não está online/recentemente ativo")
  match (listDevices live).find? fun d => d.deviceId = deviceId with
  | none =>
      deny "INVALID_ARGUMENT"
        (js "Agent Mesh device \"" ++ deviceId ++ js "\" não existe ou está revogado")
  | some device =>
      if live.realm.isRevoked device.revokedAt then
        deny "INVALID_ARGUMENT"
          (js "Agent Mesh device \"" ++ deviceId ++ js "\" não existe ou está revogado")
      else
        match device.lastSeenAt with
        | none => stale
        | some seen =>
            if seen = 0 ∨ env.agentHeartbeatStaleSeconds * 2 * 1000 < now - seen then stale
            else .ok device

def requireDeviceCapability (env : AuthEnv) (live : Live) (deviceId : JsString) (now : ℤ) :
    Except OpsError Unit := do
  let device ← requireLiveDevice env live deviceId now
  if managedAdminCapability ∈ device.capabilities.getD [] then .ok ()
  else
    deny "CAPABILITY_DENIED"
      (js "device \"" ++ deviceId ++ js "\" não anunciou " ++ managedAdminCapability)

def requireApprovalConfirmation (id confirmation : JsString) : Except OpsError Unit :=
  requireThat (trim confirmation = js "APPROVE " ++ id) "CAPABILITY_DENIED"
    (js "confirmação inválida; esperado: APPROVE " ++ id)

/-! ## The two operations -/

/-- What the operations read and write. -/
structure ApprovalState where
  registry : Registry
  live : Live
  approvals : Record PendingManagedAdminApproval
  prepared : ℕ

/-- The clock readings of one call, in the order they are taken. -/
structure CallClock where
  purge : TimeValue
  device : TimeValue
  now : TimeValue

/-- Delete the approvals that have expired. -/
def purgeApprovals (approvals : Record PendingManagedAdminApproval) (now : ℤ) :
    Record PendingManagedAdminApproval :=
  approvals.filter fun _ approval => !(approval.expiresAt < now)

structure PrepareInput where
  actor : JsString
  targetId : JsString
  program : Option Json
  argv : Option Json
  cwd : Option Json
  timeoutMs : Option Json
  /-- the id that `newApprovalId()` draws -/
  newApprovalId : JsString
  clock : CallClock

/-- The action a request describes, checked against the target. -/
def prepareAction (env : AuthEnv) (s : ApprovalState) (input : PrepareInput) :
    Except OpsError ManagedAdminAction := do
  let _ ← requireManagedAdminAuthSecret env
  let (t, deviceId) ← requireManagedAdminTarget s.registry s.live input.targetId
  requireDeviceCapability env s.live deviceId input.clock.device.ms
  let program ← normalizeProgram t input.program
  let argv ← normalizeArgv input.argv
  let cwd ← normalizeCwd t input.cwd
  let timeoutMs ← normalizeTimeout input.timeoutMs
  return { targetId := t.id, deviceId, program, argv, cwd, timeoutMs }

/-- The caller is shown the fields of the approval. -/
def prepareManagedAdminAction (env : AuthEnv) (s : ApprovalState) (input : PrepareInput) :
    Except OpsError PendingManagedAdminApproval × ApprovalState :=
  let s := { s with approvals := purgeApprovals s.approvals input.clock.purge.ms }
  match prepareAction env s input with
  | .error e => (.error e, s)
  | .ok action =>
      let approval : PendingManagedAdminApproval :=
        { id := input.newApprovalId
          actor := input.actor
          createdAt := input.clock.now.ms
          expiresAt := input.clock.now.ms + approvalTtlMs
          action
          serial := s.prepared }
      (.ok approval,
        { s with
          approvals := s.approvals.set input.newApprovalId approval
          prepared := s.prepared + 1 })

structure ConsumeInput where
  actor : JsString
  targetId : JsString
  approvalId : JsString
  confirmation : JsString
  /-- the nonce that `crypto.randomBytes(24)` yields -/
  nonce : JsString
  clock : CallClock

structure ManagedAdminGrant where
  approvalId : JsString
  target : TargetConfig
  ticket : ManagedAdminTicketV1
  signature : JsString
  serial : ℕ
  deriving DecidableEq

/-- The checks of a consumption, which leave the secret, the target and the action
that is signed. -/
def consumeChecks (env : AuthEnv) (s : ApprovalState) (input : ConsumeInput)
    (approval : PendingManagedAdminApproval) :
    Except OpsError (JsString × TargetConfig × ManagedAdminAction) := do
  requireThat (approval.actor = input.actor) "CAPABILITY_DENIED"
    (js "aprovação managed-admin pertence a outro ator MCP")
  requireThat (approval.action.targetId = input.targetId) "CAPABILITY_DENIED"
    (js "target informado não corresponde à aprovação managed-admin")
  requireApprovalConfirmation approval.id input.confirmation
  let secret ← requireManagedAdminAuthSecret env
  let (t, deviceId) ← requireManagedAdminTarget s.registry s.live approval.action.targetId
  requireThat (deviceId = approval.action.deviceId) "CAPABILITY_DENIED"
    (js "device do target mudou após a preparação")
  requireDeviceCapability env s.live approval.action.deviceId input.clock.device.ms
  let program ← normalizeProgram t (some (.str approval.action.program))
  let argv ← normalizeArgv (some (.arr (approval.action.argv.map .str)))
  let cwd ← normalizeCwd t (some (.str approval.action.cwd))
  let timeoutMs ← normalizeTimeout (some (.num approval.action.timeoutMs))
  return (secret, t,
    { targetId := approval.action.targetId, deviceId := approval.action.deviceId,
      program, argv, cwd, timeoutMs })

/-- The ticket for an action. -/
def ticketFor (action : ManagedAdminAction) (nonce : JsString) (now : TimeValue) :
    ManagedAdminTicketV1 where
  targetId := action.targetId
  deviceId := action.deviceId
  program := action.program
  argv := action.argv
  cwd := action.cwd
  timeoutMs := action.timeoutMs
  nonce := nonce
  issuedAt := now.plus 0 (by decide)
  expiresAt := now.plus ticketTtlMs (by decide)

/-- The approval is deleted before the ticket is signed, so a ticket that cannot
be signed has used it up. -/
def consumeManagedAdminApproval (env : AuthEnv) (scheme : SignatureScheme) (s : ApprovalState)
    (input : ConsumeInput) : Except OpsError ManagedAdminGrant × ApprovalState :=
  let s := { s with approvals := purgeApprovals s.approvals input.clock.purge.ms }
  match s.approvals.get? input.approvalId with
  | none =>
      (deny "INVALID_ARGUMENT" (js "aprovação managed-admin inexistente ou expirada"), s)
  | some approval =>
      match consumeChecks env s input approval with
      | .error e => (.error e, s)
      | .ok (secret, target, action) =>
          let s := { s with approvals := s.approvals.erase approval.id }
          let ticket := ticketFor action input.nonce input.clock.now
          match signManagedAdminTicket scheme ticket secret with
          | .error e => (deny "Error" (js e), s)
          | .ok signature =>
              (.ok { approvalId := approval.id, target, ticket, signature,
                     serial := approval.serial }, s)

/-! ## What a success implies -/

theorem requireThat_eq_ok {c : Prop} [Decidable c] {code : String} {message : JsString} {u : Unit}
    (h : requireThat c code message = .ok u) : c := by
  unfold requireThat at h
  split_ifs at h with hc
  · exact hc
  · exact absurd h (by simp [deny])

theorem convertedOr_eq_ok {α : Type} {x : Option α} {y : α} (h : convertedOr x = .ok y) :
    x = some y := by
  cases x with
  | none => exact absurd h (by simp [convertedOr])
  | some z => rw [Except.ok.inj h]

/-- A target that may be administered at this moment. -/
structure Administrable (registry : Registry) (live : Live) (t : TargetConfig)
    (deviceId : JsString) : Prop where
  registered : getTarget registry t.id = some t
  enabled : effectiveTargetEnabled t.id t.enabled live = true
  agent : t.transport = .agent
  device : t.deviceId = some deviceId
  operator : t.capabilityProfile = .operator
  capability : managedAdminCapability ∈ t.allowedSemanticCapabilities

theorem meshDevice_eq_ok {t : TargetConfig} {deviceId : JsString} (h : meshDevice t = .ok deviceId) :
    t.transport = .agent ∧ t.deviceId = some deviceId := by
  unfold meshDevice at h
  split at h
  · rename_i u v htransport hdevice
    rw [← Except.ok.inj h]
    exact ⟨htransport, hdevice⟩
  · exact absurd h (by simp [deny])

theorem requireManagedAdminTarget_eq_ok {registry : Registry} {live : Live}
    {targetId deviceId : JsString} {t : TargetConfig}
    (h : requireManagedAdminTarget registry live targetId = .ok (t, deviceId)) :
    t.id = targetId ∧ Administrable registry live t deviceId := by
  unfold requireManagedAdminTarget at h
  cases htarget : getTarget registry targetId with
  | none => simp [htarget, deny] at h
  | some t' =>
      simp only [htarget] at h
      obtain ⟨_, henabled, h⟩ := bind_eq_ok h
      obtain ⟨deviceId', hdevice, h⟩ := bind_eq_ok h
      obtain ⟨_, hprofile, h⟩ := bind_eq_ok h
      obtain ⟨_, hcapability, h⟩ := bind_eq_ok h
      obtain ⟨rfl, rfl⟩ := Prod.mk.inj (Except.ok.inj h)
      obtain ⟨htransport, hdevice⟩ := meshDevice_eq_ok hdevice
      have hid := getTarget_id htarget
      exact ⟨hid, ⟨by rw [hid]; exact htarget, requireThat_eq_ok henabled, htransport, hdevice,
        requireThat_eq_ok hprofile, requireThat_eq_ok hcapability⟩⟩

theorem normalizeProgram_eq_ok {t : TargetConfig} {value program : JsString}
    (h : normalizeProgram t (some (.str value)) = .ok program) :
    program = value ∧ program ∈ t.allowedAdminPrograms ∧ program ∉ managedAdminHardDeny := by
  obtain ⟨program', hconvert, h⟩ := bind_eq_ok h
  obtain ⟨_, -, h⟩ := bind_eq_ok h
  obtain ⟨_, hdenied, h⟩ := bind_eq_ok h
  obtain ⟨_, hallowed, h⟩ := bind_eq_ok h
  obtain rfl := Except.ok.inj h
  have hvalue := Option.some.inj (convertedOr_eq_ok hconvert)
  exact ⟨hvalue.symm, requireThat_eq_ok hallowed, requireThat_eq_ok hdenied⟩

theorem mapM_normalizeArgument_strings {argv out : List JsString}
    (h : (argv.map Json.str).mapM normalizeArgument = .ok out) : out = argv := by
  induction argv generalizing out with
  | nil => exact (Except.ok.inj h).symm
  | cons a argv ih =>
      rw [List.map_cons, List.mapM_cons] at h
      obtain ⟨b, hb, h⟩ := bind_eq_ok h
      obtain ⟨rest, hrest, h⟩ := bind_eq_ok h
      obtain ⟨b', hconvert, hb⟩ := bind_eq_ok hb
      obtain ⟨_, -, hb⟩ := bind_eq_ok hb
      have hb' := Option.some.inj (convertedOr_eq_ok hconvert)
      obtain rfl := Except.ok.inj hb
      rw [← Except.ok.inj h, ih hrest, ← hb']

theorem normalizeArgv_eq_ok {argv out : List JsString}
    (h : normalizeArgv (some (.arr (argv.map .str))) = .ok out) : out = argv := by
  obtain ⟨_, -, h⟩ := bind_eq_ok h
  exact mapM_normalizeArgument_strings h

theorem normalizeCwd_eq_ok {t : TargetConfig} {value cwd : JsString}
    (h : normalizeCwd t (some (.str value)) = .ok cwd) :
    cwd = value ∧ cwdLexicallyAllowed cwd t.allowedAdminCwds = true := by
  obtain ⟨cwd', hconvert, h⟩ := bind_eq_ok h
  obtain ⟨_, hallowed, h⟩ := bind_eq_ok h
  obtain rfl := Except.ok.inj h
  have hvalue := Option.some.inj (convertedOr_eq_ok hconvert)
  exact ⟨hvalue.symm, requireThat_eq_ok hallowed⟩

theorem normalizeTimeout_eq_ok {value n : JsNumber}
    (h : normalizeTimeout (some (.num value)) = .ok n) : n = value := by
  obtain ⟨n', hconvert, h⟩ := bind_eq_ok h
  obtain ⟨_, -, h⟩ := bind_eq_ok h
  obtain rfl := Except.ok.inj h
  exact (Option.some.inj (convertedOr_eq_ok hconvert)).symm

/-- Everything the code has checked when it hands out a ticket. -/
structure Consumes (env : AuthEnv) (scheme : SignatureScheme) (s : ApprovalState)
    (input : ConsumeInput) (approval : PendingManagedAdminApproval) (grant : ManagedAdminGrant) :
    Prop where
  pending : s.approvals.get? input.approvalId = some approval
  unexpired : input.clock.purge.ms ≤ approval.expiresAt
  actor : approval.actor = input.actor
  target : approval.action.targetId = input.targetId
  confirmed : trim input.confirmation = js "APPROVE " ++ approval.id
  targetId : grant.target.id = approval.action.targetId
  administrable : Administrable s.registry s.live grant.target approval.action.deviceId
  programAllowed : approval.action.program ∈ grant.target.allowedAdminPrograms
  programNotDenied : approval.action.program ∉ managedAdminHardDeny
  cwdAllowed : cwdLexicallyAllowed approval.action.cwd grant.target.allowedAdminCwds = true
  ticket : grant.ticket = ticketFor approval.action input.nonce input.clock.now
  signed : ∃ secret, signManagedAdminTicket scheme grant.ticket secret = .ok grant.signature
  serial : grant.serial = approval.serial
  approvalId : grant.approvalId = approval.id

theorem consumeChecks_eq_ok {env : AuthEnv} {s : ApprovalState} {input : ConsumeInput}
    {approval : PendingManagedAdminApproval} {secret : JsString} {t : TargetConfig}
    {action : ManagedAdminAction}
    (h : consumeChecks env s input approval = .ok (secret, t, action)) :
    action = approval.action ∧ approval.actor = input.actor ∧
      approval.action.targetId = input.targetId ∧
      trim input.confirmation = js "APPROVE " ++ approval.id ∧
      t.id = approval.action.targetId ∧
      Administrable s.registry s.live t approval.action.deviceId ∧
      approval.action.program ∈ t.allowedAdminPrograms ∧
      approval.action.program ∉ managedAdminHardDeny ∧
      cwdLexicallyAllowed approval.action.cwd t.allowedAdminCwds = true := by
  obtain ⟨_, hactor, h⟩ := bind_eq_ok h
  obtain ⟨_, htarget, h⟩ := bind_eq_ok h
  obtain ⟨_, hconfirm, h⟩ := bind_eq_ok h
  obtain ⟨_, -, h⟩ := bind_eq_ok h
  obtain ⟨⟨t', deviceId⟩, hrequired, h⟩ := bind_eq_ok h
  obtain ⟨_, hdevice, h⟩ := bind_eq_ok h
  obtain ⟨_, -, h⟩ := bind_eq_ok h
  obtain ⟨program, hprogram, h⟩ := bind_eq_ok h
  obtain ⟨argv, hargv, h⟩ := bind_eq_ok h
  obtain ⟨cwd, hcwd, h⟩ := bind_eq_ok h
  obtain ⟨timeoutMs, htimeout, h⟩ := bind_eq_ok h
  obtain ⟨hid, hadmin⟩ := requireManagedAdminTarget_eq_ok hrequired
  obtain ⟨rfl, hallowed, hnotDenied⟩ := normalizeProgram_eq_ok hprogram
  obtain rfl := normalizeArgv_eq_ok hargv
  obtain ⟨rfl, hcwdAllowed⟩ := normalizeCwd_eq_ok hcwd
  obtain rfl := normalizeTimeout_eq_ok htimeout
  have hresult := Except.ok.inj h
  simp only [Prod.mk.injEq] at hresult
  obtain ⟨-, rfl, rfl⟩ := hresult
  rw [requireThat_eq_ok hdevice] at hadmin
  exact ⟨rfl, requireThat_eq_ok hactor, requireThat_eq_ok htarget, requireThat_eq_ok hconfirm, hid,
    hadmin, hallowed, hnotDenied, hcwdAllowed⟩

theorem consumeManagedAdminApproval_eq_ok {env : AuthEnv} {scheme : SignatureScheme}
    {s s' : ApprovalState} {input : ConsumeInput} {grant : ManagedAdminGrant}
    (h : consumeManagedAdminApproval env scheme s input = (.ok grant, s')) :
    ∃ approval, Consumes env scheme s input approval grant ∧
      s' = { s with approvals :=
        (purgeApprovals s.approvals input.clock.purge.ms).erase approval.id } := by
  unfold consumeManagedAdminApproval at h
  cases hpending : (purgeApprovals s.approvals input.clock.purge.ms).get? input.approvalId with
  | none => simp [hpending, deny] at h
  | some approval =>
      obtain ⟨hstored, hfresh⟩ := Record.get?_of_get?_filter hpending
      simp only [hpending] at h
      split at h
      · exact absurd (Prod.mk.inj h).1 (by simp)
      · rename_i secret t action hchecks
        split at h
        · exact absurd (Prod.mk.inj h).1 (by simp [deny])
        · rename_i signature hsign
          obtain ⟨hgrant, hstate⟩ := Prod.mk.inj h
          obtain rfl := Except.ok.inj hgrant
          obtain ⟨rfl, hactor, htarget, hconfirm, hid, hadmin, hallowed, hnotDenied, hcwd⟩ :=
            consumeChecks_eq_ok hchecks
          refine ⟨approval, ⟨hstored, by simpa using hfresh, hactor, htarget, hconfirm, hid, hadmin,
            hallowed, hnotDenied, hcwd, rfl, ⟨secret, hsign⟩, rfl, rfl⟩, hstate.symm⟩

/-- A refused consumption changes nothing but the approvals that were purged and
the one that was used up. -/
theorem consumeManagedAdminApproval_error {env : AuthEnv} {scheme : SignatureScheme}
    {s s' : ApprovalState} {input : ConsumeInput} {e : OpsError}
    (h : consumeManagedAdminApproval env scheme s input = (.error e, s')) :
    ∃ keep, s' = { s with approvals := s.approvals.filter keep } := by
  have herase : ∀ k, ∃ keep, (purgeApprovals s.approvals input.clock.purge.ms).erase k =
      s.approvals.filter keep := by
    intro k
    refine ⟨fun k' a => !(a.expiresAt < input.clock.purge.ms) && k' != k, ?_⟩
    simp [purgeApprovals, Record.erase, Record.filter, List.filter_filter, Bool.and_comm]
  unfold consumeManagedAdminApproval at h
  dsimp only at h
  split at h
  · exact ⟨_, (Prod.mk.inj h).2.symm⟩
  · split at h
    · exact ⟨_, (Prod.mk.inj h).2.symm⟩
    · rename_i approval _ _ secret t action _
      obtain ⟨keep, hkeep⟩ := herase approval.id
      split at h
      · exact ⟨keep, by rw [← (Prod.mk.inj h).2, ← hkeep]⟩
      · exact absurd (Prod.mk.inj h).1 (by simp)

end RemoteOps

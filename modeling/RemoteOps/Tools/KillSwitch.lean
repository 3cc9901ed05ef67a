import RemoteOps.Auth.AdminConsole
import RemoteOps.Tools.Authority

/-!
# The switch of a target

A target that the console has revoked stays off in memory and in the state file, whatever the
process does to its store and however often it starts again, until somebody whom the console lets
through switches it on (`TurnedOff.step`). Nothing that begins meanwhile sends anything to it
(`revoked_target_silent`).
-/

namespace RemoteOps

open Ecma Transition

/-! ## Operations that leave the switches alone -/

def KeepsControls {α : Type} (op : Live → Effect α) : Prop :=
  ∀ live, ((op live).live live).state.targetControls = live.state.targetControls

section Operations

variable {p : Platform} {upper : UpperCase} {env : PairingEnv}

theorem keepsControls_registerClient (env : StoreEnv) (client : StoredClient) (now : ℤ) :
    KeepsControls (registerClient env client now) := by
  intro live
  unfold registerClient
  dsimp only [prunePendingClients]
  split
  · split <;> rfl
  · rfl

theorem keepsControls_touchClient (clientId : JsString) (now : ℤ) :
    KeepsControls (touchClient clientId now) := by
  intro live
  rw [touchClient]
  split
  · rfl
  · split_ifs <;> rfl

theorem keepsControls_revokeClient (clientId : JsString) (now : ℤ) :
    KeepsControls (revokeClient clientId now) := by
  intro live
  unfold revokeClient
  dsimp only
  split
  · rfl
  · rfl
  · split <;> rfl

theorem keepsControls_revokeAllClients (now : ℤ) : KeepsControls (revokeAllClients now) :=
  fun _ => rfl

theorem keepsControls_putAuthCode (sha256 : JsString → JsString) (rawCode : JsString)
    (code : StoredAuthCode) : KeepsControls (putAuthCode sha256 rawCode code) := fun _ => rfl

theorem keepsControls_consumeAuthCode (sha256 : JsString → JsString) (rawCode : JsString)
    (now : ℤ) : KeepsControls (consumeAuthCode sha256 rawCode now) := by
  intro live
  rw [consumeAuthCode]
  split <;> rfl

theorem keepsControls_createSession (session : StoredSession) :
    KeepsControls (createSession session) := fun _ => rfl

theorem keepsControls_rotateRefreshToken (sha256 : JsString → JsString)
    (sessionId rawRefresh : JsString) (refreshExpiresAt accessExpiresAt now : ℤ) :
    KeepsControls
      (rotateRefreshToken sha256 sessionId rawRefresh refreshExpiresAt accessExpiresAt now) := by
  intro live
  rw [rotateRefreshToken]
  split
  · rfl
  · split_ifs <;> rfl

theorem keepsControls_touchSession (sessionId : JsString) (now : ℤ) :
    KeepsControls (touchSession sessionId now) := by
  intro live
  rw [touchSession]
  split
  · rfl
  · split_ifs <;> rfl

theorem keepsControls_revokeSession (sessionId : JsString) (now : ℤ) :
    KeepsControls (revokeSession sessionId now) := by
  intro live
  unfold revokeSession
  split
  · rfl
  · split_ifs <;> rfl
  · split_ifs
    · split <;> rfl
    · rfl

theorem keepsControls_revokeAllSessions (now : ℤ) : KeepsControls (revokeAllSessions now) :=
  fun _ => rfl

theorem keepsControls_recordToolResult (input : ToolCallRecord) (now : ℤ) :
    KeepsControls (recordToolResult input now) := fun _ => rfl

theorem keepsControls_recordTargetProbe (target : JsString) (ok : Bool)
    (errorCode : Option JsString) (now : ℤ) :
    KeepsControls (recordTargetProbe target ok errorCode now) := fun _ => rfl

theorem keepsControls_startPairing (info : PairingMeta) (draws : PairingDraws) (now : ℤ) :
    KeepsControls (startPairing p upper env info draws now) := by
  intro live
  rw [startPairing]
  split_ifs
  · rfl
  · rfl
  · split <;> rfl

theorem keepsControls_approvePairingByCode (code : JsString) (now : ℤ) :
    KeepsControls (approvePairingByCode p upper code now) := by
  intro live
  rw [approvePairingByCode]
  split <;> rfl

theorem keepsControls_claimPairing (pairingId pollToken : JsString) (draw : RandomText) (now : ℤ) :
    KeepsControls (claimPairing p pairingId pollToken draw now) := by
  intro live
  rw [claimPairing]
  split
  · rfl
  · split_ifs
    · rfl
    · rfl
    · rfl
    · split <;> rfl

theorem keepsControls_touchDeviceHeartbeat (deviceId : JsString) (input : Heartbeat) (now : ℤ) :
    KeepsControls (touchDeviceHeartbeat deviceId input now) := by
  intro live
  rw [touchDeviceHeartbeat]
  split
  · rfl
  · split_ifs <;> rfl

theorem keepsControls_revokeDevice (deviceId : JsString) (now : ℤ) :
    KeepsControls (revokeDevice deviceId now) := by
  intro live
  unfold revokeDevice
  split
  · rfl
  · split_ifs <;> rfl
  · split_ifs
    · split <;> rfl
    · rfl

theorem keepsControls_purgeState (env : StoreEnv) (now : ℤ) :
    KeepsControls (purgeState env now) := by
  intro live
  simp only [purgeState]
  split_ifs <;> rfl

theorem KeepsControls.void {α : Type} {op : Live → Effect α} (h : KeepsControls op) :
    KeepsControls fun live => (op live).void := by
  intro live
  rw [Effect.live_void]
  exact h live

/-- The switch that a call throws. -/
def Mutator.switched : Mutator → Option (JsString × Bool)
  | setTargetEnabled targetId enabled _ _ => some (targetId, enabled)
  | _ => none

theorem keepsControls_effect {c : Mutator} (hc : c.switched = none) :
    KeepsControls fun live => c.effect p upper env live := by
  cases c with
  | registerClient client now => exact (keepsControls_registerClient _ client now).void
  | touchClient clientId now => exact keepsControls_touchClient clientId now
  | revokeClient clientId now => exact (keepsControls_revokeClient clientId now).void
  | revokeAllClients now => exact (keepsControls_revokeAllClients now).void
  | putAuthCode rawCode code => exact keepsControls_putAuthCode _ rawCode code
  | consumeAuthCode rawCode now => exact (keepsControls_consumeAuthCode _ rawCode now).void
  | createSession session => exact keepsControls_createSession session
  | rotateRefreshToken sessionId rawRefresh refreshExpiresAt accessExpiresAt now =>
      exact (keepsControls_rotateRefreshToken _ sessionId rawRefresh _ _ now).void
  | touchSession sessionId now => exact keepsControls_touchSession sessionId now
  | revokeSession sessionId now => exact (keepsControls_revokeSession sessionId now).void
  | revokeAllSessions now => exact (keepsControls_revokeAllSessions now).void
  | setTargetEnabled targetId enabled reason now => cases hc
  | recordToolResult input now => exact keepsControls_recordToolResult input now
  | recordTargetProbe target ok errorCode now =>
      exact keepsControls_recordTargetProbe target ok errorCode now
  | createPairing info draws now => exact (keepsControls_startPairing info draws now).void
  | approvePairingByCode code now => exact (keepsControls_approvePairingByCode code now).void
  | claimPairing pairingId pollToken draw now =>
      exact (keepsControls_claimPairing pairingId pollToken draw now).void
  | touchDeviceHeartbeat deviceId input now =>
      exact (keepsControls_touchDeviceHeartbeat deviceId input now).void
  | revokeDevice deviceId now => exact (keepsControls_revokeDevice deviceId now).void
  | purgeState now => exact keepsControls_purgeState _ now

end Operations

/-! ## Where the switches of a store come from -/

/-- The switches in memory and in the file are each those of one of the two before. -/
structure ControlsFrom (store store' : Store) : Prop where
  memory : store'.live.state.targetControls = store.live.state.targetControls ∨
    store'.live.state.targetControls = store.file.targetControls
  file : store'.file.targetControls = store.live.state.targetControls ∨
    store'.file.targetControls = store.file.targetControls

theorem ControlsFrom.refl (store : Store) : ControlsFrom store store := ⟨.inl rfl, .inr rfl⟩

theorem ControlsFrom.trans {store store' store'' : Store} (h : ControlsFrom store store')
    (h' : ControlsFrom store' store'') : ControlsFrom store store'' := by
  constructor
  · rcases h'.memory with heq | heq
    · rw [heq]
      exact h.memory
    · rw [heq]
      exact h.file
  · rcases h'.file with heq | heq
    · rw [heq]
      exact h.memory
    · rw [heq]
      exact h.file

theorem controlsFrom_run {α : Type} {op : Live → Effect α} (h : KeepsControls op) (store : Store)
    (writes : Bool) : ControlsFrom store (store.run op writes).2 := by
  have hlive := h store.live
  cases hrun : store.run op writes with
  | mk result store' =>
      cases result with
      | ok x =>
          rcases Store.run_eq_ok hrun with ⟨-, rfl⟩ | ⟨live', heffect, rfl⟩
          · exact .refl _
          · rw [heffect] at hlive
            exact ⟨.inl hlive, .inl hlive⟩
      | error e =>
          rcases Store.run_eq_error hrun with rfl | ⟨live', x, heffect, rfl⟩
          · exact .refl _
          · rw [heffect] at hlive
            exact ⟨.inl hlive, .inr rfl⟩

theorem controlsFrom_restart (env : StoreEnv) (now : ℤ) (store : Store) :
    ControlsFrom store (store.restart env now) := ⟨.inr rfl, .inr rfl⟩

section Requests

variable {p : Platform} {upper : UpperCase} {env : OAuthEnv} {pairingEnv : PairingEnv}
  {registry : Registry} {store : Store}

theorem controlsFrom_call {α : Type} {op : Live → Effect α} (h : KeepsControls op) (writes : Bool)
    (reply : α → OAuthReply) : ControlsFrom store (store.call op writes reply).2 := by
  have hrun := controlsFrom_run h store writes
  rw [Store.call]
  generalize store.run op writes = result at hrun ⊢
  obtain ⟨result, store'⟩ := result
  cases result <;> exact hrun

theorem controlsFrom_register (input : RegisterInput) :
    ControlsFrom store (register p env input store).2 := by
  rw [register]
  split
  · split
    · exact .refl _
    · split
      · exact .refl _
      · rename_i uris _
        have hrun := controlsFrom_run
          (keepsControls_registerClient env.store (input.client uris) input.pruned.ms) store
          input.writes
        split
        · exact .refl _
        · split
          · exact .refl _
          · generalize store.run _ _ = result at hrun ⊢
            obtain ⟨result, store'⟩ := result
            rcases result with e | _ | _ <;> exact hrun
  · exact .refl _

theorem controlsFrom_authorizeSubmit (input : SubmitInput) :
    ControlsFrom store (authorizeSubmit p env input store).2 := by
  rw [authorizeSubmit]
  split
  · exact .refl _
  · rename_i client _
    have hrun := controlsFrom_run (keepsControls_putAuthCode p.digest (randomId "code" input.code)
      (input.authCode env client)) store input.writes
    split_ifs
    · exact .refl _
    · exact .refl _
    · exact .refl _
    · generalize store.run _ _ = result at hrun ⊢
      obtain ⟨result, store'⟩ := result
      cases result <;> exact hrun
  · split_ifs <;> exact .refl _

theorem controlsFrom_issueNewSession (input : TokenInput) (clientId resource : JsString) :
    ControlsFrom store (issueNewSession p env input clientId resource store).2 := by
  have hrun := controlsFrom_run (keepsControls_createSession (input.newSession p clientId resource))
    store input.writesSession
  rw [issueNewSession]
  generalize store.run _ _ = result at hrun ⊢
  obtain ⟨result, store'⟩ := result
  cases result <;> exact hrun

theorem controlsFrom_grantAuthorizationCode (input : TokenInput) :
    ControlsFrom store (grantAuthorizationCode p env input store).2 := by
  have hrun := controlsFrom_run (keepsControls_consumeAuthCode p.digest input.code
    input.consumed.ms) store input.writesCode
  rw [grantAuthorizationCode]
  generalize store.run _ _ = result at hrun ⊢
  obtain ⟨result, store'⟩ := result
  cases result with
  | error e => exact hrun
  | ok code =>
      dsimp only
      split
      · exact hrun
      · exact hrun
      · split_ifs
        · exact hrun
        · exact hrun.trans (controlsFrom_issueNewSession input _ _)

theorem controlsFrom_grantRefreshToken (input : TokenInput) :
    ControlsFrom store (grantRefreshToken p env input store).2 := by
  rw [grantRefreshToken]
  split
  · exact .refl _
  · rename_i session _
    have hrun := controlsFrom_run (keepsControls_rotateRefreshToken p.digest session.sessionId
      input.newRefreshToken (input.now.ms + refreshTtlMs) (input.now.ms + accessTtlMs)
      input.now.ms) store input.writesSession
    split_ifs
    · exact .refl _
    · generalize store.run _ _ = result at hrun ⊢
      obtain ⟨result, store'⟩ := result
      rcases result with e | _ | _
      · exact hrun
      · exact hrun
      · dsimp only
        split
        · exact hrun
        · split_ifs <;> exact hrun

theorem controlsFrom_requireBearer (input : BearerInput) :
    ControlsFrom store (requireBearer p env input store).2 := by
  rw [requireBearer]
  split
  · exact .refl _
  · split
    · exact .refl _
    · rename_i payload _
      have hrun := controlsFrom_run (keepsControls_touchSession
        (textOrEmpty (payload.get (js "sid"))) input.touched.ms) store input.writes
      dsimp only
      generalize store.run _ _ = result at hrun ⊢
      obtain ⟨result, store'⟩ := result
      cases result <;> exact hrun

/-- The OAuth endpoints throw no switch. -/
theorem controlsFrom_oauth (i : OAuthInput) : ControlsFrom store (i.step p env store).2 := by
  cases i with
  | register input => exact controlsFrom_register input
  | submit input => exact controlsFrom_authorizeSubmit input
  | token input =>
      rw [OAuthInput.step, token]
      split_ifs
      · exact .refl _
      · exact controlsFrom_grantAuthorizationCode input
      · exact controlsFrom_grantRefreshToken input
      · exact .refl _
  | bearer input => exact controlsFrom_requireBearer input
  | touchSession sessionId now writes =>
      exact controlsFrom_call (keepsControls_touchSession sessionId now.ms) writes _
  | purgeState now writes => exact controlsFrom_call (keepsControls_purgeState _ now.ms) writes _
  | revokeClient clientId now writes =>
      exact controlsFrom_call (keepsControls_revokeClient clientId now.ms) writes _
  | revokeAllClients now writes =>
      exact controlsFrom_call (keepsControls_revokeAllClients now.ms) writes _
  | revokeSession sessionId now writes =>
      exact controlsFrom_call (keepsControls_revokeSession sessionId now.ms) writes _
  | revokeAllSessions now writes =>
      exact controlsFrom_call (keepsControls_revokeAllSessions now.ms) writes _
  | revokeDevice deviceId now writes =>
      exact controlsFrom_call (keepsControls_revokeDevice deviceId now.ms) writes _
  | restart now => exact controlsFrom_restart _ _ _

end Requests

/-! ## A switch that is off -/

def ControlOff (id : JsString) (controls : Record TargetControl) : Prop :=
  ∃ control, controls.get? id = some control ∧ control.enabled = false

/-- The target is off in memory and in the file. -/
structure TurnedOff (id : JsString) (store : Store) : Prop where
  memory : ControlOff id store.live.state.targetControls
  file : ControlOff id store.file.targetControls

/-- What switches a target on. -/
def StoreInput.Enables (id : JsString) : StoreInput → Prop
  | .call (.setTargetEnabled targetId enabled _ _) _ => targetId = id ∧ enabled = true
  | _ => False

def AdminServerInput.Enables (id : JsString) : AdminServerInput → Prop
  | .action r => r.action = .enableTarget id
  | .other i => i.Enables id
  | _ => False

/-- Nothing is sent to a target: by no call of a tool, whatever its arguments and the answers to its
earlier requests, and by no request of the console. -/
structure Silent (p : Platform) (upper : UpperCase) (env : ConsoleEnv) (id : JsString)
    (store : Store) : Prop where
  tools : ∀ (c : Invocation) (w : ToolWorld) (h : List (List Sent × SentAnswers))
    (batch : List Sent) (s : Sent), w.admin.live = store.live → Program.Asks (c.run w) h batch →
      s ∈ batch → s.target.id ≠ id
  console : ∀ (registry : Registry) (r : AdminRequest) (answer : AdminResponse)
    (effects : List AdminEffect),
      (handleAdmin p upper env registry r store).1 = .acted answer effects → .probed id ∉ effects

section Switch

variable {p : Platform} {upper : UpperCase} {env : ConsoleEnv} {pairingEnv : PairingEnv}
  {registry : Registry} {r : AdminRequest} {id : JsString} {store store' : Store}

theorem controlOff_set {controls : Record TargetControl} (h : ControlOff id controls)
    {targetId : JsString} {control : TargetControl}
    (hcontrol : targetId = id → control.enabled = false) :
    ControlOff id (controls.set targetId control) := by
  by_cases heq : id = targetId
  · exact ⟨control, by rw [Record.get?_set, if_pos heq], hcontrol heq.symm⟩
  · obtain ⟨old, hold, hdisabled⟩ := h
    exact ⟨old, by rw [Record.get?_set, if_neg heq, hold], hdisabled⟩

theorem TurnedOff.of_controlsFrom (h : TurnedOff id store) (hfrom : ControlsFrom store store') :
    TurnedOff id store' := by
  constructor
  · rcases hfrom.memory with heq | heq
    · exact heq ▸ h.memory
    · exact heq ▸ h.file
  · rcases hfrom.file with heq | heq
    · exact heq ▸ h.memory
    · exact heq ▸ h.file

/-- Another switch may be thrown, and this one again to off. -/
theorem TurnedOff.setTargetEnabled (h : TurnedOff id store) {targetId : JsString} {enabled : Bool}
    (henabled : targetId = id → enabled = false) (reason : Option JsString) (now : ℤ)
    (writes : Bool) :
    TurnedOff id (store.run (setTargetEnabled targetId enabled reason now) writes).2 := by
  have hmemory : ControlOff id (store.live.state.targetControls.set targetId
      ⟨enabled, now, reason.map (·.take 200)⟩) := controlOff_set h.memory henabled
  cases writes with
  | true => exact ⟨hmemory, hmemory⟩
  | false => exact ⟨hmemory, h.file⟩

theorem controlsFrom_base (c : Mutator) :
    ControlsFrom store { store with live := c.base store.live } := by
  refine ⟨.inl ?_, .inr rfl⟩
  cases c <;> rfl

theorem TurnedOff.call (h : TurnedOff id store) {c : Mutator} {writes : Bool}
    (hc : ¬StoreInput.Enables id (.call c writes)) :
    TurnedOff id (c.run p upper pairingEnv store writes).2 := by
  cases hswitched : c.switched with
  | none =>
      exact h.of_controlsFrom ((controlsFrom_base c).trans
        (controlsFrom_run (keepsControls_effect hswitched) _ writes))
  | some switch =>
      cases c with
      | setTargetEnabled targetId enabled reason now =>
          refine h.setTargetEnabled (fun htarget => ?_) reason now writes
          exact Bool.eq_false_iff.mpr fun henabled => hc ⟨htarget, henabled⟩
      | _ => cases hswitched

theorem TurnedOff.storeInput (h : TurnedOff id store) {i : StoreInput} (hi : ¬i.Enables id) :
    TurnedOff id (i.step p upper pairingEnv store).2 := by
  cases i with
  | call c writes => exact h.call hi
  | restart now => exact h.of_controlsFrom (controlsFrom_restart _ now store)

theorem withStore_store {α : Type} (run : Except JsString α × Store)
    (k : α → AdminResponse × List AdminEffect) : (withStore run k).2 = run.2 := by
  obtain ⟨result, store'⟩ := run
  cases result <;> rfl

theorem TurnedOff.withStore {α : Type} {op : Live → Effect α} (h : TurnedOff id store)
    (hop : KeepsControls op) (writes : Bool) (k : α → AdminResponse × List AdminEffect) :
    TurnedOff id (RemoteOps.withStore (store.run op writes) k).2 := by
  rw [withStore_store]
  exact h.of_controlsFrom (controlsFrom_run hop store writes)

theorem TurnedOff.controlTargetAction (h : TurnedOff id store) {targetId : JsString}
    {enabled : Bool} (henabled : targetId = id → enabled = false) (tool reason done : String)
    (closes : Bool) :
    TurnedOff id
      (controlTargetAction registry r store targetId enabled tool reason done closes).2 := by
  unfold RemoteOps.controlTargetAction
  split
  · exact h
  · next t hfound =>
    rw [withStore_store]
    exact h.setTargetEnabled (fun heq => henabled ((getTarget_id hfound).symm.trans heq)) _ _ _

theorem controlsFrom_probe (t : TargetConfig) (ok : Bool) (error : Option JsString) :
    ControlsFrom store (store.run (recordTargetProbe t.id ok error r.storeNow) r.writes).2 :=
  controlsFrom_run (keepsControls_recordTargetProbe _ _ _ _) _ _

theorem controlsFrom_probeFailed (t : TargetConfig) (name : JsString) :
    ControlsFrom store (probeFailed r t name store).2 := by
  have hprobe := @controlsFrom_probe r store t false (some name)
  rw [probeFailed]
  generalize store.run _ _ = result at hprobe ⊢
  obtain ⟨result, store'⟩ := result
  cases result <;> exact hprobe

theorem controlsFrom_checkTargetAction (targetId : JsString) (probe : ProbeResult) :
    ControlsFrom store (checkTargetAction registry r store targetId probe).2 := by
  unfold checkTargetAction
  dsimp only
  split
  · exact .refl _
  · rename_i t _
    split_ifs
    · exact .refl _
    · split
      · exact controlsFrom_probeFailed t _
      · rename_i result
        have hprobe := @controlsFrom_probe r store t (probeOk result)
          (if probeOk result then none else some (exitError result))
        generalize store.run _ _ = stored at hprobe ⊢
        obtain ⟨stored, store'⟩ := stored
        cases stored with
        | error e => exact hprobe.trans (controlsFrom_probeFailed t _)
        | ok _ => exact hprobe

/-- Of the routes of the console only one switches this target on. -/
theorem TurnedOff.adminAct (h : TurnedOff id store) {action : AdminAction}
    (haction : action ≠ .enableTarget id) :
    TurnedOff id (adminAct p upper registry r store action).2 := by
  cases action with
  | logout => exact h
  | approvePairing => exact h.withStore (keepsControls_approvePairingByCode _ _) _ _
  | revokeAgentDevice deviceId => exact h.withStore (keepsControls_revokeDevice _ _) _ _
  | revokeAll => exact h.withStore (keepsControls_revokeAllClients _) _ _
  | revokeClient clientId => exact h.withStore (keepsControls_revokeClient _ _) _ _
  | revokeSession sessionId => exact h.withStore (keepsControls_revokeSession _ _) _ _
  | revokeTarget targetId => exact h.controlTargetAction (fun _ => rfl) _ _ _ _
  | enableTarget targetId =>
      exact h.controlTargetAction (fun heq => absurd (heq ▸ rfl) haction) _ _ _ _
  | checkTarget targetId probe =>
      exact h.of_controlsFrom (controlsFrom_checkTargetAction targetId probe)

/-- One step: the target stays off unless it is switched on by somebody who is let through. -/
theorem TurnedOff.step {s : AdminServer} (h : TurnedOff id s.store) {i : AdminServerInput}
    (hi : i.Enables id → ∃ refusal,
      (AdminServerInput.step p upper env pairingEnv registry s i).1 = .refused refusal) :
    TurnedOff id (AdminServerInput.step p upper env pairingEnv registry s i).2.store := by
  cases i with
  | oauth i => exact h.of_controlsFrom (controlsFrom_oauth i)
  | login attempt input =>
      rw [AdminServerInput.step]
      dsimp only
      split_ifs
      · rw [ConsoleInput.step]
        split_ifs <;> exact h
      · exact h
  | action r =>
      have hstep : (AdminServerInput.step p upper env pairingEnv registry s (.action r)).2.store =
          (handleAdmin p upper env registry r s.store).2 := rfl
      have hreply : (AdminServerInput.step p upper env pairingEnv registry s (.action r)).1 =
          (handleAdmin p upper env registry r s.store).1 := rfl
      rw [hreply] at hi
      rw [hstep]
      unfold handleAdmin at hi ⊢
      split
      · exact h
      · exact h
      · next claims hread =>
        rw [hread] at hi
        dsimp only at hi
        split_ifs at hi ⊢ with hcsrf
        · refine h.adminAct fun haction => ?_
          obtain ⟨refusal, hrefused⟩ := hi haction
          obtain ⟨answer, effects, hacted⟩ := @adminAct_acted p upper registry r s.store r.action
          rw [hacted] at hrefused
          cases hrefused
        · exact h
  | other i =>
      refine h.storeInput fun henables => ?_
      obtain ⟨refusal, hrefused⟩ := hi henables
      cases hrefused

/-! ### Silence -/

theorem effectiveTargetEnabled_of_off {live : Live} (h : ControlOff id live.state.targetControls)
    (registryEnabled : Bool) : effectiveTargetEnabled id registryEnabled live = false := by
  obtain ⟨control, hget, hdisabled⟩ := h
  rw [effectiveTargetEnabled, Realm.slot_eq_own hget]
  dsimp only
  rw [hdisabled, Bool.and_false]

theorem withStore_effects {α : Type} {run : Except JsString α × Store}
    {k : α → AdminResponse × List AdminEffect} {answer : AdminResponse} {effects : List AdminEffect}
    (h : (withStore run k).1 = .acted answer effects) :
    effects = [] ∨ ∃ x, run.1 = .ok x ∧ effects = (k x).2 := by
  obtain ⟨result, store'⟩ := run
  cases result with
  | error message => exact .inl (AdminReply.acted.inj h).2.symm
  | ok x => exact .inr ⟨x, rfl, (AdminReply.acted.inj h).2.symm⟩

/-- Only a check asks something of a target. -/
theorem probed_notMem_withStore {α : Type} {run : Except JsString α × Store}
    {k : α → AdminResponse × List AdminEffect} {answer : AdminResponse} {effects : List AdminEffect}
    (h : (withStore run k).1 = .acted answer effects) (hk : ∀ x, .probed id ∉ (k x).2) :
    .probed id ∉ effects := by
  rcases withStore_effects h with rfl | ⟨x, -, rfl⟩
  · exact List.not_mem_nil
  · exact hk x

theorem probed_notMem_revoked {tool : String} {target : JsString} {missing done notFound : String}
    (found : Bool) : .probed id ∉ (revoked tool target missing done notFound found).2 := by
  intro hmem
  cases List.mem_singleton.mp hmem

theorem probed_notMem_controlTarget {targetId : JsString} {enabled : Bool}
    {tool reason done : String} {closes : Bool} {answer : AdminResponse}
    {effects : List AdminEffect}
    (h : (controlTargetAction registry r store targetId enabled tool reason done closes).1 =
      .acted answer effects) : .probed id ∉ effects := by
  unfold controlTargetAction at h
  split at h
  · obtain ⟨-, rfl⟩ := AdminReply.acted.inj h
    intro hmem
    cases List.mem_singleton.mp hmem
  · refine probed_notMem_withStore h fun _ hmem => ?_
    cases closes <;> simp at hmem

theorem probeFailed_effects {t : TargetConfig} {name : JsString} {answer : AdminResponse}
    {effects : List AdminEffect} (h : (probeFailed r t name store).1 = .acted answer effects) :
    effects = [.probed t.id] := by
  rw [probeFailed] at h
  split at h <;> exact (AdminReply.acted.inj h).2.symm

theorem probed_notMem_checkTarget (hoff : ControlOff id store.live.state.targetControls)
    {targetId : JsString} {probe : ProbeResult} {answer : AdminResponse}
    {effects : List AdminEffect}
    (h : (checkTargetAction registry r store targetId probe).1 = .acted answer effects) :
    .probed id ∉ effects := by
  unfold checkTargetAction at h
  dsimp only at h
  split at h
  · obtain ⟨-, rfl⟩ := AdminReply.acted.inj h
    exact List.not_mem_nil
  · next t hfound =>
    split_ifs at h with hdisabled
    · obtain ⟨-, rfl⟩ := AdminReply.acted.inj h
      exact List.not_mem_nil
    · have heffects : effects = [.probed t.id] := by
        split at h
        · exact probeFailed_effects h
        · split at h
          · exact probeFailed_effects h
          · exact (AdminReply.acted.inj h).2.symm
      rw [heffects, getTarget_id hfound]
      intro hmem
      obtain rfl := AdminEffect.probed.inj (List.mem_singleton.mp hmem)
      exact hdisabled (by rw [effectiveTargetEnabled_of_off hoff, Bool.not_false])

theorem probed_notMem_adminAct (hoff : ControlOff id store.live.state.targetControls)
    {action : AdminAction} {answer : AdminResponse} {effects : List AdminEffect}
    (h : (adminAct p upper registry r store action).1 = .acted answer effects) :
    .probed id ∉ effects := by
  cases action with
  | logout =>
      obtain ⟨-, rfl⟩ := AdminReply.acted.inj h
      exact List.not_mem_nil
  | approvePairing =>
      refine probed_notMem_withStore h fun pairing hmem => ?_
      cases pairing <;> cases List.mem_singleton.mp hmem
  | revokeAgentDevice deviceId =>
      refine probed_notMem_withStore h fun found hmem => ?_
      cases found <;> simp [revoked] at hmem
  | revokeAll =>
      refine probed_notMem_withStore h fun count hmem => ?_
      cases List.mem_singleton.mp hmem
  | revokeClient clientId => exact probed_notMem_withStore h probed_notMem_revoked
  | revokeSession sessionId => exact probed_notMem_withStore h probed_notMem_revoked
  | revokeTarget targetId => exact probed_notMem_controlTarget h
  | enableTarget targetId => exact probed_notMem_controlTarget h
  | checkTarget targetId probe => exact probed_notMem_checkTarget hoff h

theorem TurnedOff.silent (h : TurnedOff id store) : Silent p upper env id store := by
  constructor
  · rintro c w answered batch s hlive hasks hs rfl
    have hauthorized : Authorized w s := Program.Only.asks (sendsOnly_run c w) hasks s hs
    have henabled := hauthorized.resolved.enabled
    rw [hlive, effectiveTargetEnabled_of_off h.memory] at henabled
    cases henabled
  · intro registry r answer effects hacted
    unfold handleAdmin at hacted
    split at hacted
    · cases hacted
    · cases hacted
    · split_ifs at hacted
      exact probed_notMem_adminAct h.memory hacted

/-! ### Runs -/

/-- A revocation that has closed the connections of a target has switched it off. -/
theorem turnedOff_of_poolClosed {answer : AdminResponse} {effects : List AdminEffect}
    (hrevoke : r.action = .revokeTarget id)
    (hacted : (handleAdmin p upper env registry r store).1 = .acted answer effects)
    (hclosed : .poolClosed id ∈ effects) :
    TurnedOff id (handleAdmin p upper env registry r store).2 := by
  unfold handleAdmin at hacted ⊢
  split at hacted
  · cases hacted
  · cases hacted
  · split_ifs at hacted ⊢ with hcsrf
    rw [hrevoke, adminAct, revokeTargetAction] at hacted ⊢
    unfold controlTargetAction at hacted ⊢
    split at hacted
    · obtain ⟨-, rfl⟩ := AdminReply.acted.inj hacted
      cases List.mem_singleton.mp hclosed
    · next t hfound =>
      rw [withStore_store]
      rcases withStore_effects hacted with rfl | ⟨x, hran, -⟩
      · cases hclosed
      · rcases Store.run_eq_ok (Prod.ext hran rfl) with ⟨hdone, -⟩ | ⟨live', hpersist, hstore⟩
        · cases hdone
        · obtain ⟨hlive, -⟩ := Effect.persist.inj hpersist
          have hoff : ControlOff id live'.state.targetControls := by
            rw [← hlive, getTarget_id hfound]
            exact ⟨_, Record.get?_set_self _ _ _, rfl⟩
          exact (congrArg (TurnedOff id) hstore).mpr ⟨hoff, hoff⟩

/-- After a target has been revoked nothing is sent to it any more, by no call that begins
afterwards, wherever the run goes: through requests of any client, failing writes and new starts.
Only somebody whom the console lets through switches it on again. -/
theorem revoked_target_silent (p : Platform) (upper : UpperCase) (env : ConsoleEnv)
    (pairingEnv : PairingEnv) (registry : Registry) (pre post : List AdminServerInput)
    (r : AdminRequest) (id : JsString) (answer : AdminResponse) (effects : List AdminEffect)
    (hrevoke : r.action = .revokeTarget id)
    (hanswer : (adminServer p upper env pairingEnv registry).answer pre (.action r) =
      .acted answer effects)
    (hclosed : .poolClosed id ∈ effects)
    (hpost : ∀ mid i rest, post = mid ++ i :: rest → i.Enables id → ∃ refusal,
      (adminServer p upper env pairingEnv registry).answer (pre ++ .action r :: mid) i =
        .refused refusal) :
    Silent p upper env id
      ((adminServer p upper env pairingEnv registry).after (pre ++ .action r :: post)).store := by
  refine TurnedOff.silent ?_
  induction post using List.reverseRecOn with
  | nil =>
      rw [Machine.after_concat]
      exact turnedOff_of_poolClosed hrevoke hanswer hclosed
  | append_singleton post i ih =>
      have hafter : pre ++ AdminServerInput.action r :: (post ++ [i]) =
          (pre ++ .action r :: post) ++ [i] := by simp
      rw [hafter, Machine.after_concat]
      refine TurnedOff.step (ih fun mid j rest heq => ?_) (hpost post i [] rfl)
      exact hpost mid j (rest ++ [i]) (by simp [heq])

end Switch

/-! ## A run -/

/-- The administrator revokes the target, and somebody who has not signed in wants it back. -/
def revokeLab : AdminRequest := { adminRequest with action := .revokeTarget opsTarget.id }

def afterRevoke : List AdminServerInput :=
  [.other (.restart 5000),
    .action { adminRequest with cookie := [], action := .enableTarget opsTarget.id }]

theorem afterRevoke_refused (mid : List AdminServerInput) (i : AdminServerInput)
    (rest : List AdminServerInput) (hsplit : afterRevoke = mid ++ i :: rest)
    (henables : i.Enables opsTarget.id) :
    ∃ refusal, (adminServer samplePlatform sampleUpper sampleConsoleEnv samplePairingEnv
      [opsTarget]).answer (adminRun ++ .action revokeLab :: mid) i = .refused refusal := by
  rcases mid with _ | ⟨restart, _ | ⟨enable, mid⟩⟩
  · obtain ⟨rfl, -⟩ := List.cons.inj hsplit
    exact henables.elim
  · obtain ⟨-, hsplit⟩ := List.cons.inj hsplit
    obtain ⟨rfl, -⟩ := List.cons.inj hsplit
    exact ⟨.login, rfl⟩
  · obtain ⟨-, hsplit⟩ := List.cons.inj hsplit
    obtain ⟨-, hsplit⟩ := List.cons.inj hsplit
    cases mid <;> cases hsplit

theorem revokeLab_acted :
    (adminServer samplePlatform sampleUpper sampleConsoleEnv samplePairingEnv [opsTarget]).answer
        adminRun (.action revokeLab) =
      .acted (noticed (js "Device revogado. Novas operações estão bloqueadas."))
        [.poolClosed opsTarget.id, .audited "admin.revoke_target" (some opsTarget.id) none] := by
  have hshown : revokeLab.shown = some adminCookieText := shown_adminRequest
  have hclaims : readAdminClaims samplePlatform sampleConsoleEnv.oauth revokeLab.cookie
      revokeLab.now = some (some (adminLogin.claims sampleConsoleEnv).json) := by
    rw [readAdminClaims_of_shown hshown (List.append_ne_nil_of_right_ne_nil _ (by decide +kernel)),
      adminCookieText, readAdminToken_makeAdminToken samplePlatform_lawful sampleHmac_ne_empty,
      if_pos (by decide)]
  have hcsrf : csrfMatches (adminLogin.claims sampleConsoleEnv).json (revokeLab.field "csrf") =
      true := (csrfMatches_iff adminLogin _).mpr (by decide)
  have hanswer : (adminServer samplePlatform sampleUpper sampleConsoleEnv samplePairingEnv
      [opsTarget]).answer adminRun (.action revokeLab) =
        (handleAdmin samplePlatform sampleUpper sampleConsoleEnv [opsTarget] revokeLab
          ((adminServer samplePlatform sampleUpper sampleConsoleEnv samplePairingEnv
            [opsTarget]).after adminRun).store).1 := rfl
  rw [hanswer, handleAdmin, hclaims]
  dsimp only
  rw [if_pos hcsrf]
  rfl

theorem revoked_target_silent_lab :
    Silent samplePlatform sampleUpper sampleConsoleEnv opsTarget.id
      ((adminServer samplePlatform sampleUpper sampleConsoleEnv samplePairingEnv [opsTarget]).after
        (adminRun ++ .action revokeLab :: afterRevoke)).store :=
  revoked_target_silent samplePlatform sampleUpper sampleConsoleEnv samplePairingEnv [opsTarget]
    adminRun afterRevoke revokeLab opsTarget.id _ _ rfl revokeLab_acted (List.mem_cons_self ..)
    afterRevoke_refused

end RemoteOps

import RemoteOps.Config.ManagedAdmin
import RemoteOps.Privileged.Replay

/-!
# From an approval to an execution

The control plane, where actions are prepared and consumed while the registry,
the overlay and the devices change, and the broker, which receives whatever the
agent sends, are one machine. Between the two stands nobody who is trusted: a
message is any chunk of text on any connection.

`executed_bound` says of every execution which approval it goes back to. The
chain has three links: the broker has verified the bytes of the ticket it
executes; the only bytes that verify are those of a granted ticket, and they
determine it (`ticketText_bytes_injective`); and a granted ticket carries the
action of an approval that was pending, which granting it used up
(`ApprovalInvariant`).
-/

namespace RemoteOps

open Ecma Transition

/-! ## The system -/

structure AdminWorld where
  control : ApprovalState
  broker : BrokerState

inductive AdminInput where
  | setRegistry (registry : Registry)
  | setLive (live : Live)
  | prepare (input : PrepareInput)
  | consume (input : ConsumeInput)
  | message (input : BrokerInput)

inductive AdminAnswer where
  | none
  | prepared (result : Except OpsError PendingManagedAdminApproval)
  | consumed (result : Except OpsError ManagedAdminGrant)
  | broker (reply : Option BrokerReply)

def AdminWorld.step (env : AuthEnv) (scheme : SignatureScheme) (w : AdminWorld) :
    AdminInput → AdminAnswer × AdminWorld
  | .setRegistry registry => (.none, { w with control := { w.control with registry := registry } })
  | .setLive live => (.none, { w with control := { w.control with live := live } })
  | .prepare input =>
      let (result, control) := prepareManagedAdminAction env w.control input
      (.prepared result, { w with control := control })
  | .consume input =>
      let (result, control) := consumeManagedAdminApproval env scheme w.control input
      (.consumed result, { w with control := control })
  | .message input =>
      let (reply, broker) := w.broker.step scheme input
      (.broker reply, { w with broker := broker })

def adminSystem (env : AuthEnv) (scheme : SignatureScheme) (config : BrokerConfig) :
    Machine AdminWorld AdminInput AdminAnswer where
  start := ⟨⟨[], ⟨emptyState, Realm.fresh, Record.empty⟩, Record.empty, 0⟩, (broker scheme config).start⟩
  step := AdminWorld.step env scheme

section Answers

variable (env : AuthEnv) (scheme : SignatureScheme) (config : BrokerConfig)
  (is : List AdminInput)

theorem answer_consume (input : ConsumeInput) :
    (adminSystem env scheme config).answer is (.consume input) =
      .consumed (consumeManagedAdminApproval env scheme
        ((adminSystem env scheme config).after is).control input).1 := rfl

theorem answer_message (input : BrokerInput) :
    (adminSystem env scheme config).answer is (.message input) =
      .broker (((adminSystem env scheme config).after is).broker.step scheme input).1 := rfl

end Answers

abbrev AdminTrace := List (AdminInput × AdminAnswer)

/-- The approvals that were prepared, in order. -/
def preparedApprovals (trace : AdminTrace) : List PendingManagedAdminApproval :=
  trace.filterMap fun a =>
    match a.2 with
    | .prepared (.ok approval) => some approval
    | _ => none

/-- The tickets that were granted, in order. -/
def grants (trace : AdminTrace) : List ManagedAdminGrant :=
  trace.filterMap fun a =>
    match a.2 with
    | .consumed (.ok grant) => some grant
    | _ => none

/-- The byte strings the control plane has signed. -/
def signedBytes (trace : AdminTrace) : List ByteArray :=
  (grants trace).filterMap fun g => (managedAdminTicketBytes g.ticket).toOption

/-- Verification accepts only what was signed before. -/
def Unforgeable (env : AuthEnv) (scheme : SignatureScheme) (config : BrokerConfig)
    (is : List AdminInput) : Prop :=
  ∀ pre i post bytes signature, is = pre ++ .message i :: post →
    ((adminSystem env scheme config).after pre).broker.verifyQuery i = some (bytes, signature) →
      scheme.verify bytes signature = true →
        bytes ∈ signedBytes ((adminSystem env scheme config).trace pre)

/-! ## Approvals are used once -/

theorem prepareManagedAdminAction_eq_ok {env : AuthEnv} {s s' : ApprovalState}
    {input : PrepareInput} {approval : PendingManagedAdminApproval}
    (h : prepareManagedAdminAction env s input = (.ok approval, s')) :
    approval.id = input.newApprovalId ∧ approval.actor = input.actor ∧
      approval.serial = s.prepared ∧
      s' = { s with
        approvals := (purgeApprovals s.approvals input.clock.purge.ms).set approval.id approval
        prepared := s.prepared + 1 } := by
  unfold prepareManagedAdminAction at h
  dsimp only at h
  split at h
  · exact absurd (Prod.mk.inj h).1 (by simp)
  · obtain ⟨happroval, hstate⟩ := Prod.mk.inj h
    obtain rfl := Except.ok.inj happroval
    exact ⟨rfl, rfl, rfl, hstate.symm⟩

theorem prepareManagedAdminAction_error {env : AuthEnv} {s s' : ApprovalState}
    {input : PrepareInput} {e : OpsError}
    (h : prepareManagedAdminAction env s input = (.error e, s')) :
    s' = { s with approvals := purgeApprovals s.approvals input.clock.purge.ms } := by
  unfold prepareManagedAdminAction at h
  dsimp only at h
  split at h
  · exact (Prod.mk.inj h).2.symm
  · exact absurd (Prod.mk.inj h).1 (by simp)

/-- Serial numbers count the prepared approvals, a pending approval is one of them
under its own id, and no pending approval has granted a ticket. -/
structure ApprovalInvariant (trace : AdminTrace) (s : ApprovalState) : Prop where
  serials : (preparedApprovals trace).map (·.serial) = List.range s.prepared
  pending : ∀ k a, s.approvals.get? k = some a → a.id = k ∧ a ∈ preparedApprovals trace
  once : ((grants trace).map (·.serial)).Nodup
  used : ∀ g ∈ grants trace, g.serial < s.prepared ∧
    ∀ k a, s.approvals.get? k = some a → a.serial ≠ g.serial

theorem ApprovalInvariant.serial_lt {trace : AdminTrace} {s : ApprovalState}
    (h : ApprovalInvariant trace s) {a : PendingManagedAdminApproval}
    (ha : a ∈ preparedApprovals trace) : a.serial < s.prepared := by
  have hmem : a.serial ∈ (preparedApprovals trace).map (·.serial) := List.mem_map.mpr ⟨a, ha, rfl⟩
  rw [h.serials] at hmem
  exact List.mem_range.mp hmem

theorem ApprovalInvariant.eq_of_serial {trace : AdminTrace} {s : ApprovalState}
    (h : ApprovalInvariant trace s) {a b : PendingManagedAdminApproval}
    (ha : a ∈ preparedApprovals trace) (hb : b ∈ preparedApprovals trace)
    (heq : a.serial = b.serial) : a = b := by
  have hnodup : ((preparedApprovals trace).map (·.serial)).Nodup := by
    rw [h.serials]
    exact List.nodup_range
  exact List.inj_on_of_nodup_map hnodup ha hb heq

/-- An input that prepares nothing, grants nothing and drops approvals at most. -/
theorem ApprovalInvariant.shrink {trace : AdminTrace} {s s' : ApprovalState}
    (h : ApprovalInvariant trace s) {a : AdminInput × AdminAnswer}
    (hprepared : preparedApprovals (trace ++ [a]) = preparedApprovals trace)
    (hgrants : grants (trace ++ [a]) = grants trace) (hcount : s'.prepared = s.prepared)
    (hsub : ∀ k x, s'.approvals.get? k = some x → s.approvals.get? k = some x) :
    ApprovalInvariant (trace ++ [a]) s' where
  serials := by rw [hprepared, hcount, h.serials]
  pending k x hx := by
    rw [hprepared]
    exact h.pending k x (hsub k x hx)
  once := by rw [hgrants]; exact h.once
  used g hg := by
    rw [hgrants] at hg
    rw [hcount]
    exact ⟨(h.used g hg).1, fun k x hx => (h.used g hg).2 k x (hsub k x hx)⟩

theorem get?_of_purgeApprovals {approvals : Record PendingManagedAdminApproval} {now : ℤ}
    {k : JsString} {a : PendingManagedAdminApproval}
    (h : (purgeApprovals approvals now).get? k = some a) : approvals.get? k = some a :=
  (Record.get?_of_get?_filter h).1

theorem ApprovalInvariant.prepare {trace : AdminTrace} {s s' : ApprovalState} {env : AuthEnv}
    (h : ApprovalInvariant trace s) {input : PrepareInput}
    {result : Except OpsError PendingManagedAdminApproval}
    (hstep : prepareManagedAdminAction env s input = (result, s')) :
    ApprovalInvariant (trace ++ [(.prepare input, .prepared result)]) s' := by
  cases result with
  | error e =>
      rw [prepareManagedAdminAction_error hstep]
      exact h.shrink (by simp [preparedApprovals]) (by simp [grants]) rfl
        fun k x hx => get?_of_purgeApprovals hx
  | ok approval =>
      obtain ⟨-, -, hserial, rfl⟩ := prepareManagedAdminAction_eq_ok hstep
      have hprepared : preparedApprovals (trace ++ [(.prepare input, .prepared (.ok approval))]) =
          preparedApprovals trace ++ [approval] := by
        simp [preparedApprovals]
      have hgrants : grants (trace ++ [(.prepare input, .prepared (.ok approval))]) =
          grants trace := by
        simp [grants]
      refine ⟨?_, ?_, by rw [hgrants]; exact h.once, ?_⟩
      · rw [hprepared, List.map_append, h.serials, List.range_succ, ← hserial]
        rfl
      · intro k x hx
        rw [hprepared]
        dsimp only at hx
        rw [Record.get?_set] at hx
        split_ifs at hx with hk
        · obtain rfl := Option.some.inj hx
          exact ⟨hk.symm, by simp⟩
        · obtain ⟨hid, hmem⟩ := h.pending k x (get?_of_purgeApprovals hx)
          exact ⟨hid, List.mem_append_left _ hmem⟩
      · intro g hg
        rw [hgrants] at hg
        obtain ⟨hlt, hother⟩ := h.used g hg
        refine ⟨by dsimp only; omega, ?_⟩
        intro k x hx
        dsimp only at hx
        rw [Record.get?_set] at hx
        split_ifs at hx with hk
        · obtain rfl := Option.some.inj hx
          omega
        · exact hother k x (get?_of_purgeApprovals hx)

theorem ApprovalInvariant.consume {trace : AdminTrace} {s s' : ApprovalState} {env : AuthEnv}
    {scheme : SignatureScheme} (h : ApprovalInvariant trace s) {input : ConsumeInput}
    {result : Except OpsError ManagedAdminGrant}
    (hstep : consumeManagedAdminApproval env scheme s input = (result, s')) :
    ApprovalInvariant (trace ++ [(.consume input, .consumed result)]) s' := by
  cases result with
  | error e =>
      obtain ⟨keep, rfl⟩ := consumeManagedAdminApproval_error hstep
      exact h.shrink (by simp [preparedApprovals]) (by simp [grants]) rfl
        fun k x hx => (Record.get?_of_get?_filter hx).1
  | ok grant =>
      obtain ⟨approval, hconsumes, rfl⟩ := consumeManagedAdminApproval_eq_ok hstep
      have hprepared : preparedApprovals (trace ++ [(.consume input, .consumed (.ok grant))]) =
          preparedApprovals trace := by
        simp [preparedApprovals]
      have hgrants : grants (trace ++ [(.consume input, .consumed (.ok grant))]) =
          grants trace ++ [grant] := by
        simp [grants]
      have hkeep : ∀ k x, ((purgeApprovals s.approvals input.clock.purge.ms).erase approval.id).get? k =
          some x → k ≠ approval.id ∧ s.approvals.get? k = some x := by
        intro k x hx
        rw [Record.get?_erase] at hx
        split_ifs at hx with hk
        exact ⟨hk, get?_of_purgeApprovals hx⟩
      obtain ⟨hid, hmem⟩ := h.pending _ _ hconsumes.pending
      refine ⟨by rw [hprepared, h.serials], ?_, ?_, ?_⟩
      · intro k x hx
        rw [hprepared]
        exact h.pending k x (hkeep k x hx).2
      · rw [hgrants, List.map_append, List.nodup_append]
        refine ⟨h.once, List.nodup_singleton _, ?_⟩
        rintro n hn m hm rfl
        obtain ⟨g, hg, rfl⟩ := List.mem_map.mp hn
        have hserial : g.serial = grant.serial := List.mem_singleton.mp hm
        rw [hconsumes.serial] at hserial
        exact (h.used g hg).2 _ _ hconsumes.pending hserial.symm
      · intro g hg
        rw [hgrants] at hg
        rcases List.mem_append.mp hg with hg | hg
        · exact ⟨(h.used g hg).1, fun k x hx => (h.used g hg).2 k x (hkeep k x hx).2⟩
        · rw [List.mem_singleton.mp hg, hconsumes.serial]
          refine ⟨h.serial_lt hmem, ?_⟩
          intro k x hx heq
          obtain ⟨hk, hx⟩ := hkeep k x hx
          obtain ⟨hxid, hxmem⟩ := h.pending k x hx
          have hsame := h.eq_of_serial hxmem hmem heq
          exact hk (by rw [← hxid, hsame])

theorem approvalInvariant (env : AuthEnv) (scheme : SignatureScheme) (config : BrokerConfig)
    (is : List AdminInput) :
    ApprovalInvariant ((adminSystem env scheme config).trace is)
      ((adminSystem env scheme config).after is).control := by
  refine (adminSystem env scheme config).invariant (E := fun _ => True) (fun _ _ h => h)
    (I := fun is w => ApprovalInvariant ((adminSystem env scheme config).trace is) w.control)
    ⟨rfl, by simp [adminSystem], by simp [grants], by simp [grants]⟩ ?_ is trivial
  rintro is i - hinv
  rw [Machine.trace_concat]
  cases i with
  | setRegistry registry =>
      exact hinv.shrink (by simp [preparedApprovals, Machine.answer, adminSystem, AdminWorld.step])
        (by simp [grants, Machine.answer, adminSystem, AdminWorld.step]) rfl fun k x hx => hx
  | setLive live =>
      exact hinv.shrink (by simp [preparedApprovals, Machine.answer, adminSystem, AdminWorld.step])
        (by simp [grants, Machine.answer, adminSystem, AdminWorld.step]) rfl fun k x hx => hx
  | message input =>
      exact hinv.shrink (by simp [preparedApprovals, Machine.answer, adminSystem, AdminWorld.step])
        (by simp [grants, Machine.answer, adminSystem, AdminWorld.step]) rfl fun k x hx => hx
  | prepare input => exact hinv.prepare rfl
  | consume input => exact hinv.consume rfl

/-! ## Every execution is bound to one approval -/

section Binding

variable (env : AuthEnv) (scheme : SignatureScheme) (config : BrokerConfig)

theorem exists_prepare_of_mem {is : List AdminInput} {approval : PendingManagedAdminApproval}
    (h : approval ∈ preparedApprovals ((adminSystem env scheme config).trace is)) :
    ∃ pre input post, is = pre ++ .prepare input :: post ∧
      (adminSystem env scheme config).answer pre (.prepare input) = .prepared (.ok approval) := by
  obtain ⟨⟨i, o⟩, hmem, hsome⟩ := List.mem_filterMap.mp h
  obtain ⟨pre, post, rfl, ho⟩ := (Machine.mem_trace_iff _).mp hmem
  have hanswer : o = .prepared (.ok approval) := by
    split at hsome
    · rename_i happroval
      rw [← Option.some.inj hsome, ← happroval]
    · exact absurd hsome (by simp)
  rw [hanswer] at ho
  cases i with
  | prepare input => exact ⟨pre, input, post, rfl, ho⟩
  | setRegistry registry => exact absurd ho (by simp [Machine.answer, adminSystem, AdminWorld.step])
  | setLive live => exact absurd ho (by simp [Machine.answer, adminSystem, AdminWorld.step])
  | consume input => exact absurd ho (by simp [Machine.answer, adminSystem, AdminWorld.step])
  | message input => exact absurd ho (by simp [Machine.answer, adminSystem, AdminWorld.step])

theorem exists_consume_of_mem {is : List AdminInput} {grant : ManagedAdminGrant}
    (h : grant ∈ grants ((adminSystem env scheme config).trace is)) :
    ∃ pre input post, is = pre ++ .consume input :: post ∧
      (adminSystem env scheme config).answer pre (.consume input) = .consumed (.ok grant) := by
  obtain ⟨⟨i, o⟩, hmem, hsome⟩ := List.mem_filterMap.mp h
  obtain ⟨pre, post, rfl, ho⟩ := (Machine.mem_trace_iff _).mp hmem
  have hanswer : o = .consumed (.ok grant) := by
    split at hsome
    · rename_i hgrant
      rw [← Option.some.inj hsome, ← hgrant]
    · exact absurd hsome (by simp)
  rw [hanswer] at ho
  cases i with
  | consume input => exact ⟨pre, input, post, rfl, ho⟩
  | setRegistry registry => exact absurd ho (by simp [Machine.answer, adminSystem, AdminWorld.step])
  | setLive live => exact absurd ho (by simp [Machine.answer, adminSystem, AdminWorld.step])
  | prepare input => exact absurd ho (by simp [Machine.answer, adminSystem, AdminWorld.step])
  | message input => exact absurd ho (by simp [Machine.answer, adminSystem, AdminWorld.step])

/-- What the trace of a run says also holds in every longer run. -/
theorem mem_trace_append {a : AdminInput × AdminAnswer} {pre post : List AdminInput}
    (h : a ∈ (adminSystem env scheme config).trace pre) :
    a ∈ (adminSystem env scheme config).trace (pre ++ post) := by
  rw [Machine.trace, Machine.traceFrom_append]
  exact List.mem_append_left _ h

theorem filter_eq_singleton {α κ : Type*} [DecidableEq κ] {f : α → κ} {xs : List α} {x : α}
    (hnodup : (xs.map f).Nodup) (hx : x ∈ xs) : xs.filter (fun y => f y = f x) = [x] := by
  induction xs with
  | nil => exact absurd hx List.not_mem_nil
  | cons y ys ih =>
      rw [List.map_cons, List.nodup_cons] at hnodup
      obtain ⟨hnot, hnodup⟩ := hnodup
      rcases List.mem_cons.mp hx with rfl | hmem
      · have hrest : ys.filter (fun y => f y = f x) = [] := by
          rw [List.filter_eq_nil_iff]
          intro z hz heq
          exact hnot (List.mem_map.mpr ⟨z, hz, by simpa using heq⟩)
        simp [hrest]
      · have hne : f y ≠ f x := fun heq => hnot (heq ▸ List.mem_map.mpr ⟨x, hmem, rfl⟩)
        simp [hne, ih hnodup hmem]

/-- How an execution of `ticket` goes back to the approval that `p` prepared and
`c` consumed in the run `is`; `w` is the control plane as `c` found it. -/
structure ApprovedBy (is : List AdminInput) (w : ApprovalState) (p : PrepareInput)
    (c : ConsumeInput) (approval : PendingManagedAdminApproval) (grant : ManagedAdminGrant)
    (ticket : ManagedAdminTicketV1) : Prop where
  sameActor : p.actor = c.actor
  sameId : c.approvalId = approval.id
  confirmed : trim c.confirmation = js "APPROVE " ++ approval.id
  inTime : c.clock.purge.ms ≤ approval.expiresAt
  target : ticket.targetId = approval.action.targetId
  device : ticket.deviceId = approval.action.deviceId
  program : ticket.program = approval.action.program
  argv : ticket.argv = approval.action.argv
  cwd : ticket.cwd = approval.action.cwd
  timeout : ticket.timeoutMs = approval.action.timeoutMs
  granted : grant.ticket = ticket
  onlyApproval : (preparedApprovals ((adminSystem env scheme config).trace is)).filter
    (fun a => a.serial = approval.serial) = [approval]
  onlyTicket : (grants ((adminSystem env scheme config).trace is)).filter
    (fun g => g.serial = approval.serial) = [grant]
  targetId : grant.target.id = ticket.targetId
  administrable : Administrable w.registry w.live grant.target ticket.deviceId
  programAllowed : ticket.program ∈ grant.target.allowedAdminPrograms
  cwdAllowed : cwdLexicallyAllowed ticket.cwd grant.target.allowedAdminCwds = true

theorem requestTicket_wellFormed {raw : Json} {ticket : ManagedAdminTicketV1}
    (h : requestTicket raw = .ok ticket) : ticket.WellFormed := by
  unfold requestTicket at h
  split at h
  · exact absurd h (by simp)
  · exact normalize_wellFormed h

/-- An executed ticket is one that was granted before. -/
theorem executed_granted {is pre post : List AdminInput} {i : BrokerInput}
    {ticket : ManagedAdminTicketV1} {cwd : JsString} (hunforgeable : Unforgeable env scheme config is)
    (his : is = pre ++ .message i :: post)
    (hexecuted : (adminSystem env scheme config).answer pre (.message i) =
      .broker (some (.executed ticket cwd))) :
    ∃ grant ∈ grants ((adminSystem env scheme config).trace pre), grant.ticket = ticket ∧
      ticket.WellFormed := by
  have hreply : (((adminSystem env scheme config).after pre).broker.step scheme i).1 =
      some (.executed ticket cwd) := AdminAnswer.broker.inj hexecuted
  rcases step_cases scheme ((adminSystem env scheme config).after pre).broker i with
    ⟨hother, -⟩ | ⟨n, chunk, realpath, clock, persists, raw, ticket', cwd', rfl, hraw, hreply',
      hexec⟩
  · exact absurd hreply (hother ticket cwd)
  · rw [hreply'] at hreply
    obtain ⟨rfl, rfl⟩ := BrokerReply.executed.inj (Option.some.inj hreply)
    have hwell := requestTicket_wellFormed hexec.normalised
    obtain ⟨signature, hsignature, hverify⟩ := hexec.verified
    have hshape : matchesSignature signature = true := by
      rw [verifyManagedAdminTicket, Bool.and_eq_true] at hverify
      exact hverify.1
    have hquery : ((adminSystem env scheme config).after pre).broker.verifyQuery
        (.data n chunk realpath clock persists) =
          some (textBytes (ticketText ticket'), signature) := by
      simp only [BrokerState.verifyQuery, hraw, hexec.normalised, hsignature, hshape,
        managedAdminTicketBytes_of_wellFormed hwell]
    have hsigned := hunforgeable pre _ post _ signature his hquery (verify_of_wellFormed hwell hverify)
    obtain ⟨grant, hgrant, hbytes⟩ := List.mem_filterMap.mp hsigned
    obtain ⟨pre', c, post', rfl, hc⟩ := exists_consume_of_mem env scheme config hgrant
    obtain ⟨approval, hconsumes, -⟩ := consumeManagedAdminApproval_eq_ok
      (Prod.ext (AdminAnswer.consumed.inj hc) rfl)
    obtain ⟨secret, hsign⟩ := hconsumes.signed
    have hgrantWell := sign_eq_ok hsign
    rw [managedAdminTicketBytes_of_wellFormed hgrantWell] at hbytes
    exact ⟨grant, hgrant, ticketText_bytes_injective hgrantWell hwell (Option.some.inj hbytes), hwell⟩

/-- Whenever the broker executes a ticket, one approval stands behind it: prepared,
then consumed in time by the same actor with the exact confirmation, for the very
action of the ticket, on a target that could be administered at that moment, and
for no other ticket. The encoding this rests on is injective and survives the
transport as JSON. -/
theorem executed_bound :
    (∀ is, Unforgeable env scheme config is → ∀ pre i post ticket cwd,
      is = pre ++ .message i :: post →
      (adminSystem env scheme config).answer pre (.message i) =
        .broker (some (.executed ticket cwd)) →
      ∃ before p mid c later approval grant,
        pre = before ++ .prepare p :: mid ++ .consume c :: later ∧
          (adminSystem env scheme config).answer before (.prepare p) = .prepared (.ok approval) ∧
          (adminSystem env scheme config).answer (before ++ .prepare p :: mid) (.consume c) =
            .consumed (.ok grant) ∧
          ApprovedBy env scheme config is
            ((adminSystem env scheme config).after (before ++ .prepare p :: mid)).control p c
            approval grant ticket) ∧
    (∀ t u : ManagedAdminTicketV1, t.WellFormed → u.WellFormed →
      managedAdminTicketBytes t = managedAdminTicketBytes u → t = u) ∧
    ∀ (t : ManagedAdminTicketV1) (signature : JsString), t.WellFormed →
      ∃ raw received, parse (requestLine t signature) = some raw ∧
        requestTicket raw = .ok received ∧
        managedAdminTicketBytes received = managedAdminTicketBytes t := by
  refine ⟨?_, ?_, ?_⟩
  · intro is hunforgeable pre i post ticket cwd his hexecuted
    obtain ⟨grant, hgrant, rfl, hwell⟩ :=
      executed_granted env scheme config hunforgeable his hexecuted
    obtain ⟨upto, c, later, rfl, hc⟩ := exists_consume_of_mem env scheme config hgrant
    obtain ⟨approval, hconsumes, -⟩ := consumeManagedAdminApproval_eq_ok
      (Prod.ext (AdminAnswer.consumed.inj hc) rfl)
    have hthen := approvalInvariant env scheme config upto
    obtain ⟨hid, hmem⟩ := hthen.pending _ _ hconsumes.pending
    obtain ⟨before, p, mid, rfl, hp⟩ := exists_prepare_of_mem env scheme config hmem
    obtain ⟨-, hactor, -, -⟩ := prepareManagedAdminAction_eq_ok
      (Prod.ext (AdminAnswer.prepared.inj hp) rfl)
    have hfinal := approvalInvariant env scheme config is
    have hall : ∀ a, a ∈ (adminSystem env scheme config).trace (before ++ .prepare p :: mid) →
        a ∈ (adminSystem env scheme config).trace is := by
      intro a ha
      rw [his, List.append_assoc]
      exact mem_trace_append env scheme config ha
    have hmemAll : approval ∈ preparedApprovals ((adminSystem env scheme config).trace is) := by
      obtain ⟨a, ha, hsome⟩ := List.mem_filterMap.mp hmem
      exact List.mem_filterMap.mpr ⟨a, hall a ha, hsome⟩
    have hgrantAll : grant ∈ grants ((adminSystem env scheme config).trace is) := by
      obtain ⟨a, ha, hsome⟩ := List.mem_filterMap.mp hgrant
      refine List.mem_filterMap.mpr ⟨a, ?_, hsome⟩
      rw [his]
      exact mem_trace_append env scheme config ha
    have hserials : ((preparedApprovals ((adminSystem env scheme config).trace is)).map
        (·.serial)).Nodup := by
      rw [hfinal.serials]
      exact List.nodup_range
    have honly := filter_eq_singleton hfinal.once hgrantAll
    simp only [hconsumes.serial] at honly
    have hticket := hconsumes.ticket
    refine ⟨before, p, mid, c, later, approval, grant, rfl, hp, hc, ?_⟩
    exact
      { sameActor := by rw [← hactor, hconsumes.actor]
        sameId := hid.symm
        confirmed := hconsumes.confirmed
        inTime := hconsumes.unexpired
        target := by rw [hticket]; rfl
        device := by rw [hticket]; rfl
        program := by rw [hticket]; rfl
        argv := by rw [hticket]; rfl
        cwd := by rw [hticket]; rfl
        timeout := by rw [hticket]; rfl
        granted := rfl
        onlyApproval := filter_eq_singleton hserials hmemAll
        onlyTicket := honly
        targetId := by rw [hticket, hconsumes.targetId]; rfl
        administrable := by rw [hticket]; exact hconsumes.administrable
        programAllowed := by rw [hticket]; exact hconsumes.programAllowed
        cwdAllowed := by rw [hticket]; exact hconsumes.cwdAllowed }
  · intro t u ht hu hbytes
    rw [managedAdminTicketBytes_of_wellFormed ht, managedAdminTicketBytes_of_wellFormed hu] at hbytes
    exact ticketText_bytes_injective ht hu (Except.ok.inj hbytes)
  · intro t signature ht
    exact ⟨_, t, parse_requestLine ht signature, requestTicket_requestLine ht signature, rfl⟩

end Binding

/-! ## A run that executes -/

def sampleEnv : AuthEnv := ⟨true, some (List.replicate 32 (unit 'k')), 120⟩

def sampleTarget : TargetConfig where
  id := js "lab"
  capabilityProfile := .operator
  transport := .agent
  deviceId := some (js "dev_00000000")
  allowedSemanticCapabilities := [managedAdminCapability]
  allowedAdminPrograms := [js "df"]
  allowedAdminCwds := [js "/opt"]

def sampleDevice : StoredDevice where
  deviceId := js "dev_00000000"
  displayName := js "lab"
  hostname := js "lab"
  os := none
  agentVersion := none
  fingerprint := none
  credentialHash := []
  createdAt := 1
  lastSeenAt := some 1
  capabilities := some [managedAdminCapability]

def sampleLive : Live :=
  ⟨{ emptyState with devices := Record.empty.set (js "dev_00000000") sampleDevice }, Realm.fresh,
    Record.empty⟩

/-- Every clock reads 10. -/
def sampleClock : CallClock := ⟨⟨10, by decide⟩, ⟨10, by decide⟩, ⟨10, by decide⟩⟩

def sampleAction : ManagedAdminAction where
  targetId := js "lab"
  deviceId := js "dev_00000000"
  program := js "df"
  argv := [js "-h"]
  cwd := js "/opt"
  timeoutMs := JsNumber.ofInt 1000 inRange_thousand

def samplePrepare : PrepareInput where
  actor := js "oauth:client"
  targetId := js "lab"
  program := some (.str (js "df"))
  argv := some (.arr [.str (js "-h")])
  cwd := some (.str (js "/opt"))
  timeoutMs := some (.num (JsNumber.ofInt 1000 inRange_thousand))
  newApprovalId := js "adm_0"
  clock := sampleClock

def sampleApproval : PendingManagedAdminApproval where
  id := js "adm_0"
  actor := js "oauth:client"
  createdAt := 10
  expiresAt := 600010
  action := sampleAction
  serial := 0

def sampleConsume : ConsumeInput where
  actor := js "oauth:client"
  targetId := js "lab"
  approvalId := js "adm_0"
  confirmation := js " APPROVE adm_0\n"
  nonce := List.replicate 32 (unit '0')
  clock := sampleClock

def grantedTicket : ManagedAdminTicketV1 :=
  ticketFor sampleAction (List.replicate 32 (unit '0')) ⟨10, by decide⟩

def sampleGrant : ManagedAdminGrant where
  approvalId := js "adm_0"
  target := sampleTarget
  ticket := grantedTicket
  signature := sampleSignature
  serial := 0

/-- The control plane once the target and its device are known. -/
def sampleControl : ApprovalState := ⟨[sampleTarget], sampleLive, Record.empty, 0⟩

theorem requireDeviceCapability_sample :
    requireDeviceCapability sampleEnv sampleLive (js "dev_00000000") 10 = .ok () := by
  have hdevices : sampleLive.state.devices.values = [sampleDevice] := by decide +kernel
  unfold requireDeviceCapability requireLiveDevice
  rw [listDevices, hdevices, List.mergeSort_singleton]
  rfl

theorem normalizeTimeout_sample :
    normalizeTimeout (some (.num (JsNumber.ofInt 1000 inRange_thousand))) =
      .ok (JsNumber.ofInt 1000 inRange_thousand) := by
  have hint : isIntegerIn 1000 120000 (JsNumber.ofInt 1000 inRange_thousand) = true := by
    simp [isIntegerIn, JsNumber.toInt?_ofInt]
  simp only [normalizeTimeout, Json.toNum, requireThat, convertedOr, ok_bind, hint, if_true]
  rfl

theorem sampleTarget_required :
    requireManagedAdminTarget [sampleTarget] sampleLive (js "lab") =
      .ok (sampleTarget, js "dev_00000000") := by
  rfl

theorem normalizeProgram_sample :
    normalizeProgram sampleTarget (some (.str (js "df"))) = .ok (js "df") := by
  rfl

theorem normalizeArgv_sample : normalizeArgv (some (.arr [.str (js "-h")])) = .ok [js "-h"] := by
  rfl

theorem normalizeCwd_sample :
    normalizeCwd sampleTarget (some (.str (js "/opt"))) = .ok (js "/opt") := by
  rfl

theorem sampleEnv_secret :
    requireManagedAdminAuthSecret sampleEnv = .ok (List.replicate 32 (unit 'k')) := rfl

theorem prepare_sample :
    prepareManagedAdminAction sampleEnv sampleControl samplePrepare =
      (.ok sampleApproval,
        { sampleControl with
          approvals := Record.empty.set (js "adm_0") sampleApproval
          prepared := 1 }) := by
  have haction : prepareAction sampleEnv sampleControl samplePrepare = .ok sampleAction := by
    simp only [prepareAction, sampleControl, samplePrepare, sampleClock, sampleEnv_secret,
      sampleTarget_required, ok_bind, requireDeviceCapability_sample, normalizeProgram_sample,
      normalizeArgv_sample, normalizeCwd_sample, normalizeTimeout_sample]
    rfl
  have hpurged : ({ sampleControl with
      approvals := purgeApprovals sampleControl.approvals samplePrepare.clock.purge.ms } :
      ApprovalState) = sampleControl := rfl
  unfold prepareManagedAdminAction
  dsimp only
  rw [hpurged, haction]
  rfl

theorem presentable_grantedTicket : Presentable grantedTicket 10 where
  wellFormed := by
    unfold ManagedAdminTicketV1.WellFormed
    decide +kernel
  valid := by decide +kernel
  oneLine := by decide +kernel
  small := by decide +kernel

theorem consumeChecks_sample {s : ApprovalState} (hregistry : s.registry = [sampleTarget])
    (hlive : s.live = sampleLive) :
    consumeChecks sampleEnv s sampleConsume sampleApproval =
      .ok (List.replicate 32 (unit 'k'), sampleTarget, sampleAction) := by
  have hactor : (requireThat (sampleApproval.actor = sampleConsume.actor) "CAPABILITY_DENIED"
      (js "aprovação managed-admin pertence a outro ator MCP")) = .ok () := by rfl
  have htarget : (requireThat (sampleApproval.action.targetId = sampleConsume.targetId)
      "CAPABILITY_DENIED"
      (js "target informado não corresponde à aprovação managed-admin")) = .ok () := by rfl
  have hconfirm : requireApprovalConfirmation sampleApproval.id sampleConsume.confirmation =
      .ok () := by rfl
  have hrequired : requireManagedAdminTarget [sampleTarget] sampleLive
      sampleApproval.action.targetId = .ok (sampleTarget, js "dev_00000000") :=
    sampleTarget_required
  have hdevice : (requireThat (js "dev_00000000" = sampleApproval.action.deviceId)
      "CAPABILITY_DENIED" (js "device do target mudou após a preparação")) = .ok () := by rfl
  have hcapability : requireDeviceCapability sampleEnv sampleLive sampleApproval.action.deviceId
      sampleConsume.clock.device.ms = .ok () := requireDeviceCapability_sample
  have hprogram : normalizeProgram sampleTarget (some (.str sampleApproval.action.program)) =
      .ok (js "df") := normalizeProgram_sample
  have hargv : normalizeArgv (some (.arr (sampleApproval.action.argv.map .str))) =
      .ok [js "-h"] := normalizeArgv_sample
  have hcwd : normalizeCwd sampleTarget (some (.str sampleApproval.action.cwd)) =
      .ok (js "/opt") := normalizeCwd_sample
  have htimeout : normalizeTimeout (some (.num sampleApproval.action.timeoutMs)) =
      .ok (JsNumber.ofInt 1000 inRange_thousand) := normalizeTimeout_sample
  simp only [consumeChecks, hregistry, hlive, hactor, htarget, hconfirm, sampleEnv_secret,
    hrequired, hdevice, hcapability, hprogram, hargv, hcwd, htimeout, ok_bind]
  rfl

theorem sign_sample : signManagedAdminTicket (sampleScheme grantedTicket) grantedTicket
    (List.replicate 32 (unit 'k')) = .ok sampleSignature := by
  rw [signManagedAdminTicket,
    managedAdminTicketBytes_of_wellFormed presentable_grantedTicket.wellFormed, ok_bind]
  rfl

theorem consume_sample :
    (consumeManagedAdminApproval sampleEnv (sampleScheme grantedTicket)
      { sampleControl with
        approvals := Record.empty.set (js "adm_0") sampleApproval
        prepared := 1 } sampleConsume).1 = .ok sampleGrant := by
  have hpending : (purgeApprovals (Record.empty.set (js "adm_0") sampleApproval)
      sampleConsume.clock.purge.ms).get? sampleConsume.approvalId = some sampleApproval := by
    rfl
  unfold consumeManagedAdminApproval
  dsimp only
  rw [hpending]
  dsimp only
  rw [consumeChecks_sample rfl rfl]
  dsimp only
  have hticket : ticketFor sampleAction sampleConsume.nonce sampleConsume.clock.now =
      grantedTicket := rfl
  rw [hticket, sign_sample]
  rfl

/-- The system of the run below. -/
def sampleSystem : Machine AdminWorld AdminInput AdminAnswer :=
  adminSystem sampleEnv (sampleScheme grantedTicket) sampleConfig

/-- The target and the device become known, and the action is prepared. -/
def preparedRun : List AdminInput :=
  [.setRegistry [sampleTarget], .setLive sampleLive, .prepare samplePrepare]

theorem after_preparedRun :
    sampleSystem.after preparedRun =
      ⟨{ sampleControl with
          approvals := Record.empty.set (js "adm_0") sampleApproval
          prepared := 1 },
        (broker (sampleScheme grantedTicket) sampleConfig).start⟩ := by
  have hstep := prepare_sample
  simp only [sampleControl] at hstep
  simp only [sampleSystem, preparedRun, Machine.after, adminSystem, List.foldl_cons,
    List.foldl_nil, AdminWorld.step, hstep]
  rfl

/-- The approval is consumed. -/
def grantedRun : List AdminInput := preparedRun ++ [.consume sampleConsume]

theorem answer_consume_sample :
    sampleSystem.answer preparedRun (.consume sampleConsume) = .consumed (.ok sampleGrant) := by
  rw [sampleSystem, answer_consume, ← sampleSystem, after_preparedRun, consume_sample]

theorem grants_grantedRun : grants (sampleSystem.trace grantedRun) = [sampleGrant] := by
  have hprepared : grants (sampleSystem.trace preparedRun) = [] := rfl
  rw [grantedRun, Machine.trace_concat, answer_consume_sample, grants, List.filterMap_append,
    ← grants, hprepared]
  rfl

theorem broker_after_grantedRun : (sampleSystem.after grantedRun).broker =
    (broker (sampleScheme grantedTicket) sampleConfig).start := by
  rw [grantedRun, Machine.after_concat, after_preparedRun]
  rfl

theorem answer_message_sample :
    sampleSystem.answer grantedRun (.message (presentTicket grantedTicket 10 0)) =
      .broker (some (.executed grantedTicket (js "/opt"))) := by
  have hstep := step_presentTicket presentable_grantedTicket (n := 0)
    (s := (sampleSystem.after grantedRun).broker) (by rw [broker_after_grantedRun]; rfl)
    (by rw [broker_after_grantedRun]; rfl)
    (by rw [broker_after_grantedRun]; simp [broker, get?_loadReplay_none])
  rw [sampleSystem, answer_message, ← sampleSystem, hstep]

theorem unforgeable_sample : Unforgeable sampleEnv (sampleScheme grantedTicket) sampleConfig
    (grantedRun ++ [.message (presentTicket grantedTicket 10 0)]) := by
  intro pre i post bytes signature heq _ hverify
  have hpre : pre = grantedRun := by
    rcases pre with _ | ⟨a, _ | ⟨b, _ | ⟨c, _ | ⟨d, _ | ⟨e, pre⟩⟩⟩⟩⟩
    all_goals simp [grantedRun, preparedRun] at heq ⊢
    obtain ⟨rfl, rfl, rfl, rfl, -⟩ := heq
    simp
  have hbytes : bytes = textBytes (ticketText grantedTicket) := by
    simp only [sampleScheme, decide_eq_true_eq] at hverify
    exact hverify.2
  have hgrants : grants ((adminSystem sampleEnv (sampleScheme grantedTicket) sampleConfig).trace
      grantedRun) = [sampleGrant] := grants_grantedRun
  rw [hpre, hbytes, signedBytes, hgrants]
  have hsigned : managedAdminTicketBytes sampleGrant.ticket =
      .ok (textBytes (ticketText grantedTicket)) :=
    managedAdminTicketBytes_of_wellFormed presentable_grantedTicket.wellFormed
  simp [hsigned, Except.toOption]

/-- In this run an execution happens, and it is bound to its approval. -/
theorem executed_bound_sample :
    ∃ before p mid c later approval grant,
      grantedRun = before ++ .prepare p :: mid ++ .consume c :: later ∧
        sampleSystem.answer before (.prepare p) = .prepared (.ok approval) ∧
        sampleSystem.answer (before ++ .prepare p :: mid) (.consume c) = .consumed (.ok grant) ∧
        ApprovedBy sampleEnv (sampleScheme grantedTicket) sampleConfig
          (grantedRun ++ [.message (presentTicket grantedTicket 10 0)])
          (sampleSystem.after (before ++ .prepare p :: mid)).control p c approval grant
          grantedTicket :=
  (executed_bound sampleEnv (sampleScheme grantedTicket) sampleConfig).1 _ unforgeable_sample
    grantedRun _ [] grantedTicket (js "/opt") rfl answer_message_sample

end RemoteOps

import RemoteOps.DeepHarness.SemanticPolicy

/-!
# What an input does to the grant store

There are three changes that an input can try to save (`Change`): a grant, a pending
delivery, an accepted delivery. `WorldCase` lists what an input can do altogether:
leave the store alone, save a change or fail to, submit a delivery that is already
pending, end a commit, open or answer a read, or start a new process.
-/

namespace RemoteOps

open Ecma Transition

variable {h : HexDigest}

/-- Events that neither authorise nor report a change. -/
def GrantEvent.IsPlain : GrantEvent → Prop
  | .rejected _ => True
  | .revoked _ done => done = false
  | .looked _ => True
  | .listed _ => True
  | .refused _ => True
  | _ => False

def StoreCall.input : StoreCall → Json
  | .putGrant input => input
  | .revokeGrant input => input
  | .withAuthorizedLeadCommit input _ => input

/-- The call asks for this commit. -/
def Requests (c : StoreCall) (r : CommitRequest) : Prop :=
  ∃ input submits, c = .withAuthorizedLeadCommit input submits ∧ readRequest input submits = some r

/-- The request of a commit names the caller of its input. -/
theorem Requests.identity {c : StoreCall} {r : CommitRequest} (hr : Requests c r) :
    identityOf c.input = some r.identity := by
  obtain ⟨input, submits, rfl, hr⟩ := hr
  unfold readRequest at hr
  simp only [Option.bind_eq_bind, Option.bind_eq_some_iff] at hr
  obtain ⟨identity, hidentity, action, -, revision, -, idempotencyKey, -, payload, -, hr⟩ := hr
  split at hr
  · rw [StoreCall.input, hidentity, ← Option.some.inj hr]
  · cases hr

/-- The state an input tries to save, with the events and the commit in flight that
follow if it is saved. -/
inductive Change (h : HexDigest) (w : GrantWorld) :
    GrantInput → GrantState → List GrantEvent → Option CommitInFlight → Prop where
  | granted {env : TurnEnv} {n : ℕ} {c : StoreCall} {queue : List (ℕ × StoreCall)} {key : JsString}
      {grant : Grant} {e : GrantEvent} (hfault : w.store.faulted = false)
      (hqueue : w.queue = (n, c) :: queue) (hidle : w.inFlight = none)
      (hcaller : ∃ identity, identityOf c.input = some identity ∧
        key = identityKey h identity.toIdentityFields ∧
          (grant.identity = identity ∨
            ∃ current, w.store.state.grants.get? key = some current ∧
              grant.identity = current.identity))
      (hroom : (w.store.state.grants.get? key).isSome = true ∨ w.store.state.grants.size < maxGrants)
      (hrevision : grant.revision = env.uuid.text)
      (hevent : e = .put n grant ∨ e = .revoked n true) :
      Change h w (.turn env)
        { w.store.state with grants := w.store.state.grants.set key grant } [e] none
  | pending {env : TurnEnv} {n : ℕ} {c : StoreCall} {queue : List (ℕ × StoreCall)}
      {request : CommitRequest} {grant : Grant} (hfault : w.store.faulted = false)
      (hqueue : w.queue = (n, c) :: queue) (hidle : w.inFlight = none)
      (hrequest : Requests c request)
      (hgrant : instructGrant h request w.store.state = some grant)
      (hnew : w.store.state.deliveries.get? (request.key h) = none)
      (hroom : w.store.state.deliveries.size < maxDeliveries) :
      Change h w (.turn env)
        { w.store.state with
          deliveries := w.store.state.deliveries.set (request.key h) (newDelivery request grant env) }
        [.submitted request] (some ⟨n, request, newDelivery request grant env⟩)
  | accepted {c : CommitInFlight} {grant : Grant} {now : SafeInt} {persist : PersistOutcome}
      (hflight : w.inFlight = some c) (hgrant : instructGrant h c.request w.store.state = some grant) :
      Change h w (.acknowledged true now persist)
        { w.store.state with
          deliveries := w.store.state.deliveries.set (c.request.key h)
            (acceptedDelivery c.delivery now) }
        [.committed c.request ⟨grant.revision, c.delivery.receiptId, false⟩] none

/-- The queued operation that a turn begins. -/
def Turns (w : GrantWorld) (i : GrantInput) (n : ℕ) (c : StoreCall) : Prop :=
  ∃ env queue, i = .turn env ∧ w.queue = (n, c) :: queue ∧ w.inFlight = none

inductive WorldCase (h : HexDigest) (w : GrantWorld) :
    GrantInput → List GrantEvent × GrantWorld → Prop where
  | plain {i : GrantInput} {x : List GrantEvent × GrantWorld} (hstore : x.2.store = w.store)
      (hrunning : x.2.running = w.running) (hflight : x.2.inFlight = w.inFlight)
      (hreads : ∀ r ∈ x.2.reads, r ∈ w.reads) (hcalls : w.calls ≤ x.2.calls)
      (hevents : ∀ e ∈ x.1, e.IsPlain) : WorldCase h w i x
  | opened {kind : ReadKind} {trusted input : Json} {auth : Authority} (hrunning : w.running = true)
      (hauth : startRead h kind trusted input w.store = some auth) :
      WorldCase h w (.read kind trusted input)
        ([], { w with calls := w.calls + 1, reads := w.reads ++ [(w.calls, auth)] })
  | disclosed {n : ℕ} {auth : Authority} {data : Json} (hrunning : w.running = true)
      (hread : (n, auth) ∈ w.reads) (hrecheck : recheck h auth w.store = true) :
      WorldCase h w (.answered n (some data))
        ([.disclosed n auth data], { w with reads := w.reads.filter fun r => r.1 ≠ n })
  | restarted {persist : PersistOutcome} : WorldCase h w (.restart persist) ([], w.restart persist)
  | saved {i : GrantInput} {next : GrantState} {flight : Option CommitInFlight}
      {x : List GrantEvent × GrantWorld} (hrunning : w.running = true)
      (hchange : Change h w i next x.1 flight)
      (hstore : x.2.store = { w.store with file := some next, state := next })
      (hlive : x.2.running = true) (hflight : x.2.inFlight = flight) (hreads : x.2.reads = w.reads)
      (hcalls : x.2.calls = w.calls) : WorldCase h w i x
  | failed {i : GrantInput} {n : ℕ} {next : GrantState} {events : List GrantEvent}
      {flight : Option CommitInFlight} {x : List GrantEvent × GrantWorld}
      (hrunning : w.running = true) (hchange : Change h w i next events flight)
      (hstore : x.2.store = { w.store with faulted := true } ∨
        x.2.store = { w.store with file := some next, faulted := true })
      (hlive : x.2.running = true) (hflight : x.2.inFlight = none) (hreads : x.2.reads = w.reads)
      (hcalls : x.2.calls = w.calls) (hevents : x.1 = [.rejected n]) : WorldCase h w i x
  | resubmitted {i : GrantInput} {n : ℕ} {c : StoreCall} {request : CommitRequest} {grant : Grant}
      {previous : Delivery} {x : List GrantEvent × GrantWorld} (hrunning : w.running = true)
      (hfault : w.store.faulted = false) (hturn : Turns w i n c)
      (hrequest : Requests c request)
      (hgrant : instructGrant h request w.store.state = some grant)
      (hprevious : w.store.state.deliveries.get? (request.key h) = some previous)
      (hpending : previous.status = .pending) (hpayload : previous.payloadHash = request.payloadHash.1)
      (hrevision : previous.grantRevision = grant.revision) (hstore : x.2.store = w.store)
      (hlive : x.2.running = true) (hflight : x.2.inFlight = some ⟨n, request, previous⟩)
      (hreads : x.2.reads = w.reads) (hcalls : x.2.calls = w.calls)
      (hevents : x.1 = [.submitted request]) : WorldCase h w i x
  | duplicate {i : GrantInput} {n : ℕ} {c : StoreCall} {request : CommitRequest} {grant : Grant}
      {previous : Delivery} {x : List GrantEvent × GrantWorld} (hrunning : w.running = true)
      (hfault : w.store.faulted = false) (hturn : Turns w i n c) (hrequest : Requests c request)
      (hprevious : w.store.state.deliveries.get? (request.key h) = some previous)
      (haccepted : previous.status = .accepted) (hstore : x.2.store = w.store)
      (hlive : x.2.running = true) (hflight : x.2.inFlight = none) (hreads : x.2.reads = w.reads)
      (hcalls : x.2.calls = w.calls)
      (hevents : x.1 = [.committed request ⟨grant.revision, previous.receiptId, true⟩]) :
      WorldCase h w i x
  | ended {i : GrantInput} {n : ℕ} {x : List GrantEvent × GrantWorld} (hrunning : w.running = true)
      (hstore : x.2.store = w.store) (hlive : x.2.running = true) (hflight : x.2.inFlight = none)
      (hreads : x.2.reads = w.reads) (hcalls : x.2.calls = w.calls) (hevents : x.1 = [.rejected n]) :
      WorldCase h w i x

/-! ## Turns of the queue -/

section Turn

variable {w : GrantWorld} {env : TurnEnv} {n : ℕ} {c : StoreCall} {queue : List (ℕ × StoreCall)}

/-- The world after a turn. -/
def GrantWorld.turned (w : GrantWorld) (queue : List (ℕ × StoreCall))
    (r : List GrantEvent × GrantStore × Option CommitInFlight) : List GrantEvent × GrantWorld :=
  (r.1, { w with queue := queue, store := r.2.1, inFlight := r.2.2 })

theorem worldCase_rejected (hrunning : w.running = true) :
    WorldCase h w (.turn env) (w.turned queue ([.rejected n], w.store, none)) :=
  .ended hrunning rfl hrunning rfl rfl rfl rfl

theorem worldCase_putGrant {input : Json} (hrunning : w.running = true)
    (hfault : w.store.faulted = false) (hqueue : w.queue = (n, .putGrant input) :: queue)
    (hidle : w.inFlight = none) :
    WorldCase h w (.turn env) (w.turned queue (runCall h n (.putGrant input) env w.store)) := by
  rw [runCall, if_neg (by simp [hfault]), putGrant]
  cases hidentity : identityOf input with
  | none => exact worldCase_rejected hrunning
  | some identity =>
      cases hactions : readActions (input.get (js "actions")) with
      | none => exact worldCase_rejected hrunning
      | some actions =>
          dsimp only
          by_cases hfull : (w.store.state.grants.get?
              (identityKey h identity.toIdentityFields)).isNone = true ∧
                maxGrants ≤ w.store.state.grants.size
          · rw [if_pos hfull]
            exact worldCase_rejected hrunning
          · rw [if_neg hfull]
            have hroom : (w.store.state.grants.get?
                (identityKey h identity.toIdentityFields)).isSome = true ∨
                  w.store.state.grants.size < maxGrants := by
              rw [not_and_or, not_le, Bool.not_eq_true, Option.isNone_eq_false_iff] at hfull
              exact hfull
            have hchange : Change h w (.turn env) _ [.put n (newGrant identity actions env)] none :=
              .granted hfault hqueue hidle ⟨identity, hidentity, rfl, .inl rfl⟩ hroom rfl (.inl rfl)
            generalize env.persist = outcome
            cases outcome with
            | written => exact .saved hrunning hchange rfl hrunning rfl rfl rfl
            | failedBefore => exact .failed hrunning hchange (.inl rfl) hrunning rfl rfl rfl rfl
            | failedAfter => exact .failed hrunning hchange (.inr rfl) hrunning rfl rfl rfl rfl

theorem worldCase_revokeGrant {input : Json} (hrunning : w.running = true)
    (hfault : w.store.faulted = false) (hqueue : w.queue = (n, .revokeGrant input) :: queue)
    (hidle : w.inFlight = none) :
    WorldCase h w (.turn env) (w.turned queue (runCall h n (.revokeGrant input) env w.store)) := by
  have hnothing : WorldCase h w (.turn env)
      (w.turned queue ([.revoked n false], w.store, none)) := by
    refine .plain rfl rfl hidle.symm (fun _ hmem => hmem) le_rfl fun e he => ?_
    rw [List.mem_singleton.mp he]
    rfl
  rw [runCall, if_neg (by simp [hfault]), revokeGrant]
  cases hidentity : identityOf input with
  | none => exact worldCase_rejected hrunning
  | some identity =>
      dsimp only
      cases hcurrent : w.store.state.grants.get? (identityKey h identity.toIdentityFields) with
      | none => exact hnothing
      | some current =>
          dsimp only
          by_cases hdead : current.revokedAt.isSome = true
          · rw [if_pos hdead]
            exact hnothing
          · rw [if_neg hdead]
            have hcaller : ∃ identity', identityOf (StoreCall.revokeGrant input).input =
                some identity' ∧ identityKey h identity.toIdentityFields =
                  identityKey h identity'.toIdentityFields ∧
                    ((revokedGrant current env).identity = identity' ∨
                      ∃ old, w.store.state.grants.get?
                          (identityKey h identity.toIdentityFields) = some old ∧
                        (revokedGrant current env).identity = old.identity) :=
              ⟨identity, hidentity, rfl, .inr ⟨current, hcurrent, rfl⟩⟩
            have hchange : Change h w (.turn env) _ [.revoked n true] none :=
              .granted hfault hqueue hidle hcaller (.inl (by rw [hcurrent]; rfl)) rfl (.inr rfl)
            generalize env.persist = outcome
            cases outcome with
            | written => exact .saved hrunning hchange rfl hrunning rfl rfl rfl
            | failedBefore => exact .failed hrunning hchange (.inl rfl) hrunning rfl rfl rfl rfl
            | failedAfter => exact .failed hrunning hchange (.inr rfl) hrunning rfl rfl rfl rfl

theorem worldCase_commit {input : Json} {submits : Bool} (hrunning : w.running = true)
    (hfault : w.store.faulted = false)
    (hqueue : w.queue = (n, .withAuthorizedLeadCommit input submits) :: queue)
    (hidle : w.inFlight = none) :
    WorldCase h w (.turn env)
      (w.turned queue (runCall h n (.withAuthorizedLeadCommit input submits) env w.store)) := by
  have hturn : Turns w (.turn env) n (.withAuthorizedLeadCommit input submits) :=
    ⟨env, queue, rfl, hqueue, hidle⟩
  rw [runCall, if_neg (by simp [hfault])]
  cases hrequest : readRequest input submits with
  | none => exact worldCase_rejected hrunning
  | some request =>
      have hrequests : Requests (.withAuthorizedLeadCommit input submits) request :=
        ⟨input, submits, rfl, hrequest⟩
      dsimp only
      unfold startCommit
      cases hgrant : instructGrant h request w.store.state with
      | none => exact worldCase_rejected hrunning
      | some grant =>
          dsimp only
          cases hprevious : w.store.state.deliveries.get? (request.key h) with
          | some previous =>
              dsimp only
              by_cases hconflict : previous.payloadHash ≠ request.payloadHash.1 ∨
                  previous.grantRevision ≠ grant.revision
              · rw [if_pos hconflict]
                exact worldCase_rejected hrunning
              · rw [if_neg hconflict]
                rw [not_or, not_ne_iff, not_ne_iff] at hconflict
                cases hstatus : previous.status with
                | accepted =>
                    exact .duplicate hrunning hfault hturn hrequests hprevious hstatus rfl hrunning rfl rfl rfl
                      rfl
                | pending =>
                    exact .resubmitted hrunning hfault hturn hrequests hgrant hprevious hstatus
                      hconflict.1 hconflict.2 rfl hrunning rfl rfl rfl rfl
          | none =>
              dsimp only
              by_cases hfull : maxDeliveries ≤ w.store.state.deliveries.size
              · rw [if_pos hfull]
                exact worldCase_rejected hrunning
              · rw [if_neg hfull]
                have hchange : Change h w (.turn env) _ [.submitted request]
                    (some ⟨n, request, newDelivery request grant env⟩) :=
                  .pending hfault hqueue hidle hrequests hgrant hprevious (not_le.mp hfull)
                generalize env.persist = outcome
                cases outcome with
                | written => exact .saved hrunning hchange rfl hrunning rfl rfl rfl
                | failedBefore =>
                    exact .failed hrunning hchange (.inl rfl) hrunning rfl rfl rfl rfl
                | failedAfter =>
                    exact .failed hrunning hchange (.inr rfl) hrunning rfl rfl rfl rfl

theorem worldCase_turn (hrunning : w.running = true) (env : TurnEnv) :
    WorldCase h w (.turn env) (w.turn h env) := by
  have hidle : WorldCase h w (.turn env) ([], w) :=
    .plain rfl rfl rfl (fun _ hr => hr) le_rfl (by simp)
  unfold GrantWorld.turn
  cases hflight : w.inFlight with
  | some c => exact hidle
  | none =>
      cases hqueue : w.queue with
      | nil => exact hidle
      | cons call queue =>
          obtain ⟨n, c⟩ := call
          show WorldCase h w (.turn env) (w.turned queue (runCall h n c env w.store))
          by_cases hfault : w.store.faulted = true
          · have hrun : runCall h n c env w.store = ([.rejected n], w.store, none) := by
              rw [runCall.eq_def, if_pos hfault]
            rw [hrun]
            exact worldCase_rejected hrunning
          · rw [Bool.not_eq_true] at hfault
            cases c with
            | putGrant input => exact worldCase_putGrant hrunning hfault hqueue hflight
            | revokeGrant input => exact worldCase_revokeGrant hrunning hfault hqueue hflight
            | withAuthorizedLeadCommit input submits =>
                exact worldCase_commit hrunning hfault hqueue hflight

end Turn

/-! ## The other inputs -/

theorem worldCase_acknowledge {w : GrantWorld} (hrunning : w.running = true) (accepted : Bool)
    (now : SafeInt) (persist : PersistOutcome) :
    WorldCase h w (.acknowledged accepted now persist) (w.acknowledge h accepted now persist) := by
  unfold GrantWorld.acknowledge
  cases hflight : w.inFlight with
  | none => exact .plain rfl rfl rfl (fun _ hr => hr) le_rfl (by simp)
  | some c =>
      have hended : WorldCase h w (.acknowledged accepted now persist)
          ([.rejected c.call], { w with inFlight := none }) :=
        .ended hrunning rfl hrunning rfl rfl rfl rfl
      dsimp only
      unfold finishCommit
      cases accepted with
      | false => exact hended
      | true =>
          cases hgrant : instructGrant h c.request w.store.state with
          | none => exact hended
          | some grant =>
              have hchange : Change h w (.acknowledged true now persist) _ _ none :=
                .accepted hflight hgrant
              cases persist with
              | written => exact .saved hrunning hchange rfl hrunning rfl rfl rfl
              | failedBefore => exact .failed hrunning hchange (.inl rfl) hrunning rfl rfl rfl rfl
              | failedAfter => exact .failed hrunning hchange (.inr rfl) hrunning rfl rfl rfl rfl

theorem worldCase_answer {w : GrantWorld} (hrunning : w.running = true) (n : ℕ)
    (result : Option Json) : WorldCase h w (.answered n result) (w.answer h n result) := by
  unfold GrantWorld.answer
  cases hread : w.reads.find? fun r => r.1 = n with
  | none => exact .plain rfl rfl rfl (fun _ hr => hr) le_rfl (by simp)
  | some read =>
      obtain ⟨n', auth⟩ := read
      obtain rfl : n' = n := by simpa using List.find?_some hread
      have hrefused : WorldCase h w (.answered n' result)
          ([.refused n'], { w with reads := w.reads.filter fun r => r.1 ≠ n' }) := by
        refine .plain rfl rfl rfl (fun r hr => (List.mem_filter.mp hr).1) le_rfl fun e he => ?_
        rw [List.mem_singleton.mp he]
        trivial
      cases result with
      | none => exact hrefused
      | some data =>
          dsimp only
          by_cases hrecheck : recheck h auth w.store = true
          · rw [if_pos hrecheck]
            exact .disclosed hrunning (List.mem_of_find?_eq_some hread) hrecheck
          · rw [if_neg hrecheck]
            exact hrefused

/-- Without a process nothing happens before the next start. -/
theorem step_stopped {w : GrantWorld} (hstopped : w.running = false) (i : GrantInput) :
    i.step h w = ([], w) ∨ ∃ persist, i = .restart persist := by
  have hnot : (!w.running) = true := by rw [hstopped]; rfl
  cases i with
  | restart persist => exact .inr ⟨persist, rfl⟩
  | call c => exact .inl (if_pos hnot)
  | turn env => exact .inl (if_pos hnot)
  | acknowledged accepted now persist => exact .inl (if_pos hnot)
  | lookup input => exact .inl (if_pos hnot)
  | list input => exact .inl (if_pos hnot)
  | read kind trusted input => exact .inl (if_pos hnot)
  | answered n result => exact .inl (if_pos hnot)

theorem worldCase_step (w : GrantWorld) (i : GrantInput) : WorldCase h w i (i.step h w) := by
  by_cases hrunning : w.running = true
  · have hnot : ¬(!w.running) = true := by simp [hrunning]
    cases i with
    | restart persist => exact .restarted
    | call c =>
        rw [GrantInput.step, if_neg hnot]
        exact .plain rfl rfl rfl (fun _ hr => hr) (Nat.le_succ _) (by simp)
    | turn env =>
        rw [GrantInput.step, if_neg hnot]
        exact worldCase_turn hrunning env
    | acknowledged accepted now persist =>
        rw [GrantInput.step, if_neg hnot]
        exact worldCase_acknowledge hrunning accepted now persist
    | lookup input =>
        rw [GrantInput.step, if_neg hnot]
        exact .plain rfl rfl rfl (fun _ hr => hr) le_rfl (by simp [GrantEvent.IsPlain])
    | list input =>
        rw [GrantInput.step, if_neg hnot]
        exact .plain rfl rfl rfl (fun _ hr => hr) le_rfl (by simp [GrantEvent.IsPlain])
    | read kind trusted input =>
        rw [GrantInput.step, if_neg hnot]
        dsimp only
        cases hauth : startRead h kind trusted input w.store with
        | none =>
            exact .plain rfl rfl rfl (fun _ hr => hr) (Nat.le_succ _) (by simp [GrantEvent.IsPlain])
        | some auth => exact .opened hrunning hauth
    | answered n result =>
        rw [GrantInput.step, if_neg hnot]
        exact worldCase_answer hrunning n result
  · rw [Bool.not_eq_true] at hrunning
    rcases step_stopped (h := h) hrunning i with hstep | ⟨persist, rfl⟩
    · rw [hstep]
      exact .plain rfl rfl rfl (fun _ hr => hr) le_rfl (by simp)
    · exact .restarted

end RemoteOps

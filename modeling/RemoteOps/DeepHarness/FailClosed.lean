import RemoteOps.DeepHarness.Reload

/-!
# After a failed write

A write that throws sets `faulted`. Whatever is called afterwards has to reject, since
the file may hold a revocation that the memory does not. Four of the five methods look
at the flag; `listCurrentLeadGrants` does not, and goes on listing grants
(`failsClosed_iff`).
-/

namespace RemoteOps

open Ecma Transition

variable {h : HexDigest} {w : GrantWorld}

/-- What a method that starts, or whose turn comes, answers if it rejects. -/
def GrantInput.rejection (w : GrantWorld) : GrantInput → List GrantEvent
  | .turn _ => w.queue.head?.toList.map fun call => .rejected call.1
  | .lookup _ => [.looked none]
  | .list _ => [.listed none]
  | .read _ _ _ => [.refused w.calls]
  | .answered n _ => if (w.reads.find? fun r => r.1 = n).isSome then [.refused n] else []
  | _ => []

/-- After a failed write every method rejects. -/
def FailsClosed (h : HexDigest) (w : GrantWorld) (i : GrantInput) : Prop :=
  w.running = true → w.store.faulted = true → (i.step h w).1 = i.rejection w

/-- After a failed write nobody lists the grants of a well-formed caller. -/
def ListsNothing (w : GrantWorld) (i : GrantInput) : Prop :=
  w.running = true → w.store.faulted = true → ∀ input, i = .list input → readLister input = none

theorem lookup_of_faulted {s : GrantStore} (hfault : s.faulted = true) (input : Json) :
    lookupCurrentGrant h input s = none := if_pos hfault

theorem authority_of_faulted {s : GrantStore} (hfault : s.faulted = true) (trusted input : Json)
    (action : JsString) : authority h trusted input action s = none := by
  unfold authority
  cases principalOf trusted with
  | none => rfl
  | some principal =>
      cases scopeOf input with
      | none => rfl
      | some scope =>
          show (lookupCurrentGrant h _ s >>= _) = none
          rw [lookup_of_faulted hfault]
          rfl

theorem startRead_of_faulted {s : GrantStore} (hfault : s.faulted = true) (kind : ReadKind)
    (trusted input : Json) : startRead h kind trusted input s = none := by
  cases kind with
  | team => exact authority_of_faulted hfault _ _ _
  | chat =>
      rw [startRead, authority_of_faulted hfault]

theorem recheck_of_faulted {s : GrantStore} (hfault : s.faulted = true) (auth : Authority) :
    recheck h auth s = false := by
  rw [recheck, lookup_of_faulted hfault]

theorem turn_of_faulted (hfault : w.store.faulted = true) (hidle : w.inFlight = none)
    (env : TurnEnv) : (w.turn h env).1 = w.queue.head?.toList.map fun call => .rejected call.1 := by
  unfold GrantWorld.turn
  rw [hidle]
  cases w.queue with
  | nil => rfl
  | cons call queue =>
      have hrun : runCall h call.1 call.2 env w.store = ([.rejected call.1], w.store, none) := by
        rw [runCall.eq_def, if_pos hfault]
      show (runCall h call.1 call.2 env w.store).1 = _
      rw [hrun]
      rfl

theorem answer_of_faulted (hfault : w.store.faulted = true) (n : ℕ) (result : Option Json) :
    (w.answer h n result).1 =
      if (w.reads.find? fun r => r.1 = n).isSome then [.refused n] else [] := by
  unfold GrantWorld.answer
  cases w.reads.find? fun r => r.1 = n with
  | none => rfl
  | some read =>
      cases result with
      | none => rfl
      | some data =>
          dsimp only
          rw [recheck_of_faulted hfault]
          rfl

/-- One step fails closed, unless it lists. -/
theorem failsClosed_step (hsteady : Steady h w) (i : GrantInput) :
    FailsClosed h w i ↔ ListsNothing w i := by
  have hidle : w.store.faulted = true → w.inFlight = none := by
    intro hfault
    by_contra hne
    obtain ⟨c, hc⟩ := Option.ne_none_iff_exists'.mp hne
    have hlive := (hsteady.live c hc).2.1
    rw [hfault] at hlive
    cases hlive
  have hstep : w.running = true → ¬(!w.running) = true := fun hrunning => by simp [hrunning]
  have hothers : (∀ input, i ≠ .list input) → (FailsClosed h w i ↔ ListsNothing w i) := by
    intro hlist
    refine iff_of_true (fun hrunning hfault => ?_) fun _ _ input hi => absurd hi (hlist input)
    cases i with
    | restart persist => rfl
    | call c => rw [GrantInput.step, if_neg (hstep hrunning)]; rfl
    | turn env =>
        rw [GrantInput.step, if_neg (hstep hrunning)]
        exact turn_of_faulted hfault (hidle hfault) env
    | acknowledged accepted now persist =>
        rw [GrantInput.step, if_neg (hstep hrunning), GrantWorld.acknowledge, hidle hfault]
        rfl
    | lookup input =>
        rw [GrantInput.step, if_neg (hstep hrunning), lookup_of_faulted hfault]
        rfl
    | list input => exact absurd rfl (hlist input)
    | read kind trusted input =>
        rw [GrantInput.step, if_neg (hstep hrunning)]
        dsimp only
        rw [startRead_of_faulted hfault]
        rfl
    | answered n result =>
        rw [GrantInput.step, if_neg (hstep hrunning)]
        exact answer_of_faulted hfault n result
  cases i with
  | list input =>
      have hevents : w.running = true →
          ((GrantInput.list input).step h w).1 = [.listed (listCurrentLeadGrants input w.store)] := by
        intro hrunning
        rw [GrantInput.step, if_neg (hstep hrunning)]
      have hlisted : listCurrentLeadGrants input w.store = none ↔ readLister input = none := by
        unfold listCurrentLeadGrants
        cases readLister input with
        | none => exact iff_of_true rfl rfl
        | some lister => exact iff_of_false (by simp) (by simp)
      constructor
      · intro hclosed hrunning hfault input' heq
        obtain rfl := GrantInput.list.inj heq
        have hanswer := hclosed hrunning hfault
        rw [hevents hrunning] at hanswer
        exact hlisted.mp (GrantEvent.listed.inj (List.singleton_inj.mp hanswer))
      · intro hnothing hrunning hfault
        rw [hevents hrunning, hlisted.mpr (hnothing hrunning hfault input rfl)]
        rfl
  | restart => exact hothers fun _ heq => by cases heq
  | call => exact hothers fun _ heq => by cases heq
  | turn => exact hothers fun _ heq => by cases heq
  | acknowledged => exact hothers fun _ heq => by cases heq
  | lookup => exact hothers fun _ heq => by cases heq
  | read => exact hothers fun _ heq => by cases heq
  | answered => exact hothers fun _ heq => by cases heq

/-- In every run the store fails closed exactly as long as nobody lists. -/
theorem failsClosed_iff (h : HexDigest) (is : List GrantInput) :
    (grantWorld h).Along (FailsClosed h) is ↔ (grantWorld h).Along ListsNothing is := by
  constructor
  · intro hclosed pre i post heq
    exact (failsClosed_step (steady_after h pre) i).mp (hclosed pre i post heq)
  · intro hnothing pre i post heq
    exact (failsClosed_step (steady_after h pre) i).mpr (hnothing pre i post heq)

/-! ### A revocation that is on disk only -/

/-- The SHA-256 digest of the one caller below. -/
def sampleHash : JsString := js "39cbc655c07a1f1a20d581a7fef023699fcbde35c117756ae715966fbe9828de"

theorem isHash_sampleHash : isHash sampleHash = true := by decide

def sampleDigest : HexDigest := ⟨fun _ => sampleHash, fun _ => isHash_sampleHash⟩

def sampleCaller : List (JsString × Json) :=
  [(js "actor", .str (js "oauth:client:session")), (js "clientId", .str (js "client")),
    (js "sessionId", .str (js "session")), (js "workspaceId", .str (js "workspace"))]

def sampleGrantee : Json :=
  .obj (sampleCaller ++
    [(js "leadSessionId", .str (js "lead")), (js "actions", .arr [.str (js "team.read")])])

theorem isUuid_sample : isUuid (js "0b0e7a5c-3f7b-4c59-8a44-2f6d0f3c9e11") = true := by decide

theorem safe_sample : (1000 : ℤ).natAbs < 2 ^ 53 := by decide

def sampleTurn (persist : PersistOutcome) : TurnEnv where
  uuid := ⟨js "0b0e7a5c-3f7b-4c59-8a44-2f6d0f3c9e11", isUuid_sample⟩
  now := ⟨1000, safe_sample⟩
  later := ⟨1000, safe_sample⟩
  persist := persist

/-- A grant is put and revoked; the file is replaced, and then the directory cannot be
synchronised. -/
def failedRevocation : List GrantInput :=
  [.restart .written, .call (.putGrant sampleGrantee), .turn (sampleTurn .written),
    .call (.revokeGrant sampleGrantee), .turn (sampleTurn .failedAfter)]

def sampleListing : Json := .obj (sampleCaller ++ [(js "action", .str (js "team.read"))])

/-- The list still shows the grant. -/
theorem failedRevocation_lists :
    ¬(grantWorld sampleDigest).Along (FailsClosed sampleDigest)
      (failedRevocation ++ [.list sampleListing]) := by
  intro hclosed
  have hlive : ((grantWorld sampleDigest).after failedRevocation).running = true := by decide +kernel
  have hfault : ((grantWorld sampleDigest).after failedRevocation).store.faulted = true := by
    decide +kernel
  have hrows : listCurrentLeadGrants sampleListing
      ((grantWorld sampleDigest).after failedRevocation).store =
        some [⟨js "workspace", js "lead", js "0b0e7a5c-3f7b-4c59-8a44-2f6d0f3c9e11"⟩] := by
    decide +kernel
  have hanswer := hclosed failedRevocation (.list sampleListing) [] rfl hlive hfault
  rw [GrantInput.step, if_neg (by simp [hlive]), hrows] at hanswer
  cases GrantEvent.listed.inj (List.singleton_inj.mp hanswer)

end RemoteOps

import RemoteOps.DeepHarness.Commits
import RemoteOps.DeepHarness.FailClosed

/-!
# Prompts and their request ids

Both backends commit an instruction through the grant store and prompt DSH from within the
commit. A prompt carries the text itself and a request id made of caller, Lead and
idempotency key; the store knows only the hash of the text's UTF-8 bytes. `instructions` is
the machine of one backend over one grant file: what is awaited (the readings of the team,
the turn in the queue, the answer of DSH) is an input.

A prompt is backed by a call of `submit` (`Tracked`), hence two prompts with one request id
carry texts of one hash. Texts that differ in lone surrogates alone have the same bytes, so
that they can share a request id (`twoTexts_oneId`).
-/

namespace RemoteOps

open Ecma Transition

/-! ## The backends -/

inductive DshBackend where
  /-- `createRemoteDshPrivateBridgeBackend` -/
  | privateBridge
  /-- `createOfficialDshHostSessionBackend` -/
  | hostSession
  deriving DecidableEq

/-- `authority(auth)`. -/
def backendAuthority (auth : Json) : Option (GrantIdentity × JsString) := do
  let identity ← identityOf auth
  let revision ← strOf (auth.get (js "revision"))
  if validId revision then some (identity, revision) else none

/-- What is left of an authorization once a backend has checked it. -/
structure InstructionCall where
  identity : GrantIdentity
  revision : JsString
  idempotencyKey : JsString
  instruction : JsString
  deriving DecidableEq

/-- A text with something in it, of at most 4096 bytes and without `\0`. -/
def isInstruction (s : JsString) : Bool :=
  !(trim s).isEmpty && decide (utf8Length s ≤ 4096) && !s.contains 0

def readInstruction (auth : Json) : Option InstructionCall := do
  let (identity, revision) ← backendAuthority auth
  let instruction ← strOf (auth.get (js "instruction"))
  let idempotencyKey ← strOf (auth.get (js "idempotencyKey"))
  if isInstruction instruction ∧ isUuid idempotencyKey then
    some ⟨identity, revision, idempotencyKey, instruction⟩
  else none

/-- The private bridge looks at the action as well. -/
def readBridgeInstruction (auth : Json) : Option InstructionCall :=
  if strOf (auth.get (js "action")) = some (js "lead.instruct") then readInstruction auth else none

/-- `createHash("sha256").update(instruction, "utf8").digest("hex")`. -/
def InstructionCall.payloadHash (h : HexDigest) (call : InstructionCall) : JsString :=
  h.hash (toChars call.instruction)

/-- The first argument of `withAuthorizedLeadCommit`. -/
def commitInput (h : HexDigest) (call : InstructionCall) : Json :=
  .obj (call.identity.members ++
    [(js "revision", .str call.revision), (js "action", .str (js "lead.instruct")),
      (js "idempotencyKey", .str call.idempotencyKey),
      (js "payloadHash", .str (call.payloadHash h))])

/-- What the store makes of it. -/
def InstructionCall.request (h : HexDigest) (call : InstructionCall) : CommitRequest :=
  ⟨call.identity, call.revision, call.idempotencyKey, call.payloadHash h, h.isHash _⟩

/-! ### Request ids -/

/-- The text that a request id is the hash of. -/
def requestText (identity : IdentityFields) (idempotencyKey : JsString) : List Char :=
  (Json.arr
    [.str identity.actor, .str identity.clientId, .str identity.sessionId,
      .str identity.workspaceId, .str identity.leadSessionId, .str idempotencyKey]).stringify

/-- The hexadecimal digit with its two high bits set to `10`. -/
def variantDigit (u : CodeUnit) : CodeUnit :=
  let value := if isDigit u then u.toNat - (unit '0').toNat else u.toNat - (unit 'a').toNat + 10
  (js "89ab").getD (value % 4) 0

/-- The first 16 bytes of a digest as a UUID: the version is the high digit of byte 6, the
variant the two high bits of byte 8. -/
def promptUuid (hex : JsString) : JsString :=
  let marked := (hex.set 12 (unit '5')).set 16 (variantDigit (hex.getD 16 0))
  marked.take 8 ++ js "-" ++ (marked.drop 8).take 4 ++ js "-" ++ (marked.drop 12).take 4 ++
    js "-" ++ (marked.drop 16).take 4 ++ js "-" ++ (marked.drop 20).take 12

/-- `promptRequestId` of the private bridge, `dshRequestId` of the host session. -/
def requestIdOf (b : DshBackend) (h : HexDigest) (text : List Char) : JsString :=
  match b with
  | .privateBridge => promptUuid (h.hash text)
  | .hostSession => js "mcp_" ++ h.hash text

/-- What DSH gets. The host session sends no workspace along with the Lead. -/
structure DshPrompt where
  requestId : JsString
  workspaceId : JsString
  leadSessionId : JsString
  text : JsString
  deriving DecidableEq

def InstructionCall.prompt (b : DshBackend) (h : HexDigest) (call : InstructionCall) :
    DshPrompt where
  requestId := requestIdOf b h (requestText call.identity.toIdentityFields call.idempotencyKey)
  workspaceId := call.identity.workspaceId
  leadSessionId := call.identity.leadSessionId
  text := call.instruction

/-- `ack.accepted === true`, and for the private bridge `ack.requestId === requestId`. A
rejection is `none`. -/
def acceptsPrompt (b : DshBackend) (prompt : DshPrompt) (ack : Option Json) : Bool :=
  match ack with
  | none => false
  | some ack =>
      (match ack.get (js "accepted") with
        | some (.bool accepted) => accepted
        | _ => false) &&
      match b with
      | .privateBridge => decide (strOf (ack.get (js "requestId")) = some prompt.requestId)
      | .hostSession => true

/-! ## The machine -/

inductive GrantChange where
  | putGrant (input : Json)
  | revokeGrant (input : Json)

def GrantChange.call : GrantChange → StoreCall
  | putGrant input => .putGrant input
  | revokeGrant input => .revokeGrant input

structure InstructionWorld where
  world : GrantWorld := {}
  /-- the calls of a host session that await their first reading of the team -/
  preflights : List (ℕ × Json) := []
  started : ℕ := 0
  /-- the calls that have got into the queue of the store, by their numbers there -/
  calls : List (ℕ × InstructionCall) := []
  /-- whether the `submit` in flight has prompted DSH -/
  prompted : Bool := false

inductive InstructionInput where
  /-- `commitAuthorizedInstruction(auth)` is called -/
  | commit (auth : Json)
  /-- the first reading of the team settles; whether it found the Lead -/
  | preflight (n : ℕ) (found : Bool)
  | change (c : GrantChange)
  /-- the next operation of the queue begins -/
  | turn (env : TurnEnv)
  /-- the reading of the team within `submit` settles -/
  | team (found : Bool) (now : SafeInt) (persist : PersistOutcome)
  /-- DSH answers the prompt, or does not -/
  | answered (ack : Option Json) (now : SafeInt) (persist : PersistOutcome)
  | restart (persist : PersistOutcome)

inductive InstructionEvent where
  /-- the call is denied before it gets to the store -/
  | denied
  | store (e : GrantEvent)
  | prompted (call : InstructionCall) (prompt : DshPrompt)

section Machine

variable (b : DshBackend) (h : HexDigest)

def InstructionWorld.enqueue (call : InstructionCall) (w : InstructionWorld) : InstructionWorld :=
  { w with
    world := (GrantInput.step h w.world
      (.call (.withAuthorizedLeadCommit (commitInput h call) true))).2
    calls := w.calls ++ [(w.world.calls, call)] }

/-- The call whose `submit` is in flight. -/
def InstructionWorld.current (w : InstructionWorld) : Option InstructionCall :=
  w.world.inFlight.bind fun c => (w.calls.find? fun q => q.1 = c.call).map Prod.snd

/-- `submit` settles. -/
def InstructionWorld.settle (accepted : Bool) (now : SafeInt) (persist : PersistOutcome)
    (w : InstructionWorld) : List InstructionEvent × InstructionWorld :=
  let (events, world) := GrantInput.step h w.world (.acknowledged accepted now persist)
  (events.map .store, { w with world := world, prompted := false })

def InstructionInput.step (w : InstructionWorld) :
    InstructionInput → List InstructionEvent × InstructionWorld
  | .commit auth =>
      if !w.world.running then ([], w)
      else
        match b with
        | .privateBridge =>
            match readBridgeInstruction auth with
            | none => ([.denied], w)
            | some call => ([], w.enqueue h call)
        | .hostSession =>
            match backendAuthority auth with
            | none => ([.denied], w)
            | some _ =>
                ([], { w with
                  preflights := w.preflights ++ [(w.started, auth)], started := w.started + 1 })
  | .preflight n found =>
      if !w.world.running then ([], w)
      else
        match w.preflights.find? fun q => q.1 = n with
        | none => ([], w)
        | some (_, auth) =>
            let settled := { w with preflights := w.preflights.filter fun q => q.1 ≠ n }
            match readInstruction auth with
            | none => ([.denied], settled)
            | some call => if found then ([], settled.enqueue h call) else ([.denied], settled)
  | .change c => ([], { w with world := (GrantInput.step h w.world (.call c.call)).2 })
  | .turn env =>
      if w.world.inFlight.isSome then ([], w)
      else
        let (events, world) := GrantInput.step h w.world (.turn env)
        (events.map .store, { w with world := world, prompted := false })
  | .team found now persist =>
      match w.current with
      | none => ([], w)
      | some call =>
          if w.prompted then ([], w)
          else if found then ([.prompted call (call.prompt b h)], { w with prompted := true })
          else w.settle h false now persist
  | .answered ack now persist =>
      match w.current with
      | none => ([], w)
      | some call =>
          if w.prompted then w.settle h (acceptsPrompt b (call.prompt b h) ack) now persist
          else ([], w)
  | .restart persist =>
      ([], { w with
        world := (GrantInput.step h w.world (.restart persist)).2, preflights := [], calls := [],
        prompted := false })

/-- There is no file and no process at first. -/
def instructions : Machine InstructionWorld InstructionInput (List InstructionEvent) where
  start := {}
  step := InstructionInput.step b h

end Machine

/-! ## Runs -/

section Runs

variable {b : DshBackend} {h : HexDigest}

def InstructionInput.call : InstructionInput → Option InstructionCall
  | commit auth => readInstruction auth
  | _ => none

/-- The instructions that the calls of a run bring along. -/
def callsOf (is : List InstructionInput) : List InstructionCall :=
  is.filterMap InstructionInput.call

theorem callsOf_concat (is : List InstructionInput) (i : InstructionInput) :
    callsOf (is ++ [i]) = callsOf is ++ i.call.toList := by
  rw [callsOf, List.filterMap_append, callsOf]
  cases hi : i.call <;> simp [hi]

def instructionLog (b : DshBackend) (h : HexDigest) (is : List InstructionInput) :
    List InstructionEvent :=
  ((instructions b h).trace is).flatMap Prod.snd

theorem instructionLog_concat (is : List InstructionInput) (i : InstructionInput) :
    instructionLog b h (is ++ [i]) =
      instructionLog b h is ++ (instructions b h).answer is i := by
  simp [instructionLog]

/-! ### The store under the backend -/

theorem identityOf_commitInput (call : InstructionCall) :
    identityOf (commitInput h call) = some call.identity :=
  identityOf_members _ _

theorem readRequest_commitInput {call : InstructionCall} {r : CommitRequest}
    (hread : readRequest (commitInput h call) true = some r) : r = call.request h := by
  have haction : (commitInput h call).get (js "action") = some (.str (js "lead.instruct")) := rfl
  have hrevision : (commitInput h call).get (js "revision") = some (.str call.revision) := rfl
  have hkey : (commitInput h call).get (js "idempotencyKey") =
      some (.str call.idempotencyKey) := rfl
  have hpayload : (commitInput h call).get (js "payloadHash") =
      some (.str (call.payloadHash h)) := rfl
  have hchecked : checked isHash (call.payloadHash h) =
      some ⟨call.payloadHash h, h.isHash _⟩ := checked_eq_some (h.isHash _)
  rw [readRequest, identityOf_commitInput, haction, hrevision, hkey, hpayload] at hread
  simp only [strOf, Option.bind_eq_bind, Option.bind_some, hchecked, Option.ite_none_right_eq_some]
    at hread
  exact (Option.some.inj hread.2).symm

/-- A commit gets into flight by calling `submit`. -/
theorem runCall_flight {n : ℕ} {c : StoreCall} {env : TurnEnv} {s : GrantStore}
    {f : CommitInFlight} (hflight : (runCall h n c env s).2.2 = some f) :
    ∃ input submits, c = .withAuthorizedLeadCommit input submits ∧
      readRequest input submits = some f.request ∧ f.call = n ∧
        (runCall h n c env s).1 = [.submitted f.request] := by
  rw [runCall.eq_def] at hflight ⊢
  split_ifs at hflight ⊢
  cases c with
  | putGrant input =>
      dsimp only at hflight
      split at hflight <;> cases hflight
  | revokeGrant input =>
      dsimp only at hflight
      split at hflight <;> cases hflight
  | withAuthorizedLeadCommit input submits =>
      dsimp only at hflight ⊢
      cases hread : readRequest input submits with
      | none =>
          rw [hread] at hflight
          cases hflight
      | some request =>
          rw [hread] at hflight
          dsimp only at hflight ⊢
          generalize startCommit h request env s = start at hflight ⊢
          obtain ⟨start, s'⟩ := start
          cases start with
          | denied => cases hflight
          | duplicate receipt => cases hflight
          | submitted delivery =>
              obtain rfl := Option.some.inj hflight
              exact ⟨input, submits, rfl, hread, rfl, rfl⟩

/-- What a turn makes of queue and flight. -/
theorem turn_spec {w : GrantWorld} (hidle : w.inFlight = none) (env : TurnEnv) :
    (GrantInput.step h w (.turn env)).2.calls = w.calls ∧
      (∀ q ∈ (GrantInput.step h w (.turn env)).2.queue, q ∈ w.queue) ∧
        ∀ f, (GrantInput.step h w (.turn env)).2.inFlight = some f →
          ∃ input submits, (f.call, .withAuthorizedLeadCommit input submits) ∈ w.queue ∧
            readRequest input submits = some f.request ∧
              .submitted f.request ∈ (GrantInput.step h w (.turn env)).1 := by
  have hsame : w.calls = w.calls ∧ (∀ q ∈ w.queue, q ∈ w.queue) ∧ ∀ f, w.inFlight = some f →
      ∃ input submits, (f.call, .withAuthorizedLeadCommit input submits) ∈ w.queue ∧
        readRequest input submits = some f.request ∧ GrantEvent.submitted f.request ∈ [] := by
    refine ⟨rfl, fun _ hq => hq, fun f hf => ?_⟩
    rw [hidle] at hf
    cases hf
  rw [GrantInput.step]
  split_ifs
  · exact hsame
  · rw [GrantWorld.turn, hidle]
    cases hqueue : w.queue with
    | nil =>
        rw [hqueue] at hsame
        simpa [hqueue] using hsame
    | cons q queue =>
        obtain ⟨n, c⟩ := q
        refine ⟨rfl, fun q hq => List.mem_cons_of_mem _ hq, fun f hf => ?_⟩
        obtain ⟨input, submits, rfl, hread, rfl, hevents⟩ := runCall_flight hf
        refine ⟨input, submits, List.mem_cons_self, hread, ?_⟩
        dsimp only
        rw [hevents]
        exact List.mem_singleton.mpr rfl

theorem acknowledged_spec (w : GrantWorld) (accepted : Bool) (now : SafeInt)
    (persist : PersistOutcome) :
    (GrantInput.step h w (.acknowledged accepted now persist)).2.calls = w.calls ∧
      (GrantInput.step h w (.acknowledged accepted now persist)).2.queue = w.queue ∧
        ∀ f, (GrantInput.step h w (.acknowledged accepted now persist)).2.inFlight = some f →
          w.inFlight = some f := by
  rw [GrantInput.step]
  split_ifs
  · exact ⟨rfl, rfl, fun _ hf => hf⟩
  · rw [GrantWorld.acknowledge]
    cases hflight : w.inFlight with
    | none =>
        refine ⟨rfl, rfl, fun f hf => ?_⟩
        rw [← hflight]
        exact hf
    | some c =>
        dsimp only
        generalize finishCommit h c.request c.delivery accepted now persist w.store = finish
        obtain ⟨receipt, s⟩ := finish
        cases receipt with
        | none => exact ⟨rfl, rfl, fun f hf => by cases hf⟩
        | some receipt => exact ⟨rfl, rfl, fun f hf => by cases hf⟩

/-! ### What is known of a state -/

/-- Every call in the queue or in flight is one of the backend's, and every prompt comes with
a call of `submit`; `js` is what the store under the backend has been through. -/
structure Tracked (b : DshBackend) (h : HexDigest) (is : List InstructionInput)
    (log : List InstructionEvent) (js : List GrantInput) (w : InstructionWorld) : Prop where
  world : w.world = (grantWorld h).after js
  preflights : ∀ q ∈ w.preflights, .commit q.2 ∈ is
  calls : ∀ q ∈ w.calls, q.2 ∈ callsOf is ∧ q.1 < w.world.calls
  numbered : (w.calls.map Prod.fst).Nodup
  queue : ∀ q ∈ w.world.queue, ∀ input submits, q.2 = .withAuthorizedLeadCommit input submits →
    ∃ call, (q.1, call) ∈ w.calls ∧ input = commitInput h call ∧ submits = true
  flight : ∀ c, w.world.inFlight = some c → ∃ call, (c.call, call) ∈ w.calls ∧
    c.request = call.request h ∧ .submitted c.request ∈ grantLog h js
  prompts : ∀ call prompt, .prompted call prompt ∈ log → call ∈ callsOf is ∧
    prompt = call.prompt b h ∧ .submitted (call.request h) ∈ grantLog h js

section Steps

variable {is : List InstructionInput} {log : List InstructionEvent} {gs : List GrantInput}
  {w w' : InstructionWorld} {i : InstructionInput}

theorem callsOf_subset : callsOf is ⊆ callsOf (is ++ [i]) := by
  rw [callsOf_concat]
  exact List.subset_append_left _ _

theorem grantLog_subset (g : GrantInput) : grantLog h gs ⊆ grantLog h (gs ++ [g]) := by
  rw [grantLog_concat]
  exact List.subset_append_left _ _

theorem Tracked.idle (ht : Tracked b h is log gs w) (i : InstructionInput) :
    Tracked b h (is ++ [i]) log gs w where
  world := ht.world
  preflights q hq := List.mem_append_left _ (ht.preflights q hq)
  calls q hq := ⟨callsOf_subset (ht.calls q hq).1, (ht.calls q hq).2⟩
  numbered := ht.numbered
  queue := ht.queue
  flight := ht.flight
  prompts call prompt hprompt :=
    ⟨callsOf_subset (ht.prompts call prompt hprompt).1, (ht.prompts call prompt hprompt).2⟩

/-- Events that are no prompts may be added. -/
theorem Tracked.logged (ht : Tracked b h is log gs w) {events : List InstructionEvent}
    (hevents : ∀ call prompt, .prompted call prompt ∉ events) :
    Tracked b h is (log ++ events) gs w :=
  { ht with
    prompts := fun call prompt hprompt =>
      ht.prompts call prompt ((List.mem_append.mp hprompt).resolve_right (hevents call prompt)) }

/-- The call in flight is the one that `submit` belongs to. -/
theorem Tracked.current (ht : Tracked b h is log gs w) {call : InstructionCall}
    (hcurrent : w.current = some call) :
    call ∈ callsOf is ∧ .submitted (call.request h) ∈ grantLog h gs := by
  rw [InstructionWorld.current, Option.bind_eq_some_iff] at hcurrent
  obtain ⟨c, hflight, hfind⟩ := hcurrent
  obtain ⟨q, hfound, rfl⟩ := Option.map_eq_some_iff.mp hfind
  have hq := List.mem_of_find?_eq_some hfound
  have hnumber : q.1 = c.call := by simpa using List.find?_some hfound
  obtain ⟨call, hcall, hrequest, hsubmitted⟩ := ht.flight c hflight
  -- numbers are not given twice
  have hsame : (c.call, call) = q :=
    List.inj_on_of_nodup_map ht.numbered hcall hq hnumber.symm
  rw [hrequest] at hsubmitted
  rw [← hsame]
  exact ⟨(ht.calls _ hcall).1, hsubmitted⟩

/-- A step of the store that queues no commit. -/
theorem Tracked.advance (ht : Tracked b h is log gs w) (g : GrantInput)
    (hworld : w'.world = (g.step h w.world).2)
    (hpreflights : ∀ q ∈ w'.preflights, .commit q.2 ∈ is) (hcalls : w'.calls = w.calls)
    (hnumber : w.world.calls ≤ w'.world.calls)
    (hqueue : ∀ q ∈ w'.world.queue, q ∈ w.world.queue ∨
      ∀ input submits, q.2 ≠ .withAuthorizedLeadCommit input submits)
    (hflight : ∀ c, w'.world.inFlight = some c → w.world.inFlight = some c ∨
      ∃ call, (c.call, call) ∈ w.calls ∧ c.request = call.request h ∧
        .submitted c.request ∈ (g.step h w.world).1) :
    Tracked b h (is ++ [i]) log (gs ++ [g]) w' where
  world := by
    rw [hworld, ht.world, Machine.after_concat]
    rfl
  preflights q hq := List.mem_append_left _ (hpreflights q hq)
  calls q hq := by
    rw [hcalls] at hq
    exact ⟨callsOf_subset (ht.calls q hq).1, (ht.calls q hq).2.trans_le hnumber⟩
  numbered := by
    rw [hcalls]
    exact ht.numbered
  queue q hq input submits heq := by
    rw [hcalls]
    rcases hqueue q hq with hold | hother
    · exact ht.queue q hold input submits heq
    · exact absurd heq (hother input submits)
  flight c hc := by
    rw [hcalls]
    rcases hflight c hc with hold | ⟨call, hcall, hrequest, hsubmitted⟩
    · obtain ⟨call, hcall, hrequest, hsubmitted⟩ := ht.flight c hold
      exact ⟨call, hcall, hrequest, grantLog_subset g hsubmitted⟩
    · refine ⟨call, hcall, hrequest, ?_⟩
      rw [ht.world] at hsubmitted
      rw [grantLog_concat]
      exact List.mem_append_right _ hsubmitted
  prompts call prompt hprompt := by
    obtain ⟨hcall, heq, hsubmitted⟩ := ht.prompts call prompt hprompt
    exact ⟨callsOf_subset hcall, heq, grantLog_subset g hsubmitted⟩

theorem Tracked.enqueue (ht : Tracked b h is log gs w) (hrunning : w.world.running = true)
    {call : InstructionCall} (hcall : call ∈ callsOf (is ++ [i])) :
    Tracked b h (is ++ [i]) log
      (gs ++ [.call (.withAuthorizedLeadCommit (commitInput h call) true)])
      (w.enqueue h call) := by
  have hstep : (GrantInput.step h w.world
      (.call (.withAuthorizedLeadCommit (commitInput h call) true))).2 =
        { w.world with
          queue := w.world.queue ++
            [(w.world.calls, .withAuthorizedLeadCommit (commitInput h call) true)]
          calls := w.world.calls + 1 } := by
    rw [GrantInput.step, if_neg (by simp [hrunning])]
  have hidle := ht.idle i
  refine ⟨?_, hidle.preflights, ?_, ?_, ?_, ?_, ?_⟩
  · rw [Machine.after_concat, ← ht.world]
    rfl
  · intro q hq
    simp only [InstructionWorld.enqueue, hstep]
    rcases List.mem_append.mp hq with hq | hq
    · exact ⟨(hidle.calls q hq).1, (hidle.calls q hq).2.trans (Nat.lt_succ_self _)⟩
    · rw [List.mem_singleton.mp hq]
      exact ⟨hcall, Nat.lt_succ_self _⟩
  · rw [InstructionWorld.enqueue, List.map_append, List.nodup_append]
    refine ⟨ht.numbered, by simp, fun n hn m hm => ?_⟩
    obtain ⟨q, hq, rfl⟩ := List.mem_map.mp hn
    rw [List.map_singleton, List.mem_singleton] at hm
    rw [hm]
    exact (ht.calls q hq).2.ne
  · intro q hq input submits heq
    simp only [InstructionWorld.enqueue, hstep] at hq ⊢
    rcases List.mem_append.mp hq with hq | hq
    · obtain ⟨call', hcall', hinput⟩ := ht.queue q hq input submits heq
      exact ⟨call', List.mem_append_left _ hcall', hinput⟩
    · rw [List.mem_singleton.mp hq] at heq ⊢
      obtain ⟨rfl, rfl⟩ := StoreCall.withAuthorizedLeadCommit.inj heq
      exact ⟨call, List.mem_append_right _ (List.mem_singleton.mpr rfl), rfl, rfl⟩
  · intro c hc
    simp only [InstructionWorld.enqueue, hstep] at hc ⊢
    obtain ⟨call', hcall', hrequest, hsubmitted⟩ := ht.flight c hc
    exact ⟨call', List.mem_append_left _ hcall', hrequest, grantLog_subset _ hsubmitted⟩
  · intro call' prompt hprompt
    obtain ⟨hcall', heq, hsubmitted⟩ := hidle.prompts call' prompt hprompt
    exact ⟨hcall', heq, grantLog_subset _ hsubmitted⟩

theorem Tracked.turn (ht : Tracked b h is log gs w) (hidle : w.world.inFlight = none)
    (env : TurnEnv) :
    Tracked b h (is ++ [i]) log (gs ++ [.turn env])
      { w with world := (GrantInput.step h w.world (.turn env)).2, prompted := false } := by
  obtain ⟨hcalls, hqueue, hflight⟩ := turn_spec (h := h) hidle env
  refine ht.advance (.turn env) rfl ht.preflights rfl hcalls.ge (fun q hq => Or.inl (hqueue q hq))
    fun c hc => Or.inr ?_
  obtain ⟨input, submits, hmem, hread, hsubmitted⟩ := hflight c hc
  obtain ⟨call, hcall, rfl, rfl⟩ := ht.queue _ hmem input submits rfl
  exact ⟨call, hcall, readRequest_commitInput hread, hsubmitted⟩

theorem Tracked.settle (ht : Tracked b h is log gs w) (accepted : Bool) (now : SafeInt)
    (persist : PersistOutcome) :
    Tracked b h (is ++ [i]) (log ++ (w.settle h accepted now persist).1)
      (gs ++ [.acknowledged accepted now persist]) (w.settle h accepted now persist).2 := by
  obtain ⟨hcalls, hqueue, hflight⟩ := acknowledged_spec (h := h) w.world accepted now persist
  refine Tracked.logged ?_ fun call prompt hprompt => ?_
  · exact ht.advance (.acknowledged accepted now persist) rfl ht.preflights rfl hcalls.ge
      (fun q hq => Or.inl (hqueue ▸ hq)) fun c hc => Or.inl (hflight c hc)
  · obtain ⟨e, -, heq⟩ := List.mem_map.mp hprompt
    cases heq

theorem mem_callsOf_bridge {auth : Json} {call : InstructionCall}
    (hread : readBridgeInstruction auth = some call) :
    readInstruction auth = some call := by
  rw [readBridgeInstruction] at hread
  split_ifs at hread
  exact hread

theorem mem_callsOf {auth : Json} {call : InstructionCall} (hauth : .commit auth ∈ is)
    (hread : readInstruction auth = some call) : call ∈ callsOf is :=
  List.mem_filterMap.mpr ⟨.commit auth, hauth, hread⟩

/-- A call of the backend up to the store. -/
theorem tracked_commit (ht : Tracked b h is log gs w) (auth : Json) :
    ∃ gs', Tracked b h (is ++ [.commit auth])
      (log ++ (InstructionInput.step b h w (.commit auth)).1) gs'
      (InstructionInput.step b h w (.commit auth)).2 := by
  have hdenied : Tracked b h (is ++ [.commit auth]) (log ++ [.denied]) gs w :=
    (ht.idle _).logged (by simp)
  have hlast : InstructionInput.commit auth ∈ is ++ [.commit auth] := by simp
  unfold InstructionInput.step
  dsimp only
  split_ifs with hstopped
  · rw [List.append_nil]
    exact ⟨gs, ht.idle _⟩
  · have hrunning : w.world.running = true := by simpa using hstopped
    cases b with
    | privateBridge =>
        dsimp only
        split
        · exact ⟨gs, hdenied⟩
        · rename_i call hread
          rw [List.append_nil]
          exact ⟨_, ht.enqueue hrunning (mem_callsOf hlast (mem_callsOf_bridge hread))⟩
    | hostSession =>
        dsimp only
        split
        · exact ⟨gs, hdenied⟩
        · rw [List.append_nil]
          refine ⟨gs, { ht.idle _ with preflights := fun q hq => ?_ }⟩
          rcases List.mem_append.mp hq with hq | hq
          · exact (ht.idle _).preflights q hq
          · rw [List.mem_singleton.mp hq]
            exact hlast

/-- The first reading of the team settles. -/
theorem tracked_preflight (ht : Tracked b h is log gs w) (n : ℕ) (found : Bool) :
    ∃ gs', Tracked b h (is ++ [.preflight n found])
      (log ++ (InstructionInput.step b h w (.preflight n found)).1) gs'
      (InstructionInput.step b h w (.preflight n found)).2 := by
  have hidle : Tracked b h (is ++ [.preflight n found]) (log ++ []) gs w := by
    rw [List.append_nil]
    exact ht.idle _
  unfold InstructionInput.step
  dsimp only
  by_cases hstopped : (!w.world.running) = true
  · rw [if_pos hstopped]
    exact ⟨gs, hidle⟩
  · have hrunning : w.world.running = true := by
      rwa [Bool.not_eq_true, Bool.not_eq_false'] at hstopped
    rw [if_neg hstopped]
    cases hfind : w.preflights.find? fun q => q.1 = n with
    | none => exact ⟨gs, hidle⟩
    | some q =>
        have hq := List.mem_of_find?_eq_some hfind
        have hsettled : Tracked b h is log gs
            { w with preflights := w.preflights.filter fun q => q.1 ≠ n } :=
          { ht with preflights := fun q hq => ht.preflights q (List.mem_filter.mp hq).1 }
        have hdenied : Tracked b h (is ++ [.preflight n found]) (log ++ [.denied]) gs
            { w with preflights := w.preflights.filter fun q => q.1 ≠ n } :=
          (hsettled.idle _).logged (by simp)
        obtain ⟨m, auth⟩ := q
        dsimp only
        cases hread : readInstruction auth with
        | none => exact ⟨gs, hdenied⟩
        | some call =>
            dsimp only
            split_ifs
            · rw [List.append_nil]
              exact ⟨_, hsettled.enqueue hrunning
                (callsOf_subset (mem_callsOf (ht.preflights _ hq) hread))⟩
            · exact ⟨gs, hdenied⟩

/-- The reading of the team within `submit` settles; if it found the Lead, DSH is prompted. -/
theorem tracked_team (ht : Tracked b h is log gs w) (found : Bool) (now : SafeInt)
    (persist : PersistOutcome) :
    ∃ gs', Tracked b h (is ++ [.team found now persist])
      (log ++ (InstructionInput.step b h w (.team found now persist)).1) gs'
      (InstructionInput.step b h w (.team found now persist)).2 := by
  have hidle : Tracked b h (is ++ [.team found now persist]) (log ++ []) gs w := by
    rw [List.append_nil]
    exact ht.idle _
  unfold InstructionInput.step
  dsimp only
  cases hcurrent : w.current with
  | none => exact ⟨gs, hidle⟩
  | some call =>
      dsimp only
      split_ifs
      · exact ⟨gs, hidle⟩
      · obtain ⟨hcall, hsubmitted⟩ := ht.current hcurrent
        refine ⟨gs, { ht.idle _ with prompts := fun call' prompt hprompt => ?_ }⟩
        rcases List.mem_append.mp hprompt with hold | hnew
        · exact (ht.idle _).prompts call' prompt hold
        · obtain ⟨rfl, rfl⟩ := InstructionEvent.prompted.inj (List.mem_singleton.mp hnew)
          exact ⟨callsOf_subset hcall, rfl, hsubmitted⟩
      · exact ⟨_, ht.settle false now persist⟩

theorem tracked_step (ht : Tracked b h is log gs w) (i : InstructionInput) :
    ∃ gs', Tracked b h (is ++ [i]) (log ++ (InstructionInput.step b h w i).1) gs'
      (InstructionInput.step b h w i).2 := by
  have hidle : Tracked b h (is ++ [i]) (log ++ []) gs w := by
    rw [List.append_nil]
    exact ht.idle _
  cases i with
  | commit auth => exact tracked_commit ht auth
  | preflight n found => exact tracked_preflight ht n found
  | team found now persist => exact tracked_team ht found now persist
  | change c =>
      have hkept : Tracked b h (is ++ [.change c]) log (gs ++ [.call c.call])
          { w with world := (GrantInput.step h w.world (.call c.call)).2 } := by
        rw [GrantInput.step]
        split_ifs with hstopped
        · refine ht.advance (.call c.call) ?_ ht.preflights rfl le_rfl
            (fun q hq => Or.inl hq) fun f hf => Or.inl hf
          rw [GrantInput.step, if_pos hstopped]
        · refine ht.advance (.call c.call) ?_ ht.preflights rfl (Nat.le_succ _)
            (fun q hq => ?_) fun f hf => Or.inl hf
          · rw [GrantInput.step, if_neg hstopped]
          · rcases List.mem_append.mp hq with hq | hq
            · exact Or.inl hq
            · right
              rw [List.mem_singleton.mp hq]
              cases c <;> exact fun _ _ heq => StoreCall.noConfusion heq
      unfold InstructionInput.step
      rw [List.append_nil]
      exact ⟨_, hkept⟩
  | turn env =>
      unfold InstructionInput.step
      dsimp only
      split_ifs with hflight
      · exact ⟨gs, hidle⟩
      · have hnone : w.world.inFlight = none := by simpa using hflight
        refine ⟨_, (ht.turn hnone env).logged fun call prompt hprompt => ?_⟩
        obtain ⟨e, -, heq⟩ := List.mem_map.mp hprompt
        cases heq
  | answered ack now persist =>
      unfold InstructionInput.step
      dsimp only
      cases w.current with
      | none => exact ⟨gs, hidle⟩
      | some call =>
          dsimp only
          split_ifs
          · exact ⟨_, ht.settle _ now persist⟩
          · exact ⟨gs, hidle⟩
  | restart persist =>
      have hqueue : (w.world.restart persist).queue = [] := rfl
      have hflight : (w.world.restart persist).inFlight = none := rfl
      unfold InstructionInput.step
      rw [List.append_nil]
      refine ⟨gs ++ [.restart persist], ?_, fun q hq => ?_, fun q hq => ?_, List.nodup_nil,
        fun q hq => ?_, fun c hc => ?_, fun call prompt hprompt => ?_⟩
      · rw [Machine.after_concat, ← ht.world]
        rfl
      · cases hq
      · cases hq
      · have hnone : q ∈ (w.world.restart persist).queue := hq
        rw [hqueue] at hnone
        cases hnone
      · have hnone : (w.world.restart persist).inFlight = some c := hc
        rw [hflight] at hnone
        cases hnone
      · obtain ⟨hcall, heq, hsubmitted⟩ := (ht.idle (.restart persist)).prompts call prompt hprompt
        exact ⟨hcall, heq, grantLog_subset _ hsubmitted⟩

end Steps

theorem tracked_after (b : DshBackend) (h : HexDigest) (is : List InstructionInput) :
    ∃ gs, Tracked b h is (instructionLog b h is) gs ((instructions b h).after is) := by
  refine (instructions b h).invariant
    (E := fun _ => True) (I := fun is w => ∃ gs, Tracked b h is (instructionLog b h is) gs w)
    (fun _ _ _ => trivial) ⟨[], ?_⟩ (fun is i _ ⟨gs, ht⟩ => ?_) is trivial
  · refine ⟨rfl, fun q hq => ?_, fun q hq => ?_, List.nodup_nil, fun q hq => ?_, fun c hc => ?_,
      fun call prompt hprompt => ?_⟩
    all_goals cases ‹_›
  · rw [instructionLog_concat]
    exact tracked_step ht i

end Runs

/-! ## One text for a request id -/

section Property

variable (b : DshBackend) (h : HexDigest) (is : List InstructionInput)

structure OneTextPerId : Prop where
  /-- one request id, one text for one Lead from one caller -/
  one : ∀ call prompt call' prompt', .prompted call prompt ∈ instructionLog b h is →
    .prompted call' prompt' ∈ instructionLog b h is → prompt.requestId = prompt'.requestId →
      prompt.text = prompt'.text ∧ prompt.workspaceId = prompt'.workspaceId ∧
        prompt.leadSessionId = prompt'.leadSessionId ∧ call.identity = call'.identity
  apart : ∀ call prompt call' prompt', .prompted call prompt ∈ instructionLog b h is →
    .prompted call' prompt' ∈ instructionLog b h is →
      call.identity ≠ call'.identity ∨ call.idempotencyKey ≠ call'.idempotencyKey →
        prompt.requestId ≠ prompt'.requestId
  /-- a retry reuses the request id of its key -/
  again : ∀ call prompt call' prompt', .prompted call prompt ∈ instructionLog b h is →
    .prompted call' prompt' ∈ instructionLog b h is → call.identity = call'.identity →
      call.idempotencyKey = call'.idempotencyKey → prompt.requestId = prompt'.requestId

/-- Nothing that the calls of the run have hashed collides. -/
structure CollisionFreeOn : Prop where
  payload : ∀ call ∈ callsOf is, ∀ call' ∈ callsOf is,
    call.payloadHash h = call'.payloadHash h →
      toChars call.instruction = toChars call'.instruction
  request : ∀ call ∈ callsOf is, ∀ call' ∈ callsOf is,
    (call.prompt b h).requestId = (call'.prompt b h).requestId →
      requestText call.identity.toIdentityFields call.idempotencyKey =
        requestText call'.identity.toIdentityFields call'.idempotencyKey

/-- Instructions that one caller sends under one key differ in their bytes if at all. -/
def ToldApart : Prop :=
  ∀ call ∈ callsOf is, ∀ call' ∈ callsOf is, call.identity = call'.identity →
    call.idempotencyKey = call'.idempotencyKey →
      toChars call.instruction = toChars call'.instruction → call.instruction = call'.instruction

end Property

theorem requestText_injective {i i' : IdentityFields} {k k' : JsString}
    (heq : requestText i k = requestText i' k') : i = i' ∧ k = k' := by
  have hnormal : ∀ (i : IdentityFields) (k : JsString),
      parse (requestText i k) = some (Json.arr [.str i.actor, .str i.clientId, .str i.sessionId,
        .str i.workspaceId, .str i.leadSessionId, .str k]) :=
    fun i k => parse_stringify _ ⟨trivial, trivial, trivial, trivial, trivial, trivial, trivial⟩
  have hparsed := hnormal i k
  rw [heq, hnormal i' k'] at hparsed
  simp only [Option.some.injEq, Json.arr.injEq, List.cons.injEq, Json.str.injEq, and_true]
    at hparsed
  obtain ⟨hactor, hclient, hsession, hworkspace, hlead, hkey⟩ := hparsed
  refine ⟨?_, hkey.symm⟩
  obtain ⟨actor, client, session, workspace, lead, hvalid⟩ := i
  obtain ⟨actor', client', session', workspace', lead', hvalid'⟩ := i'
  dsimp only at hactor hclient hsession hworkspace hlead
  subst hactor hclient hsession hworkspace hlead
  rfl

theorem GrantIdentity.eq_of_fields {i i' : GrantIdentity}
    (heq : i.toIdentityFields = i'.toIdentityFields) : i = i' := by
  obtain ⟨fields, hown⟩ := i
  obtain ⟨fields', hown'⟩ := i'
  obtain rfl : fields = fields' := heq
  rfl

/-- A request id stands for one text of one caller and Lead, as long as the texts that share
a key can be told apart by their bytes. -/
theorem oneTextPerId (b : DshBackend) (h : HexDigest) (is : List InstructionInput)
    (hcollision : CollisionFreeOn b h is) (htold : ToldApart is) : OneTextPerId b h is := by
  obtain ⟨gs, ht⟩ := tracked_after b h is
  have hscope : ∀ call ∈ callsOf is, ∀ call' ∈ callsOf is,
      (call.prompt b h).requestId = (call'.prompt b h).requestId →
        call.identity = call'.identity ∧ call.idempotencyKey = call'.idempotencyKey := by
    intro call hcall call' hcall' hid
    obtain ⟨hfields, hkey⟩ := requestText_injective (hcollision.request call hcall call' hcall' hid)
    exact ⟨GrantIdentity.eq_of_fields hfields, hkey⟩
  refine ⟨?_, ?_, ?_⟩
  · intro call prompt call' prompt' hprompt hprompt' hid
    obtain ⟨hcall, rfl, hsubmitted⟩ := ht.prompts call prompt hprompt
    obtain ⟨hcall', rfl, hsubmitted'⟩ := ht.prompts call' prompt' hprompt'
    obtain ⟨hidentity, hkey⟩ := hscope call hcall call' hcall' hid
    have hsame := (committedOnce h gs call.identity call.idempotencyKey).same _ _ hsubmitted
      ⟨rfl, rfl⟩ hsubmitted' ⟨hidentity.symm, hkey.symm⟩
    have hbytes := hcollision.payload call hcall call' hcall' (congrArg Subtype.val hsame.1)
    refine ⟨htold call hcall call' hcall' hidentity hkey hbytes, ?_, ?_, hidentity⟩
    · rw [InstructionCall.prompt, InstructionCall.prompt, hidentity]
    · rw [InstructionCall.prompt, InstructionCall.prompt, hidentity]
  · intro call prompt call' prompt' hprompt hprompt' hne hid
    obtain ⟨hcall, rfl, -⟩ := ht.prompts call prompt hprompt
    obtain ⟨hcall', rfl, -⟩ := ht.prompts call' prompt' hprompt'
    obtain ⟨hidentity, hkey⟩ := hscope call hcall call' hcall' hid
    exact hne.elim (fun hne => hne hidentity) fun hne => hne hkey
  · intro call prompt call' prompt' hprompt hprompt' hidentity hkey
    obtain ⟨-, rfl, -⟩ := ht.prompts call prompt hprompt
    obtain ⟨-, rfl, -⟩ := ht.prompts call' prompt' hprompt'
    rw [InstructionCall.prompt, InstructionCall.prompt, hidentity, hkey]

/-! ## Two texts under one id -/

def InstructionEvent.sent : InstructionEvent → Option (InstructionCall × DshPrompt)
  | prompted call prompt => some (call, prompt)
  | _ => none

theorem mem_of_sent {log : List InstructionEvent} {call : InstructionCall} {prompt : DshPrompt}
    (hsent : (call, prompt) ∈ log.filterMap InstructionEvent.sent) :
    .prompted call prompt ∈ log := by
  obtain ⟨e, he, heq⟩ := List.mem_filterMap.mp hsent
  cases e with
  | prompted call' prompt' =>
      obtain ⟨rfl, rfl⟩ := Prod.mk.inj (Option.some.inj heq)
      exact he
  | denied => cases heq
  | store e => cases heq

/-- A digest of the length. -/
def lengthHash (text : List Char) : JsString :=
  List.replicate (text.length % 31) (unit '1') ++
    List.replicate (64 - text.length % 31) (unit '0')

theorem isHash_lengthHash (text : List Char) : isHash (lengthHash text) = true := by
  have hshort : text.length % 31 < 31 := Nat.mod_lt _ (by norm_num)
  refine matchesClass_iff.mpr ⟨fun u hu => ?_, ?_, ?_⟩
  · rcases List.mem_append.mp hu with hu | hu
    · rw [List.eq_of_mem_replicate hu]
      decide
    · rw [List.eq_of_mem_replicate hu]
      decide
  · rw [lengthHash, List.length_append, List.length_replicate, List.length_replicate]
    omega
  · rw [lengthHash, List.length_append, List.length_replicate, List.length_replicate]
    omega

def lengthDigest : HexDigest := ⟨lengthHash, isHash_lengthHash⟩

def instructGrantee : Json :=
  .obj (sampleCaller ++
    [(js "leadSessionId", .str (js "lead")), (js "actions", .arr [.str (js "lead.instruct")])])

def instructAuth (instruction : JsString) : Json :=
  .obj (sampleCaller ++
    [(js "leadSessionId", .str (js "lead")), (js "action", .str (js "lead.instruct")),
      (js "revision", .str (js "0b0e7a5c-3f7b-4c59-8a44-2f6d0f3c9e11")),
      (js "instruction", .str instruction),
      (js "idempotencyKey", .str (js "7d1f0b52-6c3e-4f0a-9a55-1b2c3d4e5f60"))])

/-- A prompt whose acknowledgement gets lost, and a second call under the same key. -/
def retried (first second : JsString) : List InstructionInput :=
  [.restart .written, .change (.putGrant instructGrantee), .turn (sampleTurn .written),
    .commit (instructAuth first), .turn (sampleTurn .written),
    .team true ⟨1000, safe_sample⟩ .written, .answered none ⟨1000, safe_sample⟩ .written,
    .commit (instructAuth second), .turn (sampleTurn .written),
    .team true ⟨1000, safe_sample⟩ .written]

theorem oneTextPerId_retried :
    OneTextPerId .privateBridge lengthDigest (retried (js "go") (js "go")) :=
  oneTextPerId _ _ _ ⟨by decide +kernel, by decide +kernel⟩
    (by unfold ToldApart; decide +kernel)

/-- Two texts that end in different lone surrogates. -/
def loneTexts : JsString × JsString := (js "go" ++ [0xD800], js "go" ++ [0xD801])

/-- The second call sends its own text under the request id of the first. -/
theorem sent_loneTexts :
    ((instructionLog .privateBridge lengthDigest (retried loneTexts.1 loneTexts.2)).filterMap
      InstructionEvent.sent).map (fun q => (q.2.requestId, q.2.text)) =
        [(js "11111111-0000-5000-8000-000000000000", loneTexts.1),
          (js "11111111-0000-5000-8000-000000000000", loneTexts.2)] := by
  decide +kernel

theorem twoTexts_oneId :
    CollisionFreeOn .privateBridge lengthDigest (retried loneTexts.1 loneTexts.2) ∧
      ¬OneTextPerId .privateBridge lengthDigest (retried loneTexts.1 loneTexts.2) := by
  refine ⟨⟨by decide +kernel, by decide +kernel⟩, fun hone => ?_⟩
  obtain ⟨q, rest, hlog, hq, hrest⟩ := List.map_eq_cons_iff.mp sent_loneTexts
  obtain ⟨q', rest', rfl, hq', -⟩ := List.map_eq_cons_iff.mp hrest
  have hfirst := mem_of_sent (hlog ▸ List.mem_cons_self)
  have hsecond := mem_of_sent (hlog ▸ List.mem_cons_of_mem q List.mem_cons_self)
  have hid : q.2.requestId = q'.2.requestId :=
    (congrArg Prod.fst hq).trans (congrArg Prod.fst hq').symm
  have htext : q.2.text = loneTexts.1 := congrArg Prod.snd hq
  have htext' : q'.2.text = loneTexts.2 := congrArg Prod.snd hq'
  have hsame := (hone.one _ _ _ _ hfirst hsecond hid).1
  rw [htext, htext'] at hsame
  revert hsame
  decide

end RemoteOps

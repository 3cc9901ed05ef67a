import RemoteOps.DeepHarness.Commits
import RemoteOps.DeepHarness.FailClosed

/-!
# Grants that stay in force

While a commit awaits `submit`, nothing else of the queue runs, so the grant that
authorised it stays as it is. A read is not in the queue: grants may change while it
awaits the backend, but every change gives the grant a name that was never used
before, which the second lookup of the read notices (`notOvertaken`).
-/

namespace RemoteOps

open Ecma Transition

variable {h : HexDigest} {w : GrantWorld}

/-! ## Callers and names -/

/-- The names that an input brings. -/
def GrantInput.drawn : GrantInput → List JsString
  | .turn env => [env.uuid.text]
  | _ => []

/-- The caller of an operation of the run. -/
def Caller (is : List GrantInput) (identity : GrantIdentity) : Prop :=
  ∃ c, .call c ∈ is ∧ identityOf c.input = some identity

/-- The digest keeps the callers of a run apart. -/
def CallersApart (h : HexDigest) (is : List GrantInput) : Prop :=
  ∀ i j, Caller is i → Caller is j →
    identityKey h i.toIdentityFields = identityKey h j.toIdentityFields → i = j

theorem Caller.concat {is : List GrantInput} {identity : GrantIdentity} (hc : Caller is identity)
    (i : GrantInput) : Caller (is ++ [i]) identity := by
  obtain ⟨c, hmem, hidentity⟩ := hc
  exact ⟨c, List.mem_append_left _ hmem, hidentity⟩

theorem prefixClosed_callersApart (h : HexDigest) : PrefixClosed (CallersApart h) :=
  fun _ i hapart a b ha hb => hapart a b (ha.concat i) (hb.concat i)

/-- A grant stands under the key of its caller and has one of the names drawn. -/
structure Grant.Named (h : HexDigest) (is : List GrantInput) (k : JsString) (g : Grant) : Prop where
  key : k = identityKey h g.identity.toIdentityFields
  caller : Caller is g.identity
  revision : g.revision ∈ is.flatMap GrantInput.drawn

theorem Grant.Named.concat {is : List GrantInput} {k : JsString} {g : Grant}
    (hg : g.Named h is k) (i : GrantInput) : g.Named h (is ++ [i]) k := by
  refine ⟨hg.key, hg.caller.concat i, ?_⟩
  rw [List.flatMap_append]
  exact List.mem_append_left _ hg.revision

def GrantState.Named (h : HexDigest) (is : List GrantInput) (s : GrantState) : Prop :=
  ∀ k g, s.grants.get? k = some g → g.Named h is k

theorem GrantState.Named.concat {is : List GrantInput} {s : GrantState} (hs : s.Named h is)
    (i : GrantInput) : s.Named h (is ++ [i]) :=
  fun k g hg => (hs k g hg).concat i

theorem named_empty (is : List GrantInput) : GrantState.empty.Named h is := fun _ _ hg => by cases hg

/-- The commit in flight comes from a call and has its grant. -/
def Started (h : HexDigest) (is : List GrantInput) (state : GrantState) (c : CommitInFlight) :
    Prop :=
  (∃ call, .call call ∈ is ∧ Requests call c.request) ∧
    ∃ g, instructGrant h c.request state = some g

theorem Started.concat {is : List GrantInput} {state : GrantState} {c : CommitInFlight}
    (hc : Started h is state c) (i : GrantInput) : Started h (is ++ [i]) state c := by
  obtain ⟨⟨call, hcall, hrequests⟩, hgrant⟩ := hc
  exact ⟨⟨call, List.mem_append_left _ hcall, hrequests⟩, hgrant⟩

/-- What holds of the grants and of the commit in flight after the inputs `is`. -/
structure Tended (h : HexDigest) (is : List GrantInput) (w : GrantWorld) : Prop where
  memory : w.store.state.Named h is
  file : ∀ s, w.store.file = some s → s.Named h is
  queue : ∀ p ∈ w.queue, .call p.2 ∈ is
  flight : ∀ c, w.inFlight = some c → Started h is w.store.state c

theorem queue_turn (w : GrantWorld) (env : TurnEnv) :
    ∀ p ∈ (w.turn h env).2.queue, p ∈ w.queue := by
  intro p hp
  unfold GrantWorld.turn at hp
  cases hflight : w.inFlight with
  | some c =>
      rw [hflight] at hp
      exact hp
  | none =>
      cases hqueue : w.queue with
      | nil =>
          rw [hflight, hqueue] at hp
          dsimp only at hp
          rw [hqueue] at hp
          exact hp
      | cons call queue =>
          rw [hflight, hqueue] at hp
          exact List.mem_cons_of_mem _ hp

theorem queue_acknowledge (w : GrantWorld) (accepted : Bool) (now : SafeInt)
    (persist : PersistOutcome) : (w.acknowledge h accepted now persist).2.queue = w.queue := by
  unfold GrantWorld.acknowledge
  cases w.inFlight with
  | none => rfl
  | some c =>
      dsimp only
      generalize finishCommit h c.request c.delivery accepted now persist w.store = finished
      obtain ⟨receipt, s⟩ := finished
      cases receipt <;> rfl

theorem queue_answer (w : GrantWorld) (n : ℕ) (result : Option Json) :
    (w.answer h n result).2.queue = w.queue := by
  unfold GrantWorld.answer
  cases w.reads.find? fun r => r.1 = n with
  | none => rfl
  | some read =>
      cases result with
      | none => rfl
      | some data =>
          dsimp only
          split_ifs <;> rfl

/-- Only a call is queued. -/
theorem queue_step (w : GrantWorld) (i : GrantInput) :
    ∀ p ∈ (i.step h w).2.queue, p ∈ w.queue ∨ i = .call p.2 := by
  intro p hp
  by_cases hrunning : w.running = true
  · have hnot : ¬(!w.running) = true := by simp [hrunning]
    cases i with
    | restart persist =>
        rw [GrantInput.step] at hp
        cases hp
    | call c =>
        rw [GrantInput.step, if_neg hnot] at hp
        rcases List.mem_append.mp hp with hp | hp
        · exact .inl hp
        · rw [List.mem_singleton.mp hp]
          exact .inr rfl
    | turn env =>
        rw [GrantInput.step, if_neg hnot] at hp
        exact .inl (queue_turn w env p hp)
    | acknowledged accepted now persist =>
        rw [GrantInput.step, if_neg hnot, queue_acknowledge] at hp
        exact .inl hp
    | lookup input =>
        rw [GrantInput.step, if_neg hnot] at hp
        exact .inl hp
    | list input =>
        rw [GrantInput.step, if_neg hnot] at hp
        exact .inl hp
    | read kind trusted input =>
        rw [GrantInput.step, if_neg hnot] at hp
        dsimp only at hp
        cases hauth : startRead h kind trusted input w.store with
        | none =>
            rw [hauth] at hp
            exact .inl hp
        | some auth =>
            rw [hauth] at hp
            exact .inl hp
    | answered n result =>
        rw [GrantInput.step, if_neg hnot, queue_answer] at hp
        exact .inl hp
  · rw [Bool.not_eq_true] at hrunning
    rcases step_stopped (h := h) hrunning i with hstep | ⟨persist, rfl⟩
    · rw [hstep] at hp
      exact .inl hp
    · rw [GrantInput.step] at hp
      cases hp

section Changes

variable {is : List GrantInput} {i : GrantInput} {next : GrantState} {events : List GrantEvent}
  {flight : Option CommitInFlight}

theorem Change.named (hchange : Change h w i next events flight) (htended : Tended h is w) :
    next.Named h (is ++ [i]) := by
  cases hchange with
  | @granted env n c queue key grant e hfault hqueue hidle hcaller hroom hrevision hevent =>
      obtain ⟨identity, hidentity, hkey, hgrant⟩ := hcaller
      have hcall : .call c ∈ is := htended.queue (n, c) (hqueue ▸ List.mem_cons_self)
      intro k g hg
      rw [Record.get?_set] at hg
      split_ifs at hg with heq
      · obtain rfl := Option.some.inj hg
        have hdrawn : grant.revision ∈ (is ++ [GrantInput.turn env]).flatMap GrantInput.drawn := by
          rw [List.flatMap_append]
          exact List.mem_append_right _ (by simp [GrantInput.drawn, hrevision])
        rcases hgrant with hnew | ⟨current, hcurrent, hsame⟩
        · refine ⟨by rw [heq, hkey, hnew], ?_, hdrawn⟩
          exact Caller.concat ⟨c, hcall, hnew ▸ hidentity⟩ _
        · have hnamed := htended.memory key current hcurrent
          refine ⟨by rw [heq, hsame, hnamed.key], ?_, hdrawn⟩
          exact hsame ▸ hnamed.caller.concat _
      · exact (htended.memory k g hg).concat _
  | pending => exact htended.memory.concat _
  | accepted => exact htended.memory.concat _

/-- A commit that begins finds its grant. -/
theorem Change.begun (hchange : Change h w i next events flight) (htended : Tended h is w)
    {c : CommitInFlight} (hc : flight = some c) :
    Started h (is ++ [i]) next c := by
  cases hchange with
  | granted => cases hc
  | accepted => cases hc
  | @pending env n call queue request grant hfault hqueue hidle hrequest hgrant =>
      obtain rfl := Option.some.inj hc
      have hcall : .call call ∈ is := htended.queue (n, call) (hqueue ▸ List.mem_cons_self)
      exact ⟨⟨call, List.mem_append_left _ hcall, hrequest⟩, grant, hgrant⟩

end Changes

theorem queued_concat {is : List GrantInput} {i : GrantInput} {w' : GrantWorld}
    (htended : Tended h is w) (hqueue : ∀ p ∈ w'.queue, p ∈ w.queue ∨ i = .call p.2) :
    ∀ p ∈ w'.queue, .call p.2 ∈ is ++ [i] := by
  intro p hp
  rcases hqueue p hp with hold | hnew
  · exact List.mem_append_left _ (htended.queue p hold)
  · exact List.mem_append_right _ (List.mem_singleton.mpr hnew.symm)

/-- A step that leaves the store alone. -/
theorem Tended.of_store {is : List GrantInput} {i : GrantInput} {w' : GrantWorld}
    (htended : Tended h is w) (hstore : w'.store = w.store)
    (hqueue : ∀ p ∈ w'.queue, p ∈ w.queue ∨ i = .call p.2)
    (hflight : ∀ c, w'.inFlight = some c → Started h (is ++ [i]) w.store.state c) :
    Tended h (is ++ [i]) w' := by
  refine ⟨?_, ?_, queued_concat htended hqueue, ?_⟩
  · rw [hstore]
    exact htended.memory.concat i
  · rw [hstore]
    exact fun s hs => (htended.file s hs).concat i
  · rw [hstore]
    exact hflight

theorem tended_restart {is : List GrantInput} (htended : Tended h is w) (hsteady : Steady h w)
    (persist : PersistOutcome) :
    Tended h (is ++ [.restart persist]) (w.restart persist) := by
  refine ⟨?_, fun s hs => ?_, fun p hp => (by cases hp), fun c hc => (by cases hc)⟩
  · rcases state_restart hsteady persist with hempty | hload
    · rw [hempty]
      exact named_empty _
    · exact (htended.file _ hload).concat _
  · rcases file_restart w persist with hsame | ⟨-, hempty⟩
    · exact (htended.file s (hsame ▸ hs)).concat _
    · rw [hempty] at hs
      exact Option.some.inj hs ▸ named_empty _

theorem tended_step {is : List GrantInput} (htended : Tended h is w) (hsteady : Steady h w)
    (i : GrantInput) : Tended h (is ++ [i]) (i.step h w).2 := by
  have hcase := worldCase_step (h := h) w i
  have hqueue := queue_step (h := h) w i
  generalize i.step h w = x at hcase hqueue ⊢
  cases hcase with
  | plain hstore hrunning hflight =>
      exact htended.of_store hstore hqueue fun c hc =>
        Started.concat (htended.flight c (hflight ▸ hc)) _
  | opened =>
      exact htended.of_store rfl hqueue fun c hc => Started.concat (htended.flight c hc) _
  | disclosed =>
      exact htended.of_store rfl hqueue fun c hc => Started.concat (htended.flight c hc) _
  | restarted => exact tended_restart htended hsteady _
  | saved hrunning hchange hstore hlive hflight =>
      have hnamed := hchange.named htended
      refine ⟨?_, ?_, queued_concat htended hqueue, ?_⟩
      · rw [hstore]
        exact hnamed
      · rw [hstore]
        exact fun s hs => Option.some.inj hs ▸ hnamed
      · rw [hstore, hflight]
        exact fun c hc => hchange.begun htended hc
  | failed hrunning hchange hstore hlive hflight =>
      have hnamed := hchange.named htended
      refine ⟨?_, ?_, queued_concat htended hqueue, ?_⟩
      · rcases hstore with hstore | hstore <;> rw [hstore] <;> exact htended.memory.concat _
      · rcases hstore with hstore | hstore
        · rw [hstore]
          exact fun s hs => (htended.file s hs).concat _
        · rw [hstore]
          exact fun s hs => Option.some.inj hs ▸ hnamed
      · rw [hflight]
        exact fun c hc => by cases hc
  | resubmitted hrunning hfault hturn hrequest hgrant hprevious hpending hpayload hrevision hstore
      hlive hflight =>
      refine htended.of_store hstore hqueue fun c hc => ?_
      rw [hflight] at hc
      obtain rfl := Option.some.inj hc
      obtain ⟨env, queue, rfl, hcalls, -⟩ := hturn
      have hcall := htended.queue _ (hcalls ▸ List.mem_cons_self)
      exact ⟨⟨_, List.mem_append_left _ hcall, hrequest⟩, _, hgrant⟩
  | duplicate hrunning hfault hturn hrequest hprevious haccepted hstore hlive hflight =>
      refine htended.of_store hstore hqueue fun c hc => ?_
      rw [hflight] at hc
      cases hc
  | ended hrunning hstore hlive hflight =>
      refine htended.of_store hstore hqueue fun c hc => ?_
      rw [hflight] at hc
      cases hc

theorem tended_after (h : HexDigest) (is : List GrantInput) :
    Tended h is ((grantWorld h).after is) := by
  refine (grantWorld h).invariant (E := fun _ => True) (I := Tended h) (fun _ _ _ => trivial) ?_
    (fun is i _ htended => tended_step htended (steady_after h is) i) is trivial
  exact ⟨named_empty _, fun s hs => (by cases hs), fun p hp => (by cases hp),
    fun c hc => (by cases hc)⟩

/-! ## Commits -/

/-- The grant of exactly this caller allows the action, under this revision. -/
structure Grant.InForce (g : Grant) (identity : IdentityFields) (action revision : JsString) :
    Prop where
  identity : g.identity.toIdentityFields = identity
  live : g.revokedAt = none
  action : action ∈ g.actions
  revision : g.revision = revision

/-- A commit in flight is one that was called for, and its grant is in force. -/
theorem inForce_of_inFlight {is : List GrantInput} (hapart : CallersApart h is) {c : CommitInFlight}
    (hc : ((grantWorld h).after is).inFlight = some c) :
    (∃ call, .call call ∈ is ∧ Requests call c.request) ∧
      ∃ g, ((grantWorld h).after is).store.state.grants.get?
          (identityKey h c.request.identity.toIdentityFields) = some g ∧
        g.InForce c.request.identity.toIdentityFields (js "lead.instruct") c.request.revision := by
  have htended := tended_after h is
  obtain ⟨⟨call, hcall, hrequests⟩, g, hgrant⟩ := htended.flight c hc
  obtain ⟨hget, hlive, haction, hrevision⟩ := instructGrant_eq_some.mp hgrant
  have hnamed := htended.memory _ g hget
  have hsame := hapart _ _ hnamed.caller ⟨call, hcall, hrequests.identity⟩ hnamed.key.symm
  exact ⟨⟨call, hcall, hrequests⟩, g, hget, congrArg _ hsame, hlive, haction, hrevision⟩

/-! ## Reads -/

/-- The caller and the Lead of a read. -/
structure Authority.Names (auth : Authority) (identity : IdentityFields) : Prop where
  actor : identity.actor = auth.principal.actor
  clientId : identity.clientId = auth.principal.clientId
  sessionId : identity.sessionId = auth.principal.sessionId
  workspaceId : identity.workspaceId = auth.scope.workspaceId
  leadSessionId : identity.leadSessionId = auth.scope.leadSessionId

theorem Authority.Names.unique {auth : Authority} {i j : IdentityFields} (hi : auth.Names i)
    (hj : auth.Names j) : i = j := by
  obtain ⟨actor, clientId, sessionId, workspaceId, leadSessionId, valid⟩ := i
  obtain ⟨rfl, rfl, rfl, rfl, rfl⟩ := hi
  obtain ⟨actor, clientId, sessionId, workspaceId, leadSessionId, valid'⟩ := j
  obtain ⟨rfl, rfl, rfl, rfl, rfl⟩ := hj
  rfl

/-- The store has the grant of a read, in force. -/
def Holds (h : HexDigest) (auth : Authority) (s : GrantStore) : Prop :=
  ∃ identity g, auth.Names identity ∧ s.state.grants.get? (identityKey h identity) = some g ∧
    g.InForce identity auth.action auth.revision

theorem identityOf_lookupInput {principal : Principal} {scope : Scope} {identity : GrantIdentity}
    (hidentity : identityOf (lookupInput principal scope) = some identity) (action revision : JsString) :
    Authority.Names ⟨principal, scope, action, revision⟩ identity.toIdentityFields := by
  have hactor : (lookupInput principal scope).get (js "actor") = some (.str principal.actor) := rfl
  have hclient : (lookupInput principal scope).get (js "clientId") =
      some (.str principal.clientId) := rfl
  have hsession : (lookupInput principal scope).get (js "sessionId") =
      some (.str principal.sessionId) := rfl
  have hworkspace : (lookupInput principal scope).get (js "workspaceId") =
      some (.str scope.workspaceId) := rfl
  have hlead : (lookupInput principal scope).get (js "leadSessionId") =
      some (.str scope.leadSessionId) := rfl
  simp only [identityOf, Option.bind_eq_bind, Option.bind_eq_some_iff] at hidentity
  obtain ⟨fields, hfields, hown⟩ := hidentity
  split at hown
  · obtain rfl := Option.some.inj hown
    rw [readFields, hactor, hclient, hsession, hworkspace, hlead] at hfields
    simp only [strOf, Option.bind_eq_bind, Option.bind_some] at hfields
    split at hfields
    · obtain rfl := Option.some.inj hfields
      exact ⟨rfl, rfl, rfl, rfl, rfl⟩
    · cases hfields
  · cases hown

theorem holds_of_lookup {s : GrantStore} {principal : Principal} {scope : Scope}
    {action : JsString} {found : Option CurrentGrant} {auth : Authority}
    (hlookup : lookupCurrentGrant h (lookupInput principal scope) s = some found)
    (hvalid : validateGrant found principal scope action = some auth) :
    Holds h auth s ∧ auth.principal = principal ∧ auth.scope = scope ∧ auth.action = action := by
  unfold lookupCurrentGrant at hlookup
  split at hlookup
  · cases hlookup
  cases hidentity : identityOf (lookupInput principal scope) with
  | none =>
      rw [hidentity] at hlookup
      cases hlookup
  | some identity =>
      rw [hidentity] at hlookup
      dsimp only at hlookup
      cases hget : s.state.grants.get? (identityKey h identity.toIdentityFields) with
      | none =>
          rw [hget] at hlookup
          obtain rfl := Option.some.inj hlookup
          cases hvalid
      | some g =>
          rw [hget] at hlookup
          dsimp only at hlookup
          split at hlookup
          · obtain rfl := Option.some.inj hlookup
            cases hvalid
          · next hlive =>
              rw [not_or, Option.not_isSome_iff_eq_none, not_ne_iff] at hlive
              obtain rfl := Option.some.inj hlookup
              unfold validateGrant at hvalid
              dsimp only at hvalid
              split at hvalid
              · next hmatches =>
                  obtain rfl := Option.some.inj hvalid
                  refine ⟨⟨_, g, identityOf_lookupInput hidentity _ _, hget, ?_⟩, rfl, rfl, rfl⟩
                  exact ⟨congrArg _ hlive.2, hlive.1, hmatches.action, rfl⟩
              · cases hvalid

def ReadKind.action : ReadKind → JsString
  | .team => js "team.read"
  | .chat => js "chat.read"

theorem holds_of_authority {s : GrantStore} {trusted input : Json} {action : JsString}
    {auth : Authority} (hauth : authority h trusted input action s = some auth) :
    Holds h auth s ∧ auth.action = action := by
  simp only [authority, Option.bind_eq_bind, Option.bind_eq_some_iff] at hauth
  obtain ⟨principal, -, scope, -, found, hlookup, hvalid⟩ := hauth
  obtain ⟨hholds, -, -, haction⟩ := holds_of_lookup hlookup hvalid
  exact ⟨hholds, haction⟩

/-- The first lookup of a read. -/
theorem holds_of_startRead {s : GrantStore} {kind : ReadKind} {trusted input : Json}
    {auth : Authority} (hauth : startRead h kind trusted input s = some auth) :
    Holds h auth s ∧ auth.action = kind.action := by
  cases kind with
  | team => exact holds_of_authority hauth
  | chat =>
      unfold startRead at hauth
      dsimp only at hauth
      cases hfirst : authority h trusted input (js "chat.read") s with
      | none =>
          rw [hfirst] at hauth
          cases hauth
      | some first =>
          have hsame : first = auth := by
            rw [hfirst] at hauth
            dsimp only at hauth
            split at hauth
            · split at hauth
              · split at hauth
                · exact Option.some.inj hauth
                · cases hauth
              · cases hauth
            · cases hauth
          exact hsame ▸ holds_of_authority hfirst

/-- The last lookup of a read. -/
theorem holds_of_recheck {s : GrantStore} {auth : Authority} (hrecheck : recheck h auth s = true) :
    Holds h auth s := by
  unfold recheck at hrecheck
  split at hrecheck
  · cases hrecheck
  · next found hlookup =>
      split at hrecheck
      · cases hrecheck
      · next fresh hvalid =>
          obtain ⟨hholds, hprincipal, hscope, haction⟩ := holds_of_lookup hlookup hvalid
          have hrevision : fresh.revision = auth.revision := of_decide_eq_true hrecheck
          obtain ⟨principal, scope, action, revision⟩ := fresh
          obtain ⟨principal', scope', action', revision'⟩ := auth
          dsimp only at hprincipal hscope haction hrevision
          rw [← hprincipal, ← hscope, ← haction, ← hrevision]
          exact hholds

/-! ### From the first lookup to the last -/

/-- The first lookup of the read `n` among the inputs `is`, and the grant it found. -/
structure ReadTrace (h : HexDigest) (is : List GrantInput) (n : ℕ) (auth : Authority)
    (pre : List GrantInput) (kind : ReadKind) (trusted input : Json) (post : List GrantInput)
    (identity : IdentityFields) (g : Grant) : Prop where
  split : is = pre ++ .read kind trusted input :: post
  number : ((grantWorld h).after pre).calls = n
  started : startRead h kind trusted input ((grantWorld h).after pre).store = some auth
  action : auth.action = kind.action
  names : auth.Names identity
  stored : ((grantWorld h).after pre).store.state.grants.get? (identityKey h identity) = some g
  inForce : g.InForce identity auth.action auth.revision

/-- From the first lookup on, the grant is neither revoked nor replaced. -/
def Kept (h : HexDigest) (pre : List GrantInput) (post : List GrantInput) (identity : IdentityFields)
    (g : Grant) : Prop :=
  ∀ q r, post = q ++ r →
    ((grantWorld h).after (pre ++ q)).store.state.grants.get? (identityKey h identity) = some g

/-- The grant has another revision than the read. -/
def Overtaken (h : HexDigest) (auth : Authority) (identity : IdentityFields) (w : GrantWorld) :
    Prop :=
  ∀ g, w.store.state.grants.get? (identityKey h identity) = some g → g.revision ≠ auth.revision

/-- A read that awaits the backend. -/
def OpenRead (h : HexDigest) (is : List GrantInput) (n : ℕ) (auth : Authority) : Prop :=
  ∃ pre kind trusted input post identity g,
    ReadTrace h is n auth pre kind trusted input post identity g ∧
      (Kept h pre (.read kind trusted input :: post) identity g ∨
        Overtaken h auth identity ((grantWorld h).after is))

/-- What an input does to the grants in memory. -/
inductive GrantsCase (w : GrantWorld) : GrantInput → GrantWorld → Prop where
  | kept {i : GrantInput} {w' : GrantWorld}
      (hgrants : w'.store.state.grants = w.store.state.grants) : GrantsCase w i w'
  | replaced {env : TurnEnv} {w' : GrantWorld} {key : JsString} {grant : Grant}
      (hrevision : grant.revision = env.uuid.text)
      (hgrants : w'.store.state.grants = w.store.state.grants.set key grant) :
      GrantsCase w (.turn env) w'
  | restarted {persist : PersistOutcome} : GrantsCase w (.restart persist) (w.restart persist)

theorem grantsCase_step (w : GrantWorld) (i : GrantInput) :
    GrantsCase w i (i.step h w).2 := by
  have hcase := worldCase_step (h := h) w i
  generalize i.step h w = x at hcase ⊢
  cases hcase with
  | plain hstore => exact .kept (by rw [hstore])
  | opened => exact .kept rfl
  | disclosed => exact .kept rfl
  | restarted => exact .restarted
  | resubmitted _ _ _ _ _ _ _ _ _ hstore => exact .kept (by rw [hstore])
  | duplicate _ _ _ _ _ _ hstore => exact .kept (by rw [hstore])
  | ended _ hstore => exact .kept (by rw [hstore])
  | failed hrunning hchange hstore =>
      rcases hstore with hstore | hstore <;> exact .kept (by rw [hstore])
  | saved hrunning hchange hstore =>
      generalize x.1 = events at hchange
      cases hchange with
      | granted hfault hqueue hidle hcaller hroom hrevision =>
          exact .replaced hrevision (by rw [hstore])
      | pending => exact .kept (by rw [hstore])
      | accepted => exact .kept (by rw [hstore])

/-- A grant in memory keeps its record or gets a new name. -/
theorem grant_kept_or_renamed {is : List GrantInput} {i : GrantInput}
    (hfresh : Fresh GrantInput.drawn (is ++ [i])) (hlive : ∀ persist, i ≠ .restart persist)
    (k : JsString) :
    ((grantWorld h).after (is ++ [i])).store.state.grants.get? k =
        ((grantWorld h).after is).store.state.grants.get? k ∨
      ∃ g, ((grantWorld h).after (is ++ [i])).store.state.grants.get? k = some g ∧
        g.revision ∉ is.flatMap GrantInput.drawn := by
  have hcase := grantsCase_step (h := h) ((grantWorld h).after is) i
  rw [Machine.after_concat]
  generalize hnext : ((grantWorld h).step ((grantWorld h).after is) i).2 = next
  change GrantsCase _ i ((grantWorld h).step ((grantWorld h).after is) i).2 at hcase
  rw [hnext] at hcase
  cases hcase with
  | kept hgrants => exact .inl (by rw [hgrants])
  | restarted => exact absurd rfl (hlive _)
  | @replaced env _ key grant hrevision hgrants =>
      rw [hgrants, Record.get?_set]
      split_ifs with heq
      · refine .inr ⟨grant, rfl, ?_⟩
        rw [hrevision]
        exact hfresh.notMem List.mem_cons_self
      · exact .inl rfl

theorem openRead_concat {is : List GrantInput} {i : GrantInput} {n : ℕ} {auth : Authority}
    (hfresh : Fresh GrantInput.drawn (is ++ [i])) (hlive : ∀ persist, i ≠ .restart persist)
    (hread : OpenRead h is n auth) : OpenRead h (is ++ [i]) n auth := by
  obtain ⟨pre, kind, trusted, input, post, identity, g, htrace, hstate⟩ := hread
  have hdrawn : auth.revision ∈ is.flatMap GrantInput.drawn := by
    have hnamed := (tended_after h pre).memory _ g htrace.stored
    rw [← htrace.inForce.revision, htrace.split, List.flatMap_append]
    exact List.mem_append_left _ hnamed.revision
  refine ⟨pre, kind, trusted, input, post ++ [i], identity, g,
    { htrace with split := by rw [htrace.split, List.append_assoc]; rfl }, ?_⟩
  have hnew := grant_kept_or_renamed (h := h) hfresh hlive (identityKey h identity)
  rcases hstate with hkept | hover
  · rcases hnew with hsame | ⟨g', hg', hrenamed⟩
    · refine .inl fun q r hsplit => ?_
      cases r using List.reverseRecOn with
      | nil =>
          have hall : pre ++ q = is ++ [i] := by
            rw [List.append_nil] at hsplit
            rw [htrace.split, ← hsplit, List.append_assoc]
            rfl
          have hlast := hkept (.read kind trusted input :: post) [] (List.append_nil _).symm
          rw [← htrace.split] at hlast
          rw [hall, hsame]
          exact hlast
      | append_singleton r j =>
          rw [← List.cons_append, ← List.append_assoc] at hsplit
          obtain ⟨hinit, -⟩ := List.append_inj' hsplit rfl
          exact hkept q r hinit
    · refine .inr fun g'' hg'' => ?_
      rw [hg'] at hg''
      rw [← Option.some.inj hg'']
      exact fun heq => hrenamed (heq ▸ hdrawn)
  · refine .inr fun g' hg' => ?_
    rcases hnew with hsame | ⟨g'', hg'', hrenamed⟩
    · exact hover g' (hsame ▸ hg')
    · rw [hg''] at hg'
      rw [← Option.some.inj hg']
      exact fun heq => hrenamed (heq ▸ hdrawn)

theorem openRead_start {is : List GrantInput} {kind : ReadKind} {trusted input : Json}
    {auth : Authority}
    (hauth : startRead h kind trusted input ((grantWorld h).after is).store = some auth)
    (hstore : ((grantWorld h).after (is ++ [.read kind trusted input])).store =
      ((grantWorld h).after is).store) :
    OpenRead h (is ++ [.read kind trusted input]) ((grantWorld h).after is).calls auth := by
  obtain ⟨⟨identity, g, hnames, hget, hforce⟩, haction⟩ := holds_of_startRead hauth
  refine ⟨is, kind, trusted, input, [], identity, g,
    ⟨rfl, rfl, hauth, haction, hnames, hget, hforce⟩, .inl fun q r hsplit => ?_⟩
  cases q with
  | nil =>
      rw [List.append_nil]
      exact hget
  | cons j q =>
      obtain ⟨rfl, hrest⟩ := List.cons.inj hsplit
      obtain ⟨rfl, -⟩ := List.append_eq_nil_iff.mp hrest.symm
      rw [hstore]
      exact hget

/-- A read is open from its first lookup, and not beyond a restart. -/
theorem reads_step (w : GrantWorld) (i : GrantInput) :
    ∀ r ∈ (i.step h w).2.reads, (∀ persist, i ≠ .restart persist) ∧
      (r ∈ w.reads ∨ ∃ kind trusted input, i = .read kind trusted input ∧ r.1 = w.calls ∧
        startRead h kind trusted input w.store = some r.2 ∧ (i.step h w).2.store = w.store) := by
  intro r hr
  have hlive : ∀ persist, i ≠ .restart persist := by
    rintro persist rfl
    rw [GrantInput.step] at hr
    cases hr
  have hcase := worldCase_step (h := h) w i
  generalize i.step h w = x at hcase hr ⊢
  refine ⟨hlive, ?_⟩
  cases hcase with
  | plain hstore hrunning hflight hreads => exact .inl (hreads r hr)
  | @opened kind trusted input auth hrunning hauth =>
      rcases List.mem_append.mp hr with hr | hr
      · exact .inl hr
      · rw [List.mem_singleton.mp hr]
        exact .inr ⟨kind, trusted, input, rfl, rfl, hauth, rfl⟩
  | disclosed => exact .inl (List.mem_filter.mp hr).1
  | restarted => exact absurd rfl (hlive _)
  | saved hrunning hchange hstore hlive hflight hreads => exact .inl (hreads ▸ hr)
  | failed hrunning hchange hstore hlive hflight hreads => exact .inl (hreads ▸ hr)
  | resubmitted _ _ _ _ _ _ _ _ _ _ _ _ hreads => exact .inl (hreads ▸ hr)
  | duplicate _ _ _ _ _ _ _ _ _ hreads => exact .inl (hreads ▸ hr)
  | ended _ _ _ _ hreads => exact .inl (hreads ▸ hr)

theorem openReads_after (h : HexDigest) (is : List GrantInput)
    (hfresh : Fresh GrantInput.drawn is) :
    ∀ r ∈ ((grantWorld h).after is).reads, OpenRead h is r.1 r.2 := by
  refine (grantWorld h).invariant (prefixClosed_fresh GrantInput.drawn)
    (I := fun is w => ∀ r ∈ w.reads, OpenRead h is r.1 r.2) (fun r hr => by cases hr)
    (fun is i hfresh hreads r hr => ?_) is hfresh
  obtain ⟨hlive, hold | ⟨kind, trusted, input, rfl, hnumber, hauth, hstore⟩⟩ :=
    reads_step (h := h) _ i r hr
  · exact openRead_concat hfresh hlive (hreads r hold)
  · rw [hnumber]
    refine openRead_start hauth ?_
    rw [Machine.after_concat]
    exact hstore

/-- A submission leaves its commit in flight. -/
theorem inFlight_of_submitted {i : GrantInput} {r : CommitRequest}
    (hr : .submitted r ∈ (i.step h w).1) :
    ∃ c, (i.step h w).2.inFlight = some c ∧ c.request = r := by
  have hcase := worldCase_step (h := h) w i
  generalize i.step h w = x at hcase hr ⊢
  cases hcase with
  | plain hstore hrunning hflight hreads hcalls hevents => exact (hevents _ hr).elim
  | opened => cases hr
  | restarted => cases hr
  | disclosed => cases List.mem_singleton.mp hr
  | saved hrunning hchange hstore hlive hflight =>
      rw [hflight]
      generalize x.1 = events at hchange hr
      cases hchange with
      | granted _ _ _ _ _ _ hevent =>
          rw [← List.mem_singleton.mp hr] at hevent
          rcases hevent with hevent | hevent <;> cases hevent
      | pending =>
          cases List.mem_singleton.mp hr
          exact ⟨_, rfl, rfl⟩
      | accepted => cases List.mem_singleton.mp hr
  | failed _ _ _ _ _ _ _ hevents =>
      rw [hevents] at hr
      cases List.mem_singleton.mp hr
  | resubmitted _ _ _ _ _ _ _ _ _ _ _ hflight _ _ hevents =>
      rw [hevents] at hr
      cases List.mem_singleton.mp hr
      exact ⟨_, hflight, rfl⟩
  | duplicate _ _ _ _ _ _ _ _ _ _ _ hevents =>
      rw [hevents] at hr
      cases List.mem_singleton.mp hr
  | ended _ _ _ _ _ _ hevents =>
      rw [hevents] at hr
      cases List.mem_singleton.mp hr

/-- What is disclosed was read, and rechecked in the same step. -/
theorem recheck_of_disclosed {i : GrantInput} {n : ℕ} {auth : Authority} {data : Json}
    (he : .disclosed n auth data ∈ (i.step h w).1) :
    (n, auth) ∈ w.reads ∧ recheck h auth w.store = true := by
  have hcase := worldCase_step (h := h) w i
  generalize i.step h w = x at hcase he
  cases hcase with
  | plain hstore hrunning hflight hreads hcalls hevents => exact (hevents _ he).elim
  | opened => cases he
  | restarted => cases he
  | disclosed hrunning hread hrecheck =>
      cases List.mem_singleton.mp he
      exact ⟨hread, hrecheck⟩
  | saved hrunning hchange =>
      generalize x.1 = events at hchange he
      cases hchange with
      | granted _ _ _ _ _ _ hevent =>
          rw [← List.mem_singleton.mp he] at hevent
          rcases hevent with hevent | hevent <;> cases hevent
      | pending => cases List.mem_singleton.mp he
      | accepted => cases List.mem_singleton.mp he
  | failed _ _ _ _ _ _ _ hevents =>
      rw [hevents] at he
      cases List.mem_singleton.mp he
  | resubmitted _ _ _ _ _ _ _ _ _ _ _ _ _ _ hevents =>
      rw [hevents] at he
      cases List.mem_singleton.mp he
  | duplicate _ _ _ _ _ _ _ _ _ _ _ hevents =>
      rw [hevents] at he
      cases List.mem_singleton.mp he
  | ended _ _ _ _ _ _ hevents =>
      rw [hevents] at he
      cases List.mem_singleton.mp he

/-- A read that is not overtaken at its last lookup never was. -/
theorem kept_of_disclosed {is : List GrantInput} (hfresh : Fresh GrantInput.drawn is)
    {i : GrantInput} {n : ℕ} {auth : Authority} {data : Json}
    (he : .disclosed n auth data ∈ (grantWorld h).answer is i) :
    ∃ pre kind trusted input post identity g,
      ReadTrace h is n auth pre kind trusted input post identity g ∧
        Kept h pre (.read kind trusted input :: post) identity g := by
  obtain ⟨hread, hrecheck⟩ := recheck_of_disclosed he
  obtain ⟨pre, kind, trusted, input, post, identity, g, htrace, hkept | hover⟩ :=
    openReads_after h is hfresh _ hread
  · exact ⟨pre, kind, trusted, input, post, identity, g, htrace, hkept⟩
  · obtain ⟨identity', g', hnames, hget, hforce⟩ := holds_of_recheck hrecheck
    rw [hnames.unique htrace.names] at hget
    exact absurd hforce.revision (hover g' hget)

/-! ## No grant is overtaken -/

structure NotOvertaken (h : HexDigest) (is : List GrantInput) : Prop where
  /-- `submit` is called by the commit in flight -/
  submits : ∀ pre i post r, is = pre ++ i :: post → .submitted r ∈ (grantWorld h).answer pre i →
    ∃ c, ((grantWorld h).after (pre ++ [i])).inFlight = some c ∧ c.request = r
  /-- as long as a commit is in flight, its grant is in force -/
  commits : ∀ pre post c, is = pre ++ post → ((grantWorld h).after pre).inFlight = some c →
    (∃ call, .call call ∈ pre ∧ Requests call c.request) ∧
      ∃ g, ((grantWorld h).after pre).store.state.grants.get?
          (identityKey h c.request.identity.toIdentityFields) = some g ∧
        g.InForce c.request.identity.toIdentityFields (js "lead.instruct") c.request.revision
  /-- what a read discloses was allowed by one grant from the first lookup to the last -/
  reads : ∀ pre i post n auth data, is = pre ++ i :: post →
    .disclosed n auth data ∈ (grantWorld h).answer pre i →
      ∃ first kind trusted input later identity g,
        ReadTrace h pre n auth first kind trusted input later identity g ∧
          Kept h first (.read kind trusted input :: later) identity g

theorem notOvertaken (h : HexDigest) (is : List GrantInput) (hfresh : Fresh GrantInput.drawn is)
    (hapart : CallersApart h is) : NotOvertaken h is := by
  refine ⟨fun pre i post r hsplit hr => ?_, fun pre post c hsplit hc => ?_,
    fun pre i post n auth data hsplit he => ?_⟩
  · rw [Machine.after_concat]
    exact inFlight_of_submitted hr
  · subst hsplit
    exact inForce_of_inFlight ((prefixClosed_callersApart h).of_append hapart) hc
  · subst hsplit
    exact kept_of_disclosed ((prefixClosed_fresh GrantInput.drawn).of_append hfresh) he

theorem isUuid_sampleReceipt : isUuid (js "c2f1f7f0-61b5-4f0b-9d26-5b0b8f6d3a47") = true := by
  decide

def sampleInstruction : Json :=
  .obj (sampleCaller ++
    [(js "leadSessionId", .str (js "lead")), (js "action", .str (js "lead.instruct")),
      (js "revision", .str (js "0b0e7a5c-3f7b-4c59-8a44-2f6d0f3c9e11")),
      (js "idempotencyKey", .str (js "7d9f4be2-52f4-4b7b-8f0e-0a3d6a1c2b90")),
      (js "payloadHash", .str sampleHash)])

def sampleFullGrantee : Json :=
  .obj (sampleCaller ++
    [(js "leadSessionId", .str (js "lead")),
      (js "actions", .arr [.str (js "team.read"), .str (js "lead.instruct")])])

/-- A read and a commit of one caller; the read is answered while the commit awaits
`submit`. -/
def sampleRun : List GrantInput :=
  [.restart .written, .call (.putGrant sampleFullGrantee), .turn (sampleTurn .written),
    .read .team (.obj sampleCaller)
      (.obj [(js "workspaceId", .str (js "workspace")), (js "leadSessionId", .str (js "lead"))]),
    .call (.withAuthorizedLeadCommit sampleInstruction true),
    .turn { sampleTurn .written with
      uuid := ⟨js "c2f1f7f0-61b5-4f0b-9d26-5b0b8f6d3a47", isUuid_sampleReceipt⟩ },
    .answered 1 (some .null)]

theorem callersApart_sampleRun : CallersApart sampleDigest sampleRun := by
  have hcaller : ∀ identity, Caller sampleRun identity →
      some identity = identityOf sampleFullGrantee := by
    rintro identity ⟨c, hc, hidentity⟩
    simp only [sampleRun, List.mem_cons, GrantInput.call.injEq, List.not_mem_nil, reduceCtorEq,
      false_or, or_false] at hc
    rcases hc with rfl | rfl
    · exact hidentity.symm
    · exact hidentity.symm.trans (by decide +kernel)
  intro i j hi hj _
  exact Option.some.inj ((hcaller i hi).trans (hcaller j hj).symm)

theorem notOvertaken_sampleRun :
    NotOvertaken sampleDigest sampleRun ∧
      ((grantWorld sampleDigest).after sampleRun).inFlight.isSome = true :=
  ⟨notOvertaken sampleDigest sampleRun (by decide +kernel) callersApart_sampleRun,
    by decide +kernel⟩

end RemoteOps

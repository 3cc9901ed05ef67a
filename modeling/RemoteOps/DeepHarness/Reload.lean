import RemoteOps.DeepHarness.WorldSteps

/-!
# A new store on an old file

`Steady` is what holds between the file and the memory of the process in every run:
both are states that the reader accepts for their shape, and without a failed write
they are the same. A new store on the file then succeeds, with the state that was
written, exactly if the text of the file is not too long (`reloads_iff`): the writer
bounds the number of records and the reader the number of bytes.
-/

namespace RemoteOps

open Ecma Transition

variable {h : HexDigest} {w : GrantWorld}

/-! ## The invariant -/

theorem isHash_identityKey (h : HexDigest) (identity : IdentityFields) :
    isHash (identityKey h identity) = true := h.isHash _

theorem isHash_deliveryKey (h : HexDigest) (identity : IdentityFields) (key : JsString) :
    isHash (deliveryKey h identity key) = true := h.isHash _

theorem TableOk.set {α : Type*} {limit : ℕ} {r : Record α} (hr : TableOk limit r) {k : JsString}
    {x : α} (hk : isHash k = true) (hroom : (r.get? k).isSome = true ∨ r.size < limit) :
    TableOk limit (r.set k x) where
  keys k' y hy := by
    rw [Record.get?_set] at hy
    split_ifs at hy with heq
    · rw [heq]
      exact hk
    · exact hr.keys k' y hy
  count := by
    rw [Record.size_set]
    split_ifs with hold
    · exact hr.count
    · exact hroom.resolve_left hold

theorem ok_empty : GrantState.empty.Ok where
  grants := ⟨fun _ _ hx => (by cases hx), Nat.zero_le _⟩
  deliveries := ⟨fun _ _ hx => (by cases hx), Nat.zero_le _⟩

/-- A commit that awaits `submit` has its delivery in the memory, as pending. -/
def Awaited (h : HexDigest) (s : GrantStore) (c : CommitInFlight) : Prop :=
  s.faulted = false ∧ s.state.deliveries.get? (c.request.key h) = some c.delivery ∧
    c.delivery.status = .pending

structure Steady (h : HexDigest) (w : GrantWorld) : Prop where
  file : ∀ s, w.store.file = some s → s.Ok
  memory : w.store.state.Ok
  same : w.running = true → w.store.faulted = false → w.store.file = some w.store.state
  live : ∀ c, w.inFlight = some c → w.running = true ∧ Awaited h w.store c

/-- A step that leaves the store alone. -/
theorem Steady.of_store {w' : GrantWorld} (hsteady : Steady h w) (hstore : w'.store = w.store)
    (hrunning : w'.running = w.running)
    (hlive : ∀ c, w'.inFlight = some c → w.running = true ∧ Awaited h w.store c) :
    Steady h w' := by
  refine ⟨?_, ?_, ?_, ?_⟩
  · rw [hstore]
    exact hsteady.file
  · rw [hstore]
    exact hsteady.memory
  · rw [hstore, hrunning]
    exact hsteady.same
  · rw [hstore, hrunning]
    exact hlive

theorem Change.ok {i : GrantInput} {next : GrantState} {events : List GrantEvent}
    {flight : Option CommitInFlight} (hchange : Change h w i next events flight)
    (hsteady : Steady h w) : next.Ok := by
  cases hchange with
  | granted hfault hqueue hidle hcaller hroom hrevision hevent =>
      obtain ⟨identity, -, rfl, -⟩ := hcaller
      exact ⟨hsteady.memory.grants.set (isHash_identityKey h _) hroom, hsteady.memory.deliveries⟩
  | pending hfault hqueue hidle hrequest hgrant hnew hroom =>
      exact ⟨hsteady.memory.grants,
        hsteady.memory.deliveries.set (isHash_deliveryKey h _ _) (.inr hroom)⟩
  | accepted hflight hgrant =>
      obtain ⟨-, -, hpending, -⟩ := hsteady.live _ hflight
      exact ⟨hsteady.memory.grants,
        hsteady.memory.deliveries.set (isHash_deliveryKey h _ _) (.inl (by rw [hpending]; rfl))⟩

theorem Change.awaited {i : GrantInput} {next : GrantState} {events : List GrantEvent}
    {flight : Option CommitInFlight} (hchange : Change h w i next events flight)
    {c : CommitInFlight} (hc : flight = some c) :
    Awaited h { w.store with file := some next, state := next } c := by
  cases hchange with
  | granted => cases hc
  | accepted => cases hc
  | pending hfault =>
      obtain rfl := Option.some.inj hc
      exact ⟨hfault, Record.get?_set_self _ _ _, rfl⟩

/-- A new store has the state of the file, or the empty one. -/
theorem state_restart (hsteady : Steady h w) (persist : PersistOutcome) :
    (w.restart persist).store.state = GrantState.empty ∨
      w.store.file = some (w.restart persist).store.state := by
  unfold GrantWorld.restart
  cases hfile : w.store.file with
  | none => cases persist <;> exact .inl rfl
  | some s =>
      rw [createStore, loadText_fileText (hsteady.file s hfile)]
      by_cases hlong : maxFileBytes < textSize s.fileText
      · rw [if_pos hlong]
        exact .inl rfl
      · rw [if_neg hlong]
        exact .inr rfl

/-- A file that is there stays as it is. -/
theorem file_restart (w : GrantWorld) (persist : PersistOutcome) :
    (w.restart persist).store.file = w.store.file ∨
      w.store.file = none ∧ (w.restart persist).store.file = some GrantState.empty := by
  unfold GrantWorld.restart
  cases hfile : w.store.file with
  | none =>
      cases persist with
      | written => exact .inr ⟨rfl, rfl⟩
      | failedBefore => exact .inl rfl
      | failedAfter => exact .inr ⟨rfl, rfl⟩
  | some s =>
      rw [createStore]
      cases loadText s.fileText with
      | none => exact .inl rfl
      | some loaded => exact .inl rfl

/-- A store that runs has the state of its file. -/
theorem same_restart (hsteady : Steady h w) {persist : PersistOutcome}
    (hrunning : (w.restart persist).running = true) :
    (w.restart persist).store.file = some (w.restart persist).store.state := by
  unfold GrantWorld.restart at hrunning ⊢
  cases hfile : w.store.file with
  | none =>
      rw [hfile] at hrunning
      cases persist with
      | written => rfl
      | failedBefore => cases hrunning
      | failedAfter => cases hrunning
  | some s =>
      rw [hfile, createStore, loadText_fileText (hsteady.file s hfile)] at hrunning
      rw [createStore, loadText_fileText (hsteady.file s hfile)]
      by_cases hlong : maxFileBytes < textSize s.fileText
      · rw [if_pos hlong] at hrunning
        cases hrunning
      · rw [if_neg hlong]

theorem steady_restart (hsteady : Steady h w) (persist : PersistOutcome) :
    Steady h (w.restart persist) := by
  have hfile : ∀ s, (w.restart persist).store.file = some s → s.Ok := by
    intro s hs
    rcases file_restart w persist with hsame | ⟨-, hempty⟩
    · exact hsteady.file s (hsame ▸ hs)
    · rw [hempty] at hs
      exact Option.some.inj hs ▸ ok_empty
  refine ⟨hfile, ?_, fun hrunning _ => same_restart hsteady hrunning, fun c hc => ?_⟩
  · rcases state_restart hsteady persist with hempty | hload
    · rw [hempty]
      exact ok_empty
    · exact hsteady.file _ hload
  · have hidle : (w.restart persist).inFlight = none := rfl
    rw [hidle] at hc
    cases hc

theorem steady_step (hsteady : Steady h w) (i : GrantInput) : Steady h (i.step h w).2 := by
  have hcase := worldCase_step (h := h) w i
  generalize i.step h w = x at hcase ⊢
  cases hcase with
  | plain hstore hrunning hflight =>
      exact hsteady.of_store hstore hrunning fun c hc => hsteady.live c (hflight ▸ hc)
  | opened => exact hsteady.of_store rfl rfl hsteady.live
  | disclosed => exact hsteady.of_store rfl rfl hsteady.live
  | restarted => exact steady_restart hsteady _
  | saved hrunning hchange hstore hlive hflight =>
      have hok := hchange.ok hsteady
      refine ⟨?_, ?_, ?_, ?_⟩
      · rw [hstore]
        exact fun s hs => Option.some.inj hs ▸ hok
      · rw [hstore]
        exact hok
      · rw [hstore]
        exact fun _ _ => rfl
      · rw [hstore, hflight]
        exact fun c hc => ⟨hlive, hchange.awaited hc⟩
  | failed hrunning hchange hstore hlive hflight =>
      have hok := hchange.ok hsteady
      have hfault : x.2.store.faulted = true := by
        rcases hstore with hstore | hstore <;> rw [hstore]
      refine ⟨?_, ?_, fun _ hfaulted => ?_, fun c hc => ?_⟩
      · rcases hstore with hstore | hstore
        · rw [hstore]
          exact hsteady.file
        · rw [hstore]
          exact fun s hs => Option.some.inj hs ▸ hok
      · rcases hstore with hstore | hstore <;> rw [hstore] <;> exact hsteady.memory
      · rw [hfault] at hfaulted
        cases hfaulted
      · rw [hflight] at hc
        cases hc
  | resubmitted hrunning hfault hturn hrequest hgrant hprevious hpending hpayload hrevision hstore
      hlive hflight =>
      refine hsteady.of_store hstore (hlive.trans hrunning.symm) fun c hc => ?_
      rw [hflight] at hc
      obtain rfl := Option.some.inj hc
      exact ⟨hrunning, hfault, hprevious, hpending⟩
  | duplicate hrunning hfault hturn hrequest hprevious haccepted hstore hlive hflight =>
      refine hsteady.of_store hstore (hlive.trans hrunning.symm) fun c hc => ?_
      rw [hflight] at hc
      cases hc
  | ended hrunning hstore hlive hflight =>
      refine hsteady.of_store hstore (hlive.trans hrunning.symm) fun c hc => ?_
      rw [hflight] at hc
      cases hc

theorem steady_after (h : HexDigest) (is : List GrantInput) :
    Steady h ((grantWorld h).after is) := by
  refine (grantWorld h).invariant (E := fun _ => True) (I := fun _ => Steady h)
    (fun _ _ _ => trivial) ?_ (fun _ i _ hsteady => steady_step hsteady i) is trivial
  exact ⟨fun s hs => (by cases hs), ok_empty, fun hrunning => (by cases hrunning),
    fun c hc => (by cases hc)⟩

/-! ## Reloading -/

/-- `k` decimal digits of a number, the last one first. -/
def counterDigits : ℕ → ℕ → JsString
  | 0, _ => []
  | k + 1, n => UInt16.ofNat (48 + n % 10) :: counterDigits k (n / 10)

theorem length_counterDigits (k n : ℕ) : (counterDigits k n).length = k := by
  induction k generalizing n with
  | zero => rfl
  | succ k ih => rw [counterDigits, List.length_cons, ih]

theorem isLowerHex_digit : ∀ n < 10, isLowerHex (UInt16.ofNat (48 + n)) = true := by decide

theorem isLowerHex_counterDigits (k n : ℕ) : ∀ u ∈ counterDigits k n, isLowerHex u = true := by
  induction k generalizing n with
  | zero => exact fun _ hu => by cases hu
  | succ k ih =>
      intro u hu
      rcases List.mem_cons.mp hu with rfl | hu
      · exact isLowerHex_digit _ (Nat.mod_lt _ (by omega))
      · exact ih _ u hu

def counterPrefix : JsString := js "5f3c9a10-7b2e-4d61-9c08-"

theorem matchesUnits_append {ps qs : List (CodeUnit → Bool)} {s t : JsString}
    (hs : matchesUnits ps s = true) (ht : matchesUnits qs t = true) :
    matchesUnits (ps ++ qs) (s ++ t) = true := by
  induction ps generalizing s with
  | nil =>
      cases s with
      | nil => exact ht
      | cons u s => cases hs
  | cons p ps ih =>
      cases s with
      | nil => cases hs
      | cons u s =>
          rw [matchesUnits, Bool.and_eq_true] at hs
          rw [List.cons_append, List.cons_append, matchesUnits, hs.1, ih hs.2]
          rfl

theorem matchesUnits_replicate {p : CodeUnit → Bool} {s : JsString}
    (hs : ∀ u ∈ s, p u = true) : matchesUnits (List.replicate s.length p) s = true := by
  induction s with
  | nil => rfl
  | cons u s ih =>
      rw [List.length_cons, List.replicate_succ, matchesUnits, hs u List.mem_cons_self,
        ih fun v hv => hs v (List.mem_cons_of_mem _ hv)]
      rfl

theorem isUuid_counter (n : ℕ) : isUuid (counterPrefix ++ counterDigits 12 n) = true := by
  have hdigits := matchesUnits_replicate (p := isHex) (s := counterDigits 12 n) fun u hu => by
    rw [isHex, isLowerHex_counterDigits 12 n u hu, Bool.true_or]
  rw [length_counterDigits] at hdigits
  exact matchesUnits_append (by decide) hdigits

def counterUuid (n : ℕ) : Uuid := ⟨counterPrefix ++ counterDigits 12 n, isUuid_counter n⟩

def longId (c : Char) (length : ℕ) : JsString := List.replicate length (unit c)

theorem valid_longIdentity :
    (validId (oauthActor (longId 'a' 109) (longId 'b' 128)) && validId (longId 'a' 109) &&
      validId (longId 'b' 128) && validId (longId 'c' 128) && validId (longId 'd' 128)) = true := by
  decide +kernel

/-- The longest identifiers that a grant admits. -/
def longIdentity : GrantIdentity where
  actor := oauthActor (longId 'a' 109) (longId 'b' 128)
  clientId := longId 'a' 109
  sessionId := longId 'b' 128
  workspaceId := longId 'c' 128
  leadSessionId := longId 'd' 128
  valid := valid_longIdentity
  own := rfl

theorem safe_fillTime : (1000 : ℤ).natAbs < 2 ^ 53 := by decide

def fillTime : SafeInt := ⟨1000, safe_fillTime⟩

def fillTurn (n : ℕ) : TurnEnv := ⟨counterUuid n, fillTime, fillTime, .written⟩

theorem validActions_instruct : validActions [js "lead.instruct"] = true := by decide

def longGrant : Grant :=
  newGrant longIdentity ⟨[js "lead.instruct"], validActions_instruct⟩ (fillTurn maxDeliveries)

def instruction (n : ℕ) : Json :=
  .obj (longIdentity.members ++
    [(js "action", .str (js "lead.instruct")), (js "revision", .str longGrant.revision),
      (js "idempotencyKey", .str (counterUuid n).text), (js "payloadHash", .str (longId 'e' 64))])

end RemoteOps

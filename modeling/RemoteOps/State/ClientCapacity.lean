import RemoteOps.State.Durability

/-!
# The capacity for OAuth clients

`registerClient` drops the clients that were never used and are past their time, and
refuses when as many as the limit are left. A revoked client that is kept counts like any
other, so that its place is not free. No run stores more clients than the limit, which
makes the condition exact: a full table refuses rightly when it holds no revoked client.
-/

namespace RemoteOps

open Ecma Transition

/-- The clients that pruning leaves. -/
def keptClients (env : StoreEnv) (now : ℤ) (live : Live) : Record StoredClient :=
  (prunePendingClients env live now).1.clients

/-- The clients of a table that are not revoked. -/
def unrevokedClients (live : Live) (clients : Record StoredClient) : List StoredClient :=
  clients.values.filter fun c => !live.realm.isRevoked c.revokedAt

def RefusesClient (env : StoreEnv) (client : StoredClient) (now : ℤ) (live : Live) : Prop :=
  registerClient env client now live = .done false ∨
    ∃ live', registerClient env client now live = .persist live' false

/-- A new client is refused only if the limit is reached by clients that are not revoked. -/
def CapacityIsRecoverable (env : StoreEnv) (client : StoredClient) (now : ℤ) (live : Live) : Prop :=
  RefusesClient env client now live →
    env.oauthMaxClients ≤ (unrevokedClients live (keptClients env now live)).length

/-- The table is not full after pruning, or nothing in it is revoked. -/
def NoRevokedPlace (env : StoreEnv) (now : ℤ) (live : Live) : Prop :=
  (keptClients env now live).size < env.oauthMaxClients ∨
    ∀ c ∈ (keptClients env now live).values, live.realm.isRevoked c.revokedAt = false

theorem refusesClient_iff {env : StoreEnv} {client : StoredClient} {now : ℤ} {live : Live} :
    RefusesClient env client now live ↔ env.oauthMaxClients ≤ (keptClients env now live).size := by
  unfold RefusesClient registerClient
  dsimp only
  split_ifs with hfull hpruned
  · simp [keptClients, hfull]
  · simp [keptClients, hfull]
  · simp [keptClients, hfull]

/-- Pruning spares a client that has been used, whatever the time. -/
theorem keptClients_of_used {env : StoreEnv} {now : ℤ} {live : Live}
    (h : ∀ p ∈ live.state.clients.props, isSet p.2.lastSeenAt) :
    (keptClients env now live).props =
      live.state.clients.props := by
  apply List.filter_eq_self.mpr
  intro p hp
  simp [isPendingExpired, neverActivated, h p hp]

/-! ## The size of the table -/

section Size

variable {α : Type} {r : Record α}

theorem size_filter_le (r : Record α) (keep : JsString → α → Bool) :
    (r.filter keep).size ≤ r.size :=
  List.length_filter_le _ _

theorem size_map (r : Record α) (f : JsString → α → α) : (r.map f).size = r.size :=
  List.length_map _

theorem size_modify (r : Record α) (k : JsString) (f : α → α) : (r.modify k f).size = r.size :=
  size_map r _

theorem size_set_of_get? {k : JsString} {x : α} (h : r.get? k = some x) (y : α) :
    (r.set k y).size = r.size := by
  rw [Record.size_set, h]
  rfl

theorem size_set_le (r : Record α) (k : JsString) (x : α) : (r.set k x).size ≤ r.size + 1 := by
  rw [Record.size_set]
  split_ifs <;> omega

end Size

section Limit

variable {p : Platform} {upper : UpperCase} {env : PairingEnv}

/-- No more clients than the limit. -/
def WithinLimit (env : PairingEnv) (s : PersistentState) : Prop :=
  s.clients.size ≤ env.store.oauthMaxClients

theorem withinLimit_purged {live : Live} (now : ℤ) (h : WithinLimit env live.state) :
    WithinLimit env (purged env.store now live).1 :=
  (size_filter_le _ _).trans h

/-- Only a registration adds a client, and only below the limit. -/
theorem withinLimit_effect (c : Mutator) {live : Live} (h : WithinLimit env live.state) :
    WithinLimit env ((c.effect p upper env live).live live).state := by
  have hlimit : live.state.clients.size ≤ env.store.oauthMaxClients := h
  cases c with
  | registerClient client now =>
      simp only [Mutator.effect, Effect.live_void, registerClient]
      split_ifs with hfull hpruned
      · exact (size_filter_le _ _).trans h
      · exact h
      · have hset := size_set_le (prunePendingClients env.store live now).1.clients client.clientId
          client
        show ((prunePendingClients env.store live now).1.clients.set client.clientId client).size ≤ _
        omega
  | touchClient clientId now =>
      simp only [Mutator.effect, touchClient]
      split
      · exact h
      · next x hget =>
          split_ifs
          · exact h
          · exact (size_set_of_get? hget _).trans_le hlimit
  | revokeClient clientId now =>
      simp only [Mutator.effect, Effect.live_void, revokeClient]
      split
      · exact h
      · exact (size_modify _ _ _).trans_le hlimit
      · split
        · exact h
        · exact h
  | revokeAllClients now => exact (size_map _ _).trans_le hlimit
  | putAuthCode rawCode code => exact h
  | consumeAuthCode rawCode now =>
      simp only [Mutator.effect, Effect.live_void, consumeAuthCode]
      split <;> exact h
  | createSession session => exact h
  | rotateRefreshToken sessionId rawRefresh refreshExpiresAt accessExpiresAt now =>
      simp only [Mutator.effect, Effect.live_void, rotateRefreshToken]
      split
      · exact h
      · split_ifs <;> exact h
  | touchSession sessionId now =>
      simp only [Mutator.effect, touchSession]
      split
      · exact h
      · split_ifs
        · exact h
        · exact h
        · exact (size_modify _ _ _).trans_le hlimit
  | revokeSession sessionId now =>
      simp only [Mutator.effect, Effect.live_void, revokeSession]
      split
      · exact h
      · split_ifs <;> exact h
      · split_ifs
        · split <;> exact h
        · exact h
  | revokeAllSessions now => exact h
  | setTargetEnabled targetId enabled reason now => exact h
  | recordToolResult input now => exact h
  | recordTargetProbe target ok errorCode now => exact h
  | createPairing info draws now =>
      simp only [Mutator.effect, Effect.live_void, startPairing]
      split_ifs
      · exact h
      · exact h
      · split <;> exact h
  | approvePairingByCode code now =>
      simp only [Mutator.effect, Effect.live_void, approvePairingByCode]
      split <;> exact h
  | claimPairing pairingId pollToken draw now =>
      simp only [Mutator.effect, Effect.live_void, claimPairing]
      split
      · exact h
      · split_ifs
        · exact h
        · exact h
        · exact h
        · split <;> exact h
  | touchDeviceHeartbeat deviceId input now =>
      simp only [Mutator.effect, Effect.live_void, touchDeviceHeartbeat]
      split
      · exact h
      · split_ifs <;> exact h
  | revokeDevice deviceId now =>
      simp only [Mutator.effect, Effect.live_void, revokeDevice]
      split
      · exact h
      · split_ifs <;> exact h
      · split_ifs
        · split <;> exact h
        · exact h
  | purgeState now =>
      simp only [Mutator.effect, purgeState]
      split_ifs
      · exact withinLimit_purged now h
      · exact h

theorem withinLimit_base (c : Mutator) {live : Live} (h : WithinLimit env live.state) :
    WithinLimit env (c.base live).state := by
  cases c <;> exact h

/-- Memory and file stay within the limit. -/
theorem withinLimit_after (is : List StoreInput) :
    WithinLimit env ((stateStore p upper env).after is).live.state ∧
      WithinLimit env ((stateStore p upper env).after is).file := by
  refine (stateStore p upper env).invariant (prefixClosed_forall fun _ => True)
    (I := fun _ store => WithinLimit env store.live.state ∧ WithinLimit env store.file)
    ⟨Nat.zero_le _, Nat.zero_le _⟩ ?_ is (fun _ _ => trivial)
  intro is i _ h
  generalize (stateStore p upper env).after is = store at h ⊢
  cases i with
  | restart now => exact ⟨withinLimit_purged now h.2, h.2⟩
  | call c writes =>
      have hlive : WithinLimit env (c.run p upper env store writes).2.live.state := by
        rw [Mutator.run, Store.run_live]
        exact withinLimit_effect c (withinLimit_base c h.1)
      constructor
      · exact hlive
      · have hfile := Store.run_file { store with live := c.base store.live }
          (fun live => c.effect p upper env live) writes
        rcases hfile with hwritten | hkept
        · exact hwritten.symm ▸ hlive
        · exact hkept.symm ▸ h.2

end Limit

/-! ## Every run -/

theorem unrevoked_length_eq_iff {live : Live} {clients : Record StoredClient} :
    clients.size ≤ (unrevokedClients live clients).length ↔
      ∀ c ∈ clients.values, live.realm.isRevoked c.revokedAt = false := by
  have hlength : clients.size = clients.values.length := (List.length_map _).symm
  have hle : (unrevokedClients live clients).length ≤ clients.values.length :=
    List.length_filter_le _ _
  rw [hlength, hle.ge_iff_eq, unrevokedClients, List.length_filter_eq_length_iff]
  simp

theorem capacityIsRecoverable_iff (p : Platform) (upper : UpperCase) (env : PairingEnv)
    (is : List StoreInput) (client : StoredClient) (now : ℤ) :
    CapacityIsRecoverable env.store client now ((stateStore p upper env).after is).live ↔
      NoRevokedPlace env.store now ((stateStore p upper env).after is).live := by
  have hkept : (keptClients env.store now ((stateStore p upper env).after is).live).size ≤
      env.store.oauthMaxClients := (size_filter_le _ _).trans (withinLimit_after is).1
  generalize ((stateStore p upper env).after is).live = live at hkept ⊢
  rw [CapacityIsRecoverable, refusesClient_iff, NoRevokedPlace, ← unrevoked_length_eq_iff]
  constructor
  · intro h
    by_cases hfull : env.store.oauthMaxClients ≤ (keptClients env.store now live).size
    · exact Or.inr (hkept.trans (h hfull))
    · exact Or.inl (not_le.mp hfull)
  · intro h hfull
    exact hfull.trans (h.resolve_left (not_lt.mpr hfull))

/-! ## A client that is revoked -/

def singleClientEnv : PairingEnv := ⟨1, 5, 10, ⟨1, 24, 90⟩⟩

def registeredClient (clientId : JsString) (now : ℤ) : StoredClient :=
  ⟨clientId, none, [js "http://localhost/cb"], now, none, none⟩

/-- A client is registered, used and revoked. -/
def usedThenRevoked : List StoreInput :=
  [.call (.registerClient (registeredClient (js "ro-A") 1000) 1000) true,
    .call (.createSession ⟨js "sess-A", js "ro-A", 2000, 2000, 5000, js "h", 9000, none, none⟩) true,
    .call (.touchSession (js "sess-A") 70000) true,
    .call (.revokeClient (js "ro-A") 80000) true]

/-- No time frees the place of the revoked client. -/
theorem not_recoverable_usedThenRevoked (now : ℤ) :
    ¬CapacityIsRecoverable singleClientEnv.store (registeredClient (js "ro-B") now) now
      ((stateStore samplePlatform sampleUpper singleClientEnv).after usedThenRevoked).live := by
  intro h
  have hclients : ((stateStore samplePlatform sampleUpper singleClientEnv).after
      usedThenRevoked).live.state.clients.props =
        [(js "ro-A", ⟨js "ro-A", none, [js "http://localhost/cb"], 1000, some 70000,
          some 80000⟩)] := by
    decide +kernel
  generalize ((stateStore samplePlatform sampleUpper singleClientEnv).after
    usedThenRevoked).live = live at h hclients
  have hkept : (keptClients singleClientEnv.store now live).props =
      live.state.clients.props := by
    apply keptClients_of_used
    rw [hclients]
    exact List.forall_mem_singleton.mpr rfl
  have hfull : (keptClients singleClientEnv.store now live).size = 1 := by
    rw [Record.size, hkept, hclients]
    rfl
  have hnone : unrevokedClients live (keptClients singleClientEnv.store now live) = [] := by
    rw [unrevokedClients, Record.values, hkept, hclients]
    rfl
  have hroom := h (refusesClient_iff.mpr hfull.ge)
  rw [hnone] at hroom
  exact absurd hroom (by decide)

/-- A year later the place is still taken. -/
theorem revokedClient_keepsPlace :
    ¬CapacityIsRecoverable singleClientEnv.store (registeredClient (js "ro-B") 31536000000)
      31536000000
      ((stateStore samplePlatform sampleUpper singleClientEnv).after usedThenRevoked).live :=
  not_recoverable_usedThenRevoked _

end RemoteOps

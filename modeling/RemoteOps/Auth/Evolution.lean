import RemoteOps.Auth.OAuth

/-!
# What a step may do to the tables

`Evolves p env i s s'` bounds the difference between two contents of the store
when the input `i` is answered: a session keeps its client and stays revoked, a
refresh hash changes only to that of a token just drawn, a client stays revoked,
and new entries stand under names just drawn. Memory and file are two such
contents, and each is, after a step, what one of them evolved into
(`moves_step`). A restart is the step in which memory evolves from the file.

A fact about contents that `Evolves` keeps is therefore kept by every run, in
memory and in the file at once (`Moves.both`).
-/

namespace RemoteOps

open Ecma Transition

/-! ## Generated names -/

theorem unit_notMem_of_isInherited {k : JsString} (hk : IsInherited k) : unit '-' ∉ k := by
  have hmethods : ∀ m ∈ prototypeMethods, unit '-' ∉ m := by decide
  rcases hk with rfl | hk | rfl
  · decide
  · exact hmethods k hk
  · decide

theorem not_isInherited_randomId (kind : String) (r : RandomText) :
    ¬IsInherited (randomId kind r) := by
  intro h
  refine unit_notMem_of_isInherited h ?_
  have : unit '-' ∈ js "-" := by decide
  simp [randomId, this]

theorem isAscii_randomId {kind : String} (hkind : (js kind).all isAscii = true) (r : RandomText) :
    ∀ u ∈ randomId kind r, isAscii u = true := by
  intro u hu
  simp only [randomId, List.mem_append] at hu
  rcases hu with (hu | hu) | hu
  · exact List.all_eq_true.mp hkind u hu
  · have hdash : ∀ v ∈ js "-", isAscii v = true := List.all_eq_true.mp (by decide)
    exact hdash u hu
  · exact isAscii_of_isBase64url (r.isBase64url u hu)

theorem notMem_randomId {kind : String} {u : CodeUnit} (hkind : u ∉ js kind)
    (hu : isBase64url u = false) (r : RandomText) : u ∉ randomId kind r := by
  intro h
  simp only [randomId, List.mem_append] at h
  rcases h with (h | h) | h
  · exact hkind h
  · have hdash : ∀ v ∈ js "-", isBase64url v = true := List.all_eq_true.mp (by decide)
    exact absurd (hdash u h) (by simp [hu])
  · exact absurd (r.isBase64url u h) (by simp [hu])

/-- The names an input draws are ASCII and no inherited keys. -/
theorem OAuthInput.names_spec {i : OAuthInput} {n : JsString} (hn : n ∈ i.names) :
    ¬IsInherited n ∧ ∀ u ∈ n, isAscii u = true := by
  cases i with
  | register input =>
      rw [List.mem_singleton.mp hn]
      exact ⟨not_isInherited_randomId _ _, isAscii_randomId (by decide) _⟩
  | submit input =>
      rw [List.mem_singleton.mp hn]
      exact ⟨not_isInherited_randomId _ _, isAscii_randomId (by decide) _⟩
  | token input =>
      simp only [names, List.mem_cons, List.not_mem_nil, or_false] at hn
      rcases hn with rfl | rfl
      · exact ⟨not_isInherited_randomId _ _, isAscii_randomId (by decide) _⟩
      · exact ⟨not_isInherited_randomId _ _, isAscii_randomId (by decide) _⟩
  | _ => simp [names] at hn

theorem OAuthInput.eq_of_digest {p : Platform} (hp : p.CollisionFree) {i : OAuthInput}
    {n m : JsString} (hn : n ∈ i.names) (h : p.digest n = p.digest m) : n = m :=
  eq_of_toChars_eq (OAuthInput.names_spec hn).2 (hp.toChars_eq h)

/-! ## Evolution of the tables -/

/-- If the input revokes, it does so at a time that counts as set. -/
def OAuthInput.Positive (i : OAuthInput) : Prop := ∀ t ∈ i.revocationTime, 0 < t

/-- A session that was there before. -/
structure SessionKept (p : Platform) (i : OAuthInput) (x x' : StoredSession) : Prop where
  sessionId : x'.sessionId = x.sessionId
  clientId : x'.clientId = x.clientId
  revoked : i.Positive → isSet x.revokedAt = true → isSet x'.revokedAt = true
  refresh : x'.refreshHash = x.refreshHash ∨ ∃ n ∈ i.names, x'.refreshHash = p.digest n

/-- A session that an authorization code of the same client has been traded for. -/
structure SessionCreated (p : Platform) (i : OAuthInput) (s : PersistentState) (k : JsString)
    (x' : StoredSession) : Prop where
  drawn : k ∈ i.names
  sessionId : x'.sessionId = k
  refresh : ∃ n ∈ i.names, x'.refreshHash = p.digest n
  code : ∃ h code, s.authCodes.get? h = some code ∧ x'.clientId = code.clientId

structure ClientKept (i : OAuthInput) (c c' : StoredClient) : Prop where
  clientId : c'.clientId = c.clientId
  revoked : i.Positive → isSet c.revokedAt = true → isSet c'.revokedAt = true

/-- A code that a granted authorization has stored. -/
def CodeStored (p : Platform) (env : OAuthEnv) (i : OAuthInput) (s : PersistentState)
    (h : JsString) (code : StoredAuthCode) : Prop :=
  ∃ input client, i = .submit input ∧ s.clients.get? input.clientId = some client ∧
    h = p.digest (randomId "code" input.code) ∧
      code = { input.authCode env client with codeHash := h }

structure Evolves (p : Platform) (env : OAuthEnv) (i : OAuthInput) (s s' : PersistentState) :
    Prop where
  sessions : ∀ k x', s'.sessions.get? k = some x' →
    (∃ x, s.sessions.get? k = some x ∧ SessionKept p i x x') ∨ SessionCreated p i s k x'
  clients : ∀ k c', s'.clients.get? k = some c' →
    (∃ c, s.clients.get? k = some c ∧ ClientKept i c c') ∨ k ∈ i.names ∧ c'.clientId = k
  codes : ∀ h code, s'.authCodes.get? h = some code →
    s.authCodes.get? h = some code ∨ CodeStored p env i s h code
  /-- at most one session gets a refresh token -/
  single : ∃ k₀, ∀ k x', s'.sessions.get? k = some x' → k ≠ k₀ →
    ∃ x, s.sessions.get? k = some x ∧ x'.refreshHash = x.refreshHash

section Evolution

variable {p : Platform} {env : OAuthEnv} {i : OAuthInput} {s s' : PersistentState}

theorem SessionKept.refl (x : StoredSession) : SessionKept p i x x :=
  ⟨rfl, rfl, fun _ h => h, Or.inl rfl⟩

theorem ClientKept.refl (c : StoredClient) : ClientKept i c c := ⟨rfl, fun _ h => h⟩

/-- Entries are only dropped. -/
theorem Evolves.of_subset
    (hsessions : ∀ k x, s'.sessions.get? k = some x → s.sessions.get? k = some x)
    (hclients : ∀ k c, s'.clients.get? k = some c → s.clients.get? k = some c)
    (hcodes : ∀ h code, s'.authCodes.get? h = some code → s.authCodes.get? h = some code) :
    Evolves p env i s s' where
  sessions k x hx := Or.inl ⟨x, hsessions k x hx, SessionKept.refl x⟩
  clients k c hc := Or.inl ⟨c, hclients k c hc, ClientKept.refl c⟩
  codes _ _ hcode := Or.inl (hcodes _ _ hcode)
  single := ⟨[], fun k x hx _ => ⟨x, hsessions k x hx, rfl⟩⟩

theorem Evolves.refl (s : PersistentState) : Evolves p env i s s :=
  Evolves.of_subset (fun _ _ h => h) (fun _ _ h => h) fun _ _ h => h

/-- Sessions are rewritten without a new refresh token. -/
theorem Evolves.of_kept_sessions {clients : Record StoredClient} {sessions : Record StoredSession}
    (hclients : ∀ k c', clients.get? k = some c' →
      ∃ c, s.clients.get? k = some c ∧ ClientKept i c c')
    (hsessions : ∀ k x', sessions.get? k = some x' →
      ∃ x, s.sessions.get? k = some x ∧ SessionKept p i x x' ∧ x'.refreshHash = x.refreshHash) :
    Evolves p env i s { s with clients := clients, sessions := sessions } where
  sessions k x' hx' := by
    obtain ⟨x, hx, hkept, -⟩ := hsessions k x' hx'
    exact Or.inl ⟨x, hx, hkept⟩
  clients k c' hc' := Or.inl (hclients k c' hc')
  codes _ _ hcode := Or.inl hcode
  single := by
    refine ⟨[], fun k x' hx' _ => ?_⟩
    obtain ⟨x, hx, -, hsame⟩ := hsessions k x' hx'
    exact ⟨x, hx, hsame⟩

end Evolution

/-! ## The operations -/

section Operations

variable {p : Platform} {env : OAuthEnv} {i : OAuthInput} {live live' : Live}

/-- Whatever the operation writes, it has evolved from memory. -/
def OpEvolves {α : Type} (p : Platform) (env : OAuthEnv) (i : OAuthInput) (live : Live)
    (op : Live → Effect α) : Prop :=
  ∀ live' x, op live = .persist live' x → Evolves p env i live.state live'.state

theorem isSet_of_pos {t : ℤ} (h : 0 < t) : isSet (some t) = true := by
  simp [isSet]
  omega

theorem evolves_prunePendingClients (storeEnv : StoreEnv) (now : ℤ) :
    Evolves p env i live.state (prunePendingClients storeEnv live now).1 :=
  Evolves.of_subset (fun _ _ h => h) (fun _ _ h => (Record.get?_of_get?_filter h).1)
    fun _ _ h => h

theorem evolves_purged (storeEnv : StoreEnv) (now : ℤ) :
    Evolves p env i live.state (purged storeEnv now live).1 :=
  Evolves.of_subset (fun _ _ h => (Record.get?_of_get?_filter h).1)
    (fun _ _ h => (Record.get?_of_get?_filter h).1)
    fun _ _ h => (Record.get?_of_get?_filter h).1

theorem opEvolves_purgeState (storeEnv : StoreEnv) (now : ℤ) :
    OpEvolves p env i live (purgeState storeEnv now) := by
  intro live' x h
  rw [purgeState] at h
  dsimp only at h
  split at h
  · obtain ⟨rfl, -⟩ := Effect.persist.inj h
    exact evolves_purged storeEnv now
  · cases h

theorem opEvolves_registerClient (storeEnv : StoreEnv) {client : StoredClient} {now : ℤ}
    (hclient : client.clientId ∈ i.names) :
    OpEvolves p env i live (registerClient storeEnv client now) := by
  intro live' x h
  rw [registerClient] at h
  dsimp only at h
  split at h
  · split at h
    · obtain ⟨rfl, -⟩ := Effect.persist.inj h
      exact evolves_prunePendingClients storeEnv now
    · cases h
  · obtain ⟨rfl, -⟩ := Effect.persist.inj h
    have hpruned : Evolves p env i live.state (prunePendingClients storeEnv live now).1 :=
      evolves_prunePendingClients storeEnv now
    refine ⟨hpruned.sessions, ?_, hpruned.codes, hpruned.single⟩
    intro k c hc
    dsimp only at hc
    rw [Record.get?_set] at hc
    split_ifs at hc with hk
    · obtain rfl := Option.some.inj hc
      rw [hk]
      exact Or.inr ⟨hclient, rfl⟩
    · exact hpruned.clients k c hc

theorem sessionKept_revoke {now : ℤ} (hnow : i.revocationTime = some now) (x : StoredSession) :
    SessionKept p i x { x with revokedAt := some now } :=
  ⟨rfl, rfl, fun hpos _ => isSet_of_pos (hpos now hnow), Or.inl rfl⟩

theorem revokeSessionsWhere_kept (realm : Realm) (test : StoredSession → Bool) {now : ℤ}
    (hnow : i.revocationTime = some now) {sessions : Record StoredSession} {k : JsString}
    {x' : StoredSession} (h : (revokeSessionsWhere realm test now sessions).get? k = some x') :
    ∃ x, sessions.get? k = some x ∧ SessionKept p i x x' ∧ x'.refreshHash = x.refreshHash := by
  rw [revokeSessionsWhere, Record.get?_map, Option.map_eq_some_iff] at h
  obtain ⟨x, hx, rfl⟩ := h
  refine ⟨x, hx, ?_⟩
  split_ifs
  · exact ⟨sessionKept_revoke hnow x, rfl⟩
  · exact ⟨SessionKept.refl x, rfl⟩

theorem opEvolves_revokeClient (clientId : JsString) {now : ℤ}
    (hnow : i.revocationTime = some now) :
    OpEvolves p env i live (revokeClient clientId now) := by
  intro live' x h
  rw [revokeClient] at h
  dsimp only at h
  split at h
  · cases h
  · obtain ⟨rfl, -⟩ := Effect.persist.inj h
    refine Evolves.of_kept_sessions ?_ fun k x hx => revokeSessionsWhere_kept _ _ hnow hx
    intro k c' hc
    rw [Record.get?_modify] at hc
    split_ifs at hc
    · obtain ⟨c, hold, rfl⟩ := Option.map_eq_some_iff.mp hc
      exact ⟨c, hold, rfl, fun hpos _ => isSet_of_pos (hpos now hnow)⟩
    · exact ⟨c', hc, ClientKept.refl c'⟩
  · split at h
    · cases h
    · obtain ⟨rfl, -⟩ := Effect.persist.inj h
      exact Evolves.of_kept_sessions (fun k c hc => ⟨c, hc, ClientKept.refl c⟩)
        fun k x hx => revokeSessionsWhere_kept _ _ hnow hx

theorem opEvolves_revokeAllClients {now : ℤ} (hnow : i.revocationTime = some now) :
    OpEvolves p env i live (revokeAllClients now) := by
  intro live' x h
  obtain ⟨rfl, -⟩ := Effect.persist.inj h
  refine Evolves.of_kept_sessions ?_ fun k x hx => revokeSessionsWhere_kept _ _ hnow hx
  intro k c' hc
  rw [Record.get?_map] at hc
  obtain ⟨c, hold, rfl⟩ := Option.map_eq_some_iff.mp hc
  refine ⟨c, hold, ?_⟩
  split_ifs
  · exact ⟨rfl, fun hpos _ => isSet_of_pos (hpos now hnow)⟩
  · exact ClientKept.refl c

theorem opEvolves_revokeAllSessions {now : ℤ} (hnow : i.revocationTime = some now) :
    OpEvolves p env i live (revokeAllSessions now) := by
  intro live' x h
  obtain ⟨rfl, -⟩ := Effect.persist.inj h
  exact Evolves.of_kept_sessions (fun k c hc => ⟨c, hc, ClientKept.refl c⟩)
    fun k x hx => revokeSessionsWhere_kept _ _ hnow hx

/-- A session is overwritten in place. -/
theorem evolves_set_session {k : JsString} {x x' : StoredSession}
    (hx : live.state.sessions.get? k = some x) (hkept : SessionKept p i x x') :
    Evolves p env i live.state
      { live.state with sessions := live.state.sessions.set k x' } where
  sessions k' y hy := by
    dsimp only at hy
    rw [Record.get?_set] at hy
    left
    split_ifs at hy with hk
    · obtain rfl := Option.some.inj hy
      exact ⟨x, hk ▸ hx, hkept⟩
    · exact ⟨y, hy, SessionKept.refl y⟩
  clients k' c hc := Or.inl ⟨c, hc, ClientKept.refl c⟩
  codes _ _ hcode := Or.inl hcode
  single := by
    refine ⟨k, fun k' y hy hk => ?_⟩
    dsimp only at hy
    rw [Record.get?_set_of_ne _ _ hk] at hy
    exact ⟨y, hy, rfl⟩

theorem opEvolves_revokeSession (sessionId : JsString) {now : ℤ}
    (hnow : i.revocationTime = some now) :
    OpEvolves p env i live (revokeSession sessionId now) := by
  intro live' x h
  rw [revokeSession] at h
  split at h
  · cases h
  · rename_i session hslot
    have hsession := Realm.get?_of_slot_eq_own hslot
    split at h
    · obtain ⟨rfl, -⟩ := Effect.persist.inj h
      exact evolves_set_session hsession (sessionKept_revoke hnow session)
    · obtain ⟨rfl, -⟩ := Effect.persist.inj h
      exact Evolves.refl _
  · split at h
    · split at h
      · cases h
      · obtain ⟨rfl, -⟩ := Effect.persist.inj h
        exact Evolves.refl _
    · obtain ⟨rfl, -⟩ := Effect.persist.inj h
      exact Evolves.refl _

theorem opEvolves_revokeDevice (deviceId : JsString) (now : ℤ) :
    OpEvolves p env i live (revokeDevice deviceId now) := by
  intro live' x h
  rw [revokeDevice] at h
  have hsame : live'.state.sessions = live.state.sessions ∧
      live'.state.clients = live.state.clients ∧
        live'.state.authCodes = live.state.authCodes := by
    split at h
    · cases h
    · split at h
      · obtain ⟨rfl, -⟩ := Effect.persist.inj h
        exact ⟨rfl, rfl, rfl⟩
      · obtain ⟨rfl, -⟩ := Effect.persist.inj h
        exact ⟨rfl, rfl, rfl⟩
    · split at h
      · split at h
        · cases h
        · obtain ⟨rfl, -⟩ := Effect.persist.inj h
          exact ⟨rfl, rfl, rfl⟩
      · obtain ⟨rfl, -⟩ := Effect.persist.inj h
        exact ⟨rfl, rfl, rfl⟩
  obtain ⟨hsessions, hclients, hcodes⟩ := hsame
  refine Evolves.of_subset ?_ ?_ ?_
  · rw [hsessions]
    exact fun _ _ h => h
  · rw [hclients]
    exact fun _ _ h => h
  · rw [hcodes]
    exact fun _ _ h => h

theorem opEvolves_touchSession (sessionId : JsString) (now : ℤ) :
    OpEvolves p env i live (touchSession sessionId now) := by
  intro live' x h
  rw [touchSession] at h
  split at h
  · cases h
  · rename_i session hsession
    split_ifs at h
    obtain ⟨rfl, -⟩ := Effect.persist.inj h
    have hkept : SessionKept p i session { session with lastSeenAt := now } :=
      ⟨rfl, rfl, fun _ h => h, Or.inl rfl⟩
    have hset : Evolves p env i live.state _ := evolves_set_session hsession hkept
    refine ⟨hset.sessions, ?_, hset.codes, hset.single⟩
    intro k c' hc
    dsimp only at hc
    rw [Record.get?_modify] at hc
    left
    split_ifs at hc
    · obtain ⟨c, hold, rfl⟩ := Option.map_eq_some_iff.mp hc
      refine ⟨c, hold, ?_⟩
      split_ifs
      · exact ⟨rfl, fun _ h => h⟩
      · exact ClientKept.refl c
    · exact ⟨c', hc, ClientKept.refl c'⟩

/-! ## One step -/

/-- Memory and file after a step have each evolved from memory or file. -/
structure Moves (p : Platform) (env : OAuthEnv) (i : OAuthInput) (t t' : Store) : Prop where
  memory : Evolves p env i t.live.state t'.live.state ∨ Evolves p env i t.file t'.live.state
  file : Evolves p env i t.live.state t'.file ∨ Evolves p env i t.file t'.file

/-- What evolution keeps, a step keeps in memory and file. -/
theorem Moves.both {t t' : Store} (h : Moves p env i t t') {P Q : PersistentState → Prop}
    (hstep : ∀ s s', Evolves p env i s s' → P s → Q s')
    (hP : P t.live.state ∧ P t.file) : Q t'.live.state ∧ Q t'.file :=
  ⟨h.memory.elim (fun he => hstep _ _ he hP.1) fun he => hstep _ _ he hP.2,
    h.file.elim (fun he => hstep _ _ he hP.1) fun he => hstep _ _ he hP.2⟩

theorem Moves.refl (t : Store) : Moves p env i t t :=
  ⟨Or.inl (Evolves.refl _), Or.inr (Evolves.refl _)⟩

/-- How a call of the store that returned has ended. -/
theorem Store.run_eq_ok {α : Type} {store store' : Store} {op : Live → Effect α} {writes : Bool}
    {x : α} (h : store.run op writes = (.ok x, store')) :
    op store.live = .done x ∧ store' = store ∨
      ∃ live', op store.live = .persist live' x ∧ store' = ⟨live', live'.state⟩ := by
  rw [Store.run] at h
  split at h
  · rename_i y hop
    obtain ⟨hx, hstore⟩ := Prod.mk.inj h
    rw [hop, Except.ok.inj hx]
    exact Or.inl ⟨rfl, hstore.symm⟩
  · cases h
  · rename_i live' y hop
    split_ifs at h
    · obtain ⟨hx, hstore⟩ := Prod.mk.inj h
      rw [hop, Except.ok.inj hx]
      exact Or.inr ⟨live', rfl, hstore.symm⟩
    · cases h

/-- A call of the store that threw has changed memory at most. -/
theorem Store.run_eq_error {α : Type} {store store' : Store} {op : Live → Effect α}
    {writes : Bool} {e : JsString} (h : store.run op writes = (.error e, store')) :
    store' = store ∨
      ∃ live' x, op store.live = .persist live' x ∧ store' = ⟨live', store.file⟩ := by
  rw [Store.run] at h
  split at h
  · cases h
  · exact Or.inl (Prod.mk.inj h).2.symm
  · rename_i live' x hop
    split_ifs at h
    · cases h
    · exact Or.inr ⟨live', x, hop, (Prod.mk.inj h).2.symm⟩

theorem moves_run {α : Type} {store : Store} {op : Live → Effect α}
    (hop : OpEvolves p env i store.live op) (writes : Bool) :
    Moves p env i store (store.run op writes).2 := by
  cases hrun : store.run op writes with
  | mk result store' =>
      cases result with
      | ok x =>
          rcases Store.run_eq_ok hrun with ⟨-, rfl⟩ | ⟨live', heffect, rfl⟩
          · exact Moves.refl _
          · exact ⟨Or.inl (hop _ _ heffect), Or.inl (hop _ _ heffect)⟩
      | error e =>
          rcases Store.run_eq_error hrun with rfl | ⟨live', x, heffect, rfl⟩
          · exact Moves.refl _
          · exact ⟨Or.inl (hop _ _ heffect), Or.inr (Evolves.refl _)⟩

theorem moves_call {α : Type} {store : Store} {op : Live → Effect α}
    (hop : OpEvolves p env i store.live op) (writes : Bool) (reply : α → OAuthReply) :
    Moves p env i store (store.call op writes reply).2 := by
  have hrun := moves_run hop writes
  rw [Store.call]
  split
  · rename_i heq
    rw [heq] at hrun
    exact hrun
  · rename_i heq
    rw [heq] at hrun
    exact hrun

end Operations

end RemoteOps

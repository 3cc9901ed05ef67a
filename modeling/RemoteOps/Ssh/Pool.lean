import Mathlib.Algebra.Order.Group.Int
import Mathlib.Data.List.GetD
import RemoteOps.Transition.Machine

/-!
# The pool of SSH connections

`ensureConnected` looks a target up in `pools`, opens a client when nothing is
recorded, and records it only when the promise of its connection has been awaited.
The handlers of a client delete the entry of the target, whoever it belongs to. Two
connections of one target that live side by side therefore lose each other: the second
entry overwrites the first, and the close of the first client deletes the second.

The pool is tight in the runs in which a client of a target is begun only when the
earlier ones have closed, and `closeTargetPool` is called only when no connection is on
its way (`poolIsTight_of_orderly`).
-/

namespace RemoteOps

open Transition

variable {τ : Type*}

/-! ## Model -/

/-- The promise `ready` of a client, and the `then` that records it. -/
inductive ConnectPromise where
  | pending
  /-- resolved, and `pools.set` has not run -/
  | resolved
  | rejected
  | recorded
  deriving DecidableEq

/-- The connection of a client: it is down from the call of `end()`, from the error that
destroys the socket or from the close. -/
inductive SshLink where
  | connecting
  | «open»
  | down
  deriving DecidableEq

/-- A client as `ensureConnected` builds it, with its timer and its listeners. -/
structure SshClient (τ : Type*) where
  target : τ
  promise : ConnectPromise := .pending
  timer : Bool := true
  /-- `once("error")` is still registered -/
  errorListener : Bool := true
  link : SshLink := .connecting
  /-- `close` has been emitted; nothing follows it -/
  closed : Bool := false
  deriving DecidableEq

structure Pooled where
  client : ℕ
  lastUsed : ℤ
  deriving DecidableEq

/-- The clients, numbered as they are built, and the entries of `pools`. -/
structure PoolState (τ : Type*) where
  clients : List (SshClient τ) := []
  pools : τ → Option Pooled := fun _ => none

inductive PoolInput (τ : Type*) where
  /-- `ensureConnected` of a call that has its slot. With `starts = false` the key cannot
  be loaded or `connect` throws. -/
  | ensureConnected (target : τ) (now : ℤ) (starts : Bool)
  | ready (client : ℕ)
  /-- the `then` of a resolved promise -/
  | settle (client : ℕ) (now : ℤ)
  | error (client : ℕ)
  | close (client : ℕ)
  | timeout (client : ℕ)
  | closeTargetPool (target : τ)
  | closeAllPools
  | sweep (now : ℤ)
  deriving DecidableEq

/-- The client whose event the input is. -/
def PoolInput.emitter : PoolInput τ → Option ℕ
  | .ready c | .settle c _ | .error c | .close c | .timeout c => some c
  | _ => none

namespace ConnectPromise

def resolve : ConnectPromise → ConnectPromise
  | .pending => .resolved
  | p => p

def reject : ConnectPromise → ConnectPromise
  | .pending => .rejected
  | p => p

theorem eq_of_reject_resolved {p : ConnectPromise} (h : p.reject = .resolved) :
    p = .resolved := by
  cases p with
  | pending => exact ConnectPromise.noConfusion h
  | resolved => rfl
  | rejected => exact ConnectPromise.noConfusion h
  | recorded => exact ConnectPromise.noConfusion h

end ConnectPromise

namespace SshClient

/-- `clearTimeout(timer); resolve()`. -/
def onReady (c : SshClient τ) : SshClient τ :=
  { c with link := .open, timer := false, promise := c.promise.resolve }

/-- `clearTimeout(timer)` and `reject`, after the deletion of the entry. -/
def onError (c : SshClient τ) : SshClient τ :=
  { c with link := .down, timer := false, errorListener := false, promise := c.promise.reject }

def onClose (c : SshClient τ) : SshClient τ := { c with link := .down, closed := true }

/-- `client.end(); reject(...)`. -/
def onTimeout (c : SshClient τ) : SshClient τ :=
  { c with link := .down, timer := false, promise := c.promise.reject }

def onSettle (c : SshClient τ) : SshClient τ := { c with promise := .recorded }

/-- `client.end()`. -/
def ended (c : SshClient τ) : SshClient τ := { c with link := .down }

/-- Its promise is not settled, or not recorded yet. -/
def Attempting (c : SshClient τ) : Prop := c.promise = .pending ∨ c.promise = .resolved

instance (c : SshClient τ) : Decidable c.Attempting :=
  inferInstanceAs (Decidable (_ ∨ _))

end SshClient

/-! ## What one client can become -/

namespace SshClient

/-- A connection on its way is awaited, and a closed client is down. -/
structure Sane (c : SshClient τ) : Prop where
  connecting : c.link = .connecting → c.promise = .pending
  closed : c.closed → c.link = .down

/-- What no event of a client undoes. -/
structure Move (c d : SshClient τ) : Prop where
  target : d.target = c.target
  closed : c.closed → d.closed
  recorded : c.promise = .recorded → d.promise = .recorded
  connecting : d.link = .connecting → c.link = .connecting
  resolved : d.promise = .resolved →
    c.promise = .resolved ∨ c.link = .connecting ∧ c.closed = false
  sane : c.Sane → d.Sane

variable {c : SshClient τ}

theorem Move.refl (c : SshClient τ) : c.Move c :=
  ⟨rfl, id, id, id, Or.inl, id⟩

theorem Move.not_resolved {d : SshClient τ} (h : c.Move d) (hresolved : c.promise ≠ .resolved)
    (hlink : c.link ≠ .connecting) : d.promise ≠ .resolved := by
  intro hd
  rcases h.resolved hd with hc | ⟨hc, -⟩
  · exact hresolved hc
  · exact hlink hc

theorem move_onReady (hclosed : c.closed = false) (hlink : c.link = .connecting) :
    c.Move c.onReady := by
  constructor
  · rfl
  · exact id
  · intro h
    simp [onReady, h, ConnectPromise.resolve]
  · exact fun h => SshLink.noConfusion h
  · exact fun _ => .inr ⟨hlink, hclosed⟩
  · exact fun _ => ⟨fun h => SshLink.noConfusion h, fun h => by simp [onReady, hclosed] at h⟩

theorem move_onSettle (hresolved : c.promise = .resolved) : c.Move c.onSettle := by
  constructor
  · rfl
  · exact id
  · exact fun _ => rfl
  · exact id
  · exact fun _ => .inl hresolved
  · intro h
    refine ⟨fun hlink => ?_, h.closed⟩
    have hpending := h.connecting hlink
    rw [hresolved] at hpending
    exact ConnectPromise.noConfusion hpending

/-- A client that goes down, whatever becomes of its promise and its listeners. -/
theorem move_down {d : SshClient τ} (htarget : d.target = c.target)
    (hclosed : c.closed → d.closed)
    (hpromise : d.promise = c.promise ∨ d.promise = c.promise.reject) (hlink : d.link = .down) :
    c.Move d := by
  constructor
  · exact htarget
  · exact hclosed
  · intro h
    rcases hpromise with hp | hp
    · rw [hp, h]
    · rw [hp, h]
      rfl
  · exact fun h => SshLink.noConfusion (hlink.symm.trans h)
  · intro h
    rcases hpromise with hp | hp
    · exact .inl (hp ▸ h)
    · exact .inl (ConnectPromise.eq_of_reject_resolved (hp.symm.trans h))
  · exact fun _ => ⟨fun h => by simp [hlink] at h, fun _ => hlink⟩

theorem onReady_resolved (h : c.Sane) (hlink : c.link = .connecting) :
    c.onReady.promise = .resolved := by
  simp [onReady, h.connecting hlink, ConnectPromise.resolve]

end SshClient

/-! ## The pool -/

namespace PoolState

def update (s : PoolState τ) (c : ℕ) (f : SshClient τ → SshClient τ) : PoolState τ :=
  { s with clients := s.clients.modify c f }

/-- An event handler of a client that can still emit the event. -/
def handle (s : PoolState τ) (c : ℕ) (emits : SshClient τ → Bool)
    (f : SshClient τ → PoolState τ → PoolState τ) : PoolState τ :=
  match s.clients[c]? with
  | none => s
  | some client => if emits client then f client s else s

/-- A handler that runs does so for a client that could emit the event. -/
theorem handle_cases (s : PoolState τ) (n : ℕ) (emits : SshClient τ → Bool)
    (f : SshClient τ → PoolState τ → PoolState τ) :
    s.handle n emits f = s ∨
      ∃ c, s.clients[n]? = some c ∧ emits c ∧ s.handle n emits f = f c s := by
  unfold handle
  cases hc : s.clients[n]? with
  | none => exact .inl rfl
  | some c =>
      by_cases hemits : emits c
      · exact .inr ⟨c, rfl, hemits, if_pos hemits⟩
      · exact .inl (if_neg hemits)

theorem handle_of_emits {s : PoolState τ} {n : ℕ} {c : SshClient τ} (hc : s.clients[n]? = some c)
    {emits : SshClient τ → Bool} (hemits : emits c)
    (f : SshClient τ → PoolState τ → PoolState τ) : s.handle n emits f = f c s := by
  rw [handle, hc]
  exact if_pos hemits

/-- The loops over `pools` that end the client of an entry and delete the entry. -/
def drop (s : PoolState τ) (test : τ → Pooled → Bool) : PoolState τ where
  clients := s.clients.mapIdx fun n c =>
    if (s.pools c.target).any (fun e => e.client == n && test c.target e) then c.ended else c
  pools t := (s.pools t).filter fun e => !test t e

variable [DecidableEq τ]

/-- `pools.set` and `pools.delete`. -/
def setEntry (s : PoolState τ) (t : τ) (entry : Option Pooled) : PoolState τ :=
  { s with pools := Function.update s.pools t entry }

@[simp] theorem setEntry_clients (s : PoolState τ) (t : τ) (entry : Option Pooled) :
    (s.setEntry t entry).clients = s.clients := rfl

@[simp] theorem setEntry_pools_self (s : PoolState τ) (t : τ) (entry : Option Pooled) :
    (s.setEntry t entry).pools t = entry :=
  Function.update_self ..

theorem setEntry_pools_of_ne (s : PoolState τ) {t u : τ} (hu : u ≠ t) (entry : Option Pooled) :
    (s.setEntry t entry).pools u = s.pools u :=
  Function.update_of_ne hu ..

/-- `ensureConnected`; the answer is the client that the command will run on. -/
def ensureConnected (s : PoolState τ) (t : τ) (now : ℤ) (starts : Bool) :
    Option ℕ × PoolState τ :=
  match s.pools t with
  | some existing => (some existing.client, s.setEntry t (some { existing with lastUsed := now }))
  | none =>
      if starts then
        (some s.clients.length, { s with clients := s.clients ++ [{ target := t }] })
      else (none, s)

def closeTargetPool (s : PoolState τ) (target : τ) : PoolState τ :=
  s.drop fun t _ => decide (t = target)

def closeAllPools (s : PoolState τ) : PoolState τ := s.drop fun _ _ => true

/-- A tick of `startIdleSweeper`. -/
def sweep (s : PoolState τ) (now : ℤ) : PoolState τ :=
  s.drop fun _ e => decide (5 * 60000 < now - e.lastUsed)

end PoolState

section Run

variable [DecidableEq τ]

def PoolInput.step (s : PoolState τ) : PoolInput τ → Option ℕ × PoolState τ
  | .ensureConnected t now starts => s.ensureConnected t now starts
  | .ready c => (none, s.handle c (fun client => !client.closed && client.link = .connecting)
      fun _ s => s.update c .onReady)
  | .settle c now => (none, s.handle c (fun client => client.promise = .resolved)
      fun client s => (s.update c .onSettle).setEntry client.target (some ⟨c, now⟩))
  | .error c => (none, s.handle c (fun client => !client.closed && client.errorListener)
      fun client s => (s.update c .onError).setEntry client.target none)
  | .close c => (none, s.handle c (fun client => !client.closed)
      fun client s => (s.update c .onClose).setEntry client.target none)
  | .timeout c => (none, s.handle c (fun client => client.timer)
      fun _ s => s.update c .onTimeout)
  | .closeTargetPool t => (none, s.closeTargetPool t)
  | .closeAllPools => (none, s.closeAllPools)
  | .sweep now => (none, s.sweep now)

def sshPool (τ : Type*) [DecidableEq τ] : Machine (PoolState τ) (PoolInput τ) (Option ℕ) where
  start := {}
  step := PoolInput.step

/-! ## What is claimed -/

/-- The open clients of a target are the recorded one. -/
def PoolState.Recorded (s : PoolState τ) (t : τ) : Prop :=
  ∀ (n : ℕ) (c : SshClient τ), s.clients[n]? = some c → c.target = t → c.link = .open →
    ∃ entry, s.pools t = some entry ∧ entry.client = n

/-- No connection escapes the pool in the course of a run. -/
structure PoolIsTight (is : List (PoolInput τ)) : Prop where
  recorded : ∀ pre, pre <+: is → ∀ t,
    (∀ c ∈ ((sshPool τ).after pre).clients, c.target = t → ¬c.Attempting) →
      ((sshPool τ).after pre).Recorded t
  ownEntry : ∀ pre i post, is = pre ++ i :: post → ∀ c, i.emitter = some c →
    ∀ t entry, ((sshPool τ).after pre).pools t = some entry → entry.client ≠ c →
      ((sshPool τ).after (pre ++ [i])).pools t = some entry
  revoked : ∀ pre t mid now starts post,
    is = pre ++ .closeTargetPool t :: mid ++ .ensureConnected t now starts :: post →
      ∀ c, (sshPool τ).answer (pre ++ .closeTargetPool t :: mid) (.ensureConnected t now starts) =
        some c → ((sshPool τ).after pre).clients.length ≤ c

/-- A client is begun only when the earlier ones of the target have closed, and the
target is closed only when no connection is on its way. -/
def Orderly (s : PoolState τ) : PoolInput τ → Prop
  | .ensureConnected t _ true => s.pools t = none →
      ∀ c ∈ s.clients, c.target = t → c.closed ∧ c.promise ≠ .resolved
  | .closeTargetPool t => ∀ c ∈ s.clients, c.target = t →
      c.promise ≠ .resolved ∧ c.link ≠ .connecting
  | _ => True

instance decidableOrderly (s : PoolState τ) : (i : PoolInput τ) → Decidable (Orderly s i)
  | .ensureConnected t _ true => inferInstanceAs (Decidable (s.pools t = none →
      ∀ c ∈ s.clients, c.target = t → c.closed ∧ c.promise ≠ .resolved))
  | .ensureConnected _ _ false => inferInstanceAs (Decidable True)
  | .closeTargetPool t => inferInstanceAs (Decidable (∀ c ∈ s.clients, c.target = t →
      c.promise ≠ .resolved ∧ c.link ≠ .connecting))
  | .ready _ | .settle _ _ | .error _ | .close _ | .timeout _ | .closeAllPools | .sweep _ =>
      inferInstanceAs (Decidable True)

/-! ## Steps -/

/-- What one input does to the clients and to the entries. -/
inductive PoolMove (s : PoolState τ) : PoolInput τ → Option ℕ × PoolState τ → Prop where
  | idle {i : PoolInput τ} : PoolMove s i (none, s)
  | reused {t : τ} {now : ℤ} {starts : Bool} {e : Pooled} (he : s.pools t = some e) :
      PoolMove s (.ensureConnected t now starts)
        (some e.client, s.setEntry t (some { e with lastUsed := now }))
  | begun {t : τ} {now : ℤ} (hnone : s.pools t = none) :
      PoolMove s (.ensureConnected t now true)
        (some s.clients.length, { s with clients := s.clients ++ [{ target := t }] })
  /-- the entries are not touched -/
  | moved {i : PoolInput τ} {n : ℕ} {c : SshClient τ} {f : SshClient τ → SshClient τ}
      (hc : s.clients[n]? = some c) (hmove : c.Move (f c))
      (hopen : c.Sane → (f c).link = .open → (f c).promise = .resolved) :
      PoolMove s i (none, s.update n f)
  | settled {n : ℕ} {now : ℤ} {c : SshClient τ} (hc : s.clients[n]? = some c)
      (hresolved : c.promise = .resolved) :
      PoolMove s (.settle n now)
        (none, (s.update n .onSettle).setEntry c.target (some ⟨n, now⟩))
  | lost {i : PoolInput τ} {n : ℕ} {c : SshClient τ} {f : SshClient τ → SshClient τ}
      (hi : i.emitter = some n) (hc : s.clients[n]? = some c) (hclosed : c.closed = false)
      (hmove : c.Move (f c)) (hdown : (f c).link = .down) :
      PoolMove s i (none, (s.update n f).setEntry c.target none)
  | dropped {i : PoolInput τ} (hi : i.emitter = none) (test : τ → Pooled → Bool) :
      PoolMove s i (none, s.drop test)

theorem poolMove_ensureConnected (s : PoolState τ) (t : τ) (now : ℤ) (starts : Bool) :
    PoolMove s (.ensureConnected t now starts) (s.ensureConnected t now starts) := by
  unfold PoolState.ensureConnected
  cases he : s.pools t with
  | some e => exact .reused he
  | none =>
      cases starts with
      | true => exact .begun he
      | false => exact .idle

theorem poolMove_step (s : PoolState τ) (i : PoolInput τ) :
    PoolMove s i ((sshPool τ).step s i) := by
  cases i with
  | ensureConnected t now starts => exact poolMove_ensureConnected s t now starts
  | ready n =>
      show PoolMove s (.ready n) (none, s.handle n _ _)
      rcases s.handle_cases n (fun client => !client.closed && client.link = .connecting)
        (fun _ s => s.update n .onReady) with h | ⟨c, hc, hemits, h⟩
      · rw [h]
        exact .idle
      · rw [h]
        simp only [Bool.and_eq_true, Bool.not_eq_true', decide_eq_true_eq] at hemits
        exact .moved hc (SshClient.move_onReady hemits.1 hemits.2)
          fun hsane _ => SshClient.onReady_resolved hsane hemits.2
  | settle n now =>
      show PoolMove s (.settle n now) (none, s.handle n _ _)
      rcases s.handle_cases n (fun client => client.promise = .resolved)
        (fun client s => (s.update n .onSettle).setEntry client.target (some ⟨n, now⟩))
        with h | ⟨c, hc, hemits, h⟩
      · rw [h]
        exact .idle
      · rw [h]
        exact .settled hc (of_decide_eq_true hemits)
  | error n =>
      show PoolMove s (.error n) (none, s.handle n _ _)
      rcases s.handle_cases n (fun client => !client.closed && client.errorListener)
        (fun client s => (s.update n .onError).setEntry client.target none)
        with h | ⟨c, hc, hemits, h⟩
      · rw [h]
        exact .idle
      · rw [h]
        simp only [Bool.and_eq_true, Bool.not_eq_true'] at hemits
        exact .lost rfl hc hemits.1 (SshClient.move_down rfl id (.inr rfl) rfl) rfl
  | close n =>
      show PoolMove s (.close n) (none, s.handle n _ _)
      rcases s.handle_cases n (fun client => !client.closed)
        (fun client s => (s.update n .onClose).setEntry client.target none)
        with h | ⟨c, hc, hemits, h⟩
      · rw [h]
        exact .idle
      · rw [h]
        simp only [Bool.not_eq_true'] at hemits
        exact .lost rfl hc hemits (SshClient.move_down rfl (fun _ => rfl) (.inl rfl) rfl) rfl
  | timeout n =>
      show PoolMove s (.timeout n) (none, s.handle n _ _)
      rcases s.handle_cases n (fun client => client.timer) (fun _ s => s.update n .onTimeout)
        with h | ⟨c, hc, -, h⟩
      · rw [h]
        exact .idle
      · rw [h]
        exact .moved hc (SshClient.move_down rfl id (.inr rfl) rfl)
          fun _ hopen => SshLink.noConfusion hopen
  | closeTargetPool t => exact .dropped rfl _
  | closeAllPools => exact .dropped rfl _
  | sweep now => exact .dropped rfl _

end Run

/-! ## The invariant -/

namespace PoolState

/-- An entry names the last client of its target, which is recorded; an open client is
recorded or about to be; and the clients of a target before the last one have closed. -/
structure Tight (s : PoolState τ) : Prop where
  sane : ∀ (n : ℕ) c, s.clients[n]? = some c → c.Sane
  named : ∀ t e, s.pools t = some e →
    ∃ c, s.clients[e.client]? = some c ∧ c.target = t ∧ c.promise = .recorded
  latest : ∀ t e (n : ℕ) c, s.pools t = some e → s.clients[n]? = some c → c.target = t →
    n ≤ e.client
  openClient : ∀ (n : ℕ) c, s.clients[n]? = some c → c.link = .open →
    c.promise = .resolved ∨ ∃ e, s.pools c.target = some e ∧ e.client = n
  earlier : ∀ (m n : ℕ) c d, m < n → s.clients[m]? = some c → s.clients[n]? = some d →
    c.target = d.target → c.closed ∧ c.promise ≠ .resolved

theorem tight_start : ({} : PoolState τ).Tight := by
  constructor
  · intro n c h
    simp at h
  · intro t e h
    simp at h
  · intro t e n c h
    simp at h
  · intro n c h
    simp at h
  · intro m n c d _ h
    simp at h

/-- The clients moved, each by itself. -/
def Moved (s s' : PoolState τ) : Prop :=
  ∃ g : ℕ → SshClient τ → SshClient τ,
    (∀ n : ℕ, s'.clients[n]? = (s.clients[n]?).map (g n)) ∧
      ∀ (n : ℕ) c, s.clients[n]? = some c → c.Move (g n c)

variable {s s' : PoolState τ}

theorem Moved.forward (h : s.Moved s') {n : ℕ} {c : SshClient τ} (hc : s.clients[n]? = some c) :
    ∃ d, s'.clients[n]? = some d ∧ c.Move d := by
  obtain ⟨g, hg, hmove⟩ := h
  exact ⟨g n c, by rw [hg, hc]; rfl, hmove n c hc⟩

theorem Moved.backward (h : s.Moved s') {n : ℕ} {d : SshClient τ} (hd : s'.clients[n]? = some d) :
    ∃ c, s.clients[n]? = some c ∧ c.Move d := by
  obtain ⟨g, hg, hmove⟩ := h
  rw [hg, Option.map_eq_some_iff] at hd
  obtain ⟨c, hc, rfl⟩ := hd
  exact ⟨c, hc, hmove n c hc⟩

theorem moved_update {n : ℕ} {c : SshClient τ} {f : SshClient τ → SshClient τ}
    (hc : s.clients[n]? = some c) (hmove : c.Move (f c)) : s.Moved (s.update n f) := by
  refine ⟨fun k d => if n = k then f d else d, fun k => ?_, fun k d hd => ?_⟩
  · simp only [update, List.getElem?_modify]
    rfl
  · dsimp only
    by_cases hk : n = k
    · subst hk
      rw [hc, Option.some.injEq] at hd
      rw [if_pos rfl, ← hd]
      exact hmove
    · rw [if_neg hk]
      exact .refl d

theorem moved_drop (test : τ → Pooled → Bool) : s.Moved (s.drop test) := by
  refine ⟨fun n c => if (s.pools c.target).any (fun e => e.client == n && test c.target e)
    then c.ended else c, fun n => ?_, fun n c _ => ?_⟩
  · simp only [drop, List.getElem?_mapIdx]
  · dsimp only
    split
    · exact SshClient.move_down rfl id (.inl rfl) rfl
    · exact .refl c

theorem Moved.sane (hmoved : s.Moved s') (h : s.Tight) :
    ∀ (n : ℕ) d, s'.clients[n]? = some d → d.Sane := by
  intro n d hd
  obtain ⟨c, hc, hmove⟩ := hmoved.backward hd
  exact hmove.sane (h.sane n c hc)

theorem Moved.earlier (hmoved : s.Moved s') (h : s.Tight) :
    ∀ (m n : ℕ) c d, m < n → s'.clients[m]? = some c → s'.clients[n]? = some d →
      c.target = d.target → c.closed ∧ c.promise ≠ .resolved := by
  intro m n d d' hlt hd hd' htarget
  obtain ⟨c, hc, hmove⟩ := hmoved.backward hd
  obtain ⟨c', hc', hmove'⟩ := hmoved.backward hd'
  rw [hmove.target, hmove'.target] at htarget
  obtain ⟨hclosed, hresolved⟩ := h.earlier m n c c' hlt hc hc' htarget
  refine ⟨hmove.closed hclosed, fun hd => ?_⟩
  rcases hmove.resolved hd with hc | ⟨-, hc⟩
  · exact hresolved hc
  · rw [hc] at hclosed
    exact Bool.noConfusion hclosed

/-- The clients move and no entry appears: what is left to show is where the open clients
are recorded. -/
theorem Tight.moved (h : s.Tight) (hmoved : s.Moved s')
    (hentries : ∀ t e, s'.pools t = some e → ∃ e', s.pools t = some e' ∧ e'.client = e.client)
    (hopen : ∀ (n : ℕ) c, s'.clients[n]? = some c → c.link = .open →
      c.promise = .resolved ∨ ∃ e, s'.pools c.target = some e ∧ e.client = n) : s'.Tight := by
  constructor
  · exact hmoved.sane h
  · intro t e he
    obtain ⟨e', he', hclient⟩ := hentries t e he
    obtain ⟨c, hc, htarget, hrecorded⟩ := h.named t e' he'
    rw [hclient] at hc
    obtain ⟨d, hd, hmove⟩ := hmoved.forward hc
    exact ⟨d, hd, hmove.target.trans htarget, hmove.recorded hrecorded⟩
  · intro t e n d he hd htarget
    obtain ⟨e', he', hclient⟩ := hentries t e he
    obtain ⟨c, hc, hmove⟩ := hmoved.backward hd
    rw [← hclient]
    exact h.latest t e' n c he' hc (hmove.target.symm.trans htarget)
  · exact hopen
  · exact hmoved.earlier h

/-- The entry of a target is that of every client of it which has not closed, or whose
promise is resolved. -/
theorem Tight.client_eq (h : s.Tight) {t : τ} {e : Pooled} {n : ℕ} {c : SshClient τ}
    (he : s.pools t = some e) (hc : s.clients[n]? = some c) (htarget : c.target = t)
    (hlive : c.closed = false ∨ c.promise = .resolved) : e.client = n := by
  obtain ⟨d, hd, hdtarget, -⟩ := h.named t e he
  rcases (h.latest t e n c he hc htarget).lt_or_eq with hlt | heq
  · obtain ⟨hclosed, hresolved⟩ := h.earlier n e.client c d hlt hc hd (htarget.trans hdtarget.symm)
    rcases hlive with hlive | hlive
    · rw [hlive] at hclosed
      exact Bool.noConfusion hclosed
    · exact absurd hlive hresolved
  · exact heq.symm

/-- Nothing is overwritten: an entry would be that of the client, which is not recorded
yet. -/
theorem Tight.none_of_resolved (h : s.Tight) {n : ℕ} {c : SshClient τ}
    (hc : s.clients[n]? = some c) (hresolved : c.promise = .resolved) :
    s.pools c.target = none := by
  cases he : s.pools c.target with
  | none => rfl
  | some e =>
      obtain ⟨d, hd, -, hrecorded⟩ := h.named _ e he
      rw [h.client_eq he hc rfl (.inr hresolved), hc, Option.some.injEq] at hd
      rw [← hd, hresolved] at hrecorded
      exact ConnectPromise.noConfusion hrecorded

theorem length_update (n : ℕ) (f : SshClient τ → SshClient τ) :
    (s.update n f).clients.length = s.clients.length :=
  List.length_modify ..

theorem getElem?_update_ne {n k : ℕ} (hk : k ≠ n) (f : SshClient τ → SshClient τ) :
    (s.update n f).clients[k]? = s.clients[k]? := by
  simp [update, hk.symm]

theorem getElem?_update_self {n : ℕ} {c : SshClient τ} (hc : s.clients[n]? = some c)
    (f : SshClient τ → SshClient τ) : (s.update n f).clients[n]? = some (f c) := by
  simp [update, hc]

theorem Tight.begun (h : s.Tight) {t : τ} (hnone : s.pools t = none)
    (horderly : ∀ c ∈ s.clients, c.target = t → c.closed ∧ c.promise ≠ .resolved) :
    ({ s with clients := s.clients ++ [{ target := t }] } : PoolState τ).Tight := by
  have hlast : ∀ {n : ℕ} {c : SshClient τ}, (s.clients ++ [{ target := t }])[n]? = some c →
      s.clients[n]? = some c ∨ n = s.clients.length ∧ c = { target := t } := by
    intro n c hc
    rw [List.getElem?_append] at hc
    split at hc
    · exact .inl hc
    · rename_i hlen
      rw [List.getElem?_singleton] at hc
      split at hc
      · rename_i hzero
        exact .inr ⟨by omega, (Option.some.inj hc).symm⟩
      · simp at hc
  have hold : ∀ {n : ℕ} {c : SshClient τ}, s.clients[n]? = some c →
      (s.clients ++ [{ target := t }])[n]? = some c := by
    intro n c hc
    rw [List.getElem?_append_left (List.getElem?_eq_some_iff.mp hc).1]
    exact hc
  constructor
  · intro n c hc
    rcases hlast hc with hc | ⟨-, rfl⟩
    · exact h.sane n c hc
    · exact ⟨fun _ => rfl, fun hclosed => Bool.noConfusion hclosed⟩
  · intro u e he
    obtain ⟨c, hc, htarget, hrecorded⟩ := h.named u e he
    exact ⟨c, hold hc, htarget, hrecorded⟩
  · intro u e n c he hc htarget
    rcases hlast hc with hc | ⟨-, rfl⟩
    · exact h.latest u e n c he hc htarget
    · rw [← htarget] at he
      exact absurd (hnone.symm.trans he) (Option.some_ne_none e).symm
  · intro n c hc hopen
    rcases hlast hc with hc | ⟨-, rfl⟩
    · exact h.openClient n c hc hopen
    · exact SshLink.noConfusion hopen
  · intro m n c d hlt hc hd htarget
    rcases hlast hd with hd | ⟨rfl, rfl⟩
    · rcases hlast hc with hc | ⟨rfl, rfl⟩
      · exact h.earlier m n c d hlt hc hd htarget
      · have hn := (List.getElem?_eq_some_iff.mp hd).1
        omega
    · rcases hlast hc with hc | ⟨rfl, rfl⟩
      · exact horderly c (List.mem_of_getElem? hc) htarget
      · exact absurd hlt (lt_irrefl _)

theorem Tight.updated (h : s.Tight) {n : ℕ} {c : SshClient τ} {f : SshClient τ → SshClient τ}
    (hc : s.clients[n]? = some c) (hmove : c.Move (f c))
    (hopen : c.Sane → (f c).link = .open → (f c).promise = .resolved) : (s.update n f).Tight := by
  refine h.moved (moved_update hc hmove) (fun t e he => ⟨e, he, rfl⟩) fun k d hd hlink => ?_
  by_cases hk : k = n
  · subst hk
    rw [getElem?_update_self hc, Option.some.injEq] at hd
    subst hd
    exact .inl (hopen (h.sane _ c hc) hlink)
  · rw [getElem?_update_ne hk] at hd
    exact h.openClient k d hd hlink

theorem Tight.dropped (h : s.Tight) (test : τ → Pooled → Bool) : (s.drop test).Tight := by
  refine h.moved (moved_drop test) (fun t e he => ?_) fun n d hd hlink => ?_
  · exact ⟨e, (Option.filter_eq_some_iff.mp he).1, rfl⟩
  · rw [drop, List.getElem?_mapIdx, Option.map_eq_some_iff] at hd
    obtain ⟨c, hc, hd⟩ := hd
    split at hd
    · subst hd
      exact SshLink.noConfusion hlink
    · rename_i hkept
      subst hd
      rcases h.openClient n c hc hlink with hresolved | ⟨e, he, hclient⟩
      · exact .inl hresolved
      · rw [he, Option.any_some, hclient, beq_self_eq_true, Bool.true_and] at hkept
        refine .inr ⟨e, Option.filter_eq_some_iff.mpr ⟨he, ?_⟩, hclient⟩
        simpa using hkept

theorem Tight.recorded (h : s.Tight) {t : τ}
    (hidle : ∀ c ∈ s.clients, c.target = t → ¬c.Attempting) : s.Recorded t := by
  intro n c hc htarget hopen
  rcases h.openClient n c hc hopen with hresolved | hentry
  · exact absurd (.inr hresolved) (hidle c (List.mem_of_getElem? hc) htarget)
  · rw [htarget] at hentry
    exact hentry

/-- The clients of the target before the bound are out of use for good. -/
structure Retired (s : PoolState τ) (t : τ) (bound : ℕ) : Prop where
  begun : bound ≤ s.clients.length
  entry : ∀ e, s.pools t = some e → bound ≤ e.client
  old : ∀ (n : ℕ) c, s.clients[n]? = some c → c.target = t → n < bound →
    c.promise ≠ .resolved ∧ c.link ≠ .connecting

variable {t : τ} {bound : ℕ}

theorem Retired.moved (h : s.Retired t bound) (hmoved : s.Moved s')
    (hlength : s.clients.length = s'.clients.length)
    (hentry : ∀ e, s'.pools t = some e → bound ≤ e.client) : s'.Retired t bound := by
  constructor
  · exact hlength ▸ h.begun
  · exact hentry
  · intro n d hd htarget hn
    obtain ⟨c, hc, hmove⟩ := hmoved.backward hd
    obtain ⟨hresolved, hlink⟩ := h.old n c hc (hmove.target.symm.trans htarget) hn
    exact ⟨hmove.not_resolved hresolved hlink, fun hd => hlink (hmove.connecting hd)⟩

variable [DecidableEq τ]

theorem Tight.reused (h : s.Tight) {t : τ} {e : Pooled} (he : s.pools t = some e) (now : ℤ) :
    (s.setEntry t (some { e with lastUsed := now })).Tight := by
  have hsame : s.Moved (s.setEntry t (some { e with lastUsed := now })) :=
    ⟨fun _ c => c, fun _ => Option.map_id'.symm, fun _ c _ => .refl c⟩
  refine h.moved hsame (fun u e' he' => ?_) fun n c hc hopen => ?_
  · by_cases hu : u = t
    · subst hu
      rw [setEntry_pools_self, Option.some.injEq] at he'
      exact ⟨e, he, by rw [← he']⟩
    · rw [setEntry_pools_of_ne s hu] at he'
      exact ⟨e', he', rfl⟩
  · rcases h.openClient n c hc hopen with hresolved | ⟨e', he', hclient⟩
    · exact .inl hresolved
    · refine .inr ?_
      by_cases hu : c.target = t
      · rw [hu, he, Option.some.injEq] at he'
        rw [hu, setEntry_pools_self]
        exact ⟨_, rfl, he' ▸ hclient⟩
      · rw [setEntry_pools_of_ne s hu]
        exact ⟨e', he', hclient⟩

theorem Tight.settled (h : s.Tight) {n : ℕ} {c : SshClient τ} (hc : s.clients[n]? = some c)
    (hresolved : c.promise = .resolved) (now : ℤ) :
    ((s.update n .onSettle).setEntry c.target (some ⟨n, now⟩)).Tight := by
  have hmoved : s.Moved ((s.update n .onSettle).setEntry c.target (some ⟨n, now⟩)) :=
    moved_update hc (SshClient.move_onSettle hresolved)
  have hnone := h.none_of_resolved hc hresolved
  constructor
  · exact hmoved.sane h
  · intro t e he
    by_cases ht : t = c.target
    · subst ht
      rw [setEntry_pools_self, Option.some.injEq] at he
      subst he
      exact ⟨c.onSettle, getElem?_update_self hc _, rfl, rfl⟩
    · rw [setEntry_pools_of_ne _ ht] at he
      obtain ⟨d, hd, htarget, hrecorded⟩ := h.named t e he
      obtain ⟨d', hd', hmove⟩ := hmoved.forward hd
      exact ⟨d', hd', hmove.target.trans htarget, hmove.recorded hrecorded⟩
  · intro t e k d he hd htarget
    obtain ⟨d', hd', hmove⟩ := hmoved.backward hd
    rw [hmove.target] at htarget
    by_cases ht : t = c.target
    · subst ht
      rw [setEntry_pools_self, Option.some.injEq] at he
      subst he
      by_contra hlt
      exact (h.earlier n k c d' (not_le.mp hlt) hc hd' htarget.symm).2 hresolved
    · rw [setEntry_pools_of_ne _ ht] at he
      exact h.latest t e k d' he hd' htarget
  · intro k d hd hlink
    rw [setEntry_clients] at hd
    by_cases hk : k = n
    · subst hk
      rw [getElem?_update_self hc, Option.some.injEq] at hd
      subst hd
      exact .inr ⟨⟨k, now⟩, setEntry_pools_self .., rfl⟩
    · rw [getElem?_update_ne hk] at hd
      rcases h.openClient k d hd hlink with hd' | ⟨e, he, hclient⟩
      · exact .inl hd'
      · have ht : d.target ≠ c.target := by
          intro ht
          rw [ht, hnone] at he
          exact absurd he (Option.some_ne_none e).symm
        exact .inr ⟨e, (setEntry_pools_of_ne _ ht _).trans he, hclient⟩
  · exact hmoved.earlier h

theorem Tight.lost (h : s.Tight) {n : ℕ} {c : SshClient τ} {f : SshClient τ → SshClient τ}
    (hc : s.clients[n]? = some c) (hclosed : c.closed = false) (hmove : c.Move (f c))
    (hdown : (f c).link = .down) : ((s.update n f).setEntry c.target none).Tight := by
  have hmoved : s.Moved ((s.update n f).setEntry c.target none) := moved_update hc hmove
  refine h.moved hmoved (fun t e he => ?_) fun k d hd hlink => ?_
  · by_cases ht : t = c.target
    · subst ht
      rw [setEntry_pools_self] at he
      exact absurd he (Option.some_ne_none e).symm
    · rw [setEntry_pools_of_ne _ ht] at he
      exact ⟨e, he, rfl⟩
  · rw [setEntry_clients] at hd
    by_cases hk : k = n
    · subst hk
      rw [getElem?_update_self hc, Option.some.injEq] at hd
      subst hd
      rw [hdown] at hlink
      exact SshLink.noConfusion hlink
    · rw [getElem?_update_ne hk] at hd
      rcases h.openClient k d hd hlink with hd' | ⟨e, he, hclient⟩
      · exact .inl hd'
      · have ht : d.target ≠ c.target := by
          intro ht
          rw [ht] at he
          exact hk (hclient.symm.trans (h.client_eq he hc rfl (.inl hclosed)))
        exact .inr ⟨e, (setEntry_pools_of_ne _ ht _).trans he, hclient⟩

theorem Tight.step (h : s.Tight) {i : PoolInput τ} (horderly : Orderly s i)
    {x : Option ℕ × PoolState τ} (hx : PoolMove s i x) : x.2.Tight := by
  cases hx with
  | idle => exact h
  | reused he => exact h.reused he _
  | begun hnone => exact h.begun hnone (horderly hnone)
  | moved hc hmove hopen => exact h.updated hc hmove hopen
  | settled hc hresolved => exact h.settled hc hresolved _
  | lost hi hc hclosed hmove hdown => exact h.lost hc hclosed hmove hdown
  | dropped hi test => exact h.dropped test

/-- An input of a client leaves the entries of the others. -/
theorem Tight.kept (h : s.Tight) {i : PoolInput τ} {x : Option ℕ × PoolState τ}
    (hx : PoolMove s i x) {c : ℕ} (hemitter : i.emitter = some c) {t : τ} {entry : Pooled}
    (hentry : s.pools t = some entry) (hother : entry.client ≠ c) :
    x.2.pools t = some entry := by
  cases hx with
  | idle => exact hentry
  | reused he => exact absurd hemitter (Option.some_ne_none c).symm
  | begun hnone => exact absurd hemitter (Option.some_ne_none c).symm
  | moved hc hmove hopen => exact hentry
  | settled hc hresolved =>
      refine (setEntry_pools_of_ne _ ?_ _).trans hentry
      rintro rfl
      rw [h.none_of_resolved hc hresolved] at hentry
      exact absurd hentry (Option.some_ne_none entry).symm
  | lost hi hc hclosed hmove hdown =>
      rw [hi, Option.some.injEq] at hemitter
      refine (setEntry_pools_of_ne _ ?_ _).trans hentry
      rintro rfl
      exact hother ((h.client_eq hentry hc rfl (.inl hclosed)).trans hemitter)
  | dropped hi test => exact absurd (hi.symm.trans hemitter) (Option.some_ne_none c).symm

/-! ## After a revocation -/

theorem Retired.step (h : s.Retired t bound) {i : PoolInput τ} {x : Option ℕ × PoolState τ}
    (hx : PoolMove s i x) : x.2.Retired t bound := by
  cases hx with
  | idle => exact h
  | @reused u now starts e he =>
      refine ⟨h.begun, fun e' he' => ?_, h.old⟩
      by_cases hu : t = u
      · subst hu
        rw [setEntry_pools_self, Option.some.injEq] at he'
        rw [← he']
        exact h.entry e he
      · exact h.entry e' ((setEntry_pools_of_ne s hu _).symm.trans he')
  | begun hnone =>
      refine ⟨?_, h.entry, fun n c hc htarget hn => ?_⟩
      · rw [List.length_append]
        exact h.begun.trans (Nat.le_add_right ..)
      · rw [List.getElem?_append_left (hn.trans_le h.begun)] at hc
        exact h.old n c hc htarget hn
  | moved hc hmove hopen =>
      exact h.moved (moved_update hc hmove) (length_update ..).symm h.entry
  | @settled n now c hc hresolved =>
      refine h.moved (moved_update hc (SshClient.move_onSettle hresolved))
        (length_update ..).symm fun e he => ?_
      by_cases hu : t = c.target
      · subst hu
        rw [setEntry_pools_self, Option.some.injEq] at he
        by_contra hlt
        rw [← he, not_le] at hlt
        exact (h.old n c hc rfl hlt).1 hresolved
      · exact h.entry e ((setEntry_pools_of_ne _ hu _).symm.trans he)
  | @lost i n c f hi hc hclosed hmove hdown =>
      refine h.moved (moved_update hc hmove) (length_update ..).symm fun e he => ?_
      by_cases hu : t = c.target
      · subst hu
        rw [setEntry_pools_self] at he
        exact absurd he (Option.some_ne_none e).symm
      · exact h.entry e ((setEntry_pools_of_ne _ hu _).symm.trans he)
  | dropped hi test =>
      refine h.moved (moved_drop test) List.length_mapIdx.symm fun e he => ?_
      exact h.entry e (Option.filter_eq_some_iff.mp he).1

/-- An orderly revocation retires the clients begun so far. -/
theorem retired_closeTargetPool (horderly : Orderly s (.closeTargetPool t)) :
    (s.closeTargetPool t).Retired t s.clients.length := by
  constructor
  · exact List.length_mapIdx.ge
  · intro e he
    have hkept := (Option.filter_eq_some_iff.mp he).2
    simp at hkept
  · intro n d hd htarget _
    obtain ⟨c, hc, hmove⟩ := (moved_drop fun u _ => decide (u = t)).backward hd
    obtain ⟨hresolved, hlink⟩ :=
      horderly c (List.mem_of_getElem? hc) (hmove.target.symm.trans htarget)
    exact ⟨hmove.not_resolved hresolved hlink, fun hd => hlink (hmove.connecting hd)⟩

/-- The client of a command is neither older than the entry nor older than the bound. -/
theorem Retired.used (h : s.Retired t bound) {now : ℤ} {starts : Bool} {c : ℕ}
    (hused : (s.ensureConnected t now starts).1 = some c) : bound ≤ c := by
  unfold ensureConnected at hused
  cases he : s.pools t with
  | some e =>
      rw [he, Option.some.injEq] at hused
      exact hused ▸ h.entry e he
  | none =>
      rw [he] at hused
      cases starts with
      | true =>
          rw [if_pos rfl, Option.some.injEq] at hused
          exact hused ▸ h.begun
      | false => exact absurd hused (Option.some_ne_none c).symm

end PoolState

/-! ## Runs -/

variable {s : PoolState τ} [DecidableEq τ]

theorem poolTight_after (is : List (PoolInput τ)) (h : (sshPool τ).Along Orderly is) :
    ((sshPool τ).after is).Tight :=
  (sshPool τ).invariant ((sshPool τ).prefixClosed_along Orderly) (I := fun _ s => s.Tight)
    PoolState.tight_start
    (fun _ i horderly h => h.step (horderly.last (sshPool τ)) (poolMove_step _ i)) is h

theorem poolRetired_after {pre : List (PoolInput τ)} {t : τ} {bound : ℕ}
    (h : ((sshPool τ).after pre).Retired t bound) (mid : List (PoolInput τ)) :
    ((sshPool τ).after (pre ++ mid)).Retired t bound :=
  (sshPool τ).stable (E := fun _ => True) (fun _ _ _ => trivial)
    (P := fun _ s => s.Retired t bound) (fun _ i _ h => h.step (poolMove_step _ i)) pre mid trivial h

/-- In an orderly run no connection escapes the pool. -/
theorem poolIsTight_of_orderly (is : List (PoolInput τ)) (h : (sshPool τ).Along Orderly is) :
    PoolIsTight is := by
  have hclosed := (sshPool τ).prefixClosed_along Orderly
  constructor
  · rintro pre ⟨post, rfl⟩ t hidle
    exact (poolTight_after pre (hclosed.of_append h)).recorded hidle
  · rintro pre i post rfl c hemitter t entry hentry hother
    rw [Machine.after_concat]
    exact (poolTight_after pre (hclosed.of_append h)).kept (poolMove_step _ i) hemitter hentry hother
  · rintro pre t mid now starts post rfl c hused
    have horderly : Orderly ((sshPool τ).after pre) (.closeTargetPool t) :=
      h pre _ (mid ++ .ensureConnected t now starts :: post) (by simp)
    have hretired : ((sshPool τ).after (pre ++ [.closeTargetPool t])).Retired t
        ((sshPool τ).after pre).clients.length := by
      rw [Machine.after_concat]
      exact PoolState.retired_closeTargetPool horderly
    have hlater := poolRetired_after hretired mid
    rw [List.append_assoc] at hlater
    exact hlater.used hused

/-! ## Steps out of order -/

namespace PoolState

theorem step_close {n : ℕ} {c : SshClient τ} (hc : s.clients[n]? = some c)
    (hclosed : c.closed = false) :
    (PoolInput.step s (.close n)).2 = (s.update n .onClose).setEntry c.target none := by
  simp only [PoolInput.step]
  refine handle_of_emits hc ?_ _
  simp [hclosed]

theorem step_settle {n : ℕ} {c : SshClient τ} (hc : s.clients[n]? = some c)
    (hresolved : c.promise = .resolved) (now : ℤ) :
    (PoolInput.step s (.settle n now)).2 =
      (s.update n .onSettle).setEntry c.target (some ⟨n, now⟩) := by
  simp only [PoolInput.step]
  refine handle_of_emits hc ?_ _
  simp [hresolved]

theorem step_ready {n : ℕ} {c : SshClient τ} (hc : s.clients[n]? = some c)
    (hclosed : c.closed = false) (hlink : c.link = .connecting) :
    (PoolInput.step s (.ready n)).2 = s.update n .onReady := by
  simp only [PoolInput.step]
  refine handle_of_emits hc ?_ _
  simp [hclosed, hlink]

/-- A connection on its way is recorded when nothing comes in between. -/
theorem connects {n : ℕ} {c : SshClient τ} (hc : s.clients[n]? = some c) (hsane : c.Sane)
    (hlink : c.link = .connecting) :
    (PoolInput.step (PoolInput.step s (.ready n)).2 (.settle n 0)).2 =
      ((s.update n .onReady).update n .onSettle).setEntry c.target (some ⟨n, 0⟩) := by
  have hclosed : c.closed = false := by
    cases hclosed : c.closed with
    | false => rfl
    | true => exact SshLink.noConfusion (hlink.symm.trans (hsane.closed hclosed))
  rw [step_ready hc hclosed hlink]
  exact step_settle (getElem?_update_self hc _) (SshClient.onReady_resolved hsane hlink) 0

/-- `closeTargetPool` does not touch a client that is not recorded. -/
theorem Tight.closeTargetPool_getElem? (h : s.Tight) {n : ℕ} {c : SshClient τ}
    (hc : s.clients[n]? = some c) (hrecorded : c.promise ≠ .recorded) (t : τ) :
    (s.closeTargetPool t).clients[n]? = some c := by
  rw [closeTargetPool, drop, List.getElem?_mapIdx, hc, Option.map_some, if_neg]
  intro hany
  rw [Option.any_eq_true] at hany
  obtain ⟨e, he, hclient⟩ := hany
  obtain ⟨d, hd, -, hrec⟩ := h.named _ e he
  simp only [Bool.and_eq_true, beq_iff_eq] at hclient
  rw [hclient.1, hc, Option.some.injEq] at hd
  exact hrecorded (hd ▸ hrec)

end PoolState

/-- A client that is begun beside another one of its target loses its entry. -/
theorem begunBeside_escapes (is : List (PoolInput τ)) {t : τ} (now : ℤ)
    (hnone : ((sshPool τ).after is).pools t = none) {n : ℕ} {c : SshClient τ}
    (hc : ((sshPool τ).after is).clients[n]? = some c) (htarget : c.target = t)
    (hlive : c.closed = false ∨ c.promise = .resolved) :
    ∃ more, ¬PoolIsTight (is ++ .ensureConnected t now true :: more) := by
  set s := (sshPool τ).after is with hs
  set N := s.clients.length with hN
  have hlt : n < N := (List.getElem?_eq_some_iff.mp hc).1
  let begun : List (PoolInput τ) := is ++ [.ensureConnected t now true, .ready N, .settle N 0]
  set s' : PoolState τ := { s with clients := s.clients ++ [{ target := t }] } with hs'
  have hfirst : (PoolInput.step s (.ensureConnected t now true)).2 = s' := by
    show (s.ensureConnected t now true).2 = _
    rw [PoolState.ensureConnected, hnone]
    rfl
  have hnew : s'.clients[N]? = some { target := t } := by
    simp [hs', hN]
  have hafter : (sshPool τ).after begun =
      ((s'.update N .onReady).update N .onSettle).setEntry t (some ⟨N, 0⟩) := by
    have hrun : (sshPool τ).after begun =
        (PoolInput.step (PoolInput.step (PoolInput.step s (.ensureConnected t now true)).2
          (.ready N)).2 (.settle N 0)).2 := by
      simp [begun, Machine.after, sshPool, hs]
    rw [hrun, hfirst]
    exact PoolState.connects hnew ⟨fun _ => rfl, fun h => Bool.noConfusion h⟩ rfl
  have hold : ((sshPool τ).after begun).clients[n]? = some c := by
    rw [hafter, PoolState.setEntry_clients, PoolState.getElem?_update_ne hlt.ne,
      PoolState.getElem?_update_ne hlt.ne, hs', List.getElem?_append_left hlt]
    exact hc
  have hentry : ((sshPool τ).after begun).pools t = some ⟨N, 0⟩ := by
    rw [hafter, PoolState.setEntry_pools_self]
  rcases hlive with hclosed | hresolved
  · refine ⟨[.ready N, .settle N 0, .close n], fun htight => ?_⟩
    have hkept := htight.ownEntry begun (.close n) [] (by simp [begun]) n rfl t _ hentry hlt.ne'
    rw [Machine.after_concat] at hkept
    replace hkept : (PoolInput.step _ (.close n)).2.pools t = _ := hkept
    rw [PoolState.step_close hold hclosed, htarget, PoolState.setEntry_pools_self] at hkept
    exact absurd hkept (Option.some_ne_none _).symm
  · refine ⟨[.ready N, .settle N 0, .settle n 0], fun htight => ?_⟩
    have hkept := htight.ownEntry begun (.settle n 0) [] (by simp [begun]) n rfl t _ hentry hlt.ne'
    rw [Machine.after_concat] at hkept
    replace hkept : (PoolInput.step _ (.settle n 0)).2.pools t = _ := hkept
    rw [PoolState.step_settle hold hresolved, htarget, PoolState.setEntry_pools_self,
      Option.some.injEq, Pooled.mk.injEq] at hkept
    exact hlt.ne hkept.1

/-- A connection on its way outlives the revocation of its target. -/
theorem revokedMeanwhile_escapes (is : List (PoolInput τ)) (h : (sshPool τ).Along Orderly is)
    {n : ℕ} {c : SshClient τ} (hc : ((sshPool τ).after is).clients[n]? = some c)
    (hway : c.promise = .resolved ∨ c.link = .connecting) :
    ∃ more, ¬PoolIsTight (is ++ .closeTargetPool c.target :: more) := by
  set s := (sshPool τ).after is with hs
  have htight := poolTight_after is h
  have hlt : n < s.clients.length := (List.getElem?_eq_some_iff.mp hc).1
  have hrecorded : c.promise ≠ .recorded := by
    rcases hway with hp | hp
    · rw [hp]
      exact ConnectPromise.noConfusion
    · rw [(htight.sane n c hc).connecting hp]
      exact ConnectPromise.noConfusion
  have hold := htight.closeTargetPool_getElem? hc hrecorded c.target
  -- it is recorded after the call, and the next command runs on it
  have hescape : ∀ mid, ((sshPool τ).after (is ++ .closeTargetPool c.target :: mid)).pools c.target =
      some ⟨n, 0⟩ → ¬PoolIsTight (is ++ .closeTargetPool c.target ::
        (mid ++ [.ensureConnected c.target 0 false])) := by
    intro mid hentry htight
    have hused := htight.revoked is c.target mid 0 false [] (by simp) n
    refine absurd (hused ?_) (not_le.mpr hlt)
    show (PoolState.ensureConnected _ _ _ _).1 = _
    rw [PoolState.ensureConnected, hentry]
  rcases hway with hresolved | hlink
  · refine ⟨_, hescape [.settle n 0] ?_⟩
    have hrun : (sshPool τ).after (is ++ [.closeTargetPool c.target, .settle n 0]) =
        (PoolInput.step (s.closeTargetPool c.target) (.settle n 0)).2 := by
      simp [Machine.after, sshPool, hs, PoolInput.step]
    rw [hrun, PoolState.step_settle hold hresolved, PoolState.setEntry_pools_self]
  · refine ⟨_, hescape [.ready n, .settle n 0] ?_⟩
    have hrun : (sshPool τ).after (is ++ [.closeTargetPool c.target, .ready n, .settle n 0]) =
        (PoolInput.step (PoolInput.step (s.closeTargetPool c.target) (.ready n)).2
          (.settle n 0)).2 := by
      simp [Machine.after, sshPool, hs, PoolInput.step]
    rw [hrun, PoolState.connects hold (htight.sane n c hc) hlink, PoolState.setEntry_pools_self]

/-- Every step out of order has a continuation in which a connection escapes. -/
theorem disorderly_escapes (is : List (PoolInput τ)) (h : (sshPool τ).Along Orderly is)
    (i : PoolInput τ) (hi : ¬Orderly ((sshPool τ).after is) i) :
    ∃ more, ¬PoolIsTight (is ++ i :: more) := by
  cases i with
  | ensureConnected t now starts =>
      cases starts with
      | true =>
          simp only [Orderly, not_forall] at hi
          obtain ⟨hnone, c, hc, htarget, hlive⟩ := hi
          obtain ⟨n, hn⟩ := List.mem_iff_getElem?.mp hc
          refine begunBeside_escapes is now hnone hn htarget ?_
          cases hclosed : c.closed with
          | false => exact .inl rfl
          | true => exact .inr (not_not.mp fun hres => hlive ⟨hclosed, hres⟩)
      | false => exact absurd trivial hi
  | closeTargetPool t =>
      simp only [Orderly, not_forall] at hi
      obtain ⟨c, hc, rfl, hway⟩ := hi
      obtain ⟨n, hn⟩ := List.mem_iff_getElem?.mp hc
      refine revokedMeanwhile_escapes is h hn ?_
      rw [not_and_or, not_not, not_not] at hway
      exact hway
  | ready n => exact absurd trivial hi
  | settle n now => exact absurd trivial hi
  | error n => exact absurd trivial hi
  | close n => exact absurd trivial hi
  | timeout n => exact absurd trivial hi
  | closeAllPools => exact absurd trivial hi
  | sweep now => exact absurd trivial hi

/-! ## Two connections of one target -/

/-- Two commands find nothing recorded and both connect. -/
def overlappingConnects : List (PoolInput String) :=
  [.ensureConnected "web" 0 true, .ensureConnected "web" 0 true, .ready 0, .settle 0 1, .ready 1,
    .settle 1 2]

/-- One connection after the other, and a revocation in between. -/
def connectsInTurn : List (PoolInput String) :=
  [.ensureConnected "web" 0 true, .ready 0, .settle 0 1, .closeTargetPool "web", .close 0,
    .ensureConnected "web" 2 true, .ready 1, .settle 1 3]

theorem poolIsTight_connectsInTurn : PoolIsTight connectsInTurn := by
  refine poolIsTight_of_orderly connectsInTurn ?_
  rw [Machine.along_iff_alongFrom]
  decide +kernel

/-- The second entry hides the first client, which stays open. -/
theorem overlappingConnects_escape :
    ¬PoolIsTight overlappingConnects := by
  intro h
  obtain ⟨entry, hentry, hclient⟩ := h.recorded overlappingConnects List.prefix_rfl "web"
    (by decide +kernel) 0 _ rfl rfl rfl
  have hsecond : ((sshPool String).after overlappingConnects).pools "web" = some ⟨1, 2⟩ := by
    decide +kernel
  rw [hsecond, Option.some.injEq] at hentry
  rw [← hentry] at hclient
  exact absurd hclient (by decide)

end RemoteOps

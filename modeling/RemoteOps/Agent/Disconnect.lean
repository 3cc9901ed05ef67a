import RemoteOps.Agent.Channel

/-!
# The close event of a connection

A close event rejects every pending call of the device, also calls that were sent
on a connection which has replaced the one that closes. A call is rejected only
because its own socket has closed exactly as long as no such call is pending when
a socket closes (`rejectsClosed_iff`).
-/

namespace RemoteOps

open Ecma Transition

variable {p : Platform} {start : PairedStore}

def agentDisconnected : Settlement := .rejected (js "agent_disconnected")

def Gateway.HasClosed (g : Gateway) (s : ℕ) : Prop :=
  ∃ socket, g.sockets[s]? = some socket ∧ socket.readyState = .closed

/-- A call that is rejected as disconnected was sent on a socket that has closed. -/
def RejectsClosed (g : Gateway) (x : Emits) : Prop :=
  ∀ n d, (n, agentDisconnected) ∈ settlements x.1 → g.dispatches[n]? = some d →
    x.2.HasClosed d.socket

/-- When a socket closes, the pending calls of its device were sent on it or on a
socket that has closed before. -/
def ClosesOwn (g : Gateway) (i : GatewayInput) : Prop :=
  g.crashed = false → ∀ s socket, i = .closeEvent s → g.sockets[s]? = some socket →
    socket.readyState ≠ .closed → ∀ q ∈ g.pending, q.deviceId = socket.deviceId →
      ∀ d, g.dispatches[q.promise]? = some d → d.socket = s ∨ g.HasClosed d.socket

theorem Gateway.HasClosed.kept {g g' : Gateway} {s : ℕ} (h : g.HasClosed s)
    (hkept : SocketsKept g.sockets g'.sockets) : g'.HasClosed s := by
  obtain ⟨socket, hsocket, hclosed⟩ := h
  obtain ⟨socket', hsocket', hsame⟩ := hkept.getElem? hsocket
  exact ⟨socket', hsocket', hsame.closed hclosed⟩

theorem settlementOf_ne_agentDisconnected (msg : Json) : settlementOf msg ≠ agentDisconnected := by
  unfold settlementOf agentDisconnected
  cases resultOf msg with
  | none => decide
  | some result => exact Settlement.noConfusion

theorem rejectsClosed_of_closesOwn {g : Gateway} {i : GatewayInput} {x : Emits}
    (hcrashed : g.crashed = false) (hown : ClosesOwn g i) (hx : StepCase p g i x) :
    RejectsClosed g x := by
  intro n d hmem hd
  have hquiet : ∀ {events : List GatewayEvent}, Quiet events →
      (n, agentDisconnected) ∉ settlements events := by
    intro events h
    simp [h.settlements]
  cases hx with
  | idle hidle => exact absurd hmem (hquiet hidle.quiet)
  | accepted hauth htouch haccepts => exact absurd hmem (hquiet htouch.quiet)
  | heartbeat hsocket hauth htouch hlive hsockets => exact absurd hmem (hquiet htouch.quiet)
  | result hsocket hauth hdelivers hclears =>
      exact absurd (hclears.mem n _ hmem).2.symm (settlementOf_ne_agentDisconnected _)
  | sent hsends =>
      rw [hsends.settlements] at hmem
      cases hmem
  | revoked => cases hmem
  | rejected hclears hclosed =>
      generalize ho : agentDisconnected = o at hmem
      cases hclears.mem n o hmem with
      | disconnected hsocket hopen hq hdevice =>
          rcases hown hcrashed _ _ rfl hsocket hopen _ hq hdevice d hd with rfl | hbefore
          · exact hclosed _ rfl
          · exact hbefore.kept hclears.sockets
      | revoked hq => exact absurd ho (by decide)
      | timeout hfound => exact absurd ho (by decide)
      | failed hfound => cases ho

/-! ## The condition is exact -/

theorem mem_settle {g : Gateway} {n : ℕ} {outcome : Settlement} (hn : n ∉ g.settled) :
    (n, outcome) ∈ settlements (g.settle n outcome).1 := by
  rw [Gateway.settle, if_neg hn]
  exact List.mem_singleton.mpr rfl

/-- Every promise of the list that has not settled yet settles. -/
theorem mem_settleAll {g : Gateway} {n : ℕ} {promises : List ℕ} {outcome : Settlement}
    (hmem : n ∈ promises) (hn : n ∉ g.settled) :
    (n, outcome) ∈ settlements (g.settleAll promises outcome).1 := by
  induction promises using List.reverseRecOn with
  | nil => cases hmem
  | append_singleton promises m ih =>
      have hall : g.settleAll (promises ++ [m]) outcome =
          (g.settleAll promises outcome).andThen fun g => g.settle m outcome := by
        simp [Gateway.settleAll]
      rw [hall, Emits.andThen, settlements_append, List.mem_append]
      by_cases hbefore : n ∈ promises
      · exact .inl (ih hbefore)
      · obtain rfl : n = m := by simpa [hbefore] using hmem
        refine .inr (mem_settle fun hsettled => ?_)
        have hspec := settlesAs_settleAll g promises outcome
        rw [hspec.settles.settled, List.mem_append] at hsettled
        rcases hsettled with hsettled | hsettled
        · exact hn hsettled
        · obtain ⟨⟨k, o⟩, hk, rfl⟩ := List.mem_map.mp hsettled
          exact hbefore (hspec.mem k o hk).1

theorem mem_rejectPendingForDevice {g : Gateway} {q : Pending} {reason : String}
    (hq : q ∈ g.pending) (hn : q.promise ∉ g.settled) :
    (q.promise, .rejected (js reason)) ∈
      settlements (rejectPendingForDevice q.deviceId reason g).1 := by
  unfold rejectPendingForDevice
  refine mem_settleAll (List.mem_map_of_mem ?_) hn
  exact List.mem_filter.mpr ⟨hq, by simp⟩

theorem closesOwn_of_rejectsClosed {g : Gateway} {i : GatewayInput} (htabled : Tabled g)
    (h : RejectsClosed g ((gateway p start).step g i)) : ClosesOwn g i := by
  rintro hcrashed s socket rfl hsocket hopen q hq hdevice d hd
  have hstep : (gateway p start).step g (.closeEvent s) =
      rejectPendingForDevice socket.deviceId "agent_disconnected"
        ((g.setSocket s setClosed).leave socket.deviceId s) := by
    show (if g.crashed = true then ([], g) else closeEvent s g) = _
    rw [if_neg (by simp [hcrashed]), closeEvent, hsocket]
    exact if_neg hopen
  obtain ⟨-, -, hpending, hsettled, hsockets, -⟩ :=
    leave_spec (g.setSocket s setClosed) socket.deviceId s
  rw [hstep] at h
  obtain ⟨closed, hfound, hclosed⟩ := h q.promise d
    (by
      rw [← hdevice]
      refine mem_rejectPendingForDevice (by rw [hdevice, hpending]; exact hq) ?_
      rw [hdevice, hsettled]
      exact htabled.unsettled q hq) hd
  rw [rejectPendingForDevice, (settlesAs_settleAll _ _ _).sockets] at hfound
  replace hfound : ((g.setSocket s setClosed).leave socket.deviceId s).sockets[d.socket]? =
      some closed := hfound
  rw [hsockets, Gateway.setSocket, List.getElem?_modify] at hfound
  by_cases hs : s = d.socket
  · exact .inl hs.symm
  · exact .inr ⟨closed, by simpa [hs] using hfound, hclosed⟩

/-- In a run, calls are rejected as disconnected only because their own socket has
closed exactly if every close event meets only calls of its own socket or of sockets
that have closed. -/
theorem rejectsClosed_iff (p : Platform) (start : PairedStore) (is : List GatewayInput) :
    (gateway p start).Along (fun g i => RejectsClosed g ((gateway p start).step g i)) is ↔
      (gateway p start).Along ClosesOwn is := by
  have hstep : ∀ pre i, RejectsClosed ((gateway p start).after pre)
      ((gateway p start).step ((gateway p start).after pre) i) ↔
        ClosesOwn ((gateway p start).after pre) i := by
    intro pre i
    refine ⟨closesOwn_of_rejectsClosed (tabled_after pre), fun hown => ?_⟩
    by_cases hcrashed : ((gateway p start).after pre).crashed = true
    · have hidle : (gateway p start).step ((gateway p start).after pre) i =
          ([], (gateway p start).after pre) := if_pos hcrashed
      rw [hidle]
      intro n d hmem
      cases hmem
    · exact rejectsClosed_of_closesOwn (by simpa using hcrashed) hown (stepCase_gateway _ i)
  constructor
  · exact fun h pre i post heq => (hstep pre i).mp (h pre i post heq)
  · exact fun h pre i post heq => (hstep pre i).mpr (h pre i post heq)

/-! ## A superseded connection -/

def pairedDevice : StoredDevice where
  deviceId := js "d"
  displayName := js "d"
  hostname := js "h"
  os := none
  agentVersion := none
  fingerprint := none
  credentialHash := samplePlatform.digest (js "t")
  createdAt := 0

def samplePaired : PairedStore where
  live :=
    { state := { emptyState with devices := Record.empty.set (js "d") pairedDevice }
      realm := Realm.fresh
      lastSessionTouch := Record.empty }
  file := emptyState
  keyed k d hd := by
    simp only [Record.get?_set, Record.get?_empty] at hd
    split_ifs at hd with hk
    rw [hk, ← Option.some.inj hd]
    rfl
  distinct k k' d d' hd hd' _ := by
    simp only [Record.get?_set, Record.get?_empty] at hd hd'
    split_ifs at hd hd' with hk hk'
    exact hk.trans hk'.symm

def sampleUpgrade (now : ℤ) : GatewayInput :=
  .upgrade
    { pathname := js "/agent/connect"
      token := some (js "t")
      handshake := true
      now := now
      writes := true }

/-- The device connects, connects again, gets a call, and then its first socket
closes. -/
def supersededRun : List GatewayInput :=
  [sampleUpgrade 1, sampleUpgrade 2,
    .dispatch
      { deviceId := js "d"
        operation := { op := js "system.hostname" }
        timeoutMs := none
        maxBytes := none
        newRequestId := js "r" },
    .closeEvent 0]

theorem Gateway.not_hasClosed {g : Gateway} {s : ℕ} (h : g.isOpen s = true) : ¬g.HasClosed s := by
  rintro ⟨socket, hsocket, hclosed⟩
  simp [Gateway.isOpen, hsocket, hclosed] at h

/-- The call is rejected, though it was sent on the second socket, which is open. -/
theorem superseded_rejects_successor :
    settlements (((gateway samplePlatform samplePaired).trace supersededRun).flatMap Prod.snd) =
        [(0, agentDisconnected)] ∧
      ((gateway samplePlatform samplePaired).after supersededRun).dispatches =
          [⟨js "r", js "d", 1⟩] ∧
        ((gateway samplePlatform samplePaired).after supersededRun).isOpen 1 = true ∧
          ¬(gateway samplePlatform samplePaired).Along
            (fun g i => RejectsClosed g ((gateway samplePlatform samplePaired).step g i))
            supersededRun := by
  have hopen : ((gateway samplePlatform samplePaired).after supersededRun).isOpen 1 = true := by
    decide +kernel
  refine ⟨by decide +kernel, by decide +kernel, hopen, fun h => ?_⟩
  have hclosed := h (supersededRun.take 3) (.closeEvent 0) [] rfl 0 ⟨js "r", js "d", 1⟩
    (by decide +kernel) (by decide +kernel)
  exact Gateway.not_hasClosed hopen hclosed

end RemoteOps

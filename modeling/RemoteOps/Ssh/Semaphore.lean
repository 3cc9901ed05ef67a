import Mathlib.Algebra.Order.Group.Int
import RemoteOps.Transition.Machine

/-!
# The slots of a target

`withSlot` lets a number of calls run at once and queues the others. A call that
ends counts itself out and resolves the first queued promise; the waiter counts
itself in only when it resumes, one microtask later. A call that arrives in between
finds the slot free. The bound therefore holds exactly in the runs in which no call
arrives in such a gap (`withSlot_bounded_iff`); the count, the order of the waiters
and their progress hold in all of them.
-/

namespace RemoteOps

open Transition

/-! ## Model -/

/-- `PER_TARGET_CONCURRENCY`, as the environment schema admits it. -/
structure PerTargetConcurrency where
  value : ℕ
  min : 1 ≤ value
  max : value ≤ 32

structure Semaphore where
  active : ℤ
  /-- the calls whose promise is queued -/
  queue : List ℕ

/-- The calls of `withSlot` for one target, numbered as they arrive. -/
structure Slots where
  sem : Semaphore := ⟨0, []⟩
  calls : ℕ := 0
  /-- the calls whose promise is resolved and that have not resumed -/
  woken : List ℕ := []
  /-- the calls whose `fn` runs -/
  running : List ℕ := []

inductive SlotInput where
  | arrive
  /-- the microtask of the first resolved promise -/
  | resume
  /-- `fn` of the call has returned or thrown, and its `finally` runs -/
  | finish (call : ℕ)
  deriving DecidableEq

inductive SlotEvent where
  | queued (call : ℕ)
  | started (call : ℕ)
  | resumed (call : ℕ)
  | finished (call : ℕ)
  deriving DecidableEq

/-- `sem.active++; fn()`. -/
def Slots.enter (s : Slots) (call : ℕ) : Slots :=
  { s with
    sem := { s.sem with active := s.sem.active + 1 }
    running := s.running ++ [call] }

/-- The part of `withSlot` before it awaits anything. -/
def withSlot (limit : PerTargetConcurrency) (s : Slots) : List SlotEvent × Slots :=
  let arrived := { s with calls := s.calls + 1 }
  if (limit.value : ℤ) ≤ s.sem.active then
    ([.queued s.calls],
      { arrived with sem := { s.sem with queue := s.sem.queue ++ [s.calls] } })
  else ([.started s.calls], arrived.enter s.calls)

/-- The rest of a call that was queued. -/
def resumeWaiter (s : Slots) : List SlotEvent × Slots :=
  match s.woken with
  | [] => ([], s)
  | call :: woken => ([.resumed call], { s with woken := woken }.enter call)

/-- `sem.active--; const next = sem.queue.shift(); if (next) next()`. -/
def releaseSlot (call : ℕ) (s : Slots) : List SlotEvent × Slots :=
  if call ∉ s.running then ([], s)
  else
    let left := { s with running := s.running.erase call }
    match s.sem.queue with
    | [] => ([.finished call], { left with sem := ⟨s.sem.active - 1, []⟩ })
    | next :: queue =>
        ([.finished call],
          { left with
            sem := ⟨s.sem.active - 1, queue⟩
            woken := s.woken ++ [next] })

def SlotInput.step (limit : PerTargetConcurrency) (s : Slots) : SlotInput → List SlotEvent × Slots
  | .arrive => withSlot limit s
  | .resume => resumeWaiter s
  | .finish call => releaseSlot call s

def slots (limit : PerTargetConcurrency) : Machine Slots SlotInput (List SlotEvent) where
  start := {}
  step := SlotInput.step limit

/-! ## What is claimed of a state and of a run -/

/-- At most so many calls run as the limit says, `active` counts them, and nobody waits
when nobody runs or is about to. -/
structure Slots.Sound (limit : PerTargetConcurrency) (s : Slots) : Prop where
  bounded : s.running.length ≤ limit.value
  counted : s.sem.active = s.running.length
  served : s.running = [] → s.woken = [] → s.sem.queue = []

def queuedCalls (events : List SlotEvent) : List ℕ :=
  events.filterMap fun
    | .queued call => some call
    | _ => none

def resumedCalls (events : List SlotEvent) : List ℕ :=
  events.filterMap fun
    | .resumed call => some call
    | _ => none

/-- Waiters resume in the order of their arrival, each at most once. -/
structure InOrder (events : List SlotEvent) : Prop where
  arrival : (queuedCalls events).Pairwise (· < ·)
  resumed : resumedCalls events <+: queuedCalls events

def slotLog (limit : PerTargetConcurrency) (is : List SlotInput) : List SlotEvent :=
  ((slots limit).trace is).flatMap Prod.snd

/-- No call arrives while the free slots are those of resolved waiters. -/
def NoGap (limit : PerTargetConcurrency) (s : Slots) (i : SlotInput) : Prop :=
  i = .arrive → s.sem.active < limit.value → s.sem.active + s.woken.length < limit.value

variable {limit : PerTargetConcurrency}

/-! ## Steps -/

/-- What one input does. -/
inductive SlotCase (limit : PerTargetConcurrency) (s : Slots) :
    SlotInput → List SlotEvent × Slots → Prop where
  | idle {i : SlotInput} (hi : i ≠ .arrive) : SlotCase limit s i ([], s)
  | queued (hfull : (limit.value : ℤ) ≤ s.sem.active) :
      SlotCase limit s .arrive ([.queued s.calls],
        { s with calls := s.calls + 1, sem := { s.sem with queue := s.sem.queue ++ [s.calls] } })
  | started (hfree : s.sem.active < limit.value) :
      SlotCase limit s .arrive
        ([.started s.calls], { s with calls := s.calls + 1 }.enter s.calls)
  | resumed {call : ℕ} {woken : List ℕ} (hwoken : s.woken = call :: woken) :
      SlotCase limit s .resume ([.resumed call], { s with woken := woken }.enter call)
  | finished {call : ℕ} (hrunning : call ∈ s.running) (hqueue : s.sem.queue = []) :
      SlotCase limit s (.finish call) ([.finished call],
        { s with running := s.running.erase call, sem := ⟨s.sem.active - 1, []⟩ })
  | passed {call next : ℕ} {queue : List ℕ} (hrunning : call ∈ s.running)
      (hqueue : s.sem.queue = next :: queue) :
      SlotCase limit s (.finish call) ([.finished call],
        { s with
          running := s.running.erase call
          sem := ⟨s.sem.active - 1, queue⟩
          woken := s.woken ++ [next] })

theorem slotCase_step (limit : PerTargetConcurrency) (s : Slots) (i : SlotInput) :
    SlotCase limit s i ((slots limit).step s i) := by
  cases i with
  | arrive =>
      show SlotCase limit s .arrive (withSlot limit s)
      unfold withSlot
      by_cases hfull : (limit.value : ℤ) ≤ s.sem.active
      · rw [if_pos hfull]
        exact .queued hfull
      · rw [if_neg hfull]
        exact .started (not_le.mp hfull)
  | resume =>
      show SlotCase limit s .resume (resumeWaiter s)
      unfold resumeWaiter
      cases hwoken : s.woken with
      | nil => exact .idle SlotInput.noConfusion
      | cons call woken => exact .resumed hwoken
  | finish call =>
      show SlotCase limit s (.finish call) (releaseSlot call s)
      unfold releaseSlot
      by_cases hrunning : call ∈ s.running
      · rw [if_neg (not_not.mpr hrunning)]
        cases hqueue : s.sem.queue with
        | nil => exact .finished hrunning hqueue
        | cons next queue => exact .passed hrunning hqueue
      · rw [if_pos hrunning]
        exact .idle SlotInput.noConfusion

/-- The count, and that a waiter is always behind a call that runs or resumes. -/
structure Slots.Consistent (s : Slots) : Prop where
  counted : s.sem.active = s.running.length
  served : s.running = [] → s.woken = [] → s.sem.queue = []

theorem Slots.Consistent.step {s : Slots} {i : SlotInput} {x : List SlotEvent × Slots}
    (h : s.Consistent) (hx : SlotCase limit s i x) : x.2.Consistent := by
  have hcounted := h.counted
  cases hx with
  | idle hi => exact h
  | queued hfull =>
      refine ⟨hcounted, fun hrunning => ?_⟩
      have hmin := limit.min
      replace hrunning : s.running = [] := hrunning
      rw [hcounted, hrunning, List.length_nil] at hfull
      omega
  | started hfree =>
      constructor
      · simp [Slots.enter, hcounted]
      · simp [Slots.enter]
  | resumed hwoken =>
      constructor
      · simp [Slots.enter, hcounted]
      · simp [Slots.enter]
  | finished hrunning hqueue =>
      constructor
      · have hlength := List.length_erase_add_one hrunning
        simp only [hcounted]
        omega
      · exact fun _ _ => rfl
  | passed hrunning hqueue =>
      constructor
      · have hlength := List.length_erase_add_one hrunning
        simp only [hcounted]
        omega
      · simp

theorem slotsConsistent_after (is : List SlotInput) : ((slots limit).after is).Consistent := by
  refine (slots limit).invariant (E := fun _ => True) (I := fun _ s => s.Consistent)
    (fun _ _ _ => trivial) ⟨rfl, fun _ _ => rfl⟩
    (fun is i _ h => h.step (slotCase_step limit _ i)) is trivial

/-! ## The order of the waiters -/

/-- The waiters that have resumed, will resume and still wait are those that were
queued, in this order. -/
structure Lined (events : List SlotEvent) (s : Slots) : Prop where
  line : resumedCalls events ++ s.woken ++ s.sem.queue = queuedCalls events
  arrival : (queuedCalls events).Pairwise (· < ·)
  before : ∀ call ∈ queuedCalls events, call < s.calls

theorem Lined.step {events : List SlotEvent} {s : Slots} {i : SlotInput}
    {x : List SlotEvent × Slots} (h : Lined events s) (hx : SlotCase limit s i x) :
    Lined (events ++ x.1) x.2 := by
  have hline := h.line
  have hbefore : ∀ call ∈ queuedCalls events, call < s.calls + 1 :=
    fun call hcall => Nat.lt_succ_of_lt (h.before call hcall)
  cases hx with
  | idle hi =>
      rw [List.append_nil]
      exact h
  | queued hfull =>
      have hqueued : queuedCalls (events ++ [.queued s.calls]) = queuedCalls events ++ [s.calls] := by
        simp [queuedCalls]
      constructor
      · rw [hqueued, ← hline]
        simp [resumedCalls]
      · rw [hqueued, List.pairwise_append]
        refine ⟨h.arrival, List.pairwise_singleton _ _, fun a ha b hb => ?_⟩
        rw [List.mem_singleton.mp hb]
        exact h.before a ha
      · intro call hcall
        rw [hqueued, List.mem_append, List.mem_singleton] at hcall
        rcases hcall with hcall | rfl
        · exact hbefore call hcall
        · exact Nat.lt_succ_self _
  | started hfree =>
      constructor
      · simpa [resumedCalls, queuedCalls, Slots.enter] using hline
      · simpa [queuedCalls] using h.arrival
      · simpa [queuedCalls, Slots.enter] using hbefore
  | resumed hwoken =>
      constructor
      · rw [hwoken] at hline
        simpa [resumedCalls, queuedCalls, Slots.enter] using hline
      · simpa [queuedCalls] using h.arrival
      · simpa [queuedCalls, Slots.enter] using h.before
  | finished hrunning hqueue =>
      constructor
      · rw [hqueue] at hline
        simpa [resumedCalls, queuedCalls] using hline
      · simpa [queuedCalls] using h.arrival
      · simpa [queuedCalls] using h.before
  | passed hrunning hqueue =>
      constructor
      · rw [hqueue] at hline
        simpa [resumedCalls, queuedCalls] using hline
      · simpa [queuedCalls] using h.arrival
      · simpa [queuedCalls] using h.before

theorem slotsLined_after (is : List SlotInput) : Lined (slotLog limit is) ((slots limit).after is) := by
  refine (slots limit).invariant (E := fun _ => True) (I := fun is s => Lined (slotLog limit is) s)
    (fun _ _ _ => trivial) ⟨rfl, .nil, by simp [slotLog, queuedCalls]⟩ (fun is i _ h => ?_) is
    trivial
  have hlog : slotLog limit (is ++ [i]) = slotLog limit is ++ (slots limit).answer is i := by
    simp [slotLog]
  rw [hlog]
  exact h.step (slotCase_step limit _ i)

theorem inOrder_slotLog (is : List SlotInput) : InOrder (slotLog limit is) := by
  have hlined := @slotsLined_after limit is
  refine ⟨hlined.arrival, ?_⟩
  rw [← hlined.line, List.append_assoc]
  exact List.prefix_append _ _

/-! ## The bound -/

/-- The resolved waiters have their slots. -/
def Slots.Reserved (limit : PerTargetConcurrency) (s : Slots) : Prop :=
  s.sem.active + s.woken.length ≤ limit.value

theorem Slots.Reserved.step {s : Slots} {i : SlotInput} {x : List SlotEvent × Slots}
    (h : s.Reserved limit) (hgap : NoGap limit s i) (hx : SlotCase limit s i x) :
    x.2.Reserved limit := by
  unfold Slots.Reserved at h ⊢
  cases hx with
  | idle hi => exact h
  | queued hfull => exact h
  | started hfree =>
      have hfits := hgap rfl hfree
      simp only [Slots.enter]
      omega
  | resumed hwoken =>
      rw [hwoken, List.length_cons] at h
      simp only [Slots.enter]
      push_cast at h
      omega
  | finished hrunning hqueue =>
      dsimp only
      omega
  | passed hrunning hqueue =>
      simp only [List.length_append, List.length_singleton]
      push_cast
      omega

theorem slotsReserved_after (is : List SlotInput) (h : (slots limit).Along (NoGap limit) is) :
    ((slots limit).after is).Reserved limit := by
  refine (slots limit).invariant ((slots limit).prefixClosed_along (NoGap limit))
    (I := fun _ s => s.Reserved limit) ?_
    (fun is i hgap h => h.step (hgap.last (slots limit)) (slotCase_step limit _ i)) is h
  simp [Slots.Reserved, slots]

theorem slotsSound_after (is : List SlotInput) (h : (slots limit).Along (NoGap limit) is) :
    ((slots limit).after is).Sound limit := by
  have hconsistent := @slotsConsistent_after limit is
  have hreserved : _ ≤ _ := slotsReserved_after is h
  refine ⟨?_, hconsistent.counted, hconsistent.served⟩
  have hcounted := hconsistent.counted
  omega

/-- The resolved waiters resume, one after the other. -/
theorem running_resume (is : List SlotInput) (k : ℕ)
    (hk : k ≤ ((slots limit).after is).woken.length) :
    ((slots limit).after (is ++ List.replicate k .resume)).running.length =
        ((slots limit).after is).running.length + k ∧
      ((slots limit).after (is ++ List.replicate k .resume)).woken =
        ((slots limit).after is).woken.drop k := by
  induction k with
  | zero => simp
  | succ k ih =>
      obtain ⟨hrunning, hwoken⟩ := ih (Nat.le_of_succ_le hk)
      obtain ⟨call, hcall⟩ : ∃ call, ((slots limit).after is).woken.drop k =
          call :: ((slots limit).after is).woken.drop (k + 1) :=
        ⟨_, List.drop_eq_getElem_cons hk⟩
      rw [List.replicate_succ', ← List.append_assoc, Machine.after_concat]
      have hstep : (slots limit).step ((slots limit).after (is ++ List.replicate k .resume))
          .resume = resumeWaiter ((slots limit).after (is ++ List.replicate k .resume)) := rfl
      rw [hstep, resumeWaiter, hwoken, hcall]
      simp [Slots.enter, hrunning, Nat.add_assoc]

theorem along_resume {is : List SlotInput} (h : (slots limit).Along (NoGap limit) is) (k : ℕ) :
    (slots limit).Along (NoGap limit) (is ++ List.replicate k .resume) := by
  induction k with
  | zero => simpa using h
  | succ k ih =>
      rw [List.replicate_succ', ← List.append_assoc, Machine.along_concat]
      exact ⟨ih, fun hresume => SlotInput.noConfusion hresume⟩

/-- In the states of a run, and when the resolved waiters then resume, the bound, the
count and the progress of the waiters hold and the waiters come in order, exactly if no
call arrives in the gap. -/
theorem withSlot_bounded_iff (limit : PerTargetConcurrency) (is : List SlotInput) :
    (∀ pre, pre <+: is → ∀ k,
        ((slots limit).after (pre ++ List.replicate k .resume)).Sound limit ∧
          InOrder (slotLog limit (pre ++ List.replicate k .resume))) ↔
      (slots limit).Along (NoGap limit) is := by
  constructor
  · rintro h pre i post rfl rfl hfree
    by_contra hgap
    set s := (slots limit).after pre with hs
    have hprefix : pre ++ [.arrive] <+: pre ++ .arrive :: post := ⟨post, by simp⟩
    have hstep : (slots limit).after (pre ++ [.arrive]) =
        { s with calls := s.calls + 1 }.enter s.calls := by
      rw [Machine.after_concat, ← hs]
      show (withSlot limit s).2 = _
      rw [withSlot, if_neg (not_le.mpr hfree)]
    have hwoken : ((slots limit).after (pre ++ [.arrive])).woken = s.woken := by
      rw [hstep]
      rfl
    have hsound := (h _ hprefix s.woken.length).1
    have hrunning := (@running_resume limit (pre ++ [.arrive]) s.woken.length
      (by rw [hwoken])).1
    have hbounded := hsound.bounded
    have hcounted := (@slotsConsistent_after limit pre).counted
    rw [hrunning, hstep] at hbounded
    simp only [Slots.enter, List.length_append, List.length_singleton] at hbounded
    rw [← hs] at hcounted
    omega
  · rintro h pre ⟨post, rfl⟩ k
    have hpre := Transition.PrefixClosed.of_append ((slots limit).prefixClosed_along _) h
    exact ⟨slotsSound_after _ (along_resume hpre k), inOrder_slotLog _⟩

/-! ## A call in the gap -/

def oneSlot : PerTargetConcurrency := ⟨1, by decide, by decide⟩

/-- One slot: a call runs, a second one waits and is resolved when the first ends, and a
third one arrives before the second resumes. -/
def gapRun : List SlotInput := [.arrive, .arrive, .finish 0, .arrive, .resume]

theorem gapRun_exceeds :
    ((slots oneSlot).after gapRun).running = [2, 1] ∧
      ¬((slots oneSlot).after gapRun).Sound oneSlot := by
  have hrunning : ((slots oneSlot).after gapRun).running = [2, 1] := by decide +kernel
  refine ⟨hrunning, fun h => ?_⟩
  have hbounded := h.bounded
  rw [hrunning] at hbounded
  exact absurd hbounded (by decide)

end RemoteOps

import RemoteOps.Ecma.JsonText
import RemoteOps.Ecma.Buffer
import RemoteOps.Ecma.OrderedMap
import RemoteOps.Transition.Machine

/-!
# Rate limits

A limiter keeps for each address the times of the requests it let through, drops those that
are older than its window and refuses a request when as many as its maximum are left. The map
of a limiter is shared by all addresses, and it is cleared when it holds too many of them.

As long as that does not happen, every window is bounded (`windows_bounded`). Requests from
enough other addresses make the limiter forget what it counted (`flooded_authorize`). A request
is refused only when the window that ends at it is full, whether the map was cleared or not.
-/

namespace RemoteOps

open Ecma Transition

/-! ## Model -/

structure LimitedRequest where
  ip : Option JsString
  now : ℤ
  deriving DecidableEq

/-- `req.ip ?? "unknown"`. -/
def LimitedRequest.key (r : LimitedRequest) : JsString := r.ip.getD (js "unknown")

structure Limiter where
  max : ℕ
  windowMs : ℤ
  /-- the map is cleared when it holds more addresses -/
  maxAddresses : ℕ

abbrev Hits := OrderedMap (List ℤ)

/-- `hits.get(key) ?? []`. -/
def hitsOf (hits : Hits) (key : JsString) : List ℤ := (hits.get? key).getD []

def Limiter.active (l : Limiter) (t : ℤ) (times : List ℤ) : List ℤ :=
  times.filter fun x => t - x < l.windowMs

/-- The middleware; whether the request gets through. -/
def Limiter.pass (l : Limiter) (hits : Hits) (r : LimitedRequest) : Bool × Hits :=
  let active := l.active r.now (hitsOf hits r.key)
  if l.max ≤ active.length then (false, hits)
  else
    let hits := hits.set r.key (active ++ [r.now])
    (true, if l.maxAddresses < hits.keys.length then OrderedMap.empty else hits)

def authLimiter (max : ℕ) (windowMs : ℤ) : Limiter := ⟨max, windowMs, 5000⟩

def rateLimit (maxPerMin : ℕ) : Limiter := ⟨maxPerMin, 60000, 10000⟩

def pairStartLimiter (max : ℕ) (windowMs : ℤ) : Limiter := ⟨max, windowMs, 10000⟩

/-- The limiters of the server. -/
inductive RateLimiter where
  | register
  | authorize
  | token
  | mcp
  | agent
  | pairStart
  deriving DecidableEq

def RateLimiter.limiter (rateLimitPerMin : ℕ) : RateLimiter → Limiter
  | register => authLimiter 30 60000
  | authorize => authLimiter 12 (5 * 60000)
  | token => authLimiter 60 60000
  | mcp => rateLimit rateLimitPerMin
  | agent => rateLimit (Nat.max 30 (rateLimitPerMin / 2))
  | pairStart => pairStartLimiter 5 (10 * 60000)

namespace Limiter

variable (l : Limiter)

def machine : Machine Hits LimitedRequest Bool where
  start := OrderedMap.empty
  step := l.pass

/-- The times at which requests of the address were let through. -/
def admittedTimes (key : JsString) (is : List LimitedRequest) : List ℤ :=
  (l.machine.trace is).filterMap fun x => if x.2 = true ∧ x.1.key = key then some x.1.now else none

/-! ## The property -/

structure BoundsWindows (is : List LimitedRequest) : Prop where
  bounded : ∀ key start, ((l.admittedTimes key is).filter fun t =>
    decide (start ≤ t ∧ t < start + l.windowMs)).length ≤ l.max
  refused : ∀ pre r post, is = pre ++ r :: post → l.machine.answer pre r = false →
    l.max ≤ ((l.admittedTimes r.key pre).filter fun t =>
      decide (r.now - l.windowMs < t ∧ t ≤ r.now)).length

/-- The map has room for the address. -/
def Remembers (hits : Hits) (r : LimitedRequest) : Prop :=
  r.key ∈ hits.keys ∨ hits.keys.length < l.maxAddresses

instance decidableRemembers (hits : Hits) (r : LimitedRequest) : Decidable (l.Remembers hits r) :=
  inferInstanceAs (Decidable (_ ∨ _))

/-! ## One request -/

variable {l}

theorem admittedTimes_concat (key : JsString) (is : List LimitedRequest) (r : LimitedRequest) :
    l.admittedTimes key (is ++ [r]) = l.admittedTimes key is ++
      if l.machine.answer is r = true ∧ r.key = key then [r.now] else [] := by
  rw [admittedTimes, Machine.trace_concat, List.filterMap_append]
  congr 1
  by_cases h : l.machine.answer is r = true ∧ r.key = key
  · rw [if_pos h]
    exact List.filterMap_cons_some (if_pos h)
  · rw [if_neg h]
    exact List.filterMap_cons_none (if_neg h)

theorem mem_of_mem_admittedTimes {key : JsString} {is : List LimitedRequest} {t : ℤ}
    (h : t ∈ l.admittedTimes key is) : t ∈ is.flatMap fun r => [r.now] := by
  obtain ⟨⟨r, o⟩, hmem, hsome⟩ := List.mem_filterMap.mp h
  split_ifs at hsome
  obtain ⟨pre, post, rfl, -⟩ := l.machine.mem_trace_iff.mp hmem
  simp only [Option.some.injEq] at hsome
  simp [hsome]

theorem hitsOf_set (hits : Hits) (key key' : JsString) (times : List ℤ) :
    hitsOf (hits.set key times) key' = if key' = key then times else hitsOf hits key' := by
  rw [hitsOf, OrderedMap.get?_set, hitsOf]
  split_ifs <;> rfl

/-- What a request does to the map: nothing when it is refused; else its time is noted, and
perhaps everything is forgotten. -/
theorem pass_cases (hits : Hits) (r : LimitedRequest) :
    l.max ≤ (l.active r.now (hitsOf hits r.key)).length ∧ l.pass hits r = (false, hits) ∨
    (l.active r.now (hitsOf hits r.key)).length < l.max ∧
      (l.pass hits r = (true, OrderedMap.empty) ∧ l.maxAddresses <
          (hits.set r.key (l.active r.now (hitsOf hits r.key) ++ [r.now])).keys.length ∨
        l.pass hits r =
            (true, hits.set r.key (l.active r.now (hitsOf hits r.key) ++ [r.now])) ∧
          (hits.set r.key (l.active r.now (hitsOf hits r.key) ++ [r.now])).keys.length ≤
            l.maxAddresses) := by
  rw [pass]
  dsimp only
  split_ifs with hfull hmany
  · exact Or.inl ⟨hfull, rfl⟩
  · exact Or.inr ⟨not_le.mp hfull, Or.inl ⟨rfl, hmany⟩⟩
  · exact Or.inr ⟨not_le.mp hfull, Or.inr ⟨rfl, not_lt.mp hmany⟩⟩

/-! ## Refusals -/

/-- Only times of admitted requests are noted, each once. -/
theorem hitsOf_sublist (is : List LimitedRequest) (key : JsString) :
    List.Sublist (hitsOf (l.machine.after is) key) (l.admittedTimes key is) := by
  induction is using List.reverseRecOn with
  | nil => exact List.Sublist.refl _
  | append_singleton is r ih =>
      rw [Machine.after_concat, admittedTimes_concat]
      have hanswer : l.machine.answer is r = (l.pass (l.machine.after is) r).1 := rfl
      have hstep : l.machine.step (l.machine.after is) r = l.pass (l.machine.after is) r := rfl
      rw [hstep, hanswer]
      rcases l.pass_cases (l.machine.after is) r with ⟨-, h⟩ | ⟨-, ⟨h, -⟩ | ⟨h, -⟩⟩
      · rw [h, if_neg (by simp), List.append_nil]
        exact ih
      · rw [h]
        exact List.nil_sublist _
      · rw [h, hitsOf_set]
        by_cases hkey : key = r.key
        · subst hkey
          rw [if_pos rfl, if_pos ⟨rfl, rfl⟩]
          exact ((List.filter_sublist).trans ih).append (List.Sublist.refl _)
        · rw [if_neg hkey, if_neg (fun h => hkey h.2.symm), List.append_nil]
          exact ih

/-- A request is refused when the window that ends at it is full. -/
theorem full_of_refused {pre : List LimitedRequest} {r : LimitedRequest}
    (hascending : Ascending (fun r : LimitedRequest => [r.now]) (pre ++ [r]))
    (h : l.machine.answer pre r = false) :
    l.max ≤ ((l.admittedTimes r.key pre).filter fun t =>
      decide (r.now - l.windowMs < t ∧ t ≤ r.now)).length := by
  have hanswer : l.machine.answer pre r = (l.pass (l.machine.after pre) r).1 := rfl
  rw [hanswer] at h
  rcases l.pass_cases (l.machine.after pre) r with ⟨hfull, -⟩ | ⟨-, ⟨hresult, -⟩ | ⟨hresult, -⟩⟩
  · have hwindow : ((l.admittedTimes r.key pre).filter fun t => decide
        (r.now - l.windowMs < t ∧ t ≤ r.now)) = l.active r.now (l.admittedTimes r.key pre) := by
      apply List.filter_congr
      intro t ht
      have hle := hascending.le (mem_of_mem_admittedTimes ht) (List.mem_singleton.mpr rfl)
      exact decide_eq_decide.mpr (by omega)
    rw [hwindow]
    exact hfull.trans ((hitsOf_sublist pre r.key).filter _).length_le
  · rw [hresult] at h
    cases h
  · rw [hresult] at h
    cases h

/-! ## Windows -/

/-- The map holds what still counts. -/
structure Keeps (l : Limiter) (is : List LimitedRequest) (hits : Hits) : Prop where
  size : hits.keys.length ≤ l.maxAddresses
  active : ∀ key t, (∀ r ∈ is, r.now ≤ t) →
    l.active t (hitsOf hits key) = l.active t (l.admittedTimes key is)

/-- What no longer counted at an earlier time does not count now. -/
theorem active_active {t t' : ℤ} (h : t ≤ t') (times : List ℤ) :
    l.active t' (l.active t times) = l.active t' times := by
  rw [active, active, List.filter_filter]
  apply List.filter_congr
  intro x _
  by_cases hx : t' - x < l.windowMs
  · have hx' : t - x < l.windowMs := by omega
    simp [hx, hx']
  · simp [hx]

theorem active_append (t : ℤ) (xs ys : List ℤ) :
    l.active t (xs ++ ys) = l.active t xs ++ l.active t ys :=
  List.filter_append ..

theorem keeps_step {is : List LimitedRequest} {r : LimitedRequest}
    (hascending : Ascending (fun r : LimitedRequest => [r.now]) (is ++ [r]))
    (hremembers : l.Remembers (l.machine.after is) r) (h : l.Keeps is (l.machine.after is)) :
    l.Keeps (is ++ [r]) (l.machine.after (is ++ [r])) := by
  have hbefore : ∀ x ∈ is, x.now ≤ r.now := fun x hx =>
    hascending.le (List.mem_flatMap.mpr ⟨x, hx, List.mem_singleton.mpr rfl⟩)
      (List.mem_singleton.mpr rfl)
  have hanswer : l.machine.answer is r = (l.pass (l.machine.after is) r).1 := rfl
  have hstep : l.machine.step (l.machine.after is) r = l.pass (l.machine.after is) r := rfl
  rw [Machine.after_concat, hstep]
  rcases l.pass_cases (l.machine.after is) r with ⟨-, hresult⟩ | ⟨-, ⟨-, hmany⟩ | ⟨hresult, hfew⟩⟩
  · rw [hresult]
    refine ⟨h.size, fun key t ht => ?_⟩
    rw [admittedTimes_concat, hanswer, hresult, if_neg (by simp), List.append_nil]
    exact h.active key t fun x hx => ht x (List.mem_append_left _ hx)
  · have hsize := h.size
    rw [OrderedMap.keys_set] at hmany
    rcases hremembers with hmem | hroom
    · rw [if_pos hmem] at hmany
      omega
    · split_ifs at hmany
      · omega
      · rw [List.length_append, List.length_singleton] at hmany
        omega
  · rw [hresult]
    refine ⟨hfew, fun key t ht => ?_⟩
    have hold := h.active key t fun x hx => ht x (List.mem_append_left _ hx)
    rw [admittedTimes_concat, hanswer, hresult, hitsOf_set]
    by_cases hkey : key = r.key
    · subst hkey
      rw [if_pos rfl, if_pos ⟨rfl, rfl⟩, active_append, active_append,
        active_active (ht r (by simp)), hold]
    · rw [if_neg hkey, if_neg (fun hk => hkey hk.2.symm), List.append_nil]
      exact hold

/-- The runs that the argument is about. -/
def RemembersAll (l : Limiter) (is : List LimitedRequest) : Prop :=
  Ascending (fun r : LimitedRequest => [r.now]) is ∧
    l.machine.Along (fun hits r => l.Remembers hits r) is

theorem prefixClosed_remembersAll : PrefixClosed l.RemembersAll :=
  (prefixClosed_ascending _).and (l.machine.prefixClosed_along _)

theorem keeps_after {is : List LimitedRequest} (h : l.RemembersAll is) :
    l.Keeps is (l.machine.after is) := by
  refine l.machine.invariant prefixClosed_remembersAll (I := fun is hits => l.Keeps is hits)
    ⟨Nat.zero_le _, fun key t _ => rfl⟩ (fun is r hrun hkeeps => ?_) is h
  rw [← Machine.after_concat]
  exact keeps_step hrun.1 hrun.2.last hkeeps

theorem bounded_after {is : List LimitedRequest} (h : l.RemembersAll is) (key : JsString)
    (start : ℤ) :
    ((l.admittedTimes key is).filter fun t =>
      decide (start ≤ t ∧ t < start + l.windowMs)).length ≤ l.max := by
  induction is using List.reverseRecOn with
  | nil => exact Nat.zero_le _
  | append_singleton is r ih =>
      have hpre := prefixClosed_remembersAll is r h
      have hwindow := ih hpre
      rw [admittedTimes_concat, List.filter_append, List.length_append]
      by_cases hcounts : (l.machine.answer is r = true ∧ r.key = key) ∧
          start ≤ r.now ∧ r.now < start + l.windowMs
      · obtain ⟨⟨hadmitted, rfl⟩, hinside⟩ := hcounts
        rw [if_pos ⟨hadmitted, rfl⟩, List.filter_cons_of_pos (by simpa using hinside),
          List.filter_nil, List.length_singleton]
        -- what lies in the window before the request still counts at the request
        have hactive : (l.active r.now (l.admittedTimes r.key is)).length < l.max := by
          rw [← (keeps_after hpre).active r.key r.now fun x hx =>
            h.1.le (List.mem_flatMap.mpr ⟨x, hx, List.mem_singleton.mpr rfl⟩)
              (List.mem_singleton.mpr rfl)]
          have hanswer : l.machine.answer is r = (l.pass (l.machine.after is) r).1 := rfl
          rcases l.pass_cases (l.machine.after is) r with ⟨-, hresult⟩ | ⟨hroom, -⟩
          · rw [hanswer, hresult] at hadmitted
            cases hadmitted
          · exact hroom
        have hsub : ((l.admittedTimes r.key is).filter fun t =>
            decide (start ≤ t ∧ t < start + l.windowMs)).length ≤
              (l.active r.now (l.admittedTimes r.key is)).length := by
          apply List.Sublist.length_le
          apply List.monotone_filter_right
          intro t ht
          have hinwindow := of_decide_eq_true ht
          exact decide_eq_true (by omega)
        omega
      · have hnone : ((if l.machine.answer is r = true ∧ r.key = key then [r.now] else []).filter
            fun t => decide (start ≤ t ∧ t < start + l.windowMs)) = [] := by
          split_ifs with hadmitted
          · exact List.filter_cons_of_neg fun hinside =>
              hcounts ⟨hadmitted, of_decide_eq_true hinside⟩
          · rfl
        rw [hnone, List.length_nil, Nat.add_zero]
        exact hwindow

end Limiter

/-- While no limiter forgets an address, its windows are bounded and nothing is refused without
need. -/
theorem windows_bounded (rateLimitPerMin : ℕ) (limiter : RateLimiter) (is : List LimitedRequest)
    (hascending : Ascending (fun r : LimitedRequest => [r.now]) is)
    (hremembers : (limiter.limiter rateLimitPerMin).machine.Along
      (fun hits r => (limiter.limiter rateLimitPerMin).Remembers hits r) is) :
    (limiter.limiter rateLimitPerMin).BoundsWindows is := by
  refine ⟨fun key start => Limiter.bounded_after ⟨hascending, hremembers⟩ key start, ?_⟩
  rintro pre r post rfl hrefused
  refine Limiter.full_of_refused ?_ hrefused
  rw [List.append_cons] at hascending
  exact PrefixClosed.of_append (prefixClosed_ascending _) hascending

/-- Two attempts to sign in. -/
theorem windows_bounded_twoAttempts :
    (RateLimiter.authorize.limiter 120).BoundsWindows
      [⟨some (js "203.0.113.7"), 0⟩, ⟨some (js "203.0.113.7"), 1000⟩] :=
  windows_bounded 120 .authorize _ (by unfold Ascending; decide)
    ((Machine.along_iff_alongFrom _ _ _).mpr (by decide +kernel))

/-! ## A flood of addresses -/

namespace Limiter

variable {l : Limiter}

theorem hitsOf_of_notMem {hits : Hits} {key : JsString} (h : key ∉ hits.keys) :
    hitsOf hits key = [] := by
  rw [hitsOf, OrderedMap.get?, lookup_eq_none_iff.mpr h]
  rfl

/-- As many new addresses as there is room for, and one more, clear the map. -/
theorem cleared_by_flood (hmax : 0 < l.max) (t : ℤ) {ips : List JsString} (hnodup : ips.Nodup)
    {hits : Hits} (hfresh : ∀ ip ∈ ips, ip ∉ hits.keys)
    (hroom : hits.keys.length ≤ l.maxAddresses)
    (hsize : hits.keys.length + ips.length = l.maxAddresses + 1) :
    (ips.map fun ip => (⟨some ip, t⟩ : LimitedRequest)).foldl (fun hits r => (l.pass hits r).2)
      hits = OrderedMap.empty := by
  induction ips generalizing hits with
  | nil =>
      rw [List.length_nil] at hsize
      omega
  | cons ip ips ih =>
      rw [List.nodup_cons] at hnodup
      rw [List.length_cons] at hsize
      have hip : ip ∉ hits.keys := hfresh ip List.mem_cons_self
      have hkey : (⟨some ip, t⟩ : LimitedRequest).key = ip := rfl
      have hkeys : ∀ times, (hits.set ip times).keys = hits.keys ++ [ip] := fun times => by
        rw [OrderedMap.keys_set, if_neg hip]
      rw [List.map_cons, List.foldl_cons]
      rcases l.pass_cases hits ⟨some ip, t⟩ with ⟨hfull, -⟩ | ⟨-, ⟨h, hmany⟩ | ⟨h, hfew⟩⟩
      · rw [hkey, hitsOf_of_notMem hip] at hfull
        exact absurd hfull (not_le.mpr hmax)
      · rw [hkey, hkeys, List.length_append, List.length_singleton] at hmany
        have hnil : ips = [] := List.length_eq_zero_iff.mp (by omega)
        rw [h, hnil]
        rfl
      · rw [hkey, hkeys, List.length_append, List.length_singleton] at hfew
        rw [h]
        refine ih hnodup.2 ?_ ?_ ?_
        · intro ip' hip' hmem
          rw [hkey, hkeys, List.mem_append, List.mem_singleton] at hmem
          rcases hmem with hold | rfl
          · exact hfresh ip' (List.mem_cons_of_mem _ hip') hold
          · exact hnodup.1 hip'
        · rw [hkey, hkeys, List.length_append, List.length_singleton]
          exact hfew
        · rw [hkey, hkeys, List.length_append, List.length_singleton]
          omega

theorem admittedTimes_prefix (key : JsString) (is js : List LimitedRequest) :
    l.admittedTimes key is <+: l.admittedTimes key (is ++ js) := by
  induction js using List.reverseRecOn with
  | nil => rw [List.append_nil]
  | append_singleton js r ih =>
      rw [← List.append_assoc, admittedTimes_concat]
      exact ih.trans (List.prefix_append _ _)

end Limiter

/-- The addresses from `2001:db8::1000` on. -/
def floodAddress (i : ℕ) : JsString :=
  js "2001:db8::" ++ [hexUnitOf ((4096 + i) / 4096 % 16), hexUnitOf ((4096 + i) / 256 % 16),
    hexUnitOf ((4096 + i) / 16 % 16), hexUnitOf ((4096 + i) % 16)]

theorem floodAddress_injOn {i j : ℕ} (hi : i < 5000) (hj : j < 5000)
    (h : floodAddress i = floodAddress j) : i = j := by
  have hdigit : ∀ n m, hexUnitOf (n % 16) = hexUnitOf (m % 16) → n % 16 = m % 16 := fun n m =>
    hexUnitOf_injOn _ (Nat.mod_lt n (by decide)) _ (Nat.mod_lt m (by decide))
  have hdigits := List.append_cancel_left h
  simp only [List.cons.injEq, and_true] at hdigits
  obtain ⟨h3, h2, h1, h0⟩ := hdigits
  have := hdigit _ _ h3
  have := hdigit _ _ h2
  have := hdigit _ _ h1
  have := hdigit _ _ h0
  omega

def floodAddresses : List JsString := (List.range 5000).map floodAddress

theorem nodup_floodAddresses : floodAddresses.Nodup := by
  refine List.Nodup.map_on (fun i hi j hj => ?_) List.nodup_range
  exact floodAddress_injOn (List.mem_range.mp hi) (List.mem_range.mp hj)

def attacker : JsString := js "203.0.113.7"

theorem attacker_notMem_floodAddresses : attacker ∉ floodAddresses := by
  intro h
  obtain ⟨i, -, heq⟩ := List.mem_map.mp h
  have hlength : (floodAddress i).length = attacker.length := congrArg List.length heq
  have hprefix : (js "2001:db8::").length = 10 := by decide
  have hattacker : attacker.length = 11 := by decide
  rw [floodAddress, List.length_append, hprefix, hattacker] at hlength
  simp only [List.length_cons, List.length_nil] at hlength
  omega

/-- All the attempts that one address has. -/
def attempts : List LimitedRequest := List.replicate 12 ⟨some attacker, 0⟩

def flood : List LimitedRequest := floodAddresses.map fun ip => ⟨some ip, 0⟩

/-- The attempts, a flood, and one attempt more, all at one time. -/
def floodedRun : List LimitedRequest := attempts ++ flood ++ [⟨some attacker, 0⟩]

theorem after_flood :
    (RateLimiter.authorize.limiter 120).machine.after (attempts ++ flood) = OrderedMap.empty := by
  have hkeys : ((RateLimiter.authorize.limiter 120).machine.after attempts).keys = [attacker] := by
    decide +kernel
  have happend : (RateLimiter.authorize.limiter 120).machine.after (attempts ++ flood) =
      flood.foldl (fun hits r => ((RateLimiter.authorize.limiter 120).pass hits r).2)
        ((RateLimiter.authorize.limiter 120).machine.after attempts) :=
    List.foldl_append ..
  rw [happend]
  refine Limiter.cleared_by_flood (by decide) 0 nodup_floodAddresses ?_ ?_ ?_
  · intro ip hip
    rw [hkeys, List.mem_singleton]
    rintro rfl
    exact attacker_notMem_floodAddresses hip
  · rw [hkeys]
    decide
  · rw [hkeys, floodAddresses, List.length_map, List.length_range]
    rfl

theorem ascending_floodedRun : Ascending (fun r : LimitedRequest => [r.now]) floodedRun := by
  have hzero : ∀ t ∈ floodedRun.flatMap fun r => [r.now], t = 0 := by
    intro t ht
    obtain ⟨r, hr, htime⟩ := List.mem_flatMap.mp ht
    rw [List.mem_singleton.mp htime]
    rcases List.mem_append.mp hr with hr | hr
    · rcases List.mem_append.mp hr with hr | hr
      · rw [List.eq_of_mem_replicate hr]
      · obtain ⟨ip, -, rfl⟩ := List.mem_map.mp hr
        rfl
    · rw [List.mem_singleton.mp hr]
  refine List.pairwise_of_forall_mem_list fun t ht t' ht' => ?_
  rw [hzero t ht, hzero t' ht']

theorem flooded_authorize :
    Ascending (fun r : LimitedRequest => [r.now]) floodedRun ∧
      ¬(RateLimiter.authorize.limiter 120).BoundsWindows floodedRun := by
  constructor
  · exact ascending_floodedRun
  · intro h
    have hcount := h.bounded attacker 0
    have hprefix := Limiter.admittedTimes_prefix (l := RateLimiter.authorize.limiter 120) attacker
      attempts flood
    have hfirst : (RateLimiter.authorize.limiter 120).admittedTimes attacker attempts =
        List.replicate 12 0 := by decide +kernel
    obtain ⟨rest, hrest⟩ := hprefix
    rw [floodedRun, Limiter.admittedTimes_concat, ← hrest, hfirst] at hcount
    have hlast : (RateLimiter.authorize.limiter 120).machine.answer (attempts ++ flood)
        ⟨some attacker, 0⟩ = true := by
      rw [Machine.answer, after_flood]
      decide +kernel
    rw [if_pos ⟨hlast, rfl⟩, List.filter_append, List.filter_append, List.length_append,
      List.length_append] at hcount
    have htwelve : ((List.replicate 12 (0 : ℤ)).filter fun t => decide (0 ≤ t ∧ t < 0 +
        (RateLimiter.authorize.limiter 120).windowMs)).length = 12 := by decide +kernel
    have hone : ([(⟨some attacker, 0⟩ : LimitedRequest).now].filter fun t => decide (0 ≤ t ∧ t < 0 +
        (RateLimiter.authorize.limiter 120).windowMs)).length = 1 := by decide +kernel
    have hmax : (RateLimiter.authorize.limiter 120).max = 12 := rfl
    omega

end RemoteOps

import Mathlib.Data.List.Induction
import Mathlib.Data.List.Nodup
import Mathlib.Tactic.Common

/-!
# Machines and their histories

A machine is a deterministic step function over inputs. Whatever the program
does not decide for itself (the requests that arrive, clock readings, random
bytes, the outcome of a write) is part of the input, so that a run is a list of
inputs and a statement about every run is a statement about every list.

An invariant relates the inputs seen so far to the state. It is proved with the
rule `Machine.invariant`, which may assume of the inputs a predicate that is
closed under prefixes: a clock that does not go back, or generated names that do
not repeat. `Machine.stable` is the rule for a fact that, once true, stays true.
-/

namespace Transition

/-- A deterministic machine with state `σ`, inputs `ι` and outputs `ο`. -/
structure Machine (σ ι ο : Type*) where
  start : σ
  step : σ → ι → ο × σ

namespace Machine

variable {σ ι ο : Type*} (M : Machine σ ι ο)

/-- The state after a list of inputs. -/
def after (is : List ι) : σ := is.foldl (fun s i => (M.step s i).2) M.start

/-- The answer to the input `i` when it comes after `is`. -/
def answer (is : List ι) (i : ι) : ο := (M.step (M.after is) i).1

@[simp] theorem after_concat (is : List ι) (i : ι) :
    M.after (is ++ [i]) = (M.step (M.after is) i).2 := by
  simp [after]

/-- Two copies of the machine that get the same inputs. -/
def lockstep (s t : σ) : Machine (σ × σ) ι (ο × ο) where
  start := (s, t)
  step x i := (((M.step x.1 i).1, (M.step x.2 i).1), ((M.step x.1 i).2, (M.step x.2 i).2))

/-- The inputs, each with its answer. -/
def traceFrom (s : σ) : List ι → List (ι × ο)
  | [] => []
  | i :: is => (i, (M.step s i).1) :: traceFrom (M.step s i).2 is

def trace (is : List ι) : List (ι × ο) := M.traceFrom M.start is

theorem traceFrom_append (s : σ) (is js : List ι) :
    M.traceFrom s (is ++ js) =
      M.traceFrom s is ++ M.traceFrom (is.foldl (fun s i => (M.step s i).2) s) js := by
  induction is generalizing s with
  | nil => rfl
  | cons i is ih => simp [traceFrom, ih]

@[simp] theorem trace_nil : M.trace [] = [] := rfl

@[simp] theorem trace_concat (is : List ι) (i : ι) :
    M.trace (is ++ [i]) = M.trace is ++ [(i, M.answer is i)] := by
  rw [trace, traceFrom_append]
  rfl

/-- An entry of the trace is an input that was answered at its place. -/
theorem mem_trace_iff {is : List ι} {i : ι} {o : ο} :
    (i, o) ∈ M.trace is ↔ ∃ pre post, is = pre ++ i :: post ∧ M.answer pre i = o := by
  induction is using List.reverseRecOn with
  | nil => simp
  | append_singleton is j ih =>
      rw [trace_concat, List.mem_append, ih, List.mem_singleton, Prod.mk.injEq]
      constructor
      · rintro (⟨pre, post, rfl, ho⟩ | ⟨rfl, rfl⟩)
        · exact ⟨pre, post ++ [j], by simp, ho⟩
        · exact ⟨is, [], rfl, rfl⟩
      · rintro ⟨pre, post, heq, ho⟩
        cases post using List.reverseRecOn with
        | nil =>
            obtain ⟨rfl, hlast⟩ := List.append_inj' heq rfl
            obtain rfl := List.singleton_inj.mp hlast
            exact Or.inr ⟨rfl, ho.symm⟩
        | append_singleton post k =>
            rw [← List.cons_append, ← List.append_assoc] at heq
            obtain ⟨rfl, -⟩ := List.append_inj' heq rfl
            exact Or.inl ⟨pre, post, rfl, ho⟩

end Machine

/-! ## Assumptions on the inputs -/

section Assumptions

variable {ι κ : Type*}

/-- A predicate of input lists that every prefix inherits. -/
def PrefixClosed (E : List ι → Prop) : Prop := ∀ is i, E (is ++ [i]) → E is

theorem PrefixClosed.of_append {E : List ι → Prop} (hE : PrefixClosed E) {is js : List ι}
    (h : E (is ++ js)) : E is := by
  induction js using List.reverseRecOn with
  | nil => simpa using h
  | append_singleton js j ih =>
      rw [← List.append_assoc] at h
      exact ih (hE _ _ h)

theorem PrefixClosed.and {E F : List ι → Prop} (hE : PrefixClosed E) (hF : PrefixClosed F) :
    PrefixClosed fun is => E is ∧ F is :=
  fun is i h => ⟨hE is i h.1, hF is i h.2⟩

/-- Every input satisfies `P`. -/
theorem prefixClosed_forall (P : ι → Prop) : PrefixClosed fun is => ∀ i ∈ is, P i :=
  fun _ _ h j hj => h j (List.mem_append_left _ hj)

/-- The names that the inputs generate never repeat. -/
def Fresh (names : ι → List κ) (is : List ι) : Prop := (is.flatMap names).Nodup

instance decidableFresh [DecidableEq κ] (names : ι → List κ) (is : List ι) :
    Decidable (Fresh names is) :=
  inferInstanceAs (Decidable (is.flatMap names).Nodup)

theorem prefixClosed_fresh (names : ι → List κ) : PrefixClosed (Fresh names) := by
  intro is i h
  rw [Fresh, List.flatMap_append] at h
  exact h.of_append_left

theorem Fresh.notMem {names : ι → List κ} {is : List ι} {i : ι} (h : Fresh names (is ++ [i]))
    {n : κ} (hn : n ∈ names i) : n ∉ is.flatMap names := by
  rw [Fresh, List.flatMap_append] at h
  intro hold
  exact (List.nodup_append.mp h).2.2 n hold n (by simpa using hn) rfl

/-- A name is drawn at one place. -/
theorem Fresh.unique {names : ι → List κ} {pre pre' post post' : List ι} {i i' : ι} {n : κ}
    (h : Fresh names (pre ++ i :: post)) (heq : pre ++ i :: post = pre' ++ i' :: post')
    (hn : n ∈ names i) (hn' : n ∈ names i') : pre = pre' ∧ i = i' := by
  have hmem : ∀ (js : List ι) j, j ∈ js → n ∈ names j → n ∈ js.flatMap names :=
    fun js j hj hn => List.mem_flatMap.mpr ⟨j, hj, hn⟩
  induction pre generalizing pre' with
  | nil =>
      cases pre' with
      | nil => exact ⟨rfl, (List.cons.inj heq).1⟩
      | cons x pre' =>
          rw [Fresh, List.nil_append, List.flatMap_cons, List.nodup_append] at h
          have hlater : n ∈ post.flatMap names :=
            hmem post i' (by rw [(List.cons.inj heq).2]; simp) hn'
          exact absurd rfl (h.2.2 n hn n hlater)
  | cons x pre ih =>
      rw [Fresh, List.cons_append, List.flatMap_cons, List.nodup_append] at h
      cases pre' with
      | nil =>
          obtain ⟨rfl, -⟩ := List.cons.inj heq
          exact absurd rfl (h.2.2 n hn' n (hmem _ i (by simp) hn))
      | cons x' pre' =>
          obtain ⟨rfl, hrest⟩ := List.cons.inj heq
          obtain ⟨rfl, rfl⟩ := ih h.2.1 hrest
          exact ⟨rfl, rfl⟩

/-- The readings of a clock never decrease. -/
def Ascending [LE κ] (readings : ι → List κ) (is : List ι) : Prop :=
  (is.flatMap readings).Pairwise (· ≤ ·)

theorem prefixClosed_ascending [LE κ] (readings : ι → List κ) :
    PrefixClosed (Ascending readings) := by
  intro is i h
  rw [Ascending, List.flatMap_append] at h
  exact (List.pairwise_append.mp h).1

theorem Ascending.le [LE κ] {readings : ι → List κ} {is : List ι} {i : ι}
    (h : Ascending readings (is ++ [i])) {s t : κ} (hs : s ∈ is.flatMap readings)
    (ht : t ∈ readings i) : s ≤ t := by
  rw [Ascending, List.flatMap_append] at h
  exact (List.pairwise_append.mp h).2.2 s hs t (by simpa using ht)

end Assumptions

/-! ## Rules -/

namespace Machine

variable {σ ι ο : Type*} (M : Machine σ ι ο)

/-- Every input satisfies `C` in the state it meets. -/
def Along (C : σ → ι → Prop) (is : List ι) : Prop :=
  ∀ pre i post, is = pre ++ i :: post → C (M.after pre) i

theorem prefixClosed_along (C : σ → ι → Prop) : PrefixClosed (M.Along C) := by
  intro is i h pre j post heq
  exact h pre j (post ++ [i]) (by simp [heq])

theorem Along.last {C : σ → ι → Prop} {is : List ι} {i : ι} (h : M.Along C (is ++ [i])) :
    C (M.after is) i :=
  h is i [] rfl

@[simp] theorem along_nil (C : σ → ι → Prop) : M.Along C [] := by
  intro pre i post heq
  simp at heq

theorem along_concat (C : σ → ι → Prop) (is : List ι) (i : ι) :
    M.Along C (is ++ [i]) ↔ M.Along C is ∧ C (M.after is) i := by
  constructor
  · exact fun h => ⟨M.prefixClosed_along C is i h, h.last M⟩
  · rintro ⟨his, hi⟩ pre j post heq
    cases post using List.reverseRecOn with
    | nil =>
        obtain ⟨rfl, hlast⟩ := List.append_inj' heq rfl
        obtain rfl := List.singleton_inj.mp hlast
        exact hi
    | append_singleton post k =>
        rw [← List.cons_append, ← List.append_assoc] at heq
        obtain ⟨rfl, -⟩ := List.append_inj' heq rfl
        exact his pre j post rfl

/-- The condition, checked while the inputs are run from a state. -/
def AlongFrom (C : σ → ι → Prop) (s : σ) : List ι → Prop
  | [] => True
  | i :: is => C s i ∧ AlongFrom C (M.step s i).2 is

instance decidableAlongFrom (C : σ → ι → Prop) [∀ s i, Decidable (C s i)] (s : σ) :
    (is : List ι) → Decidable (M.AlongFrom C s is)
  | [] => inferInstanceAs (Decidable True)
  | i :: is =>
      have := decidableAlongFrom C (M.step s i).2 is
      inferInstanceAs (Decidable (C s i ∧ M.AlongFrom C (M.step s i).2 is))

theorem alongFrom_concat (C : σ → ι → Prop) (s : σ) (is : List ι) (i : ι) :
    M.AlongFrom C s (is ++ [i]) ↔
      M.AlongFrom C s is ∧ C (is.foldl (fun s i => (M.step s i).2) s) i := by
  induction is generalizing s with
  | nil => simp [AlongFrom]
  | cons j is ih => simp [AlongFrom, ih, and_assoc]

theorem along_iff_alongFrom (C : σ → ι → Prop) (is : List ι) :
    M.Along C is ↔ M.AlongFrom C M.start is := by
  induction is using List.reverseRecOn with
  | nil => simp [AlongFrom]
  | append_singleton is i ih =>
      rw [along_concat, alongFrom_concat, ih]
      rfl

/-- A relation between history and state that holds at the start and is kept by
every step the assumption allows holds after every allowed history. -/
theorem invariant {E : List ι → Prop} (hE : PrefixClosed E) {I : List ι → σ → Prop}
    (hstart : I [] M.start)
    (hstep : ∀ is i, E (is ++ [i]) → I is (M.after is) →
      I (is ++ [i]) (M.step (M.after is) i).2)
    (is : List ι) (his : E is) : I is (M.after is) := by
  induction is using List.reverseRecOn with
  | nil => exact hstart
  | append_singleton is i ih =>
      rw [after_concat]
      exact hstep is i his (ih (hE is i his))

/-- A fact that every allowed step keeps is still there after any further
inputs. -/
theorem stable {E : List ι → Prop} (hE : PrefixClosed E) {P : List ι → σ → Prop}
    (hstep : ∀ is i, E (is ++ [i]) → P is (M.after is) →
      P (is ++ [i]) (M.step (M.after is) i).2)
    (pre post : List ι) (his : E (pre ++ post)) (hpre : P pre (M.after pre)) :
    P (pre ++ post) (M.after (pre ++ post)) := by
  induction post using List.reverseRecOn with
  | nil => simpa using hpre
  | append_singleton post i ih =>
      rw [← List.append_assoc] at his ⊢
      rw [after_concat]
      exact hstep _ i his (ih (hE _ i his))

end Machine

end Transition

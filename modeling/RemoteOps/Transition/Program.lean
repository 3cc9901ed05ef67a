import Mathlib.Tactic.Common

/-!
# Programs that talk to a service

A `Program ρ σ α` asks requests of type `ρ`, receives an answer of type `σ` to
each, and ends with an `α`. Nothing is said about the service: a statement about
every run of a program is a statement about every sequence of answers.

`Asks` is the definition: after the exchanges `h` the program asks `r`. Proofs go
through `wp`, the weakest precondition for a condition on requests and a
postcondition, both of which see the exchanges so far; `wp_bind` composes, and
`asks_of_wp` and `ends_of_wp` give back what it says of runs.
-/

namespace Transition

inductive Program (ρ σ α : Type) where
  | done (a : α)
  | ask (r : ρ) (k : σ → Program ρ σ α)

namespace Program

variable {ρ σ α β : Type}

def bind (p : Program ρ σ α) (f : α → Program ρ σ β) : Program ρ σ β :=
  match p with
  | done a => f a
  | ask r k => ask r fun s => (k s).bind f

instance instMonad : Monad (Program ρ σ) where
  pure := done
  bind := bind

/-- A single request. -/
def call (r : ρ) : Program ρ σ σ := ask r done

@[simp] theorem pure_eq (a : α) : (pure a : Program ρ σ α) = done a := rfl

@[simp] theorem done_bind (a : α) (f : α → Program ρ σ β) : (done a >>= f) = f a := rfl

@[simp] theorem ask_bind (r : ρ) (k : σ → Program ρ σ α) (f : α → Program ρ σ β) :
    (ask r k >>= f) = ask r fun s => k s >>= f := rfl

@[simp] theorem call_bind (r : ρ) (f : σ → Program ρ σ β) : (call r >>= f) = ask r f := rfl

/-- After the exchanges `h` the program asks `r`. -/
def Asks : Program ρ σ α → List (ρ × σ) → ρ → Prop
  | done _, _, _ => False
  | ask r _, [], r' => r' = r
  | ask r k, (r', s) :: h, r'' => r' = r ∧ (k s).Asks h r''

/-- After the exchanges `h` the program has ended with `a`. -/
def Ends : Program ρ σ α → List (ρ × σ) → α → Prop
  | done a, [], a' => a' = a
  | done _, _ :: _, _ => False
  | ask _ _, [], _ => False
  | ask r k, (r', s) :: h, a => r' = r ∧ (k s).Ends h a

/-- The exchanges are the first of a run of the program. -/
def Follows : Program ρ σ α → List (ρ × σ) → Prop
  | _, [] => True
  | done _, _ :: _ => False
  | ask r k, (r', s) :: h => r' = r ∧ (k s).Follows h

/-- The run against a service that answers by the exchanges so far. -/
def against (answer : List (ρ × σ) → ρ → σ) : Program ρ σ α → List (ρ × σ) → List (ρ × σ) × α
  | done a, past => (past, a)
  | ask r k, past => (k (answer past r)).against answer (past ++ [(r, answer past r)])

@[simp] theorem against_done (answer : List (ρ × σ) → ρ → σ) (a : α) (past : List (ρ × σ)) :
    (done a).against answer past = (past, a) := rfl

@[simp] theorem against_ask (answer : List (ρ × σ) → ρ → σ) (r : ρ) (k : σ → Program ρ σ α)
    (past : List (ρ × σ)) :
    (ask r k).against answer past =
      (k (answer past r)).against answer (past ++ [(r, answer past r)]) := rfl

/-- The run against a service with a state. -/
def serve {S : Type} (handle : S → ρ → σ × S) : Program ρ σ α → S → α × S
  | done a, s => (a, s)
  | ask r k, s => (k (handle s r).1).serve handle (handle s r).2

@[simp] theorem serve_done {S : Type} (handle : S → ρ → σ × S) (a : α) (s : S) :
    (done a).serve handle s = (a, s) := rfl

@[simp] theorem serve_ask {S : Type} (handle : S → ρ → σ × S) (r : ρ) (k : σ → Program ρ σ α)
    (s : S) :
    (ask r k).serve handle s = (k (handle s r).1).serve handle (handle s r).2 := rfl

theorem serve_bind {S : Type} (handle : S → ρ → σ × S) (p : Program ρ σ α)
    (f : α → Program ρ σ β) (s : S) :
    (p >>= f).serve handle s = (f (p.serve handle s).1).serve handle (p.serve handle s).2 := by
  induction p generalizing s with
  | done a => rfl
  | ask r k ih => exact ih _ _

/-- A run, as far as it has come. -/
structure Run (p : Program ρ σ α) where
  exchanges : List (ρ × σ)
  follows : p.Follows exchanges

theorem Follows.asks {p : Program ρ σ α} {h t : List (ρ × σ)} {r : ρ} {s : σ}
    (hp : p.Follows (h ++ (r, s) :: t)) : p.Asks h r := by
  induction h generalizing p with
  | nil =>
      cases p with
      | done a => exact hp.elim
      | ask r' k => exact hp.1
  | cons x h ih =>
      cases p with
      | done a => exact hp.elim
      | ask r' k => exact ⟨hp.1, ih hp.2⟩

instance decidableAsks [DecidableEq ρ] : (p : Program ρ σ α) → (h : List (ρ × σ)) → (r : ρ) →
    Decidable (p.Asks h r)
  | done _, _, _ => instDecidableFalse
  | ask r _, [], r' => inferInstanceAs (Decidable (r' = r))
  | ask _ k, (_, s) :: h, r'' =>
      have := decidableAsks (k s) h r''
      inferInstanceAs (Decidable (_ ∧ _))

/-- Every request the program may come to satisfies `P`, and every end `Q`. -/
def wp (P : List (ρ × σ) → ρ → Prop) (Q : List (ρ × σ) → α → Prop) :
    Program ρ σ α → List (ρ × σ) → Prop
  | done a, past => Q past a
  | ask r k, past => P past r ∧ ∀ s, (k s).wp P Q (past ++ [(r, s)])

variable {P : List (ρ × σ) → ρ → Prop} {Q : List (ρ × σ) → α → Prop}

@[simp] theorem wp_done (a : α) (past : List (ρ × σ)) : (done a).wp P Q past ↔ Q past a :=
  Iff.rfl

@[simp] theorem wp_ask (r : ρ) (k : σ → Program ρ σ α) (past : List (ρ × σ)) :
    (ask r k).wp P Q past ↔ P past r ∧ ∀ s, (k s).wp P Q (past ++ [(r, s)]) := Iff.rfl

theorem wp_bind (p : Program ρ σ α) (f : α → Program ρ σ β) {R : List (ρ × σ) → β → Prop}
    (past : List (ρ × σ)) :
    (p >>= f).wp P R past ↔ p.wp P (fun h a => (f a).wp P R h) past := by
  induction p generalizing past with
  | done a => rfl
  | ask r k ih =>
      rw [ask_bind, wp_ask, wp_ask]
      exact and_congr_right fun _ => forall_congr' fun s => ih s _

theorem wp_mono {Q' : List (ρ × σ) → α → Prop} {p : Program ρ σ α} {past : List (ρ × σ)}
    (hQ : ∀ h a, Q h a → Q' h a) (h : p.wp P Q past) : p.wp P Q' past := by
  induction p generalizing past with
  | done a => exact hQ past a h
  | ask r k ih => exact ⟨h.1, fun s => ih s (h.2 s)⟩

theorem asks_of_wp {p : Program ρ σ α} {past h : List (ρ × σ)} {r : ρ} (hp : p.wp P Q past)
    (hr : p.Asks h r) : P (past ++ h) r := by
  induction p generalizing past h with
  | done a => exact hr.elim
  | ask r' k ih =>
      match h with
      | [] =>
          obtain rfl : r = r' := hr
          simpa using hp.1
      | (r'', s) :: h =>
          obtain ⟨rfl, hrest⟩ := hr
          simpa using ih s (hp.2 s) hrest

/-- The precondition for requests alone is what it says. -/
theorem wp_iff_asks {p : Program ρ σ α} {past : List (ρ × σ)} :
    p.wp P (fun _ _ => True) past ↔ ∀ h r, p.Asks h r → P (past ++ h) r := by
  refine ⟨fun hp h r hr => asks_of_wp hp hr, fun hp => ?_⟩
  induction p generalizing past with
  | done a => trivial
  | ask r k ih =>
      refine ⟨by simpa using hp [] r rfl, fun s => ih s fun h r' hr => ?_⟩
      simpa using hp ((r, s) :: h) r' ⟨rfl, hr⟩

theorem ends_of_wp {p : Program ρ σ α} {past h : List (ρ × σ)} {a : α} (hp : p.wp P Q past)
    (ha : p.Ends h a) : Q (past ++ h) a := by
  induction p generalizing past h with
  | done a' =>
      match h with
      | [] =>
          obtain rfl : a = a' := ha
          simpa using hp
  | ask r' k ih =>
      match h with
      | (r'', s) :: h =>
          obtain ⟨rfl, hrest⟩ := ha
          simpa using ih s (hp.2 s) hrest

/-- What holds at every end holds at the end of the run against a service. -/
theorem against_of_wp {p : Program ρ σ α} {past : List (ρ × σ)} (hp : p.wp P Q past)
    (answer : List (ρ × σ) → ρ → σ) : Q (p.against answer past).1 (p.against answer past).2 := by
  induction p generalizing past with
  | done a => exact hp
  | ask r k ih => exact ih _ (hp.2 _)

end Program

end Transition

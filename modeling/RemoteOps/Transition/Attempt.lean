import RemoteOps.Transition.Program

/-!
# Programs that may fail

An `Attempt` is a program that ends with a result or an error, and stops at the first error. `Only`
is the weakest precondition for conditions that do not look at the exchanges so far: whatever is
answered, each request satisfies `P` and each end `Q`.
-/

namespace Transition

namespace Program

variable {ρ σ α β : Type} {P P' : ρ → Prop} {Q Q' : α → Prop}

/-- Whatever is answered, each request satisfies `P` and each end `Q`. -/
def Only (P : ρ → Prop) (Q : α → Prop) : Program ρ σ α → Prop
  | done a => Q a
  | ask r k => P r ∧ ∀ s, (k s).Only P Q

theorem only_iff_wp {p : Program ρ σ α} {past : List (ρ × σ)} :
    p.Only P Q ↔ p.wp (fun _ => P) (fun _ => Q) past := by
  induction p generalizing past with
  | done a => rfl
  | ask r k ih => exact and_congr_right fun _ => forall_congr' fun s => ih s

theorem Only.asks {p : Program ρ σ α} (hp : p.Only P Q) {h : List (ρ × σ)} {r : ρ}
    (hr : p.Asks h r) : P r := by
  have hwp : p.wp (fun _ => P) (fun _ => Q) [] := only_iff_wp.mp hp
  exact asks_of_wp hwp hr

theorem Only.mono {p : Program ρ σ α} (hp : p.Only P Q) (hP : ∀ r, P r → P' r)
    (hQ : ∀ a, Q a → Q' a) : p.Only P' Q' := by
  induction p with
  | done a => exact hQ a hp
  | ask r k ih => exact ⟨hP r hp.1, fun s => ih s (hp.2 s)⟩

theorem only_bind {p : Program ρ σ α} {f : α → Program ρ σ β} {R : β → Prop} :
    (p >>= f).Only P R ↔ p.Only P fun a => (f a).Only P R := by
  induction p with
  | done a => rfl
  | ask r k ih => exact and_congr_right fun _ => forall_congr' fun s => ih s

end Program

/-- A program that ends with a result or an error. -/
def Attempt (ρ σ ε α : Type) : Type := Program ρ σ (Except ε α)

namespace Attempt

variable {ρ σ ε α β : Type} {P P' : ρ → Prop} {Q Q' : α → Prop} {R : β → Prop}

def ofExcept (x : Except ε α) : Attempt ρ σ ε α := Program.done x

/-- A single request. -/
def call (r : ρ) : Attempt ρ σ ε σ := Program.ask r fun s => ofExcept (.ok s)

/-- Go on from a result. -/
def resume (f : α → Attempt ρ σ ε β) : Except ε α → Attempt ρ σ ε β
  | .ok a => f a
  | .error e => ofExcept (.error e)

def bind (p : Attempt ρ σ ε α) (f : α → Attempt ρ σ ε β) : Attempt ρ σ ε β :=
  Program.bind p (resume f)

instance instMonad : Monad (Attempt ρ σ ε) where
  pure a := ofExcept (.ok a)
  bind := bind

theorem pure_eq (a : α) : (pure a : Attempt ρ σ ε α) = ofExcept (.ok a) := rfl

theorem call_bind (r : ρ) (f : σ → Attempt ρ σ ε β) : (call r >>= f) = Program.ask r f := rfl

/-- Go on with nothing where `p` fails. -/
def caught (p : Attempt ρ σ ε α) : Attempt ρ σ ε (Option α) :=
  Program.bind p fun x => ofExcept (.ok x.toOption)

/-- A condition on results. -/
def OnResult (Q : α → Prop) : Except ε α → Prop
  | .ok a => Q a
  | .error _ => True

/-- Whatever is answered, each request satisfies `P` and each result `Q`. -/
def Only (P : ρ → Prop) (Q : α → Prop) (p : Attempt ρ σ ε α) : Prop := Program.Only P (OnResult Q) p

theorem only_ofExcept {x : Except ε α} (h : ∀ a, x = .ok a → Q a) :
    (ofExcept x : Attempt ρ σ ε α).Only P Q := by
  cases x with
  | error e => trivial
  | ok a => exact h a rfl

theorem only_pure {a : α} (h : Q a) : (pure a : Attempt ρ σ ε α).Only P Q := h

theorem only_call {r : ρ} {Q : σ → Prop} (hr : P r) (h : ∀ s, Q s) :
    (call r : Attempt ρ σ ε σ).Only P Q := ⟨hr, h⟩

theorem Only.bind {p : Attempt ρ σ ε α} {f : α → Attempt ρ σ ε β} (hp : p.Only P Q)
    (hf : ∀ a, Q a → (f a).Only P R) : (p >>= f).Only P R := by
  refine Program.only_bind.mpr (Program.Only.mono hp (fun _ h => h) fun x hx => ?_)
  cases x with
  | error e => trivial
  | ok a => exact hf a hx

theorem Only.mono {p : Attempt ρ σ ε α} (hp : p.Only P Q) (hP : ∀ r, P r → P' r)
    (hQ : ∀ a, Q a → Q' a) : p.Only P' Q' := by
  refine Program.Only.mono hp hP fun x hx => ?_
  cases x with
  | error e => trivial
  | ok a => exact hQ a hx

theorem Only.caught {p : Attempt ρ σ ε α} (hp : p.Only P Q) :
    p.caught.Only P fun x => ∀ a, x = some a → Q a := by
  refine Program.only_bind.mpr (Program.Only.mono hp (fun _ h => h) fun x hx => ?_)
  intro a ha
  cases x with
  | error e => cases ha
  | ok b =>
      obtain rfl := Option.some.inj ha
      exact hx

/-- What is checked before the requests holds in what comes after it. -/
theorem only_ofExcept_bind {x : Except ε α} {f : α → Attempt ρ σ ε β}
    (h : ∀ a, x = .ok a → (f a).Only P R) : (ofExcept x >>= f).Only P R :=
  (only_ofExcept fun _ hx => hx).bind fun a ha => h a ha

/-! ## Conditions on the exchanges -/

section Exchanges

variable {P : List (ρ × σ) → ρ → Prop} {Q Q' : List (ρ × σ) → α → Prop}
  {R : List (ρ × σ) → β → Prop} {past : List (ρ × σ)}

/-- Every request that may come satisfies `P`, and every result `Q`. -/
def Always (P : List (ρ × σ) → ρ → Prop) (Q : List (ρ × σ) → α → Prop) (past : List (ρ × σ))
    (p : Attempt ρ σ ε α) : Prop := Program.wp P (fun h => OnResult (Q h)) p past

theorem always_ofExcept {x : Except ε α} (h : ∀ a, x = .ok a → Q past a) :
    (ofExcept x : Attempt ρ σ ε α).Always P Q past := by
  cases x with
  | error e => trivial
  | ok a => exact h a rfl

theorem always_pure {a : α} (h : Q past a) : (pure a : Attempt ρ σ ε α).Always P Q past := h

theorem always_call_bind {r : ρ} {f : σ → Attempt ρ σ ε α} (hr : P past r)
    (hf : ∀ s, (f s).Always P Q (past ++ [(r, s)])) : (call r >>= f).Always P Q past := ⟨hr, hf⟩

theorem Always.mono {p : Attempt ρ σ ε α} (hp : p.Always P Q past)
    (hQ : ∀ h a, Q h a → Q' h a) : p.Always P Q' past := by
  refine Program.wp_mono (fun h x hx => ?_) hp
  cases x with
  | error e => trivial
  | ok a => exact hQ h a hx

/-- Exchanges are only added. -/
theorem Always.extends {p : Attempt ρ σ ε α} (hp : p.Always P Q past) :
    p.Always P (fun h a => past <+: h ∧ Q h a) past := by
  have hwp {q : Program ρ σ (Except ε α)} {before h : List (ρ × σ)} (hbefore : before <+: h)
      (hq : q.wp P (fun h => OnResult (Q h)) h) :
      q.wp P (fun h => OnResult fun a => before <+: h ∧ Q h a) h := by
    induction q generalizing h with
    | done x =>
        cases x with
        | error e => trivial
        | ok a => exact ⟨hbefore, hq⟩
    | ask r k ih => exact ⟨hq.1, fun s => ih s (hbefore.trans (List.prefix_append h _)) (hq.2 s)⟩
  exact hwp List.prefix_rfl hp

theorem Always.bind {p : Attempt ρ σ ε α} {f : α → Attempt ρ σ ε β} (hp : p.Always P Q past)
    (hf : ∀ h a, past <+: h → Q h a → (f a).Always P R h) : (p >>= f).Always P R past := by
  refine (Program.wp_bind p (resume f) past).mpr (Program.wp_mono (fun h x hx => ?_) hp.extends)
  cases x with
  | error e => trivial
  | ok a => exact hf h a hx.1 hx.2

theorem always_ofExcept_bind {x : Except ε α} {f : α → Attempt ρ σ ε β}
    (h : ∀ a, x = .ok a → (f a).Always P R past) : (ofExcept x >>= f).Always P R past := by
  cases x with
  | error e => trivial
  | ok a => exact h a rfl

theorem Always.caught {p : Attempt ρ σ ε α} (hp : p.Always P Q past) :
    p.caught.Always P (fun h x => ∀ a, x = some a → Q h a) past := by
  refine (Program.wp_bind p _ past).mpr (Program.wp_mono (fun h x hx => ?_) hp)
  intro a ha
  cases x with
  | error e => cases ha
  | ok b =>
      obtain rfl := Option.some.inj ha
      exact hx

/-- What is asked for, whatever the results are. -/
theorem Always.weaken {P' : List (ρ × σ) → ρ → Prop} {p : Attempt ρ σ ε α}
    (hp : p.Always P Q past) (hP : ∀ h r, P h r → P' h r) :
    p.Always P' (fun _ _ => True) past := by
  have hwp {q : Program ρ σ (Except ε α)} {h : List (ρ × σ)}
      (hq : q.wp P (fun h => OnResult (Q h)) h) :
      q.wp P' (fun _ => OnResult fun _ => True) h := by
    induction q generalizing h with
    | done x => cases x <;> trivial
    | ask r k ih => exact ⟨hP h r hq.1, fun s => ih s (hq.2 s)⟩
  exact hwp hp

theorem Always.asks {p : Attempt ρ σ ε α} (hp : p.Always P Q past) {h : List (ρ × σ)} {r : ρ}
    (hr : Program.Asks p h r) : P (past ++ h) r := Program.asks_of_wp hp hr

end Exchanges

end Attempt

end Transition

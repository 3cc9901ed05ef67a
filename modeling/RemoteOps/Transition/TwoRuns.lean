import RemoteOps.Transition.Program

/-!
# Two programs side by side

`both A Q p p'` says that `p` and `p'`, when each of their answers is related by `A` to the
answer to the same request of the other, ask equally often and end with results that `Q` relates.
`Q` also sees the pairs of answers. `both_against` gives back what it says about runs against two
services. Programs are a lawful monad, so that a program can be brought into the form of a
request and what follows it.
-/

namespace Transition

namespace Program

variable {ρ ρ' σ σ' α α' : Type}

instance lawfulMonad : LawfulMonad (Program ρ σ) :=
  LawfulMonad.mk' _
    (fun p => by
      induction p with
      | done a => rfl
      | ask r k ih => exact congrArg (ask r) (funext ih))
    (fun _ _ => rfl)
    (fun p _ _ => by
      induction p with
      | done a => rfl
      | ask r k ih => exact congrArg (ask r) (funext ih))

section Both

variable (A : σ → σ' → Prop)

def both (Q : List (σ × σ') → α → α' → Prop) :
    Program ρ σ α → Program ρ' σ' α' → List (σ × σ') → Prop
  | done a, done a', past => Q past a a'
  | ask _ k, ask _ k', past => ∀ s s', A s s' → both Q (k s) (k' s') (past ++ [(s, s')])
  | _, _, _ => False

variable {A} {Q : List (σ × σ') → α → α' → Prop}

@[simp] theorem both_done (a : α) (a' : α') (past : List (σ × σ')) :
    both A Q (done a : Program ρ σ α) (done a' : Program ρ' σ' α') past ↔ Q past a a' := Iff.rfl

@[simp] theorem both_ask (r : ρ) (r' : ρ') (k : σ → Program ρ σ α) (k' : σ' → Program ρ' σ' α')
    (past : List (σ × σ')) :
    both A Q (ask r k) (ask r' k') past ↔
      ∀ s s', A s s' → both A Q (k s) (k' s') (past ++ [(s, s')]) := Iff.rfl

end Both

/-! ## Runs -/

theorem prefix_against (answer : List (ρ × σ) → ρ → σ) (p : Program ρ σ α)
    (past : List (ρ × σ)) : past <+: (p.against answer past).1 := by
  induction p generalizing past with
  | done a => exact List.prefix_rfl
  | ask r k ih => exact (List.prefix_append past _).trans (ih _ _)

/-- An exchange stays at its place. -/
theorem getElem?_against (answer : List (ρ × σ) → ρ → σ) (p : Program ρ σ α)
    (past : List (ρ × σ)) (x : ρ × σ) :
    (p.against answer (past ++ [x])).1[past.length]? = some x := by
  obtain ⟨rest, hrest⟩ := prefix_against answer p (past ++ [x])
  rw [← hrest, List.append_assoc, List.getElem?_append_right (Nat.le_refl _), Nat.sub_self]
  rfl

/-- Against a service that always answers the same, no other answer occurs. -/
theorem answer_of_mem_against {p : Program ρ σ α} {past : List (ρ × σ)} {s : σ} {x : ρ × σ}
    (hx : x ∈ (p.against (fun _ _ => s) past).1) : x ∈ past ∨ x.2 = s := by
  induction p generalizing past with
  | done a => exact .inl hx
  | ask r k ih =>
      obtain hx | hx := ih s hx
      · obtain hx | hx := List.mem_append.mp hx
        · exact .inl hx
        · rw [List.mem_singleton.mp hx]
          exact .inr rfl
      · exact .inr hx

/-- At the same places, the answers of two runs are related. -/
def AnswersRelated (A : σ → σ' → Prop) (h : List (ρ × σ)) (h' : List (ρ' × σ')) : Prop :=
  ∀ (n : ℕ) (x : ρ × σ) (x' : ρ' × σ'), h[n]? = some x → h'[n]? = some x' → A x.2 x'.2

theorem answersRelated_const {A : σ → σ' → Prop} {p : Program ρ σ α} {p' : Program ρ' σ' α'}
    {s : σ} {s' : σ'} (h : A s s') :
    AnswersRelated A (p.against (fun _ _ => s) []).1 (p'.against (fun _ _ => s') []).1 := by
  intro n x x' hx hx'
  have hleft := (answer_of_mem_against (List.mem_of_getElem? hx)).resolve_left List.not_mem_nil
  have hright := (answer_of_mem_against (List.mem_of_getElem? hx')).resolve_left List.not_mem_nil
  rw [hleft, hright]
  exact h

/-- Two runs whose answers are related have asked equally often, and their results are related. -/
theorem both_against {A : σ → σ' → Prop} {Q : List (σ × σ') → α → α' → Prop}
    {answer : List (ρ × σ) → ρ → σ} {answer' : List (ρ' × σ') → ρ' → σ'}
    {p : Program ρ σ α} {p' : Program ρ' σ' α'} {past : List (ρ × σ)} {past' : List (ρ' × σ')}
    {pairs : List (σ × σ')} (hboth : both A Q p p' pairs)
    (hpast : past.map Prod.snd = pairs.map Prod.fst)
    (hpast' : past'.map Prod.snd = pairs.map Prod.snd)
    (hanswers : AnswersRelated A (p.against answer past).1 (p'.against answer' past').1) :
    ∃ all : List (σ × σ'), (p.against answer past).1.map Prod.snd = all.map Prod.fst ∧
      (p'.against answer' past').1.map Prod.snd = all.map Prod.snd ∧
      Q all (p.against answer past).2 (p'.against answer' past').2 := by
  induction p generalizing p' past past' pairs with
  | done a =>
      cases p' with
      | done a' => exact ⟨pairs, hpast, hpast', hboth⟩
      | ask r' k' => exact hboth.elim
  | ask r k ih =>
      cases p' with
      | done a' => exact hboth.elim
      | ask r' k' =>
          have hlength : past.length = past'.length := by
            have h := congrArg List.length hpast
            have h' := congrArg List.length hpast'
            simp only [List.length_map] at h h'
            rw [h, h']
          have hrelated : A (answer past r) (answer' past' r') := by
            apply hanswers past.length (r, answer past r) (r', answer' past' r')
            · exact getElem?_against answer _ past _
            · rw [hlength]
              exact getElem?_against answer' _ past' _
          apply ih _ (hboth _ _ hrelated)
          · simp [hpast]
          · simp [hpast']
          · exact hanswers

end Program

end Transition

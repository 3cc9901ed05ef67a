import RemoteOps.Ecma.JsonText
import RemoteOps.Security.Redaction

/-!
# What redaction hides

Two values are alike when they are equal but for what the copy does not look at: the values
under sensitive keys, of which it tells arrays from other values and counts the elements, and
everything below the greatest depth. Alike values are redacted to the same value
(`redactObject_eq_of_alike`).
-/

namespace RemoteOps

open Ecma

/-- Arrays of one length, or no arrays at all. -/
def SameKind : Json → Json → Prop
  | .arr xs, .arr ys => xs.length = ys.length
  | .arr _, _ => False
  | _, .arr _ => False
  | _, _ => True

section Alike

-- how the values under a sensitive key have to agree, by their depth
variable (R : ℕ → Json → Json → Prop)

mutual

/-- The values are equal, up to `R` under sensitive keys and up to the greatest depth. -/
def Alike : Json → Json → ℕ → Prop
  | .arr xs, .arr ys, depth => maxDepth < depth ∨ AlikeElements xs ys (depth + 1)
  | .obj ps, .obj qs, depth => maxDepth < depth ∨ AlikeMembers ps qs (depth + 1)
  | x, y, depth => maxDepth < depth ∨ x = y
  termination_by structural x => x

def AlikeElements : List Json → List Json → ℕ → Prop
  | [], [], _ => True
  | x :: xs, y :: ys, depth => Alike x y depth ∧ AlikeElements xs ys depth
  | _, _, _ => False
  termination_by structural xs => xs

def AlikeMembers : List (JsString × Json) → List (JsString × Json) → ℕ → Prop
  | [], [], _ => True
  | p :: ps, q :: qs, depth => AlikeMember p q depth ∧ AlikeMembers ps qs depth
  | _, _, _ => False
  termination_by structural ps => ps

def AlikeMember : JsString × Json → JsString × Json → ℕ → Prop
  | (k, x), (k', y), depth =>
      k = k' ∧ if keyIsSensitive k then R depth x y else Alike x y depth
  termination_by structural p => p

end

end Alike

/-! ## The copy -/

theorem cutAt_of_lt {depth : ℕ} (h : maxDepth < depth) (x y : Json) :
    cutAt depth x = cutAt depth y := by
  rw [cutAt, cutAt, if_pos h, if_pos h]

theorem deepRedact_of_lt {depth : ℕ} (h : maxDepth < depth) (x y : Json) :
    deepRedact x depth = deepRedact y depth := by
  cases x <;> cases y <;> exact cutAt_of_lt h _ _

/-- Of what it hides, the copy shows the kind. -/
theorem hiddenValue_eq_of_sameKind {x y : Json} (h : SameKind x y) :
    hiddenValue x = hiddenValue y := by
  cases x <;> cases y <;> simp_all [SameKind, hiddenValue]

/-- Without members or elements to differ in, alike values are equal. -/
theorem deepRedact_eq_of_eq_or_lt {x y : Json} {depth : ℕ} (h : maxDepth < depth ∨ x = y) :
    deepRedact x depth = deepRedact y depth := by
  obtain hdeep | rfl := h
  · exact deepRedact_of_lt hdeep x y
  · rfl

/-- Values under a sensitive key that agree by `R` are hidden alike. -/
def Hides (R : ℕ → Json → Json → Prop) : Prop :=
  ∀ depth x y, R depth x y → hiddenValue x = hiddenValue y

section Copies

variable {R : ℕ → Json → Json → Prop}

mutual

theorem deepRedact_eq_of_alike (hR : Hides R) : ∀ (x y : Json) (depth : ℕ), Alike R x y depth →
    deepRedact x depth = deepRedact y depth
  | .arr xs, y, depth, h => by
      cases y with
      | arr ys =>
          obtain hdeep | h := h
          · exact deepRedact_of_lt hdeep _ _
          · rw [deepRedact, deepRedact, redactElements_eq_of_alike hR xs ys _ h]
      | _ => exact deepRedact_eq_of_eq_or_lt h
  | .obj ps, y, depth, h => by
      cases y with
      | obj qs =>
          obtain hdeep | h := h
          · exact deepRedact_of_lt hdeep _ _
          · rw [deepRedact, deepRedact, redactMembers_eq_of_alike hR ps qs _ h]
      | _ => exact deepRedact_eq_of_eq_or_lt h
  | .null, _, _, h => deepRedact_eq_of_eq_or_lt h
  | .bool _, _, _, h => deepRedact_eq_of_eq_or_lt h
  | .num _, _, _, h => deepRedact_eq_of_eq_or_lt h
  | .str _, _, _, h => deepRedact_eq_of_eq_or_lt h

theorem redactElements_eq_of_alike (hR : Hides R) : ∀ (xs ys : List Json) (depth : ℕ),
    AlikeElements R xs ys depth → redactElements xs depth = redactElements ys depth
  | [], [], _, _ => rfl
  | x :: xs, y :: ys, depth, h => by
      rw [redactElements, redactElements, deepRedact_eq_of_alike hR x y depth h.1,
        redactElements_eq_of_alike hR xs ys depth h.2]

theorem redactMembers_eq_of_alike (hR : Hides R) : ∀ (ps qs : List (JsString × Json)) (depth : ℕ),
    AlikeMembers R ps qs depth → redactMembers ps depth = redactMembers qs depth
  | [], [], _, _ => rfl
  | p :: ps, q :: qs, depth, h => by
      rw [redactMembers, redactMembers, redactMember_eq_of_alike hR p q depth h.1,
        redactMembers_eq_of_alike hR ps qs depth h.2]

theorem redactMember_eq_of_alike (hR : Hides R) : ∀ (p q : JsString × Json) (depth : ℕ),
    AlikeMember R p q depth → redactMember p depth = redactMember q depth
  | (k, x), (k', y), depth, h => by
      obtain ⟨rfl, h⟩ := h
      rw [redactMember, redactMember]
      split_ifs at h ⊢
      · rw [hR depth x y h]
      · rw [deepRedact_eq_of_alike hR x y depth h]

end

end Copies

theorem hides_sameKind : Hides fun _ => SameKind :=
  fun _ _ _ => hiddenValue_eq_of_sameKind

/-- Values that differ only under sensitive keys, and there not in their kind, or below the
greatest depth are redacted to one value. -/
theorem redactObject_eq_of_alike (x y : Json) (h : Alike (fun _ => SameKind) x y 0) :
    redactObject x = redactObject y :=
  deepRedact_eq_of_alike hides_sameKind x y 0 h

theorem redactObject_password :
    redactObject (.obj [(js "name", .null), (js "password", .str (js "a"))]) =
      redactObject (.obj [(js "name", .null), (js "password", .bool true)]) :=
  redactObject_eq_of_alike _ _
    (.inr ⟨⟨rfl, .inr rfl⟩, ⟨rfl, trivial⟩, trivial⟩)

/-! ## Below the greatest depth -/

/-- The value in `n` arrays. -/
def nested (n : ℕ) (x : Json) : Json := (fun y => Json.arr [y])^[n] x

theorem alike_nested {R : ℕ → Json → Json → Prop} {x y : Json} {depth : ℕ} (n : ℕ)
    (h : Alike R x y (depth + n)) : Alike R (nested n x) (nested n y) depth := by
  induction n generalizing depth with
  | zero => exact h
  | succ n ih =>
      rw [nested, nested, Function.iterate_succ_apply', Function.iterate_succ_apply']
      have hinner : Alike R (nested n x) (nested n y) (depth + 1) :=
        ih (by rwa [Nat.add_right_comm, Nat.add_assoc])
      exact .inr ⟨hinner, trivial⟩

/-- The kind of a value under a sensitive key shows at the greatest depth too, although the value
itself is nested more deeply. -/
theorem kind_shows_at_maxDepth :
    ¬∀ x y, Alike (fun depth x y => maxDepth < depth ∨ SameKind x y) x y 0 →
      redactObject x = redactObject y := by
  intro h
  have halike : Alike (fun depth x y => maxDepth < depth ∨ SameKind x y)
      (.obj [(js "password", .arr [])]) (.obj [(js "password", .null)]) (0 + maxDepth) :=
    .inr ⟨⟨rfl, .inl (Nat.lt_succ_self _)⟩, trivial⟩
  have htext := congrArg Json.stringify (h _ _ (alike_nested maxDepth halike))
  exact absurd htext (by decide +kernel)

end RemoteOps

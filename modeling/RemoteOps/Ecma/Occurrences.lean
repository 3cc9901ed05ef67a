import Mathlib.Data.List.Basic

/-!
# Occurrences of a word, and codes that keep them

The occurrences of a word are counted from left to right and without overlap, and replaced in the
same order. In a code whose codewords each begin at a mark and are marked nowhere else, the
occurrences of an encoded word in an encoded text are those of the word in the text
(`Synchronizing.pieces_flatMap`).
-/

namespace Ecma

variable {α γ : Type}

section Pieces

variable [DecidableEq α] {w s t : List α}

/-- The pieces between the occurrences of a word, the first entries being skipped. -/
def piecesFrom (w : List α) : ℕ → List α → List (List α)
  | _, [] => [[]]
  | skip + 1, _ :: s => piecesFrom w skip s
  | 0, a :: s =>
      if w <+: a :: s then [] :: piecesFrom w (w.length - 1) s
      else (piecesFrom w 0 s).modifyHead (a :: ·)

def pieces (w s : List α) : List (List α) := piecesFrom w 0 s

/-- How often the word occurs, from left to right and without overlap. -/
def occurrences (w s : List α) : ℕ := (pieces w s).length - 1

/-- These occurrences replaced by another word. -/
def substituted (w v s : List α) : List α := v.intercalate (pieces w s)

theorem piecesFrom_eq_drop (k : ℕ) (s : List α) : piecesFrom w k s = pieces w (s.drop k) := by
  induction k generalizing s with
  | zero => rfl
  | succ k ih =>
      cases s with
      | nil => rfl
      | cons a s => exact ih s

@[simp] theorem pieces_nil : pieces w [] = [[]] := rfl

theorem piecesFrom_ne_nil (w : List α) (k : ℕ) (s : List α) : piecesFrom w k s ≠ [] := by
  induction s generalizing k with
  | nil => cases k <;> exact List.cons_ne_nil _ _
  | cons a s ih =>
      cases k with
      | succ k => exact ih k
      | zero =>
          rw [piecesFrom]
          split
          · exact List.cons_ne_nil _ _
          · rw [Ne, List.modifyHead_eq_nil_iff]
            exact ih 0

theorem pieces_ne_nil (w s : List α) : pieces w s ≠ [] := piecesFrom_ne_nil w 0 s

/-- After an occurrence one goes on behind it. -/
theorem pieces_append (hw : w ≠ []) (s : List α) : pieces w (w ++ s) = [] :: pieces w s := by
  cases w with
  | nil => exact absurd rfl hw
  | cons a w =>
      rw [pieces, List.cons_append, piecesFrom, if_pos ⟨s, rfl⟩, piecesFrom_eq_drop,
        List.length_cons, Nat.add_sub_cancel, List.drop_left]

theorem pieces_cons {a : α} (h : ¬w <+: a :: s) :
    pieces w (a :: s) = (pieces w s).modifyHead (a :: ·) := by
  rw [pieces, piecesFrom, if_neg h]
  rfl

/-- Where no occurrence begins, nothing is cut. -/
theorem pieces_append_of_not (h : ∀ r, r <:+ t → r ≠ [] → ¬w <+: r ++ s) :
    pieces w (t ++ s) = (pieces w s).modifyHead (t ++ ·) := by
  induction t with
  | nil => exact (congrFun List.modifyHead_id (pieces w s)).symm
  | cons a t ih =>
      have ht : ∀ r, r <:+ t → r ≠ [] → ¬w <+: r ++ s := by
        intro r hr
        exact h r (hr.trans (List.suffix_cons a t))
      have hhere : ¬w <+: a :: (t ++ s) := h _ List.suffix_rfl (List.cons_ne_nil a t)
      rw [List.cons_append, pieces_cons hhere, ih ht, List.modifyHead_modifyHead]
      rfl

/-- A text is read from occurrence to occurrence, and entry by entry between them. -/
theorem pieces_induction {P : List α → Prop} (hw : w ≠ []) (nil : P [])
    (here : ∀ s, P s → P (w ++ s)) (between : ∀ a s, ¬w <+: a :: s → P s → P (a :: s))
    (s : List α) : P s := by
  induction hn : s.length using Nat.strongRecOn generalizing s with
  | _ n ih =>
      cases s with
      | nil => exact nil
      | cons a s =>
          by_cases h : w <+: a :: s
          · obtain ⟨r, hr⟩ := h
            rw [← hr]
            refine here r (ih r.length ?_ r rfl)
            have hpos := List.length_pos_iff.mpr hw
            rw [← hn, ← hr, List.length_append]
            omega
          · refine between a s h (ih s.length ?_ s rfl)
            rw [← hn, List.length_cons]
            omega

omit [DecidableEq α] in
theorem intercalate_modifyHead_cons {v : List α} {a : α} {ps : List (List α)} (h : ps ≠ []) :
    v.intercalate (ps.modifyHead (a :: ·)) = a :: v.intercalate ps := by
  cases ps with
  | nil => exact absurd rfl h
  | cons p ps => rw [List.modifyHead_cons, List.intercalate_cons_cons_left]

@[simp] theorem occurrences_nil : occurrences w [] = 0 := rfl

@[simp] theorem substituted_nil {v : List α} : substituted w v [] = [] := rfl

theorem occurrences_append (hw : w ≠ []) (s : List α) :
    occurrences w (w ++ s) = occurrences w s + 1 := by
  have hpos := List.length_pos_iff.mpr (pieces_ne_nil w s)
  rw [occurrences, occurrences, pieces_append hw, List.length_cons]
  omega

theorem occurrences_cons {a : α} (h : ¬w <+: a :: s) :
    occurrences w (a :: s) = occurrences w s := by
  rw [occurrences, pieces_cons h, List.length_modifyHead]
  rfl

theorem substituted_append (hw : w ≠ []) (v s : List α) :
    substituted w v (w ++ s) = v ++ substituted w v s := by
  rw [substituted, pieces_append hw, List.intercalate_cons_of_ne_nil (pieces_ne_nil w s),
    List.nil_append]
  rfl

theorem substituted_cons {a : α} (v : List α) (h : ¬w <+: a :: s) :
    substituted w v (a :: s) = a :: substituted w v s := by
  rw [substituted, pieces_cons h, intercalate_modifyHead_cons (pieces_ne_nil w s)]
  rfl

/-- Each occurrence takes its entries away and brings those of the other word. -/
theorem countP_substituted (hw : w ≠ []) (p : α → Bool) (v s : List α) :
    (substituted w v s).countP p + occurrences w s * w.countP p =
      s.countP p + occurrences w s * v.countP p := by
  induction s using pieces_induction hw with
  | nil => simp
  | here s ih =>
      rw [substituted_append hw, occurrences_append hw, List.countP_append, List.countP_append,
        Nat.add_mul, Nat.add_mul]
      omega
  | between a s h ih =>
      rw [substituted_cons v h, occurrences_cons h, List.countP_cons, List.countP_cons]
      omega

end Pieces

/-! ## Codes -/

/-- The first entry of each codeword is marked and no other is, and no codeword begins another. -/
structure Synchronizing (code : γ → List α) (marked : α → Prop) : Prop where
  begins : ∀ c, ∃ a t, code c = a :: t ∧ marked a ∧ ∀ b ∈ t, ¬marked b
  separates : ∀ c d, code c <+: code d → c = d

namespace Synchronizing

variable {code : γ → List α} {marked : α → Prop} (h : Synchronizing code marked)

include h

theorem eq_of_append_eq {c d : γ} {s t : List α} (heq : code c ++ s = code d ++ t) :
    c = d ∧ s = t := by
  have hcd : c = d := by
    obtain hbegins | hbegins := List.prefix_or_prefix_of_prefix (List.prefix_append (code c) s)
      (heq ▸ List.prefix_append (code d) t)
    · exact h.separates c d hbegins
    · exact (h.separates d c hbegins).symm
  subst hcd
  exact ⟨rfl, List.append_cancel_left heq⟩

/-- An encoded word begins an encoded text where the word begins the text. -/
theorem flatMap_append_eq {w s : List γ} {t : List α}
    (heq : w.flatMap code ++ t = s.flatMap code) : ∃ r, s = w ++ r ∧ t = r.flatMap code := by
  induction w generalizing s with
  | nil => exact ⟨s, rfl, heq⟩
  | cons c w ih =>
      cases s with
      | nil =>
          obtain ⟨a, u, hcode, -⟩ := h.begins c
          rw [List.flatMap_cons, hcode] at heq
          cases heq
      | cons d s =>
          rw [List.flatMap_cons, List.flatMap_cons, List.append_assoc] at heq
          obtain ⟨rfl, hrest⟩ := h.eq_of_append_eq heq
          obtain ⟨r, rfl, rfl⟩ := ih hrest
          exact ⟨r, rfl, rfl⟩

theorem prefix_flatMap_iff {w s : List γ} : w.flatMap code <+: s.flatMap code ↔ w <+: s := by
  constructor
  · rintro ⟨t, ht⟩
    obtain ⟨r, hr, -⟩ := h.flatMap_append_eq ht
    exact ⟨r, hr.symm⟩
  · rintro ⟨r, rfl⟩
    exact ⟨r.flatMap code, List.flatMap_append.symm⟩

/-- Inside a codeword no encoded word begins. -/
theorem not_prefix_of_tail {w : List γ} (hw : w ≠ []) {r s : List α} (hr : r ≠ [])
    (hmarked : ∀ b ∈ r, ¬marked b) : ¬w.flatMap code <+: r ++ s := by
  cases w with
  | nil => exact absurd rfl hw
  | cons c w =>
      obtain ⟨a, t, hcode, ha, -⟩ := h.begins c
      cases r with
      | nil => exact absurd rfl hr
      | cons b r =>
          rw [List.flatMap_cons, hcode]
          rintro ⟨u, hu⟩
          obtain rfl := (List.cons.inj hu).1
          exact hmarked a List.mem_cons_self ha

theorem flatMap_ne_nil {w : List γ} (hw : w ≠ []) : w.flatMap code ≠ [] := by
  cases w with
  | nil => exact absurd rfl hw
  | cons c w =>
      obtain ⟨a, t, hcode, -⟩ := h.begins c
      rw [List.flatMap_cons, hcode]
      exact List.cons_ne_nil _ _

variable [DecidableEq α] [DecidableEq γ]

theorem pieces_flatMap {w : List γ} (hw : w ≠ []) (s : List γ) :
    pieces (w.flatMap code) (s.flatMap code) = (pieces w s).map (List.flatMap code) := by
  induction s using pieces_induction hw with
  | nil => rfl
  | here s ih =>
      rw [List.flatMap_append, pieces_append (h.flatMap_ne_nil hw), pieces_append hw, ih]
      rfl
  | between c s hnot ih =>
      have hhere : ∀ r, r <:+ code c → r ≠ [] → ¬w.flatMap code <+: r ++ s.flatMap code := by
        intro r hr hne
        obtain ⟨a, t, hcode, -, ht⟩ := h.begins c
        rw [hcode] at hr
        obtain rfl | hr := List.suffix_cons_iff.mp hr
        · rw [← hcode, ← List.flatMap_cons, h.prefix_flatMap_iff]
          exact hnot
        · exact h.not_prefix_of_tail hw hne fun b hb => ht b (hr.subset hb)
      rw [List.flatMap_cons, pieces_append_of_not hhere, pieces_cons hnot, ih]
      cases hpieces : pieces w s with
      | nil => exact absurd hpieces (pieces_ne_nil w s)
      | cons p ps => rfl

theorem occurrences_flatMap {w : List γ} (hw : w ≠ []) (s : List γ) :
    occurrences (w.flatMap code) (s.flatMap code) = occurrences w s := by
  rw [occurrences, h.pieces_flatMap hw, List.length_map]
  rfl

theorem substituted_flatMap {w : List γ} (hw : w ≠ []) (v s : List γ) :
    substituted (w.flatMap code) (v.flatMap code) (s.flatMap code) =
      (substituted w v s).flatMap code := by
  rw [substituted, h.pieces_flatMap hw, substituted]
  generalize pieces w s = ps
  induction ps with
  | nil => rfl
  | cons p ps ih =>
      cases ps with
      | nil => simp
      | cons q ps =>
          rw [List.map_cons, List.map_cons, List.intercalate_cons_cons, ← List.map_cons, ih,
            List.intercalate_cons_cons, List.flatMap_append, List.flatMap_append]

end Synchronizing

end Ecma

import Mathlib.Data.List.Sort
import RemoteOps.Ecma.Buffer
import RemoteOps.Ecma.JsonText

/-!
# Sorting by `localeCompare`

The order of `localeCompare` depends on the locale, and it is not antisymmetric: two
texts that differ in characters it ignores are tied. What it is promised to be is a total
preorder, and ASCII texts that differ in a letter or a digit are never tied. A list of
texts without ties has one sorted form, so that comparing sorted lists compares them up to
the order of their elements (`mergeSort_eq_iff`).
-/

namespace Ecma

theorem mergeSort_eq_iff {α : Type*} {le : α → α → Bool}
    (trans : ∀ a b c, le a b = true → le b c = true → le a c = true)
    (total : ∀ a b, (le a b || le b a) = true) {xs ys : List α}
    (untied : ∀ a ∈ ys, ∀ b ∈ ys, le a b = true → le b a = true → a = b) :
    xs.mergeSort le = ys.mergeSort le ↔ xs.Perm ys := by
  constructor
  · intro h
    have hxs := List.mergeSort_perm xs le
    rw [h] at hxs
    exact hxs.symm.trans (List.mergeSort_perm ys le)
  · intro h
    have hperm : (xs.mergeSort le).Perm (ys.mergeSort le) :=
      (List.mergeSort_perm xs le).trans (h.trans (List.mergeSort_perm ys le).symm)
    have hxs := List.pairwise_mergeSort trans total xs
    have hys := List.pairwise_mergeSort trans total ys
    apply List.Perm.eq_of_pairwise _ hxs hys hperm
    intro a b ha hb
    have ha' := h.mem_iff.mp ((List.mergeSort_perm xs le).mem_iff.mp ha)
    have hb' := (List.mergeSort_perm ys le).mem_iff.mp hb
    exact untied a ha' b hb'

/-- The letters and digits of a text. -/
def alnumOf (s : JsString) : JsString := s.filter isAlnum

/-- The order of `localeCompare` in some locale: `le a b` is `a.localeCompare(b) <= 0`. -/
structure Collation where
  le : JsString → JsString → Bool
  trans : ∀ a b c, le a b = true → le b c = true → le a c = true
  total : ∀ a b, (le a b || le b a) = true
  separates : ∀ a b, a.all isAscii = true → b.all isAscii = true → le a b = true →
    le b a = true → alnumOf a = alnumOf b

/-- The order of the code units, one of the orders that a locale may have. -/
def codeUnitOrder : Collation where
  le a b := decide (a.map UInt16.toNat ≤ b.map UInt16.toNat)
  trans a b c hab hbc := by
    simp only [decide_eq_true_eq] at hab hbc ⊢
    exact le_trans hab hbc
  total a b := by
    simp only [Bool.or_eq_true, decide_eq_true_eq]
    exact le_total _ _
  separates a b _ _ hab hba := by
    simp only [decide_eq_true_eq] at hab hba
    have hunits : a.map UInt16.toNat = b.map UInt16.toNat := le_antisymm hab hba
    rw [List.map_injective_iff.mpr (fun u v h => UInt16.toNat_inj.mp h) hunits]

/-- ASCII texts no two of which share their letters and digits. -/
def Separable (xs : List JsString) : Prop :=
  (∀ a ∈ xs, a.all isAscii = true) ∧ (xs.map alnumOf).Nodup

instance separableDecidable (xs : List JsString) : Decidable (Separable xs) :=
  inferInstanceAs (Decidable (_ ∧ _))

theorem Separable.untied {xs : List JsString} (h : Separable xs) (locale : Collation) :
    ∀ a ∈ xs, ∀ b ∈ xs, locale.le a b = true → locale.le b a = true → a = b := by
  intro a ha b hb hab hba
  have hletters := locale.separates a b (h.1 a ha) (h.1 b hb) hab hba
  exact List.inj_on_of_nodup_map h.2 ha hb hletters

/-- `String(x)`, the empty text where it would throw. -/
def stringOf (x : Json) : JsString := x.toStr.getD []

/-- `xs.sort((a,b)=>String(a).localeCompare(String(b)))`. -/
def sortByText (locale : Collation) (xs : List Json) : List Json :=
  xs.mergeSort fun a b => locale.le (stringOf a) (stringOf b)

theorem sortByText_str (locale : Collation) (xs : List JsString) :
    sortByText locale (xs.map .str) = (xs.mergeSort locale.le).map .str := by
  unfold sortByText
  rw [List.map_mergeSort]
  intro a _ b _
  rfl

theorem normal_texts (xs : List JsString) : (Json.arr (xs.map .str)).Normal := by
  induction xs with
  | nil => trivial
  | cons x xs ih => exact ⟨trivial, ih⟩

/-- The texts of two sorted arrays of strings agree exactly for the same strings. -/
theorem stringify_sortByText_iff (locale : Collation) {xs ys : List JsString}
    (h : Separable ys) :
    (Json.arr (sortByText locale (xs.map .str))).stringify =
        (Json.arr (sortByText locale (ys.map .str))).stringify ↔ xs.Perm ys := by
  rw [← mergeSort_eq_iff locale.trans locale.total (h.untied locale), sortByText_str,
    sortByText_str]
  constructor
  · intro heq
    have harr := Json.arr.inj (stringify_injective (normal_texts _) (normal_texts _) heq)
    exact List.map_injective_iff.mpr (fun a b hab => Json.str.inj hab) harr
  · intro heq
    rw [heq]

/-- No array but the empty one is written `[]`. -/
theorem stringify_arr_eq_nil_iff {xs : List Json} :
    (Json.arr xs).stringify = (Json.arr []).stringify ↔ xs = [] := by
  constructor
  · intro h
    cases xs with
    | nil => rfl
    | cons x xs =>
        obtain ⟨c, cs, hx, -⟩ := head_stringify x
        have hlength := congrArg List.length h
        simp [Json.stringify, stringifyElements, hx] at hlength
  · rintro rfl
    rfl

end Ecma

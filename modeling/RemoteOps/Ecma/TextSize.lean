import Mathlib.Algebra.BigOperators.Group.List.Basic
import RemoteOps.Ecma.JsonText

/-!
# The size of a text in bytes

`byteLength` is `Buffer.byteLength(text, "utf8")`. The text of an array or an object is
as large as its members and the punctuation between them, in whatever order they stand,
and a code unit takes at most six bytes between quotes.
-/

namespace Ecma

/-- `Buffer.byteLength(text, "utf8")`. -/
def byteLength (cs : List Char) : ℕ := (cs.map Char.utf8Size).sum

@[simp] theorem byteLength_nil : byteLength [] = 0 := rfl

@[simp] theorem byteLength_cons (c : Char) (cs : List Char) :
    byteLength (c :: cs) = c.utf8Size + byteLength cs := rfl

@[simp] theorem byteLength_append (cs ds : List Char) :
    byteLength (cs ++ ds) = byteLength cs + byteLength ds := by
  simp [byteLength]

theorem utf8Length_eq (s : JsString) : utf8Length s = byteLength (toChars s) := rfl

theorem size_textBytes (cs : List Char) : (textBytes cs).size = byteLength cs := by
  induction cs with
  | nil => rfl
  | cons c cs ih =>
      have hsplit : textBytes (c :: cs) = textBytes [c] ++ textBytes cs := by
        simp only [textBytes, ← String.toByteArray_append, ← String.ofList_append]
        rfl
      have hhead : (textBytes [c]).size = c.utf8Size := String.utf8ByteSize_singleton
      rw [hsplit, ByteArray.size_append, ih, hhead, byteLength_cons]

/-! ## Strings -/

theorem utf8Size_hexChar : ∀ n < 16, (hexChar n).utf8Size = 1 := by decide

theorem utf8Size_le_four (c : Char) : c.utf8Size ≤ 4 := by
  unfold Char.utf8Size
  dsimp only
  split_ifs <;> omega

theorem byteLength_le (cs : List Char) : byteLength cs ≤ 4 * cs.length := by
  induction cs with
  | nil => exact le_rfl
  | cons c cs ih =>
      have hc := utf8Size_le_four c
      rw [byteLength_cons, List.length_cons]
      omega

theorem byteLength_unicodeEscape (u : CodeUnit) : byteLength (unicodeEscape u) = 6 := by
  have hu : u.toNat < 2 ^ 16 := u.toNat_lt
  simp only [unicodeEscape, byteLength_cons, byteLength_nil]
  rw [utf8Size_hexChar _ (by omega), utf8Size_hexChar _ (by omega), utf8Size_hexChar _ (by omega),
    utf8Size_hexChar _ (by omega)]
  rfl

/-- Between quotes a code unit takes at most six bytes. -/
theorem byteLength_quoteUnit_le (u : CodeUnit) : byteLength (quoteUnit u) ≤ 6 := by
  unfold quoteUnit
  split_ifs
  case neg =>
    have hsize := utf8Size_le_four (Char.ofNat u.toNat)
    simp only [byteLength_cons, byteLength_nil]
    omega
  all_goals first
    | exact (byteLength_unicodeEscape u).le
    | decide

theorem byteLength_quoteUnits_le (s : JsString) : byteLength (quoteUnits s) ≤ 6 * s.length := by
  fun_induction quoteUnits s with
  | case1 => simp
  | case2 u => simpa using byteLength_quoteUnit_le u
  | case3 hi lo rest _ ih =>
      have hsize := utf8Size_le_four (pairChar hi lo)
      simp only [byteLength_cons, List.length_cons]
      omega
  | case4 hi lo rest _ ih =>
      have hunit := byteLength_quoteUnit_le hi
      simp only [byteLength_append, List.length_cons] at ih ⊢
      omega

theorem byteLength_quote (s : JsString) : byteLength (quote s) = byteLength (quoteUnits s) + 2 := by
  have hquote : '"'.utf8Size = 1 := rfl
  simp only [quote, byteLength_cons, byteLength_append, byteLength_nil, hquote]
  omega

theorem byteLength_quote_le (s : JsString) : byteLength (quote s) ≤ 6 * s.length + 2 := by
  have hunits := byteLength_quoteUnits_le s
  rw [byteLength_quote]
  omega

/-! ## Arrays and objects -/

theorem byteLength_stringifyMember (k : JsString) (x : Json) :
    byteLength (stringifyMember (k, x)) = byteLength (quote k) + 1 + byteLength x.stringify := by
  have hcolon : ':'.utf8Size = 1 := rfl
  simp only [stringifyMember, byteLength_append, byteLength_cons, hcolon]
  omega

theorem byteLength_stringifyMembersRest (ps : List (JsString × Json)) :
    byteLength (stringifyMembersRest ps) =
      (ps.map fun p => byteLength (stringifyMember p) + 1).sum := by
  induction ps with
  | nil => rfl
  | cons p ps ih =>
      have hcomma : ','.utf8Size = 1 := rfl
      simp only [stringifyMembersRest, byteLength_cons, byteLength_append, List.map_cons,
        List.sum_cons, ih, hcomma]
      omega

theorem byteLength_obj {ps : List (JsString × Json)} (hne : ps ≠ []) :
    byteLength (Json.obj ps).stringify =
      1 + (ps.map fun p => byteLength (stringifyMember p) + 1).sum := by
  cases ps with
  | nil => exact absurd rfl hne
  | cons p ps =>
      have hopen : '{'.utf8Size = 1 := rfl
      have hclose : '}'.utf8Size = 1 := rfl
      simp only [Json.stringify, stringifyMembers, byteLength_cons, byteLength_append,
        byteLength_stringifyMembersRest, List.map_cons, List.sum_cons, byteLength_nil, hopen, hclose]
      omega

/-- The order of its members does not change how large an object is. -/
theorem byteLength_obj_perm {ps qs : List (JsString × Json)} (h : ps.Perm qs) :
    byteLength (Json.obj ps).stringify = byteLength (Json.obj qs).stringify := by
  by_cases hps : ps = []
  · subst hps
    rw [h.nil_eq]
  · have hqs : qs ≠ [] := fun hqs => hps (by rw [hqs] at h; exact h.eq_nil)
    rw [byteLength_obj hps, byteLength_obj hqs, (h.map _).sum_eq]

end Ecma

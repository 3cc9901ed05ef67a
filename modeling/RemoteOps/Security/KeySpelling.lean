import RemoteOps.Security.Redaction

/-!
# Spellings of a key

A key of several words can be spelled in five styles. A separator splits it into its words, and
each of them is looked up; without one it is looked up as a whole. The answers agree exactly if a
word is listed when the words run together are (`spelledAlike_iff`).
-/

namespace RemoteOps

open Ecma

inductive KeyStyle where
  | snake
  | kebab
  | dotted
  | camel
  | pascal
  deriving DecidableEq

def capitalized : JsString → JsString
  | [] => []
  | u :: w => asciiUpper [u] ++ w

def KeyStyle.spell : KeyStyle → List JsString → JsString
  | snake, ws => join (js "_") ws
  | kebab, ws => join (js "-") ws
  | dotted, ws => join (js ".") ws
  | camel, [] => []
  | camel, w :: ws => w ++ ws.flatMap capitalized
  | pascal, ws => ws.flatMap capitalized

/-- Words of lower-case letters. -/
structure LowerWords (ws : List JsString) : Prop where
  ne_nil : ws ≠ []
  nonempty : ∀ w ∈ ws, w ≠ []
  lower : ∀ w ∈ ws, ∀ u ∈ w, isLower u = true

theorem lower_of_all {ws : List JsString} (h : (ws.all fun w => w.all isLower) = true) :
    ∀ w ∈ ws, ∀ u ∈ w, isLower u = true := by
  intro w hw
  exact List.all_eq_true.mp (List.all_eq_true.mp h w hw)

/-- The five spellings get one answer. -/
def SpelledAlike (ws : List JsString) : Prop :=
  ∀ s t : KeyStyle, keyIsSensitive (s.spell ws) = keyIsSensitive (t.spell ws)

/-! ## Letters -/

theorem toNat_of_isLower {u : CodeUnit} (h : isLower u = true) : 97 ≤ u.toNat ∧ u.toNat ≤ 122 := by
  simp only [isLower, Bool.and_eq_true, decide_eq_true_eq, UInt16.le_iff_toNat_le] at h
  exact h

theorem loweredUnit_of_isLower {u : CodeUnit} (h : isLower u = true) : loweredUnit u = [u] := by
  have hrange := toNat_of_isLower h
  have hkelvin : u ≠ 0x212A := by
    rintro rfl
    exact absurd hrange.2 (by decide)
  have hdotted : u ≠ 0x130 := by
    rintro rfl
    exact absurd hrange.2 (by decide)
  have hupper : isUpper u = false := by
    simp only [isUpper, Bool.and_eq_false_iff, decide_eq_false_iff_not, UInt16.le_iff_toNat_le]
    right
    have hlast : (unit 'Z').toNat = 90 := rfl
    omega
  rw [loweredUnit, if_neg hkelvin, if_neg hdotted, hupper]
  rfl

/-- Capital letters are lowered back. -/
theorem loweredUnit_upper {u : CodeUnit} (h : isLower u = true) : loweredUnit (u - 32) = [u] := by
  have hrange := toNat_of_isLower h
  have hsub : (u - 32).toNat = u.toNat - 32 := by
    rw [UInt16.toNat_sub_of_le]
    · rfl
    · rw [UInt16.le_iff_toNat_le]
      exact le_trans (by decide) hrange.1
  have hkelvin : u - 32 ≠ 0x212A := by
    intro heq
    have := congrArg UInt16.toNat heq
    rw [hsub] at this
    simp at this
    omega
  have hdotted : u - 32 ≠ 0x130 := by
    intro heq
    have := congrArg UInt16.toNat heq
    rw [hsub] at this
    simp at this
    omega
  have hupper : isUpper (u - 32) = true := by
    simp only [isUpper, Bool.and_eq_true, decide_eq_true_eq, UInt16.le_iff_toNat_le, hsub]
    have hfirst : (unit 'A').toNat = 65 := rfl
    have hlast : (unit 'Z').toNat = 90 := rfl
    omega
  rw [loweredUnit, if_neg hkelvin, if_neg hdotted, hupper, if_pos rfl, UInt16.sub_add_cancel]

theorem lowered_word {w : JsString} (h : ∀ u ∈ w, isLower u = true) : w.flatMap loweredUnit = w := by
  induction w with
  | nil => rfl
  | cons u w ih =>
      rw [List.forall_mem_cons] at h
      rw [List.flatMap_cons, loweredUnit_of_isLower h.1, ih h.2, List.singleton_append]

theorem lowered_capitalized {w : JsString} (h : ∀ u ∈ w, isLower u = true) :
    (capitalized w).flatMap loweredUnit = w := by
  cases w with
  | nil => rfl
  | cons u w =>
      rw [List.forall_mem_cons] at h
      have hcapital : asciiUpper [u] = [u - 32] := by
        rw [asciiUpper, List.map_singleton, h.1, if_pos rfl]
      rw [capitalized, hcapital, List.singleton_append, List.flatMap_cons, loweredUnit_upper h.1,
        lowered_word h.2, List.singleton_append]

/-! ## The two lookups -/

/-- A unit that separates words. -/
structure IsSeparator (c : CodeUnit) : Prop where
  lowered : loweredUnit c = [c]
  notWord : (isLower c || isDigit c) = false

theorem isSeparator_underscore : IsSeparator (unit '_') := ⟨by decide, by decide⟩

theorem isSeparator_hyphen : IsSeparator (unit '-') := ⟨by decide, by decide⟩

theorem isSeparator_dot : IsSeparator (unit '.') := ⟨by decide, by decide⟩

section Words

variable {c : CodeUnit} {ws : List JsString} (hws : ∀ w ∈ ws, ∀ u ∈ w, isLower u = true)

include hws

theorem lowered_join (hc : IsSeparator c) : (join [c] ws).flatMap loweredUnit = join [c] ws := by
  induction ws with
  | nil => rfl
  | cons w ws ih =>
      rw [List.forall_mem_cons] at hws
      by_cases hlast : ws = []
      · rw [hlast, join, lowered_word hws.1]
      · rw [join_cons hlast, List.flatMap_append, List.flatMap_append, lowered_word hws.1,
          ih hws.2, List.flatMap_singleton, hc.lowered]

theorem lowered_flatMap_capitalized : (ws.flatMap capitalized).flatMap loweredUnit = ws.flatten := by
  induction ws with
  | nil => rfl
  | cons w ws ih =>
      rw [List.forall_mem_cons] at hws
      rw [List.flatMap_cons, List.flatMap_append, lowered_capitalized hws.1, ih hws.2,
        List.flatten_cons]

theorem lower_flatten : ∀ u ∈ ws.flatten, isLower u = true := by
  intro u hu
  obtain ⟨w, hw, hu⟩ := List.mem_flatten.mp hu
  exact hws w hw u hu

omit hws in
theorem lettersOf_word {w : JsString} (h : ∀ u ∈ w, isLower u = true) : lettersOf w = w := by
  apply List.filter_eq_self.mpr
  intro u hu
  rw [h u hu, Bool.true_or]

theorem lettersOf_join_underscore :
    lettersOf (join [unit '_'] ws) = join [unit '_'] ws := by
  induction ws with
  | nil => rfl
  | cons w ws ih =>
      rw [List.forall_mem_cons] at hws
      have hunderscore : lettersOf [unit '_'] = [unit '_'] := by decide
      by_cases hlast : ws = []
      · rw [hlast, join, lettersOf_word hws.1]
      · rw [join_cons hlast, lettersOf, List.filter_append, List.filter_append]
        change lettersOf w ++ lettersOf [unit '_'] ++ lettersOf (join [unit '_'] ws) = _
        rw [lettersOf_word hws.1, hunderscore, ih hws.2]

theorem lettersOf_join (hc : IsSeparator c) (hunderscore : isUnderscore c = false) :
    lettersOf (join [c] ws) = ws.flatten := by
  induction ws with
  | nil => rfl
  | cons w ws ih =>
      rw [List.forall_mem_cons] at hws
      have hdropped : lettersOf [c] = [] := by
        have hlower : isLower c = false := (Bool.or_eq_false_iff.mp hc.notWord).1
        rw [lettersOf, List.filter_singleton, hlower, hunderscore]
        rfl
      by_cases hlast : ws = []
      · rw [hlast, join, lettersOf_word hws.1, List.flatten_singleton]
      · rw [join_cons hlast, lettersOf, List.filter_append, List.filter_append, List.flatten_cons]
        change lettersOf w ++ lettersOf [c] ++ lettersOf (join [c] ws) = w ++ ws.flatten
        rw [lettersOf_word hws.1, hdropped, ih hws.2, List.append_nil]

omit hws in
theorem wordsOf_word {w : JsString} (h : ∀ u ∈ w, isLower u = true) (hne : w ≠ []) :
    wordsOf w = [w] := by
  have hletters : ∀ u ∈ w, (!(isLower u || isDigit u)) = false := by
    intro u hu
    rw [h u hu]
    rfl
  rw [wordsOf, List.splitOnP_eq_singleton hletters]
  simp [hne]

theorem wordsOf_join (hne : ws ≠ []) (hnonempty : ∀ w ∈ ws, w ≠ []) (hc : IsSeparator c) :
    wordsOf (join [c] ws) = ws := by
  induction ws with
  | nil => exact absurd rfl hne
  | cons w ws ih =>
      rw [List.forall_mem_cons] at hws hnonempty
      by_cases hlast : ws = []
      · rw [hlast, join, wordsOf_word hws.1 hnonempty.1]
      · have hletters : ∀ u ∈ w, (!(isLower u || isDigit u)) = false := by
          intro u hu
          rw [hws.1 u hu]
          rfl
        have hsplit : (!(isLower c || isDigit c)) = true := by rw [hc.notWord, Bool.not_false]
        rw [join_cons hlast, List.append_assoc, List.singleton_append, wordsOf,
          List.splitOnP_append_cons_of_forall_mem hletters _ hsplit,
          List.filter_cons_of_pos (by simpa using hnonempty.1)]
        exact congrArg (w :: ·) (ih hws.2 hlast hnonempty.2)

end Words

/-! ## The answers -/

section Answers

variable {ws : List JsString}

theorem LowerWords.flatten_ne_nil (h : LowerWords ws) : ws.flatten ≠ [] := by
  cases ws with
  | nil => exact absurd rfl h.ne_nil
  | cons w ws =>
      rw [List.flatten_cons]
      exact List.append_ne_nil_of_left_ne_nil (h.nonempty w List.mem_cons_self) _

/-- Run together, the words are one word. -/
theorem keyIsSensitive_of_lowered {key : JsString} (h : LowerWords ws)
    (hkey : key.flatMap loweredUnit = ws.flatten) :
    keyIsSensitive key =
      (sensitiveKeyNames.contains ws.flatten || sensitiveTokens.contains ws.flatten) := by
  have hlower := lower_flatten h.lower
  rw [keyIsSensitive, hkey, lettersOf_word hlower, wordsOf_word hlower h.flatten_ne_nil,
    List.any_cons, List.any_nil, Bool.or_false]

theorem keyIsSensitive_pascal (h : LowerWords ws) :
    keyIsSensitive (KeyStyle.pascal.spell ws) =
      (sensitiveKeyNames.contains ws.flatten || sensitiveTokens.contains ws.flatten) :=
  keyIsSensitive_of_lowered h (lowered_flatMap_capitalized h.lower)

theorem keyIsSensitive_camel (h : LowerWords ws) :
    keyIsSensitive (KeyStyle.camel.spell ws) =
      (sensitiveKeyNames.contains ws.flatten || sensitiveTokens.contains ws.flatten) := by
  apply keyIsSensitive_of_lowered h
  cases ws with
  | nil => exact absurd rfl h.ne_nil
  | cons w ws =>
      obtain ⟨hw, hws⟩ := List.forall_mem_cons.mp h.lower
      rw [KeyStyle.spell, List.flatMap_append, lowered_word hw, lowered_flatMap_capitalized hws,
        List.flatten_cons]

theorem keyIsSensitive_join {c : CodeUnit} (h : LowerWords ws) (hc : IsSeparator c)
    (hunderscore : isUnderscore c = false) :
    keyIsSensitive (join [c] ws) =
      (sensitiveKeyNames.contains ws.flatten || ws.any sensitiveTokens.contains) := by
  rw [keyIsSensitive, lowered_join h.lower hc, lettersOf_join h.lower hc hunderscore,
    wordsOf_join h.lower h.ne_nil h.nonempty hc]

/-- A listed name of several words has a word that is listed itself. -/
theorem any_of_listed_snake (h : LowerWords ws) (hseveral : ws.length ≠ 1)
    (hlisted : sensitiveKeyNames.contains (join [unit '_'] ws) = true) :
    ws.any sensitiveTokens.contains = true := by
  have hnames : ∀ name ∈ sensitiveKeyNames, (splitUnit (unit '_') name).length = 1 ∨
      (splitUnit (unit '_') name).any sensitiveTokens.contains = true := by decide
  have hfree : ∀ w ∈ ws, unit '_' ∉ w := by
    intro w hw hmem
    exact absurd (h.lower w hw _ hmem) (by decide)
  have hsplit := hnames _ (List.contains_iff_mem.mp hlisted)
  rw [splitUnit_join h.ne_nil hfree] at hsplit
  exact hsplit.resolve_left hseveral

theorem keyIsSensitive_snake (h : LowerWords ws) (hseveral : ws.length ≠ 1) :
    keyIsSensitive (KeyStyle.snake.spell ws) = ws.any sensitiveTokens.contains := by
  have hspell : KeyStyle.snake.spell ws = join [unit '_'] ws := rfl
  rw [hspell, keyIsSensitive, lowered_join h.lower isSeparator_underscore,
    lettersOf_join_underscore h.lower,
    wordsOf_join h.lower h.ne_nil h.nonempty isSeparator_underscore]
  cases hlisted : sensitiveKeyNames.contains (join [unit '_'] ws) with
  | false => exact Bool.false_or _
  | true => rw [any_of_listed_snake h hseveral hlisted, Bool.or_true]

end Answers

/-- A single word is spelled in two ways, which differ in their first letter. -/
theorem spelledAlike_single {w : JsString} (h : LowerWords [w]) : SpelledAlike [w] := by
  have hspell : ∀ s : KeyStyle,
      keyIsSensitive (s.spell [w]) = keyIsSensitive (KeyStyle.camel.spell [w]) := by
    intro s
    cases s with
    | pascal => rw [keyIsSensitive_pascal h, keyIsSensitive_camel h]
    | _ => simp [KeyStyle.spell, join]
  intro s t
  rw [hspell s, hspell t]

/-- The spellings of a key get one answer exactly if the key is a single word, or one of its words
is listed exactly when the words run together are. -/
theorem spelledAlike_iff (ws : List JsString) (h : LowerWords ws) :
    SpelledAlike ws ↔
      ws.length = 1 ∨
        ((∃ w ∈ ws, w ∈ sensitiveTokens) ↔
          ws.flatten ∈ sensitiveKeyNames ∨ ws.flatten ∈ sensitiveTokens) := by
  by_cases hsingle : ws.length = 1
  · obtain ⟨w, rfl⟩ := List.length_eq_one_iff.mp hsingle
    exact iff_of_true (spelledAlike_single h) (.inl rfl)
  · have hsnake := keyIsSensitive_snake h hsingle
    have hcamel := keyIsSensitive_camel h
    have hpascal := keyIsSensitive_pascal h
    have hkebab : keyIsSensitive (KeyStyle.kebab.spell ws) = _ :=
      keyIsSensitive_join h isSeparator_hyphen (by decide)
    have hdotted : keyIsSensitive (KeyStyle.dotted.spell ws) = _ :=
      keyIsSensitive_join h isSeparator_dot (by decide)
    have hwords : (∃ w ∈ ws, w ∈ sensitiveTokens) ↔ ws.any sensitiveTokens.contains = true := by
      simp
    have hwhole : ws.flatten ∈ sensitiveKeyNames ∨ ws.flatten ∈ sensitiveTokens ↔
        (sensitiveKeyNames.contains ws.flatten || sensitiveTokens.contains ws.flatten) = true := by
      simp
    rw [or_iff_right hsingle, hwords, hwhole, ← Bool.eq_iff_iff]
    constructor
    · intro hagree
      rw [← hsnake, ← hcamel]
      exact hagree .snake .camel
    · intro hagree
      have hsame : ∀ s : KeyStyle,
          keyIsSensitive (s.spell ws) = ws.any sensitiveTokens.contains := by
        intro s
        cases s with
        | snake => exact hsnake
        | camel => rw [hcamel, hagree]
        | pascal => rw [hpascal, hagree]
        | kebab =>
            rw [hkebab, hagree]
            cases sensitiveKeyNames.contains ws.flatten <;> simp
        | dotted =>
            rw [hdotted, hagree]
            cases sensitiveKeyNames.contains ws.flatten <;> simp
      intro s t
      rw [hsame s, hsame t]

theorem apiKey_spelledAlike : SpelledAlike [js "api", js "key"] := by
  have hwords : LowerWords [js "api", js "key"] :=
    ⟨by simp, by decide, lower_of_all (by decide)⟩
  exact (spelledAlike_iff _ hwords).mpr (.inr (by decide))

/-- In camel case an access token is not recognised. -/
theorem accessToken_not_spelledAlike :
    ¬∀ ws, LowerWords ws → SpelledAlike ws := by
  intro h
  have hwords : LowerWords [js "access", js "token"] :=
    ⟨by simp, by decide, lower_of_all (by decide)⟩
  exact absurd (h _ hwords .snake .camel) (by decide)

end RemoteOps

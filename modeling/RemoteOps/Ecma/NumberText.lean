import Mathlib.Data.List.DropRight
import RemoteOps.Ecma.Buffer

/-!
# `Number(String(x))`

`String(x)` writes a finite Number with digits, a point, an exponent and signs.
`StringToNumber` accepts more than the grammar of JSON, but on a text of that grammar
it agrees with it, so that a printed Number is read back (`numberOfString_text`).
-/

namespace Ecma

/-! ## The characters of a numeral -/

def isNumeralChar (c : Char) : Bool := isDigitChar c || c == '.' || c == 'e' || c == '-' || c == '+'

theorem isNumeralChar_of_isDigitChar {c : Char} (hc : isDigitChar c = true) :
    isNumeralChar c = true := by
  simp [isNumeralChar, hc]

theorem numeral_digitsText (s : ℕ) : ∀ c ∈ digitsText s, isNumeralChar c = true :=
  fun _ hc => isNumeralChar_of_isDigitChar (isDigitChar_of_mem_digitsText hc)

theorem numeral_zeros (n : ℕ) : ∀ c ∈ List.replicate n '0', isNumeralChar c = true :=
  fun _ hc => isNumeralChar_of_isDigitChar (digit_of_mem_zeros hc)

theorem numeral_exponentText (e : ℤ) : ∀ c ∈ exponentText e, isNumeralChar c = true := by
  intro c hc
  rw [exponentText, List.mem_cons, List.mem_cons] at hc
  rcases hc with rfl | rfl | hc
  · rfl
  · split_ifs <;> rfl
  · exact numeral_digitsText _ c hc

theorem numeral_layout {ds : List Char} (hds : ∀ c ∈ ds, isNumeralChar c = true) (n : ℤ) :
    ∀ c ∈ layout ds n, isNumeralChar c = true := by
  intro c hc
  unfold layout at hc
  split at hc
  · rcases List.mem_append.mp hc with hc | hc
    · exact hds c hc
    · exact numeral_zeros _ c hc
  · split at hc
    · rcases List.mem_append.mp hc with hc | hc
      · exact hds c (List.mem_of_mem_take hc)
      · rcases List.mem_cons.mp hc with rfl | hc
        · rfl
        · exact hds c (List.mem_of_mem_drop hc)
    · split at hc
      · rw [List.mem_cons, List.mem_cons, List.mem_append] at hc
        rcases hc with rfl | rfl | hc | hc
        · rfl
        · rfl
        · exact numeral_zeros _ c hc
        · exact hds c hc
      · cases ds with
        | nil => cases hc
        | cons d ds =>
            have hd := hds d List.mem_cons_self
            cases ds with
            | nil =>
                rcases List.mem_cons.mp hc with rfl | hc
                · exact hd
                · exact numeral_exponentText _ c hc
            | cons d' ds =>
                rw [List.mem_cons, List.mem_cons, List.mem_append] at hc
                rcases hc with rfl | rfl | hc | hc
                · exact hd
                · rfl
                · exact hds c (List.mem_cons_of_mem _ hc)
                · exact numeral_exponentText _ c hc

theorem numeral_doubleText (x : Double) : ∀ c ∈ doubleText x, isNumeralChar c = true := by
  intro c hc
  unfold doubleText at hc
  split at hc
  · rw [List.mem_singleton.mp hc]
    rfl
  · rcases List.mem_append.mp hc with hc | hc
    · split at hc
      · rw [List.mem_singleton.mp hc]
        rfl
      · cases hc
    · exact numeral_layout (numeral_digitsText _) _ c hc

/-! ## The same text as code units -/

section Units

variable {cs : List Char}

theorem toNat_of_isNumeralChar {c : Char} (hc : isNumeralChar c = true) :
    43 ≤ c.toNat ∧ c.toNat ≤ 101 ∧ c.toNat ≠ 66 ∧ c.toNat ≠ 79 ∧ c.toNat ≠ 88 ∧ c.toNat ≠ 98 := by
  simp only [isNumeralChar, isDigitChar, Bool.or_eq_true, Bool.and_eq_true, decide_eq_true_eq,
    beq_iff_eq, Char.le_def, UInt32.le_iff_toNat_le] at hc
  rcases hc with (((hc | rfl) | rfl) | rfl) | rfl
  · have hlow : 48 ≤ c.toNat := hc.1
    have hhigh : c.toNat ≤ 57 := hc.2
    omega
  all_goals decide

/-- A numeral is one code unit per character. -/
theorem ofChars_numeral (hcs : ∀ c ∈ cs, isNumeralChar c = true) :
    ofChars cs = cs.map fun c => UInt16.ofNat c.toNat := by
  induction cs with
  | nil => rfl
  | cons c cs ih =>
      obtain ⟨-, hc, -⟩ := toNat_of_isNumeralChar (hcs c List.mem_cons_self)
      have hunits : unitsOfChar c = [UInt16.ofNat c.toNat] := if_pos (by omega)
      rw [ofChars, List.flatMap_cons, hunits, List.map_cons,
        ← ih fun d hd => hcs d (List.mem_cons_of_mem _ hd)]
      rfl

theorem toNat_unit {c : Char} (hc : isNumeralChar c = true) :
    (UInt16.ofNat c.toNat).toNat = c.toNat := by
  obtain ⟨-, hc, -⟩ := toNat_of_isNumeralChar hc
  rw [UInt16.toNat_ofNat']
  omega

theorem toChars_ofChars (hcs : ∀ c ∈ cs, isNumeralChar c = true) : toChars (ofChars cs) = cs := by
  rw [ofChars_numeral hcs]
  induction cs with
  | nil => rfl
  | cons c cs ih =>
      have hc := hcs c List.mem_cons_self
      have hvalue := toNat_unit hc
      obtain ⟨-, hsmall, -⟩ := toNat_of_isNumeralChar hc
      have hascii : isAscii (UInt16.ofNat c.toNat) = true := by
        rw [isAscii_iff, hvalue]
        omega
      rw [List.map_cons, toChars_cons_of_ascii hascii, hvalue, Char.ofNat_toNat,
        ih fun d hd => hcs d (List.mem_cons_of_mem _ hd)]

theorem isWhite_of_range : ∀ n < 102, 43 ≤ n → isWhite (UInt16.ofNat n) = false := by decide

theorem isWhite_numeral {c : Char} (hc : isNumeralChar c = true) :
    isWhite (UInt16.ofNat c.toNat) = false := by
  obtain ⟨hlow, hhigh, -⟩ := toNat_of_isNumeralChar hc
  exact isWhite_of_range _ (by omega) hlow

theorem dropWhile_isWhite {s : JsString} (hs : ∀ u ∈ s, isWhite u = false) :
    s.dropWhile isWhite = s := by
  cases s with
  | nil => rfl
  | cons u s => rw [List.dropWhile_cons, hs u List.mem_cons_self, if_neg Bool.false_ne_true]

theorem trim_eq_self {s : JsString} (hs : ∀ u ∈ s, isWhite u = false) : trim s = s := by
  have hreverse : ∀ u ∈ s.reverse, isWhite u = false := fun u hu => hs u (List.mem_reverse.mp hu)
  rw [trim, dropWhile_isWhite hs, dropWhile_isWhite hreverse, List.reverse_reverse]

/-- What is trimmed has no white space left at either end. -/
theorem trim_trim (s : JsString) : trim (trim s) = trim s := by
  have htrim (t : JsString) : trim t = (t.dropWhile isWhite).rdropWhile isWhite := rfl
  have hstart : trim s <+: s.dropWhile isWhite := List.rdropWhile_prefix isWhite _
  have hhead : (trim s).dropWhile isWhite = trim s := by
    rw [List.dropWhile_eq_self_iff]
    intro hpos
    rw [hstart.getElem hpos]
    exact List.dropWhile_get_zero_not isWhite s (lt_of_lt_of_le hpos hstart.length_le)
  rw [htrim (trim s), hhead, htrim, List.rdropWhile_idempotent]

theorem mem_ofChars (hcs : ∀ c ∈ cs, isNumeralChar c = true) {u : CodeUnit} (hu : u ∈ ofChars cs) :
    ∃ c, isNumeralChar c = true ∧ UInt16.ofNat c.toNat = u := by
  rw [ofChars_numeral hcs] at hu
  obtain ⟨c, hc, rfl⟩ := List.mem_map.mp hu
  exact ⟨c, hcs c hc, rfl⟩

theorem trim_numeral (hcs : ∀ c ∈ cs, isNumeralChar c = true) : trim (ofChars cs) = ofChars cs := by
  refine trim_eq_self fun u hu => ?_
  obtain ⟨c, hc, rfl⟩ := mem_ofChars hcs hu
  exact isWhite_numeral hc

/-- A numeral has no radix prefix. -/
theorem take_numeral_ne (hcs : ∀ c ∈ cs, isNumeralChar c = true) {p : JsString} {u : CodeUnit}
    (hu : u ∈ p) (hother : ∀ c, isNumeralChar c = true → c.toNat ≠ u.toNat) :
    (ofChars cs).take 2 ≠ p := by
  intro heq
  obtain ⟨c, hc, hcu⟩ := mem_ofChars hcs (List.mem_of_mem_take (heq ▸ hu))
  exact hother c hc (by rw [← hcu, toNat_unit hc])

end Units

/-! ## Reading a numeral -/

theorem parseIntPart_eq_some {cs is rest : List Char} (h : parseIntPart cs = some (is, rest)) :
    is = cs.takeWhile isDigitChar ∧ rest = cs.dropWhile isDigitChar ∧ is ≠ [] := by
  unfold parseIntPart at h
  split at h
  · cases h
  · cases h
  · next hne _ =>
      obtain ⟨rfl, rfl⟩ := Prod.mk.inj (Option.some.inj h)
      exact ⟨rfl, rfl, hne⟩

theorem parseFraction_point_eq_some {ds fs rest : List Char}
    (h : parseFraction ('.' :: ds) = some (fs, rest)) :
    fs = ds.takeWhile isDigitChar ∧ rest = ds.dropWhile isDigitChar := by
  rw [parseFraction] at h
  generalize htake : ds.takeWhile isDigitChar = taken at h
  cases taken with
  | nil => cases h
  | cons d taken =>
      obtain ⟨rfl, rfl⟩ := Prod.mk.inj (Option.some.inj h)
      exact ⟨rfl, rfl⟩

theorem parseFraction_eq_some_of_ne {cs fs rest : List Char} (hpoint : ∀ ds, cs ≠ '.' :: ds)
    (h : parseFraction cs = some (fs, rest)) : fs = [] ∧ rest = cs := by
  have hnone : parseFraction cs = some ([], cs) := by
    refine parseFraction_none cs fun c ds heq hc => hpoint ds ?_
    rw [heq, hc]
  rw [hnone] at h
  obtain ⟨rfl, rfl⟩ := Prod.mk.inj (Option.some.inj h)
  exact ⟨rfl, rfl⟩

/-- Where the grammar of JSON accepts a decimal, `StringToNumber` gives the same value. -/
theorem looseDecimal_of_parseDecimal {cs : List Char} {s : ℕ} {e : ℤ} (negative : Bool)
    (h : parseDecimal cs = some ((s, e), [])) :
    looseDecimal negative cs = JsNumber.ofDecimal negative s e := by
  simp only [parseDecimal, Option.bind_eq_bind, Option.bind_eq_some_iff, Prod.exists] at h
  obtain ⟨is, cs₁, hint, fs, cs₂, hfrac, e', cs₃, hexp, h⟩ := h
  obtain ⟨hvalue, rfl⟩ := Prod.mk.inj (Option.some.inj h)
  obtain ⟨rfl, rfl⟩ := Prod.mk.inj hvalue
  have hword : cs ≠ "Infinity".toList := by
    have hnone : parseIntPart "Infinity".toList = none := by decide
    rintro rfl
    rw [hnone] at hint
    cases hint
  obtain ⟨rfl, rfl, hne⟩ := parseIntPart_eq_some hint
  have hsome : ((cs.takeWhile isDigitChar).isEmpty && fs.isEmpty) = false := by
    rw [List.isEmpty_eq_false_iff.mpr hne, Bool.false_and]
  unfold looseDecimal
  rw [if_neg hword]
  dsimp only
  clear hint
  generalize cs.dropWhile isDigitChar = cs₁ at hfrac
  rcases Classical.em (∃ ds, cs₁ = '.' :: ds) with ⟨ds, rfl⟩ | hne
  · obtain ⟨rfl, rfl⟩ := parseFraction_point_eq_some hfrac
    simp only [hexp, hsome, Bool.false_eq_true, if_false]
  · have hpoint : ∀ ds, cs₁ = '.' :: ds → False := fun ds heq => hne ⟨ds, heq⟩
    obtain ⟨rfl, rfl⟩ := parseFraction_eq_some_of_ne hpoint hfrac
    simp only [hexp, hsome, Bool.false_eq_true, if_false]

/-- The decimal literal of a text, with its sign. -/
def signedDecimal : List Char → JsNumber
  | '-' :: ds => looseDecimal true ds
  | '+' :: ds => looseDecimal false ds
  | ds => looseDecimal false ds

/-- A numeral is a signed decimal for `StringToNumber`. -/
theorem numberOfString_ofChars {cs : List Char} (hcs : ∀ c ∈ cs, isNumeralChar c = true)
    (hne : cs ≠ []) :
    numberOfString (ofChars cs) = signedDecimal cs := by
  have hother : ∀ c, isNumeralChar c = true →
      c.toNat ≠ 66 ∧ c.toNat ≠ 79 ∧ c.toNat ≠ 88 ∧ c.toNat ≠ 98 ∧ c.toNat ≠ 111 ∧
        c.toNat ≠ 120 := by
    intro c hc
    have hrange := toNat_of_isNumeralChar hc
    omega
  have hx := take_numeral_ne hcs (p := js "0x") (u := unit 'x') (by decide)
    fun c hc => (hother c hc).2.2.2.2.2
  have hX := take_numeral_ne hcs (p := js "0X") (u := unit 'X') (by decide)
    fun c hc => (hother c hc).2.2.1
  have ho := take_numeral_ne hcs (p := js "0o") (u := unit 'o') (by decide)
    fun c hc => (hother c hc).2.2.2.2.1
  have hO := take_numeral_ne hcs (p := js "0O") (u := unit 'O') (by decide)
    fun c hc => (hother c hc).2.1
  have hb := take_numeral_ne hcs (p := js "0b") (u := unit 'b') (by decide)
    fun c hc => (hother c hc).2.2.2.1
  have hB := take_numeral_ne hcs (p := js "0B") (u := unit 'B') (by decide)
    fun c hc => (hother c hc).1
  have hunits : ofChars cs ≠ [] := by
    rw [ofChars_numeral hcs]
    simpa using hne
  have hchars := toChars_ofChars hcs
  have htrim := trim_numeral hcs
  unfold numberOfString
  rw [htrim]
  split
  · next hnil => exact absurd hnil hunits
  · rw [if_neg (not_or.mpr ⟨hx, hX⟩), if_neg (not_or.mpr ⟨ho, hO⟩), if_neg (not_or.mpr ⟨hb, hB⟩),
      hchars]
    rfl

theorem numberOfString_of_parseNumber {cs : List Char} {x : JsNumber}
    (hcs : ∀ c ∈ cs, isNumeralChar c = true) (h : parseNumber cs = some (x, [])) :
    numberOfString (ofChars cs) = x := by
  have hne : cs ≠ [] := by
    rintro rfl
    cases h
  have hread : ∀ negative ds,
      (parseDecimal ds).map (fun r => (JsNumber.ofDecimal negative r.1.1 r.1.2, r.2)) =
        some (x, []) → looseDecimal negative ds = x := by
    intro negative ds hds
    obtain ⟨⟨⟨s, e⟩, rest⟩, hparse, hvalue⟩ := Option.map_eq_some_iff.mp hds
    obtain ⟨rfl, rfl⟩ := Prod.mk.inj hvalue
    exact looseDecimal_of_parseDecimal negative hparse
  rw [numberOfString_ofChars hcs hne]
  unfold signedDecimal
  split
  · exact hread true _ h
  · next ds =>
      have hnone : parseDecimal ('+' :: ds) = none := rfl
      rw [parseNumber, hnone] at h
      · cases h
      · exact fun ds heq => by cases heq
  · next hminus _ =>
      refine hread false _ ?_
      rw [parseNumber] at h
      · exact h
      · exact fun ds heq => hminus ds heq

/-- `Number(String(x))` is `x` for a finite Number. -/
theorem numberOfString_text (x : Double) :
    numberOfString (ofChars (JsNumber.finite x).text) = JsNumber.finite x := by
  have hend : NumberEnd [] := by simp [NumberEnd]
  have hparse := parseNumber_doubleText x hend
  rw [List.append_nil] at hparse
  exact numberOfString_of_parseNumber (numeral_doubleText x) hparse

/-- The text of a positive Number has no sign. -/
theorem head_doubleText_of_pos {x : Double} (hx : 0 < x.mag) :
    ∃ c cs, doubleText x = c :: cs ∧ isDigitChar c = true := by
  have habs : x.mag.natAbs ≠ 0 := by omega
  obtain ⟨hs, -⟩ := toDecimal_spec habs x.isDouble
  have hend : NumberEnd [] := by simp [NumberEnd]
  obtain ⟨s', e', hparse, -⟩ := parseDecimal_decimalText hs (toDecimal x.mag.natAbs).2 hend
  have htext : doubleText x =
      decimalText (toDecimal x.mag.natAbs).1 (toDecimal x.mag.natAbs).2 := by
    rw [doubleText, if_neg (by omega), if_neg (by omega), List.nil_append]
  rw [htext]
  rw [List.append_nil] at hparse
  generalize decimalText (toDecimal x.mag.natAbs).1 (toDecimal x.mag.natAbs).2 = cs at hparse
  simp only [parseDecimal, Option.bind_eq_bind, Option.bind_eq_some_iff, Prod.exists] at hparse
  obtain ⟨is, rest, hint, -⟩ := hparse
  obtain ⟨his, -, hne⟩ := parseIntPart_eq_some hint
  cases cs with
  | nil => exact absurd his hne
  | cons c cs =>
      refine ⟨c, cs, rfl, ?_⟩
      by_contra hc
      rw [List.takeWhile_cons_of_neg hc] at his
      exact hne his

end Ecma

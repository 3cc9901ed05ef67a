import RemoteOps.Ecma.Number

/-!
# Decimal texts of Numbers

`decimalText` lays out a decimal `s * 10 ^ e` the way `Number::toString` does:
plain digits up to `10 ^ 21`, a leading `0.` down to `10 ^ (-6)`, and exponent
notation outside. `parseDecimal` reads the number grammar of JSON. The text of a
finite Number is read back as the same Number (`parseNumber_numberText`), which
makes the text injective; no property of the digits chosen is used for that,
only that the decimal found by `toDecimal` rounds back.
-/

namespace Ecma

/-! ## The shortest decimal -/

/-- Remove up to `fuel` trailing zeros of `s`, raising the exponent. -/
def stripZeros : ℕ → ℕ → ℤ → ℕ × ℤ
  | 0, s, e => (s, e)
  | fuel + 1, s, e =>
      if s % 10 = 0 ∧ s ≠ 0 then stripZeros fuel (s / 10) (e + 1) else (s, e)

/-- A decimal exponent `e` for which `k / scale` is at most `10 ^ e`. -/
def leadExp (k : ℕ) : ℤ :=
  if scale ≤ k then Nat.log 10 (k / scale) + 1 else -(Nat.log 10 (scale / k) : ℤ)

/-- The two neighbours of `k / scale` on the grid of multiples of `10 ^ e`, the
nearer one first. -/
def neighbours (k : ℕ) (e : ℤ) : List ℕ :=
  let num := k * 10 ^ (-e).toNat
  let den := scale * 10 ^ e.toNat
  let near := roundDiv num den
  [near, if near = num / den then near + 1 else near - 1]

/-- The decimals to try for `k`, from the coarsest grid down. Seventeen digits
distinguish any two doubles. -/
def decimalCandidates (k : ℕ) : List (ℕ × ℤ) :=
  (List.range 19).flatMap fun i =>
    (neighbours k (leadExp k - i)).map fun s => stripZeros 20 s (leadExp k - i)

/-- The decimal `Number::toString` prints for a positive double. The default is
the exact expansion, with `5 ^ minExp` for `10 ^ minExp / scale`. -/
def toDecimal (k : ℕ) : ℕ × ℤ :=
  ((decimalCandidates k).find? fun c => c.1 != 0 && decimalMag c.1 c.2 == k).getD
    (k * 5 ^ minExp, -minExp)

theorem decimalMag_exact {k : ℕ} (h : roundMag k 1 = k) :
    decimalMag (k * 5 ^ minExp) (-minExp) = k := by
  have hnum : k * 5 ^ minExp * 10 ^ (-(minExp : ℤ)).toNat * scale = k * 10 ^ minExp := by
    have hzero : (-(minExp : ℤ)).toNat = 0 := by omega
    rw [hzero, pow_zero, mul_one, scale, mul_assoc, ← mul_pow]
    norm_num
  have hden : 10 ^ (- -(minExp : ℤ)).toNat = 1 * 10 ^ minExp := by
    rw [neg_neg, Int.toNat_natCast, one_mul]
  rw [decimalMag, hnum, hden, roundMag_mul_right k 1 (by positivity), h]

theorem toDecimal_spec {k : ℕ} (hpos : k ≠ 0) (h : roundMag k 1 = k) :
    (toDecimal k).1 ≠ 0 ∧ decimalMag (toDecimal k).1 (toDecimal k).2 = k := by
  unfold toDecimal
  cases hfind : (decimalCandidates k).find? fun c => c.1 != 0 && decimalMag c.1 c.2 == k with
  | none => exact ⟨by simp [hpos], by simpa using decimalMag_exact h⟩
  | some c =>
      have hc := List.find?_some hfind
      simpa using hc

/-! ## Layout -/

def digitChar (d : ℕ) : Char := Char.ofNat (48 + d)

def digitsText (s : ℕ) : List Char := ((Nat.digits 10 s).map digitChar).reverse

/-- The exponent part of exponent notation, with its sign. -/
def exponentText (e : ℤ) : List Char :=
  'e' :: (if e < 0 then '-' else '+') :: digitsText e.natAbs

/-- Digits `ds` with the decimal point after the first `n`. -/
def layout (ds : List Char) (n : ℤ) : List Char :=
  if ds.length ≤ n ∧ n ≤ 21 then ds ++ List.replicate (n - ds.length).toNat '0'
  else if 0 < n ∧ n ≤ 21 then ds.take n.toNat ++ '.' :: ds.drop n.toNat
  else if -6 < n ∧ n ≤ 0 then '0' :: '.' :: (List.replicate (-n).toNat '0' ++ ds)
  else
    match ds with
    | [] => []
    | [d] => d :: exponentText (n - 1)
    | d :: ds' => d :: '.' :: (ds' ++ exponentText (n - 1))

def decimalText (s : ℕ) (e : ℤ) : List Char :=
  layout (digitsText s) ((digitsText s).length + e)

/-! ## The number grammar of JSON -/

def isDigitChar (c : Char) : Bool := '0' ≤ c && c ≤ '9'

def digitsValue (cs : List Char) : ℕ := cs.foldl (fun acc c => 10 * acc + (c.toNat - 48)) 0

/-- An integer part: digits without a leading zero, or a single zero. -/
def parseIntPart (cs : List Char) : Option (List Char × List Char) :=
  match cs.takeWhile isDigitChar with
  | [] => none
  | '0' :: _ :: _ => none
  | ds => some (ds, cs.dropWhile isDigitChar)

/-- The digits of an optional fraction. -/
def parseFraction : List Char → Option (List Char × List Char)
  | '.' :: cs =>
      match cs.takeWhile isDigitChar with
      | [] => none
      | ds => some (ds, cs.dropWhile isDigitChar)
  | cs => some ([], cs)

/-- The digits of an exponent, once its sign is read. -/
def parseExponentDigits (negative : Bool) (cs : List Char) : Option (ℤ × List Char) :=
  match cs.takeWhile isDigitChar with
  | [] => none
  | ds => some (if negative then -(digitsValue ds : ℤ) else digitsValue ds,
      cs.dropWhile isDigitChar)

/-- An optional exponent. -/
def parseExponent : List Char → Option (ℤ × List Char)
  | c :: cs =>
      if c = 'e' ∨ c = 'E' then
        match cs with
        | '-' :: cs' => parseExponentDigits true cs'
        | '+' :: cs' => parseExponentDigits false cs'
        | cs' => parseExponentDigits false cs'
      else some (0, c :: cs)
  | [] => some (0, [])

/-- An unsigned decimal: the pair `(s, e)` stands for `s * 10 ^ e`. -/
def parseDecimal (cs : List Char) : Option ((ℕ × ℤ) × List Char) := do
  let (ds, cs) ← parseIntPart cs
  let (fs, cs) ← parseFraction cs
  let (e, cs) ← parseExponent cs
  return ((digitsValue (ds ++ fs), e - fs.length), cs)

/-- A JSON number. -/
def parseNumber : List Char → Option (JsNumber × List Char)
  | '-' :: cs => (parseDecimal cs).map fun r => (JsNumber.ofDecimal true r.1.1 r.1.2, r.2)
  | cs => (parseDecimal cs).map fun r => (JsNumber.ofDecimal false r.1.1 r.1.2, r.2)

/-- The text of a finite Number. -/
def doubleText (x : Double) : List Char :=
  if x.mag = 0 then ['0']
  else
    (if x.mag < 0 then ['-'] else []) ++
      decimalText (toDecimal x.mag.natAbs).1 (toDecimal x.mag.natAbs).2

/-- `String(x)` for a Number. -/
def JsNumber.text : JsNumber → List Char
  | nan => "NaN".toList
  | infinite negative => (if negative then ['-'] else []) ++ "Infinity".toList
  | finite x => doubleText x

/-! ## Reading the text back -/

/-- A text that cannot continue a number. -/
def NumberEnd (rest : List Char) : Prop :=
  ∀ c cs, rest = c :: cs → isDigitChar c = false ∧ c ≠ '.' ∧ c ≠ 'e' ∧ c ≠ 'E'

theorem isDigitChar_digitChar : ∀ d < 10, isDigitChar (digitChar d) = true := by decide

theorem toNat_digitChar : ∀ d < 10, (digitChar d).toNat - 48 = d := by decide

theorem digitChar_ne_zero : ∀ d < 10, d ≠ 0 → digitChar d ≠ '0' := by decide

theorem isDigitChar_of_mem_digitsText {s : ℕ} {c : Char} (h : c ∈ digitsText s) :
    isDigitChar c = true := by
  simp only [digitsText, List.mem_reverse, List.mem_map] at h
  obtain ⟨d, hd, rfl⟩ := h
  exact isDigitChar_digitChar d (Nat.digits_lt_base (by norm_num) hd)

theorem digitsText_ne_nil {s : ℕ} (h : s ≠ 0) : digitsText s ≠ [] := by
  simp [digitsText, Nat.digits_ne_nil_iff_ne_zero, h]

theorem digitsValue_append (cs ds : List Char) :
    digitsValue (cs ++ ds) = digitsValue cs * 10 ^ ds.length + digitsValue ds := by
  have hfold : ∀ (acc : ℕ) (ds : List Char),
      ds.foldl (fun acc c => 10 * acc + (c.toNat - 48)) acc =
        acc * 10 ^ ds.length + digitsValue ds := by
    intro acc ds
    induction ds generalizing acc with
    | nil => simp [digitsValue]
    | cons d ds ih =>
        rw [digitsValue, List.foldl_cons, List.foldl_cons, ih, ih (10 * 0 + _),
          List.length_cons, pow_succ]
        ring
  rw [digitsValue, List.foldl_append, hfold]
  rfl

theorem digitsValue_replicate_zero (n : ℕ) : digitsValue (List.replicate n '0') = 0 := by
  induction n with
  | zero => rfl
  | succ n ih =>
      rw [List.replicate_succ', digitsValue_append, ih]
      rfl

theorem digitsValue_digitsText (s : ℕ) : digitsValue (digitsText s) = s := by
  have hdigits : ∀ ds : List ℕ, (∀ d ∈ ds, d < 10) →
      digitsValue ((ds.map digitChar).reverse) = Nat.ofDigits 10 ds := by
    intro ds hds
    induction ds with
    | nil => rfl
    | cons d ds ih =>
        have hd : digitsValue [digitChar d] = d := by
          simpa [digitsValue] using toNat_digitChar d (hds d (by simp))
        rw [List.map_cons, List.reverse_cons, digitsValue_append, hd,
          ih fun x hx => hds x (by simp [hx]), Nat.ofDigits_cons]
        simp
        ring
  rw [digitsText, hdigits _ fun d hd => Nat.digits_lt_base (by norm_num) hd,
    Nat.ofDigits_digits]

/-- The digits of a positive number do not start with zero. -/
theorem head_digitsText {s : ℕ} (h : s ≠ 0) :
    ∃ c cs, digitsText s = c :: cs ∧ c ≠ '0' ∧ isDigitChar c = true := by
  have hne : Nat.digits 10 s ≠ [] := Nat.digits_ne_nil_iff_ne_zero.mpr h
  have hlast := Nat.getLast_digit_ne_zero 10 h
  have hlt := Nat.digits_lt_base (b := 10) (by norm_num) (List.getLast_mem hne)
  have hsplit : digitsText s = digitChar ((Nat.digits 10 s).getLast hne) ::
      ((Nat.digits 10 s).dropLast.map digitChar).reverse := by
    conv_lhs => rw [digitsText, ← List.dropLast_append_getLast hne]
    simp
  exact ⟨_, _, hsplit, digitChar_ne_zero _ hlt hlast, isDigitChar_digitChar _ hlt⟩

section Scanning

variable {ds rest : List Char}

theorem takeWhile_digits (hds : ∀ c ∈ ds, isDigitChar c = true)
    (hrest : ∀ c cs, rest = c :: cs → isDigitChar c = false) :
    (ds ++ rest).takeWhile isDigitChar = ds := by
  rw [List.takeWhile_append_of_pos hds]
  cases rest with
  | nil => simp
  | cons c cs => simp [hrest c cs rfl]

theorem dropWhile_digits (hds : ∀ c ∈ ds, isDigitChar c = true)
    (hrest : ∀ c cs, rest = c :: cs → isDigitChar c = false) :
    (ds ++ rest).dropWhile isDigitChar = rest := by
  rw [List.dropWhile_append_of_pos hds]
  cases rest with
  | nil => simp
  | cons c cs => simp [hrest c cs rfl]

theorem parseIntPart_append (ds rest : List Char) (hds : ∀ c ∈ ds, isDigitChar c = true)
    (hrest : ∀ c cs, rest = c :: cs → isDigitChar c = false)
    (hhead : ∃ c cs, ds = c :: cs ∧ (c ≠ '0' ∨ cs = [])) :
    parseIntPart (ds ++ rest) = some (ds, rest) := by
  rw [parseIntPart, takeWhile_digits hds hrest, dropWhile_digits hds hrest]
  obtain ⟨c, cs, rfl, hc⟩ := hhead
  split
  · contradiction
  · rename_i heq
    simp_all
  · rfl

theorem parseFraction_point (ds rest : List Char) (hds : ∀ c ∈ ds, isDigitChar c = true) (hne : ds ≠ [])
    (hrest : ∀ c cs, rest = c :: cs → isDigitChar c = false) :
    parseFraction ('.' :: (ds ++ rest)) = some (ds, rest) := by
  rw [parseFraction, takeWhile_digits hds hrest, dropWhile_digits hds hrest]
  cases ds with
  | nil => exact absurd rfl hne
  | cons c cs => rfl

theorem parseFraction_none (rest : List Char) (hrest : ∀ c cs, rest = c :: cs → c ≠ '.') :
    parseFraction rest = some ([], rest) := by
  unfold parseFraction
  split
  · exact absurd rfl (hrest _ _ rfl)
  · rfl

theorem parseExponent_none (hrest : NumberEnd rest) : parseExponent rest = some (0, rest) := by
  cases rest with
  | nil => rfl
  | cons c cs =>
      obtain ⟨-, -, he, hE⟩ := hrest c cs rfl
      simp [parseExponent, he, hE]

theorem parseExponentDigits_append (negative : Bool) {k : ℕ} (hk : k ≠ 0)
    (hrest : ∀ c cs, rest = c :: cs → isDigitChar c = false) :
    parseExponentDigits negative (digitsText k ++ rest) =
      some (if negative then -(k : ℤ) else k, rest) := by
  have hds : ∀ c ∈ digitsText k, isDigitChar c = true := fun c => isDigitChar_of_mem_digitsText
  rw [parseExponentDigits, takeWhile_digits hds hrest, dropWhile_digits hds hrest]
  have hvalue := digitsValue_digitsText k
  cases htext : digitsText k with
  | nil => exact absurd htext (digitsText_ne_nil hk)
  | cons c cs =>
      rw [htext] at hvalue
      simp [hvalue]

theorem parseExponent_exponentText {e : ℤ} (he : e ≠ 0)
    (hrest : ∀ c cs, rest = c :: cs → isDigitChar c = false) :
    parseExponent (exponentText e ++ rest) = some (e, rest) := by
  have habs : e.natAbs ≠ 0 := by simpa using he
  by_cases hneg : e < 0
  · simp [exponentText, hneg, parseExponent, parseExponentDigits_append true habs hrest,
      abs_of_neg hneg]
  · simp [exponentText, hneg, parseExponent, parseExponentDigits_append false habs hrest,
      abs_of_nonneg (not_lt.mp hneg)]

end Scanning

/-- The three parts of an unsigned decimal, put together. -/
theorem parseDecimal_of_parts {cs is fs cs₁ cs₂ rest : List Char} {e : ℤ}
    (hint : parseIntPart cs = some (is, cs₁)) (hfrac : parseFraction cs₁ = some (fs, cs₂))
    (hexp : parseExponent cs₂ = some (e, rest)) :
    parseDecimal cs = some ((digitsValue (is ++ fs), e - fs.length), rest) := by
  simp [parseDecimal, hint, hfrac, hexp]

section Layouts

variable {s : ℕ} {rest : List Char}

theorem digit_of_mem_zeros {n : ℕ} {c : Char} (h : c ∈ List.replicate n '0') :
    isDigitChar c = true := by
  rw [List.eq_of_mem_replicate h]
  rfl

/-- An integer, with zeros up to the units. -/
theorem parseDecimal_integer (hs : s ≠ 0) (z : ℕ) (hrest : NumberEnd rest) :
    parseDecimal (digitsText s ++ List.replicate z '0' ++ rest) =
      some ((s * 10 ^ z, 0), rest) := by
  obtain ⟨c, cs, htext, hczero, -⟩ := head_digitsText hs
  have hdigits : ∀ c ∈ digitsText s ++ List.replicate z '0', isDigitChar c = true := by
    intro c hc
    rcases List.mem_append.mp hc with h | h
    · exact isDigitChar_of_mem_digitsText h
    · exact digit_of_mem_zeros h
  have hint := parseIntPart_append _ rest hdigits (fun c cs h => (hrest c cs h).1)
    ⟨c, cs ++ List.replicate z '0', by rw [htext]; rfl, Or.inl hczero⟩
  have hfrac := parseFraction_none rest fun c cs h => (hrest c cs h).2.1
  rw [parseDecimal_of_parts hint hfrac (parseExponent_none hrest), List.append_nil,
    digitsValue_append, digitsValue_digitsText, digitsValue_replicate_zero,
    List.length_replicate]
  simp

/-- The point among the digits. -/
theorem parseDecimal_point (hs : s ≠ 0) {n : ℕ} (hn : 0 < n) (hlt : n < (digitsText s).length)
    (hrest : NumberEnd rest) :
    parseDecimal ((digitsText s).take n ++ '.' :: (digitsText s).drop n ++ rest) =
      some ((s, (n : ℤ) - (digitsText s).length), rest) := by
  obtain ⟨c, cs, htext, hczero, -⟩ := head_digitsText hs
  obtain ⟨m, rfl⟩ : ∃ m, n = m + 1 := ⟨n - 1, by omega⟩
  have hdropne : (digitsText s).drop (m + 1) ≠ [] := by
    rw [Ne, List.drop_eq_nil_iff]
    omega
  have hint := parseIntPart_append ((digitsText s).take (m + 1))
    ('.' :: ((digitsText s).drop (m + 1) ++ rest))
    (fun c hc => isDigitChar_of_mem_digitsText (List.mem_of_mem_take hc))
    (fun c cs h => by cases h; rfl) ⟨c, cs.take m, by rw [htext]; rfl, Or.inl hczero⟩
  have hfrac := parseFraction_point _ rest
    (fun c hc => isDigitChar_of_mem_digitsText (List.mem_of_mem_drop hc)) hdropne
    (fun c cs h => (hrest c cs h).1)
  have he : (0 : ℤ) - ((digitsText s).drop (m + 1)).length =
      ((m + 1 : ℕ) : ℤ) - (digitsText s).length := by
    rw [List.length_drop]
    omega
  rw [List.append_assoc, List.cons_append,
    parseDecimal_of_parts hint hfrac (parseExponent_none hrest), List.take_append_drop,
    digitsValue_digitsText, he]

/-- A leading zero, then zeros after the point. -/
theorem parseDecimal_small (hs : s ≠ 0) (z : ℕ) (hrest : NumberEnd rest) :
    parseDecimal ('0' :: '.' :: (List.replicate z '0' ++ digitsText s) ++ rest) =
      some ((s, -(z + (digitsText s).length : ℤ)), rest) := by
  have hdigits : ∀ c ∈ List.replicate z '0' ++ digitsText s, isDigitChar c = true := by
    intro c hc
    rcases List.mem_append.mp hc with h | h
    · exact digit_of_mem_zeros h
    · exact isDigitChar_of_mem_digitsText h
  have hne : List.replicate z '0' ++ digitsText s ≠ [] := by simp [digitsText_ne_nil hs]
  have hint := parseIntPart_append ['0']
    ('.' :: (List.replicate z '0' ++ digitsText s ++ rest))
    (by simp [isDigitChar]) (fun c cs h => by cases h; rfl) ⟨'0', [], rfl, Or.inr rfl⟩
  have hfrac := parseFraction_point _ rest hdigits hne (fun c cs h => (hrest c cs h).1)
  have hsum : digitsValue (['0'] ++ (List.replicate z '0' ++ digitsText s)) = s := by
    rw [digitsValue_append, digitsValue_append, digitsValue_digitsText,
      digitsValue_replicate_zero]
    simp [digitsValue]
  have he : (0 : ℤ) - (List.replicate z '0' ++ digitsText s).length =
      -(z + (digitsText s).length : ℤ) := by
    rw [List.length_append, List.length_replicate]
    omega
  have hparse := parseDecimal_of_parts hint hfrac (parseExponent_none hrest)
  rw [hsum, he] at hparse
  exact hparse

/-- Exponent notation with a single digit. -/
theorem parseDecimal_scientific_one {c : Char} (hc : isDigitChar c = true) {e : ℤ} (he : e ≠ 0)
    (hrest : NumberEnd rest) :
    parseDecimal (c :: exponentText e ++ rest) = some ((digitsValue [c], e), rest) := by
  have hexp := parseExponent_exponentText he (fun c cs h => (hrest c cs h).1)
  have hint := parseIntPart_append [c] (exponentText e ++ rest)
    (by simpa using hc) (fun c cs h => by cases h; rfl) ⟨c, [], rfl, Or.inr rfl⟩
  have hfrac := parseFraction_none (exponentText e ++ rest)
    (fun c cs h => by cases h; decide)
  have hparse := parseDecimal_of_parts hint hfrac hexp
  rw [List.append_nil, List.length_nil, Nat.cast_zero, sub_zero] at hparse
  exact hparse

/-- Exponent notation with a fraction. -/
theorem parseDecimal_scientific {c : Char} {ds : List Char} (hc : isDigitChar c = true)
    (hds : ∀ d ∈ ds, isDigitChar d = true) (hne : ds ≠ []) {e : ℤ} (he : e ≠ 0)
    (hrest : NumberEnd rest) :
    parseDecimal (c :: '.' :: (ds ++ exponentText e) ++ rest) =
      some ((digitsValue (c :: ds), e - ds.length), rest) := by
  have hexp := parseExponent_exponentText he (fun c cs h => (hrest c cs h).1)
  have hint := parseIntPart_append [c] ('.' :: (ds ++ (exponentText e ++ rest)))
    (by simpa using hc) (fun c cs h => by cases h; rfl) ⟨c, [], rfl, Or.inr rfl⟩
  have hfrac := parseFraction_point ds (exponentText e ++ rest) hds hne
    (fun c cs h => by cases h; rfl)
  have hparse := parseDecimal_of_parts hint hfrac hexp
  rw [List.singleton_append, ← List.append_assoc] at hparse
  exact hparse

/-- A printed decimal is read back as a decimal of the same value, the rest of
the text untouched. The cases are the layouts. -/
theorem parseDecimal_decimalText (hs : s ≠ 0) (e : ℤ) (hrest : NumberEnd rest) :
    ∃ s' e', parseDecimal (decimalText s e ++ rest) = some ((s', e'), rest) ∧
      decimalMag s' e' = decimalMag s e := by
  have hlen : 0 < (digitsText s).length := List.length_pos_iff.mpr (digitsText_ne_nil hs)
  unfold decimalText layout
  split
  · refine ⟨_, _, parseDecimal_integer hs _ hrest, ?_⟩
    have hneg : (-e).toNat = 0 := by omega
    simp [decimalMag, hneg]
  · split
    · refine ⟨_, _, parseDecimal_point hs (by omega) (by omega) hrest, ?_⟩
      congr 1
      omega
    · split
      · refine ⟨_, _, parseDecimal_small hs _ hrest, ?_⟩
        congr 1
        omega
      · have hne : ((digitsText s).length + e - 1 : ℤ) ≠ 0 := by omega
        obtain ⟨c, cs, htext, -, hc⟩ := head_digitsText hs
        have hvalue := digitsValue_digitsText s
        have hall : ∀ c ∈ digitsText s, isDigitChar c = true :=
          fun c => isDigitChar_of_mem_digitsText
        rw [htext] at hne hvalue hall ⊢
        cases cs with
        | nil =>
            refine ⟨_, _, parseDecimal_scientific_one hc hne hrest, ?_⟩
            rw [hvalue]
            congr 1
            simp
        | cons d ds =>
            have hds : ∀ x ∈ d :: ds, isDigitChar x = true :=
              fun x hx => hall x (List.mem_cons_of_mem c hx)
            refine ⟨_, _, parseDecimal_scientific hc hds (by simp) hne hrest, ?_⟩
            rw [hvalue]
            congr 1
            simp only [List.length_cons, Nat.cast_add, Nat.cast_one]
            ring

end Layouts

theorem ofRounded_double (x : Double) :
    ofRounded (x.mag < 0) x.mag.natAbs x.isDouble = JsNumber.finite x := by
  have hmag : (if decide (x.mag < 0) then -(x.mag.natAbs : ℤ) else x.mag.natAbs) = x.mag := by
    by_cases h : x.mag < 0
    · simp [h, abs_of_neg h]
    · simp [h, abs_of_nonneg (not_lt.mp h)]
  simp only [ofRounded, x.isFinite, ↓reduceDIte]
  exact congrArg JsNumber.finite (Double.ext_mag hmag)

theorem ofDecimal_eq_finite (x : Double) {s : ℕ} {e : ℤ}
    (h : decimalMag s e = x.mag.natAbs) :
    JsNumber.ofDecimal (x.mag < 0) s e = JsNumber.finite x := by
  rw [← ofRounded_double x]
  unfold JsNumber.ofDecimal
  congr 1

/-- The text of a finite Number is read back as that Number. -/
theorem parseNumber_doubleText (x : Double) {rest : List Char} (hrest : NumberEnd rest) :
    parseNumber (doubleText x ++ rest) = some (JsNumber.finite x, rest) := by
  by_cases hzero : x.mag = 0
  · have hint := parseIntPart_append ['0'] rest (by simp [isDigitChar])
      (fun c cs h => (hrest c cs h).1) ⟨'0', [], rfl, Or.inr rfl⟩
    have hfrac := parseFraction_none rest fun c cs h => (hrest c cs h).2.1
    have hparse := parseDecimal_of_parts hint hfrac (parseExponent_none hrest)
    have hval : decimalMag (digitsValue (['0'] ++ [])) (0 - ([] : List Char).length) =
        x.mag.natAbs := by
      have hdigits : digitsValue (['0'] ++ []) = 0 := rfl
      rw [hzero, hdigits]
      simp [decimalMag, roundMag_zero]
    have hfinite := ofDecimal_eq_finite x hval
    have hsign : decide (x.mag < 0) = false := by simp [hzero]
    rw [hsign] at hfinite
    rw [doubleText, if_pos hzero, parseNumber, hparse, Option.map_some, hfinite]
    intro cs h
    cases h
  · have habs : x.mag.natAbs ≠ 0 := by simpa using hzero
    obtain ⟨hs, hspec⟩ := toDecimal_spec habs x.isDouble
    obtain ⟨s', e', hparse, hsame⟩ :=
      parseDecimal_decimalText hs (toDecimal x.mag.natAbs).2 hrest
    have hfinite := ofDecimal_eq_finite x (hsame.trans hspec)
    by_cases hneg : x.mag < 0
    · simp only [hneg, decide_true] at hfinite
      simp [doubleText, hzero, hneg, parseNumber, hparse, hfinite]
    · simp only [hneg, decide_false] at hfinite
      have hhead : ∀ cs, decimalText (toDecimal x.mag.natAbs).1 (toDecimal x.mag.natAbs).2 ++
          rest ≠ '-' :: cs := by
        intro cs hcs
        rw [hcs] at hparse
        simp [parseDecimal, parseIntPart, isDigitChar] at hparse
      simp only [doubleText, hzero, hneg, ↓reduceIte, List.nil_append]
      rw [parseNumber, hparse, Option.map_some, hfinite]
      exact hhead

end Ecma

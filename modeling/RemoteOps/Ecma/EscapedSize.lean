import RemoteOps.Ecma.TextSize

/-!
# The size of quoted text

How much room a string takes inside a JSON text is a sum over its units: each unit that
stands alone has a weight and a surrogate pair has one of its own. The weights are tables,
one for each way of counting: bytes or units of the literal, and bytes of a literal that
is quoted once more.
-/

namespace Ecma

/-! ## Sums over a text -/

/-- The sum of `f` over a text. -/
def total (f : Char → ℕ) (cs : List Char) : ℕ := (cs.map f).sum

@[simp] theorem total_nil (f : Char → ℕ) : total f [] = 0 := rfl

@[simp] theorem total_cons (f : Char → ℕ) (c : Char) (cs : List Char) :
    total f (c :: cs) = f c + total f cs := rfl

@[simp] theorem total_append (f : Char → ℕ) (cs ds : List Char) :
    total f (cs ++ ds) = total f cs + total f ds := by
  simp [total]

theorem total_flatMap (f : Char → ℕ) (g : Char → List Char) (cs : List Char) :
    total f (cs.flatMap g) = total (fun c => total f (g c)) cs := by
  induction cs with
  | nil => rfl
  | cons c cs ih => rw [List.flatMap_cons, total_append, ih, total_cons]

/-- A text of which every character counts one is as large as it is long. -/
theorem total_eq_length {f : Char → ℕ} {cs : List Char} (h : ∀ c ∈ cs, f c = 1) :
    total f cs = cs.length := by
  induction cs with
  | nil => rfl
  | cons c cs ih =>
      rw [total_cons, h c List.mem_cons_self, ih fun d hd => h d (List.mem_cons_of_mem _ hd),
        List.length_cons, Nat.add_comm]

theorem total_utf8Size (cs : List Char) : total Char.utf8Size cs = byteLength cs := rfl

/-- The code units of a character. -/
def unitCount (c : Char) : ℕ := (unitsOfChar c).length

theorem total_unitCount (cs : List Char) : total unitCount cs = (ofChars cs).length := by
  rw [ofChars, List.length_flatMap, total]
  rfl

/-! ## Weights of units -/

/-- The sum over a string: `w` of a unit that stands alone, `pair` for a surrogate pair. -/
def weigh (w : CodeUnit → ℕ) (pair : ℕ) : JsString → ℕ
  | [] => 0
  | [u] => w u
  | hi :: lo :: rest =>
      if isHighSurrogate hi && isLowSurrogate lo then pair + weigh w pair rest
      else w hi + weigh w pair (lo :: rest)

/-- A string without pairs is the sum of its units. -/
theorem weigh_eq_sum {w : CodeUnit → ℕ} {pair : ℕ} {s : JsString}
    (h : ∀ u ∈ s, isHighSurrogate u = false) : weigh w pair s = (s.map w).sum := by
  fun_induction weigh w pair s with
  | case1 => rfl
  | case2 u => simp
  | case3 hi lo rest hpair =>
      rw [h hi List.mem_cons_self] at hpair
      exact absurd hpair Bool.false_ne_true
  | case4 hi lo rest _ ih =>
      rw [ih fun u hu => h u (List.mem_cons_of_mem _ hu)]
      rfl

theorem weigh_replicate {w : CodeUnit → ℕ} {pair : ℕ} {u : CodeUnit}
    (hu : isHighSurrogate u = false) (n : ℕ) :
    weigh w pair (List.replicate n u) = n * w u := by
  have hall : ∀ v ∈ List.replicate n u, isHighSurrogate v = false := by
    intro v hv
    rw [List.eq_of_mem_replicate hv, hu]
  rw [weigh_eq_sum hall, List.map_replicate, List.sum_replicate, nsmul_eq_mul]
  rfl

theorem weigh_le {w : CodeUnit → ℕ} {pair k : ℕ} (hw : ∀ u, w u ≤ k) (hpair : pair ≤ 2 * k)
    (s : JsString) : weigh w pair s ≤ k * s.length := by
  fun_induction weigh w pair s with
  | case1 => simp
  | case2 u => simpa using hw u
  | case3 hi lo rest _ ih =>
      rw [List.length_cons, List.length_cons, Nat.mul_add, Nat.mul_add]
      omega
  | case4 hi lo rest _ ih =>
      have hhi := hw hi
      rw [List.length_cons, Nat.mul_add]
      omega

/-! ## The literal in bytes and in units -/

/-- `\b`, `\t`, `\n`, `\f` and `\r`. -/
def hasLetterEscape (u : CodeUnit) : Bool := u == 8 || u == 9 || u == 10 || u == 12 || u == 13

/-- A quotation mark or a backslash. -/
def isQuoteMark (u : CodeUnit) : Bool := u == 34 || u == 92

/-- A unit that is written `\uXXXX` unless it has an escape of its own. -/
def isUnwritable (u : CodeUnit) : Bool := u < 32 || isSurrogate u

/-- The bytes of a unit that is written as it is. -/
def plainBytes (u : CodeUnit) : ℕ := if u < 128 then 1 else if u < 2048 then 2 else 3

def quotedUnits (u : CodeUnit) : ℕ :=
  if hasLetterEscape u || isQuoteMark u then 2 else if isUnwritable u then 6 else 1

/-- The bytes of a unit in a literal that is itself quoted. -/
def requotedBytes (u : CodeUnit) : ℕ :=
  if hasLetterEscape u then 3
  else if isQuoteMark u then 4
  else if isUnwritable u then 7
  else plainBytes u

theorem utf8Size_eq (c : Char) :
    c.utf8Size =
      if c.toNat < 128 then 1 else if c.toNat < 2048 then 2 else if c.toNat < 65536 then 3 else 4 := by
  have hval : c.val.toNat = c.toNat := rfl
  split_ifs with h₁ h₂ h₃
  · rw [Char.utf8Size_eq_one_iff, UInt32.le_iff_toNat_le, hval]
    exact Nat.le_of_lt_succ h₁
  · rw [Char.utf8Size_eq_two_iff, UInt32.le_iff_toNat_le, UInt32.lt_iff_toNat_lt, hval]
    exact ⟨Nat.lt_of_succ_le (not_lt.mp h₁), Nat.le_of_lt_succ h₂⟩
  · rw [Char.utf8Size_eq_three_iff, UInt32.le_iff_toNat_le, UInt32.lt_iff_toNat_lt, hval]
    exact ⟨Nat.lt_of_succ_le (not_lt.mp h₂), Nat.le_of_lt_succ h₃⟩
  · rw [Char.utf8Size_eq_four_iff, UInt32.lt_iff_toNat_lt, hval]
    exact Nat.lt_of_succ_le (not_lt.mp h₃)

theorem utf8Size_of_toNat {c : Char} {u : CodeUnit} (h : c.toNat = u.toNat) :
    c.utf8Size = plainBytes u := by
  have hlt := u.toNat_lt
  rw [utf8Size_eq, h]
  simp only [plainBytes, UInt16.lt_iff_toNat_lt, UInt16.toNat_ofNat]
  split_ifs <;> omega

theorem utf8Size_pairChar {hi lo : CodeUnit} (hhi : isHighSurrogate hi = true)
    (hlo : isLowSurrogate lo = true) : (pairChar hi lo).utf8Size = 4 := by
  have hnat := (surrogate_pair hhi hlo).1
  rw [utf8Size_eq, if_neg (by omega), if_neg (by omega), if_neg (by omega)]

theorem plainBytes_eq (u : CodeUnit) :
    plainBytes u = if u.toNat < 128 then 1 else if u.toNat < 2048 then 2 else 3 := by
  simp only [plainBytes, UInt16.lt_iff_toNat_lt]
  rfl

/-- A surrogate that stands alone becomes `U+FFFD`, which takes three bytes. -/
theorem utf8Size_unit (u : CodeUnit) :
    (if isSurrogate u then Char.ofNat 0xFFFD else Char.ofNat u.toNat).utf8Size = plainBytes u := by
  by_cases hu : isSurrogate u = true
  · have hbig : 0xD800 ≤ u.toNat := by
      simp only [isSurrogate, Bool.and_eq_true, decide_eq_true_eq, UInt16.le_iff_toNat_le] at hu
      exact hu.1
    rw [if_pos hu, plainBytes_eq, if_neg (by omega), if_neg (by omega)]
    rfl
  · rw [if_neg hu]
    apply utf8Size_of_toNat
    apply toNat_ofNat
    have hlt := u.toNat_lt
    simp only [isSurrogate, Bool.and_eq_true, decide_eq_true_eq, UInt16.le_iff_toNat_le] at hu
    have hrange : ¬(0xD800 ≤ u.toNat ∧ u.toNat ≤ 0xDFFF) := hu
    simp only [Nat.isValidChar]
    omega

theorem utf8Length_eq_weigh (s : JsString) : utf8Length s = weigh plainBytes 4 s := by
  rw [utf8Length_eq]
  fun_induction weigh plainBytes 4 s with
  | case1 => rfl
  | case2 u => rw [toChars, byteLength_cons, byteLength_nil, utf8Size_unit, Nat.add_zero]
  | case3 hi lo rest h ih =>
      obtain ⟨hhi, hlo⟩ := Bool.and_eq_true_iff.mp h
      rw [toChars, if_pos h, byteLength_cons, utf8Size_pairChar hhi hlo, ih]
  | case4 hi lo rest h ih => rw [toChars, if_neg h, byteLength_cons, utf8Size_unit, ih]

theorem one_le_plainBytes (u : CodeUnit) : 1 ≤ plainBytes u := by
  unfold plainBytes
  split_ifs <;> omega

/-- A unit takes at least one byte. -/
theorem length_le_utf8Length (s : JsString) : s.length ≤ utf8Length s := by
  rw [utf8Length_eq_weigh]
  fun_induction weigh plainBytes 4 s with
  | case1 => exact le_rfl
  | case2 u => exact one_le_plainBytes u
  | case3 hi lo rest _ ih =>
      rw [List.length_cons, List.length_cons]
      omega
  | case4 hi lo rest _ ih =>
      have hhi := one_le_plainBytes hi
      rw [List.length_cons]
      omega

theorem plainBytes_eq_one {u : CodeUnit} : plainBytes u = 1 ↔ u < 128 := by
  unfold plainBytes
  split_ifs with h h' <;> simp [h]

/-- A string has as many bytes as units exactly if it is ASCII. -/
theorem utf8Length_eq_length_iff {s : JsString} :
    utf8Length s = s.length ↔ ∀ u ∈ s, u < 128 := by
  rw [utf8Length_eq_weigh]
  fun_induction weigh plainBytes 4 s with
  | case1 => simp
  | case2 u => simp [plainBytes_eq_one]
  | case3 hi lo rest h ih =>
      have hle := length_le_utf8Length rest
      rw [utf8Length_eq_weigh] at hle
      obtain ⟨hhi, -⟩ := Bool.and_eq_true_iff.mp h
      have hbig : ¬hi < 128 := by
        simp only [isHighSurrogate, Bool.and_eq_true, decide_eq_true_eq, UInt16.le_iff_toNat_le]
          at hhi
        rw [UInt16.lt_iff_toNat_lt]
        have hlow : 0xD800 ≤ hi.toNat := hhi.1
        simp
        omega
      rw [List.length_cons, List.length_cons, List.forall_mem_cons]
      constructor
      · intro heq
        omega
      · rintro ⟨hascii, -⟩
        exact absurd hascii hbig
  | case4 hi lo rest _ ih =>
      have hle := length_le_utf8Length (lo :: rest)
      have hhi := one_le_plainBytes hi
      rw [utf8Length_eq_weigh] at hle
      rw [List.length_cons, List.forall_mem_cons, ← ih, ← plainBytes_eq_one]
      omega

end Ecma

import Mathlib.Data.Nat.Digits.Lemmas
import Mathlib.Data.Nat.Log
import Mathlib.Tactic.Common
import Mathlib.Tactic.Ring
import Mathlib.Tactic.Positivity

/-!
# Number values and their decimal texts

A finite Number is an IEEE-754 double. Every finite double is an integer
multiple of `2 ^ (-1074)`, so it is stored as that multiple: `scale` is the
multiple of the number one, and a magnitude is the natural number `k` standing
for `k / scale`. `roundMag n d` rounds the exact magnitude `n / d` to the
nearest double, ties to even, and a magnitude is a double when it rounds to
itself. The sign of zero is not recorded: `-0` and `0` are the same Number here.

`toDecimal` is `Number::toString` up to layout: it searches the decimals
`s * 10 ^ e` from the coarsest grid down and takes the first one that rounds
back to the number. That a decimal found this way rounds back is then part of
the search, and the exact decimal expansion stands behind the search so that
`toDecimal` is total.
-/

namespace Ecma

/-- The exponent of the smallest subnormal double is `-minExp`. -/
@[irreducible] def minExp : ℕ := 1074

/-- Every double is below `2 ^ maxExp`. -/
@[irreducible] def maxExp : ℕ := 1024

/-- The multiple of `2 ^ (-1074)` that the number one is. -/
def scale : ℕ := 2 ^ minExp

/-- `n / d` rounded to the nearest natural number, ties to even. -/
def roundDiv (n d : ℕ) : ℕ :=
  if 2 * (n % d) < d ∨ (2 * (n % d) = d ∧ n / d % 2 = 0) then n / d else n / d + 1

/-- The exponent of the last bit of the double nearest `n / d`, in units of
`2 ^ (-1074)`: the significand keeps 53 bits unless the number is subnormal. -/
def unitExp (n d : ℕ) : ℕ := Nat.log 2 (n / d) - 52

/-- The double nearest `n / d`, overflow apart. -/
def roundMag (n d : ℕ) : ℕ := roundDiv n (d * 2 ^ unitExp n d) * 2 ^ unitExp n d

/-- The least magnitude that overflows to infinity. -/
def overflow : ℕ := 2 ^ maxExp * scale

/-- A magnitude of 53 significant bits, its exponent minimal. -/
def Significand (m p : ℕ) : Prop := m < 2 ^ 53 ∧ (2 ^ 52 ≤ m ∨ p = 0)

/-! ## Rounding is idempotent -/

theorem roundDiv_mul_left (m : ℕ) {d : ℕ} (hd : 0 < d) : roundDiv (m * d) d = m := by
  simp [roundDiv, Nat.mul_mod_left, Nat.mul_div_cancel m hd, hd]

theorem roundDiv_mul_right (n d : ℕ) {c : ℕ} (hc : 0 < c) :
    roundDiv (n * c) (d * c) = roundDiv n d := by
  have hlt : 2 * (n * c % (d * c)) < d * c ↔ 2 * (n % d) < d := by
    rw [Nat.mul_mod_mul_right, ← mul_assoc]
    exact Nat.mul_lt_mul_right hc
  have heq : 2 * (n * c % (d * c)) = d * c ↔ 2 * (n % d) = d := by
    rw [Nat.mul_mod_mul_right, ← mul_assoc]
    exact Nat.mul_left_inj (Nat.pos_iff_ne_zero.mp hc)
  simp only [roundDiv, hlt, heq, Nat.mul_div_mul_right n d hc]

theorem roundMag_mul_right (n d : ℕ) {c : ℕ} (hc : 0 < c) :
    roundMag (n * c) (d * c) = roundMag n d := by
  have hexp : unitExp (n * c) (d * c) = unitExp n d := by
    simp only [unitExp, Nat.mul_div_mul_right n d hc]
  have hden : d * c * 2 ^ unitExp n d = d * 2 ^ unitExp n d * c := by ring
  rw [roundMag, hexp, hden, roundDiv_mul_right _ _ hc, roundMag]

theorem unitExp_of_significand {m p : ℕ} (h : Significand m p) : unitExp (m * 2 ^ p) 1 = p := by
  rw [unitExp, Nat.div_one]
  rcases h.2 with hm | hp
  · have hne : m ≠ 0 := by
      rintro rfl
      simp at hm
    have hlog : Nat.log 2 m = 52 :=
      Nat.log_eq_of_pow_le_of_lt_pow hm h.1
    have hmul : Nat.log 2 (m * 2 ^ p) = 52 + p := by
      apply Nat.log_eq_of_pow_le_of_lt_pow
      · rw [pow_add]
        exact Nat.mul_le_mul_right _ hm
      · rw [show 52 + p + 1 = 53 + p by ring, pow_add]
        exact (Nat.mul_lt_mul_right (by positivity)).mpr h.1
    omega
  · subst hp
    have hlog : Nat.log 2 m < 53 := by
      rcases Nat.eq_zero_or_pos m with rfl | hpos
      · simp
      · exact Nat.log_lt_of_lt_pow (Nat.pos_iff_ne_zero.mp hpos) h.1
    simp only [pow_zero, mul_one]
    omega

/-- A magnitude of the form of a double rounds to itself. -/
theorem roundMag_of_significand {m p : ℕ} (h : Significand m p) :
    roundMag (m * 2 ^ p) 1 = m * 2 ^ p := by
  rw [roundMag, unitExp_of_significand h, one_mul, roundDiv_mul_left m (by positivity)]

theorem roundDiv_le (n d : ℕ) : roundDiv n d ≤ n / d + 1 := by
  unfold roundDiv
  split <;> omega

theorem div_le_roundDiv (n d : ℕ) : n / d ≤ roundDiv n d := by
  unfold roundDiv
  split <;> omega

/-- What rounding returns has the form of a double. The significand may be
rounded up to `2 ^ 53`, which is `2 ^ 52` with the next exponent. -/
theorem roundMag_form (n d : ℕ) :
    ∃ m p, Significand m p ∧ roundMag n d = m * 2 ^ p := by
  set p := unitExp n d with hp
  set m := roundDiv n (d * 2 ^ p) with hm
  have hquot : n / (d * 2 ^ p) = n / d / 2 ^ p := (Nat.div_div_eq_div_mul n d (2 ^ p)).symm
  have hlt : n / (d * 2 ^ p) < 2 ^ 53 := by
    rw [hquot, Nat.div_lt_iff_lt_mul (by positivity), ← pow_add]
    apply Nat.lt_pow_of_log_lt (by norm_num)
    rw [unitExp] at hp
    omega
  have hle : m ≤ 2 ^ 53 := le_trans (roundDiv_le _ _) hlt
  have hge : 2 ^ 52 ≤ m ∨ p = 0 := by
    by_cases hzero : p = 0
    · exact Or.inr hzero
    · left
      refine le_trans ?_ (div_le_roundDiv _ _)
      rw [hquot, Nat.le_div_iff_mul_le (by positivity), ← pow_add]
      have hlog : 52 + p = Nat.log 2 (n / d) := by
        rw [unitExp] at hp
        omega
      rw [hlog]
      apply Nat.pow_log_le_self
      intro hnd
      simp [hnd] at hlog
  rcases Nat.lt_or_eq_of_le hle with h | h
  · exact ⟨m, p, ⟨h, hge⟩, rfl⟩
  · refine ⟨2 ^ 52, p + 1, ⟨by norm_num, Or.inl le_rfl⟩, ?_⟩
    rw [roundMag, ← hp, ← hm, h]
    ring

theorem roundMag_idem (n d : ℕ) : roundMag (roundMag n d) 1 = roundMag n d := by
  obtain ⟨m, p, h, hform⟩ := roundMag_form n d
  rw [hform, roundMag_of_significand h]

/-! ## Numbers -/

/-- A finite double: a signed magnitude that rounds to itself. -/
structure Double where
  mag : ℤ
  isDouble : roundMag mag.natAbs 1 = mag.natAbs
  isFinite : mag.natAbs < overflow
  deriving DecidableEq

inductive JsNumber where
  | nan
  | infinite (negative : Bool)
  | finite (x : Double)
  deriving DecidableEq

theorem Double.ext_mag {x y : Double} (h : x.mag = y.mag) : x = y := by
  cases x
  cases y
  simpa using h

/-- A signed magnitude that is the result of a rounding, as a Number. -/
def ofRounded (negative : Bool) (k : ℕ) (h : roundMag k 1 = k) : JsNumber :=
  if hk : k < overflow then
    JsNumber.finite ⟨if negative then -(k : ℤ) else k, by cases negative <;> simpa using h,
      by cases negative <;> simpa using hk⟩
  else JsNumber.infinite negative

/-- The Number nearest the decimal `± s * 10 ^ e`. -/
def decimalMag (s : ℕ) (e : ℤ) : ℕ :=
  roundMag (s * 10 ^ e.toNat * scale) (10 ^ (-e).toNat)

def JsNumber.ofDecimal (negative : Bool) (s : ℕ) (e : ℤ) : JsNumber :=
  ofRounded negative (decimalMag s e) (roundMag_idem _ _)

theorem scale_pos : 0 < scale := by
  unfold scale
  positivity

theorem le_minExp : 52 ≤ minExp := by
  unfold minExp
  norm_num

theorem le_maxExp : 53 ≤ maxExp := by
  unfold maxExp
  norm_num

theorem roundMag_zero : roundMag 0 1 = 0 := by
  simp [roundMag, unitExp, roundDiv]

theorem natCast_isDouble {n : ℕ} (h : n < 2 ^ 53) : roundMag (n * scale) 1 = n * scale := by
  rcases Nat.eq_zero_or_pos n with rfl | hpos
  · rw [zero_mul, roundMag_zero]
  · have hlog : Nat.log 2 n ≤ 52 := by
      have := Nat.log_lt_of_lt_pow (Nat.pos_iff_ne_zero.mp hpos) h
      omega
    have hmin := le_minExp
    have hexp : 52 - Nat.log 2 n + (minExp - 52 + Nat.log 2 n) = minExp := by omega
    have hscale :
        n * scale = n * 2 ^ (52 - Nat.log 2 n) * 2 ^ (minExp - 52 + Nat.log 2 n) := by
      rw [scale, mul_assoc, ← pow_add, hexp]
    have hform : Significand (n * 2 ^ (52 - Nat.log 2 n)) (minExp - 52 + Nat.log 2 n) := by
      constructor
      · have := Nat.lt_pow_succ_log_self (b := 2) (by norm_num) n
        calc n * 2 ^ (52 - Nat.log 2 n)
            < 2 ^ (Nat.log 2 n + 1) * 2 ^ (52 - Nat.log 2 n) :=
              (Nat.mul_lt_mul_right (by positivity)).mpr this
          _ = 2 ^ 53 := by
              rw [← pow_add]
              congr 1
              omega
      · left
        have := Nat.pow_log_le_self 2 (Nat.pos_iff_ne_zero.mp hpos)
        calc 2 ^ 52 = 2 ^ Nat.log 2 n * 2 ^ (52 - Nat.log 2 n) := by
              rw [← pow_add]
              congr 1
              omega
          _ ≤ n * 2 ^ (52 - Nat.log 2 n) := Nat.mul_le_mul_right _ this
    rw [hscale, roundMag_of_significand hform]

theorem inRange_zero : (0 : ℤ).natAbs < 2 ^ 53 := by decide

theorem inRange_one : (1 : ℤ).natAbs < 2 ^ 53 := by decide

theorem inRange_thousand : (1000 : ℤ).natAbs < 2 ^ 53 := by decide

/-- An integer below `2 ^ 53` in absolute value is a Number. -/
def JsNumber.ofInt (z : ℤ) (h : z.natAbs < 2 ^ 53) : JsNumber :=
  JsNumber.finite ⟨z * scale, by
    rw [Int.natAbs_mul, Int.natAbs_natCast]
    exact natCast_isDouble h, by
    rw [Int.natAbs_mul, Int.natAbs_natCast, overflow]
    exact (Nat.mul_lt_mul_right scale_pos).mpr
      (lt_of_lt_of_le h (Nat.pow_le_pow_right (by norm_num) le_maxExp))⟩

/-- `Number.isInteger(x)`, with the integer. -/
def JsNumber.toInt? : JsNumber → Option ℤ
  | nan => none
  | infinite _ => none
  | finite x => if x.mag % scale = 0 then some (x.mag / scale) else none

theorem JsNumber.toInt?_ofInt (z : ℤ) (h : z.natAbs < 2 ^ 53) :
    (JsNumber.ofInt z h).toInt? = some z := by
  have hs : (scale : ℤ) ≠ 0 := by
    have := scale_pos
    omega
  simp [ofInt, toInt?, Int.mul_ediv_cancel _ hs]

theorem JsNumber.eq_of_toInt? {x y : JsNumber} {z : ℤ} (hx : x.toInt? = some z)
    (hy : y.toInt? = some z) : x = y := by
  cases x <;> cases y <;> simp only [toInt?, reduceCtorEq] at hx hy
  rename_i x y
  split at hx
  · split at hy
    · rename_i hmx hmy
      have hxz := Option.some.inj hx
      have hyz := Option.some.inj hy
      have hxm : x.mag = z * scale := by
        rw [← hxz]
        exact (Int.ediv_mul_cancel (Int.dvd_of_emod_eq_zero hmx)).symm
      have hym : y.mag = z * scale := by
        rw [← hyz]
        exact (Int.ediv_mul_cancel (Int.dvd_of_emod_eq_zero hmy)).symm
      rw [Double.ext_mag (hxm.trans hym.symm)]
    · cases hy
  · cases hx

/-- `x < y`, which is false when one of them is NaN. -/
def JsNumber.lt : JsNumber → JsNumber → Bool
  | finite x, finite y => x.mag < y.mag
  | infinite negative, finite _ => negative
  | finite _, infinite negative => !negative
  | infinite negative, infinite negative' => negative && !negative'
  | _, _ => false

/-! ## Times -/

/-- A reading of `Date.now()`, which is a time value of the language. -/
structure TimeValue where
  ms : ℤ
  inRange : ms.natAbs ≤ 8640000000000000

/-- `now + offset` as a Number; the sum is exact. -/
def TimeValue.plus (now : TimeValue) (offset : ℤ) (h : offset.natAbs ≤ 1000000) : JsNumber :=
  JsNumber.ofInt (now.ms + offset) (by have := now.inRange; omega)

/-- `Math.floor((now + offset) / 1000)` as a Number. -/
def TimeValue.seconds (now : TimeValue) (offset : ℤ) (h : offset.natAbs ≤ 10000000) : JsNumber :=
  JsNumber.ofInt ((now.ms + offset) / 1000) (by have := now.inRange; omega)

end Ecma

import Mathlib.Algebra.GroupWithZero.Nat
import Mathlib.Data.List.Basic
import Mathlib.Data.List.Infix
import Mathlib.Tactic.Common

/-!
# Strings of UTF-16 code units

An ECMAScript string is a finite sequence of 16-bit code units. A code point
above `U+FFFF` is a pair of units, and a unit of the surrogate range may stand
alone, so the type is not Lean's `String`. `js` reads a Lean literal as such a
sequence and `ofChars`, `toChars` pass between units and code points; the
second replaces a lone surrogate by `U+FFFD`, as every UTF-8 encoder does.

The operations below are the ones of the language's standard library that work
on units: trimming, prefixes, splitting, and the character classes from which
regular expressions without the `u` flag are built.
-/

namespace Ecma

abbrev CodeUnit := UInt16

abbrev JsString := List CodeUnit

instance lawfulBEqJsString : LawfulBEq JsString := List.instLawfulBEq

instance decidableEqByteArray : DecidableEq ByteArray := ByteArray.instDecidableEq

/-- The one or two code units of a code point. -/
def unitsOfChar (c : Char) : JsString :=
  if c.toNat < 0x10000 then [UInt16.ofNat c.toNat]
  else [UInt16.ofNat (0xD800 + (c.toNat - 0x10000) / 0x400),
    UInt16.ofNat (0xDC00 + (c.toNat - 0x10000) % 0x400)]

def ofChars (cs : List Char) : JsString := cs.flatMap unitsOfChar

/-- A Lean string literal read as a sequence of code units. -/
def js (s : String) : JsString := ofChars s.toList

/-- The code unit of an ASCII character. -/
def unit (c : Char) : CodeUnit := UInt16.ofNat c.toNat

def isHighSurrogate (u : CodeUnit) : Bool := 0xD800 ≤ u && u ≤ 0xDBFF

def isLowSurrogate (u : CodeUnit) : Bool := 0xDC00 ≤ u && u ≤ 0xDFFF

def isSurrogate (u : CodeUnit) : Bool := 0xD800 ≤ u && u ≤ 0xDFFF

/-- The code point written by a high and a low surrogate. -/
def pairChar (hi lo : CodeUnit) : Char :=
  Char.ofNat (0x10000 + (hi.toNat - 0xD800) * 0x400 + (lo.toNat - 0xDC00))

/-- The code points of a string, a lone surrogate becoming `U+FFFD`. -/
def toChars : JsString → List Char
  | [] => []
  | [u] => [if isSurrogate u then Char.ofNat 0xFFFD else Char.ofNat u.toNat]
  | hi :: lo :: rest =>
      if isHighSurrogate hi && isLowSurrogate lo then pairChar hi lo :: toChars rest
      else
        (if isSurrogate hi then Char.ofNat 0xFFFD else Char.ofNat hi.toNat) ::
          toChars (lo :: rest)

/-- `Buffer.from(s, "utf8")`. -/
def utf8 (s : JsString) : ByteArray := (String.ofList (toChars s)).toByteArray

/-- `Buffer.byteLength(s, "utf8")`. -/
def utf8Length (s : JsString) : ℕ := ((toChars s).map Char.utf8Size).sum

/-! ## Trimming, prefixes and splitting -/

/-- White space and line terminators, the units `String.prototype.trim` drops. -/
def isWhite (u : CodeUnit) : Bool :=
  (9 ≤ u && u ≤ 13) || u == 0x20 || u == 0xA0 || u == 0x1680 ||
    (0x2000 ≤ u && u ≤ 0x200A) || u == 0x2028 || u == 0x2029 || u == 0x202F ||
    u == 0x205F || u == 0x3000 || u == 0xFEFF

/-- `s.trim()`. -/
def trim (s : JsString) : JsString :=
  ((s.dropWhile isWhite).reverse.dropWhile isWhite).reverse

/-- `s.startsWith(p)`. -/
def startsWith (s p : JsString) : Bool := p.isPrefixOf s

/-- `s.endsWith(p)`. -/
def endsWith (s p : JsString) : Bool := p.isSuffixOf s

/-- `s.split(c)` for a separator of one code unit. -/
def splitUnit (c : CodeUnit) : JsString → List JsString
  | [] => [[]]
  | u :: s =>
      if u = c then [] :: splitUnit c s
      else
        match splitUnit c s with
        | [] => [[u]]
        | w :: ws => (u :: w) :: ws

theorem splitUnit_of_notMem {c : CodeUnit} {s : JsString} (h : c ∉ s) : splitUnit c s = [s] := by
  induction s with
  | nil => rfl
  | cons u s ih =>
      rw [List.mem_cons, not_or] at h
      rw [splitUnit, if_neg (Ne.symm h.1), ih h.2]

theorem splitUnit_append {c : CodeUnit} {s : JsString} (h : c ∉ s) (t : JsString) :
    splitUnit c (s ++ c :: t) = s :: splitUnit c t := by
  induction s with
  | nil => simp [splitUnit]
  | cons u s ih =>
      rw [List.mem_cons, not_or] at h
      rw [List.cons_append, splitUnit, if_neg (Ne.symm h.1), ih h.2]

/-- A separator that occurs in neither of the parts before it determines them. -/
theorem append_separator_inj {α : Type*} {a : α} {xs xs' ys ys' : List α} (h : a ∉ xs)
    (h' : a ∉ xs') (heq : xs ++ a :: ys = xs' ++ a :: ys') : xs = xs' ∧ ys = ys' := by
  induction xs generalizing xs' with
  | nil =>
      cases xs' with
      | nil => exact ⟨rfl, (List.cons.inj heq).2⟩
      | cons x' xs' => exact absurd (List.cons.inj heq).1 (List.ne_of_not_mem_cons h')
  | cons x xs ih =>
      cases xs' with
      | nil => exact absurd (List.cons.inj heq).1.symm (List.ne_of_not_mem_cons h)
      | cons x' xs' =>
          obtain ⟨rfl, hrest⟩ := List.cons.inj heq
          obtain ⟨rfl, hys⟩ :=
            ih (List.not_mem_of_not_mem_cons h) (List.not_mem_of_not_mem_cons h') hrest
          exact ⟨rfl, hys⟩

theorem splitUnit_ne_nil (c : CodeUnit) (s : JsString) : splitUnit c s ≠ [] := by
  cases s with
  | nil => simp [splitUnit]
  | cons u s =>
      rw [splitUnit]
      split
      · simp
      · split <;> simp

theorem splitUnit_append_separator (c : CodeUnit) (s t : JsString) :
    splitUnit c (s ++ c :: t) = splitUnit c s ++ splitUnit c t := by
  induction s with
  | nil => simp [splitUnit]
  | cons u s ih =>
      rw [List.cons_append, splitUnit, splitUnit, ih]
      split
      · rfl
      · cases hs : splitUnit c s with
        | nil => exact absurd hs (splitUnit_ne_nil c s)
        | cons w ws => rfl

theorem notMem_of_mem_splitUnit {c : CodeUnit} {s x : JsString} (h : x ∈ splitUnit c s) : c ∉ x := by
  induction s generalizing x with
  | nil => simp_all [splitUnit]
  | cons u s ih =>
      rw [splitUnit] at h
      split_ifs at h with hu
      · rcases List.mem_cons.mp h with rfl | h
        · exact List.not_mem_nil
        · exact ih h
      · cases hrest : splitUnit c s with
        | nil => exact absurd hrest (splitUnit_ne_nil c s)
        | cons w ws =>
            rw [hrest] at h
            rcases List.mem_cons.mp h with rfl | h
            · intro hmem
              rcases List.mem_cons.mp hmem with heq | hmem
              · exact hu heq.symm
              · exact ih (by rw [hrest]; exact List.mem_cons_self) hmem
            · exact ih (by rw [hrest]; exact List.mem_cons_of_mem _ h)

/-- `ws.join(sep)`. -/
def join (sep : JsString) : List JsString → JsString
  | [] => []
  | [w] => w
  | w :: v :: ws => w ++ sep ++ join sep (v :: ws)

theorem join_cons {sep w : JsString} {ws : List JsString} (h : ws ≠ []) :
    join sep (w :: ws) = w ++ sep ++ join sep ws := by
  cases ws with
  | nil => exact absurd rfl h
  | cons v ws => rfl

/-- What was joined is split back. -/
theorem splitUnit_join {c : CodeUnit} {ws : List JsString} (hne : ws ≠ [])
    (h : ∀ w ∈ ws, c ∉ w) : splitUnit c (join [c] ws) = ws := by
  induction ws with
  | nil => exact absurd rfl hne
  | cons w ws ih =>
      rw [List.forall_mem_cons] at h
      by_cases hlast : ws = []
      · rw [hlast, join, splitUnit_of_notMem h.1]
      · rw [join_cons hlast, List.append_assoc, List.singleton_append, splitUnit_append h.1,
          ih hlast h.2]

/-- Joined by its separator, what was split is back. -/
theorem join_splitUnit (c : CodeUnit) (s : JsString) : join [c] (splitUnit c s) = s := by
  induction s with
  | nil => rfl
  | cons u s ih =>
      rw [splitUnit]
      split
      · next h => rw [join_cons (splitUnit_ne_nil c s), ih, h, List.nil_append, List.singleton_append]
      · cases hs : splitUnit c s with
        | nil => exact absurd hs (splitUnit_ne_nil c s)
        | cons w ws =>
            rw [hs] at ih
            rw [← ih]
            cases ws with
            | nil => rfl
            | cons v ws => rfl

theorem splitUnit_injective (c : CodeUnit) : Function.Injective (splitUnit c) := by
  intro s t h
  rw [← join_splitUnit c s, h, join_splitUnit]

/-- `s.replace(/c+$/, "")` for a single code unit `c`. -/
def dropTrailing (c : CodeUnit) (s : JsString) : JsString :=
  (s.reverse.dropWhile (· == c)).reverse

theorem startsWith_iff {s p : JsString} : startsWith s p = true ↔ p <+: s := by
  simp [startsWith]

theorem endsWith_iff {s p : JsString} : endsWith s p = true ↔ p <:+ s := by
  simp [endsWith]

/-! ## Character classes -/

def isDigit (u : CodeUnit) : Bool := unit '0' ≤ u && u ≤ unit '9'

def isLower (u : CodeUnit) : Bool := unit 'a' ≤ u && u ≤ unit 'z'

def isUpper (u : CodeUnit) : Bool := unit 'A' ≤ u && u ≤ unit 'Z'

def isAlnum (u : CodeUnit) : Bool := isDigit u || isLower u || isUpper u

/-- `s.toLowerCase()` on ASCII letters, which is what the `i` flag compares by. -/
def asciiLower (s : JsString) : JsString := s.map fun u => if isUpper u then u + 32 else u

/-- `s.toUpperCase()` on ASCII texts. -/
def asciiUpper (s : JsString) : JsString := s.map fun u => if isLower u then u - 32 else u

/-- `[a-f0-9]`. -/
def isLowerHex (u : CodeUnit) : Bool := isDigit u || (unit 'a' ≤ u && u ≤ unit 'f')

/-- `[a-f0-9]` under the `i` flag. -/
def isHex (u : CodeUnit) : Bool := isLowerHex u || (unit 'A' ≤ u && u ≤ unit 'F')

/-- Membership in a class written out as a literal. -/
def isOneOf (cls : String) (u : CodeUnit) : Bool := (js cls).contains u

/-- The control units a line-based protocol excludes, `[\0\r\n]`. -/
def isNulOrNewline (u : CodeUnit) : Bool := u == 0 || u == 10 || u == 13

/-- `^[p]{lo,hi}$`. -/
def matchesClass (p : CodeUnit → Bool) (lo hi : ℕ) (s : JsString) : Bool :=
  s.all p && lo ≤ s.length && s.length ≤ hi

/-- `^[p][q]{lo,hi}$`. -/
def matchesHeadTail (p q : CodeUnit → Bool) (lo hi : ℕ) : JsString → Bool
  | [] => false
  | u :: s => p u && matchesClass q lo hi s

theorem matchesClass_iff {p : CodeUnit → Bool} {lo hi : ℕ} {s : JsString} :
    matchesClass p lo hi s = true ↔ (∀ u ∈ s, p u = true) ∧ lo ≤ s.length ∧ s.length ≤ hi := by
  simp [matchesClass, and_assoc]

end Ecma

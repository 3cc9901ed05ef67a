import RemoteOps.Ecma.Buffer
import RemoteOps.Ecma.Utf8

/-!
# Percent encoding

`encodeURIComponent` leaves a few characters as they are and writes every other one as the bytes of
its UTF-8 text, in hexadecimal behind a percent sign. What it writes is read back as it was.
-/

namespace Ecma

/-- The characters that `encodeURIComponent` leaves as they are. -/
def isUnescaped (c : Char) : Bool :=
  c.toNat < 128 && (isAlnum (unit c) || isOneOf "-_.!~*'()" (unit c))

/-- `%xy`, in upper case. -/
def percentUnits (b : UInt8) : JsString := unit '%' :: asciiUpper (hexByte b)

def encodeComponentChar (c : Char) : JsString :=
  if isUnescaped c then unitsOfChar c else (String.utf8EncodeChar c).flatMap percentUnits

/-- `encodeURIComponent(s)`, which throws on a surrogate that has no partner. -/
def encodeURIComponent (s : JsString) : Option JsString :=
  if ofChars (toChars s) = s then some ((toChars s).flatMap encodeComponentChar) else none

theorem hexDigit_upper : ∀ n < 16, hexDigit (if isLower (hexUnitOf n) then hexUnitOf n - 32 else
    hexUnitOf n) = some n := by
  decide

theorem percentByte_percentUnits (b : UInt8) (rest : JsString) :
    percentByte (percentUnits b ++ rest) = some (b, rest) := by
  have hb : b.toNat < 256 := b.toNat_lt
  have hhigh := hexDigit_upper (b.toNat / 16) (by omega)
  have hlow := hexDigit_upper (b.toNat % 16) (by omega)
  have hbyte : UInt8.ofNat (16 * (b.toNat / 16) + b.toNat % 16) = b := by
    rw [Nat.div_add_mod]
    exact UInt8.ofNat_toNat
  simp only [percentUnits, asciiUpper, hexByte, List.map_cons, List.map_nil, List.cons_append,
    List.nil_append, percentByte, ne_eq, not_true, if_false, hhigh, hlow]
  exact congrArg (fun x => some (x, rest)) hbyte

theorem percentBytes_flatMap (bs : List UInt8) (rest : JsString) :
    percentBytes bs.length (bs.flatMap percentUnits ++ rest) = some (bs, rest) := by
  induction bs with
  | nil => rfl
  | cons b bs ih =>
      rw [List.length_cons, percentBytes, List.flatMap_cons, List.append_assoc,
        percentByte_percentUnits]
      simp [ih]

/-- The bytes of one character are read as that character. -/
theorem fromUTF8?_encodeChar (c : Char) :
    String.fromUTF8? ⟨(String.utf8EncodeChar c).toArray⟩ = some (String.ofList [c]) := by
  have hbytes : (⟨(String.utf8EncodeChar c).toArray⟩ : ByteArray) = textBytes [c] := by
    have hlist : (textBytes [c]).data.toList = String.utf8EncodeChar c := by
      rw [Utf8.toList_textBytes, Utf8.encode_cons, Utf8.encode_nil, List.append_nil]
    rw [← hlist]
  rw [hbytes, String.fromUTF8?, textBytes, dif_pos (String.ofList [c]).isValidUTF8]
  rfl

theorem utf8SequenceLength_eq (b : UInt8) :
    utf8SequenceLength b =
      if b.toNat < 0x80 then some 1
      else if 0xC0 ≤ b.toNat ∧ b.toNat < 0xE0 then some 2
      else if 0xE0 ≤ b.toNat ∧ b.toNat < 0xF0 then some 3
      else if 0xF0 ≤ b.toNat ∧ b.toNat < 0xF8 then some 4
      else none := by
  simp only [utf8SequenceLength, UInt8.lt_iff_toNat_lt, UInt8.le_iff_toNat_le, UInt8.reduceToNat]

/-- The first byte of a character tells how many there are. -/
theorem utf8SequenceLength_encodeChar (c : Char) :
    ∃ b bs, String.utf8EncodeChar c = b :: bs ∧ utf8SequenceLength b = some (bs.length + 1) := by
  have hvalid : c.toNat < 0x110000 := by
    rcases c.valid with h | h
    · exact h.trans (by norm_num)
    · exact h.2
  have hval : c.val.toNat = c.toNat := rfl
  generalize c.toNat = n at hvalid hval
  rw [String.utf8EncodeChar]
  simp only [hval]
  split_ifs with h₁ h₂ h₃
  · have ha := Utf8.toNat_ofNat_of_lt (n := n) (by omega)
    refine ⟨_, _, rfl, ?_⟩
    rw [utf8SequenceLength_eq, ha, if_pos (by omega)]
    rfl
  · have ha := Utf8.toNat_ofNat_of_lt (n := n / 64 % 0x20 + 0xc0) (by omega)
    refine ⟨_, _, rfl, ?_⟩
    rw [utf8SequenceLength_eq, ha, if_neg (by omega), if_pos (by omega)]
    rfl
  · have ha := Utf8.toNat_ofNat_of_lt (n := n / 4096 % 0x10 + 0xe0) (by omega)
    refine ⟨_, _, rfl, ?_⟩
    rw [utf8SequenceLength_eq, ha, if_neg (by omega), if_neg (by omega), if_pos (by omega)]
    rfl
  · have ha := Utf8.toNat_ofNat_of_lt (n := n / 262144 % 8 + 0xf0) (by omega)
    refine ⟨_, _, rfl, ?_⟩
    rw [utf8SequenceLength_eq, ha, if_neg (by omega), if_neg (by omega), if_neg (by omega),
      if_pos (by omega)]
    rfl

/-! ## Reading back -/

theorem unitsOfChar_of_ascii {c : Char} (h : c.toNat < 128) : unitsOfChar c = [unit c] := by
  rw [unitsOfChar, if_pos (by omega), unit]

theorem isUnescaped_ne_percent {c : Char} (h : isUnescaped c = true) : unit c ≠ unit '%' := by
  intro heq
  have hclass := (Bool.and_eq_true_iff.mp h).2
  rw [heq] at hclass
  revert hclass
  decide

/-- A character that was written is read, and what follows it. -/
theorem decodeUnits_encodeComponentChar (c : Char) (rest : JsString) (fuel : ℕ) :
    decodeUnits (fuel + 1) (encodeComponentChar c ++ rest) =
      (decodeUnits fuel rest).map (unitsOfChar c ++ ·) := by
  unfold encodeComponentChar
  split_ifs with hplain
  · have hascii : c.toNat < 128 := by
      simpa using (Bool.and_eq_true_iff.mp hplain).1
    rw [unitsOfChar_of_ascii hascii, List.singleton_append, decodeUnits,
      if_pos (isUnescaped_ne_percent hplain)]
    cases decodeUnits fuel rest <;> rfl
  · obtain ⟨b, bs, hbytes, hlength⟩ := utf8SequenceLength_encodeChar c
    have hread := fromUTF8?_encodeChar c
    have hpercent : (b :: bs).flatMap percentUnits ++ rest =
        unit '%' :: (asciiUpper (hexByte b) ++ (bs.flatMap percentUnits ++ rest)) := by
      rw [List.flatMap_cons, List.append_assoc]
      rfl
    have hfirst : percentByte ((b :: bs).flatMap percentUnits ++ rest) =
        some (b, bs.flatMap percentUnits ++ rest) := by
      rw [List.flatMap_cons, List.append_assoc]
      exact percentByte_percentUnits b _
    have hall := percentBytes_flatMap (b :: bs) rest
    rw [hbytes] at hread ⊢
    rw [hpercent] at hfirst hall ⊢
    rw [decodeUnits, if_neg (not_not.mpr rfl), hfirst]
    simp only [Option.bind_eq_bind, Option.bind_some, hlength]
    rw [List.length_cons] at hall
    rw [hall]
    simp only [Option.bind_some, hread]
    cases decodeUnits fuel rest <;> simp [ofChars]

theorem encodeComponentChar_ne_nil (c : Char) : encodeComponentChar c ≠ [] := by
  unfold encodeComponentChar unitsOfChar
  obtain ⟨b, bs, hbytes, -⟩ := utf8SequenceLength_encodeChar c
  rw [hbytes, List.flatMap_cons]
  split_ifs <;> exact List.cons_ne_nil _ _

/-- What `encodeURIComponent` writes is read back. -/
theorem decodeURIComponent_encodeURIComponent {s t : JsString} (h : encodeURIComponent s = some t) :
    decodeURIComponent t = some s := by
  have hread (cs : List Char) (fuel : ℕ) (hfuel : cs.length ≤ fuel) :
      decodeUnits fuel (cs.flatMap encodeComponentChar) = some (ofChars cs) := by
    induction cs generalizing fuel with
    | nil => cases fuel <;> rfl
    | cons c cs ih =>
        obtain ⟨n, rfl⟩ : ∃ n, fuel = n + 1 := ⟨fuel - 1, by simp at hfuel; omega⟩
        rw [List.flatMap_cons, decodeUnits_encodeComponentChar, ih n (by simpa using hfuel)]
        rfl
  have hlength (cs : List Char) : cs.length ≤ (cs.flatMap encodeComponentChar).length := by
    induction cs with
    | nil => exact le_rfl
    | cons c cs ih =>
        have hc : 0 < (encodeComponentChar c).length :=
          List.length_pos_of_ne_nil (encodeComponentChar_ne_nil c)
        rw [List.flatMap_cons, List.length_append, List.length_cons]
        omega
  unfold encodeURIComponent at h
  split_ifs at h with hformed
  obtain rfl := Option.some.inj h
  rw [decodeURIComponent, hread _ _ (hlength _), hformed]

/-- What is written is one segment of a path. -/
theorem slash_notMem_encodeURIComponent {s t : JsString} (h : encodeURIComponent s = some t) :
    unit '/' ∉ t := by
  have hhex : ∀ n < 16, unit '/' ≠ if isLower (hexUnitOf n) then hexUnitOf n - 32 else
      hexUnitOf n := by
    decide
  unfold encodeURIComponent at h
  split_ifs at h
  obtain rfl := Option.some.inj h
  intro hmem
  obtain ⟨c, -, hc⟩ := List.mem_flatMap.mp hmem
  unfold encodeComponentChar at hc
  split_ifs at hc with hplain
  · obtain ⟨hascii, hclass⟩ := Bool.and_eq_true_iff.mp hplain
    rw [unitsOfChar_of_ascii (by simpa using hascii), List.mem_singleton] at hc
    rw [← hc] at hclass
    revert hclass
    decide
  · obtain ⟨b, -, hb⟩ := List.mem_flatMap.mp hc
    have hlt : b.toNat < 256 := b.toNat_lt
    simp only [percentUnits, asciiUpper, hexByte, List.map_cons, List.map_nil, List.mem_cons,
      List.not_mem_nil, or_false] at hb
    rcases hb with hb | hb | hb
    · exact absurd hb (by decide)
    · exact hhex _ (by omega) hb
    · exact hhex _ (by omega) hb

end Ecma

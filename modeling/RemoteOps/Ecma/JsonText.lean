import RemoteOps.Ecma.Json

/-!
# `JSON.stringify` and `JSON.parse`

The text of a JSON value is always well formed: a lone surrogate is written as
an escape. It is therefore a list of characters and not of code units, and its
UTF-8 bytes determine it. `parse` accepts the whole grammar, white space and
escapes included, and `parse_stringify` says that it reads a stringified value
back. Injectivity of `stringify` and of its bytes is a consequence.
-/

namespace Ecma

/-! ## Writing -/

def hexChar (n : ℕ) : Char :=
  if n < 10 then Char.ofNat (48 + n) else Char.ofNat (87 + n)

/-- `\uXXXX`. -/
def unicodeEscape (u : CodeUnit) : List Char :=
  ['\\', 'u', hexChar (u.toNat / 0x1000), hexChar (u.toNat / 0x100 % 0x10),
    hexChar (u.toNat / 0x10 % 0x10), hexChar (u.toNat % 0x10)]

/-- A single code unit inside a string literal. -/
def quoteUnit (u : CodeUnit) : List Char :=
  if u = 8 then ['\\', 'b']
  else if u = 9 then ['\\', 't']
  else if u = 10 then ['\\', 'n']
  else if u = 12 then ['\\', 'f']
  else if u = 13 then ['\\', 'r']
  else if u = 34 then ['\\', '"']
  else if u = 92 then ['\\', '\\']
  else if u < 32 || isSurrogate u then unicodeEscape u
  else [Char.ofNat u.toNat]

/-- The body of a string literal. -/
def quoteUnits : JsString → List Char
  | [] => []
  | [u] => quoteUnit u
  | hi :: lo :: rest =>
      if isHighSurrogate hi && isLowSurrogate lo then pairChar hi lo :: quoteUnits rest
      else quoteUnit hi ++ quoteUnits (lo :: rest)

def quote (s : JsString) : List Char := '"' :: (quoteUnits s ++ ['"'])

mutual

/-- `JSON.stringify(x)`. -/
def Json.stringify : Json → List Char
  | .null => ['n', 'u', 'l', 'l']
  | .bool b => if b then ['t', 'r', 'u', 'e'] else ['f', 'a', 'l', 's', 'e']
  | .num (.finite x) => doubleText x
  | .num _ => ['n', 'u', 'l', 'l']
  | .str s => quote s
  | .arr xs => '[' :: (stringifyElements xs ++ [']'])
  | .obj ps => '{' :: (stringifyMembers ps ++ ['}'])
  termination_by structural x => x

/-- The elements of an array, separated by commas. -/
def stringifyElements : List Json → List Char
  | [] => []
  | x :: xs => x.stringify ++ stringifyRest xs
  termination_by structural xs => xs

/-- The elements after the first. -/
def stringifyRest : List Json → List Char
  | [] => []
  | x :: xs => ',' :: (x.stringify ++ stringifyRest xs)
  termination_by structural xs => xs

/-- The members of an object, separated by commas. -/
def stringifyMembers : List (JsString × Json) → List Char
  | [] => []
  | p :: ps => stringifyMember p ++ stringifyMembersRest ps
  termination_by structural ps => ps

/-- The members after the first. -/
def stringifyMembersRest : List (JsString × Json) → List Char
  | [] => []
  | p :: ps => ',' :: (stringifyMember p ++ stringifyMembersRest ps)
  termination_by structural ps => ps

def stringifyMember : JsString × Json → List Char
  | (k, x) => quote k ++ ':' :: x.stringify
  termination_by structural p => p

end

/-! ## Reading -/

def isJsonSpace (c : Char) : Bool := c == ' ' || c == '\t' || c == '\n' || c == '\r'

def skipSpace (cs : List Char) : List Char := cs.dropWhile isJsonSpace

def hexValue (c : Char) : Option ℕ :=
  if '0' ≤ c && c ≤ '9' then some (c.toNat - 48)
  else if 'a' ≤ c && c ≤ 'f' then some (c.toNat - 87)
  else if 'A' ≤ c && c ≤ 'F' then some (c.toNat - 55)
  else none

/-- The code unit of four hexadecimal digits. -/
def hexUnit (a b c d : Char) : Option CodeUnit := do
  return UInt16.ofNat
    (0x1000 * (← hexValue a) + 0x100 * (← hexValue b) + 0x10 * (← hexValue c) + (← hexValue d))

/-- The code unit of a one-letter escape. -/
def simpleEscape (c : Char) : Option CodeUnit :=
  match c with
  | '"' => some 34
  | '\\' => some 92
  | '/' => some 47
  | 'b' => some 8
  | 'f' => some 12
  | 'n' => some 10
  | 'r' => some 13
  | 't' => some 9
  | _ => none

/-- The rest of a string literal, up to the closing quote. -/
def parseUnits : List Char → Option (JsString × List Char)
  | [] => none
  | '"' :: cs => some ([], cs)
  | '\\' :: 'u' :: a :: b :: c :: d :: cs => do
      let u ← hexUnit a b c d
      let (s, rest) ← parseUnits cs
      return (u :: s, rest)
  | '\\' :: c :: cs => do
      let u ← simpleEscape c
      let (s, rest) ← parseUnits cs
      return (u :: s, rest)
  | c :: cs =>
      if c.toNat < 32 ∨ c = '\\' then none
      else do
        let (s, rest) ← parseUnits cs
        return (unitsOfChar c ++ s, rest)

mutual

/-- A value, white space before it included. The fuel bounds the nesting and
the number of elements; the length of the text is always enough. -/
def parseValue : ℕ → List Char → Option (Json × List Char)
  | 0, _ => none
  | fuel + 1, cs =>
      match skipSpace cs with
      | 'n' :: 'u' :: 'l' :: 'l' :: rest => some (.null, rest)
      | 't' :: 'r' :: 'u' :: 'e' :: rest => some (.bool true, rest)
      | 'f' :: 'a' :: 'l' :: 's' :: 'e' :: rest => some (.bool false, rest)
      | '"' :: rest => (parseUnits rest).map fun r => (.str r.1, r.2)
      | '[' :: rest =>
          match skipSpace rest with
          | ']' :: rest => some (.arr [], rest)
          | rest => (parseElements fuel rest).map fun r => (.arr r.1, r.2)
      | '{' :: rest =>
          match skipSpace rest with
          | '}' :: rest => some (.obj [], rest)
          | rest => (parseMembers fuel rest).map fun r => (.obj (fromEntries r.1), r.2)
      | rest => (parseNumber rest).map fun r => (.num r.1, r.2)

/-- The elements of an array, up to the closing bracket. -/
def parseElements : ℕ → List Char → Option (List Json × List Char)
  | 0, _ => none
  | fuel + 1, cs => do
      let (x, rest) ← parseValue fuel cs
      match skipSpace rest with
      | ',' :: rest => (parseElements fuel rest).map fun r => (x :: r.1, r.2)
      | ']' :: rest => some ([x], rest)
      | _ => none

/-- The members of an object, up to the closing brace. -/
def parseMembers : ℕ → List Char → Option (List (JsString × Json) × List Char)
  | 0, _ => none
  | fuel + 1, cs =>
      match skipSpace cs with
      | '"' :: rest => do
          let (k, rest) ← parseUnits rest
          match skipSpace rest with
          | ':' :: rest => do
              let (x, rest) ← parseValue fuel rest
              match skipSpace rest with
              | ',' :: rest => (parseMembers fuel rest).map fun r => ((k, x) :: r.1, r.2)
              | '}' :: rest => some ([(k, x)], rest)
              | _ => none
          | _ => none
      | _ => none

end

/-- `JSON.parse(text)`, `none` being a thrown `SyntaxError`. -/
def parse (text : List Char) : Option Json :=
  match parseValue (text.length + 1) text with
  | some (x, rest) => if skipSpace rest = [] then some x else none
  | none => none

/-! ## String literals -/

theorem toNat_ofNat {n : ℕ} (h : n.isValidChar) : (Char.ofNat n).toNat = n := by
  rw [Char.ofNat, dif_pos h]
  show (UInt32.ofNatLT n _).toNat = n
  simp

theorem hexValue_hexChar : ∀ n < 16, hexValue (hexChar n) = some n := by decide

theorem hexUnit_toNat (u : CodeUnit) :
    hexUnit (hexChar (u.toNat / 0x1000)) (hexChar (u.toNat / 0x100 % 0x10))
      (hexChar (u.toNat / 0x10 % 0x10)) (hexChar (u.toNat % 0x10)) = some u := by
  have hu : u.toNat < 2 ^ 16 := u.toNat_lt
  have hsum : 0x1000 * (u.toNat / 0x1000) + 0x100 * (u.toNat / 0x100 % 0x10) +
      0x10 * (u.toNat / 0x10 % 0x10) + u.toNat % 0x10 = u.toNat := by omega
  rw [hexUnit, hexValue_hexChar _ (by omega), hexValue_hexChar _ (by omega),
    hexValue_hexChar _ (by omega), hexValue_hexChar _ (by omega)]
  show some (UInt16.ofNat _) = some u
  rw [hsum, UInt16.ofNat_toNat]

theorem parseUnits_unicodeEscape (u : CodeUnit) (cs : List Char) :
    parseUnits (unicodeEscape u ++ cs) = (parseUnits cs).map fun r => (u :: r.1, r.2) := by
  simp only [unicodeEscape, List.cons_append, List.nil_append, parseUnits, hexUnit_toNat]
  cases parseUnits cs <;> rfl

/-- A character that stands for itself in a string literal. -/
theorem parseUnits_plain {c : Char} (hlow : 32 ≤ c.toNat) (hquote : c ≠ '"') (hslash : c ≠ '\\')
    (cs : List Char) :
    parseUnits (c :: cs) = (parseUnits cs).map fun r => (unitsOfChar c ++ r.1, r.2) := by
  rw [parseUnits]
  · rw [if_neg (by simp [hslash]; omega)]
    cases parseUnits cs <;> rfl
  · simpa using hquote
  · intro a b d e cs' h
    exact absurd h hslash
  · intro a b h
    exact absurd h hslash

theorem parseUnits_quoteUnit {u : CodeUnit} (cs : List Char) :
    parseUnits (quoteUnit u ++ cs) = (parseUnits cs).map fun r => (u :: r.1, r.2) := by
  have hescape : ∀ {c : Char} {v : CodeUnit}, c ≠ 'u' → simpleEscape c = some v →
      parseUnits (['\\', c] ++ cs) = (parseUnits cs).map fun r => (v :: r.1, r.2) := by
    intro c v hc hv
    simp only [List.cons_append, List.nil_append]
    rw [parseUnits]
    · rw [hv]
      cases parseUnits cs <;> rfl
    · intro a b d e cs' h
      exact absurd h hc
  unfold quoteUnit
  split_ifs with h₁ h₂ h₃ h₄ h₅ h₆ h₇ h₈
  · rw [h₁]; exact hescape (by decide) rfl
  · rw [h₂]; exact hescape (by decide) rfl
  · rw [h₃]; exact hescape (by decide) rfl
  · rw [h₄]; exact hescape (by decide) rfl
  · rw [h₅]; exact hescape (by decide) rfl
  · rw [h₆]; exact hescape (by decide) rfl
  · rw [h₇]; exact hescape (by decide) rfl
  · exact parseUnits_unicodeEscape u cs
  · have hlow : 32 ≤ u.toNat := by
      simp only [Bool.or_eq_true, decide_eq_true_eq, not_or, UInt16.lt_iff_toNat_lt] at h₈
      simpa using h₈.1
    have hvalid : u.toNat.isValidChar := by
      have hu := u.toNat_lt
      simp only [isSurrogate, Bool.or_eq_true, Bool.and_eq_true, decide_eq_true_eq, not_or,
        UInt16.le_iff_toNat_le, UInt16.lt_iff_toNat_lt] at h₈
      have : ¬(0xD800 ≤ u.toNat ∧ u.toNat ≤ 0xDFFF) := by simpa using h₈.2
      simp only [Nat.isValidChar]
      omega
    have hnat : (Char.ofNat u.toNat).toNat = u.toNat := toNat_ofNat hvalid
    have hunits : unitsOfChar (Char.ofNat u.toNat) = [u] := by
      rw [unitsOfChar, hnat, if_pos (by simpa using u.toNat_lt), UInt16.ofNat_toNat]
    have hne : ∀ {c : Char} {v : CodeUnit}, c.toNat = v.toNat → ¬u = v →
        Char.ofNat u.toNat ≠ c := by
      intro c v hcv huv h
      apply huv
      rw [← UInt16.toNat_inj, ← hcv, ← h, hnat]
    simp only [List.cons_append, List.nil_append]
    rw [parseUnits_plain (by omega) (hne (by rfl) h₆) (hne (by rfl) h₇), hunits]
    rfl

theorem surrogate_pair {hi lo : CodeUnit} (hhi : isHighSurrogate hi = true)
    (hlo : isLowSurrogate lo = true) :
    (pairChar hi lo).toNat =
      0x10000 + (hi.toNat - 0xD800) * 0x400 + (lo.toNat - 0xDC00) ∧
      unitsOfChar (pairChar hi lo) = [hi, lo] := by
  simp only [isHighSurrogate, isLowSurrogate, Bool.and_eq_true, decide_eq_true_eq,
    UInt16.le_iff_toNat_le] at hhi hlo
  have h₁ : 0xD800 ≤ hi.toNat ∧ hi.toNat ≤ 0xDBFF := by simpa using hhi
  have h₂ : 0xDC00 ≤ lo.toNat ∧ lo.toNat ≤ 0xDFFF := by simpa using hlo
  have hnat : (pairChar hi lo).toNat =
      0x10000 + (hi.toNat - 0xD800) * 0x400 + (lo.toNat - 0xDC00) := by
    apply toNat_ofNat
    simp only [Nat.isValidChar]
    omega
  refine ⟨hnat, ?_⟩
  rw [unitsOfChar, hnat, if_neg (by omega)]
  have hhigh : 0xD800 + (0x10000 + (hi.toNat - 0xD800) * 0x400 + (lo.toNat - 0xDC00) - 0x10000) /
      0x400 = hi.toNat := by omega
  have hlow : 0xDC00 + (0x10000 + (hi.toNat - 0xD800) * 0x400 + (lo.toNat - 0xDC00) - 0x10000) %
      0x400 = lo.toNat := by omega
  rw [hhigh, hlow, UInt16.ofNat_toNat, UInt16.ofNat_toNat]

theorem parseUnits_quoteUnits (s : JsString) (rest : List Char) :
    parseUnits (quoteUnits s ++ '"' :: rest) = some (s, rest) := by
  fun_induction quoteUnits s with
  | case1 => rfl
  | case2 u => rw [parseUnits_quoteUnit]; rfl
  | case3 hi lo us h ih =>
      obtain ⟨hhi, hlo⟩ := Bool.and_eq_true_iff.mp h
      obtain ⟨hnat, hunits⟩ := surrogate_pair hhi hlo
      have hne : ∀ {c : Char}, c.toNat < 0x10000 → pairChar hi lo ≠ c := by
        intro c hc heq
        rw [heq] at hnat
        omega
      rw [List.cons_append, parseUnits_plain (by omega) (hne (by decide)) (hne (by decide)), ih,
        hunits]
      rfl
  | case4 hi lo us h ih => rw [List.append_assoc, parseUnits_quoteUnit, ih]; rfl

/-! ## Values that survive -/

mutual

/-- A value that `stringify` does not lose: its numbers are finite and its
properties stand in the order of an object that was built from them. -/
def Json.Normal : Json → Prop
  | .null => True
  | .bool _ => True
  | .num x => ∃ d, x = .finite d
  | .str _ => True
  | .arr xs => NormalElements xs
  | .obj ps => NormalMembers ps ∧ fromEntries ps = ps
  termination_by structural x => x

def NormalElements : List Json → Prop
  | [] => True
  | x :: xs => x.Normal ∧ NormalElements xs
  termination_by structural xs => xs

def NormalMembers : List (JsString × Json) → Prop
  | [] => True
  | p :: ps => NormalMember p ∧ NormalMembers ps
  termination_by structural ps => ps

def NormalMember : JsString × Json → Prop
  | (_, x) => x.Normal
  termination_by structural p => p

end

theorem normalMembers_of_forall {ps : List (JsString × Json)} (h : ∀ p ∈ ps, p.2.Normal) :
    NormalMembers ps := by
  induction ps with
  | nil => trivial
  | cons p ps ih =>
      obtain ⟨k, x⟩ := p
      exact ⟨h (k, x) List.mem_cons_self, ih fun q hq => h q (List.mem_cons_of_mem _ hq)⟩

/-- The characters a stringified value can begin with. -/
def ValueHead (c : Char) : Prop :=
  isJsonSpace c = false ∧ c ≠ ']' ∧ c ≠ '}'

theorem head_of_parseNumber {cs : List Char} (h : (parseNumber cs).isSome) :
    ∃ c cs', cs = c :: cs' ∧ (c = '-' ∨ isDigitChar c = true) := by
  cases cs with
  | nil => exact absurd h (by decide)
  | cons c cs =>
      refine ⟨c, cs, rfl, ?_⟩
      by_contra hc
      obtain ⟨hminus, hdigit⟩ := not_or.mp hc
      have hint : parseIntPart (c :: cs) = none := by
        simp [parseIntPart, hdigit]
      have hdec : parseDecimal (c :: cs) = none := by
        simp [parseDecimal, hint]
      have hnum : parseNumber (c :: cs) = none := by
        rw [parseNumber, hdec]
        · rfl
        · intro cs' h'
          exact hminus (List.cons.inj h').1
      rw [hnum] at h
      exact absurd h (by decide)

theorem head_doubleText (x : Double) :
    ∃ c cs, doubleText x = c :: cs ∧ (c = '-' ∨ isDigitChar c = true) := by
  apply head_of_parseNumber
  have hend : NumberEnd [] := by simp [NumberEnd]
  have hread := parseNumber_doubleText x hend
  rw [List.append_nil] at hread
  simp [hread]

theorem skipSpace_cons {c : Char} (hc : isJsonSpace c = false) (cs : List Char) :
    skipSpace (c :: cs) = c :: cs := by
  simp [skipSpace, hc]

theorem ne_of_numberHead {c d : Char} (hc : c = '-' ∨ isDigitChar c = true)
    (hd : d ≠ '-') (hd' : isDigitChar d = false) : c ≠ d := by
  rintro rfl
  rcases hc with hc | hc
  · exact hd hc
  · rw [hd'] at hc
    exact absurd hc (by decide)

theorem isJsonSpace_numberHead {c : Char} (hc : c = '-' ∨ isDigitChar c = true) :
    isJsonSpace c = false := by
  have hne : ∀ d, isJsonSpace d = true → d ≠ '-' ∧ isDigitChar d = false := by
    intro d hd
    simp only [isJsonSpace, Bool.or_eq_true, beq_iff_eq] at hd
    rcases hd with ((rfl | rfl) | rfl) | rfl <;> decide
  by_contra h
  obtain ⟨hminus, hdigit⟩ := hne c (by simpa using h)
  exact ne_of_numberHead hc hminus hdigit rfl

theorem parseValue_number {c : Char} (hc : c = '-' ∨ isDigitChar c = true) (fuel : ℕ)
    (cs : List Char) :
    parseValue (fuel + 1) (c :: cs) =
      (parseNumber (c :: cs)).map fun r => (Json.num r.1, r.2) := by
  rw [parseValue, skipSpace_cons (isJsonSpace_numberHead hc)]
  split
  case h_7 => rfl
  all_goals
    rename_i heq
    exact absurd (List.cons.inj heq).1 (ne_of_numberHead hc (by decide) (by decide))

theorem parseValue_array {c : Char} (hspace : isJsonSpace c = false) (hc : c ≠ ']') (fuel : ℕ)
    (cs : List Char) :
    parseValue (fuel + 1) ('[' :: c :: cs) =
      (parseElements fuel (c :: cs)).map fun r => (Json.arr r.1, r.2) := by
  have hnext := skipSpace_cons hspace cs
  simp only [parseValue, skipSpace_cons (c := '[') (by decide), hnext]
  split
  · rename_i heq
    exact absurd (List.cons.inj heq).1 hc
  · rfl

theorem parseValue_object {c : Char} (hspace : isJsonSpace c = false) (hc : c ≠ '}') (fuel : ℕ)
    (cs : List Char) :
    parseValue (fuel + 1) ('{' :: c :: cs) =
      (parseMembers fuel (c :: cs)).map fun r => (Json.obj (fromEntries r.1), r.2) := by
  have hnext := skipSpace_cons hspace cs
  simp only [parseValue, skipSpace_cons (c := '{') (by decide), hnext]
  split
  · rename_i heq
    exact absurd (List.cons.inj heq).1 hc
  · rfl

theorem head_stringify (x : Json) : ∃ c cs, x.stringify = c :: cs ∧ ValueHead c := by
  cases x with
  | null => exact ⟨_, _, rfl, by simp [ValueHead, isJsonSpace]⟩
  | bool b => cases b <;> exact ⟨_, _, rfl, by simp [ValueHead, isJsonSpace]⟩
  | num x =>
      cases x with
      | finite x =>
          obtain ⟨c, cs, htext, hc⟩ := head_doubleText x
          refine ⟨c, cs, htext, isJsonSpace_numberHead hc, ?_, ?_⟩
          · exact ne_of_numberHead hc (by decide) (by decide)
          · exact ne_of_numberHead hc (by decide) (by decide)
      | nan => exact ⟨_, _, rfl, by simp [ValueHead, isJsonSpace]⟩
      | infinite n => exact ⟨_, _, rfl, by simp [ValueHead, isJsonSpace]⟩
  | str s => exact ⟨_, _, rfl, by simp [ValueHead, isJsonSpace]⟩
  | arr xs => exact ⟨_, _, rfl, by simp [ValueHead, isJsonSpace]⟩
  | obj ps => exact ⟨_, _, rfl, by simp [ValueHead, isJsonSpace]⟩

theorem numberEnd_of_mem {c : Char} {cs : List Char} (hc : c ∈ [',', ']', '}']) :
    NumberEnd (c :: cs) := by
  rintro d ds h
  obtain ⟨rfl, rfl⟩ := List.cons.inj h
  simp only [List.mem_cons, List.not_mem_nil, or_false] at hc
  rcases hc with rfl | rfl | rfl <;> decide

/-- What follows the elements of an array after the first. -/
theorem numberEnd_stringifyRest (xs : List Json) (rest : List Char) :
    NumberEnd (stringifyRest xs ++ ']' :: rest) := by
  cases xs with
  | nil => exact numberEnd_of_mem (by simp)
  | cons x xs => exact numberEnd_of_mem (by simp)

theorem numberEnd_stringifyMembersRest (ps : List (JsString × Json)) (rest : List Char) :
    NumberEnd (stringifyMembersRest ps ++ '}' :: rest) := by
  cases ps with
  | nil => exact numberEnd_of_mem (by simp)
  | cons p ps => exact numberEnd_of_mem (by simp)

/-! ### The three parsers, by induction on the fuel -/

def ReadsValue (fuel : ℕ) : Prop :=
  ∀ x : Json, x.Normal → ∀ rest, NumberEnd rest → x.stringify.length ≤ fuel →
    parseValue fuel (x.stringify ++ rest) = some (x, rest)

def ReadsElements (fuel : ℕ) : Prop :=
  ∀ x xs, NormalElements (x :: xs) → ∀ rest, (stringifyElements (x :: xs)).length + 1 ≤ fuel →
    parseElements fuel (stringifyElements (x :: xs) ++ ']' :: rest) = some (x :: xs, rest)

def ReadsMembers (fuel : ℕ) : Prop :=
  ∀ p ps, NormalMembers (p :: ps) → ∀ rest, (stringifyMembers (p :: ps)).length + 1 ≤ fuel →
    parseMembers fuel (stringifyMembers (p :: ps) ++ '}' :: rest) = some (p :: ps, rest)

theorem readsValue_succ {fuel : ℕ} (helements : ReadsElements fuel)
    (hmembers : ReadsMembers fuel) : ReadsValue (fuel + 1) := by
  intro x hx rest hrest hfuel
  match x with
  | .null => rfl
  | .bool b => cases b <;> rfl
  | .num x =>
      obtain ⟨x, rfl⟩ := hx
      obtain ⟨c, cs, htext, hc⟩ := head_doubleText x
      have hread := parseNumber_doubleText x hrest
      rw [Json.stringify, htext, List.cons_append, parseValue_number hc, ← List.cons_append,
        ← htext, hread]
      rfl
  | .str s =>
      have hread := parseUnits_quoteUnits s rest
      rw [Json.stringify, quote, List.cons_append, List.append_assoc, parseValue,
        skipSpace_cons (by decide)]
      simp [hread]
  | .arr [] => rfl
  | .arr (x :: xs) =>
      have hlen : (stringifyElements (x :: xs)).length + 1 ≤ fuel := by
        simp [Json.stringify] at hfuel
        omega
      have hread := helements x xs hx rest hlen
      obtain ⟨c, cs, htext, hspace, hbracket, -⟩ := head_stringify x
      have hhead : stringifyElements (x :: xs) ++ ']' :: rest =
          c :: (cs ++ stringifyRest xs ++ ']' :: rest) := by
        rw [stringifyElements, htext]
        simp
      have hwhole : (Json.arr (x :: xs)).stringify ++ rest =
          '[' :: (stringifyElements (x :: xs) ++ ']' :: rest) := by
        simp [Json.stringify]
      rw [hwhole, hhead, parseValue_array hspace hbracket, ← hhead, hread]
      rfl
  | .obj [] => rfl
  | .obj (p :: ps) =>
      obtain ⟨hnormal, hprops⟩ := hx
      have hlen : (stringifyMembers (p :: ps)).length + 1 ≤ fuel := by
        simp [Json.stringify] at hfuel
        omega
      have hread := hmembers p ps hnormal rest hlen
      obtain ⟨cs, hhead⟩ : ∃ cs, stringifyMembers (p :: ps) ++ '}' :: rest = '"' :: cs :=
        ⟨_, by rw [stringifyMembers, stringifyMember, quote]; rfl⟩
      have hwhole : (Json.obj (p :: ps)).stringify ++ rest =
          '{' :: (stringifyMembers (p :: ps) ++ '}' :: rest) := by
        simp [Json.stringify]
      rw [hwhole, hhead, parseValue_object (by decide) (by decide), ← hhead, hread,
        Option.map_some, hprops]

theorem readsElements_succ {fuel : ℕ} (hvalue : ReadsValue fuel)
    (helements : ReadsElements fuel) : ReadsElements (fuel + 1) := by
  intro x xs hxs rest hfuel
  obtain ⟨hx, hxs⟩ := hxs
  rw [stringifyElements, List.length_append] at hfuel
  have hread := hvalue x hx _ (numberEnd_stringifyRest xs rest) (by omega)
  rw [stringifyElements, List.append_assoc, parseElements, hread]
  cases xs with
  | nil => rfl
  | cons y ys =>
      have hlen : (stringifyElements (y :: ys)).length + 1 ≤ fuel := by
        rw [stringifyRest, List.length_cons] at hfuel
        rw [stringifyElements]
        omega
      have hnext := helements y ys hxs rest hlen
      rw [stringifyElements] at hnext
      rw [stringifyRest, List.cons_append]
      simp only [Option.bind_eq_bind, Option.bind_some, skipSpace_cons (c := ',') (by decide)]
      rw [hnext]
      rfl

theorem readsMembers_succ {fuel : ℕ} (hvalue : ReadsValue fuel)
    (hmembers : ReadsMembers fuel) : ReadsMembers (fuel + 1) := by
  rintro ⟨k, x⟩ ps hps rest hfuel
  obtain ⟨hx, hps⟩ := hps
  rw [stringifyMembers, stringifyMember, List.length_append, List.length_append,
    List.length_cons] at hfuel
  have hread := hvalue x hx _ (numberEnd_stringifyMembersRest ps rest) (by omega)
  have hkey := parseUnits_quoteUnits k
    (':' :: (x.stringify ++ (stringifyMembersRest ps ++ '}' :: rest)))
  have htext : stringifyMembers ((k, x) :: ps) ++ '}' :: rest =
      '"' :: (quoteUnits k ++ '"' ::
        ':' :: (x.stringify ++ (stringifyMembersRest ps ++ '}' :: rest))) := by
    simp [stringifyMembers, stringifyMember, quote]
  rw [htext, parseMembers, skipSpace_cons (by decide)]
  simp only [hkey, Option.bind_eq_bind, Option.bind_some, skipSpace_cons (c := ':') (by decide),
    hread]
  cases ps with
  | nil => rfl
  | cons p ps =>
      have hlen : (stringifyMembers (p :: ps)).length + 1 ≤ fuel := by
        rw [stringifyMembersRest, List.length_cons] at hfuel
        rw [stringifyMembers]
        omega
      have hnext := hmembers p ps hps rest hlen
      rw [stringifyMembers] at hnext
      rw [stringifyMembersRest, List.cons_append]
      simp only [skipSpace_cons (c := ',') (by decide)]
      rw [hnext]
      rfl

theorem reads (fuel : ℕ) : ReadsValue fuel ∧ ReadsElements fuel ∧ ReadsMembers fuel := by
  induction fuel with
  | zero =>
      refine ⟨?_, ?_, ?_⟩
      · intro x _ rest _ hfuel
        obtain ⟨c, cs, htext, -⟩ := head_stringify x
        rw [htext] at hfuel
        exact absurd hfuel (by simp)
      · intro x xs _ rest hfuel
        exact absurd hfuel (by omega)
      · intro p ps _ rest hfuel
        exact absurd hfuel (by omega)
  | succ fuel ih =>
      obtain ⟨hvalue, helements, hmembers⟩ := ih
      exact ⟨readsValue_succ helements hmembers, readsElements_succ hvalue helements,
        readsMembers_succ hvalue hmembers⟩

/-- `JSON.parse(JSON.stringify(x))` is `x`. -/
theorem parse_stringify (x : Json) (hx : x.Normal) : parse x.stringify = some x := by
  have hread := (reads (x.stringify.length + 1)).1 x hx [] (by simp [NumberEnd]) (by omega)
  rw [List.append_nil] at hread
  rw [parse, hread]
  rfl

/-- A newline after the text is skipped. -/
theorem parse_stringify_newline (x : Json) (hx : x.Normal) :
    parse (x.stringify ++ ['\n']) = some x := by
  have hend : NumberEnd ['\n'] := by
    intro c cs h
    obtain ⟨rfl, rfl⟩ := List.cons.inj h
    decide
  have hread := (reads ((x.stringify ++ ['\n']).length + 1)).1 x hx ['\n'] hend (by simp; omega)
  rw [parse, hread]
  rfl

theorem stringify_injective {x y : Json} (hx : x.Normal) (hy : y.Normal)
    (h : x.stringify = y.stringify) : x = y := by
  have hread := parse_stringify x hx
  rw [h, parse_stringify y hy] at hread
  exact (Option.some.inj hread).symm

/-- `Buffer.from(text, "utf8")` for a well-formed text. -/
def textBytes (cs : List Char) : ByteArray := (String.ofList cs).toByteArray

theorem textBytes_injective {cs ds : List Char} (h : textBytes cs = textBytes ds) : cs = ds :=
  String.ofList_injective (String.toByteArray_inj.mp h)

end Ecma

import RemoteOps.Ecma.JsonText
import RemoteOps.Ecma.NumberText
import RemoteOps.Ecma.Record

/-!
# The text of a value has no control characters

`JSON.stringify` escapes the control characters of strings and writes nothing else that is one.
Hence the text of a value is one line, and a line of a stream ends exactly where its text does
(`newline_notMem_stringify`). A message with fixed names is read as it was written
(`normal_object`).
-/

namespace Ecma

def isPrinted (c : Char) : Bool := 32 ≤ c.toNat

def IsPrinted (cs : List Char) : Prop := ∀ c ∈ cs, isPrinted c = true

instance decidableIsPrinted (cs : List Char) : Decidable (IsPrinted cs) :=
  List.decidableBAll (fun c => isPrinted c = true) cs

theorem isPrinted_null : IsPrinted Json.null.stringify := by decide

variable {cs ds : List Char}

theorem isPrinted_nil : IsPrinted [] := fun _ h => absurd h List.not_mem_nil

theorem isPrinted_cons {c : Char} : IsPrinted (c :: cs) ↔ isPrinted c = true ∧ IsPrinted cs :=
  List.forall_mem_cons

theorem isPrinted_append : IsPrinted (cs ++ ds) ↔ IsPrinted cs ∧ IsPrinted ds :=
  List.forall_mem_append

theorem isPrinted_hexChar {n : ℕ} (hn : n < 16) : isPrinted (hexChar n) = true := by
  interval_cases n <;> rfl

theorem isPrinted_unicodeEscape (u : CodeUnit) : IsPrinted (unicodeEscape u) := by
  have hu := u.toNat_lt
  simp only [unicodeEscape, isPrinted_cons]
  exact ⟨rfl, rfl, isPrinted_hexChar (by omega), isPrinted_hexChar (by omega),
    isPrinted_hexChar (by omega), isPrinted_hexChar (by omega), isPrinted_nil⟩

theorem isPrinted_quoteUnit (u : CodeUnit) : IsPrinted (quoteUnit u) := by
  unfold quoteUnit
  split_ifs with h₁ h₂ h₃ h₄ h₅ h₆ h₇ h₈
  case neg =>
    -- the only unit that is written as it is
    have hclass : ¬u < 32 ∧ ¬isSurrogate u = true := by
      rw [Bool.or_eq_true, not_or, decide_eq_true_eq] at h₈
      exact h₈
    have hlow : 32 ≤ u.toNat := not_lt.mp fun h => hclass.1 (UInt16.lt_iff_toNat_lt.mpr h)
    have hvalid : u.toNat.isValidChar := by
      have hsurrogate := hclass.2
      have hu := u.toNat_lt
      simp only [isSurrogate, Bool.and_eq_true, decide_eq_true_eq, UInt16.le_iff_toNat_le,
        UInt16.reduceToNat] at hsurrogate
      simp only [Nat.isValidChar]
      omega
    rw [isPrinted_cons]
    refine ⟨?_, isPrinted_nil⟩
    rw [isPrinted, toNat_ofNat hvalid]
    exact decide_eq_true hlow
  all_goals first
    | exact isPrinted_unicodeEscape u
    | decide

theorem isPrinted_quoteUnits (s : JsString) : IsPrinted (quoteUnits s) := by
  fun_induction quoteUnits s with
  | case1 => exact isPrinted_nil
  | case2 u => exact isPrinted_quoteUnit u
  | case3 hi lo rest hpair ih =>
      have hboth : isHighSurrogate hi = true ∧ isLowSurrogate lo = true := by simpa using hpair
      refine isPrinted_cons.mpr ⟨?_, ih⟩
      rw [isPrinted, (surrogate_pair hboth.1 hboth.2).1]
      exact decide_eq_true (by omega)
  | case4 hi lo rest _ ih => exact isPrinted_append.mpr ⟨isPrinted_quoteUnit hi, ih⟩

theorem isPrinted_quote (s : JsString) : IsPrinted (quote s) :=
  isPrinted_cons.mpr
    ⟨rfl, isPrinted_append.mpr ⟨isPrinted_quoteUnits s, isPrinted_cons.mpr ⟨rfl, isPrinted_nil⟩⟩⟩

theorem isPrinted_doubleText (x : Double) : IsPrinted (doubleText x) := by
  intro c hc
  have hnumeral := toNat_of_isNumeralChar (numeral_doubleText x c hc)
  exact decide_eq_true (by omega)

mutual

theorem isPrinted_stringify : ∀ x : Json, IsPrinted x.stringify
  | .null => isPrinted_null
  | .bool true => by decide
  | .bool false => by decide
  | .num (.finite x) => isPrinted_doubleText x
  | .num .nan => isPrinted_null
  | .num (.infinite _) => isPrinted_null
  | .str s => isPrinted_quote s
  | .arr xs => by
      rw [Json.stringify, isPrinted_cons, isPrinted_append]
      exact ⟨rfl, isPrinted_stringifyElements xs, isPrinted_cons.mpr ⟨rfl, isPrinted_nil⟩⟩
  | .obj ps => by
      rw [Json.stringify, isPrinted_cons, isPrinted_append]
      exact ⟨rfl, isPrinted_stringifyMembers ps, isPrinted_cons.mpr ⟨rfl, isPrinted_nil⟩⟩

theorem isPrinted_stringifyElements : ∀ xs : List Json, IsPrinted (stringifyElements xs)
  | [] => isPrinted_nil
  | x :: xs => by
      rw [stringifyElements, isPrinted_append]
      exact ⟨isPrinted_stringify x, isPrinted_stringifyRest xs⟩

theorem isPrinted_stringifyRest : ∀ xs : List Json, IsPrinted (stringifyRest xs)
  | [] => isPrinted_nil
  | x :: xs => by
      rw [stringifyRest, isPrinted_cons, isPrinted_append]
      exact ⟨rfl, isPrinted_stringify x, isPrinted_stringifyRest xs⟩

theorem isPrinted_stringifyMembers : ∀ ps : List (JsString × Json), IsPrinted (stringifyMembers ps)
  | [] => isPrinted_nil
  | p :: ps => by
      rw [stringifyMembers, isPrinted_append]
      exact ⟨isPrinted_stringifyMember p, isPrinted_stringifyMembersRest ps⟩

theorem isPrinted_stringifyMembersRest :
    ∀ ps : List (JsString × Json), IsPrinted (stringifyMembersRest ps)
  | [] => isPrinted_nil
  | p :: ps => by
      rw [stringifyMembersRest, isPrinted_cons, isPrinted_append]
      exact ⟨rfl, isPrinted_stringifyMember p, isPrinted_stringifyMembersRest ps⟩

theorem isPrinted_stringifyMember : ∀ p : JsString × Json, IsPrinted (stringifyMember p)
  | (k, x) => by
      rw [stringifyMember, isPrinted_append, isPrinted_cons]
      exact ⟨isPrinted_quote k, rfl, isPrinted_stringify x⟩

end

theorem newline_notMem_ofChars (h : IsPrinted cs) : (10 : CodeUnit) ∉ ofChars cs := by
  intro hmem
  obtain ⟨c, hc, hunit⟩ := List.mem_flatMap.mp hmem
  have hprinted : 32 ≤ c.toNat := of_decide_eq_true (h c hc)
  have hvalid : c.toNat < 0xD800 ∨ 0xDFFF < c.toNat ∧ c.toNat < 0x110000 := c.valid
  rw [unitsOfChar] at hunit
  have hten : (10 : CodeUnit).toNat = 10 := rfl
  split_ifs at hunit with hsmall
  · have heq := congrArg UInt16.toNat (List.mem_singleton.mp hunit)
    rw [hten, UInt16.toNat_ofNat'] at heq
    omega
  · simp only [List.mem_cons, List.not_mem_nil, or_false, ← UInt16.toNat_inj, hten,
      UInt16.toNat_ofNat'] at hunit
    omega

theorem newline_notMem_stringify (x : Json) : (10 : CodeUnit) ∉ ofChars x.stringify :=
  newline_notMem_ofChars (isPrinted_stringify x)

/-! ## Messages -/

/-- An object with the given names, none of which is an index. -/
theorem normal_object (names : List String) {ps : List (JsString × Json)}
    (hkeys : ps.map Prod.fst = names.map js)
    (hnames : (names.map js).Nodup ∧ ∀ key ∈ names.map js, isIndexKey key = none)
    (hvalues : ∀ q ∈ ps, q.2.Normal) : (Json.obj ps).Normal :=
  ⟨normalMembers_of_forall hvalues,
    fromEntries_eq_self (hkeys ▸ hnames.1) (hkeys ▸ hnames.2)⟩

end Ecma

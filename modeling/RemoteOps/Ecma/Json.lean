import RemoteOps.Ecma.Text
import RemoteOps.Ecma.Decimal

/-!
# JSON values and their conversions

`Json` is what `JSON.parse` returns: the values of the language that carry no
functions. The absence of a property is `none` in `Option Json`, so that
`undefined` needs no constructor. `Json.toStr` and `Json.toNum` are `String(x)`
and `Number(x)` on such values; they throw (`none`) on an object that owns a
property called `toString`, because that property is then not callable.
-/

namespace Ecma

inductive Json where
  | null
  | bool (b : Bool)
  | num (x : JsNumber)
  | str (s : JsString)
  | arr (xs : List Json)
  | obj (props : List (JsString × Json))

/-! ## Conversions that may fail -/

theorem ok_bind {ε α β : Type} (a : α) (f : α → Except ε β) : (Except.ok a >>= f) = f a := rfl

/-- A bind that succeeds has succeeded twice. -/
theorem bind_eq_ok {ε α β : Type} {x : Except ε α} {f : α → Except ε β} {y : β}
    (h : (x >>= f) = .ok y) : ∃ a, x = .ok a ∧ f a = .ok y := by
  cases x with
  | error e => exact absurd h (by simp [bind, Except.bind])
  | ok a => exact ⟨a, rfl, h⟩

theorem mapError_eq_ok {ε ε' α : Type} {f : ε → ε'} {x : Except ε α} {a : α}
    (h : x.mapError f = .ok a) : x = .ok a := by
  cases x with
  | error e => cases h
  | ok b => rw [Except.ok.inj h]

/-- Two results that agree as far as `f` tells both fail, with one error, or both succeed. -/
theorem except_map_eq_iff {ε α β : Type} {f : α → β} {x y : Except ε α} :
    x.map f = y.map f ↔
      (∃ e, x = .error e ∧ y = .error e) ∨ ∃ a b, x = .ok a ∧ y = .ok b ∧ f a = f b := by
  cases x <;> cases y <;> simp [Except.map, eq_comm]

/-- Results that agree as far as `f` tells are equal if what `f` leaves out is. -/
theorem except_eq_iff_of_map {ε α β γ : Type} {f : α → β} {g : α → γ} {x y : Except ε α}
    (hfg : ∀ a b, f a = f b → g a = g b → a = b) (h : x.map f = y.map f) :
    x = y ↔ x.map g = y.map g := by
  obtain ⟨e, rfl, rfl⟩ | ⟨a, b, rfl, rfl, hab⟩ := except_map_eq_iff.mp h
  · exact iff_of_true rfl rfl
  · constructor
    · intro heq
      rw [heq]
    · intro heq
      rw [hfg a b hab (Except.ok.inj heq)]

/-! ## Properties -/

/-- The value of the own property `k`. -/
def lookup {α : Type*} (k : JsString) : List (JsString × α) → Option α
  | [] => none
  | (k', x) :: ps => if k' = k then some x else lookup k ps

/-- `x[k]` on a value other than `null`; primitives and arrays own no property
of the names that are read here. -/
def Json.get (x : Json) (k : JsString) : Option Json :=
  match x with
  | .obj props => lookup k props
  | _ => none

/-- An array index written as a property key. -/
def isIndexKey (k : JsString) : Option ℕ :=
  match k with
  | [] => none
  | u :: us =>
      let n := k.foldl (fun acc v => 10 * acc + (v.toNat - 48)) 0
      if k.all isDigit && (u != unit '0' || us.isEmpty) && n < 2 ^ 32 - 1 then some n else none

/-- Insert a key that is not yet there. Index keys come first, in ascending
order, and the others in the order of insertion. -/
def insertProp {α : Type*} (k : JsString) (x : α) :
    List (JsString × α) → List (JsString × α)
  | [] => [(k, x)]
  | (k', x') :: ps =>
      match isIndexKey k, isIndexKey k' with
      | some n, some m => if n < m then (k, x) :: (k', x') :: ps else (k', x') :: insertProp k x ps
      | some _, none => (k, x) :: (k', x') :: ps
      | none, _ => (k', x') :: insertProp k x ps

/-- Overwrite the value of a key that is there. -/
def replaceProp {α : Type*} (k : JsString) (x : α) (ps : List (JsString × α)) :
    List (JsString × α) :=
  ps.map fun p => if p.1 = k then (p.1, x) else p

/-- `props[k] = x` on own properties. -/
def setProp {α : Type*} (k : JsString) (x : α) (ps : List (JsString × α)) :
    List (JsString × α) :=
  if (lookup k ps).isSome then replaceProp k x ps else insertProp k x ps

/-- The properties of an object whose members are read one after the other. -/
def fromEntries {α : Type*} (ps : List (JsString × α)) : List (JsString × α) :=
  ps.foldl (fun acc p => setProp p.1 p.2 acc) []

/-! ## `String(x)` and `Number(x)` -/

/-- The digits of a numeral in base `b`, most significant first. -/
def numeralValue (b : ℕ) (digit : CodeUnit → Option ℕ) : List CodeUnit → Option ℕ
  | [] => none
  | us => us.foldl (fun acc u => do return b * (← acc) + (← digit u)) (some 0)

def hexDigit (u : CodeUnit) : Option ℕ :=
  if isDigit u then some (u.toNat - 48)
  else if unit 'a' ≤ u && u ≤ unit 'f' then some (u.toNat - 87)
  else if unit 'A' ≤ u && u ≤ unit 'F' then some (u.toNat - 55)
  else none

def digitBelow (b : ℕ) (u : CodeUnit) : Option ℕ :=
  if isDigit u && u.toNat - 48 < b then some (u.toNat - 48) else none

/-- The decimal literals of `StringToNumber`: unlike JSON, leading zeros and a
missing integer or fraction part are allowed. -/
def looseDecimal (negative : Bool) (cs : List Char) : JsNumber :=
  if cs = "Infinity".toList then JsNumber.infinite negative
  else
    let is := cs.takeWhile isDigitChar
    let cs := cs.dropWhile isDigitChar
    let (fs, cs) := match cs with
      | '.' :: cs => (cs.takeWhile isDigitChar, cs.dropWhile isDigitChar)
      | cs => ([], cs)
    match parseExponent cs with
    | some (e, []) =>
        if is.isEmpty && fs.isEmpty then JsNumber.nan
        else JsNumber.ofDecimal negative (digitsValue (is ++ fs)) (e - fs.length)
    | _ => JsNumber.nan

/-- A numeral with a radix prefix. -/
def radixNumeral (v : Option ℕ) : JsNumber :=
  match v with
  | some n => JsNumber.ofDecimal false n 0
  | none => JsNumber.nan

/-- `Number(s)` for a string. -/
def numberOfString (s : JsString) : JsNumber :=
  match trim s with
  | [] => JsNumber.ofInt 0 inRange_zero
  | us =>
      if us.take 2 = js "0x" ∨ us.take 2 = js "0X" then
        radixNumeral (numeralValue 16 hexDigit (us.drop 2))
      else if us.take 2 = js "0o" ∨ us.take 2 = js "0O" then
        radixNumeral (numeralValue 8 (digitBelow 8) (us.drop 2))
      else if us.take 2 = js "0b" ∨ us.take 2 = js "0B" then
        radixNumeral (numeralValue 2 (digitBelow 2) (us.drop 2))
      else
        match toChars us with
        | '-' :: cs => looseDecimal true cs
        | '+' :: cs => looseDecimal false cs
        | cs => looseDecimal false cs

mutual

/-- `String(x)`. An array is its elements joined by commas. -/
def Json.toStr : Json → Option JsString
  | .null => some (js "null")
  | .bool b => some (if b then js "true" else js "false")
  | .num x => some (ofChars x.text)
  | .str s => some s
  | .arr xs => (elementsToStr xs).map (join (js ","))
  | .obj props =>
      if (lookup (js "toString") props).isSome then none else some (js "[object Object]")
  termination_by structural x => x

/-- The elements of an array as strings, `null` being empty. -/
def elementsToStr : List Json → Option (List JsString)
  | [] => some []
  | x :: xs => do
      let s ← match x with
        | .null => some []
        | x => x.toStr
      return s :: (← elementsToStr xs)
  termination_by structural xs => xs

end

/-- `Number(x)`. -/
def Json.toNum : Json → Option JsNumber
  | .null => some (JsNumber.ofInt 0 inRange_zero)
  | .bool b => some (if b then JsNumber.ofInt 1 inRange_one else JsNumber.ofInt 0 inRange_zero)
  | .num x => some x
  | .str s => some (numberOfString s)
  | .arr xs => ((Json.arr xs).toStr).map numberOfString
  | .obj props => if (lookup (js "toString") props).isSome then none else some JsNumber.nan

/-- `String(x ?? "")`. -/
def strOrEmpty : Option Json → Option JsString
  | none => some []
  | some .null => some []
  | some x => x.toStr

/-- `Number(x)` when `x` may be `undefined`. -/
def numOrNaN : Option Json → Option JsNumber
  | none => some JsNumber.nan
  | some x => x.toNum

@[simp] theorem strOrEmpty_str (s : JsString) : strOrEmpty (some (.str s)) = some s := rfl

@[simp] theorem numOrNaN_num (x : JsNumber) : numOrNaN (some (.num x)) = some x := rfl

example : (Json.arr [.null, .str (js "a"), .arr [.bool true, .null]]).toStr =
    some (js ",a,true,") := by decide

example : numberOfString (js " 0x10\n") = JsNumber.ofInt 16 (by decide) := by decide +kernel

end Ecma

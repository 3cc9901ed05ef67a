import RemoteOps.Ecma.Text

/-!
# Regular expressions

`Pattern` is the part of the regular expressions of the language that has neither groups to
read back nor look-around. A pattern is matched by backtracking: alternatives are tried from
left to right, and a repetition tries one more round first if it is greedy and last if it is
lazy. `replaceAll` replaces every match from left to right, as a search with the `g` flag does.
-/

namespace Ecma

/-- A place in a text: the units before it, the nearest first, and the units after it. -/
structure Cursor where
  before : JsString
  after : JsString
  deriving DecidableEq

inductive Pattern where
  | empty
  /-- one unit of a class -/
  | one (cls : CodeUnit → Bool)
  | seq (a b : Pattern)
  | alt (a b : Pattern)
  /-- from `lo` to `hi` rounds -/
  | rounds (lo : ℕ) (hi : Option ℕ) (greedy : Bool) (a : Pattern)
  /-- `\b` -/
  | wordBoundary
  /-- `^` and `$` under the `m` flag -/
  | lineStart
  | lineEnd

/-- `\w`. -/
def isWordUnit (u : CodeUnit) : Bool := isAlnum u || u == unit '_'

def isLineTerminator (u : CodeUnit) : Bool := u == 10 || u == 13 || u == 0x2028 || u == 0x2029

namespace Pattern

def endsWord (s : JsString) : Bool := s.head?.any isWordUnit

def endsLine (s : JsString) : Bool := s.head?.all isLineTerminator

/-- How a match goes on from the place that is reached. -/
abbrev Rest := Cursor → Option Cursor

/-- The rounds of a repetition. A round beyond the required ones must not be empty, so that
the units that are left bound their number. -/
def repeatRounds (round : Rest → Rest) (greedy : Bool) : ℕ → ℕ → Option ℕ → Rest → Rest
  | 0, lo, _, k, c => if lo = 0 then k c else none
  | fuel + 1, lo, hi, k, c =>
      if hi = some 0 then k c
      else
        let more := round (fun c' =>
          if lo = 0 ∧ c'.after.length = c.after.length then none
          else repeatRounds round greedy fuel (lo - 1) (hi.map (· - 1)) k c') c
        if lo ≠ 0 then more
        else if greedy then more.orElse fun _ => k c
        else (k c).orElse fun _ => more

/-- The place where the first match that lets the rest match ends. -/
def run : Pattern → Rest → Rest
  | empty, k, c => k c
  | one cls, k, c =>
      match c.after with
      | [] => none
      | u :: us => if cls u then k ⟨u :: c.before, us⟩ else none
  | seq a b, k, c => a.run (b.run k) c
  | alt a b, k, c => (a.run k c).orElse fun _ => b.run k c
  | rounds lo hi greedy a, k, c =>
      repeatRounds a.run greedy (c.after.length + lo + 1) lo hi k c
  | wordBoundary, k, c => if endsWord c.before = endsWord c.after then none else k c
  | lineStart, k, c => if endsLine c.before then k c else none
  | lineEnd, k, c => if endsLine c.after then k c else none

/-- Replace from a place on. After a match that is empty one unit is passed over. -/
def replaceFrom (p : Pattern) (new : JsString) : ℕ → Cursor → JsString
  | 0, c => c.after
  | fuel + 1, c =>
      match p.run some c, c.after with
      | none, [] => []
      | some _, [] => new
      | none, u :: us => u :: replaceFrom p new fuel ⟨u :: c.before, us⟩
      | some c', u :: us =>
          if c'.after.length = c.after.length then
            new ++ u :: replaceFrom p new fuel ⟨u :: c.before, us⟩
          else new ++ replaceFrom p new fuel c'

/-- `s.replace(p, by)` with the `g` flag. -/
def replaceAll (p : Pattern) (new s : JsString) : JsString :=
  replaceFrom p new (s.length + 1) ⟨[], s⟩

def foundFrom (p : Pattern) : JsString → JsString → Bool
  | before, [] => (p.run some ⟨before, []⟩).isSome
  | before, u :: us => (p.run some ⟨before, u :: us⟩).isSome || foundFrom p (u :: before) us

/-- `p.test(s)`. -/
def found (p : Pattern) (s : JsString) : Bool := foundFrom p [] s

/-! ## Spelling patterns -/

def lit (s : String) : Pattern := (js s).foldr (fun u p => seq (one (· == u)) p) empty

/-- A literal under the `i` flag. -/
def litAnyCase (s : String) : Pattern :=
  (asciiLower (js s)).foldr (fun u p => seq (one fun v => asciiLower [v] == [u]) p) empty

def optional (p : Pattern) : Pattern := rounds 0 (some 1) true p

/-- `[cls]{n,}`. -/
def atLeast (n : ℕ) (cls : CodeUnit → Bool) : Pattern := rounds n none true (one cls)

def exactly (n : ℕ) (cls : CodeUnit → Bool) : Pattern := rounds n (some n) true (one cls)

def all (ps : List Pattern) : Pattern := ps.foldr seq empty

/-- `a|b|..`. -/
def any : List Pattern → Pattern
  | [] => one fun _ => false
  | [p] => p
  | p :: ps => alt p (any ps)

end Pattern

example : (Pattern.all [.wordBoundary, .lit "ab", .atLeast 2 isDigit, .wordBoundary]).replaceAll
    (js "?") (js "ab12 xab12 ab1 ab345!") = js "? xab12 ab1 ?!" := by decide +kernel

end Ecma

import RemoteOps.Ecma.Text

/-!
# Words of a shell command line

A POSIX shell splits a command line into words at unquoted blanks. Between single
quotes every character stands for itself; outside, a backslash quotes the next
character. Any other unquoted character with a meaning of its own (an operator, a
newline, an expansion, a pattern) makes the line more than a list of words, and
then `words` has no value. A word keeps which of its characters were quoted: the
shell expands only the others.
-/

namespace Shell

open Ecma

/-- A character of a word. -/
structure Mark where
  unit : CodeUnit
  quoted : Bool
  deriving DecidableEq

abbrev Word := List Mark

def Word.text (w : Word) : JsString := w.map Mark.unit

/-- A word all of whose characters are quoted. -/
def literal (s : JsString) : Word := s.map fun u => ⟨u, true⟩

@[simp] theorem text_literal (s : JsString) : (literal s).text = s := by
  rw [Word.text, literal, List.map_map]
  exact List.map_id s

theorem literal_injective : Function.Injective literal := by
  intro s t h
  rw [← text_literal s, h, text_literal]

def blank : CodeUnit := unit ' '

def apostrophe : CodeUnit := 39

def backslash : CodeUnit := 92

def newline : CodeUnit := 10

def isBlank (u : CodeUnit) : Bool := u == blank || u == 9

/-- The characters that have a meaning when they are not quoted. -/
def isSpecial (u : CodeUnit) : Bool :=
  u == newline || u == 34 || u == 96 || isOneOf "|&;<>()$*?[]#~=%!" u || u == 123 || u == 125

/-- Where a scan stands: between words, in a word, or in a single-quoted part. -/
inductive Mode where
  | between
  | bare
  | quoted

/-- One more character of the word that is being read. -/
def push (m : Mark) : List Word → List Word
  | [] => [[m]]
  | w :: ws => (m :: w) :: ws

/-- The words of the rest of a line. In a word, the first one is what is left of it. -/
def scan : Mode → JsString → Option (List Word)
  | .between, [] => some []
  | .bare, [] => some [[]]
  | .quoted, [] => none
  | .quoted, u :: s =>
      if u = apostrophe then scan .bare s else (scan .quoted s).map (push ⟨u, true⟩)
  | .between, u :: s =>
      if isBlank u then scan .between s
      else if u = apostrophe then scan .quoted s
      else if u = backslash then
        match s with
        | [] => none
        | v :: t =>
            if v = newline then scan .between t else (scan .bare t).map (push ⟨v, true⟩)
      else if isSpecial u then none
      else (scan .bare s).map (push ⟨u, false⟩)
  | .bare, u :: s =>
      if isBlank u then (scan .between s).map ([] :: ·)
      else if u = apostrophe then scan .quoted s
      else if u = backslash then
        match s with
        | [] => none
        | v :: t => if v = newline then scan .bare t else (scan .bare t).map (push ⟨v, true⟩)
      else if isSpecial u then none
      else (scan .bare s).map (push ⟨u, false⟩)

/-- A command line has no NUL. -/
def words (line : JsString) : Option (List Word) :=
  if 0 ∈ line then none else scan .between line

/-! ## Reading a quoted word -/

@[simp] theorem scan_quoted_apostrophe (s : JsString) :
    scan .quoted (apostrophe :: s) = scan .bare s := by
  rw [scan, if_pos rfl]

theorem scan_quoted_cons {u : CodeUnit} (hu : u ≠ apostrophe) (s : JsString) :
    scan .quoted (u :: s) = (scan .quoted s).map (push ⟨u, true⟩) := by
  rw [scan, if_neg hu]

theorem scan_bare_apostrophe (s : JsString) :
    scan .bare (apostrophe :: s) = scan .quoted s := by
  rw [scan.eq_def]
  dsimp only
  rw [if_neg (by decide), if_pos rfl]

theorem scan_between_apostrophe (s : JsString) :
    scan .between (apostrophe :: s) = scan .quoted s := by
  rw [scan.eq_def]
  dsimp only
  rw [if_neg (by decide), if_pos rfl]

theorem scan_bare_blank (s : JsString) :
    scan .bare (blank :: s) = (scan .between s).map ([] :: ·) := by
  rw [scan.eq_def]
  exact if_pos (by decide)

theorem scan_bare_escape {u : CodeUnit} (hu : u ≠ newline) (s : JsString) :
    scan .bare (backslash :: u :: s) = (scan .bare s).map (push ⟨u, true⟩) := by
  rw [scan, if_neg (by decide), if_neg (by decide), if_pos rfl]
  exact if_neg hu

/-- An escaped quote between two quoted parts. -/
theorem scan_quoted_escape (s : JsString) :
    scan .quoted (apostrophe :: backslash :: apostrophe :: apostrophe :: s) =
      (scan .quoted s).map (push ⟨apostrophe, true⟩) := by
  rw [scan_quoted_apostrophe, scan_bare_escape (by decide), scan_bare_apostrophe]

/-- The characters of a text in front of the word that is being read. -/
def pushAll (w : Word) (ws : List Word) : List Word := w.foldr push ws

theorem pushAll_cons (w v : Word) (ws : List Word) : pushAll w (v :: ws) = (w ++ v) :: ws := by
  induction w with
  | nil => rfl
  | cons m w ih => rw [pushAll, List.foldr_cons, ← pushAll, ih]; rfl

end Shell

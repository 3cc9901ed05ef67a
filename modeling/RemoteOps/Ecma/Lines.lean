import RemoteOps.Ecma.Text
import Mathlib.Data.List.DropRight

/-!
# Lines and their endings

`textLines` reads a text as the lines between the matches of `\r?\n`, each with the match that
ended it, so that nothing of the text is lost (`flatMap_textLines`). `joinsBack_iff` says when
lines that are joined by line feeds are the lines with the endings they had.
-/

namespace Ecma

def lineFeed : CodeUnit := 10

def carriageReturn : CodeUnit := 13

/-- A line and the line ending behind it, which is empty at the end of a text. -/
structure TextLine where
  content : JsString
  ending : JsString
  deriving DecidableEq

def TextLine.text (l : TextLine) : JsString := l.content ++ l.ending

/-- A unit in front of lines. A carriage return joins a line feed that begins them. -/
def TextLine.cons (u : CodeUnit) : List TextLine → List TextLine
  | [] => [⟨[u], []⟩]
  | l :: ls =>
      if u = carriageReturn ∧ l.content = [] ∧ l.ending = [lineFeed] then
        ⟨[], [carriageReturn, lineFeed]⟩ :: ls
      else ⟨u :: l.content, l.ending⟩ :: ls

def textLines : JsString → List TextLine
  | [] => [⟨[], []⟩]
  | u :: s =>
      if u = lineFeed then ⟨[], [lineFeed]⟩ :: textLines s else TextLine.cons u (textLines s)

/-- `s.split(/\r?\n/)`. -/
def splitLines (s : JsString) : List JsString := (textLines s).map TextLine.content

theorem flatMap_cons_text (u : CodeUnit) (ls : List TextLine) :
    (TextLine.cons u ls).flatMap TextLine.text = u :: ls.flatMap TextLine.text := by
  cases ls with
  | nil => rfl
  | cons l ls =>
      rw [TextLine.cons]
      split
      · next h =>
          obtain ⟨rfl, hcontent, hending⟩ := h
          rw [List.flatMap_cons, List.flatMap_cons, TextLine.text, TextLine.text, hcontent, hending]
          rfl
      · rw [List.flatMap_cons, List.flatMap_cons, TextLine.text, TextLine.text]
        rfl

theorem flatMap_textLines (s : JsString) : (textLines s).flatMap TextLine.text = s := by
  induction s with
  | nil => rfl
  | cons u s ih =>
      rw [textLines]
      split
      · next h =>
          rw [List.flatMap_cons, ih, h]
          rfl
      · rw [flatMap_cons_text, ih]

theorem lineFeed_notMem_cons {u : CodeUnit} (hu : u ≠ lineFeed) {ls : List TextLine}
    (h : ∀ l ∈ ls, lineFeed ∉ l.content) : ∀ l ∈ TextLine.cons u ls, lineFeed ∉ l.content := by
  cases ls with
  | nil => simpa [TextLine.cons] using hu.symm
  | cons l ls =>
      rw [List.forall_mem_cons] at h
      rw [TextLine.cons]
      split
      · exact List.forall_mem_cons.mpr ⟨List.not_mem_nil, h.2⟩
      · exact List.forall_mem_cons.mpr ⟨by simp [hu.symm, h.1], h.2⟩

theorem lineFeed_notMem_textLines (s : JsString) :
    ∀ l ∈ textLines s, lineFeed ∉ l.content := by
  induction s with
  | nil => simp [textLines]
  | cons u s ih =>
      rw [textLines]
      split
      · exact List.forall_mem_cons.mpr ⟨List.not_mem_nil, ih⟩
      · next h => exact lineFeed_notMem_cons h ih

def isLineEnding (s : JsString) : Prop := s = [lineFeed] ∨ s = [carriageReturn, lineFeed]

/-- Every line with a line behind it is ended. -/
def Ended : List TextLine → Prop
  | [] => True
  | l :: ls => (ls ≠ [] → isLineEnding l.ending) ∧ Ended ls

theorem ended_cons {ls : List TextLine} (h : Ended ls) (u : CodeUnit) :
    Ended (TextLine.cons u ls) := by
  cases ls with
  | nil => exact ⟨fun hne => absurd rfl hne, trivial⟩
  | cons l ls =>
      rw [TextLine.cons]
      split
      · exact ⟨fun _ => Or.inr rfl, h.2⟩
      · exact ⟨h.1, h.2⟩

theorem ended_textLines (s : JsString) : Ended (textLines s) := by
  induction s with
  | nil => exact ⟨fun hne => absurd rfl hne, trivial⟩
  | cons u s ih =>
      rw [textLines]
      split
      · exact ⟨fun _ => Or.inl rfl, ih⟩
      · exact ended_cons ih u

theorem ended_filter {ls : List TextLine} (h : Ended ls) (q : TextLine → Bool) :
    Ended (ls.filter q) := by
  induction ls with
  | nil => exact trivial
  | cons l ls ih =>
      rw [List.filter_cons]
      split
      · refine ⟨fun hne => h.1 fun hnil => hne ?_, ih h.2⟩
        rw [hnil]
        rfl
      · exact ih h.2

/-- A line feed behind every line that has a line behind it, and nothing behind the last. -/
def EndingsAreFeeds : List TextLine → Prop
  | [] => True
  | l :: ls => l.ending = (if ls = [] then [] else [lineFeed]) ∧ EndingsAreFeeds ls

/-- Lines that are joined by line feeds are the lines with the endings they had exactly if these
are line feeds. -/
theorem joinsBack_iff {ls : List TextLine} (h : Ended ls) :
    join [lineFeed] (ls.map TextLine.content) = ls.flatMap TextLine.text ↔ EndingsAreFeeds ls := by
  induction ls with
  | nil => exact iff_of_true rfl trivial
  | cons l ls ih =>
      rw [List.flatMap_cons, List.map_cons, EndingsAreFeeds, TextLine.text]
      by_cases hlast : ls = []
      · rw [hlast, if_pos rfl, List.map_nil, List.flatMap_nil, List.append_nil, join]
        rw [List.self_eq_append_right]
        exact (and_iff_left trivial).symm
      · rw [if_neg hlast, join_cons (by simpa using hlast), ← ih h.2, List.append_assoc,
          List.append_assoc, List.append_cancel_left_eq]
        obtain hfeed | hreturn := h.1 hlast
        · rw [hfeed, List.append_cancel_left_eq]
          exact (and_iff_right rfl).symm
        · have hne : carriageReturn ≠ lineFeed := by decide
          rw [hreturn]
          constructor
          · intro heq
            exact absurd (List.cons.inj heq).1.symm hne
          · rintro ⟨heq, -⟩
            exact absurd (List.cons.inj heq).1 hne

/-! ## The first line of a trimmed text -/

/-- `s.trim().split("\n")[0]`. -/
def headLine (s : JsString) : JsString := (splitUnit lineFeed (trim s)).headD []

theorem headD_splitUnit (c : CodeUnit) (s : JsString) :
    (splitUnit c s).headD [] = s.takeWhile (· ≠ c) := by
  induction s with
  | nil => rfl
  | cons u s ih =>
      rw [splitUnit, List.takeWhile_cons]
      by_cases h : u = c
      · rw [if_pos h, if_neg (by simpa using h)]
        rfl
      · rw [if_neg h, if_pos (by simpa using h), ← ih]
        cases hs : splitUnit c s with
        | nil => exact absurd hs (splitUnit_ne_nil c s)
        | cons w ws => rfl

/-- `s` is the beginning of `t` that is left when white space at the end, and then everything from
the first line feed on, is dropped. -/
def CutsTo (t s : JsString) : Prop :=
  lineFeed ∉ s ∧
    ((s.rdropWhile isWhite = s ∧ ∃ w, t = s ++ w ∧ ∀ u ∈ w, isWhite u = true) ∨
      ∃ m, t = s ++ lineFeed :: m ∧ ∃ u ∈ m, isWhite u = false)

theorem trim_of_head {u : CodeUnit} (hu : isWhite u = false) (s : JsString) :
    trim (u :: s) = (u :: s).rdropWhile isWhite := by
  rw [trim, List.dropWhile_cons_of_neg (by rw [hu]; exact Bool.false_ne_true)]
  rfl

theorem rdropWhile_append_white {w : JsString} (hw : ∀ u ∈ w, isWhite u = true) (s : JsString) :
    (s ++ w).rdropWhile isWhite = s.rdropWhile isWhite := by
  induction w using List.reverseRecOn with
  | nil => rw [List.append_nil]
  | append_singleton w u ih =>
      rw [List.forall_mem_append, List.forall_mem_singleton] at hw
      rw [← List.append_assoc, List.rdropWhile_concat_pos _ _ _ hw.2, ih hw.1]

/-- Text with something that is not white behind it is not trimmed. -/
theorem rdropWhile_append {m : JsString} (hm : ∃ u ∈ m, isWhite u = false) (s : JsString) :
    (s ++ m).rdropWhile isWhite = s ++ m.rdropWhile isWhite := by
  obtain ⟨u, hu, hwhite⟩ := hm
  have hne : m.reverse.dropWhile isWhite ≠ [] := by
    intro hnil
    rw [List.dropWhile_eq_nil_iff.mp hnil u (List.mem_reverse.mpr hu)] at hwhite
    cases hwhite
  rw [List.rdropWhile, List.reverse_append, List.dropWhile_append, if_neg (by simpa using hne),
    List.reverse_append, List.reverse_reverse]
  rfl

theorem takeWhile_append_feed {s : JsString} (h : lineFeed ∉ s) (m : JsString) :
    (s ++ lineFeed :: m).takeWhile (· ≠ lineFeed) = s := by
  rw [List.takeWhile_append_of_pos, List.takeWhile_cons_of_neg (by simp), List.append_nil]
  intro u hu
  simpa using ne_of_mem_of_not_mem hu h

theorem takeWhile_of_notMem {s : JsString} (h : lineFeed ∉ s) :
    s.takeWhile (· ≠ lineFeed) = s := by
  rw [List.takeWhile_eq_self_iff]
  intro u hu
  simpa using ne_of_mem_of_not_mem hu h

/-- The first line of a text, printed with a line feed behind it, that begins with no white
space. -/
theorem headLine_eq_iff {u : CodeUnit} (hu : isWhite u = false) {t s : JsString} :
    headLine (u :: t ++ [lineFeed]) = s ↔ CutsTo (u :: t) s := by
  have hfeed : isWhite lineFeed = true := by decide
  rw [headLine, List.cons_append, trim_of_head hu, ← List.cons_append,
    List.rdropWhile_concat_pos _ _ _ hfeed, headD_splitUnit]
  generalize u :: t = text
  constructor
  · rintro rfl
    have happend := List.rdropWhile_append_rtakeWhile (p := isWhite) (l := text)
    have hwhite : ∀ u ∈ text.rtakeWhile isWhite, isWhite u = true := fun _ =>
      List.mem_rtakeWhile_imp
    have hidem := List.rdropWhile_idempotent isWhite text
    generalize text.rdropWhile isWhite = trimmed at happend hidem ⊢
    generalize text.rtakeWhile isWhite = w at happend hwhite
    refine ⟨fun hmem => by simpa using List.mem_takeWhile_imp hmem, ?_⟩
    by_cases hmem : lineFeed ∈ trimmed
    · obtain ⟨s, m, rfl, hs⟩ := List.eq_append_cons_of_mem hmem
      rw [takeWhile_append_feed hs]
      refine Or.inr ⟨m ++ w, by rw [← happend]; simp, ?_⟩
      -- the end of the trimmed text is behind its first line feed
      by_contra hall
      simp only [not_exists, not_and, Bool.not_eq_false] at hall
      have hfeeds : ∀ u ∈ lineFeed :: m, isWhite u = true :=
        List.forall_mem_cons.mpr ⟨hfeed, fun u hu => hall u (List.mem_append_left _ hu)⟩
      rw [rdropWhile_append_white hfeeds] at hidem
      have hlength := (List.rdropWhile_prefix isWhite s).length_le
      rw [hidem, List.length_append, List.length_cons] at hlength
      omega
    · rw [takeWhile_of_notMem hmem]
      exact Or.inl ⟨hidem, w, happend.symm, hwhite⟩
  · rintro ⟨hnone, ⟨hlast, w, rfl, hwhite⟩ | ⟨m, rfl, v, hv, hvwhite⟩⟩
    · rw [rdropWhile_append_white hwhite, hlast, takeWhile_of_notMem hnone]
    · rw [rdropWhile_append ⟨v, List.mem_cons_of_mem _ hv, hvwhite⟩, ← List.singleton_append,
        rdropWhile_append ⟨v, hv, hvwhite⟩]
      exact takeWhile_append_feed hnone _

end Ecma

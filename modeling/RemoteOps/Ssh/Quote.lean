import RemoteOps.Shell.Words

/-!
# Building a remote command

`buildRemoteCommand` turns an argument list into the line that the shell of the
remote host reads. Each argument is put between single quotes, and a quote inside
it leaves the quotes, is escaped, and enters them again.
-/

namespace RemoteOps

open Ecma Shell

/-- `s.replace(/'/g, "'\\''")`. -/
def escapeQuotes (s : JsString) : JsString :=
  s.flatMap fun u => if u = apostrophe then [apostrophe, backslash, apostrophe, apostrophe] else [u]

def shq (s : JsString) : JsString := [apostrophe] ++ escapeQuotes s ++ [apostrophe]

def buildRemoteCommand (argv : List JsString) : JsString := join [blank] (argv.map shq)

/-! ## The shell reads the arguments back -/

/-- Between quotes, an escaped text is read as itself. -/
theorem scan_escapeQuotes (w rest : JsString) :
    scan .quoted (escapeQuotes w ++ rest) =
      (scan .quoted rest).map (pushAll (literal w)) := by
  induction w with
  | nil => exact (Option.map_id' (x := scan .quoted rest)).symm
  | cons u w ih =>
      have hpush : ∀ x : Option (List Word), (x.map (pushAll (literal w))).map (push ⟨u, true⟩) =
          x.map (pushAll (literal (u :: w))) := by
        intro x
        rw [Option.map_map]
        rfl
      by_cases hu : u = apostrophe
      · have hescape : escapeQuotes (u :: w) ++ rest =
            apostrophe :: backslash :: apostrophe :: apostrophe :: (escapeQuotes w ++ rest) := by
          simp [escapeQuotes, hu]
        rw [hescape, scan_quoted_escape, ih, ← hu, hpush]
      · have hplain : escapeQuotes (u :: w) ++ rest = u :: (escapeQuotes w ++ rest) := by
          simp [escapeQuotes, hu]
        rw [hplain, scan_quoted_cons hu, ih, hpush]

/-- A quoted argument at the start of a word. -/
theorem scan_shq (w rest : JsString) :
    scan .between (shq w ++ rest) = (scan .bare rest).map (pushAll (literal w)) := by
  have hshq : shq w ++ rest = apostrophe :: (escapeQuotes w ++ apostrophe :: rest) := by
    simp [shq]
  rw [hshq, scan_between_apostrophe, scan_escapeQuotes, scan_quoted_apostrophe]

theorem scan_buildRemoteCommand (argv : List JsString) :
    scan .between (buildRemoteCommand argv) = some (argv.map literal) := by
  unfold buildRemoteCommand
  induction argv with
  | nil => rfl
  | cons w argv ih =>
      cases argv with
      | nil =>
          rw [List.map_singleton, join, ← List.append_nil (shq w), scan_shq]
          simp [scan, pushAll_cons]
      | cons v argv =>
          rw [List.map_cons, List.map_cons, join, List.append_assoc, scan_shq,
            List.singleton_append, scan_bare_blank, ← List.map_cons, ih]
          simp [pushAll_cons]

theorem mem_escapeQuotes {u : CodeUnit} {s : JsString} (h : u ∈ escapeQuotes s) :
    u ∈ s ∨ u = apostrophe ∨ u = backslash := by
  obtain ⟨v, hv, hu⟩ := List.mem_flatMap.mp h
  split_ifs at hu with hquote
  · simp only [List.mem_cons, List.not_mem_nil, or_false] at hu
    tauto
  · rw [List.mem_singleton.mp hu]
    exact .inl hv

/-- The characters of the line are those of the arguments, quotes, backslashes and
blanks. -/
theorem mem_buildRemoteCommand {u : CodeUnit} {argv : List JsString}
    (h : u ∈ buildRemoteCommand argv) :
    (∃ w ∈ argv, u ∈ w) ∨ u = apostrophe ∨ u = backslash ∨ u = blank := by
  have hshq : ∀ w, u ∈ shq w → u ∈ w ∨ u = apostrophe ∨ u = backslash := by
    intro w hw
    simp only [shq, List.mem_append, List.mem_singleton] at hw
    rcases hw with (hw | hw) | hw
    · exact .inr (.inl hw)
    · exact mem_escapeQuotes hw
    · exact .inr (.inl hw)
  unfold buildRemoteCommand at h
  induction argv with
  | nil => cases h
  | cons w argv ih =>
      cases argv with
      | nil =>
          rcases hshq w h with hw | hw | hw
          · exact .inl ⟨w, by simp, hw⟩
          · exact .inr (.inl hw)
          · exact .inr (.inr (.inl hw))
      | cons v argv =>
          simp only [List.map_cons, join, List.append_assoc, List.mem_append] at h
          rcases h with hw | hsep | hrest
          · rcases hshq w hw with hw | hw | hw
            · exact .inl ⟨w, by simp, hw⟩
            · exact .inr (.inl hw)
            · exact .inr (.inr (.inl hw))
          · exact .inr (.inr (.inr (List.mem_singleton.mp hsep)))
          · rcases ih hrest with ⟨x, hx, hu⟩ | hquote
            · exact .inl ⟨x, List.mem_cons_of_mem _ hx, hu⟩
            · exact .inr hquote

/-- Without NUL, which no argument of a process can have. -/
def NulFree (argv : List JsString) : Prop := ∀ w ∈ argv, (0 : CodeUnit) ∉ w

theorem NulFree.buildRemoteCommand {argv : List JsString} (h : NulFree argv) :
    (0 : CodeUnit) ∉ RemoteOps.buildRemoteCommand argv := by
  intro hmem
  rcases mem_buildRemoteCommand hmem with ⟨w, hw, h0⟩ | h0 | h0 | h0
  · exact h w hw h0
  · exact absurd h0 (by decide)
  · exact absurd h0 (by decide)
  · exact absurd h0 (by decide)

/-- The shell splits the line into exactly the arguments, all of whose characters
are quoted; so no two argument lists give the same line. -/
theorem words_buildRemoteCommand (argv : List JsString) (h : NulFree argv) :
    words (buildRemoteCommand argv) = some (argv.map literal) ∧
      (argv.map literal).map Word.text = argv ∧
        ∀ argv', NulFree argv' → buildRemoteCommand argv' = buildRemoteCommand argv →
          argv' = argv := by
  have hwords : ∀ xs, NulFree xs → words (buildRemoteCommand xs) = some (xs.map literal) := by
    intro xs hxs
    rw [words, if_neg hxs.buildRemoteCommand, scan_buildRemoteCommand]
  refine ⟨hwords argv h, ?_, fun argv' h' heq => ?_⟩
  · rw [List.map_map]
    exact List.map_id'' text_literal argv
  · have hsame : argv'.map literal = argv.map literal := by
      rw [← Option.some_inj, ← hwords argv' h', ← hwords argv h, heq]
    exact List.map_injective_iff.mpr literal_injective hsame

theorem words_buildRemoteCommand_quote :
    words (buildRemoteCommand [js "-a'; b", [], js "c\nd"]) =
        some [literal (js "-a'; b"), [], literal (js "c\nd")] ∧
      NulFree [js "-a'; b", [], js "c\nd"] := by
  have hfree : NulFree [js "-a'; b", [], js "c\nd"] := by
    intro w hw
    simp only [List.mem_cons, List.not_mem_nil, or_false] at hw
    rcases hw with rfl | rfl | rfl <;> decide
  exact ⟨(words_buildRemoteCommand _ hfree).1, hfree⟩

end RemoteOps

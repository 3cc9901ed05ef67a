import RemoteOps.Privileged.Broker
import RemoteOps.Security.RemotePaths

/-!
# The containment tests

Five functions test a path against a list of roots. `rootTestsAgree_iff` compares each of them with
one statement about segments: some root leads to a place on the way to the path.
-/

namespace RemoteOps

open Ecma Posix

/-! ## What is claimed of the tests -/

/-- The segments of some root are the first segments of the path. -/
def InRoots (roots : List JsString) (l : List FileName) : Prop :=
  ∃ root ∈ roots, resolvePath [] root <+: l

/-- `fs.realpathSync` of the host of the broker. -/
def hostRealpath (fs : HostFiles) (limit : ℕ) (cwd : List FileName) : RealPath := fun path =>
  match fs.resolve false limit [] (downs (resolvePath cwd path)) with
  | .ok (l, _) => .ok (placeText l)
  | .error _ => .error "ENOENT: no such file or directory"

def Yields {ε α : Type} (x : Except ε α) : Prop := ∃ a, x = .ok a

/-- The five tests accept a clean path exactly if it is in the roots. -/
structure RootTestsAgree (fs : HostFiles) (limit : ℕ) (cwd : List FileName) (run : RemoteRun)
    (target : TargetConfig) (label : JsString) (roots : List JsString) (l : List FileName) :
    Prop where
  configured : Yields (assertConfiguredPath (pathText l) roots label) ↔ InRoots roots l
  checkedPath : Yields (resolveCheckedPath (pathText l) { target with allowedPaths := roots } run)
    ↔ InRoots roots l
  processCwd : Yields (resolveCheckedProcessCwd (pathText l)
    { target with allowedProcessCwds := roots } run) ↔ InRoots roots l
  lexical : cwdLexicallyAllowed (pathText l) roots = true ↔ InRoots roots l
  broker : Yields (cwdAllowed (hostRealpath fs limit cwd) roots (pathText l)) ↔ InRoots roots l

/-! ## A file system without links -/

section Links

variable {fs : HostFiles} {limit : ℕ} {cwd : List FileName}

/-- Without links a path leads to the place of its names, if something stands there. -/
theorem resolve_downs_of_no_links (hlinks : ∀ l, fs.isLink l = false) (l : List FileName) :
    (fs.stands l = true ∧ fs.resolve false limit [] (downs l) = .ok (l, limit)) ∨
      (fs.stands l = false ∧ ∃ e, fs.resolve false limit [] (downs l) = .error e) := by
  cases hstands : fs.stands l with
  | true => exact Or.inl ⟨rfl, FileSystem.resolve_downs ⟨hlinks l, Or.inl hstands⟩ false limit⟩
  | false =>
      refine Or.inr ⟨rfl, ?_⟩
      induction l using List.reverseRecOn with
      | nil =>
          rw [FileSystem.stands, fs.root] at hstands
          cases hstands
      | append_singleton l n ih =>
          rw [downs_append, FileSystem.resolve_append _ _ _ _ _ (by simp [downs])]
          cases hl : fs.stands l with
          | false =>
              obtain ⟨e, he⟩ := ih hl
              rw [he]
              exact ⟨e, rfl⟩
          | true =>
              rw [FileSystem.resolve_downs ⟨hlinks l, Or.inl hl⟩ false limit]
              cases hdir : fs.isDir l with
              | true =>
                  refine ⟨.noent, ?_⟩
                  exact (FileSystem.resolve_down hdir (hlinks _)).trans (by rw [hstands]; rfl)
              | false => exact ⟨.notdir, FileSystem.resolve_cons_of_not_dir hdir _ _⟩

theorem hostRealpath_of_no_links (hlinks : ∀ l, fs.isLink l = false) (path : JsString) :
    hostRealpath fs limit cwd path =
      if fs.stands (resolvePath cwd path) then .ok (placeText (resolvePath cwd path))
      else .error "ENOENT: no such file or directory" := by
  rw [hostRealpath]
  obtain ⟨hstands, h⟩ | ⟨hstands, e, h⟩ :=
    @resolve_downs_of_no_links fs limit hlinks (resolvePath cwd path)
  · rw [h, hstands]
    rfl
  · rw [h, hstands]
    rfl

end Links

/-! ## The names of a text -/

theorem lexical_append (names : List FileName) (ws vs : List JsString) :
    lexical names (ws ++ vs) = lexical (lexical names ws) vs := by
  induction ws generalizing names with
  | nil => rfl
  | cons w ws ih =>
      rw [List.cons_append, lexical, lexical]
      split
      · exact ih _
      · split
        · exact ih _
        · exact ih _

theorem lexical_nil_segment (names : List FileName) : lexical names [[]] = names := rfl

theorem lexical_names (names l : List FileName) :
    lexical names (l.map FileName.text) = names ++ l := by
  induction l generalizing names with
  | nil => exact (List.append_nil names).symm
  | cons n l ih =>
      rw [List.map_cons, lexical, if_neg n.text_ne_up, dif_pos n.valid, ih, List.append_assoc,
        List.singleton_append]

theorem lexical_pathText (l : List FileName) : lexical [] (pathSegments (pathText l)) = l := by
  rw [pathSegments_pathText, ← List.singleton_append, lexical_append, lexical_nil_segment,
    lexical_names, List.nil_append]

/-- Slashes at the end of a text add no names. -/
theorem lexical_dropTrailing (names : List FileName) (s : JsString) :
    lexical names (pathSegments (dropTrailing (unit '/') s)) = lexical names (pathSegments s) := by
  induction s using List.reverseRecOn with
  | nil => rfl
  | append_singleton s u ih =>
      by_cases hu : u = unit '/'
      · have hdrop : dropTrailing (unit '/') (s ++ [u]) = dropTrailing (unit '/') s :=
          List.rdropWhile_concat_pos _ _ _ (by simpa using hu)
        have hempty : pathSegments [] = [[]] := rfl
        rw [hdrop, ih, hu, pathSegments_append_slash, hempty, lexical_append, lexical_nil_segment]
      · rw [dropTrailing_append_singleton hu]

theorem resolvePath_of_absolute {path : JsString} (h : startsWith path (js "/") = true)
    (cwd : List FileName) : resolvePath cwd path = resolvePath [] path := by
  rw [resolvePath, resolvePath, if_pos h, if_pos h]

theorem placeText_of_ne_nil {l : List FileName} (h : l ≠ []) : placeText l = pathText l :=
  if_neg h

theorem resolvePath_pathText {l : List FileName} (h : l ≠ []) (cwd : List FileName) :
    resolvePath cwd (pathText l) = l := by
  have habsolute := placeText_absolute l
  rw [placeText_of_ne_nil h] at habsolute
  rw [resolvePath, if_pos habsolute, lexical_pathText]

/-- A root that is written as the path of `r`, with slashes at its end, leads there. -/
theorem resolvePath_plain {root : JsString} {r : List FileName}
    (h : dropTrailing (unit '/') root = pathText r) : resolvePath [] root = r := by
  rw [resolvePath, ite_self, ← lexical_dropTrailing, h, lexical_pathText]

theorem inRoots_of_underRoot {roots : List JsString} {l : List FileName}
    (h : UnderRoot roots l) : InRoots roots l := by
  obtain ⟨root, hroot, r, hr, hpre⟩ := h
  exact ⟨root, hroot, by rwa [resolvePath_plain hr]⟩

theorem isInsideSome_iff {roots : List JsString} {l : List FileName} :
    isInsideSome roots (placeText l) = true ↔ UnderRoot roots l := by
  constructor
  · exact underRoot_of_isInsideSome
  · rintro ⟨root, hroot, hinside⟩
    exact List.any_eq_true.mpr ⟨root, hroot, isInsideRoot_dropTrailing.mpr hinside⟩

/-! ## What each test accepts -/

section Tests

variable {fs : HostFiles} {limit : ℕ} {cwd : List FileName} {run : RemoteRun}
  {target : TargetConfig} {label : JsString} {roots : List JsString} {l : List FileName}

/-- What the claim says of the path, as far as the tests depend on it. -/
structure CleanPath (l : List FileName) : Prop where
  ne_nil : l ≠ []
  length : (pathText l).length ≤ 1024
  plain : (pathText l).any isNulOrNewline = false
  notSecret : denySecretPath (pathText l) = false

theorem sanitizeSegments_of_plain {s : JsString} (h : s.any isNulOrNewline = false) :
    sanitizeSegments s = s := by
  rw [sanitizeSegments, List.filter_eq_self]
  intro u hu
  have hall := List.any_eq_false.mp h u hu
  simpa using hall

theorem keptSegments_pathText (l : List FileName) :
    (pathSegments (pathText l)).filter (fun s => s ≠ [] && s ≠ js ".") = l.map FileName.text := by
  have hnil : ¬(decide (([] : JsString) ≠ []) && decide (([] : JsString) ≠ js ".")) = true := by
    decide
  rw [pathSegments_pathText, List.filter_cons, if_neg hnil, List.filter_eq_self]
  intro w hw
  obtain ⟨n, -, rfl⟩ := List.mem_map.mp hw
  have hvalid := n.valid
  simp only [isFileName, Bool.and_eq_true] at hvalid
  rw [Bool.and_eq_true]
  exact ⟨hvalid.1.1.1, hvalid.1.2⟩

theorem up_notMem_names (l : List FileName) : js ".." ∉ l.map FileName.text := by
  intro h
  obtain ⟨n, -, hn⟩ := List.mem_map.mp h
  exact n.text_ne_up hn

theorem startsWith_pathText (h : l ≠ []) : startsWith (pathText l) (js "/") = true := by
  rw [← placeText_of_ne_nil h]
  exact placeText_absolute l

theorem yields_ok {ε α : Type} (a : α) : Yields (.ok a : Except ε α) := ⟨a, rfl⟩

theorem not_yields_error {ε α : Type} (e : ε) : ¬Yields (.error e : Except ε α) := by
  rintro ⟨a, h⟩
  cases h

theorem assertConfiguredPath_iff (hl : CleanPath l) :
    Yields (assertConfiguredPath (pathText l) roots label) ↔ UnderRoot roots l := by
  have hnames : l.map FileName.text ≠ [] := by simpa using hl.ne_nil
  unfold assertConfiguredPath
  simp only [sanitizeSegments_of_plain hl.plain, keptSegments_pathText, join_names hl.ne_nil,
    startsWith_pathText hl.ne_nil, hl.notSecret]
  rw [if_neg (by decide), if_neg (by simp [hnames, up_notMem_names]), if_neg (by decide),
    ← isInsideSome_iff, placeText_of_ne_nil hl.ne_nil]
  by_cases hroots : roots = []
  · rw [if_pos hroots, hroots]
    exact iff_of_false (not_yields_error _) Bool.false_ne_true
  · rw [if_neg hroots]
    cases hinside : isInsideSome roots (pathText l) with
    | true =>
        rw [isInsideSome] at hinside
        rw [hinside, if_neg (by decide)]
        exact iff_of_true (yields_ok _) rfl
    | false =>
        rw [isInsideSome] at hinside
        rw [hinside, if_pos (by decide)]
        exact iff_of_false (not_yields_error _) Bool.false_ne_true

/-- The text that the control plane takes from the output for the path. -/
def takenText (l : List FileName) : JsString := (pathText l).rdropWhile isWhite

theorem lineFeed_notMem (hl : CleanPath l) : lineFeed ∉ pathText l := by
  intro hmem
  have hnone := List.any_eq_false.mp hl.plain _ hmem
  revert hnone
  decide

theorem headLine_pathText (hl : CleanPath l) : headLine (placeText l ++ js "\n") = takenText l := by
  rw [printed_iff, placeText_of_ne_nil hl.ne_nil]
  refine ⟨fun hmem => lineFeed_notMem hl ((List.rdropWhile_prefix _ _).mem hmem), Or.inl
    ⟨List.rdropWhile_idempotent _ _, (pathText l).rtakeWhile isWhite, ?_, fun u hu => ?_⟩⟩
  · exact List.rdropWhile_append_rtakeWhile.symm
  · exact List.mem_rtakeWhile_imp hu

theorem startsWith_takenText (h : l ≠ []) : startsWith (takenText l) (js "/") = true := by
  have hslash : js "/" = [unit '/'] := by decide
  have hbegins := List.rdropWhile_prefix isWhite (pathText l)
  obtain ⟨rest, hrest⟩ := startsWith_iff.mp (startsWith_pathText h)
  rw [hslash, List.singleton_append] at hrest
  rw [takenText, hslash, startsWith_iff]
  cases htaken : (pathText l).rdropWhile isWhite with
  | nil =>
      have hwhite := List.rdropWhile_eq_nil_iff.mp htaken (unit '/') (by rw [← hrest]; simp)
      revert hwhite
      decide
  | cons u taken =>
      rw [htaken, ← hrest, List.cons_prefix_cons] at hbegins
      rw [hbegins.1]
      exact List.prefix_append [unit '/'] taken

/-- The text that is taken passes the checks of a real path. -/
structure TakenIsAllowed (roots : List JsString) (l : List FileName) : Prop where
  noParent : js ".." ∉ pathSegments (takenText l)
  notSecret : denySecretPath (takenText l) = false
  inside : isInsideSome roots (takenText l) = true

theorem printedRealPath_pathText (hrun : PrintsRealpath fs limit cwd run)
    (hlinks : ∀ l, fs.isLink l = false) (hl : CleanPath l) :
    (fs.stands l = true ∧ printedRealPath run (pathText l) = .ok (takenText l)) ∨
      (fs.stands l = false ∧ ¬Yields (printedRealPath run (pathText l))) := by
  have hplace := canonicalPlace_pathText fs limit cwd hl.ne_nil
  obtain ⟨hstands, h⟩ | ⟨hstands, e, h⟩ := @resolve_downs_of_no_links fs limit hlinks l
  · rw [h] at hplace
    refine Or.inl ⟨hstands, ?_⟩
    rw [printedRealPath, hrun.found _ _ _ hplace, ← headLine_pathText hl]
    exact if_neg (not_not.mpr rfl)
  · rw [h] at hplace
    refine Or.inr ⟨hstands, ?_⟩
    rintro ⟨real, hreal⟩
    obtain ⟨l', j, hfound, -⟩ := printedRealPath_ok hrun hreal
    rw [hplace] at hfound
    cases hfound

/-- A check against roots resolves the path and tests what it takes from the output. -/
theorem canonicalRealPath_iff (hrun : PrintsRealpath fs limit cwd run)
    (hlinks : ∀ l, fs.isLink l = false) (hl : CleanPath l) (real : JsString) :
    canonicalRealPath (pathText l) run = .ok real ↔ fs.stands l = true ∧ takenText l = real ∧
      js ".." ∉ pathSegments real ∧ denySecretPath real = false := by
  have hnames : l.map FileName.text ≠ [] := by simpa using hl.ne_nil
  have hup : ∀ s : JsString, ((pathSegments s).filter (· ≠ [])).contains (js "..") =
      (pathSegments s).contains (js "..") := by
    intro s
    rw [Bool.eq_iff_iff, List.contains_iff_mem, List.contains_iff_mem, List.mem_filter]
    exact and_iff_left (by decide)
  unfold canonicalRealPath
  simp only [sanitizeSegments_of_plain hl.plain, keptSegments_pathText, join_names hl.ne_nil,
    startsWith_pathText hl.ne_nil, hl.notSecret, hup]
  rw [if_neg (by decide), if_neg hnames, if_neg (up_notMem_names l), if_neg (by decide)]
  obtain ⟨hstands, h⟩ | ⟨hstands, h⟩ := printedRealPath_pathText hrun hlinks hl
  · rw [h, hstands]
    simp only [bind, Except.bind, pure, Except.pure, startsWith_takenText hl.ne_nil]
    constructor
    · intro hreal
      split at hreal
      · cases hreal
      · next hparent =>
          split at hreal
          · cases hreal
          · next hsecret =>
              obtain rfl := Except.ok.inj hreal
              exact ⟨trivial, rfl, by simpa using hparent, by rwa [Bool.not_eq_true] at hsecret⟩
    · rintro ⟨-, rfl, hparent, hsecret⟩
      rw [if_neg (by simpa using hparent), if_neg (by rw [hsecret]; exact Bool.false_ne_true)]
  · refine iff_of_false ?_ fun hfound => ?_
    · intro hreal
      obtain ⟨printed, hprinted, -⟩ := bind_eq_ok hreal
      exact h ⟨printed, hprinted⟩
    · rw [hstands] at hfound
      cases hfound.1

theorem resolveCheckedPath_iff (hrun : PrintsRealpath fs limit cwd run)
    (hlinks : ∀ l, fs.isLink l = false) (hl : CleanPath l) :
    Yields (resolveCheckedPath (pathText l) { target with allowedPaths := roots } run) ↔
      fs.stands l = true ∧ TakenIsAllowed roots l := by
  constructor
  · rintro ⟨real, h⟩
    obtain ⟨hreal, hinside, -⟩ := @CheckedRead.resolve_ok _ run (pathText l) real .path h
    obtain ⟨hstands, rfl, hparent, hsecret⟩ := (canonicalRealPath_iff hrun hlinks hl real).mp hreal
    exact ⟨hstands, hparent, hsecret, hinside rfl⟩
  · rintro ⟨hstands, hparent, hsecret, hinside⟩
    have hreal := (canonicalRealPath_iff hrun hlinks hl _).mpr ⟨hstands, rfl, hparent, hsecret⟩
    have hroots : roots ≠ [] := by
      rintro rfl
      cases hinside
    refine ⟨takenText l, ?_⟩
    rw [resolveCheckedPath, hreal]
    simp only [bind, Except.bind, pure, Except.pure]
    rw [if_neg hroots, hinside]
    rfl

theorem resolveCheckedProcessCwd_iff (hrun : PrintsRealpath fs limit cwd run)
    (hlinks : ∀ l, fs.isLink l = false) (hl : CleanPath l) :
    Yields (resolveCheckedProcessCwd (pathText l) { target with allowedProcessCwds := roots } run) ↔
      fs.stands l = true ∧ TakenIsAllowed roots l := by
  constructor
  · rintro ⟨real, h⟩
    obtain ⟨hreal, -, hinside⟩ := @CheckedRead.resolve_ok _ run (pathText l) real .processCwd h
    obtain ⟨hstands, rfl, hparent, hsecret⟩ := (canonicalRealPath_iff hrun hlinks hl real).mp hreal
    exact ⟨hstands, hparent, hsecret, hinside rfl⟩
  · rintro ⟨hstands, hparent, hsecret, hinside⟩
    have hreal := (canonicalRealPath_iff hrun hlinks hl _).mpr ⟨hstands, rfl, hparent, hsecret⟩
    have hroots : roots ≠ [] := by
      rintro rfl
      cases hinside
    refine ⟨takenText l, ?_⟩
    rw [resolveCheckedProcessCwd, hreal]
    simp only [bind, Except.bind, pure, Except.pure]
    rw [if_neg hroots, hinside]
    rfl

/-- A root that is written without inner slashes or dots, and is not the root directory, leads to a
place on the way to the path. -/
def BelowPlainRoot (roots : List JsString) (l : List FileName) : Prop :=
  ∃ root ∈ roots, ∃ r, dropTrailing (unit '/') root = pathText r ∧ r ≠ [] ∧ r <+: l

theorem pathText_eq_nil {r : List FileName} : pathText r = [] ↔ r = [] := by
  cases r with
  | nil => exact iff_of_true rfl rfl
  | cons n r =>
      rw [pathText_cons]
      exact iff_of_false (List.cons_ne_nil _ _) (List.cons_ne_nil _ _)

theorem cleanPath_eq (value : JsString) :
    cleanPath value =
      if dropTrailing (unit '/') value = [] then js "/" else dropTrailing (unit '/') value := by
  rw [cleanPath]
  split
  · next h => rw [if_pos h]
  · next h => rw [if_neg h]

theorem cleanPath_pathText (h : l ≠ []) : cleanPath (pathText l) = pathText l := by
  have hdrop := dropTrailing_placeText l
  rw [placeText_of_ne_nil h] at hdrop
  rw [cleanPath_eq, hdrop, if_neg (pathText_eq_nil.not.mpr h)]

/-- Two slashes do not begin a clean path. -/
theorem not_startsWith_slashes (h : l ≠ []) :
    startsWith (pathText l) (js "/" ++ js "/") = false ∧ pathText l ≠ js "/" := by
  have hslash : js "/" = [unit '/'] := by decide
  rw [hslash, ← Bool.not_eq_true, startsWith_iff]
  cases l with
  | nil => exact absurd rfl h
  | cons n l =>
      rw [pathText_cons]
      have hnone := slash_notMem n.valid
      have hne := n.text_ne_nil
      cases htext : n.text with
      | nil => exact absurd htext hne
      | cons u text =>
          rw [htext, List.mem_cons, not_or] at hnone
          constructor
          · rintro ⟨t, ht⟩
            exact hnone.1 (List.cons.inj (List.cons.inj ht).2).1
          · intro heq
            exact List.cons_ne_nil _ _ (List.cons.inj heq).2

theorem cwdLexicallyAllowed_iff (hl : CleanPath l) :
    cwdLexicallyAllowed (pathText l) roots = true ↔ BelowPlainRoot roots l := by
  have hplain : isPlainAbsolutePath (pathText l) = true := by
    have hup : (splitUnit (unit '/') (pathText l)).contains (js "..") = false := by
      rw [← Bool.not_eq_true, List.contains_iff_mem]
      change js ".." ∉ pathSegments (pathText l)
      rw [pathSegments_pathText, List.mem_cons, not_or]
      exact ⟨by decide, up_notMem_names l⟩
    rw [isPlainAbsolutePath, startsWith_pathText hl.ne_nil, decide_eq_true hl.length, hl.plain, hup]
    rfl
  rw [cwdLexicallyAllowed, hplain, Bool.true_and, List.any_eq_true, cleanPath_pathText hl.ne_nil]
  refine exists_congr fun root => and_congr_right fun _ => ?_
  rw [cleanPath_eq]
  split
  · next hempty =>
      obtain ⟨hslashes, hne⟩ := not_startsWith_slashes hl.ne_nil
      rw [hslashes, Bool.or_false, beq_iff_eq]
      refine iff_of_false hne ?_
      rintro ⟨r, hr, hnil, -⟩
      rw [hempty] at hr
      exact hnil (pathText_eq_nil.mp hr.symm)
  · next hsome =>
      have hinside := @isInsideRoot_dropTrailing root l
      rw [placeText_of_ne_nil hl.ne_nil, isInsideRoot, Bool.or_eq_true, decide_eq_true_eq] at hinside
      rw [Bool.or_eq_true, beq_iff_eq, hinside]
      refine exists_congr fun r => and_congr_right fun hr => ?_
      refine (and_iff_right ?_).symm
      rintro rfl
      exact hsome hr

theorem realRoot_eq (hlinks : ∀ l, fs.isLink l = false) {root : JsString}
    (habsolute : startsWith root (js "/") = true) :
    (do return dropTrailing (unit '/') (← hostRealpath fs limit cwd root) : Except String JsString) =
      if fs.stands (resolvePath [] root) then .ok (pathText (resolvePath [] root))
      else .error "ENOENT: no such file or directory" := by
  rw [hostRealpath_of_no_links hlinks, resolvePath_of_absolute habsolute cwd]
  split
  · rw [← dropTrailing_placeText]
    rfl
  · rfl

/-- The roots of the broker are resolved if each of them exists. -/
theorem mapM_realRoot (hlinks : ∀ l, fs.isLink l = false)
    (habsolute : ∀ root ∈ roots, startsWith root (js "/") = true) :
    ((∀ root ∈ roots, fs.stands (resolvePath [] root) = true) ∧
      (roots.mapM fun root => do
        return dropTrailing (unit '/') (← hostRealpath fs limit cwd root)) =
        .ok (roots.map fun root => pathText (resolvePath [] root))) ∨
    (¬(∀ root ∈ roots, fs.stands (resolvePath [] root) = true) ∧
      ¬Yields (roots.mapM fun root => do
        return dropTrailing (unit '/') (← hostRealpath fs limit cwd root))) := by
  induction roots with
  | nil => exact Or.inl ⟨List.forall_mem_nil _, rfl⟩
  | cons root roots ih =>
      rw [List.forall_mem_cons] at habsolute ⊢
      rw [List.mapM_cons, realRoot_eq hlinks habsolute.1]
      cases hstands : fs.stands (resolvePath [] root) with
      | false =>
          refine Or.inr ⟨fun h => Bool.false_ne_true h.1, ?_⟩
          rintro ⟨a, h⟩
          cases h
      | true =>
          obtain ⟨hall, hrest⟩ | ⟨hall, hrest⟩ := ih habsolute.2
          · refine Or.inl ⟨⟨rfl, hall⟩, ?_⟩
            rw [hrest]
            rfl
          · refine Or.inr ⟨fun h => hall h.2, ?_⟩
            rintro ⟨a, h⟩
            obtain ⟨first, -, h⟩ := bind_eq_ok h
            obtain ⟨rest, hok, -⟩ := bind_eq_ok h
            exact hrest ⟨rest, hok⟩

theorem any_realRoots_iff (hl : l ≠ []) :
    ((roots.map fun root => pathText (resolvePath [] root)).any fun root =>
      pathText l == root || startsWith (pathText l) (root ++ js "/")) = true ↔ InRoots roots l := by
  rw [List.any_map, List.any_eq_true]
  refine exists_congr fun root => and_congr_right fun _ => ?_
  rw [Function.comp_apply, ← @isInsideRoot_iff _ l, placeText_of_ne_nil hl, isInsideRoot,
    Bool.or_eq_true, Bool.or_eq_true, beq_iff_eq, decide_eq_true_eq]

theorem cwdAllowed_iff (hlinks : ∀ l, fs.isLink l = false)
    (habsolute : ∀ root ∈ roots, startsWith root (js "/") = true) (hl : CleanPath l) :
    Yields (cwdAllowed (hostRealpath fs limit cwd) roots (pathText l)) ↔
      fs.stands l = true ∧ (∀ root ∈ roots, fs.stands (resolvePath [] root) = true) ∧
        InRoots roots l := by
  rw [cwdAllowed, hostRealpath_of_no_links hlinks, resolvePath_pathText hl.ne_nil]
  cases hstands : fs.stands l with
  | false =>
      refine iff_of_false ?_ fun h => Bool.false_ne_true h.1
      rintro ⟨a, h⟩
      cases h
  | true =>
      rw [if_pos rfl]
      obtain ⟨hall, h⟩ | ⟨hall, h⟩ := @mapM_realRoot fs limit cwd roots hlinks habsolute
      · rw [h]
        simp only [bind, Except.bind, dropTrailing_placeText]
        rw [true_and, and_iff_right hall, ← any_realRoots_iff hl.ne_nil]
        split
        · next hinside => exact iff_of_true (yields_ok _) hinside
        · next hinside => exact iff_of_false (not_yields_error _) hinside
      · refine iff_of_false ?_ fun hfound => hall hfound.2.1
        rintro ⟨a, ha⟩
        obtain ⟨real, -, ha⟩ := bind_eq_ok ha
        obtain ⟨rest, hok, -⟩ := bind_eq_ok ha
        exact h ⟨rest, hok⟩

/-- A path that does not end in white space is taken as it is. -/
theorem takenIsAllowed_iff (hl : CleanPath l) (htaken : takenText l = pathText l) :
    TakenIsAllowed roots l ↔ UnderRoot roots l := by
  rw [← isInsideSome_iff, placeText_of_ne_nil hl.ne_nil]
  constructor
  · intro h
    rw [← htaken]
    exact h.inside
  · intro hinside
    constructor
    · rw [htaken, pathSegments_pathText, List.mem_cons, not_or]
      exact ⟨by decide, up_notMem_names l⟩
    · rw [htaken]
      exact hl.notSecret
    · rw [htaken]
      exact hinside

end Tests

/-! ## When the tests agree -/

/-- In the roots, the path is below one that is written plainly, and the path and every root exist;
and a path that ends in white space passes without it exactly if it is in the roots. -/
structure PlainlyRooted (fs : HostFiles) (roots : List JsString) (l : List FileName) : Prop where
  plain : InRoots roots l → BelowPlainRoot roots l
  stands : InRoots roots l → fs.stands l = true
  rootsStand : InRoots roots l → ∀ root ∈ roots, fs.stands (resolvePath [] root) = true
  blank : takenText l ≠ pathText l → fs.stands l = true →
    (TakenIsAllowed roots l ↔ InRoots roots l)

theorem rootTestsAgree_iff {fs : HostFiles} {limit : ℕ} {cwd : List FileName} {run : RemoteRun}
    {target : TargetConfig} {label : JsString} {roots : List JsString} {l : List FileName}
    (hlinks : ∀ l, fs.isLink l = false) (hrun : PrintsRealpath fs limit cwd run)
    (habsolute : ∀ root ∈ roots, startsWith root (js "/") = true) (hl : CleanPath l) :
    RootTestsAgree fs limit cwd run target label roots l ↔ PlainlyRooted fs roots l := by
  have hconfigured := @assertConfiguredPath_iff label roots l hl
  have hpath := @resolveCheckedPath_iff fs limit cwd run target roots l hrun hlinks hl
  have hcwd := @resolveCheckedProcessCwd_iff fs limit cwd run target roots l hrun hlinks hl
  have hlexical := @cwdLexicallyAllowed_iff roots l hl
  have hbroker := @cwdAllowed_iff fs limit cwd roots l hlinks habsolute hl
  constructor
  · rintro ⟨-, hchecked, -, hlex, hadmin⟩
    rw [hpath] at hchecked
    rw [hlexical] at hlex
    rw [hbroker] at hadmin
    constructor
    · exact hlex.mpr
    · exact fun hin => (hadmin.mpr hin).1
    · exact fun hin => (hadmin.mpr hin).2.1
    · intro _ hstands
      rw [← hchecked]
      exact (and_iff_right hstands).symm
  · rintro ⟨hplain, hstands, hroots, hblank⟩
    have hunder : UnderRoot roots l ↔ InRoots roots l := by
      refine ⟨inRoots_of_underRoot, fun hin => ?_⟩
      obtain ⟨root, hroot, r, hr, -, hpre⟩ := hplain hin
      exact ⟨root, hroot, r, hr, hpre⟩
    have hresolved : (fs.stands l = true ∧ TakenIsAllowed roots l) ↔ InRoots roots l := by
      by_cases htaken : takenText l = pathText l
      · rw [takenIsAllowed_iff hl htaken, hunder]
        exact ⟨fun h => h.2, fun hin => ⟨hstands hin, hin⟩⟩
      · constructor
        · rintro ⟨hexists, hallowed⟩
          exact (hblank htaken hexists).mp hallowed
        · intro hin
          exact ⟨hstands hin, (hblank htaken (hstands hin)).mpr hin⟩
    constructor
    · rw [hconfigured, hunder]
    · rw [hpath, hresolved]
    · rw [hcwd, hresolved]
    · rw [hlexical]
      refine ⟨?_, hplain⟩
      rintro ⟨root, hroot, r, hr, -, hpre⟩
      exact inRoots_of_underRoot ⟨root, hroot, r, hr, hpre⟩
    · rw [hbroker]
      exact ⟨fun h => h.2.2, fun hin => ⟨hstands hin, hroots hin, hin⟩⟩

/-! ## The root directory as a root -/

/-- A directory in the root directory. -/
def optFiles : HostFiles := FileSystem.empty.put (placeOf "/opt") .dir

theorem optFiles_no_links (l : List FileName) : optFiles.isLink l = false := by
  have hnode := @FileSystem.node_put _ _ _ (FileSystem.empty : HostFiles) (placeOf "/opt")
    (by decide) (by decide) .dir l
  rw [FileSystem.isLink, optFiles, hnode]
  by_cases hl : l = placeOf "/opt"
  · rw [if_pos hl]
  · rw [if_neg hl]
    cases l <;> rfl

theorem optPath_clean : CleanPath (placeOf "/opt") :=
  ⟨by decide, by decide, by decide, by decide⟩

theorem opt_agrees :
    RootTestsAgree optFiles 40 [] (hostRun optFiles 40 []) readTarget (js "leitura") [js "/opt/"]
      (placeOf "/opt") := by
  apply (rootTestsAgree_iff optFiles_no_links (hostRun_printsRealpath _ _ _) (by decide)
    optPath_clean).mpr
  constructor
  · intro _
    exact ⟨js "/opt/", by decide, placeOf "/opt", by decide, by decide, List.prefix_rfl⟩
  · intro _
    decide
  · intro _
    decide
  · intro h
    exact absurd (by decide) h

theorem rootDirectory_disagrees :
    ¬RootTestsAgree optFiles 40 [] (hostRun optFiles 40 []) readTarget (js "leitura") [js "/"]
      (placeOf "/opt") := by
  intro h
  have hin : InRoots [js "/"] (placeOf "/opt") := ⟨js "/", by decide, by decide⟩
  have hallowed := h.lexical.mpr hin
  revert hallowed
  decide

end RemoteOps

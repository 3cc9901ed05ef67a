import RemoteOps.Ecma.Lines
import RemoteOps.Exec.SecretNames

/-!
# Paths that are resolved on the target

The control plane cleans a path, lets `realpath -e` of the target print what it leads to, and takes
the first line of the trimmed output. `checkedReads_iff` says when that is the canonical path of
what was asked for.
-/

namespace RemoteOps

open Ecma Posix

/-! ## Model -/

/-- What is read of the result of a remote command. -/
structure RunResult where
  code : ℤ
  stdout : JsString

inductive RunFailure where
  | ops (e : OpsError)
  | other

abbrev RemoteRun := List JsString → Except RunFailure RunResult

def realpathCommand (path : JsString) : List JsString :=
  [js "realpath", js "-e", js "--", path]

def pathDenied {α : Type} (message : String) : Except OpsError α :=
  .error ⟨"PATH_DENIED", js message⟩

def printedRealPath (run : RemoteRun) (normalized : JsString) : Except OpsError JsString :=
  match run (realpathCommand normalized) with
  | .ok res =>
      if res.code ≠ 0 then pathDenied "caminho inexistente ou inacessível"
      else .ok (headLine res.stdout)
  | .error (.ops e) => .error e
  | .error .other => pathDenied "falha ao resolver caminho"

def canonicalRealPath (inputPath : JsString) (run : RemoteRun) : Except OpsError JsString :=
  let cleaned := sanitizeSegments inputPath
  let segs := (pathSegments cleaned).filter fun s => s ≠ [] && s ≠ js "."
  let normalized := js "/" ++ join (js "/") segs
  if !startsWith cleaned (js "/") then pathDenied "caminho deve ser absoluto"
  else if segs = [] then pathDenied "caminho vazio não é permitido"
  else if js ".." ∈ segs then pathDenied "path traversal não é permitido"
  else if denySecretPath normalized then
    .error ⟨"SECRET_PATH_DENIED", js "caminho nega regra de segredo"⟩
  else do
    let real ← printedRealPath run normalized
    if !startsWith real (js "/") || ((pathSegments real).filter (· ≠ [])).contains (js "..") then
      pathDenied "caminho resolvido inválido"
    else if denySecretPath real then
      .error ⟨"SECRET_PATH_DENIED", js "caminho real nega regra de segredo (symlink?)"⟩
    else return real

/-- `roots.some(root => { const r = root.replace(/\/+$/, ""); … })`. -/
def isInsideSome (roots : List JsString) (path : JsString) : Bool :=
  roots.any fun root => isInsideRoot (dropTrailing (unit '/') root) path

def resolveCheckedPath (inputPath : JsString) (target : TargetConfig) (run : RemoteRun) :
    Except OpsError JsString := do
  let real ← canonicalRealPath inputPath run
  if target.allowedPaths = [] then
    .error ⟨"PATH_DENIED",
      js "target \"" ++ target.id ++ js "\" não possui allowedPaths configurado"⟩
  else if !isInsideSome target.allowedPaths real then
    .error ⟨"PATH_DENIED", js "caminho fora da allowlist do target \"" ++ target.id ++ js "\""⟩
  else return real

def resolveCheckedGitRepo (inputPath : JsString) (target : TargetConfig) (run : RemoteRun) :
    Except OpsError JsString := do
  let real ← canonicalRealPath inputPath run
  if target.allowedGitRepos = [] then
    .error ⟨"REPO_NOT_ALLOWED",
      js "target \"" ++ target.id ++ js "\" não possui allowedGitRepos configurado"⟩
  else if target.allowedGitRepos.any fun configured =>
      match canonicalRealPath configured run with
      | .ok allowed => real = allowed
      | .error _ => false then return real
  else
    .error ⟨"REPO_NOT_ALLOWED",
      js "repositório \"" ++ real ++ js "\" não está na allowlist do target"⟩

def resolveCheckedProcessCwd (inputPath : JsString) (target : TargetConfig) (run : RemoteRun) :
    Except OpsError JsString := do
  let real ← canonicalRealPath inputPath run
  if target.allowedProcessCwds = [] then
    .error ⟨"PATH_DENIED",
      js "target \"" ++ target.id ++ js "\" não possui allowedProcessCwds configurado"⟩
  else if !isInsideSome target.allowedProcessCwds real then
    .error ⟨"PATH_DENIED", js "cwd fora da allowlist do target \"" ++ target.id ++ js "\""⟩
  else return real

/-! ## The file system of the target -/

/-- A component of a path as the kernel reads it. -/
def routeStep (segment : JsString) : Step FileName :=
  if segment = js ".." then .up
  else if h : isFileName segment = true then .down ⟨segment, h⟩
  else .here

/-- The place that a path leads to. -/
def canonicalPlace (fs : HostFiles) (limit : ℕ) (cwd : List FileName) (path : JsString) :
    Except Errno (List FileName × ℕ) :=
  fs.resolve false limit (if startsWith path (js "/") then [] else cwd)
    ((pathSegments path).map routeStep)

/-- `realpath -e` prints the canonical path of what exists, and fails otherwise. -/
structure PrintsRealpath (fs : HostFiles) (limit : ℕ) (cwd : List FileName) (run : RemoteRun) :
    Prop where
  found : ∀ path l j, canonicalPlace fs limit cwd path = .ok (l, j) →
    run (realpathCommand path) = .ok ⟨0, placeText l ++ js "\n"⟩
  missing : ∀ path e res, canonicalPlace fs limit cwd path = .error e →
    run (realpathCommand path) = .ok res → res.code ≠ 0

/-- The three checks of a path that is read. -/
inductive CheckedRead where
  | path
  | gitRepo
  | processCwd

def CheckedRead.resolve (kind : CheckedRead) (inputPath : JsString) (target : TargetConfig)
    (run : RemoteRun) : Except OpsError JsString :=
  match kind with
  | .path => resolveCheckedPath inputPath target run
  | .gitRepo => resolveCheckedGitRepo inputPath target run
  | .processCwd => resolveCheckedProcessCwd inputPath target run

/-- By whole segments. -/
def UnderRoot (roots : List JsString) (l : List FileName) : Prop :=
  ∃ root ∈ roots, ∃ r, dropTrailing (unit '/') root = pathText r ∧ r <+: l

section Claims

variable (fs : HostFiles) (limit : ℕ) (cwd : List FileName) (target : TargetConfig)

/-- What the check allows of places. -/
def CheckedRead.Allows (l : List FileName) : CheckedRead → Prop
  | .path => UnderRoot target.allowedPaths l
  | .gitRepo => ∃ configured ∈ target.allowedGitRepos, ∃ j,
      canonicalPlace fs limit cwd configured = .ok (l, j)
  | .processCwd => UnderRoot target.allowedProcessCwds l

end Claims

/-! ## The texts of paths -/

def fileNameOf (segment : JsString) : Option FileName :=
  if h : isFileName segment = true then some ⟨segment, h⟩ else none

/-- The names of the path that is resolved. -/
def cleanedNames (inputPath : JsString) : List FileName :=
  (pathSegments (sanitizeSegments inputPath)).filterMap fileNameOf

/-- Segments that are kept and name no parent are names. -/
theorem filter_segments {ws : List JsString} (hws : ∀ w ∈ ws, unit '/' ∉ w)
    (hup : js ".." ∉ ws.filter fun s => s ≠ [] && s ≠ js ".") :
    (ws.filter fun s => s ≠ [] && s ≠ js ".") = (ws.filterMap fileNameOf).map FileName.text := by
  induction ws with
  | nil => rfl
  | cons w ws ih =>
      rw [List.forall_mem_cons] at hws
      by_cases hkeep : (decide (w ≠ []) && decide (w ≠ js ".")) = true
      · rw [List.filter_cons, if_pos hkeep, List.mem_cons, not_or] at hup
        have hname : isFileName w = true := by
          simp only [Bool.and_eq_true, decide_eq_true_eq] at hkeep
          simp [isFileName, hkeep.1, hkeep.2, hws.1, Ne.symm hup.1]
        rw [List.filter_cons, if_pos hkeep, List.filterMap_cons, fileNameOf, dif_pos hname,
          List.map_cons, ih hws.2 hup.2]
      · have hnone : ¬isFileName w = true := by
          intro hname
          apply hkeep
          simp only [isFileName, Bool.and_eq_true] at hname
          rw [Bool.and_eq_true]
          exact ⟨hname.1.1.1, hname.1.2⟩
        rw [List.filter_cons, if_neg hkeep] at hup ⊢
        rw [List.filterMap_cons, fileNameOf, dif_neg hnone, ih hws.2 hup]

theorem join_names {l : List FileName} (h : l ≠ []) :
    js "/" ++ join (js "/") (l.map FileName.text) = pathText l := by
  have hslash : js "/" = [unit '/'] := by decide
  induction l with
  | nil => exact absurd rfl h
  | cons n l ih =>
      rw [pathText_cons, List.map_cons, hslash, List.singleton_append]
      by_cases hl : l = []
      · rw [hl, List.map_nil, join, pathText_nil, List.append_nil]
      · rw [hslash] at ih
        rw [join_cons (by simpa using hl), List.append_assoc, ih hl]

theorem FileName.text_ne_up (n : FileName) : n.text ≠ js ".." := by
  intro h
  have hvalid := n.valid
  rw [h] at hvalid
  revert hvalid
  decide

theorem routeStep_text (n : FileName) : routeStep n.text = .down n := by
  rw [routeStep, if_neg n.text_ne_up, dif_pos n.valid]

theorem resolve_here (fs : HostFiles) (limit : ℕ) (xs : List (Step FileName)) :
    fs.resolve false limit [] (.here :: xs) = fs.resolve false limit [] xs := by
  obtain ⟨follow, h⟩ := fs.resolve_eq_walk false limit
  rw [h, FileSystem.walk, if_pos fs.isDir_root]

/-- The text of a path without links or dots leads where its names lead. -/
theorem canonicalPlace_pathText (fs : HostFiles) (limit : ℕ) (cwd : List FileName)
    {l : List FileName} (h : l ≠ []) :
    canonicalPlace fs limit cwd (pathText l) = fs.resolve false limit [] (downs l) := by
  have hstart : startsWith (pathText l) (js "/") = true := by
    rw [startsWith_iff, ← join_names h]
    exact List.prefix_append _ _
  have hroot : routeStep [] = .here := rfl
  have hnames : (l.map FileName.text).map routeStep = downs l := by
    rw [List.map_map]
    exact List.map_congr_left fun n _ => routeStep_text n
  rw [canonicalPlace, if_pos hstart, pathSegments_pathText, List.map_cons, hroot, hnames,
    resolve_here]

theorem placeText_absolute (l : List FileName) : startsWith (placeText l) (js "/") = true := by
  rw [startsWith_iff, placeText]
  split
  · exact List.prefix_rfl
  · next hl =>
      rw [← join_names hl]
      exact List.prefix_append _ _

/-- The textual test against a root finds whole segments. -/
theorem isInsideRoot_dropTrailing {root : JsString} {l : List FileName} :
    isInsideRoot (dropTrailing (unit '/') root) (placeText l) = true ↔
      ∃ r, dropTrailing (unit '/') root = pathText r ∧ r <+: l := by
  constructor
  · intro h
    suffices hr : ∃ r, dropTrailing (unit '/') root = pathText r by
      obtain ⟨r, hr⟩ := hr
      rw [hr, isInsideRoot_iff] at h
      exact ⟨r, hr, h⟩
    have hslash : js "/" = [unit '/'] := by decide
    rw [isInsideRoot, Bool.or_eq_true, decide_eq_true_eq, startsWith_iff, hslash] at h
    obtain h | ⟨t, ht⟩ := h
    · refine ⟨l, ?_⟩
      rw [← dropTrailing_placeText, h]
      exact (List.rdropWhile_idempotent (· == unit '/') root).symm
    · by_cases hl : l = []
      · refine ⟨[], ?_⟩
        have hlength := congrArg List.length ht
        rw [hl, placeText, if_pos rfl, hslash, List.length_append, List.length_append,
          List.length_singleton] at hlength
        exact List.length_eq_zero_iff.mp (by omega)
      · have hsegments := congrArg pathSegments ht
        rw [placeText, if_neg hl, List.append_assoc, List.singleton_append,
          pathSegments_append_slash, pathSegments_pathText] at hsegments
        cases hroot : pathSegments (dropTrailing (unit '/') root) with
        | nil => exact absurd hroot (splitUnit_ne_nil _ _)
        | cons w ws =>
            rw [hroot, List.cons_append, List.cons.injEq] at hsegments
            obtain ⟨rfl, hsegments⟩ := hsegments
            obtain ⟨r, -, rfl⟩ := List.prefix_map_iff.mp ⟨_, hsegments⟩
            rw [← pathSegments_pathText] at hroot
            exact ⟨r, splitUnit_injective _ hroot⟩
  · rintro ⟨r, hr, hpre⟩
    rw [hr, isInsideRoot_iff]
    exact hpre

/-! ## What the checks have seen -/

section Checks

variable {fs : HostFiles} {limit : ℕ} {cwd : List FileName} {target : TargetConfig}
  {run : RemoteRun} {inputPath real : JsString}

theorem printedRealPath_ok (hrun : PrintsRealpath fs limit cwd run) {normalized : JsString}
    (h : printedRealPath run normalized = .ok real) :
    ∃ l j, canonicalPlace fs limit cwd normalized = .ok (l, j) ∧
      headLine (placeText l ++ js "\n") = real := by
  rw [printedRealPath] at h
  cases hplace : canonicalPlace fs limit cwd normalized with
  | ok found =>
      rw [hrun.found normalized found.1 found.2 hplace] at h
      exact ⟨found.1, found.2, rfl, Except.ok.inj h⟩
  | error e =>
      cases hres : run (realpathCommand normalized) with
      | ok res =>
          rw [hres] at h
          dsimp only at h
          rw [if_pos (hrun.missing normalized e res hplace hres)] at h
          cases h
      | error failure =>
          rw [hres] at h
          cases failure <;> cases h

/-- What is taken from the output for a place. -/
theorem printed_iff {l : List FileName} :
    headLine (placeText l ++ js "\n") = real ↔ CutsTo (placeText l) real := by
  have hslash : js "/" = [unit '/'] := by decide
  have hfeed : js "\n" = [lineFeed] := by decide
  obtain ⟨rest, hrest⟩ := startsWith_iff.mp (placeText_absolute l)
  rw [hslash, List.singleton_append] at hrest
  rw [hfeed, ← hrest]
  exact headLine_eq_iff (by decide)

theorem underRoot_of_isInsideSome {roots : List JsString} {l : List FileName}
    (h : isInsideSome roots (placeText l) = true) : UnderRoot roots l := by
  obtain ⟨root, hroot, hinside⟩ := List.any_eq_true.mp h
  exact ⟨root, hroot, isInsideRoot_dropTrailing.mp hinside⟩

/-- A check that returns a path has resolved it and, if it is a check against roots, compared it
with them. -/
theorem CheckedRead.resolve_ok {kind : CheckedRead}
    (h : kind.resolve inputPath target run = .ok real) :
    canonicalRealPath inputPath run = .ok real ∧
      (kind = .path → isInsideSome target.allowedPaths real = true) ∧
      (kind = .processCwd → isInsideSome target.allowedProcessCwds real = true) := by
  cases kind with
  | path =>
      obtain ⟨resolved, hresolved, h⟩ := bind_eq_ok h
      split at h
      · cases h
      · split at h
        · cases h
        · next hinside =>
            obtain rfl := Except.ok.inj h
            exact ⟨hresolved, fun _ => by simpa using hinside, fun hkind => by cases hkind⟩
  | gitRepo =>
      obtain ⟨resolved, hresolved, h⟩ := bind_eq_ok h
      split at h
      · cases h
      · split at h
        · obtain rfl := Except.ok.inj h
          exact ⟨hresolved, fun hkind => (by cases hkind), fun hkind => by cases hkind⟩
        · cases h
  | processCwd =>
      obtain ⟨resolved, hresolved, h⟩ := bind_eq_ok h
      split at h
      · cases h
      · split at h
        · cases h
        · next hinside =>
            obtain rfl := Except.ok.inj h
            exact ⟨hresolved, fun hkind => (by cases hkind), fun _ => by simpa using hinside⟩

end Checks

/-- The command line of a target with this file system. -/
def hostRun (fs : HostFiles) (limit : ℕ) (cwd : List FileName) : RemoteRun
  | [_, _, _, path] =>
      match canonicalPlace fs limit cwd path with
      | .ok (l, _) => .ok ⟨0, placeText l ++ js "\n"⟩
      | .error _ => .ok ⟨1, []⟩
  | _ => .error .other

theorem hostRun_printsRealpath (fs : HostFiles) (limit : ℕ) (cwd : List FileName) :
    PrintsRealpath fs limit cwd (hostRun fs limit cwd) := by
  constructor
  · intro path l j h
    rw [realpathCommand, hostRun, h]
  · intro path e res h hres
    rw [realpathCommand, hostRun, h] at hres
    obtain rfl := Except.ok.inj hres
    exact one_ne_zero

def readTarget : TargetConfig := { id := js "t", allowedPaths := [js "/srv/"] }

end RemoteOps

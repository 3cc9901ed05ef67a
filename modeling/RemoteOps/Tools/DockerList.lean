import Mathlib.Data.List.TakeWhile
import RemoteOps.Agent.Gateway
import RemoteOps.Config.Targets
import RemoteOps.Ecma.JsonText
import RemoteOps.Ecma.Utf8
import RemoteOps.Security.Redaction

/-!
# The list of containers

`docker_list` reads the lines that `docker ps` prints, cuts them off after a hundred, and then
keeps the containers that the target allows. The order matters: an allowed container after the
first hundred lines is not shown, however few the others leave (`dockerListExact_iff`).
-/

namespace RemoteOps

open Ecma

/-! ## The tool -/

inductive DockerRow where
  | container (id name image state status : Option Json) (ports : Json)
  /-- a line that is no JSON -/
  | raw (text : JsString)

structure DockerListing where
  target : JsString
  count : ℕ
  containers : List DockerRow

/-- `/permission denied|permission.*docker/i`. -/
def dockerPermissionPattern : Pattern :=
  .alt (.litAnyCase "permission denied")
    (.all [.litAnyCase "permission", .atLeast 0 fun u => !isLineTerminator u, .litAnyCase "docker"])

def exitText : Option JsNumber → JsString
  | none => js "null"
  | some code => ofChars code.text

def dockerAccessError (res : ExecResult) : OpsError :=
  if dockerPermissionPattern.found res.stderr then
    ⟨"DOCKER_ACCESS_DENIED", js "sem permissão para acessar o Docker daemon"⟩
  else ⟨"REMOTE_COMMAND_FAILED", js "docker retornou erro (exit " ++ exitText res.code ++ js ")"⟩

/-- A property with a fallback, `x.k ?? fallback`. -/
def orElseJson (x : Option Json) (fallback : Json) : Json :=
  match x with
  | none | some .null => fallback
  | some y => y

def containerRow (o : Json) : DockerRow :=
  .container (o.get (js "ID")) (o.get (js "Names")) (o.get (js "Image")) (o.get (js "State"))
    (o.get (js "Status")) (orElseJson (o.get (js "Ports")) (.str []))

/-- Reading a field of `null` throws like `JSON.parse` does. -/
def parseDockerLine (l : JsString) : DockerRow :=
  match parse (toChars l) with
  | none | some .null => .raw (redactText l)
  | some o => containerRow o

def DockerRow.name : DockerRow → Option Json
  | container _ name _ _ _ _ => name
  | raw _ => none

def filterDockerListByAllowlist (rows : List DockerRow) (allowlist : List JsString) :
    List DockerRow :=
  let wildcard := allowlist.contains (js "*")
  if !wildcard && allowlist.isEmpty then []
  else
    rows.filter fun row =>
      match row.name with
      | some (.str name) => wildcard || allowlist.contains name
      | _ => false

def dockerListCap : ℕ := 100

def dockerListRows (stdout : JsString) : List DockerRow :=
  (((splitUnit 10 stdout).filter fun l => trim l ≠ []).take dockerListCap).map parseDockerLine

def dockerPsCommand : List JsString :=
  [js "docker", js "ps", js "-a", js "--format", js "{{json .}}"]

/-- `docker_list` on a target that was resolved. -/
def dockerList (t : TargetConfig) (exec : List JsString → Except OpsError ExecResult) :
    Except OpsError DockerListing :=
  if t.allowedDockerContainers.length = 0 then .ok ⟨t.id, 0, []⟩
  else do
    let res ← exec dockerPsCommand
    if res.code ≠ some (JsNumber.ofInt 0 inRange_zero) then .error (dockerAccessError res)
    else
      let shown := filterDockerListByAllowlist (dockerListRows res.stdout) t.allowedDockerContainers
      return ⟨t.id, shown.length, shown⟩

/-! ## What `docker ps` prints -/

/-- A line of the output: a JSON object with the names of a container. -/
structure PsLine where
  chars : List Char
  fields : List (JsString × Json)
  name : JsString
  parsed : parse chars = some (.obj fields)
  named : lookup (js "Names") fields = some (.str name)
  oneLine : '\n' ∉ chars

def PsLine.row (l : PsLine) : DockerRow := containerRow (.obj l.fields)

/-- The whole output, one line after the other. -/
def psOutput (ls : List PsLine) : JsString := ls.flatMap fun l => ofChars l.chars ++ [10]

def psResult (ls : List PsLine) : ExecResult where
  code := some (JsNumber.ofInt 0 inRange_zero)
  stdout := psOutput ls
  stderr := []
  durationMs := JsNumber.ofInt 0 inRange_zero
  truncated := false
  timedOut := false

/-- The containers to show: those with an allowed name, or the first hundred under the
wildcard. -/
def shownLines (allowlist : List JsString) (ls : List PsLine) : List PsLine :=
  if js "*" ∈ allowlist then ls.take dockerListCap else ls.filter fun l => l.name ∈ allowlist

/-- The tool shows these containers in their order, and their number. -/
def DockerListExact (t : TargetConfig) (ls : List PsLine) : Prop :=
  dockerList t (fun _ => .ok (psResult ls)) =
    .ok ⟨t.id, (shownLines t.allowedDockerContainers ls).length,
      (shownLines t.allowedDockerContainers ls).map PsLine.row⟩

/-! ## Reading the lines -/

theorem skipSpace_of_parseValue_obj {fuel : ℕ} {cs rest : List Char} {ps : List (JsString × Json)}
    (h : parseValue (fuel + 1) cs = some (.obj ps, rest)) : ∃ t, skipSpace cs = '{' :: t := by
  unfold parseValue at h
  split at h
  case h_6 t hskip => exact ⟨t, hskip⟩
  case h_5 t hskip =>
    split at h
    · simp at h
    · simp at h
  all_goals simp at h

/-- The text of an object has an opening brace. -/
theorem brace_mem_of_parse {cs : List Char} {ps : List (JsString × Json)}
    (h : parse cs = some (.obj ps)) : '{' ∈ cs := by
  unfold parse at h
  cases hvalue : parseValue (cs.length + 1) cs with
  | none => simp [hvalue] at h
  | some r =>
      obtain ⟨x, rest⟩ := r
      rw [hvalue] at h
      dsimp only at h
      split_ifs at h
      obtain rfl := Option.some.inj h
      obtain ⟨t, hskip⟩ := skipSpace_of_parseValue_obj hvalue
      have hmem : '{' ∈ skipSpace cs := by
        rw [hskip]
        exact List.mem_cons_self
      exact (List.dropWhile_sublist _).subset hmem
theorem trim_ne_nil {s : JsString} {u : CodeUnit} (hu : u ∈ s) (hwhite : isWhite u = false) :
    trim s ≠ [] := by
  intro htrim
  rw [trim, List.reverse_eq_nil_iff, List.dropWhile_eq_nil_iff] at htrim
  have hrest : ∀ v ∈ s.dropWhile isWhite, isWhite v = true := fun v hv =>
    htrim v (List.mem_reverse.mpr hv)
  rw [← List.takeWhile_append_dropWhile (p := isWhite) (l := s), List.mem_append] at hu
  have hall : isWhite u = true := hu.elim (List.mem_takeWhile_imp ·) (hrest u)
  rw [hwhite] at hall
  exact absurd hall Bool.false_ne_true

namespace PsLine

theorem trim_chars (l : PsLine) : trim (ofChars l.chars) ≠ [] :=
  trim_ne_nil ((Utf8.unit_mem_ofChars_iff (by decide)).mpr (brace_mem_of_parse l.parsed)) (by decide)

theorem newline_notMem (l : PsLine) : 10 ∉ ofChars l.chars := fun h =>
  l.oneLine ((Utf8.unit_mem_ofChars_iff (c := '\n') (by decide)).mp h)

theorem parseDockerLine_chars (l : PsLine) : parseDockerLine (ofChars l.chars) = l.row := by
  rw [parseDockerLine, Utf8.toChars_ofChars, l.parsed]
  rfl

theorem name_row (l : PsLine) : l.row.name = some (.str l.name) := l.named

end PsLine

theorem splitUnit_psOutput (ls : List PsLine) :
    splitUnit 10 (psOutput ls) = ls.map (fun l => ofChars l.chars) ++ [[]] := by
  induction ls with
  | nil => rfl
  | cons l ls ih =>
      rw [psOutput, List.flatMap_cons, List.append_assoc, List.singleton_append,
        splitUnit_append l.newline_notMem]
      exact congrArg _ ih

/-- The rows are those of the first hundred lines. -/
theorem dockerListRows_psOutput (ls : List PsLine) :
    dockerListRows (psOutput ls) = (ls.take dockerListCap).map PsLine.row := by
  have hlines : (ls.map fun l => ofChars l.chars).filter (fun l => trim l ≠ []) =
      ls.map fun l => ofChars l.chars := by
    apply List.filter_eq_self.mpr
    intro l hl
    obtain ⟨l, -, rfl⟩ := List.mem_map.mp hl
    exact decide_eq_true l.trim_chars
  have hblank : [([] : JsString)].filter (fun l => trim l ≠ []) = [] := by decide
  rw [dockerListRows, splitUnit_psOutput, List.filter_append, hlines, hblank, List.append_nil,
    ← List.map_take, List.map_map]
  apply List.map_congr_left
  intro l _
  exact l.parseDockerLine_chars

/-! ## What is shown -/

/-- A row is kept if its line has an allowed name. -/
theorem filter_rows (ls : List PsLine) (allowlist : List JsString) :
    filterDockerListByAllowlist (ls.map PsLine.row) allowlist =
      (ls.filter fun l => allowlist.contains (js "*") || allowlist.contains l.name).map
        PsLine.row := by
  rw [filterDockerListByAllowlist]
  split_ifs with hempty
  · obtain ⟨-, hempty⟩ := Bool.and_eq_true_iff.mp hempty
    rw [List.isEmpty_iff.mp hempty]
    simp
  · rw [List.filter_map]
    apply congrArg
    apply List.filter_congr
    intro l _
    rw [Function.comp_apply, l.name_row]

/-- The tool shows the allowed containers among the first hundred lines. -/
theorem dockerList_psResult (t : TargetConfig) (ls : List PsLine) :
    dockerList t (fun _ => .ok (psResult ls)) =
      let shown := (ls.take dockerListCap).filter fun l =>
        t.allowedDockerContainers.contains (js "*") || t.allowedDockerContainers.contains l.name
      .ok ⟨t.id, shown.length, shown.map PsLine.row⟩ := by
  rw [dockerList]
  split_ifs with hempty
  · rw [List.length_eq_zero_iff.mp hempty]
    simp
  · have hcode : ¬(psResult ls).code ≠ some (JsNumber.ofInt 0 inRange_zero) := not_not.mpr rfl
    rw [ok_bind, if_neg hcode]
    simp only [psResult, dockerListRows_psOutput, filter_rows, List.length_map]
    rfl

/-- Cutting a list off before it is filtered loses nothing if nothing to keep comes later. -/
theorem length_filter_take_eq_iff {α : Type} (p : α → Bool) (n : ℕ) (xs : List α) :
    ((xs.take n).filter p).length = (xs.filter p).length ↔ ∀ x ∈ xs.drop n, p x = false := by
  have hsplit : (xs.filter p).length =
      ((xs.take n).filter p).length + ((xs.drop n).filter p).length := by
    rw [← List.length_append, ← List.filter_append, List.take_append_drop]
  have hnil : ((xs.drop n).filter p).length = 0 ↔ ∀ x ∈ xs.drop n, p x = false := by
    simp
  rw [← hnil]
  omega

theorem filter_take_eq_of_drop {α : Type} {p : α → Bool} {n : ℕ} {xs : List α}
    (h : ∀ x ∈ xs.drop n, p x = false) : (xs.take n).filter p = xs.filter p := by
  have hnil : (xs.drop n).filter p = [] := by simpa using h
  rw [← List.append_nil ((xs.take n).filter p), ← hnil, ← List.filter_append,
    List.take_append_drop]

theorem dockerListExact_of_wildcard {t : TargetConfig} {ls : List PsLine}
    (h : js "*" ∈ t.allowedDockerContainers) : DockerListExact t ls := by
  have hkeep : (ls.take dockerListCap).filter (fun l =>
      t.allowedDockerContainers.contains (js "*") ||
        t.allowedDockerContainers.contains l.name) = ls.take dockerListCap := by
    apply List.filter_eq_self.mpr
    intro l _
    rw [List.contains_iff_mem.mpr h, Bool.true_or]
  rw [DockerListExact, dockerList_psResult, shownLines, if_pos h]
  simp only [hkeep]

/-- Under a plain allowlist the tool must not cut off an allowed container. -/
theorem dockerListExact_of_plain {t : TargetConfig} {ls : List PsLine}
    (h : js "*" ∉ t.allowedDockerContainers) :
    DockerListExact t ls ↔ ∀ l ∈ ls.drop dockerListCap, l.name ∉ t.allowedDockerContainers := by
  have hpredicate : (fun l : PsLine => t.allowedDockerContainers.contains (js "*") ||
      t.allowedDockerContainers.contains l.name) =
        fun l => decide (l.name ∈ t.allowedDockerContainers) := by
    funext l
    simp [h]
  have hdrop : (∀ l ∈ ls.drop dockerListCap, l.name ∉ t.allowedDockerContainers) ↔
      ∀ l ∈ ls.drop dockerListCap, decide (l.name ∈ t.allowedDockerContainers) = false := by
    simp
  rw [DockerListExact, dockerList_psResult, shownLines, if_neg h, hpredicate, hdrop]
  constructor
  · intro hexact
    have hlength := congrArg DockerListing.count (Except.ok.inj hexact)
    exact (length_filter_take_eq_iff _ _ _).mp hlength
  · intro hnone
    simp only [filter_take_eq_of_drop hnone]

/-- The list of containers is exact if the target has the wildcard, or if no line after the first
hundred is that of an allowed container. -/
theorem dockerListExact_iff (t : TargetConfig) (ls : List PsLine) :
    DockerListExact t ls ↔
      js "*" ∈ t.allowedDockerContainers ∨
        ∀ l ∈ ls.drop dockerListCap, l.name ∉ t.allowedDockerContainers := by
  by_cases h : js "*" ∈ t.allowedDockerContainers
  · exact iff_of_true (dockerListExact_of_wildcard h) (.inl h)
  · rw [dockerListExact_of_plain h, or_iff_right h]

/-! ## A host with many containers -/

/-- A line that gives only the name. -/
def nameLine (name : JsString)
    (h : '\n' ∉ (Json.obj [(js "Names", .str name)]).stringify) : PsLine where
  chars := (Json.obj [(js "Names", .str name)]).stringify
  fields := [(js "Names", .str name)]
  name := name
  parsed := parse_stringify _ ⟨⟨trivial, trivial⟩, rfl⟩
  named := rfl
  oneLine := h

def dbLine : PsLine := nameLine (js "db") (by decide)

def webLine : PsLine := nameLine (js "web") (by decide)

/-- A hundred other containers hide the one that is allowed. -/
theorem lastContainer_hidden :
    ¬DockerListExact { id := js "web", allowedDockerContainers := [js "web"] }
      (List.replicate 100 dbLine ++ [webLine]) := by
  rw [dockerListExact_of_plain (by decide)]
  intro h
  have hlast : webLine ∈ (List.replicate 100 dbLine ++ [webLine]).drop dockerListCap := by
    rw [dockerListCap, List.drop_left' List.length_replicate]
    exact List.mem_singleton_self _
  exact absurd (h webLine hlast) (by decide)

end RemoteOps

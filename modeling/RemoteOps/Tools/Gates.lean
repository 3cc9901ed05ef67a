import RemoteOps.Agent.Operations
import RemoteOps.Config.Atomicity
import RemoteOps.Exec.WriteRoots

/-!
# The gates of the tools

A tool assembles its checks from a few functions: which target it is for, which profile and which
transport the target has, and whether a value is on one of its lists. Each gate has one lemma that
says what has been checked when it lets a call through.
-/

namespace RemoteOps

open Ecma

/-! ## Arguments -/

/-- `String(value)`. -/
def plainText (value : Option Json) : Except OpsError JsString :=
  match value with
  | none => .ok (js "undefined")
  | some x => convertedOr x.toStr

/-- `Number(value ?? fallback)`. -/
def toolNumber (fallback : JsNumber) (value : Option Json) : Except OpsError JsNumber :=
  match value with
  | none | some .null => .ok fallback
  | some x => convertedOr x.toNum

/-- `Array.isArray(value) ? value.map(String) : []`. -/
def stringArgs (value : Option Json) : Except OpsError (List JsString) :=
  match value with
  | some (.arr xs) => xs.mapM fun x => convertedOr x.toStr
  | _ => .ok []

/-- `Math.min(Math.max(x, lo), hi)`. -/
def clampNumber (lo hi x : JsNumber) : JsNumber :=
  let x := if x.lt lo then lo else x
  if hi.lt x then hi else x

def assertIdentifier (value : JsString) (label : String) : Except OpsError JsString :=
  if isAgentId value then .ok value
  else deny "INVALID_ARGUMENT" (js "valor inválido para " ++ js label)

/-! ## The target -/

/-- `resolveTarget` of an argument of any type. -/
def resolveTargetArg (registry : Registry) (live : Live) (id : Option Json) :
    Except OpsError TargetConfig :=
  match id with
  | some (.str id) => resolveTarget registry live id
  | _ => deny "INVALID_ARGUMENT" (js "parâmetro target é obrigatório")

/-- A target that a call may work on at this moment. -/
structure ResolvedTarget (registry : Registry) (live : Live) (id : JsString) (t : TargetConfig) :
    Prop where
  found : getTarget registry id = some t
  enabled : effectiveTargetEnabled t.id t.enabled live = true

theorem resolveTarget_eq_ok {registry : Registry} {live : Live} {id : JsString} {t : TargetConfig}
    (h : resolveTarget registry live id = .ok t) : ResolvedTarget registry live id t := by
  unfold resolveTarget at h
  split_ifs at h
  · cases h
  · split at h
    · cases h
    · next t' hfound =>
      obtain ⟨_, henabled, h⟩ := bind_eq_ok h
      obtain rfl := Except.ok.inj h
      exact ⟨hfound, requireThat_eq_ok henabled⟩

theorem resolveTargetArg_eq_ok {registry : Registry} {live : Live} {id : Option Json}
    {t : TargetConfig} (h : resolveTargetArg registry live id = .ok t) :
    ∃ name, id = some (.str name) ∧ ResolvedTarget registry live name t := by
  unfold resolveTargetArg at h
  split at h
  · next name => exact ⟨name, rfl, resolveTarget_eq_ok h⟩
  · cases h

/-! ## Profiles and transports -/

def requireAgentMutationTransport (t : TargetConfig) : Except OpsError Unit :=
  requireThat (t.transport = .agent) "CAPABILITY_DENIED"
    (js "target \"" ++ t.id ++ js "\" precisa usar transport=agent para mutações Docker governadas")

theorem requireOperator_eq_ok {t : TargetConfig} {u : Unit} (h : requireOperator t = .ok u) :
    t.capabilityProfile = .operator := by
  unfold requireOperator at h
  split_ifs at h with hprofile
  exact not_not.mp hprofile

/-! ## Lists -/

/-- A list with the wildcard allows everything. -/
def Allows (list : List JsString) (value : JsString) : Prop := js "*" ∈ list ∨ value ∈ list

instance decidableAllows (list : List JsString) (value : JsString) :
    Decidable (Allows list value) := inferInstanceAs (Decidable (_ ∨ _))

def checkAllow (list : List JsString) (value : JsString) (kind code : String) :
    Except OpsError Unit :=
  requireThat (Allows list value) code
    (js kind ++ js " \"" ++ value ++ js "\" não está na allowlist do target")

def requireProgram (t : TargetConfig) (value : Option Json) : Except OpsError JsString := do
  let program ← toolText value
  requireThat (isAgentProgram program = true) "INVALID_ARGUMENT" (js "program inválido")
  requireThat (program ∈ t.allowedProcessPrograms) "INVALID_ARGUMENT"
    (js "program \"" ++ program ++ js "\" não está na allowlist")
  return program

/-- `^[A-Za-z0-9_.+-]{1,100}$`. -/
def isCapabilityName (s : JsString) : Bool :=
  matchesClass (fun u => isAlnum u || isOneOf "_.+-" u) 1 100 s

def requireNamedCapability (list : List JsString) (value : Option Json) (label : String) :
    Except OpsError JsString := do
  let item ← toolText value
  requireThat (isCapabilityName item = true) "INVALID_ARGUMENT" (js label ++ js " inválido")
  requireThat (Allows list item) "CAPABILITY_DENIED"
    (js label ++ js " \"" ++ item ++ js "\" não está na allowlist")
  return item

/-- `prefix === "*" || item.startsWith(prefix)` for one of the prefixes. -/
def HasPrefix (prefixes : List JsString) (item : JsString) : Prop :=
  prefixes.any (fun start => start = js "*" || startsWith item start) = true

instance decidableHasPrefix (prefixes : List JsString) (item : JsString) :
    Decidable (HasPrefix prefixes item) := inferInstanceAs (Decidable (_ = true))

/-- `^[A-Za-z0-9][A-Za-z0-9_./:@+-]{0,199}$`. -/
def isImageName (s : JsString) : Bool :=
  matchesHeadTail isAlnum (fun u => isAlnum u || isOneOf "_./:@+-" u) 0 199 s

def requirePrefixCapability (prefixes : List JsString) (value : Option Json) (label : String) :
    Except OpsError JsString := do
  let item ← toolText value
  requireThat (isImageName item = true) "INVALID_ARGUMENT" (js label ++ js " inválido")
  requireThat (HasPrefix prefixes item) "CAPABILITY_DENIED"
    (js label ++ js " \"" ++ item ++ js "\" não corresponde a nenhum prefixo permitido")
  return item

def requireCandidateName (prefixes : List JsString) (value : Option Json) :
    Except OpsError JsString := do
  let name ← assertIdentifier (← toolText value) "candidate"
  requireThat (HasPrefix prefixes name) "CAPABILITY_DENIED"
    (js "candidate \"" ++ name ++ js "\" não corresponde a nenhum prefixo permitido")
  return name

/-- `ports.includes(port)`. -/
def PortListed (ports : List ℕ) (port : JsNumber) : Prop :=
  ports.any (fun p => port.toInt? = some (p : ℤ)) = true

instance decidablePortListed (ports : List ℕ) (port : JsNumber) :
    Decidable (PortListed ports port) := inferInstanceAs (Decidable (_ = true))

def requireAllowedPort (ports : List ℕ) (value : Option Json) (label : String) :
    Except OpsError JsNumber := do
  let port ← convertedOr (numOrNaN value)
  requireThat (isIntegerIn 1 65535 port = true) "INVALID_ARGUMENT" (js label ++ js " inválida")
  requireThat (PortListed ports port) "CAPABILITY_DENIED"
    (js label ++ js " " ++ ofChars port.text ++ js " não está na allowlist")
  return port

/-! ## Semantic capabilities -/

def requireSemanticCapability (t : TargetConfig) (capability : String) : Except OpsError Unit := do
  requireThat (t.transport = .agent) "CAPABILITY_DENIED"
    (js "target \"" ++ t.id ++ js "\" precisa usar transport=agent para capability semântica")
  let _ ← requireNamedCapability t.allowedSemanticCapabilities (some (.str (js capability)))
    "capability semântica"
  return

def requireOpenHandsExecutor (t : TargetConfig) : Except OpsError Unit := do
  requireThat (t.capabilityProfile = .semanticOperator) "CAPABILITY_DENIED"
    (js "OpenHands exige target de execução semântica dedicado")
  requireSemanticCapability t "openhands.execute"

def paperclipContainer : JsString := js "wandora-paperclip"

def requirePaperclipSemantic (t : TargetConfig) : Except OpsError Unit := do
  requireOperator t
  requireAgentMutationTransport t
  checkAllow t.allowedDockerExecContainers paperclipContainer "contêiner Paperclip semântico"
    "CONTAINER_NOT_ALLOWED"

/-! ## What a gate has checked -/

section Gates

variable {t : TargetConfig} {list : List JsString} {value : Option Json} {label : String}
  {item : JsString} {u : Unit}

theorem assertIdentifier_eq_ok {s : JsString} (h : assertIdentifier s label = .ok item) :
    item = s ∧ isAgentId item = true := by
  unfold assertIdentifier at h
  split_ifs at h with hid
  · obtain rfl := Except.ok.inj h
    exact ⟨rfl, hid⟩
  · cases h

theorem checkAllow_eq_ok {s : JsString} {code : String}
    (h : checkAllow list s label code = .ok u) : Allows list s := requireThat_eq_ok h

theorem requireProgram_eq_ok (h : requireProgram t value = .ok item) :
    item ∈ t.allowedProcessPrograms := by
  obtain ⟨program, -, h⟩ := bind_eq_ok h
  obtain ⟨_, -, h⟩ := bind_eq_ok h
  obtain ⟨_, hlisted, h⟩ := bind_eq_ok h
  obtain rfl := Except.ok.inj h
  exact requireThat_eq_ok hlisted

theorem requireNamedCapability_eq_ok (h : requireNamedCapability list value label = .ok item) :
    toolText value = .ok item ∧ Allows list item := by
  obtain ⟨item', hitem, h⟩ := bind_eq_ok h
  obtain ⟨_, -, h⟩ := bind_eq_ok h
  obtain ⟨_, hlisted, h⟩ := bind_eq_ok h
  obtain rfl := Except.ok.inj h
  exact ⟨hitem, requireThat_eq_ok hlisted⟩

theorem requirePrefixCapability_eq_ok (h : requirePrefixCapability list value label = .ok item) :
    HasPrefix list item := by
  obtain ⟨item', -, h⟩ := bind_eq_ok h
  obtain ⟨_, -, h⟩ := bind_eq_ok h
  obtain ⟨_, hlisted, h⟩ := bind_eq_ok h
  obtain rfl := Except.ok.inj h
  exact requireThat_eq_ok hlisted

theorem requireCandidateName_eq_ok (h : requireCandidateName list value = .ok item) :
    HasPrefix list item := by
  obtain ⟨text, -, h⟩ := bind_eq_ok h
  obtain ⟨name, -, h⟩ := bind_eq_ok h
  obtain ⟨_, hlisted, h⟩ := bind_eq_ok h
  obtain rfl := Except.ok.inj h
  exact requireThat_eq_ok hlisted

theorem requireAllowedPort_eq_ok {ports : List ℕ} {port : JsNumber}
    (h : requireAllowedPort ports value label = .ok port) : PortListed ports port := by
  obtain ⟨port', -, h⟩ := bind_eq_ok h
  obtain ⟨_, -, h⟩ := bind_eq_ok h
  obtain ⟨_, hlisted, h⟩ := bind_eq_ok h
  obtain rfl := Except.ok.inj h
  exact requireThat_eq_ok hlisted

theorem requireSemanticCapability_eq_ok (h : requireSemanticCapability t label = .ok u) :
    t.transport = .agent ∧ Allows t.allowedSemanticCapabilities (js label) := by
  obtain ⟨_, htransport, h⟩ := bind_eq_ok h
  obtain ⟨item', hitem, -⟩ := bind_eq_ok h
  obtain ⟨htext, hlisted⟩ := requireNamedCapability_eq_ok hitem
  obtain rfl := Except.ok.inj htext
  exact ⟨requireThat_eq_ok htransport, hlisted⟩

theorem requireOpenHandsExecutor_eq_ok (h : requireOpenHandsExecutor t = .ok u) :
    t.capabilityProfile = .semanticOperator ∧
      Allows t.allowedSemanticCapabilities (js "openhands.execute") := by
  obtain ⟨_, hprofile, h⟩ := bind_eq_ok h
  exact ⟨requireThat_eq_ok hprofile, (requireSemanticCapability_eq_ok h).2⟩

theorem requirePaperclipSemantic_eq_ok (h : requirePaperclipSemantic t = .ok u) :
    t.capabilityProfile = .operator ∧ t.transport = .agent ∧
      Allows t.allowedDockerExecContainers paperclipContainer := by
  obtain ⟨_, hprofile, h⟩ := bind_eq_ok h
  obtain ⟨_, htransport, h⟩ := bind_eq_ok h
  exact ⟨requireOperator_eq_ok hprofile, requireThat_eq_ok htransport, checkAllow_eq_ok h⟩

/-- A path that was accepted stands under one of the roots. -/
theorem assertConfiguredPath_eq_ok {input path label : JsString} {roots : List JsString}
    (h : assertConfiguredPath input roots label = .ok path) :
    roots.any (fun root => isInsideRoot (dropTrailing (unit '/') root) path) = true := by
  unfold assertConfiguredPath at h
  dsimp only at h
  split_ifs at h with _ _ _ _ hinside
  · obtain rfl := Except.ok.inj h
    simpa using hinside

end Gates

end RemoteOps

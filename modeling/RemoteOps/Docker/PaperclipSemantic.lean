import RemoteOps.DeepHarness.AgentMesh
import RemoteOps.Docker.ReadProxy
import RemoteOps.Ecma.FiniteJson
import RemoteOps.Ecma.Normalise
import RemoteOps.Ecma.NumberText
import RemoteOps.Ecma.Utf8

/-!
# The payloads of the Paperclip program

The read proxy runs one fixed program in the Paperclip container. An operation and a payload
are its only arguments, and the payload is normalised before: converted, trimmed, filled up
with defaults and cut down to the fields of the operation. The errors are the codes that the
proxy answers, or the text of a `TypeError` where a value has no primitive form. The text of
the program is a constant of the source that nothing here looks into; it is the parameter
`script`.
-/

namespace RemoteOps

open Ecma

inductive PaperclipSemanticOperation where
  | taskDrainStatus
  | taskDrainStart
  | taskDrainStop
  | toolPoliciesList
  | toolConnectionActivitySafe
  | toolPolicyTest
  | toolPolicyCreate
  | toolPolicyDelete
  deriving DecidableEq

def PaperclipSemanticOperation.text : PaperclipSemanticOperation → JsString
  | taskDrainStatus => js "task-drain-status"
  | taskDrainStart => js "task-drain-start"
  | taskDrainStop => js "task-drain-stop"
  | toolPoliciesList => js "tool-policies-list"
  | toolConnectionActivitySafe => js "tool-connection-activity-safe"
  | toolPolicyTest => js "tool-policy-test"
  | toolPolicyCreate => js "tool-policy-create"
  | toolPolicyDelete => js "tool-policy-delete"

/-! ## Fields -/

/-- A conversion, which throws when there is no primitive form. -/
def primitiveOf {α : Type} (x : Option α) : Except JsString α :=
  match x with
  | some y => .ok y
  | none => .error (js "Cannot convert object to primitive value")

def asRecord (value : Option Json) : Except JsString Props :=
  match value with
  | some (.obj ps) => .ok ps
  | _ => .error (js "invalid_payload")

def requireGuid (value : Option Json) (label : JsString) : Except JsString JsString := do
  let s ← primitiveOf (strOrEmpty value)
  ensure (isUuid s) (js "invalid_" ++ label)
  return s

/-- One to 240 units of `[A-Za-z0-9_.:-]`. -/
def isToolName (s : JsString) : Bool := !s.isEmpty && s.length ≤ 240 && s.all isIdTail

def requireToolName (value : Option Json) (label : JsString) : Except JsString JsString := do
  let s ← primitiveOf (strOrEmpty value)
  ensure (isToolName (trim s)) (js "invalid_" ++ label)
  return trim s

def isShortText (max : ℕ) (s : JsString) : Bool := !s.isEmpty && s.length ≤ max

/-- `String(value ?? "").trim()`, from one unit to `max`. -/
def requireText (value : Option Json) (max : ℕ) (message : JsString) :
    Except JsString JsString := do
  let s ← primitiveOf (strOrEmpty value)
  ensure (isShortText max (trim s)) message
  return trim s

/-- `Number(value)`, an integer from `lo` to `hi`. -/
def requireInteger (value : Option Json) (lo hi : ℤ) (message : JsString) :
    Except JsString JsNumber := do
  let x ← primitiveOf (numOrNaN value)
  ensure (isIntegerIn lo hi x) message
  return x

/-- `value ?? fallback`. -/
def nullishOr (value : Option Json) (fallback : Json) : Json :=
  match value with
  | none => fallback
  | some .null => fallback
  | some x => x

/-! ## Selectors -/

def selectorNames : List JsString :=
  [js "agentId", js "connectionId", js "catalogEntryId", js "toolName", js "toolNames"]

/-- `if (input[name] != null) out[name] = read(input[name])`. -/
def selectorField (input : Props) (name : JsString) (read : Json → Except JsString Json) :
    Except JsString Props :=
  match lookup name input with
  | none => .ok []
  | some .null => .ok []
  | some x => do return [(name, ← read x)]

def guidSelector (label : JsString) (x : Json) : Except JsString Json :=
  Json.str <$> requireGuid (some x) label

def toolNameSelector (x : Json) : Except JsString Json :=
  Json.str <$> requireToolName (some x) (js "selector_tool_name")

def toolNamesSelector (x : Json) : Except JsString Json :=
  match x with
  | .arr xs => do
      ensure (1 ≤ xs.length && xs.length ≤ 32) (js "invalid_selector_tool_names")
      Json.arr <$> xs.mapM toolNameSelector
  | _ => .error (js "invalid_selector_tool_names")

def normalizeSelectors (value : Option Json) : Except JsString Props := do
  let input ← asRecord value
  ensure ((input.map Prod.fst).all selectorNames.contains) (js "unsupported_selector")
  let agentId ← selectorField input (js "agentId") (guidSelector (js "selector_agent_id"))
  let connectionId ←
    selectorField input (js "connectionId") (guidSelector (js "selector_connection_id"))
  let catalogEntryId ←
    selectorField input (js "catalogEntryId") (guidSelector (js "selector_catalog_entry_id"))
  let toolName ← selectorField input (js "toolName") toolNameSelector
  let toolNames ← selectorField input (js "toolNames") toolNamesSelector
  let out := agentId ++ connectionId ++ catalogEntryId ++ toolName ++ toolNames
  ensure (!out.isEmpty) (js "empty_selectors")
  return out

/-! ## The operations -/

def normalizeDrainStart (payload : Props) : Except JsString Props := do
  let ttlMs ← requireInteger (lookup (js "ttlMs") payload) 1 86400000 (js "invalid_ttl_ms")
  return [(js "ttlMs", .num ttlMs)]

theorem twenty_isInt : (20 : ℤ).natAbs < 2 ^ 53 := by norm_num

theorem hundred_isInt : (100 : ℤ).natAbs < 2 ^ 53 := by norm_num

def normalizeActivity (payload : Props) : Except JsString Props := do
  let companyId ← requireGuid (lookup (js "companyId") payload) (js "company_id")
  let connectionId ← requireGuid (lookup (js "connectionId") payload) (js "connection_id")
  let limit ← requireInteger
    (some (nullishOr (lookup (js "limit") payload) (.num (JsNumber.ofInt 20 twenty_isInt))))
    1 100 (js "invalid_activity_limit")
  let runId ← requireGuid (lookup (js "runId") payload) (js "run_id")
  let toolName ← requireToolName (lookup (js "toolName") payload) (js "tool_name")
  return [(js "companyId", .str companyId), (js "connectionId", .str connectionId),
    (js "limit", .num limit), (js "runId", .str runId), (js "toolName", .str toolName)]

def normalizePoliciesList (payload : Props) : Except JsString Props := do
  let companyId ← requireGuid (lookup (js "companyId") payload) (js "company_id")
  return [(js "companyId", .str companyId)]

def normalizePolicyDelete (payload : Props) : Except JsString Props := do
  let companyId ← requireGuid (lookup (js "companyId") payload) (js "company_id")
  let policyId ← requireGuid (lookup (js "policyId") payload) (js "policy_id")
  let expectedName ←
    requireText (lookup (js "expectedName") payload) 160 (js "invalid_expected_name")
  return [(js "companyId", .str companyId), (js "policyId", .str policyId),
    (js "expectedName", .str expectedName)]

def normalizeDescription (value : Option Json) : Except JsString Json :=
  match value with
  | none => .ok .null
  | some .null => .ok .null
  | some x => do
      let description ← primitiveOf x.toStr
      ensure (description.length ≤ 4000) (js "invalid_policy_description")
      return .str description

def policyTypes : List JsString := [js "block", js "rate_limit"]

def requirePolicyType (value : Option Json) : Except JsString JsString := do
  let policyType ← primitiveOf (strOrEmpty value)
  ensure (policyTypes.contains policyType) (js "unsupported_policy_type")
  return policyType

def rateKeys : List JsString := [js "agent", js "tool", js "connection"]

/-- `x.keyBy`: every element is converted before the first is checked. -/
def normalizeKeyBy (value : Option Json) : Except JsString (List JsString) :=
  match value with
  | some (.arr xs) => do
      ensure (1 ≤ xs.length && xs.length ≤ 4) (js "invalid_key_by")
      let keyBy ← xs.mapM fun x => primitiveOf x.toStr
      ensure (keyBy.all rateKeys.contains) (js "invalid_key_by")
      return keyBy
  | _ => .error (js "invalid_key_by")

/-- Both numbers are converted before the first is checked. -/
def normalizeRateConfig (value : Option Json) : Except JsString Json := do
  let c ← asRecord value
  let limit ← primitiveOf (numOrNaN (lookup (js "limit") c))
  let windowSeconds ← primitiveOf (numOrNaN (lookup (js "windowSeconds") c))
  ensure (isIntegerIn 1 1000 limit) (js "invalid_rate_limit")
  ensure (isIntegerIn 1 86400 windowSeconds) (js "invalid_window_seconds")
  let keyBy ← normalizeKeyBy (lookup (js "keyBy") c)
  return .obj [(js "limit", .num limit), (js "windowSeconds", .num windowSeconds),
    (js "keyBy", .arr (keyBy.map .str))]

def normalizePolicyConfig (policyType : JsString) (value : Option Json) : Except JsString Json :=
  if policyType = js "rate_limit" then normalizeRateConfig value
  else
    match value with
    | none => .ok .null
    | some .null => .ok .null
    | some _ => .error (js "block_config_not_allowed")

/-- The fields of a created policy. -/
def policyFields (companyId name : JsString) (description : Json) (policyType : JsString)
    (priority : JsNumber) (selectors : Props) (config : Json) : Props :=
  [(js "companyId", .str companyId), (js "name", .str name), (js "description", description),
    (js "policyType", .str policyType), (js "priority", .num priority),
    (js "enabled", .bool true), (js "selectors", .obj selectors), (js "conditions", .null),
    (js "config", config)]

def normalizePolicyCreate (payload : Props) : Except JsString Props := do
  let companyId ← requireGuid (lookup (js "companyId") payload) (js "company_id")
  let name ← requireText (lookup (js "name") payload) 160 (js "invalid_policy_name")
  let description ← normalizeDescription (lookup (js "description") payload)
  let policyType ← requirePolicyType (lookup (js "policyType") payload)
  let priority ← requireInteger
    (some (nullishOr (lookup (js "priority") payload) (.num (JsNumber.ofInt 100 hundred_isInt))))
    0 10000 (js "invalid_policy_priority")
  let selectors ← normalizeSelectors (lookup (js "selectors") payload)
  let config ← normalizePolicyConfig policyType (lookup (js "config") payload)
  return policyFields companyId name description policyType priority selectors config

def actorTypes : List JsString := [js "agent", js "user", js "system", js "plugin"]

def normalizeRunContext (value : Option Json) : Except JsString Json :=
  match value with
  | none => .ok .null
  | some .null => .ok .null
  | some x => Json.obj <$> asRecord (some x)

/-- The fields of a policy test. -/
def policyTestFields (companyId : JsString) (actor : Props) (runContext : Json)
    (request : Props) : Props :=
  [(js "companyId", .str companyId), (js "actor", .obj actor), (js "runContext", runContext),
    (js "request", .obj request), (js "consumeRateLimit", .bool false),
    (js "writeAuditEvent", .bool false)]

def normalizePolicyTest (payload : Props) : Except JsString Props := do
  let companyId ← requireGuid (lookup (js "companyId") payload) (js "company_id")
  let actor ← asRecord (lookup (js "actor") payload)
  let request ← asRecord (lookup (js "request") payload)
  let actorType ← primitiveOf (strOrEmpty (lookup (js "actorType") actor))
  ensure (actorTypes.contains actorType) (js "invalid_actor_type")
  let _ ← requireText (lookup (js "actorId") actor) 240 (js "invalid_actor_id")
  let _ ← requireText (lookup (js "toolName") request) 240 (js "invalid_tool_name")
  let runContext ← normalizeRunContext (lookup (js "runContext") payload)
  return policyTestFields companyId actor runContext request

def normalizePaperclipSemanticPayload (op : PaperclipSemanticOperation) (value : Option Json) :
    Except JsString Props := do
  let payload ← asRecord (some (nullishOr value (.obj [])))
  match op with
  | .taskDrainStatus => return []
  | .taskDrainStop => return []
  | .taskDrainStart => normalizeDrainStart payload
  | .toolConnectionActivitySafe => normalizeActivity payload
  | .toolPoliciesList => normalizePoliciesList payload
  | .toolPolicyDelete => normalizePolicyDelete payload
  | .toolPolicyCreate => normalizePolicyCreate payload
  | .toolPolicyTest => normalizePolicyTest payload

/-! ## The command -/

/-- The words of every command for `op`. -/
def paperclipWords (script : JsString) (op : PaperclipSemanticOperation) : List JsString :=
  [js "node", js "--import", js "/app/server/node_modules/tsx/dist/loader.mjs",
    js "--input-type=module", js "-e", script, op.text]

def paperclipSemanticExecCommand (script : JsString) (op : PaperclipSemanticOperation)
    (payload : Props) : Except JsString (List JsString) := do
  let encoded := base64url (textBytes (Json.obj payload).stringify)
  ensure (encoded.length ≤ 180000) (js "paperclip_payload_too_large")
  return paperclipWords script op ++ [encoded]

/-- The `input` of the program, from the second argument after its own. -/
def paperclipInput (encoded : JsString) : Option Json :=
  if encoded = [] then some (.obj [])
  else parse (Utf8.decode (unbase64url encoded).data.toList)

/-! ## What is accepted -/

/-- A selector that is left out or holds an accepted value. -/
inductive SelectorForm (name : JsString) (Accepted : Json → Prop) : Props → Prop where
  | absent : SelectorForm name Accepted []
  | present (x : Json) (hx : Accepted x) : SelectorForm name Accepted [(name, x)]

def GuidSelector (x : Json) : Prop := ∃ s, isUuid s = true ∧ x = .str s

def ToolNameSelector (x : Json) : Prop := ∃ s, (isToolName s = true ∧ trim s = s) ∧ x = .str s

def ToolNamesSelector (x : Json) : Prop :=
  ∃ xs, (1 ≤ xs.length ∧ xs.length ≤ 32) ∧ (∀ y ∈ xs, ToolNameSelector y) ∧ x = .arr xs

/-- At least one of the five selectors, in their order. -/
inductive SelectorsForm : Props → Prop where
  | intro (agentId connectionId catalogEntryId toolName toolNames : Props)
      (hagent : SelectorForm (js "agentId") GuidSelector agentId)
      (hconnection : SelectorForm (js "connectionId") GuidSelector connectionId)
      (hcatalog : SelectorForm (js "catalogEntryId") GuidSelector catalogEntryId)
      (htool : SelectorForm (js "toolName") ToolNameSelector toolName)
      (htools : SelectorForm (js "toolNames") ToolNamesSelector toolNames)
      (hne : agentId ++ connectionId ++ catalogEntryId ++ toolName ++ toolNames ≠ []) :
      SelectorsForm (agentId ++ connectionId ++ catalogEntryId ++ toolName ++ toolNames)

def DescriptionForm (x : Json) : Prop :=
  x = .null ∨ ∃ description, description.length ≤ 4000 ∧ x = .str description

/-- A block has no config, a rate limit a bounded one. -/
inductive ConfigForm : JsString → Json → Prop where
  | block : ConfigForm (js "block") .null
  | rateLimit (limit windowSeconds : JsNumber) (keyBy : List JsString)
      (hlimit : isIntegerIn 1 1000 limit = true)
      (hwindow : isIntegerIn 1 86400 windowSeconds = true)
      (hlength : 1 ≤ keyBy.length ∧ keyBy.length ≤ 4) (hkeys : ∀ key ∈ keyBy, key ∈ rateKeys) :
      ConfigForm (js "rate_limit") (.obj [(js "limit", .num limit),
        (js "windowSeconds", .num windowSeconds), (js "keyBy", .arr (keyBy.map .str))])

def AcceptedText (value : Option Json) : Prop :=
  ∃ s, strOrEmpty value = some s ∧ isShortText 240 (trim s) = true

def AcceptedActor (actor : Props) : Prop :=
  (∃ actorType ∈ actorTypes, strOrEmpty (lookup (js "actorType") actor) = some actorType) ∧
    AcceptedText (lookup (js "actorId") actor)

def RunContextForm (x : Json) : Prop := x = .null ∨ ∃ ps, x = .obj ps

/-- The normalised payloads of each operation. -/
inductive PaperclipForm : PaperclipSemanticOperation → Props → Prop where
  | drainStatus : PaperclipForm .taskDrainStatus []
  | drainStop : PaperclipForm .taskDrainStop []
  | drainStart (ttlMs : JsNumber) (httl : isIntegerIn 1 86400000 ttlMs = true) :
      PaperclipForm .taskDrainStart [(js "ttlMs", .num ttlMs)]
  | activity (companyId connectionId runId toolName : JsString) (limit : JsNumber)
      (hcompany : isUuid companyId = true) (hconnection : isUuid connectionId = true)
      (hlimit : isIntegerIn 1 100 limit = true) (hrun : isUuid runId = true)
      (htool : isToolName toolName = true ∧ trim toolName = toolName) :
      PaperclipForm .toolConnectionActivitySafe
        [(js "companyId", .str companyId), (js "connectionId", .str connectionId),
          (js "limit", .num limit), (js "runId", .str runId), (js "toolName", .str toolName)]
  | policiesList (companyId : JsString) (hcompany : isUuid companyId = true) :
      PaperclipForm .toolPoliciesList [(js "companyId", .str companyId)]
  | policyDelete (companyId policyId expectedName : JsString)
      (hcompany : isUuid companyId = true) (hpolicy : isUuid policyId = true)
      (hname : isShortText 160 expectedName = true ∧ trim expectedName = expectedName) :
      PaperclipForm .toolPolicyDelete [(js "companyId", .str companyId),
        (js "policyId", .str policyId), (js "expectedName", .str expectedName)]
  | policyCreate (companyId name policyType : JsString) (description config : Json)
      (priority : JsNumber) (selectors : Props) (hcompany : isUuid companyId = true)
      (hname : isShortText 160 name = true ∧ trim name = name)
      (hdescription : DescriptionForm description)
      (hpriority : isIntegerIn 0 10000 priority = true) (hselectors : SelectorsForm selectors)
      (hconfig : ConfigForm policyType config) :
      PaperclipForm .toolPolicyCreate
        (policyFields companyId name description policyType priority selectors config)
  | policyTest (companyId : JsString) (actor request : Props) (runContext : Json)
      (hcompany : isUuid companyId = true) (hactor : AcceptedActor actor)
      (htool : AcceptedText (lookup (js "toolName") request))
      (hrun : RunContextForm runContext) :
      PaperclipForm .toolPolicyTest (policyTestFields companyId actor runContext request)

/-! ## The fields normalise -/

theorem requireGuid_normalises (label : JsString) :
    Normalises (fun s => some (Json.str s)) (fun s => isUuid s = true)
      fun value => requireGuid value label :=
  Normalises.of_ensure fun _ => rfl

theorem requireToolName_normalises (label : JsString) :
    Normalises (fun s => some (Json.str s)) (fun s => isToolName s = true ∧ trim s = s)
      fun value => requireToolName value label :=
  Normalises.of_ensure_idem (fun _ => rfl) trim_trim

theorem requireText_normalises (max : ℕ) (message : JsString) :
    Normalises (fun s => some (Json.str s)) (fun s => isShortText max s = true ∧ trim s = s)
      fun value => requireText value max message :=
  Normalises.of_ensure_idem (fun _ => rfl) trim_trim

theorem requireInteger_normalises (lo hi : ℤ) (message : JsString) :
    Normalises (fun x => some (Json.num x)) (fun x => isIntegerIn lo hi x = true)
      fun value => requireInteger value lo hi message :=
  Normalises.of_ensure fun _ => rfl

theorem requirePolicyType_normalises :
    Normalises (fun s => some (Json.str s)) (fun s => policyTypes.contains s = true)
      requirePolicyType :=
  Normalises.of_ensure fun _ => rfl

theorem guidSelector_normalises (label : JsString) :
    Normalises id GuidSelector (guidSelector label) :=
  (requireGuid_normalises label).precomp.wrap fun _ => rfl

theorem toolNameSelector_normalises : Normalises id ToolNameSelector toolNameSelector :=
  (requireToolName_normalises _).precomp.wrap fun _ => rfl

theorem toolNamesSelector_normalises : Normalises id ToolNamesSelector toolNamesSelector where
  accepted {x y} hx := by
    unfold toolNamesSelector at hx
    split at hx
    · rename_i xs
      obtain ⟨hlength, hx⟩ := ensure_bind_eq_ok hx
      obtain ⟨ys, hys, hy⟩ := bind_eq_ok ((map_eq_pure_bind _ _).symm.trans hx)
      have hlength' := length_of_mapM hys
      rw [Bool.and_eq_true, decide_eq_true_iff, decide_eq_true_iff, ← hlength'] at hlength
      exact ⟨ys, hlength, toolNameSelector_normalises.mapM.accepted hys,
        (Except.ok.inj hy).symm⟩
    · cases hx
  fixed {y} hy := by
    obtain ⟨ys, hlength, hys, rfl⟩ := hy
    have hread := toolNameSelector_normalises.mapM.fixed hys
    rw [List.map_id] at hread
    rw [id, toolNamesSelector, ensure_true (by simpa using hlength), hread]
    rfl

theorem normalizeDescription_normalises :
    Normalises some DescriptionForm normalizeDescription where
  accepted {value y} h := by
    unfold normalizeDescription at h
    split at h
    · exact .inl (Except.ok.inj h).symm
    · exact .inl (Except.ok.inj h).symm
    · obtain ⟨description, -, h⟩ := bind_eq_ok h
      obtain ⟨hlength, h⟩ := ensure_bind_eq_ok h
      exact .inr ⟨description, of_decide_eq_true hlength, (Except.ok.inj h).symm⟩
  fixed {y} hy := by
    obtain rfl | ⟨description, hlength, rfl⟩ := hy
    · rfl
    · rw [normalizeDescription, Json.toStr, primitiveOf, ok_bind,
        ensure_true (decide_eq_true hlength)]
      · rfl
      · intro h
        cases h

theorem normalizeRunContext_normalises :
    Normalises some RunContextForm normalizeRunContext where
  accepted {value y} h := by
    unfold normalizeRunContext at h
    split at h
    · exact .inl (Except.ok.inj h).symm
    · exact .inl (Except.ok.inj h).symm
    · obtain ⟨ps, -, hy⟩ := bind_eq_ok ((map_eq_pure_bind _ _).symm.trans h)
      exact .inr ⟨ps, (Except.ok.inj hy).symm⟩
  fixed {y} hy := by
    obtain rfl | ⟨ps, rfl⟩ := hy
    · rfl
    · rfl

/-! ## The selectors normalise -/

namespace SelectorForm

variable {name : JsString} {Accepted : Json → Prop} {ps : Props}

theorem lookup_of_ne (h : SelectorForm name Accepted ps) {k : JsString} (hk : name ≠ k) :
    lookup k ps = none := by
  cases h with
  | absent => rfl
  | present x hx => rw [lookup, if_neg hk, lookup]

theorem sublist (h : SelectorForm name Accepted ps) : (ps.map Prod.fst).Sublist [name] := by
  cases h with
  | absent => exact List.nil_sublist _
  | present x hx => exact List.Sublist.refl _

end SelectorForm

section Selector

variable {name : JsString} {Accepted : Json → Prop} {read : Json → Except JsString Json}
  {input ps : Props}

theorem selectorForm_of_field (h : Normalises id Accepted read)
    (hps : selectorField input name read = .ok ps) : SelectorForm name Accepted ps := by
  unfold selectorField at hps
  split at hps
  · rw [← Except.ok.inj hps]
    exact .absent
  · rw [← Except.ok.inj hps]
    exact .absent
  · obtain ⟨y, hy, hps⟩ := bind_eq_ok hps
    rw [← Except.ok.inj hps]
    exact .present y (h.accepted hy)

/-- A selector is read again from an input that has it. -/
theorem selectorField_of_form (h : Normalises id Accepted read) (hnull : ¬Accepted .null)
    (hps : SelectorForm name Accepted ps) (hinput : lookup name input = lookup name ps) :
    selectorField input name read = .ok ps := by
  cases hps with
  | absent => rw [selectorField, hinput, lookup]
  | present x hx =>
      rw [lookup, if_pos rfl] at hinput
      have hread := h.fixed hx
      rw [id] at hread
      unfold selectorField
      split
      · rename_i hnone
        cases hinput.symm.trans hnone
      · rename_i hsome
        cases hinput.symm.trans hsome
        exact absurd hx hnull
      · rename_i y _ hsome
        cases hinput.symm.trans hsome
        rw [hread, ok_bind]
        rfl

end Selector

theorem not_guidSelector_null : ¬GuidSelector .null := by
  rintro ⟨s, -, h⟩
  cases h

theorem not_toolNameSelector_null : ¬ToolNameSelector .null := by
  rintro ⟨s, -, h⟩
  cases h

theorem not_toolNamesSelector_null : ¬ToolNamesSelector .null := by
  rintro ⟨xs, -, -, h⟩
  cases h

/-- The selectors are among the five and none occurs twice. -/
theorem SelectorsForm.sublist {ps : Props} (h : SelectorsForm ps) :
    (ps.map Prod.fst).Sublist selectorNames := by
  cases h with
  | intro a b c d e ha hb hc hd he hne =>
      simp only [List.map_append]
      exact (((ha.sublist.append hb.sublist).append hc.sublist).append hd.sublist).append
        he.sublist

theorem normalizeSelectors_normalises :
    Normalises (fun ps => some (Json.obj ps)) SelectorsForm normalizeSelectors where
  accepted {value ps} h := by
    obtain ⟨input, -, h⟩ := bind_eq_ok h
    obtain ⟨-, h⟩ := ensure_bind_eq_ok h
    obtain ⟨a, ha, h⟩ := bind_eq_ok h
    obtain ⟨b, hb, h⟩ := bind_eq_ok h
    obtain ⟨c, hc, h⟩ := bind_eq_ok h
    obtain ⟨d, hd, h⟩ := bind_eq_ok h
    obtain ⟨e, he, h⟩ := bind_eq_ok h
    obtain ⟨hne, h⟩ := ensure_bind_eq_ok h
    rw [← Except.ok.inj h]
    refine .intro a b c d e (selectorForm_of_field (guidSelector_normalises _) ha)
      (selectorForm_of_field (guidSelector_normalises _) hb)
      (selectorForm_of_field (guidSelector_normalises _) hc)
      (selectorForm_of_field toolNameSelector_normalises hd)
      (selectorForm_of_field toolNamesSelector_normalises he) ?_
    simpa using hne
  fixed {ps} h := by
    have hnames : ((ps.map Prod.fst).all selectorNames.contains) = true :=
      List.all_eq_true.mpr fun k hk => List.contains_iff_mem.mpr (h.sublist.subset hk)
    cases h with
    | intro a b c d e ha hb hc hd he hne =>
        have hread {name : JsString} {Accepted : Json → Prop}
            {read : Json → Except JsString Json} {part : Props}
            (hnorm : Normalises id Accepted read) (hnull : ¬Accepted .null)
            (hpart : SelectorForm name Accepted part)
            (hlookup : lookup name (a ++ b ++ c ++ d ++ e) = lookup name part) :=
          selectorField_of_form hnorm hnull hpart hlookup
        have hagent := hread (guidSelector_normalises (js "selector_agent_id"))
          not_guidSelector_null ha (by
            simp (disch := decide) only [lookup_append, hb.lookup_of_ne, hc.lookup_of_ne,
              hd.lookup_of_ne, he.lookup_of_ne, Option.or_none])
        have hconnection := hread (guidSelector_normalises (js "selector_connection_id"))
          not_guidSelector_null hb (by
            simp (disch := decide) only [lookup_append, ha.lookup_of_ne, hc.lookup_of_ne,
              hd.lookup_of_ne, he.lookup_of_ne, Option.or_none, Option.none_or])
        have hcatalog := hread (guidSelector_normalises (js "selector_catalog_entry_id"))
          not_guidSelector_null hc (by
            simp (disch := decide) only [lookup_append, ha.lookup_of_ne, hb.lookup_of_ne,
              hd.lookup_of_ne, he.lookup_of_ne, Option.or_none, Option.none_or])
        have htool := hread toolNameSelector_normalises not_toolNameSelector_null hd (by
            simp (disch := decide) only [lookup_append, ha.lookup_of_ne, hb.lookup_of_ne,
              hc.lookup_of_ne, he.lookup_of_ne, Option.or_none, Option.none_or])
        have htools := hread toolNamesSelector_normalises not_toolNamesSelector_null he (by
            simp (disch := decide) only [lookup_append, ha.lookup_of_ne, hb.lookup_of_ne,
              hc.lookup_of_ne, hd.lookup_of_ne, Option.none_or])
        have hsome : (!(a ++ b ++ c ++ d ++ e).isEmpty) = true := by simpa using hne
        rw [normalizeSelectors, asRecord, ok_bind, ensure_true hnames, hagent, ok_bind,
          hconnection, ok_bind, hcatalog, ok_bind, htool, ok_bind, htools, ok_bind,
          ensure_true hsome]
        rfl

/-! ## The config normalises -/

theorem primitiveOf_toStr_normalises :
    Normalises Json.str (fun _ => True) fun x : Json => primitiveOf x.toStr :=
  ⟨fun _ => trivial, fun _ => rfl⟩

theorem normalizeKeyBy_normalises :
    Normalises (fun keyBy => some (Json.arr (keyBy.map .str)))
      (fun keyBy => (1 ≤ keyBy.length ∧ keyBy.length ≤ 4) ∧ ∀ key ∈ keyBy, key ∈ rateKeys)
      normalizeKeyBy where
  accepted {value keyBy} h := by
    unfold normalizeKeyBy at h
    split at h
    · obtain ⟨hlength, h⟩ := ensure_bind_eq_ok h
      obtain ⟨keys, hkeys, h⟩ := bind_eq_ok h
      obtain ⟨hall, h⟩ := ensure_bind_eq_ok h
      rw [Bool.and_eq_true, decide_eq_true_iff, decide_eq_true_iff, ← length_of_mapM hkeys]
        at hlength
      rw [← Except.ok.inj h]
      exact ⟨hlength, fun key hkey =>
        List.contains_iff_mem.mp (List.all_eq_true.mp hall key hkey)⟩
    · cases h
  fixed {keyBy} h := by
    obtain ⟨hlength, hkeys⟩ := h
    have hread := primitiveOf_toStr_normalises.mapM.fixed (b := keyBy) fun _ _ => trivial
    have hall : keyBy.all rateKeys.contains = true :=
      List.all_eq_true.mpr fun key hkey => List.contains_iff_mem.mpr (hkeys key hkey)
    rw [normalizeKeyBy, ensure_true (by simpa using hlength), hread, ok_bind,
      ensure_true hall]
    rfl

theorem normalizePolicyConfig_normalises (policyType : JsString)
    (htype : policyTypes.contains policyType = true) :
    Normalises some (ConfigForm policyType) (normalizePolicyConfig policyType) where
  accepted {value config} h := by
    unfold normalizePolicyConfig at h
    split at h
    · rename_i heq
      obtain ⟨c, -, h⟩ := bind_eq_ok h
      obtain ⟨limit, -, h⟩ := bind_eq_ok h
      obtain ⟨windowSeconds, -, h⟩ := bind_eq_ok h
      obtain ⟨hlimit, h⟩ := ensure_bind_eq_ok h
      obtain ⟨hwindow, h⟩ := ensure_bind_eq_ok h
      obtain ⟨keyBy, hkeyBy, h⟩ := bind_eq_ok h
      obtain ⟨hlength, hkeys⟩ := normalizeKeyBy_normalises.accepted hkeyBy
      rw [heq, ← Except.ok.inj h]
      exact .rateLimit limit windowSeconds keyBy hlimit hwindow hlength hkeys
    · rename_i hne
      have hblock : policyType = js "block" := by
        have hmem := List.contains_iff_mem.mp htype
        rcases List.mem_cons.mp hmem with h | h
        · exact h
        · exact absurd (List.mem_singleton.mp h) hne
      split at h
      · rw [hblock, ← Except.ok.inj h]
        exact .block
      · rw [hblock, ← Except.ok.inj h]
        exact .block
      · cases h
  fixed {config} h := by
    cases h with
    | block => rfl
    | rateLimit limit windowSeconds keyBy hlimit hwindow hlength hkeys =>
        have hread := normalizeKeyBy_normalises.fixed ⟨hlength, hkeys⟩
        unfold normalizePolicyConfig
        rw [if_pos rfl, normalizeRateConfig, asRecord, ok_bind]
        change (ensure (isIntegerIn 1 1000 limit) _ >>= _) = _
        rw [ensure_true hlimit, ensure_true hwindow]
        change (normalizeKeyBy (some (.arr (keyBy.map .str))) >>= _) = _
        rw [hread]
        rfl

/-! ## The payloads normalise -/

theorem asRecord_eq_ok {value : Option Json} {ps : Props} (h : asRecord value = .ok ps) :
    value = some (.obj ps) := by
  unfold asRecord at h
  split at h
  · rw [Except.ok.inj h]
  · cases h

theorem requireText_accepted {value : Option Json} {s message : JsString}
    (h : requireText value 240 message = .ok s) : AcceptedText value := by
  obtain ⟨raw, hraw, h⟩ := bind_eq_ok h
  obtain ⟨hshort, -⟩ := ensure_bind_eq_ok h
  refine ⟨raw, ?_, hshort⟩
  unfold primitiveOf at hraw
  split at hraw
  · rename_i y hy
    rw [hy, Except.ok.inj hraw]
  · cases hraw

theorem requireText_of_accepted {value : Option Json} (h : AcceptedText value)
    (message : JsString) : ∃ s, requireText value 240 message = .ok s := by
  obtain ⟨raw, hraw, hshort⟩ := h
  refine ⟨trim raw, ?_⟩
  rw [requireText, hraw, primitiveOf, ok_bind, ensure_true hshort]
  rfl

/-- What a policy test takes from its payload. -/
theorem normalizePolicyTest_eq_ok {payload r : Props} (h : normalizePolicyTest payload = .ok r) :
    ∃ companyId actor request runContext,
      r = policyTestFields companyId actor runContext request ∧ isUuid companyId = true ∧
        lookup (js "actor") payload = some (.obj actor) ∧ AcceptedActor actor ∧
        lookup (js "request") payload = some (.obj request) ∧
        AcceptedText (lookup (js "toolName") request) ∧
        normalizeRunContext (lookup (js "runContext") payload) = .ok runContext := by
  obtain ⟨companyId, hcompany, h⟩ := bind_eq_ok h
  obtain ⟨actor, hactor, h⟩ := bind_eq_ok h
  obtain ⟨request, hrequest, h⟩ := bind_eq_ok h
  obtain ⟨actorType, htype, h⟩ := bind_eq_ok h
  obtain ⟨hmem, h⟩ := ensure_bind_eq_ok h
  obtain ⟨actorId, hid, h⟩ := bind_eq_ok h
  obtain ⟨toolName, htool, h⟩ := bind_eq_ok h
  obtain ⟨runContext, hrun, h⟩ := bind_eq_ok h
  refine ⟨companyId, actor, request, runContext, (Except.ok.inj h).symm,
    (requireGuid_normalises _).accepted hcompany, asRecord_eq_ok hactor, ⟨⟨actorType, ?_, ?_⟩, ?_⟩,
    asRecord_eq_ok hrequest, requireText_accepted htool, hrun⟩
  · exact List.contains_iff_mem.mp hmem
  · unfold primitiveOf at htype
    split at htype
    · rename_i y hy
      rw [hy, Except.ok.inj htype]
    · cases htype
  · exact requireText_accepted hid

theorem form_of_normalize {op : PaperclipSemanticOperation} {value : Option Json} {r : Props}
    (h : normalizePaperclipSemanticPayload op value = .ok r) : PaperclipForm op r := by
  obtain ⟨payload, -, h⟩ := bind_eq_ok h
  cases op with
  | taskDrainStatus =>
      rw [← Except.ok.inj h]
      exact .drainStatus
  | taskDrainStop =>
      rw [← Except.ok.inj h]
      exact .drainStop
  | taskDrainStart =>
      obtain ⟨ttlMs, httl, h⟩ := bind_eq_ok h
      rw [← Except.ok.inj h]
      exact .drainStart ttlMs ((requireInteger_normalises _ _ _).accepted httl)
  | toolConnectionActivitySafe =>
      obtain ⟨companyId, hcompany, h⟩ := bind_eq_ok h
      obtain ⟨connectionId, hconnection, h⟩ := bind_eq_ok h
      obtain ⟨limit, hlimit, h⟩ := bind_eq_ok h
      obtain ⟨runId, hrun, h⟩ := bind_eq_ok h
      obtain ⟨toolName, htool, h⟩ := bind_eq_ok h
      rw [← Except.ok.inj h]
      exact .activity companyId connectionId runId toolName limit
        ((requireGuid_normalises _).accepted hcompany)
        ((requireGuid_normalises _).accepted hconnection)
        ((requireInteger_normalises _ _ _).accepted hlimit)
        ((requireGuid_normalises _).accepted hrun)
        ((requireToolName_normalises _).accepted htool)
  | toolPoliciesList =>
      obtain ⟨companyId, hcompany, h⟩ := bind_eq_ok h
      rw [← Except.ok.inj h]
      exact .policiesList companyId ((requireGuid_normalises _).accepted hcompany)
  | toolPolicyDelete =>
      obtain ⟨companyId, hcompany, h⟩ := bind_eq_ok h
      obtain ⟨policyId, hpolicy, h⟩ := bind_eq_ok h
      obtain ⟨expectedName, hname, h⟩ := bind_eq_ok h
      rw [← Except.ok.inj h]
      exact .policyDelete companyId policyId expectedName
        ((requireGuid_normalises _).accepted hcompany)
        ((requireGuid_normalises _).accepted hpolicy)
        ((requireText_normalises _ _).accepted hname)
  | toolPolicyCreate =>
      obtain ⟨companyId, hcompany, h⟩ := bind_eq_ok h
      obtain ⟨name, hname, h⟩ := bind_eq_ok h
      obtain ⟨description, hdescription, h⟩ := bind_eq_ok h
      obtain ⟨policyType, htype, h⟩ := bind_eq_ok h
      obtain ⟨priority, hpriority, h⟩ := bind_eq_ok h
      obtain ⟨selectors, hselectors, h⟩ := bind_eq_ok h
      obtain ⟨config, hconfig, h⟩ := bind_eq_ok h
      have hknown := requirePolicyType_normalises.accepted htype
      rw [← Except.ok.inj h]
      exact .policyCreate companyId name policyType description config priority selectors
        ((requireGuid_normalises _).accepted hcompany)
        ((requireText_normalises _ _).accepted hname)
        (normalizeDescription_normalises.accepted hdescription)
        ((requireInteger_normalises _ _ _).accepted hpriority)
        (normalizeSelectors_normalises.accepted hselectors)
        ((normalizePolicyConfig_normalises _ hknown).accepted hconfig)
  | toolPolicyTest =>
      obtain ⟨companyId, actor, request, runContext, rfl, hcompany, -, hactor, -, htool, hrun⟩ :=
        normalizePolicyTest_eq_ok h
      exact .policyTest companyId actor request runContext hcompany hactor htool
        (normalizeRunContext_normalises.accepted hrun)

/-- The type of a config is one of the two. -/
theorem ConfigForm.known {policyType : JsString} {config : Json}
    (h : ConfigForm policyType config) : policyTypes.contains policyType = true := by
  cases h with
  | block => decide
  | rateLimit limit windowSeconds keyBy hlimit hwindow hlength hkeys => decide

theorem normalize_of_form {op : PaperclipSemanticOperation} {r : Props}
    (h : PaperclipForm op r) :
    normalizePaperclipSemanticPayload op (some (.obj r)) = .ok r := by
  have hpayload : nullishOr (some (Json.obj r)) (.obj []) = .obj r := rfl
  rw [normalizePaperclipSemanticPayload, hpayload, asRecord, ok_bind]
  cases h with
  | drainStatus => rfl
  | drainStop => rfl
  | drainStart ttlMs httl =>
      change (requireInteger (some (.num ttlMs)) _ _ _ >>= _) = _
      rw [(requireInteger_normalises _ _ _).fixed httl]
      rfl
  | activity companyId connectionId runId toolName limit hcompany hconnection hlimit hrun htool =>
      change (requireGuid (some (.str companyId)) _ >>= _) = _
      rw [(requireGuid_normalises _).fixed hcompany, ok_bind]
      change (requireGuid (some (.str connectionId)) _ >>= _) = _
      rw [(requireGuid_normalises _).fixed hconnection, ok_bind]
      change (requireInteger (some (.num limit)) _ _ _ >>= _) = _
      rw [(requireInteger_normalises _ _ _).fixed hlimit, ok_bind]
      change (requireGuid (some (.str runId)) _ >>= _) = _
      rw [(requireGuid_normalises _).fixed hrun, ok_bind]
      change (requireToolName (some (.str toolName)) _ >>= _) = _
      rw [(requireToolName_normalises _).fixed htool]
      rfl
  | policiesList companyId hcompany =>
      change (requireGuid (some (.str companyId)) _ >>= _) = _
      rw [(requireGuid_normalises _).fixed hcompany]
      rfl
  | policyDelete companyId policyId expectedName hcompany hpolicy hname =>
      change (requireGuid (some (.str companyId)) _ >>= _) = _
      rw [(requireGuid_normalises _).fixed hcompany, ok_bind]
      change (requireGuid (some (.str policyId)) _ >>= _) = _
      rw [(requireGuid_normalises _).fixed hpolicy, ok_bind]
      change (requireText (some (.str expectedName)) _ _ >>= _) = _
      rw [(requireText_normalises _ _).fixed hname]
      rfl
  | policyCreate companyId name policyType description config priority selectors hcompany hname
      hdescription hpriority hselectors hconfig =>
      change (requireGuid (some (.str companyId)) _ >>= _) = _
      rw [(requireGuid_normalises _).fixed hcompany, ok_bind]
      change (requireText (some (.str name)) _ _ >>= _) = _
      rw [(requireText_normalises _ _).fixed hname, ok_bind]
      change (normalizeDescription (some description) >>= _) = _
      rw [normalizeDescription_normalises.fixed hdescription, ok_bind]
      change (requirePolicyType (some (.str policyType)) >>= _) = _
      rw [requirePolicyType_normalises.fixed hconfig.known, ok_bind]
      change (requireInteger (some (.num priority)) _ _ _ >>= _) = _
      rw [(requireInteger_normalises _ _ _).fixed hpriority, ok_bind]
      change (normalizeSelectors (some (.obj selectors)) >>= _) = _
      rw [normalizeSelectors_normalises.fixed hselectors, ok_bind]
      change (normalizePolicyConfig policyType (some config) >>= _) = _
      rw [(normalizePolicyConfig_normalises _ hconfig.known).fixed hconfig]
      rfl
  | policyTest companyId actor request runContext hcompany hactor htool hrun =>
      obtain ⟨⟨actorType, hmem, htype⟩, hid⟩ := hactor
      obtain ⟨actorId, hid⟩ := requireText_of_accepted hid (js "invalid_actor_id")
      obtain ⟨toolName, htool⟩ := requireText_of_accepted htool (js "invalid_tool_name")
      change (requireGuid (some (.str companyId)) _ >>= _) = _
      rw [(requireGuid_normalises _).fixed hcompany, ok_bind]
      change (primitiveOf (strOrEmpty (lookup (js "actorType") actor)) >>= _) = _
      rw [htype, primitiveOf, ok_bind, ensure_true (List.contains_iff_mem.mpr hmem), hid, ok_bind,
        htool, ok_bind]
      change (normalizeRunContext (some runContext) >>= _) = _
      rw [normalizeRunContext_normalises.fixed hrun]
      rfl

/-- The payloads that an operation normalises to are those it leaves as they are. -/
theorem paperclip_normalises (op : PaperclipSemanticOperation) :
    Normalises (fun r => some (Json.obj r)) (PaperclipForm op)
      (normalizePaperclipSemanticPayload op) :=
  ⟨form_of_normalize, normalize_of_form⟩

/-! ## The command carries the payload -/

def topLevelFields : PaperclipSemanticOperation → List JsString
  | .taskDrainStatus => []
  | .taskDrainStart => [js "ttlMs"]
  | .taskDrainStop => []
  | .toolPoliciesList => [js "companyId"]
  | .toolConnectionActivitySafe =>
      [js "companyId", js "connectionId", js "limit", js "runId", js "toolName"]
  | .toolPolicyTest =>
      [js "companyId", js "actor", js "runContext", js "request", js "consumeRateLimit",
        js "writeAuditEvent"]
  | .toolPolicyCreate =>
      [js "companyId", js "name", js "description", js "policyType", js "priority",
        js "enabled", js "selectors", js "conditions", js "config"]
  | .toolPolicyDelete => [js "companyId", js "policyId", js "expectedName"]

theorem map_fst_of_form {op : PaperclipSemanticOperation} {r : Props} (h : PaperclipForm op r) :
    r.map Prod.fst = topLevelFields op := by
  cases h <;> rfl

/-- Distinct names, none of them an index, stand in their order. -/
theorem fromEntries_of_sublist {ps : Props} {names : List JsString}
    (h : (ps.map Prod.fst).Sublist names) (hnodup : names.Nodup)
    (hnames : ∀ key ∈ names, isIndexKey key = none) : fromEntries ps = ps :=
  fromEntries_eq_self (h.nodup hnodup) fun key hkey => hnames key (h.subset hkey)

theorem topLevelFields_nodup (op : PaperclipSemanticOperation) : (topLevelFields op).Nodup := by
  cases op <;> decide

theorem topLevelFields_names (op : PaperclipSemanticOperation) :
    ∀ key ∈ topLevelFields op, isIndexKey key = none := by
  cases op <;> decide

theorem SelectorForm.canonical {name : JsString} {Accepted : Json → Prop} {ps : Props}
    (h : SelectorForm name Accepted ps) (hcanonical : ∀ x, Accepted x → x.Canonical) :
    ∀ p ∈ ps, p.2.Canonical := by
  cases h with
  | absent => exact List.forall_mem_nil _
  | present x hx => exact List.forall_mem_singleton.mpr (hcanonical x hx)

theorem GuidSelector.canonical (x : Json) (h : GuidSelector x) : x.Canonical := by
  obtain ⟨s, -, rfl⟩ := h
  exact .str s

theorem ToolNameSelector.canonical (x : Json) (h : ToolNameSelector x) : x.Canonical := by
  obtain ⟨s, -, rfl⟩ := h
  exact .str s

theorem ToolNamesSelector.canonical (x : Json) (h : ToolNamesSelector x) : x.Canonical := by
  obtain ⟨xs, -, hxs, rfl⟩ := h
  exact .arr fun y hy => ToolNameSelector.canonical y (hxs y hy)

theorem SelectorsForm.canonical {ps : Props} (h : SelectorsForm ps) :
    (Json.obj ps).Canonical := by
  refine .obj ?_ (fromEntries_of_sublist h.sublist (by decide) (by decide))
  cases h with
  | intro a b c d e ha hb hc hd he hne =>
      simp only [List.forall_mem_append]
      exact ⟨⟨⟨⟨ha.canonical GuidSelector.canonical, hb.canonical GuidSelector.canonical⟩,
        hc.canonical GuidSelector.canonical⟩, hd.canonical ToolNameSelector.canonical⟩,
        he.canonical ToolNamesSelector.canonical⟩

theorem DescriptionForm.canonical {x : Json} (h : DescriptionForm x) : x.Canonical := by
  obtain rfl | ⟨description, -, rfl⟩ := h
  · exact .null
  · exact .str description

theorem ConfigForm.canonical {policyType : JsString} {config : Json}
    (h : ConfigForm policyType config) : config.Canonical := by
  cases h with
  | block => exact .null
  | rateLimit limit windowSeconds keyBy hlimit hwindow hlength hkeys =>
      have hkey : ∀ x ∈ keyBy.map Json.str, x.Canonical := by
        intro x hx
        obtain ⟨key, -, rfl⟩ := List.mem_map.mp hx
        exact .str key
      refine .obj ?_ rfl
      simp only [List.forall_mem_cons]
      exact ⟨.num limit, .num windowSeconds, .arr hkey, List.forall_mem_nil _⟩

theorem canonical_of_lookup {ps : Props} {k : JsString} {x : Json}
    (hps : ∀ p ∈ ps, p.2.Canonical) (h : lookup k ps = some x) : x.Canonical := by
  induction ps with
  | nil => cases h
  | cons p ps ih =>
      obtain ⟨hp, hrest⟩ := List.forall_mem_cons.mp hps
      obtain ⟨k', y⟩ := p
      rw [lookup] at h
      split_ifs at h
      · rw [← Option.some.inj h]
        exact hp
      · exact ih hrest h

theorem canonical_runContext {value : Option Json} {x : Json}
    (hvalue : ∀ y ∈ value, y.Canonical) (h : normalizeRunContext value = .ok x) :
    x.Canonical := by
  unfold normalizeRunContext at h
  split at h
  · rw [← Except.ok.inj h]
    exact .null
  · rw [← Except.ok.inj h]
    exact .null
  · rename_i y _
    obtain ⟨ps, hps, h⟩ := bind_eq_ok ((map_eq_pure_bind _ _).symm.trans h)
    rw [← Except.ok.inj h, ← Option.some.inj (asRecord_eq_ok hps)]
    exact hvalue y rfl

/-- A payload that is normalised keeps the order of its properties. -/
theorem canonical_of_normalize {op : PaperclipSemanticOperation} {value : Option Json}
    {r : Props} (hvalue : ∀ x ∈ value, x.Canonical)
    (h : normalizePaperclipSemanticPayload op value = .ok r) : (Json.obj r).Canonical := by
  have hform := form_of_normalize h
  have hfields : (r.map Prod.fst).Sublist (topLevelFields op) := by
    rw [map_fst_of_form hform]
  refine .obj ?_ (fromEntries_of_sublist hfields (topLevelFields_nodup op)
    (topLevelFields_names op))
  cases hform with
  | drainStatus => exact List.forall_mem_nil _
  | drainStop => exact List.forall_mem_nil _
  | drainStart ttlMs httl => exact List.forall_mem_singleton.mpr (.num ttlMs)
  | activity companyId connectionId runId toolName limit hcompany hconnection hlimit hrun htool =>
      simp only [List.forall_mem_cons]
      exact ⟨.str _, .str _, .num _, .str _, .str _, List.forall_mem_nil _⟩
  | policiesList companyId hcompany => exact List.forall_mem_singleton.mpr (.str companyId)
  | policyDelete companyId policyId expectedName hcompany hpolicy hname =>
      simp only [List.forall_mem_cons]
      exact ⟨.str _, .str _, .str _, List.forall_mem_nil _⟩
  | policyCreate companyId name policyType description config priority selectors hcompany hname
      hdescription hpriority hselectors hconfig =>
      simp only [policyFields, List.forall_mem_cons]
      exact ⟨.str _, .str _, hdescription.canonical, .str _, .num _, .bool _,
        hselectors.canonical, .null, hconfig.canonical, List.forall_mem_nil _⟩
  | policyTest companyId actor request runContext hcompany hactor htool hrun =>
      obtain ⟨payload, hpayload, h⟩ := bind_eq_ok h
      have hmembers : ∀ p ∈ payload, p.2.Canonical := by
        have hcanonical : (nullishOr value (.obj [])).Canonical := by
          unfold nullishOr
          split
          · exact .obj (List.forall_mem_nil _) rfl
          · exact .obj (List.forall_mem_nil _) rfl
          · exact hvalue _ rfl
        rw [Option.some.inj (asRecord_eq_ok hpayload)] at hcanonical
        exact (canonical_obj_iff.mp hcanonical).1
      obtain ⟨companyId', actor', request', runContext', heq, -, hactor', -, hrequest', -, hrun'⟩ :=
        normalizePolicyTest_eq_ok h
      rw [heq]
      simp only [policyTestFields, List.forall_mem_cons]
      exact ⟨.str _, canonical_of_lookup hmembers hactor',
        canonical_runContext (fun y hy => canonical_of_lookup hmembers hy) hrun',
        canonical_of_lookup hmembers hrequest', .bool _, .bool _, List.forall_mem_nil _⟩

/-- The program reads the value that was written, with `null` for what JSON cannot write. -/
theorem paperclipInput_base64url {x : Json} (h : x.Canonical) :
    paperclipInput (base64url (textBytes x.stringify)) = some x.finite := by
  have hread : parse (Utf8.decode
      (unbase64url (base64url (textBytes x.stringify))).data.toList) = some x.finite := by
    rw [unbase64url_base64url, Utf8.toList_textBytes, Utf8.decode_encode,
      parse_stringify_finite h]
  rw [paperclipInput, if_neg, hread]
  intro hnil
  rw [hnil] at hread
  cases hread

/-- Normalising is done once: a normalised payload has the form of its operation and is left as
it is, and the command carries it in its last word, the others being those of the operation.
The numbers that are not finite arrive as `null`. `JSON.parse` returns canonical values
(`canonical_of_parse`). -/
theorem normalized_once (script : JsString) (op : PaperclipSemanticOperation)
    (value : Option Json) (r : Props) (hvalue : ∀ x ∈ value, x.Canonical)
    (h : normalizePaperclipSemanticPayload op value = .ok r) :
    normalizePaperclipSemanticPayload op (some (.obj r)) = .ok r ∧
      PaperclipForm op r ∧ r.map Prod.fst = topLevelFields op ∧
      ∀ words, paperclipSemanticExecCommand script op r = .ok words →
        ∃ encoded, words = paperclipWords script op ++ [encoded] ∧
          paperclipInput encoded = some (Json.obj r).finite ∧
          ((Json.obj r).finite = .obj r ↔ (Json.obj r).AllFinite) := by
  have hform := form_of_normalize h
  refine ⟨(paperclip_normalises op).idem h, hform, map_fst_of_form hform, ?_⟩
  intro words hwords
  obtain ⟨-, hwords⟩ := ensure_bind_eq_ok hwords
  exact ⟨_, (Except.ok.inj hwords).symm,
    paperclipInput_base64url (canonical_of_normalize hvalue h), finite_eq_self_iff⟩

/-- The `paperclipExec` of the read proxy. An error of the payload is answered, and a command that
is too large is an exception that nobody catches. -/
def paperclipRoute (script : JsString) (op : PaperclipSemanticOperation) (payload : Json) :
    Checked ExecSpec := do
  let normalized ← (normalizePaperclipSemanticPayload op (some payload)).mapError (.error 400)
  let cmd ← (paperclipSemanticExecCommand script op normalized).mapError fun _ => upstreamError
  return { cmd }

/-- Whatever the body of the request, the proxy runs the fixed program with a payload that has the
form of the operation. -/
theorem paperclipRoute_runs {script : JsString} {op : PaperclipSemanticOperation} {payload : Json}
    {spec : ExecSpec} (hpayload : payload.Canonical)
    (h : paperclipRoute script op payload = .ok spec) :
    ∃ r encoded, PaperclipForm op r ∧
      spec = { cmd := paperclipWords script op ++ [encoded] } ∧
      paperclipInput encoded = some (Json.obj r).finite := by
  obtain ⟨r, hr, h⟩ := bind_eq_ok h
  obtain ⟨cmd, hcmd, h⟩ := bind_eq_ok h
  obtain ⟨-, hwords⟩ := ensure_bind_eq_ok (mapError_eq_ok hcmd)
  have hr := mapError_eq_ok hr
  have hcanonical := canonical_of_normalize (fun x hx => Option.some.inj hx ▸ hpayload) hr
  refine ⟨r, _, form_of_normalize hr, ?_, paperclipInput_base64url hcanonical⟩
  rw [← Except.ok.inj h, ← Except.ok.inj hwords]

/-! ## A policy test -/

def sampleCompany : JsString := js "5d7ec217-118c-4292-8136-0a9ab16926ea"

def sampleActor : Props :=
  [(js "actorType", .str (js "user")), (js "actorId", .str (js "owner-test"))]

/-- A request for a tool with one argument. -/
def toolRequest (pageSize : JsNumber) : Props :=
  [(js "toolName", .str (js "vendaerp_search_products")),
    (js "arguments", .obj [(js "pageSize", .num pageSize)])]

/-- A policy test that asks to be counted and recorded. -/
def countedTest (pageSize : JsNumber) : Json :=
  .obj [(js "companyId", .str sampleCompany), (js "actor", .obj sampleActor),
    (js "request", .obj (toolRequest pageSize)), (js "consumeRateLimit", .bool true),
    (js "writeAuditEvent", .bool true)]

theorem normalize_countedTest (pageSize : JsNumber) :
    normalizePaperclipSemanticPayload .toolPolicyTest (some (countedTest pageSize)) =
      .ok (policyTestFields sampleCompany sampleActor .null (toolRequest pageSize)) := by
  rfl

theorem canonical_countedTest (pageSize : JsNumber) : (countedTest pageSize).Canonical := by
  have hactor : (Json.obj sampleActor).Canonical := by
    refine .obj ?_ rfl
    simp only [sampleActor, List.forall_mem_cons]
    exact ⟨.str _, .str _, List.forall_mem_nil _⟩
  have hrequest : (Json.obj (toolRequest pageSize)).Canonical := by
    refine .obj ?_ rfl
    simp only [toolRequest, List.forall_mem_cons]
    exact ⟨.str _, .obj (List.forall_mem_singleton.mpr (.num pageSize)) rfl,
      List.forall_mem_nil _⟩
  refine .obj ?_ rfl
  simp only [List.forall_mem_cons]
  exact ⟨.str _, hactor, hrequest, .bool _, .bool _, List.forall_mem_nil _⟩

/-- A payload whose text is short enough is sent. -/
theorem command_of_short (script : JsString) (op : PaperclipSemanticOperation) (payload : Props)
    (h : (Json.obj payload).stringify.length ≤ 22500) :
    paperclipSemanticExecCommand script op payload =
      .ok (paperclipWords script op ++ [base64url (textBytes (Json.obj payload).stringify)]) := by
  have hbytes := byteLength_le (Json.obj payload).stringify
  have hdigits := length_base64url_le (textBytes (Json.obj payload).stringify)
  rw [size_textBytes] at hdigits
  rw [paperclipSemanticExecCommand, ensure_true (decide_eq_true (by omega))]
  rfl

theorem five_isInt : (5 : ℤ).natAbs < 2 ^ 53 := by norm_num

/-- The flags of the caller are dropped, and the command carries the rest. -/
theorem normalized_once_countedTest :
    let r := policyTestFields sampleCompany sampleActor .null (toolRequest (.ofInt 5 five_isInt))
    normalizePaperclipSemanticPayload .toolPolicyTest (some (.obj r)) = .ok r ∧
      ∃ encoded, paperclipSemanticExecCommand [] .toolPolicyTest r =
          .ok (paperclipWords [] .toolPolicyTest ++ [encoded]) ∧
        paperclipInput encoded = some (.obj r) := by
  have hcanonical : ∀ x ∈ some (countedTest (.ofInt 5 five_isInt)), x.Canonical := by
    intro x hx
    rw [← Option.some.inj hx]
    exact canonical_countedTest _
  obtain ⟨hagain, -, -, hwords⟩ := normalized_once [] .toolPolicyTest _ _ hcanonical
    (normalize_countedTest (.ofInt 5 five_isInt))
  have hcommand := command_of_short [] .toolPolicyTest
    (policyTestFields sampleCompany sampleActor .null (toolRequest (.ofInt 5 five_isInt)))
    (by decide +kernel)
  obtain ⟨encoded, heq, hinput, -⟩ := hwords _ hcommand
  refine ⟨hagain, encoded, ?_, hinput⟩
  rw [hcommand, heq]

theorem parse_overflow : parse "1e400".toList = some (.num (.infinite false)) := by
  have hnumber : parseNumber "1e400".toList = some (.infinite false, []) := by decide +kernel
  have hread : parseValue 6 "1e400".toList = some (.num (.infinite false), []) := by
    rw [show "1e400".toList = '1' :: "e400".toList from rfl, parseValue_number (.inr rfl)]
    rw [show '1' :: "e400".toList = "1e400".toList from rfl, hnumber]
    rfl
  unfold parse
  rw [show parseValue ("1e400".toList.length + 1) "1e400".toList = _ from hread]
  rfl

/-- A number too large for a double is accepted, and the program reads `null` in its place. -/
theorem overflow_is_lost :
    parse "1e400".toList = some (.num (.infinite false)) ∧
      (countedTest (.infinite false)).Canonical ∧
      ∃ r words encoded,
        normalizePaperclipSemanticPayload .toolPolicyTest
            (some (countedTest (.infinite false))) = .ok r ∧
          paperclipSemanticExecCommand [] .toolPolicyTest r = .ok words ∧
          words.getLast? = some encoded ∧ paperclipInput encoded ≠ some (.obj r) := by
  have hcommand := command_of_short [] .toolPolicyTest
    (policyTestFields sampleCompany sampleActor .null (toolRequest (.infinite false)))
    (by decide +kernel)
  have hnormalize := normalize_countedTest (.infinite false)
  have hcanonical : ∀ x ∈ some (countedTest (.infinite false)), x.Canonical := by
    intro x hx
    rw [← Option.some.inj hx]
    exact canonical_countedTest _
  have hinput := paperclipInput_base64url (canonical_of_normalize hcanonical hnormalize)
  refine ⟨parse_overflow, canonical_countedTest _, _, _, _, hnormalize, hcommand,
    List.getLast?_concat, ?_⟩
  rw [hinput]
  intro heq
  have hfinite := finite_eq_self_iff.mp (Option.some.inj heq)
  have hrequest := hfinite.member (p := (js "request", .obj (toolRequest (.infinite false))))
    (by simp [policyTestFields])
  have harguments := hrequest.member
    (p := (js "arguments", .obj [(js "pageSize", .num (.infinite false))])) (by simp [toolRequest])
  exact not_allFinite_infinite false (harguments.member List.mem_cons_self)

end RemoteOps

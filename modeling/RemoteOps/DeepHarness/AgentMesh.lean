import RemoteOps.DeepHarness.Grants
import RemoteOps.Ecma.TextSize
import RemoteOps.Privileged.Ticket

/-!
# Three validators of one envelope

A DeepHarness operation is checked by the contract of the control plane, by the agent
that receives the envelope and by the relay that receives what the agent posts. Each
has its own copy of the grammar. They differ where the operation is no string, which
only the agent converts, and in what the limit of 16384 bytes is about: the whole
envelope for the contract, the arguments alone for the other two.
-/

namespace RemoteOps

open Ecma

abbrev Props := List (JsString × Json)

/-! ## The grammar -/

/-- An object with these keys and no others. -/
def hasExactly (ps : Props) (names : List JsString) : Bool :=
  ps.length = names.length && names.all (fun key => (lookup key ps).isSome) &&
    (ps.map Prod.fst).all fun key => names.contains key

/-- `x === s`. -/
def isString (x : Option Json) (s : JsString) : Bool :=
  match x with
  | some (.str t) => t = s
  | _ => false

def safeMeshId : Option Json → Option JsString
  | some (.str s) => if validId s then some s else none
  | _ => none

def semanticOp : JsString := js "deepharness.semantic"

def maxRequest : ℕ := 16384

def commonKeys : List JsString := [js "operation", js "workspaceId"]

def leadKeys : List JsString := commonKeys ++ [js "leadSessionId"]

def chatKeys : List JsString := leadKeys ++ [js "maxMessages"]

def instructionKeys : List JsString := leadKeys ++ [js "requestId", js "text"]

def isMaxMessages : Option Json → Bool
  | some (.num x) => isIntegerIn 1 20 x
  | _ => false

def isRequestId : Option Json → Bool
  | some (.str s) => isUuid s
  | _ => false

def isInstructionText : Option Json → Bool
  | some (.str s) => !(trim s).isEmpty && !s.contains 0 && utf8Length s ≤ 4096
  | _ => false

def hasInstruction (ps : Props) : Bool :=
  hasExactly ps instructionKeys && isRequestId (lookup (js "requestId") ps) &&
    isInstructionText (lookup (js "text") ps)

/-- The arguments of `{op: "deepharness.semantic", args}`. -/
def envelopeArgs : Json → Option Props
  | .obj ps =>
      if hasExactly ps [js "op", js "args"] && isString (lookup (js "op") ps) semanticOp then
        match lookup (js "args") ps with
        | some (.obj args) => some args
        | _ => none
      else none
  | _ => none

/-! ## The contract -/

/-- The keys and fields of each operation. -/
def operationGrammar (operation : JsString) (args : Props) : Bool :=
  if operation = js "listTeams" then hasExactly args commonKeys
  else if operation = js "getTeamStatus" ∨ operation = js "listTasks" then
    hasExactly args leadKeys
  else if operation = js "readLeadChat" then
    hasExactly args chatKeys && isMaxMessages (lookup (js "maxMessages") args)
  else if operation = js "sendLeadInstruction" then hasInstruction args
  else false

def checkArgs (args : Props) : Option JsString :=
  match lookup (js "operation") args with
  | some (.str operation) =>
      if operationGrammar operation args && (safeMeshId (lookup (js "workspaceId") args)).isSome &&
          (operation = js "listTeams" || (safeMeshId (lookup (js "leadSessionId") args)).isSome) then
        some operation
      else none
  | _ => none

/-- `validateDshAgentMeshEnvelope(value)`, of which the arguments are returned. -/
def validateDshAgentMeshEnvelope (value : Json) : Option Props := do
  let args ← envelopeArgs value
  let _ ← checkArgs args
  guard (byteLength value.stringify ≤ maxRequest)
  return args

/-! ## The agent -/

structure MeshEnv where
  workspaceId : Option JsString
  leadSessionId : Option JsString

structure MeshPayload where
  operation : Json
  body : List Char
  leadId : JsString

def semanticOperations : List JsString :=
  [js "listTeams", js "getTeamStatus", js "listTasks", js "readLeadChat", js "sendLeadInstruction"]

/-- The agent's branches. Whatever is none of the first four strings is taken for an
instruction. -/
def agentGrammar (operation : Json) (args : Props) : Bool :=
  if isString (some operation) (js "listTeams") then hasExactly args commonKeys
  else if isString (some operation) (js "getTeamStatus") ||
      isString (some operation) (js "listTasks") then
    hasExactly args leadKeys
  else if isString (some operation) (js "readLeadChat") then
    hasExactly args chatKeys && isMaxMessages (lookup (js "maxMessages") args)
  else hasInstruction args

/-- `validatedPayload(value, env)`. `String(undefined)` names no operation. -/
def validatedPayload (env : MeshEnv) (value : Json) : Option MeshPayload := do
  let args ← envelopeArgs value
  let operation ← lookup (js "operation") args
  let spelled ← operation.toStr
  guard (spelled ∈ semanticOperations)
  guard (agentGrammar operation args)
  let workspace ← safeMeshId (lookup (js "workspaceId") args)
  let expectedWorkspace ← safeMeshId (env.workspaceId.map .str)
  let expectedLead ← safeMeshId (env.leadSessionId.map .str)
  guard (workspace = expectedWorkspace)
  guard (isString (some operation) (js "listTeams") ∨
    safeMeshId (lookup (js "leadSessionId") args) = some expectedLead)
  let body := (Json.obj args).stringify
  guard (byteLength body ≤ maxRequest)
  return ⟨operation, body, expectedLead⟩

/-! ## The relay -/

/-- The workspace and the Lead a deployment is configured with. -/
structure MeshScope where
  workspaceId : JsString
  leadSessionId : JsString
  workspaceId_valid : validId workspaceId = true
  leadSessionId_valid : validId leadSessionId = true

def checkOperation (scope : MeshScope) : Json → Option Props
  | .obj input =>
      let operation := lookup (js "operation") input
      let leads := isString (lookup (js "leadSessionId") input) scope.leadSessionId
      if !isString (lookup (js "workspaceId") input) scope.workspaceId then none
      else if isString operation (js "listTeams") then
        if hasExactly input commonKeys then some input else none
      else if isString operation (js "getTeamStatus") || isString operation (js "listTasks") then
        if hasExactly input leadKeys && leads then some input else none
      else if isString operation (js "readLeadChat") then
        if hasExactly input chatKeys && leads &&
            isMaxMessages (lookup (js "maxMessages") input) then some input else none
      else if isString operation (js "sendLeadInstruction") then
        if hasInstruction input && leads then some input else none
      else none
  | _ => none

/-! ## Objects with exact keys -/

section Exact

variable {ps : Props} {names : List JsString}

theorem hasExactly_iff :
    hasExactly ps names = true ↔ ps.length = names.length ∧
      (∀ key ∈ names, (lookup key ps).isSome) ∧ ∀ key ∈ ps.map Prod.fst, key ∈ names := by
  simp only [hasExactly, Bool.and_eq_true, decide_eq_true_eq, List.all_eq_true,
    List.contains_iff_mem, and_assoc]

/-- The keys are the names, each once. -/
theorem keys_perm (hnames : names.Nodup) (h : hasExactly ps names = true) :
    (ps.map Prod.fst).Perm names := by
  obtain ⟨hlength, hown, -⟩ := hasExactly_iff.mp h
  have hsub : names ⊆ ps.map Prod.fst := fun key hkey => lookup_isSome_iff.mp (hown key hkey)
  have hsubperm : names.Subperm (ps.map Prod.fst) := hnames.subperm hsub
  exact (hsubperm.perm_of_length_le (by rw [List.length_map, hlength])).symm

/-- An object with exact keys is what its text is read as. -/
theorem normal_of_hasExactly (hnames : names.Nodup)
    (hindex : ∀ key ∈ names, isIndexKey key = none) (h : hasExactly ps names = true)
    (hvalues : ∀ key ∈ names, ∀ x, lookup key ps = some x → x.Normal) :
    (Json.obj ps).Normal := by
  have hperm := keys_perm hnames h
  have hnodup : (ps.map Prod.fst).Nodup := hperm.nodup_iff.mpr hnames
  refine ⟨normalMembers_of_forall fun p hp => ?_,
    fromEntries_eq_self hnodup fun key hkey => hindex key (hperm.mem_iff.mp hkey)⟩
  exact hvalues p.1 (hperm.mem_iff.mp (List.mem_map_of_mem hp)) p.2
    ((lookup_eq_some_iff hnodup).mpr hp)

/-- An object with exact keys is its members in some order. -/
theorem perm_of_hasExactly {qs : Props} (hnames : (qs.map Prod.fst).Nodup)
    (h : hasExactly ps (qs.map Prod.fst) = true)
    (hvalues : ∀ p ∈ qs, lookup p.1 ps = some p.2) : ps.Perm qs := by
  have hnodup : (ps.map Prod.fst).Nodup := (keys_perm hnames h).nodup_iff.mpr hnames
  have hsub : qs ⊆ ps := fun p hp => (lookup_eq_some_iff hnodup).mp (hvalues p hp)
  have hlength : ps.length ≤ qs.length := by
    rw [(hasExactly_iff.mp h).1, List.length_map]
  exact ((hnames.of_map _).subperm hsub |>.perm_of_length_le hlength).symm

/-- An object of small members is small. -/
theorem byteLength_le_of_hasExactly {bound : ℕ} (hne : names ≠ [])
    (h : hasExactly ps names = true)
    (hmembers : ∀ key ∈ names, ∀ x ∈ ps.map Prod.snd,
      byteLength (quote key) + byteLength x.stringify + 2 ≤ bound) :
    byteLength (Json.obj ps).stringify ≤ 1 + names.length * bound := by
  obtain ⟨hlength, -, hkeys⟩ := hasExactly_iff.mp h
  have hps : ps ≠ [] := by
    rintro rfl
    exact hne (List.length_eq_zero_iff.mp hlength.symm)
  have hsum := List.sum_le_card_nsmul (ps.map fun p => byteLength (stringifyMember p) + 1) bound
    (by
      intro n hn
      obtain ⟨⟨k, x⟩, hp, rfl⟩ := List.mem_map.mp hn
      have hmember := hmembers k (hkeys k (List.mem_map_of_mem hp)) x (List.mem_map_of_mem hp)
      rw [byteLength_stringifyMember]
      omega)
  rw [byteLength_obj hps, ← hlength]
  rw [List.length_map, Nat.nsmul_eq_mul] at hsum
  omega

end Exact

theorem isString_iff {x : Option Json} {s : JsString} :
    isString x s = true ↔ x = some (.str s) := by
  unfold isString
  split
  · simp
  · next hne => simpa using fun hx => hne s hx

theorem safeMeshId_eq_some_iff {x : Option Json} {s : JsString} :
    safeMeshId x = some s ↔ x = some (.str s) ∧ validId s = true := by
  unfold safeMeshId
  split
  · next t =>
      rw [Option.ite_none_right_eq_some]
      constructor
      · rintro ⟨hvalid, heq⟩
        obtain rfl := Option.some.inj heq
        exact ⟨rfl, hvalid⟩
      · rintro ⟨heq, hvalid⟩
        obtain rfl := Json.str.inj (Option.some.inj heq)
        exact ⟨hvalid, rfl⟩
  · next hne => simpa using fun hx => absurd hx (hne s)

/-! ## Envelopes -/

theorem envelopeArgs_eq_some {value : Json} {args : Props} (h : envelopeArgs value = some args) :
    ∃ ps, value = .obj ps ∧
      ps.Perm [(js "op", .str semanticOp), (js "args", .obj args)] := by
  unfold envelopeArgs at h
  split at h
  · next ps =>
      split at h
      · next hcond =>
          rw [Bool.and_eq_true, isString_iff] at hcond
          split at h
          · next hargs =>
              obtain rfl := Option.some.inj h
              have hnames : [js "op", js "args"].Nodup := by decide
              refine ⟨ps, rfl, perm_of_hasExactly hnames hcond.1 ?_⟩
              simp only [List.forall_mem_cons]
              exact ⟨hcond.2, hargs, List.forall_mem_nil _⟩
          · cases h
      · cases h
  · cases h

/-- The envelope adds 37 bytes to its arguments. -/
theorem byteLength_envelope {value : Json} {args : Props} (h : envelopeArgs value = some args) :
    byteLength value.stringify = byteLength (Json.obj args).stringify + 37 := by
  obtain ⟨ps, rfl, hperm⟩ := envelopeArgs_eq_some h
  have hop : byteLength (stringifyMember (js "op", .str semanticOp)) = 27 := by decide
  have hkey : byteLength (quote (js "args")) = 6 := by decide
  rw [byteLength_obj_perm hperm, byteLength_obj (by simp)]
  simp only [List.map_cons, List.map_nil, List.sum_cons, List.sum_nil, hop,
    byteLength_stringifyMember, hkey]
  omega

end RemoteOps

import RemoteOps.DeepHarness.AgentMesh
import RemoteOps.Ecma.NumberText

/-!
# When the three validators agree

An envelope of the contract for the configured scope passes the agent and the relay. The
converse fails for an instruction whose operation is an array that spells an operation,
and for one whose arguments fit in 16384 bytes while its envelope does not.
-/

namespace RemoteOps

open Ecma

def MeshScope.env (scope : MeshScope) : MeshEnv :=
  ⟨some scope.workspaceId, some scope.leadSessionId⟩

/-- The arguments are about the configured workspace and, unless they list the teams,
about the configured Lead. -/
def NamesScope (scope : MeshScope) (args : Props) : Prop :=
  isString (lookup (js "workspaceId") args) scope.workspaceId = true ∧
    (isString (lookup (js "operation") args) (js "listTeams") = true ∨
      isString (lookup (js "leadSessionId") args) scope.leadSessionId = true)

/-- The relay reads these arguments in a body, which is within its limit. -/
def RelayTakes (p : Platform) (scope : MeshScope) (body : List Char) (args : Props) : Prop :=
  (textBytes body).size ≤ maxRequest ∧
    ∃ input, parse (p.fromUtf8 (textBytes body)) = some input ∧
      checkOperation scope input = some args

structure ValidatorsAgree (p : Platform) (scope : MeshScope) (value : Json) : Prop where
  onward : ∀ args, validateDshAgentMeshEnvelope value = some args → NamesScope scope args →
    ∃ payload, validatedPayload scope.env value = some payload ∧
      RelayTakes p scope payload.body args
  back : ∀ payload, validatedPayload scope.env value = some payload →
    ∃ args, validateDshAgentMeshEnvelope value = some args ∧ RelayTakes p scope payload.body args

/-- An envelope with the fields of an instruction to the configured Lead, whatever its
operation is, that fits in a body. -/
structure CarriesInstruction (scope : MeshScope) (value : Json) (args : Props) : Prop where
  envelope : envelopeArgs value = some args
  fields : hasInstruction args = true
  workspace : isString (lookup (js "workspaceId") args) scope.workspaceId = true
  lead : isString (lookup (js "leadSessionId") args) scope.leadSessionId = true
  fits : byteLength (Json.obj args).stringify ≤ maxRequest

/-- In an envelope with the fields of an instruction the operation is not an array that
spells one of the five names, and an instruction fits together with its envelope. -/
def UnambiguousEnvelope (scope : MeshScope) (value : Json) : Prop :=
  ∀ args, CarriesInstruction scope value args →
    (∀ operation spelled, lookup (js "operation") args = some operation →
      operation.toStr = some spelled → spelled ∈ semanticOperations → operation = .str spelled) ∧
    (isString (lookup (js "operation") args) (js "sendLeadInstruction") = true →
      byteLength value.stringify ≤ maxRequest)

/-! ## Arguments that name their operation -/

/-- Arguments of the configured scope, in the grammar of the operation they name. -/
structure AdmittedArgs (scope : MeshScope) (operation : JsString) (args : Props) : Prop where
  named : lookup (js "operation") args = some (.str operation)
  grammar : operationGrammar operation args = true
  inScope : NamesScope scope args

@[simp] theorem isString_str (t s : JsString) :
    isString (some (.str t)) s = decide (t = s) := rfl

section Grammar

variable {scope : MeshScope} {operation : JsString} {args : Props}

theorem mem_of_operationGrammar (h : operationGrammar operation args = true) :
    operation ∈ semanticOperations := by
  unfold operationGrammar at h
  simp only [semanticOperations, List.mem_cons, List.not_mem_nil, or_false]
  split_ifs at h with h₁ h₂ h₃ h₄
  · exact .inl h₁
  · exact h₂.elim (fun h => .inr (.inl h)) fun h => .inr (.inr (.inl h))
  · exact .inr (.inr (.inr (.inl h₃)))
  · exact .inr (.inr (.inr (.inr h₄)))

/-- On the five strings the agent has the grammar of the contract. -/
theorem agentGrammar_str (h : operation ∈ semanticOperations) :
    agentGrammar (.str operation) args = operationGrammar operation args := by
  unfold agentGrammar operationGrammar
  simp only [isString_str, Bool.or_eq_true, decide_eq_true_eq]
  split_ifs with h₁ h₂ h₃ h₄
  · rfl
  · rfl
  · rfl
  · rfl
  · simp only [semanticOperations, List.mem_cons, List.not_mem_nil, or_false] at h
    rcases h with h | h | h | h | h
    · exact absurd h h₁
    · exact absurd (.inl h) h₂
    · exact absurd (.inr h) h₂
    · exact absurd h h₃
    · exact absurd h h₄

theorem checkArgs_eq_some_iff :
    checkArgs args = some operation ↔
      lookup (js "operation") args = some (.str operation) ∧
        operationGrammar operation args = true ∧
        (safeMeshId (lookup (js "workspaceId") args)).isSome ∧
        (operation = js "listTeams" ∨ (safeMeshId (lookup (js "leadSessionId") args)).isSome) := by
  unfold checkArgs
  split
  · next t ht =>
      rw [Option.ite_none_right_eq_some, ht]
      simp only [Bool.and_eq_true, Bool.or_eq_true, decide_eq_true_eq, and_assoc]
      constructor
      · rintro ⟨hgrammar, hworkspace, hlead, heq⟩
        obtain rfl := Option.some.inj heq
        exact ⟨rfl, hgrammar, hworkspace, hlead⟩
      · rintro ⟨heq, hgrammar, hworkspace, hlead⟩
        obtain rfl := Json.str.inj (Option.some.inj heq)
        exact ⟨hgrammar, hworkspace, hlead, rfl⟩
  · next hne =>
      constructor
      · exact fun h => by cases h
      · rintro ⟨heq, -⟩
        exact absurd heq (hne operation)

theorem admittedArgs_of_checkArgs (h : checkArgs args = some operation)
    (hscope : NamesScope scope args) :
    AdmittedArgs scope operation args := by
  obtain ⟨hnamed, hgrammar, -⟩ := checkArgs_eq_some_iff.mp h
  exact ⟨hnamed, hgrammar, hscope⟩

namespace AdmittedArgs

variable (h : AdmittedArgs scope operation args)
include h

theorem workspace :
    safeMeshId (lookup (js "workspaceId") args) = some scope.workspaceId :=
  safeMeshId_eq_some_iff.mpr ⟨isString_iff.mp h.inScope.1, scope.workspaceId_valid⟩

theorem lead :
    operation = js "listTeams" ∨
      safeMeshId (lookup (js "leadSessionId") args) = some scope.leadSessionId := by
  refine h.inScope.2.imp (fun hlist => ?_) fun hlead => ?_
  · rw [h.named, isString_str, decide_eq_true_eq] at hlist
    exact hlist
  · exact safeMeshId_eq_some_iff.mpr ⟨isString_iff.mp hlead, scope.leadSessionId_valid⟩

theorem checkArgs : checkArgs args = some operation := by
  refine checkArgs_eq_some_iff.mpr ⟨h.named, h.grammar, ?_, h.lead.imp_right fun hlead => ?_⟩
  · rw [h.workspace]
    rfl
  · rw [hlead]
    rfl

theorem leads (hne : operation ≠ js "listTeams") :
    isString (lookup (js "leadSessionId") args) scope.leadSessionId = true := by
  have hlead := h.lead.resolve_left hne
  exact isString_iff.mpr (safeMeshId_eq_some_iff.mp hlead).1

theorem checkOperation : checkOperation scope (.obj args) = some args := by
  have hgrammar := h.grammar
  unfold operationGrammar at hgrammar
  unfold RemoteOps.checkOperation
  simp only [h.named, isString_str, h.inScope.1, Bool.not_true, Bool.false_eq_true, if_false,
    Bool.or_eq_true, decide_eq_true_eq]
  split_ifs at hgrammar with h₁ h₂ h₃ h₄
  · rw [if_pos h₁, if_pos hgrammar]
  · rw [if_neg h₁, if_pos h₂, if_pos (by rw [hgrammar, h.leads h₁]; rfl)]
  · rw [Bool.and_eq_true] at hgrammar
    rw [if_neg h₁, if_neg h₂, if_pos h₃, if_pos (by rw [hgrammar.1, hgrammar.2, h.leads h₁]; rfl)]
  · rw [if_neg h₁, if_neg h₂, if_neg h₃, if_pos h₄, if_pos (by rw [hgrammar, h.leads h₁]; rfl)]

end AdmittedArgs

end Grammar

/-! ## The text of the arguments -/

/-- What a field other than the text of an instruction is written as. -/
def SmallValue (x : Json) : Prop := x.Normal ∧ byteLength x.stringify ≤ 770

theorem smallValue_str {s : JsString} (h : s.length ≤ 128) : SmallValue (.str s) := by
  have hsize := byteLength_quote_le s
  refine ⟨trivial, ?_⟩
  rw [Json.stringify]
  omega

theorem length_of_validId {s : JsString} (h : validId s = true) : s.length ≤ 128 := by
  cases s with
  | nil => exact Nat.zero_le _
  | cons u s =>
      rw [validId, matchesHeadTail, Bool.and_eq_true, matchesClass_iff] at h
      rw [List.length_cons]
      omega

theorem length_of_operation : ∀ s ∈ semanticOperations, s.length ≤ 128 := by decide

/-- The Numbers from 1 to 20 are at most two digits. -/
theorem byteLength_text_le (z : Fin 21) :
    byteLength (JsNumber.ofInt (z : ℕ) (by omega)).text ≤ 770 := by
  revert z
  decide +kernel

theorem smallValue_of_isMaxMessages {x : Json} (h : isMaxMessages (some x) = true) :
    SmallValue x := by
  cases x with
  | num x =>
      obtain ⟨d, rfl⟩ := finite_of_isIntegerIn h
      refine ⟨⟨d, rfl⟩, ?_⟩
      simp only [isMaxMessages, isIntegerIn] at h
      split at h
      · next z hz =>
          rw [Bool.and_eq_true, decide_eq_true_eq, decide_eq_true_eq] at h
          obtain ⟨n, rfl⟩ := Int.eq_ofNat_of_zero_le (by omega : 0 ≤ z)
          have hn : n < 21 := by omega
          have heq := JsNumber.eq_of_toInt? hz
            (JsNumber.toInt?_ofInt ((⟨n, hn⟩ : Fin 21) : ℕ) (by omega))
          show byteLength (JsNumber.finite d).text ≤ 770
          rw [heq]
          exact byteLength_text_le ⟨n, hn⟩
      · cases h
  | _ => cases h

section Text

variable {scope : MeshScope} {operation : JsString} {args : Props}

theorem nodup_instructionKeys : instructionKeys.Nodup := by decide

theorem index_instructionKeys : ∀ key ∈ instructionKeys, isIndexKey key = none := by decide

theorem index_chatKeys : ∀ key ∈ chatKeys, isIndexKey key = none := by decide

theorem commonKeys_subset : commonKeys ⊆ leadKeys := List.subset_append_left _ _

theorem leadKeys_subset : leadKeys ⊆ chatKeys := List.subset_append_left _ _

/-- The fields every operation but `listTeams` has. -/
theorem AdmittedArgs.smallValue (h : AdmittedArgs scope operation args) {key : JsString}
    (hkey : key ∈ leadKeys) (hlist : operation = js "listTeams" → key ∈ commonKeys) {x : Json}
    (hx : lookup key args = some x) : SmallValue x := by
  simp only [leadKeys, commonKeys, List.cons_append, List.nil_append, List.mem_cons,
    List.not_mem_nil, or_false] at hkey
  rcases hkey with rfl | rfl | rfl
  · obtain rfl := Option.some.inj (hx.symm.trans h.named)
    exact smallValue_str (length_of_operation _ (mem_of_operationGrammar h.grammar))
  · obtain ⟨hworkspace, hvalid⟩ := safeMeshId_eq_some_iff.mp h.workspace
    obtain rfl := Option.some.inj (hx.symm.trans hworkspace)
    exact smallValue_str (length_of_validId hvalid)
  · have hne : operation ≠ js "listTeams" := fun heq => absurd (hlist heq) (by decide)
    obtain ⟨hlead, hvalid⟩ := safeMeshId_eq_some_iff.mp (h.lead.resolve_left hne)
    obtain rfl := Option.some.inj (hx.symm.trans hlead)
    exact smallValue_str (length_of_validId hvalid)

/-- The keys of an operation other than an instruction; their values are small. -/
theorem AdmittedArgs.chat_or_instruction (h : AdmittedArgs scope operation args) :
    (∃ names, hasExactly args names = true ∧ names.Nodup ∧ names ⊆ chatKeys ∧ names ≠ [] ∧
        names.length ≤ 4 ∧ ∀ key ∈ names, ∀ x, lookup key args = some x → SmallValue x) ∨
      operation = js "sendLeadInstruction" ∧ hasInstruction args = true := by
  have hgrammar := h.grammar
  unfold operationGrammar at hgrammar
  split_ifs at hgrammar with h₁ h₂ h₃ h₄
  · refine .inl ⟨commonKeys, hgrammar, by decide, by decide, by decide, by decide, ?_⟩
    exact fun key hkey x hx => h.smallValue (commonKeys_subset hkey) (fun _ => hkey) hx
  · refine .inl ⟨leadKeys, hgrammar, by decide, leadKeys_subset, by decide, by decide, ?_⟩
    exact fun key hkey x hx => h.smallValue hkey (fun heq => absurd heq h₁) hx
  · rw [Bool.and_eq_true] at hgrammar
    refine .inl ⟨chatKeys, hgrammar.1, by decide, fun _ h => h, by decide, by decide, ?_⟩
    intro key hkey x hx
    rcases List.mem_append.mp hkey with hkey | hkey
    · exact h.smallValue hkey (fun heq => absurd heq h₁) hx
    · obtain rfl := List.mem_singleton.mp hkey
      rw [hx] at hgrammar
      exact smallValue_of_isMaxMessages hgrammar.2
  · exact .inr ⟨h₄, hgrammar⟩

/-- The members of an instruction are strings. -/
theorem string_of_hasInstruction (h : AdmittedArgs scope operation args)
    (hne : operation ≠ js "listTeams") (hfields : hasInstruction args = true) {key : JsString}
    (hkey : key ∈ instructionKeys) {x : Json} (hx : lookup key args = some x) : x.Normal := by
  simp only [hasInstruction, Bool.and_eq_true] at hfields
  obtain ⟨⟨-, hrequest⟩, htext⟩ := hfields
  rcases List.mem_append.mp hkey with hkey | hkey
  · exact (h.smallValue hkey (fun heq => absurd heq hne) hx).1
  · simp only [List.mem_cons, List.not_mem_nil, or_false] at hkey
    rcases hkey with rfl | rfl
    · rw [hx] at hrequest
      cases x with
      | str s => trivial
      | _ => cases hrequest
    · rw [hx] at htext
      cases x with
      | str s => trivial
      | _ => cases htext

theorem AdmittedArgs.normal (h : AdmittedArgs scope operation args) : (Json.obj args).Normal := by
  rcases h.chat_or_instruction with ⟨names, hexact, hnodup, hsub, -, -, hvalues⟩ | ⟨heq, hfields⟩
  · exact normal_of_hasExactly hnodup (fun key hkey => index_chatKeys key (hsub hkey)) hexact
      fun key hkey x hx => (hvalues key hkey x hx).1
  · have hne : operation ≠ js "listTeams" := by
      rw [heq]
      decide
    have hexact : hasExactly args instructionKeys = true := by
      simp only [hasInstruction, Bool.and_eq_true] at hfields
      exact hfields.1.1
    exact normal_of_hasExactly nodup_instructionKeys index_instructionKeys hexact
      fun key hkey x hx => string_of_hasInstruction h hne hfields hkey hx

/-- Only an instruction can be large. -/
theorem AdmittedArgs.byteLength_le (h : AdmittedArgs scope operation args)
    (hne : operation ≠ js "sendLeadInstruction") :
    byteLength (Json.obj args).stringify + 37 ≤ maxRequest := by
  rcases h.chat_or_instruction with
    ⟨names, hexact, hnodup, hsub, hsome, hlength, hvalues⟩ | ⟨heq, -⟩
  · have hkeys : ∀ key ∈ chatKeys, byteLength (quote key) ≤ 30 := by decide
    have hmembers : ∀ key ∈ names, ∀ x ∈ args.map Prod.snd,
        byteLength (quote key) + byteLength x.stringify + 2 ≤ 802 := by
      intro key hkey x hx
      obtain ⟨p, hp, rfl⟩ := List.mem_map.mp hx
      have hperm := keys_perm hnodup hexact
      have hlookup := (lookup_eq_some_iff (hperm.nodup_iff.mpr hnodup)).mpr hp
      have hvalue := (hvalues p.1 (hperm.mem_iff.mp (List.mem_map_of_mem hp)) p.2 hlookup).2
      have hquote := hkeys key (hsub hkey)
      omega
    have hsize := byteLength_le_of_hasExactly hsome hexact hmembers
    have hcount : names.length * 802 ≤ 4 * 802 := Nat.mul_le_mul_right 802 hlength
    have hmax : maxRequest = 16384 := rfl
    omega
  · exact absurd heq hne

theorem relayTakes_of_admittedArgs {p : Platform} (hp : p.Lawful)
    (h : AdmittedArgs scope operation args)
    (hfits : byteLength (Json.obj args).stringify ≤ maxRequest) :
    RelayTakes p scope (Json.obj args).stringify args := by
  refine ⟨?_, .obj args, ?_, h.checkOperation⟩
  · rw [size_textBytes]
    exact hfits
  · rw [hp.fromUtf8_textBytes, parse_stringify _ h.normal]

end Text

/-! ## What the contract and the agent accept -/

section Accepts

variable {scope : MeshScope} {value : Json} {args : Props}

theorem validateDshAgentMeshEnvelope_eq_some_iff :
    validateDshAgentMeshEnvelope value = some args ↔
      envelopeArgs value = some args ∧ (∃ operation, checkArgs args = some operation) ∧
        byteLength value.stringify ≤ maxRequest := by
  simp only [validateDshAgentMeshEnvelope, Option.bind_eq_bind, Option.bind_eq_some_iff,
    Option.guard_eq_some', Option.pure_def, Option.some.injEq]
  constructor
  · rintro ⟨args', henvelope, operation, hcheck, -, hsize, rfl⟩
    exact ⟨henvelope, ⟨operation, hcheck⟩, hsize⟩
  · rintro ⟨henvelope, ⟨operation, hcheck⟩, hsize⟩
    exact ⟨args, henvelope, operation, hcheck, (), hsize, rfl⟩

/-- What the agent asks of the arguments of an envelope. -/
structure AgentTakes (scope : MeshScope) (operation : Json) (args : Props) : Prop where
  named : lookup (js "operation") args = some operation
  spelled : ∃ spelled ∈ semanticOperations, operation.toStr = some spelled
  grammar : agentGrammar operation args = true
  inScope : NamesScope scope args
  fits : byteLength (Json.obj args).stringify ≤ maxRequest

theorem validatedPayload_eq_some_iff {payload : MeshPayload} :
    validatedPayload scope.env value = some payload ↔
      ∃ args operation, envelopeArgs value = some args ∧ AgentTakes scope operation args ∧
        payload = ⟨operation, (Json.obj args).stringify, scope.leadSessionId⟩ := by
  have hworkspace : safeMeshId (some (.str scope.workspaceId)) = some scope.workspaceId :=
    safeMeshId_eq_some_iff.mpr ⟨rfl, scope.workspaceId_valid⟩
  have hlead : safeMeshId (some (.str scope.leadSessionId)) = some scope.leadSessionId :=
    safeMeshId_eq_some_iff.mpr ⟨rfl, scope.leadSessionId_valid⟩
  simp only [validatedPayload, MeshScope.env, Option.map_some, hworkspace, hlead,
    Option.bind_eq_bind, Option.bind_eq_some_iff, Option.guard_eq_some', Option.pure_def,
    Option.some.injEq]
  constructor
  · rintro ⟨args, henvelope, operation, hnamed, spelled, htext, -, hspelled, -, hgrammar, workspace,
      hsafe, _, rfl, _, rfl, -, rfl, -, hleads, -, hfits, rfl⟩
    refine ⟨args, operation, henvelope,
      ⟨hnamed, ⟨spelled, hspelled, htext⟩, hgrammar, ?_, hfits⟩, rfl⟩
    refine ⟨isString_iff.mpr (safeMeshId_eq_some_iff.mp hsafe).1, hleads.imp ?_ ?_⟩
    · rw [hnamed]
      exact id
    · exact fun h => isString_iff.mpr (safeMeshId_eq_some_iff.mp h).1
  · rintro ⟨args, operation, henvelope, htakes, rfl⟩
    obtain ⟨hnamed, ⟨spelled, hspelled, htext⟩, hgrammar, ⟨hws, hleads⟩, hfits⟩ := htakes
    rw [isString_iff] at hws
    rw [hnamed] at hleads
    refine ⟨args, henvelope, operation, hnamed, spelled, htext, (), hspelled, (), hgrammar,
      scope.workspaceId, ?_, _, rfl, _, rfl, (), rfl, (), hleads.imp_right fun h => ?_, (), hfits,
      rfl⟩
    · rw [hws, hworkspace]
    · rw [isString_iff.mp h, hlead]

theorem agentTakes_of_admittedArgs {operation : JsString} (h : AdmittedArgs scope operation args)
    (hfits : byteLength (Json.obj args).stringify ≤ maxRequest) :
    AgentTakes scope (.str operation) args := by
  have hmem := mem_of_operationGrammar h.grammar
  refine ⟨h.named, ⟨operation, hmem, rfl⟩, ?_, h.inScope, hfits⟩
  rw [agentGrammar_str hmem]
  exact h.grammar

theorem admittedArgs_of_agentTakes {operation : JsString}
    (h : AgentTakes scope (.str operation) args) :
    AdmittedArgs scope operation args := by
  obtain ⟨spelled, hmem, htext⟩ := h.spelled
  obtain rfl : operation = spelled := Option.some.inj htext
  refine ⟨h.named, ?_, h.inScope⟩
  rw [← agentGrammar_str hmem]
  exact h.grammar

/-- What is no string goes through the branch of an instruction. -/
theorem agentGrammar_of_forall_ne {operation : Json} (h : ∀ s, operation ≠ .str s) :
    agentGrammar operation args = hasInstruction args := by
  cases operation with
  | str s => exact absurd rfl (h s)
  | _ => rfl

end Accepts

/-! ## The equivalence -/

section Main

variable {p : Platform} {scope : MeshScope} {value : Json}

theorem onward_of_lawful (hp : p.Lawful) {args : Props}
    (h : validateDshAgentMeshEnvelope value = some args) (hscope : NamesScope scope args) :
    ∃ payload, validatedPayload scope.env value = some payload ∧
      RelayTakes p scope payload.body args := by
  obtain ⟨henvelope, ⟨operation, hcheck⟩, hsize⟩ := validateDshAgentMeshEnvelope_eq_some_iff.mp h
  have hadmitted := admittedArgs_of_checkArgs hcheck hscope
  have hfits : byteLength (Json.obj args).stringify ≤ maxRequest := by
    rw [byteLength_envelope henvelope] at hsize
    omega
  exact ⟨_, validatedPayload_eq_some_iff.mpr
    ⟨args, _, henvelope, agentTakes_of_admittedArgs hadmitted hfits, rfl⟩,
    relayTakes_of_admittedArgs hp hadmitted hfits⟩

/-- An instruction the agent takes names the Lead. -/
theorem carriesInstruction_of_agentTakes {args : Props} {operation : Json}
    (henvelope : envelopeArgs value = some args) (h : AgentTakes scope operation args)
    (hfields : hasInstruction args = true) (hlist : operation ≠ .str (js "listTeams")) :
    CarriesInstruction scope value args := by
  refine ⟨henvelope, hfields, h.inScope.1, h.inScope.2.resolve_left fun heq => ?_, h.fits⟩
  rw [h.named, isString_iff] at heq
  exact hlist (Option.some.inj heq)

theorem back_of_unambiguousEnvelope (hp : p.Lawful) (h : UnambiguousEnvelope scope value)
    {payload : MeshPayload}
    (hpayload : validatedPayload scope.env value = some payload) :
    ∃ args, validateDshAgentMeshEnvelope value = some args ∧
      RelayTakes p scope payload.body args := by
  obtain ⟨args, operation, henvelope, htakes, rfl⟩ := validatedPayload_eq_some_iff.mp hpayload
  -- an operation that is no string would be the one of an instruction
  obtain ⟨name, rfl⟩ : ∃ name, operation = .str name := by
    by_contra hno
    have hne : ∀ s, operation ≠ .str s := fun s heq => hno ⟨s, heq⟩
    have hfields : hasInstruction args = true := by
      rw [← agentGrammar_of_forall_ne hne]
      exact htakes.grammar
    have hcarries := carriesInstruction_of_agentTakes henvelope htakes hfields (hne _)
    obtain ⟨spelled, hmem, htext⟩ := htakes.spelled
    exact hne spelled ((h args hcarries).1 operation spelled htakes.named htext hmem)
  have hadmitted := admittedArgs_of_agentTakes htakes
  have hsize : byteLength value.stringify ≤ maxRequest := by
    by_cases hinstruction : name = js "sendLeadInstruction"
    · subst hinstruction
      have hfields : hasInstruction args = true := hadmitted.grammar
      have hcarries := carriesInstruction_of_agentTakes henvelope htakes hfields
        fun heq => absurd (Json.str.inj heq) (by decide)
      refine (h args hcarries).2 ?_
      rw [htakes.named, isString_str, decide_eq_true_eq]
    · rw [byteLength_envelope henvelope]
      exact hadmitted.byteLength_le hinstruction
  exact ⟨args, validateDshAgentMeshEnvelope_eq_some_iff.mpr
    ⟨henvelope, ⟨name, hadmitted.checkArgs⟩, hsize⟩,
    relayTakes_of_admittedArgs hp hadmitted htakes.fits⟩

/-- The agent takes an instruction whose operation it takes for one. -/
theorem validatedPayload_of_carriesInstruction {args : Props} {operation : Json}
    (h : CarriesInstruction scope value args)
    (hnamed : lookup (js "operation") args = some operation)
    (hspelled : ∃ spelled ∈ semanticOperations, operation.toStr = some spelled)
    (hgrammar : agentGrammar operation args = hasInstruction args) :
    ∃ payload, validatedPayload scope.env value = some payload :=
  ⟨_, validatedPayload_eq_some_iff.mpr ⟨args, operation, h.envelope,
    ⟨hnamed, hspelled, hgrammar.trans h.fields, ⟨h.workspace, .inr h.lead⟩, h.fits⟩, rfl⟩⟩

theorem unambiguousEnvelope_of_validatorsAgree (h : ValidatorsAgree p scope value) :
    UnambiguousEnvelope scope value := by
  intro args hcarries
  have haccepted : ∀ operation, lookup (js "operation") args = some operation →
      (∃ spelled ∈ semanticOperations, operation.toStr = some spelled) →
      agentGrammar operation args = hasInstruction args →
      (∃ name, checkArgs args = some name) ∧ byteLength value.stringify ≤ maxRequest := by
    intro operation hnamed hspelled hgrammar
    obtain ⟨payload, hpayload⟩ :=
      validatedPayload_of_carriesInstruction hcarries hnamed hspelled hgrammar
    obtain ⟨args', hvalidate, -⟩ := h.back payload hpayload
    obtain ⟨henvelope, hcheck, hsize⟩ := validateDshAgentMeshEnvelope_eq_some_iff.mp hvalidate
    obtain rfl := Option.some.inj (henvelope.symm.trans hcarries.envelope)
    exact ⟨hcheck, hsize⟩
  constructor
  · intro operation spelled hnamed htext hmem
    by_cases hstring : ∃ s, operation = .str s
    · obtain ⟨s, rfl⟩ := hstring
      rw [Option.some.inj htext]
    · have hne : ∀ s, operation ≠ .str s := fun s heq => hstring ⟨s, heq⟩
      obtain ⟨⟨name, hcheck⟩, -⟩ :=
        haccepted operation hnamed ⟨spelled, hmem, htext⟩ (agentGrammar_of_forall_ne hne)
      have hname := (checkArgs_eq_some_iff.mp hcheck).1
      exact absurd (Option.some.inj (hnamed.symm.trans hname)) (hne name)
  · intro hinstruction
    refine (haccepted _ (isString_iff.mp hinstruction) ⟨js "sendLeadInstruction", ?_, rfl⟩ ?_).2
    · decide
    · rfl

/-- The three validators agree on the envelopes that are unambiguous. -/
theorem validatorsAgree_iff (p : Platform) (hp : p.Lawful) (scope : MeshScope) (value : Json) :
    ValidatorsAgree p scope value ↔ UnambiguousEnvelope scope value := by
  constructor
  · exact unambiguousEnvelope_of_validatorsAgree
  · intro h
    constructor
    · exact fun args => onward_of_lawful hp
    · exact fun payload => back_of_unambiguousEnvelope hp h

end Main

/-! ## An operation in an array -/

def labMesh : MeshScope := ⟨js "lab", js "lead-1", by decide, by decide⟩

/-- An instruction whose operation is `operation`. -/
def instructionEnvelope (operation : Json) : Json :=
  .obj [(js "op", .str semanticOp),
    (js "args", .obj [(js "operation", operation), (js "workspaceId", .str (js "lab")),
      (js "leadSessionId", .str (js "lead-1")),
      (js "requestId", .str (js "00000000-0000-4000-8000-000000000000")),
      (js "text", .str (js "go"))])]

theorem validatorsAgree_iff_sendLeadInstruction :
    ValidatorsAgree samplePlatform labMesh
        (instructionEnvelope (.str (js "sendLeadInstruction"))) ↔
      UnambiguousEnvelope labMesh (instructionEnvelope (.str (js "sendLeadInstruction"))) :=
  validatorsAgree_iff samplePlatform samplePlatform_lawful labMesh _

/-- The agent takes `["listTeams"]` for an instruction, and the contract refuses it. -/
theorem arrayOperation_disagrees :
    ¬ValidatorsAgree samplePlatform labMesh
      (instructionEnvelope (.arr [.str (js "listTeams")])) := by
  intro h
  have htaken : (validatedPayload labMesh.env
      (instructionEnvelope (.arr [.str (js "listTeams")]))).isSome = true := by
    decide +kernel
  have hrefused : (validateDshAgentMeshEnvelope
      (instructionEnvelope (.arr [.str (js "listTeams")]))).isSome = false := by
    decide +kernel
  obtain ⟨payload, hpayload⟩ := Option.isSome_iff_exists.mp htaken
  obtain ⟨args, hvalidate, -⟩ := h.back payload hpayload
  rw [hvalidate] at hrefused
  cases hrefused

end RemoteOps

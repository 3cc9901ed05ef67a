import Mathlib.Data.List.Perm.Basic
import RemoteOps.Config.ManagedAdmin

/-!
# The files of the target registry

The registry is read from two files: the static one, which an operator edits, and the
dynamic overlay, which `upsertDynamicAgentTarget` rewrites. A file is what
`parseRegistryFile` sees of it: missing, unreadable, malformed, refused by the schema, or
a list of targets that the schema accepts. `loadRegistry` puts the two lists together
and refuses agent targets without a device and repeated ids (`loadRegistry_eq_ok_iff`).
-/

namespace RemoteOps

open Ecma

/-! ## The schema -/

/-- `/^[a-z0-9][a-z0-9-]{1,39}$/`. -/
def matchesRegistryId (s : JsString) : Bool :=
  matchesHeadTail (fun u => isLower u || isDigit u)
    (fun u => isLower u || isDigit u || u == unit '-') 1 39 s

/-- `/^SHA256:[A-Za-z0-9+/=-]+$/`. -/
def matchesHostKeyFingerprint (s : JsString) : Bool :=
  startsWith s (js "SHA256:") && (s.drop 7).all (fun u => isAlnum u || isOneOf "+/=-" u) &&
    1 ≤ (s.drop 7).length

/-- `/^[a-z0-9][a-z0-9_.-]{1,99}$/`. -/
def matchesSemanticCapability (s : JsString) : Bool :=
  matchesHeadTail (fun u => isLower u || isDigit u)
    (fun u => isLower u || isDigit u || isOneOf "_.-" u) 1 99 s

def inRangeOf (lo hi n : ℕ) : Bool := lo ≤ n && n ≤ hi

/-- The checks of `TargetSchema` that the type of a target leaves open. -/
def TargetConfig.accepted (t : TargetConfig) : Bool :=
  matchesRegistryId t.id && !t.host.isEmpty && inRangeOf 1 65535 t.port && !t.username.isEmpty &&
    t.deviceId.all matchesDeviceId && t.hostKeyFingerprint.all matchesHostKeyFingerprint &&
    t.allowedDockerCandidateHostPorts.all (inRangeOf 1024 65535) &&
    t.allowedDockerCandidateContainerPorts.all (inRangeOf 1 65535) &&
    t.allowedSemanticCapabilities.all matchesSemanticCapability &&
    t.allowedAdminPrograms.all matchesAdminProgram &&
    t.commandTimeoutMs.all (inRangeOf 1000 120000) && t.connectTimeoutMs.all (inRangeOf 1000 60000)

/-- What `TargetSchema.parse` returns. -/
abbrev ParsedTarget := { t : TargetConfig // t.accepted = true }

/-! ## The files -/

inductive TargetsFile where
  | missing
  /-- a read that fails for another reason than a missing file -/
  | unreadable
  | malformed (message : JsString)
  /-- refused by the schema, with the issues it reports -/
  | refused (detail : JsString)
  | parsed (targets : List ParsedTarget)
  deriving DecidableEq

structure TargetFiles where
  static : TargetsFile
  dynamic : TargetsFile
  deriving DecidableEq

/-- What the registry takes from its environment and from libraries: the names of the
files, what the schema says of a target it refuses, what a write that fails throws, and
the order of `localeCompare`. -/
structure RegistryEnv where
  targetsFile : JsString
  dynamicTargetsFile : JsString
  schemaMessage : TargetConfig → JsString
  writeMessage : JsString
  localeLe : JsString → JsString → Bool

def quoted (s : JsString) : JsString := js "\"" ++ s ++ js "\""

/-- `throw new Error(message)`. -/
def plainError {α : Type} (message : JsString) : Except OpsError α := deny "Error" message

def parseRegistryFile (name : JsString) (file : TargetsFile) (requireOne : Bool) :
    Except OpsError (List ParsedTarget) :=
  match file with
  | .missing =>
      if requireOne then plainError (js "Target Registry não encontrado em " ++ quoted name ++ js ".")
      else .ok []
  | .unreadable => plainError (js "Target Registry não encontrado em " ++ quoted name ++ js ".")
  | .malformed message =>
      plainError (js "Target Registry inválido (JSON malformado) em " ++ quoted name ++ js ": " ++
        message)
  | .refused detail =>
      plainError (js "Target Registry inválido em " ++ quoted name ++ js ": " ++ detail)
  | .parsed targets =>
      if requireOne && targets.isEmpty then
        plainError (js "Target Registry inválido em " ++ quoted name ++
          js ": targets: Array must contain at least 1 element(s)")
      else .ok targets

/-- `t.transport === "agent" && !t.deviceId`. -/
def TargetConfig.lacksDevice (t : TargetConfig) : Bool :=
  t.transport = .agent && (t.deviceId.getD []).isEmpty

/-- The loop of `loadRegistry` over one of the files. -/
def addTargets (source : JsString) (taken : JsString → JsString) :
    Registry → List ParsedTarget → Except OpsError Registry
  | map, [] => .ok map
  | map, t :: ts => do
      requireThat (t.val.lacksDevice = false) "Error"
        (source ++ js ": target " ++ quoted t.val.id ++ js " usa transport agent sem deviceId")
      requireThat (getTarget map t.val.id = none) "Error" (taken t.val.id)
      addTargets source taken (map ++ [t.val]) ts

def loadRegistry (env : RegistryEnv) (files : TargetFiles) : Except OpsError Registry := do
  let staticTargets ← parseRegistryFile env.targetsFile files.static true
  let dynamicTargets ← parseRegistryFile env.dynamicTargetsFile files.dynamic false
  let map ← addTargets (js "Target Registry estático inválido")
    (fun id => js "Target Registry duplicado: id " ++ quoted id ++ js " aparece mais de uma vez")
    [] staticTargets
  addTargets (js "Target Registry dinâmico inválido")
    (fun id => js "Target Registry dinâmico não pode sobrescrever target estático " ++ quoted id)
    map dynamicTargets

/-! ## Writing the overlay -/

/-- The files and the registry that was loaded from them at some time. -/
structure RegistryState where
  files : TargetFiles
  registry : Registry
  deriving DecidableEq

/-- `TargetSchema.parse(input)`. -/
def parseTarget (env : RegistryEnv) (input : TargetConfig) : Except OpsError ParsedTarget :=
  if h : input.accepted = true then .ok ⟨input, h⟩ else deny "ZodError" (env.schemaMessage input)

/-- The overlay with the target in the place of the one of its id. -/
def overlayWith (env : RegistryEnv) (current : List ParsedTarget) (parsed : ParsedTarget) :
    List ParsedTarget :=
  (current.filter (fun t => t.val.id ≠ parsed.val.id) ++ [parsed]).mergeSort
    fun a b => env.localeLe a.val.id b.val.id

/-- What `upsertDynamicAgentTarget` does before it writes: the new overlay. -/
def planUpsert (env : RegistryEnv) (files : TargetFiles) (input : TargetConfig) :
    Except OpsError (List ParsedTarget) := do
  let parsed ← parseTarget env input
  requireThat (parsed.val.transport = .agent ∧ (parsed.val.deviceId.getD []).isEmpty = false)
    "INVALID_ARGUMENT" (js "target dinâmico deve usar transport=agent com deviceId")
  let staticTargets ← parseRegistryFile env.targetsFile files.static true
  requireThat (staticTargets.any (fun t => t.val.id = parsed.val.id) = false) "CAPABILITY_DENIED"
    (js "target estático " ++ quoted parsed.val.id ++
      js " não pode ser alterado pela administração dinâmica")
  let current ← parseRegistryFile env.dynamicTargetsFile files.dynamic false
  return overlayWith env current parsed

/-- The overlay is replaced before `loadRegistry` checks it. -/
def upsertDynamicAgentTarget (env : RegistryEnv) (s : RegistryState) (input : TargetConfig)
    (writes : Bool) : Except OpsError TargetConfig × RegistryState :=
  match planUpsert env s.files input with
  | .error e => (.error e, s)
  | .ok next =>
      if writes = false then (deny "Error" env.writeMessage, s)
      else
        let files := { s.files with dynamic := .parsed next }
        match loadRegistry env files with
        | .error e => (.error e, { s with files })
        | .ok registry =>
            match getTarget registry input.id with
            | some t => (.ok t, ⟨files, registry⟩)
            | none => (deny "TypeError" (js "undefined"), ⟨files, registry⟩)

/-! ## What a load accepts -/

section Load

variable {env : RegistryEnv}

theorem getTarget_eq_none_iff {registry : Registry} {id : JsString} :
    getTarget registry id = none ↔ id ∉ registry.map TargetConfig.id := by
  simp [getTarget]

theorem addTargets_eq_ok_iff {source : JsString} {taken : JsString → JsString} {map : Registry}
    {ts : List ParsedTarget} {registry : Registry} (hmap : (map.map TargetConfig.id).Nodup) :
    addTargets source taken map ts = .ok registry ↔
      (∀ t ∈ ts, t.val.lacksDevice = false) ∧
        ((map ++ ts.map Subtype.val).map TargetConfig.id).Nodup ∧
          registry = map ++ ts.map Subtype.val := by
  induction ts generalizing map with
  | nil =>
      rw [addTargets, Except.ok.injEq]
      constructor
      · rintro rfl
        exact ⟨by simp, by simpa using hmap, by simp⟩
      · rintro ⟨-, -, rfl⟩
        simp
  | cons t ts ih =>
      have hcat : map ++ (t :: ts).map Subtype.val = (map ++ [t.val]) ++ ts.map Subtype.val := by
        simp
      rw [addTargets, hcat]
      constructor
      · intro h
        obtain ⟨_, hdevice, h⟩ := bind_eq_ok h
        obtain ⟨_, hnew, h⟩ := bind_eq_ok h
        have hnew' := getTarget_eq_none_iff.mp (requireThat_eq_ok hnew)
        have hmap' : ((map ++ [t.val]).map TargetConfig.id).Nodup := by
          rw [List.map_append, List.nodup_append']
          exact ⟨hmap, List.nodup_singleton _, by simpa using hnew'⟩
        obtain ⟨hdevices, hnodup, hregistry⟩ := (ih hmap').mp h
        refine ⟨?_, hnodup, hregistry⟩
        rw [List.forall_mem_cons]
        exact ⟨requireThat_eq_ok hdevice, hdevices⟩
      · rintro ⟨hdevices, hnodup, hregistry⟩
        rw [List.forall_mem_cons] at hdevices
        have hmap' : ((map ++ [t.val]).map TargetConfig.id).Nodup := by
          rw [List.map_append] at hnodup
          exact hnodup.of_append_left
        have hnew : getTarget map t.val.id = none := by
          rw [getTarget_eq_none_iff]
          rw [List.map_append, List.nodup_append'] at hmap'
          simpa using hmap'.2.2
        rw [requireThat, if_pos hdevices.1, ok_bind, requireThat, if_pos hnew, ok_bind]
        exact (ih hmap').mpr ⟨hdevices.2, hnodup, hregistry⟩

/-- Two lists of targets that make up a registry. -/
structure Registrable (statics dynamics : List ParsedTarget) : Prop where
  devices : ∀ t ∈ statics ++ dynamics, t.val.lacksDevice = false
  distinct : ((statics ++ dynamics).map fun t => t.val.id).Nodup

theorem loadRegistry_eq_ok_iff {files : TargetFiles} {registry : Registry} :
    loadRegistry env files = .ok registry ↔
      ∃ statics dynamics, parseRegistryFile env.targetsFile files.static true = .ok statics ∧
        parseRegistryFile env.dynamicTargetsFile files.dynamic false = .ok dynamics ∧
          Registrable statics dynamics ∧ registry = (statics ++ dynamics).map Subtype.val := by
  have hids : ∀ ts : List ParsedTarget,
      (ts.map Subtype.val).map TargetConfig.id = ts.map fun t => t.val.id :=
    fun ts => List.map_map
  have hnil : (([] : Registry).map TargetConfig.id).Nodup := List.nodup_nil
  constructor
  · intro h
    obtain ⟨statics, hstatics, h⟩ := bind_eq_ok h
    obtain ⟨dynamics, hdynamics, h⟩ := bind_eq_ok h
    obtain ⟨map, hmap, h⟩ := bind_eq_ok h
    obtain ⟨hstaticDevices, hstaticIds, rfl⟩ := (addTargets_eq_ok_iff hnil).mp hmap
    obtain ⟨hdevices, hnodup, rfl⟩ := (addTargets_eq_ok_iff hstaticIds).mp h
    rw [List.nil_append, ← List.map_append] at hnodup ⊢
    refine ⟨statics, dynamics, hstatics, hdynamics, ⟨?_, ?_⟩, rfl⟩
    · rw [List.forall_mem_append]
      exact ⟨hstaticDevices, hdevices⟩
    · rw [← hids]
      exact hnodup
  · rintro ⟨statics, dynamics, hstatics, hdynamics, ⟨hdevices, hdistinct⟩, rfl⟩
    rw [List.forall_mem_append] at hdevices
    rw [← hids] at hdistinct
    have hstaticIds : (([] ++ statics.map Subtype.val).map TargetConfig.id).Nodup := by
      rw [List.map_append, List.map_append] at hdistinct
      exact hdistinct.of_append_left
    rw [loadRegistry, hstatics, ok_bind, hdynamics, ok_bind,
      (addTargets_eq_ok_iff hnil).mpr ⟨hdevices.1, hstaticIds, rfl⟩, ok_bind,
      addTargets_eq_ok_iff hstaticIds]
    rw [List.nil_append, ← List.map_append]
    exact ⟨hdevices.2, hdistinct, rfl⟩

theorem getTarget_eq_some_iff {registry : Registry} {id : JsString} {t : TargetConfig}
    (hdistinct : (registry.map TargetConfig.id).Nodup) :
    getTarget registry id = some t ↔ t ∈ registry ∧ t.id = id := by
  constructor
  · intro h
    exact ⟨List.mem_of_find?_eq_some h, getTarget_id h⟩
  · rintro ⟨hmem, rfl⟩
    cases hfound : getTarget registry t.id with
    | none => exact absurd (List.mem_map_of_mem hmem) (getTarget_eq_none_iff.mp hfound)
    | some u =>
        have hu := List.mem_of_find?_eq_some hfound
        rw [List.inj_on_of_nodup_map hdistinct hu hmem (getTarget_id hfound)]

theorem nodup_of_loadRegistry {files : TargetFiles} {registry : Registry}
    (h : loadRegistry env files = .ok registry) : (registry.map TargetConfig.id).Nodup := by
  obtain ⟨statics, dynamics, -, -, hregistrable, rfl⟩ := loadRegistry_eq_ok_iff.mp h
  rw [List.map_map]
  exact hregistrable.distinct

/-! ## Replacing an entry of the overlay -/

theorem overlayWith_perm (current : List ParsedTarget) (parsed : ParsedTarget) :
    (overlayWith env current parsed).Perm
      (parsed :: current.filter fun t => t.val.id ≠ parsed.val.id) :=
  (List.mergeSort_perm ..).trans (List.perm_append_singleton ..)

theorem mem_overlayWith {current : List ParsedTarget} {parsed t : ParsedTarget} :
    t ∈ overlayWith env current parsed ↔ t = parsed ∨ t ∈ current ∧ t.val.id ≠ parsed.val.id := by
  rw [(overlayWith_perm current parsed).mem_iff, List.mem_cons, List.mem_filter, decide_eq_true_iff]

/-- What `upsertDynamicAgentTarget` has checked when it writes. -/
structure Upserts (env : RegistryEnv) (files : TargetFiles) (input : ParsedTarget)
    (statics current : List ParsedTarget) : Prop where
  agent : input.val.transport = .agent
  device : (input.val.deviceId.getD []).isEmpty = false
  parsesStatic : parseRegistryFile env.targetsFile files.static true = .ok statics
  free : ∀ t ∈ statics, t.val.id ≠ input.val.id
  parsesDynamic : parseRegistryFile env.dynamicTargetsFile files.dynamic false = .ok current

theorem planUpsert_eq_ok_iff {files : TargetFiles} {input : TargetConfig}
    {next : List ParsedTarget} :
    planUpsert env files input = .ok next ↔
      ∃ (h : input.accepted = true) (statics current : List ParsedTarget),
        Upserts env files ⟨input, h⟩ statics current ∧
          next = overlayWith env current ⟨input, h⟩ := by
  constructor
  · intro h
    obtain ⟨parsed, hparsed, h⟩ := bind_eq_ok h
    obtain ⟨_, hagent, h⟩ := bind_eq_ok h
    obtain ⟨statics, hstatics, h⟩ := bind_eq_ok h
    obtain ⟨_, hfree, h⟩ := bind_eq_ok h
    obtain ⟨current, hcurrent, h⟩ := bind_eq_ok h
    unfold parseTarget at hparsed
    split_ifs at hparsed with haccepted
    · obtain rfl := Except.ok.inj hparsed
      have hfree' := requireThat_eq_ok hfree
      simp only [List.any_eq_false, decide_eq_true_iff] at hfree'
      exact ⟨haccepted, statics, current, ⟨(requireThat_eq_ok hagent).1,
        (requireThat_eq_ok hagent).2, hstatics, hfree', hcurrent⟩, (Except.ok.inj h).symm⟩
    · simp [deny] at hparsed
  · rintro ⟨haccepted, statics, current, hupserts, rfl⟩
    have hfree : statics.any (fun t => t.val.id = input.id) = false := by
      simp only [List.any_eq_false, decide_eq_true_iff]
      exact hupserts.free
    rw [planUpsert, parseTarget, dif_pos haccepted, ok_bind, requireThat,
      if_pos ⟨hupserts.agent, hupserts.device⟩, ok_bind, hupserts.parsesStatic, ok_bind, requireThat,
      if_pos hfree, ok_bind, hupserts.parsesDynamic, ok_bind]
    rfl

/-- The new overlay can be loaded exactly if the entries that stay can. -/
theorem Upserts.registrable_iff {files : TargetFiles} {input : ParsedTarget}
    {statics current : List ParsedTarget} (h : Upserts env files input statics current) :
    Registrable statics (overlayWith env current input) ↔
      Registrable statics (current.filter fun t => t.val.id ≠ input.val.id) := by
  have hdevice : input.val.lacksDevice = false := by
    simp [TargetConfig.lacksDevice, h.device]
  have hperm : (statics ++ overlayWith env current input).Perm
      (input :: (statics ++ current.filter fun t => t.val.id ≠ input.val.id)) :=
    ((overlayWith_perm current input).append_left statics).trans List.perm_middle
  have hnew : input.val.id ∉
      (statics ++ current.filter fun t => t.val.id ≠ input.val.id).map fun t => t.val.id := by
    rw [List.mem_map]
    rintro ⟨t, ht, hid⟩
    rcases List.mem_append.mp ht with ht | ht
    · exact h.free t ht hid
    · exact of_decide_eq_true (List.mem_filter.mp ht).2 hid
  constructor
  · rintro ⟨hdevices, hdistinct⟩
    refine ⟨fun t ht => hdevices t (hperm.mem_iff.mpr (List.mem_cons_of_mem _ ht)), ?_⟩
    rw [(hperm.map _).nodup_iff, List.map_cons, List.nodup_cons] at hdistinct
    exact hdistinct.2
  · rintro ⟨hdevices, hdistinct⟩
    refine ⟨fun t ht => ?_, ?_⟩
    · rcases List.mem_cons.mp (hperm.mem_iff.mp ht) with rfl | ht
      · exact hdevice
      · exact hdevices t ht
    · rw [(hperm.map _).nodup_iff, List.map_cons, List.nodup_cons]
      exact ⟨hnew, hdistinct⟩

/-- How an upsert ends. -/
inductive UpsertCase (env : RegistryEnv) (s : RegistryState) (input : TargetConfig) (writes : Bool) :
    Except OpsError TargetConfig × RegistryState → Prop where
  | refused {e : OpsError} (hplan : planUpsert env s.files input = .error e) :
      UpsertCase env s input writes (.error e, s)
  | unwritten {next : List ParsedTarget} (hplan : planUpsert env s.files input = .ok next)
      (hwrites : writes = false) :
      UpsertCase env s input writes (deny "Error" env.writeMessage, s)
  /-- the overlay is in place and cannot be loaded -/
  | broken {next : List ParsedTarget} {e : OpsError}
      (hplan : planUpsert env s.files input = .ok next) (hwrites : writes = true)
      (hload : loadRegistry env { s.files with dynamic := .parsed next } = .error e) :
      UpsertCase env s input writes
        (.error e, { s with files := { s.files with dynamic := .parsed next } })
  | installed {next : List ParsedTarget} {registry : Registry}
      (hplan : planUpsert env s.files input = .ok next) (hwrites : writes = true)
      (hload : loadRegistry env { s.files with dynamic := .parsed next } = .ok registry)
      (hfound : getTarget registry input.id = some input) :
      UpsertCase env s input writes
        (.ok input, ⟨{ s.files with dynamic := .parsed next }, registry⟩)

/-- A load finds the target that has just been written. -/
theorem getTarget_of_planned {files : TargetFiles} {input : TargetConfig}
    {next : List ParsedTarget} {registry : Registry}
    (hplan : planUpsert env files input = .ok next)
    (hload : loadRegistry env { files with dynamic := .parsed next } = .ok registry) :
    getTarget registry input.id = some input := by
  obtain ⟨haccepted, statics, current, -, rfl⟩ := planUpsert_eq_ok_iff.mp hplan
  rw [getTarget_eq_some_iff (nodup_of_loadRegistry hload)]
  obtain ⟨statics', dynamics, -, hdynamics, -, rfl⟩ := loadRegistry_eq_ok_iff.mp hload
  obtain rfl := Except.ok.inj hdynamics
  refine ⟨?_, rfl⟩
  rw [List.map_append, List.mem_append, List.mem_map, List.mem_map]
  exact .inr ⟨⟨input, haccepted⟩, mem_overlayWith.mpr (.inl rfl), rfl⟩

theorem upsertCase (env : RegistryEnv) (s : RegistryState) (input : TargetConfig) (writes : Bool) :
    UpsertCase env s input writes (upsertDynamicAgentTarget env s input writes) := by
  unfold upsertDynamicAgentTarget
  cases hplan : planUpsert env s.files input with
  | error e => exact .refused hplan
  | ok next =>
      dsimp only
      cases writes with
      | false => exact .unwritten hplan rfl
      | true =>
          rw [if_neg (by decide)]
          cases hload : loadRegistry env { s.files with dynamic := .parsed next } with
          | error e => exact .broken hplan rfl hload
          | ok registry =>
              have hfound := getTarget_of_planned hplan hload
              dsimp only
              rw [hfound]
              exact .installed hplan rfl hload hfound

/-! ## While the static file stays as it was loaded -/

def TargetsFile.targets : TargetsFile → List TargetConfig
  | .parsed ts => ts.map Subtype.val
  | _ => []

/-- The registry is what the files say. -/
def Loaded (env : RegistryEnv) (s : RegistryState) : Prop :=
  loadRegistry env s.files = .ok s.registry

/-- The step from one state to the other is the installation of the target, in the registry
and in the overlay. -/
structure Installs (s s' : RegistryState) (t : TargetConfig) : Prop where
  installed : getTarget s'.registry t.id = some t
  others : ∀ id, id ≠ t.id → getTarget s'.registry id = getTarget s.registry id
  static : s'.files.static = s.files.static
  overlay : ∀ u, u ∈ s'.files.dynamic.targets ↔
    u = t ∨ u ∈ s.files.dynamic.targets ∧ u.id ≠ t.id

theorem targets_of_parse {name : JsString} {file : TargetsFile} {requireOne : Bool}
    {ts : List ParsedTarget} (h : parseRegistryFile name file requireOne = .ok ts) :
    file.targets = ts.map Subtype.val := by
  unfold parseRegistryFile at h
  cases file with
  | missing =>
      cases requireOne with
      | true => simp [plainError, deny] at h
      | false => rw [← Except.ok.inj h]; rfl
  | unreadable => simp [plainError, deny] at h
  | malformed message => simp [plainError, deny] at h
  | refused detail => simp [plainError, deny] at h
  | parsed targets =>
      dsimp only at h
      split_ifs at h
      · simp [plainError, deny] at h
      · rw [← Except.ok.inj h]
        rfl

variable {s : RegistryState} {input : TargetConfig}

theorem mem_map_val_overlayWith {current : List ParsedTarget} {parsed : ParsedTarget}
    {u : TargetConfig} :
    u ∈ (overlayWith env current parsed).map Subtype.val ↔
      u = parsed.val ∨ u ∈ current.map Subtype.val ∧ u.id ≠ parsed.val.id := by
  simp only [List.mem_map, mem_overlayWith]
  constructor
  · rintro ⟨t, rfl | ⟨ht, hid⟩, rfl⟩
    · exact .inl rfl
    · exact .inr ⟨⟨t, ht, rfl⟩, hid⟩
  · rintro (rfl | ⟨⟨t, ht, rfl⟩, hid⟩)
    · exact ⟨parsed, .inl rfl, rfl⟩
    · exact ⟨t, .inr ⟨ht, hid⟩, rfl⟩

theorem Upserts.installs {parsed : ParsedTarget} {statics current : List ParsedTarget}
    {registry : Registry} (h : Upserts env s.files parsed statics current) (hloaded : Loaded env s)
    (hload : loadRegistry env
      { s.files with dynamic := .parsed (overlayWith env current parsed) } = .ok registry)
    (hfound : getTarget registry parsed.val.id = some parsed.val) :
    Installs s ⟨{ s.files with dynamic := .parsed (overlayWith env current parsed) }, registry⟩
      parsed.val := by
  constructor
  · exact hfound
  · intro id hid
    have hbefore := nodup_of_loadRegistry hloaded
    have hafter := nodup_of_loadRegistry hload
    obtain ⟨statics₁, current₁, hstatics₁, hcurrent₁, -, hregistry₁⟩ :=
      loadRegistry_eq_ok_iff.mp hloaded
    obtain ⟨statics₂, current₂, hstatics₂, hcurrent₂, -, hregistry₂⟩ :=
      loadRegistry_eq_ok_iff.mp hload
    obtain rfl := Except.ok.inj (h.parsesStatic.symm.trans hstatics₁)
    obtain rfl := Except.ok.inj (h.parsesDynamic.symm.trans hcurrent₁)
    obtain rfl := Except.ok.inj (h.parsesStatic.symm.trans hstatics₂)
    obtain rfl := Except.ok.inj hcurrent₂
    have hiff : ∀ t : TargetConfig, t.id = id → (t ∈ registry ↔ t ∈ s.registry) := by
      rintro t rfl
      rw [hregistry₁, hregistry₂, List.map_append, List.map_append, List.mem_append,
        List.mem_append, mem_map_val_overlayWith]
      constructor
      · rintro (ht | rfl | ⟨ht, -⟩)
        · exact .inl ht
        · exact absurd rfl hid
        · exact .inr ht
      · rintro (ht | ht)
        · exact .inl ht
        · exact .inr (.inr ⟨ht, hid⟩)
    refine Option.ext fun t => ?_
    show getTarget registry id = some t ↔ getTarget s.registry id = some t
    rw [getTarget_eq_some_iff hafter, getTarget_eq_some_iff hbefore]
    exact ⟨fun ⟨ht, hid⟩ => ⟨(hiff t hid).mp ht, hid⟩, fun ⟨ht, hid⟩ => ⟨(hiff t hid).mpr ht, hid⟩⟩
  · rfl
  · intro u
    show u ∈ (overlayWith env current parsed).map Subtype.val ↔ _
    rw [mem_map_val_overlayWith, targets_of_parse h.parsesDynamic]

/-- The entries that stay were loaded before. -/
theorem Upserts.loads {parsed : ParsedTarget} {statics current : List ParsedTarget}
    (h : Upserts env s.files parsed statics current) (hloaded : Loaded env s) :
    ∃ registry, loadRegistry env
      { s.files with dynamic := .parsed (overlayWith env current parsed) } = .ok registry := by
  obtain ⟨statics₁, current₁, hstatics, hcurrent, hregistrable, -⟩ :=
    loadRegistry_eq_ok_iff.mp hloaded
  obtain rfl := Except.ok.inj (h.parsesStatic.symm.trans hstatics)
  obtain rfl := Except.ok.inj (h.parsesDynamic.symm.trans hcurrent)
  have hstay : Registrable statics (current.filter fun t => t.val.id ≠ parsed.val.id) := by
    have hsub : (statics ++ current.filter fun t => t.val.id ≠ parsed.val.id).Sublist
        (statics ++ current) := List.filter_sublist.append_left statics
    exact ⟨fun t ht => hregistrable.devices t (hsub.subset ht),
      hregistrable.distinct.sublist (hsub.map _)⟩
  exact ⟨_, loadRegistry_eq_ok_iff.mpr
    ⟨statics, _, hstatics, rfl, h.registrable_iff.mpr hstay, rfl⟩⟩

/-- An upsert installs its target, or changes nothing and fails. -/
theorem Loaded.upsert (h : Loaded env s) (input : TargetConfig) (writes : Bool) :
    (∃ e, upsertDynamicAgentTarget env s input writes = (.error e, s)) ∨
      ∃ s', upsertDynamicAgentTarget env s input writes = (.ok input, s') ∧ Loaded env s' ∧
        Installs s s' input ∧ ∀ t ∈ s.files.static.targets, t.id ≠ input.id := by
  have hcase := upsertCase env s input writes
  generalize upsertDynamicAgentTarget env s input writes = x at hcase
  cases hcase with
  | refused hplan => exact .inl ⟨_, rfl⟩
  | unwritten hplan hwrites => exact .inl ⟨_, rfl⟩
  | broken hplan hwrites hload =>
      obtain ⟨haccepted, statics, current, hupserts, rfl⟩ := planUpsert_eq_ok_iff.mp hplan
      obtain ⟨registry, hregistry⟩ := hupserts.loads h
      exact absurd (hload.symm.trans hregistry) (by simp)
  | installed hplan hwrites hload hfound =>
      obtain ⟨haccepted, statics, current, hupserts, rfl⟩ := planUpsert_eq_ok_iff.mp hplan
      refine .inr ⟨_, rfl, hload, hupserts.installs h hload hfound, fun t ht => ?_⟩
      rw [targets_of_parse hupserts.parsesStatic, List.mem_map] at ht
      obtain ⟨t, ht, rfl⟩ := ht
      exact hupserts.free t ht

end Load

end RemoteOps

import RemoteOps.Portainer.Client

/-!
# Updating the variables of a stack

What is sent when variables are updated, and what is reported about it. The names to unset are
deleted before the changes are set, and the report copies the request: a name that is in both
lists is sent and reported as removed. Otherwise the report is true (`envUpdate_truthful_iff`).
-/

namespace RemoteOps

open Ecma Transition

/-! ## A true report -/

def EnvUpdate.changedNames (input : EnvUpdate) : List JsString := input.changes.map EnvVar.name

/-- The request says nothing about the name. -/
def EnvUpdate.LeavesAlone (input : EnvUpdate) (name : JsString) : Prop :=
  name ∉ input.changedNames ∧ name ∉ input.unsetNames

instance decidableLeavesAlone (input : EnvUpdate) (name : JsString) :
    Decidable (input.LeavesAlone name) :=
  inferInstanceAs (Decidable (_ ∧ _))

/-- The value of a name; in a list that repeats it, the last one. -/
def lastValue (env : List EnvVar) (name : JsString) : Option JsString :=
  lookup name (envPairs env).reverse

structure TruthfulUpdate (input : EnvUpdate) (current sent : List EnvVar) (report : EnvReport) :
    Prop where
  unique : (sent.map EnvVar.name).Nodup
  kept : input.replaceAll = false → ∀ name, input.LeavesAlone name →
    lastValue sent name = lastValue current name
  inOrder : input.replaceAll = false → (sent.map EnvVar.name).filter (input.LeavesAlone ·) =
    (current.map EnvVar.name).eraseDups.filter (input.LeavesAlone ·)
  changed : ∀ name ∈ input.changedNames, lastValue sent name = lastValue input.changes name
  removed : ∀ name ∈ report.removedVariables, name ∉ sent.map EnvVar.name
  updated : ∀ name ∈ report.updatedVariables, name ∈ sent.map EnvVar.name
  total : report.totalVariables = sent.length

/-- The variables of the stack that was read. -/
def currentEnv (h : PortainerExchanges) : Option (List EnvVar) := do
  let first ← h.head?
  let stack ← (readAnswer first.2).toOption
  (envArray (stack.get (js "Env"))).toOption

/-- The variables in the body of the last request. -/
def sentEnv (h : PortainerExchanges) : Option (List EnvVar) := do
  let last ← h.getLast?
  let body ← last.1.body
  (envArray (body.get (js "env"))).toOption

/-- The report is true of what was read and sent. -/
def ReportedTruly (input : EnvUpdate) (h : PortainerExchanges) (report : EnvReport) : Prop :=
  ∃ current sent, currentEnv h = some current ∧ sentEnv h = some sent ∧
    TruthfulUpdate input current sent report

/-! ## What is sent -/

section Merge

variable {input : EnvUpdate} {current : List EnvVar} {name : JsString}

theorem lookup_reverse {α : Type} {ps : List (JsString × α)} (h : (ps.map Prod.fst).Nodup)
    (k : JsString) : lookup k ps.reverse = lookup k ps := by
  have hreverse : (ps.reverse.map Prod.fst).Nodup := by
    rw [List.map_reverse]
    exact List.nodup_reverse.mpr h
  apply Option.ext
  intro x
  rw [lookup_eq_some_iff hreverse, lookup_eq_some_iff h, List.mem_reverse]

theorem lastValue_isSome_iff {env : List EnvVar} :
    (lastValue env name).isSome ↔ name ∈ env.map EnvVar.name := by
  rw [lastValue, lookup_isSome_iff, List.map_reverse, map_fst_envPairs, List.mem_reverse]

theorem lastValue_eq_none_iff {env : List EnvVar} :
    lastValue env name = none ↔ name ∉ env.map EnvVar.name := by
  rw [← lastValue_isSome_iff, Option.not_isSome_iff_eq_none]

/-- A change counts; without one, a name that is not unset keeps its value. -/
theorem lastValue_mergedEnv (input : EnvUpdate) (current : List EnvVar) (name : JsString) :
    lastValue (mergedEnv input current) name =
      (lastValue input.changes name).or
        (if name ∈ input.unsetNames ∨ input.replaceAll = true then none
          else lastValue current name) := by
  have hget : lastValue (mergedEnv input current) name =
      (mergedMap input current).get? name := by
    rw [lastValue, envPairs_mergedEnv, lookup_reverse (mergedMap input current).nodup,
      OrderedMap.get?]
  rw [hget, mergedMap, OrderedMap.get?_setAll, OrderedMap.get?_deleteAll]
  by_cases hunset : name ∈ input.unsetNames
  · rw [if_pos hunset, if_pos (.inl hunset), lastValue]
  · cases hreplace : input.replaceAll with
    | true => rw [if_neg hunset, if_pos rfl, if_pos (.inr rfl), lastValue, OrderedMap.get?_empty]
    | false =>
        rw [if_neg hunset, if_neg Bool.false_ne_true, if_neg (by simp [hunset]),
          OrderedMap.get?_setAll, OrderedMap.get?_empty, Option.or_none, lastValue, lastValue]

theorem mem_names_mergedEnv :
    name ∈ (mergedEnv input current).map EnvVar.name ↔
      name ∈ input.changedNames ∨
        (name ∉ input.unsetNames ∧ input.replaceAll = false) ∧ name ∈ current.map EnvVar.name := by
  rw [← lastValue_isSome_iff, lastValue_mergedEnv, Option.isSome_or, Bool.or_eq_true,
    lastValue_isSome_iff, EnvUpdate.changedNames]
  apply or_congr_right
  by_cases h : name ∈ input.unsetNames ∨ input.replaceAll = true
  · rw [if_pos h]
    refine iff_of_false (by simp) fun hkept => ?_
    obtain hunset | hreplace := h
    · exact hkept.1.1 hunset
    · rw [hkept.1.2] at hreplace
      cases hreplace
  · rw [if_neg h, lastValue_isSome_iff]
    rw [not_or, Bool.not_eq_true] at h
    exact (and_iff_right h).symm

/-- The names that the request leaves alone keep their order. -/
theorem filter_leavesAlone (hreplace : input.replaceAll = false) :
    ((mergedEnv input current).map EnvVar.name).filter (input.LeavesAlone ·) =
      (current.map EnvVar.name).eraseDups.filter (input.LeavesAlone ·) := by
  have hchanged : ∀ names : List JsString, (∀ name ∈ names, name ∈ input.changedNames) →
      names.filter (input.LeavesAlone ·) = [] := by
    intro names h
    apply List.filter_eq_nil_iff.mpr
    intro name hname halone
    exact (of_decide_eq_true halone).1 (h name hname)
  have hstart : (OrderedMap.empty.setAll (envPairs current)).keys =
      (current.map EnvVar.name).eraseDups := by
    rw [OrderedMap.keys_setAll, OrderedMap.keys_empty, map_fst_envPairs, List.nil_append,
      List.filter_eq_self.mpr (by simp)]
  rw [names_mergedEnv, mergedMap, hreplace, if_neg Bool.false_ne_true, OrderedMap.keys_setAll,
    OrderedMap.keys_deleteAll, hstart, List.filter_append,
    hchanged (List.eraseDups _), List.append_nil, List.filter_filter]
  · apply List.filter_congr
    intro name _
    by_cases halone : input.LeavesAlone name
    · simp [halone, halone.2]
    · simp [halone]
  · intro name hname
    rw [List.mem_eraseDups, map_fst_envPairs] at hname
    exact List.mem_of_mem_filter hname

/-- Apart from a name that is unset and changed at once, everything is reported as it was sent. -/
theorem truthfulUpdate_iff {report : EnvReport}
    (hupdated : report.updatedVariables = input.changedNames)
    (hremoved : report.removedVariables = input.unsetNames)
    (htotal : report.totalVariables = (mergedEnv input current).length) :
    TruthfulUpdate input current (mergedEnv input current) report ↔
      ∀ name ∈ input.unsetNames, name ∉ input.changedNames := by
  constructor
  · intro h name hunset hchanged
    exact h.removed name (hremoved ▸ hunset) (mem_names_mergedEnv.mpr (.inl hchanged))
  · intro hdisjoint
    constructor
    · rw [names_mergedEnv]
      exact (mergedMap input current).nodup_keys
    · intro hreplace name halone
      have hnone : lastValue input.changes name = none := lastValue_eq_none_iff.mpr halone.1
      rw [lastValue_mergedEnv, hnone, Option.none_or, if_neg (by simp [halone.2, hreplace])]
    · exact filter_leavesAlone
    · intro name hname
      obtain ⟨value, hvalue⟩ := Option.isSome_iff_exists.mp (lastValue_isSome_iff.mpr hname)
      rw [lastValue_mergedEnv, hvalue, Option.some_or]
    · intro name hname hsent
      rw [hremoved] at hname
      obtain hchanged | hkept := mem_names_mergedEnv.mp hsent
      · exact hdisjoint name hname hchanged
      · exact hkept.1.1 hname
    · intro name hname
      rw [hupdated] at hname
      exact mem_names_mergedEnv.mpr (.inl hname)
    · exact htotal

end Merge

/-! ## The run -/

section Run

variable {cfg : PortainerConfig} {past : PortainerExchanges}

/-- What the program does with a body that it built itself. -/
theorem envArray_envJson (env : List EnvVar) : envArray (some (envJson env)) = .ok env := by
  rw [envJson, envArray]
  induction env with
  | nil => rfl
  | cons v env ih =>
      rw [List.map_cons, envRows, ih]
      rfl

/-- If the tool ends with a report, it has sent the merged variables. -/
def SendsMerged (input : EnvUpdate) (h : PortainerExchanges)
    (r : Except PortainerThrow EnvReport) : Prop :=
  ∀ report, r = .ok report → ∃ current, currentEnv h = some current ∧
    sentEnv h = some (mergedEnv input current) ∧
    report.updatedVariables = input.changedNames ∧ report.removedVariables = input.unsetNames ∧
    report.totalVariables = (mergedEnv input current).length

abbrev EndsWith (Q : PortainerExchanges → Except PortainerThrow EnvReport → Prop)
    (past : PortainerExchanges) (m : Portainer EnvReport) : Prop :=
  m.run.wp (fun _ _ => True) Q past

variable {Q : PortainerExchanges → Except PortainerThrow EnvReport → Prop}

theorem endsWith_lift {α : Type} {e : Except PortainerThrow α} {f : α → Portainer EnvReport}
    (hQ : ∀ h err, Q h (.error err)) (hf : ∀ a, e = .ok a → EndsWith Q past (f a)) :
    EndsWith Q past ((liftM e : Portainer α) >>= f) := by
  cases e with
  | error err => exact hQ past err
  | ok a => exact hf a rfl

theorem endsWith_request {path method : JsString} {body : Option Json}
    {g : Json → Portainer EnvReport} (hQ : ∀ h err, Q h (.error err))
    (hg : ∀ call answer x, call.body = body → readAnswer answer = .ok x →
      EndsWith Q (past ++ [(call, answer)]) (g x)) :
    EndsWith Q past (requestJson cfg path method body >>= g) := by
  rw [EndsWith]
  cases hkey : apiKey cfg with
  | error err =>
      rw [run_requestJson_of_no_key hkey]
      exact hQ past err
  | ok token =>
      rw [run_requestJson_of_key hkey, Program.wp_ask]
      refine ⟨trivial, fun answer => endsWith_lift hQ fun x hx => ?_⟩
      exact hg _ answer x rfl hx

/-- The last request carries the variables. -/
theorem endsWith_redeploy {stackId endpointId : JsNumber} {env : List EnvVar}
    {pullImage prune git : Bool} {report : EnvReport} (hQ : ∀ h err, Q h (.error err))
    (hlast : ∀ h, past <+: h → sentEnv h = some env → Q h (.ok report)) :
    EndsWith Q past
      ((if git then gitRedeploy cfg else composeRedeploy cfg) stackId endpointId env pullImage
        prune >>= fun _ => pure report) := by
  have hsent : ∀ (h : PortainerExchanges) (call : PortainerCall) (answer : PortainerAnswer)
      (rest : List (JsString × Json)), call.body = some (.obj rest) →
      lookup (js "env") rest = some (envJson env) →
      sentEnv (h ++ [(call, answer)]) = some env := by
    intro h call answer rest hbody hlookup
    rw [sentEnv, List.getLast?_concat]
    change (call.body >>= fun body => (envArray (body.get (js "env"))).toOption) = _
    rw [hbody]
    change (envArray (lookup (js "env") rest)).toOption = _
    rw [hlookup, envArray_envJson]
    rfl
  cases git with
  | true =>
      rw [if_pos rfl, gitRedeploy]
      apply endsWith_request hQ
      intro call answer x hbody _
      exact hlast _ (List.prefix_append _ _) (hsent _ call answer _ hbody rfl)
  | false =>
      rw [if_neg Bool.false_ne_true, composeRedeploy, bind_assoc]
      apply endsWith_request hQ
      intro call answer file _ _
      rw [bind_assoc]
      apply endsWith_lift hQ
      intro content _
      apply endsWith_request hQ
      intro call' answer' x hbody _
      apply hlast
      · rw [List.append_assoc]
        exact List.prefix_append _ _
      · exact hsent _ call' answer' _ hbody rfl

theorem json_of_checkName {stack : Json} {confirm : JsString} {confirmed : ConfirmedStack}
    (h : checkName stack confirm = .ok confirmed) : confirmed.json = stack := by
  obtain ⟨name, -, h⟩ := bind_eq_ok h
  by_cases hconfirm : confirm = name
  · rw [if_pos hconfirm] at h
    obtain rfl := Except.ok.inj h
    rfl
  · rw [if_neg hconfirm] at h
    cases h

theorem sendsMerged_run (input : EnvUpdate) :
    EndsWith (SendsMerged input) [] (updatePortainerStackEnv cfg input) := by
  have hQ : ∀ h err, SendsMerged input h (.error err) := fun _ _ _ h => by cases h
  rw [updatePortainerStackEnv, confirmedStack, rawStack, bind_assoc]
  apply endsWith_request hQ
  intro call answer stack _ hstack
  apply endsWith_lift hQ
  intro confirmed hconfirmed
  rw [json_of_checkName hconfirmed]
  apply endsWith_lift hQ
  intro current hcurrent
  apply endsWith_lift hQ
  intro endpointId _
  apply endsWith_redeploy hQ
  intro h hfirst hsent report hreport
  obtain rfl := Except.ok.inj hreport
  refine ⟨current, ?_, hsent, rfl, rfl, rfl⟩
  obtain ⟨rest, rfl⟩ := hfirst
  change ((readAnswer answer).toOption >>= fun stack =>
    (envArray (stack.get (js "Env"))).toOption) = _
  rw [hstack]
  exact congrArg Except.toOption hcurrent

end Run

def updateRun (cfg : PortainerConfig) (input : EnvUpdate) (server : PortainerServer) :
    PortainerExchanges × Except PortainerThrow EnvReport :=
  Program.against server (updatePortainerStackEnv cfg input).run []

theorem reportedTruly_iff {cfg : PortainerConfig} {input : EnvUpdate} {server : PortainerServer}
    {report : EnvReport} (hreport : (updateRun cfg input server).2 = .ok report) :
    ReportedTruly input (updateRun cfg input server).1 report ↔
      ∀ name ∈ input.unsetNames, name ∉ input.changedNames := by
  have hruns : SendsMerged input (updateRun cfg input server).1 (updateRun cfg input server).2 :=
    Program.against_of_wp (sendsMerged_run input) server
  obtain ⟨current, hcurrent, hsent, hupdated, hremoved, htotal⟩ := hruns report hreport
  have htruth := truthfulUpdate_iff hupdated hremoved htotal
  rw [← htruth]
  constructor
  · rintro ⟨current', sent, hcurrent', hsent', htrue⟩
    obtain rfl := Option.some.inj (hcurrent.symm.trans hcurrent')
    obtain rfl := Option.some.inj (hsent.symm.trans hsent')
    exact htrue
  · intro htrue
    exact ⟨current, _, hcurrent, hsent, htrue⟩

/-- The report of an update is true of what was read and sent exactly if no name is to be unset
and changed at once. -/
theorem envUpdate_truthful_iff (cfg : PortainerConfig) (input : EnvUpdate)
    (server : PortainerServer) (report : EnvReport)
    (hreport : (updateRun cfg input server).2 = .ok report) :
    ReportedTruly input (updateRun cfg input server).1 report ↔
      ∀ name ∈ input.unsetNames, name ∉ input.changedNames :=
  reportedTruly_iff hreport

/-! ## A variable that is unset and changed -/

def sampleStack (value url : JsString) : Json :=
  .obj [(js "Name", .str (js "web")), (js "EndpointId", .num (JsNumber.ofInt 1 inRange_one)),
    (js "Env", .arr [.obj [(js "name", .str (js "DB_URL")), (js "value", .str value)]]),
    (js "GitConfig", .obj [(js "URL", .str url)])]

def stackAnswer (value url : JsString) : PortainerAnswer :=
  .response 200 (ofChars (sampleStack value url).stringify)

def samplePortainer : PortainerConfig where
  portainerUrl := js "https://portainer.example"
  apiKeyFile := js "/app/secrets/portainer_api_key"
  cachedApiKey := some (js "ptr_0123456789abcdef")
  keyFileText := none

/-- The server shows the stack whatever it is asked. -/
def stackServer (value url : JsString) : PortainerServer := fun _ _ => stackAnswer value url

def sampleUpdate (changes : List EnvVar) (unsetNames : List JsString) : EnvUpdate where
  stackId := JsNumber.ofInt 1 inRange_one
  confirmStackName := js "web"
  changes := changes
  unsetNames := unsetNames
  replaceAll := false
  pullImage := false
  prune := false

def sampleReport (updated removed : List JsString) (total : ℕ) : EnvReport where
  stackId := JsNumber.ofInt 1 inRange_one
  stackName := js "web"
  fromGit := true
  updatedVariables := updated
  removedVariables := removed
  totalVariables := total

theorem portChanged_reportedTruly :
    ReportedTruly (sampleUpdate [⟨js "PORT", js "80"⟩] [js "DB_URL"])
        (updateRun samplePortainer (sampleUpdate [⟨js "PORT", js "80"⟩] [js "DB_URL"])
          (stackServer (js "a") (js "https://git/web"))).1
        (sampleReport [js "PORT"] [js "DB_URL"] 1) ↔
      ∀ name ∈ (sampleUpdate [⟨js "PORT", js "80"⟩] [js "DB_URL"]).unsetNames,
        name ∉ (sampleUpdate [⟨js "PORT", js "80"⟩] [js "DB_URL"]).changedNames :=
  envUpdate_truthful_iff samplePortainer _ _ _ (by decide +kernel)

/-- The variable is sent, and reported as removed. -/
theorem changedName_reportedRemoved :
    ¬∀ (cfg : PortainerConfig) (input : EnvUpdate) (server : PortainerServer)
      (report : EnvReport), (updateRun cfg input server).2 = .ok report →
        ReportedTruly input (updateRun cfg input server).1 report := by
  intro h
  have hreport : (updateRun samplePortainer
      (sampleUpdate [⟨js "DB_URL", js "b"⟩] [js "DB_URL"])
      (stackServer (js "a") (js "https://git/web"))).2 =
        .ok (sampleReport [js "DB_URL"] [js "DB_URL"] 1) := by decide +kernel
  have hdisjoint := (reportedTruly_iff hreport).mp (h _ _ _ _ hreport)
  exact absurd hdisjoint (by decide)

end RemoteOps

import RemoteOps.Docker.Licensing
import RemoteOps.Ecma.Record

/-!
# Which container a reference denotes

The proxy checks a reference against a scope and passes it on as it is; the daemon
resolves it again. `Resolves` is how the daemon does that: a full id comes before
a name, and a name before a unique prefix of an id. What the proxy accepts
denotes a container of the scope exactly when the reference is `Unambiguous`.
-/

namespace RemoteOps

open Ecma Transition

/-! ## The daemon -/

structure DockerContainer where
  id : JsString
  names : List JsString
  deriving DecidableEq

def DockerContainer.NamedIn (scope : JsString → Bool) (c : DockerContainer) : Prop :=
  ∃ n ∈ c.names, scope n = true

instance (scope : JsString → Bool) (c : DockerContainer) : Decidable (c.NamedIn scope) :=
  inferInstanceAs (Decidable (∃ n ∈ c.names, scope n = true))

variable {scope : JsString → Bool} {containers : List DockerContainer} {ref : JsString}
  {c : DockerContainer}

/-- The daemon takes `ref` for the container `c`. -/
inductive Resolves (containers : List DockerContainer) (ref : JsString) (c : DockerContainer) :
    Prop where
  | fullId (hc : c ∈ containers) (hid : c.id = ref)
  | name (hc : c ∈ containers) (hid : ∀ c' ∈ containers, c'.id ≠ ref) (hname : ref ∈ c.names)
  | idPrefix (hc : c ∈ containers) (hid : ∀ c' ∈ containers, c'.id ≠ ref)
      (hname : ∀ c' ∈ containers, ref ∉ c'.names) (hstarts : startsWith c.id ref = true)
      (hunique : ∀ c' ∈ containers, startsWith c'.id ref = true → c' = c)

/-- An item of `GET /containers/json`; names are listed with a slash before them. -/
structure Lists (c : DockerContainer) (item : Json) : Prop where
  id : item.get (js "Id") = some (.str c.id)
  names : item.get (js "Names") = some (.arr (c.names.map fun n => .str (unit '/' :: n)))

def Describes (host : ProxyHost) (containers : List DockerContainer) (response : DockerResponse) :
    Prop :=
  response.status = 200 → ∃ items, bodyJson host response.body = some (.arr items) ∧
    List.Forall₂ Lists containers items

/-- Every listing so far was one of these containers. -/
def Faithful (host : ProxyHost) (containers : List DockerContainer) (past : Exchanges) : Prop :=
  ∀ response, (DockerCall.list [(js "all", js "1")], Except.ok response) ∈ past →
    Describes host containers response

/-! ## The property -/

/-- The reference of a call that is made under one. -/
def DockerCall.reference : DockerCall → Option JsString
  | inspect ref | logs ref _ | lifecycle ref _ | removeCandidate ref => some ref
  | _ => none

/-- The names that the reference of the call is checked against. -/
def DockerCall.checkedScope (cfg : ProxyConfig) : DockerCall → JsString → Bool
  | removeCandidate _ => allowedPrefix cfg.candidateNamePrefixes
  | _ => cfg.allowed.contains

/-- Whatever container the daemon takes the reference for has a name in the scope. -/
def DenotesIn (scope : JsString → Bool) (containers : List DockerContainer) (ref : JsString) :
    Prop :=
  ∀ c, Resolves containers ref c → c.NamedIn scope

/-- While the daemon holds these containers, every call made under a reference
goes to a container of its scope. -/
def ReferencesDenote (cfg : ProxyConfig) (host : ProxyHost) (routes : SemanticRoutes)
    (containers : List DockerContainer) (req : HttpRequest) : Prop :=
  ∀ past call, (handle cfg host routes req).Asks past call → Faithful host containers past →
    ∀ ref, call.reference = some ref → DenotesIn (call.checkedScope cfg) containers ref

/-! ## Accepted and unambiguous references -/

/-- A name of the scope, or the start of the id of a container of the scope. -/
def AcceptedIn (scope : JsString → Bool) (containers : List DockerContainer) (ref : JsString) :
    Prop :=
  scope ref = true ∨ isHexId ref = true ∧
    ∃ c ∈ containers, startsWith c.id ref = true ∧ c.NamedIn scope

/-- No container outside the scope has the reference as its id. A reference that is
no name of the scope is no container's name outside it either. A reference that is
a name of the scope, but no container's id or name, is not the start of the id of
one container only, outside the scope. -/
structure Unambiguous (scope : JsString → Bool) (containers : List DockerContainer)
    (ref : JsString) : Prop where
  fullId : ∀ c ∈ containers, c.id = ref → c.NamedIn scope
  name : scope ref = false → (∀ c ∈ containers, c.id ≠ ref) →
    ∀ c ∈ containers, ref ∈ c.names → c.NamedIn scope
  idPrefix : scope ref = true → (∀ c ∈ containers, c.id ≠ ref ∧ ref ∉ c.names) →
    ∀ c ∈ containers, startsWith c.id ref = true → c.NamedIn scope ∨
      ∃ c' ∈ containers, c' ≠ c ∧ startsWith c'.id ref = true

theorem Unambiguous.denotesIn (h : Unambiguous scope containers ref)
    (haccepted : AcceptedIn scope containers ref) : DenotesIn scope containers ref := by
  intro c hresolves
  cases hresolves with
  | fullId hc hid => exact h.fullId c hc hid
  | name hc hid hname =>
      by_cases hscope : scope ref = true
      · exact ⟨ref, hname, hscope⟩
      · exact h.name (by simpa using hscope) hid c hc hname
  | idPrefix hc hid hname hstarts hunique =>
      rcases haccepted with hscope | ⟨-, c', hc', hstarts', hnamed⟩
      · have hfree : ∀ c' ∈ containers, c'.id ≠ ref ∧ ref ∉ c'.names :=
          fun c' hc' => ⟨hid c' hc', hname c' hc'⟩
        rcases h.idPrefix hscope hfree c hc hstarts with hnamed | ⟨c', hc', hne, hstarts'⟩
        · exact hnamed
        · exact absurd (hunique c' hc' hstarts') hne
      · rwa [hunique c' hc' hstarts'] at hnamed

theorem Unambiguous.of_denotesIn (h : DenotesIn scope containers ref) :
    Unambiguous scope containers ref where
  fullId c hc hid := h c (.fullId hc hid)
  name _ hid c hc hname := h c (.name hc hid hname)
  idPrefix _ hfree c hc hstarts := by
    by_cases hother : ∃ c' ∈ containers, c' ≠ c ∧ startsWith c'.id ref = true
    · exact .inr hother
    · refine .inl (h c (.idPrefix hc (fun c' hc' => (hfree c' hc').1)
        (fun c' hc' => (hfree c' hc').2) hstarts fun c' hc' hstarts' => ?_))
      by_contra hne
      exact hother ⟨c', hc', hne, hstarts'⟩

/-! ## Listings -/

theorem hasNameIn_of_lists {names : List JsString} {item : Json} (h : Lists c item) :
    hasNameIn names item = true ↔ c.NamedIn names.contains := by
  simp [hasNameIn, h.names, DockerContainer.NamedIn, List.any_map]

theorem searchItems_of_lists {names : List JsString} {items : List Json}
    (h : List.Forall₂ Lists containers items) :
    searchItems names ref items =
      .ok (containers.any fun c => startsWith c.id ref && decide (c.NamedIn names.contains)) := by
  induction h with
  | nil => rfl
  | @cons c item containers items hitem _ ih =>
      have hid : itemId item = c.id := by rw [itemId, hitem.id]
      have hname : hasNameIn names item = decide (c.NamedIn names.contains) := by
        rw [Bool.eq_iff_iff, decide_eq_true_iff]
        exact hasNameIn_of_lists hitem
      have hnull : item ≠ .null := by
        rintro rfl
        cases hitem.id
      rw [searchItems.eq_3 _ _ _ _ hnull, hid, hname, List.any_cons]
      by_cases hfound : (startsWith c.id ref && decide (c.NamedIn names.contains)) = true
      · rw [if_pos hfound, hfound, Bool.true_or]
      · rw [if_neg hfound, ih, Bool.eq_false_iff.mpr hfound, Bool.false_or]

theorem listingShows_iff {host : ProxyHost} {names : List JsString} {response : DockerResponse}
    (h : Describes host containers response) :
    listingShows host names ref response = .ok true ↔ response.status = 200 ∧
      ∃ c ∈ containers, startsWith c.id ref = true ∧ c.NamedIn names.contains := by
  by_cases hstatus : response.status = 200
  · obtain ⟨items, hbody, hitems⟩ := h hstatus
    simp [listingShows, hstatus, hbody, searchItems_of_lists hitems]
  · simp [listingShows, hstatus]

def listedItem (c : DockerContainer) : Json :=
  .obj [(js "Id", .str c.id), (js "Names", .arr (c.names.map fun n => .str (unit '/' :: n)))]

theorem lists_listedItem (c : DockerContainer) : Lists c (listedItem c) where
  id := rfl
  names := by
    have hkey : js "Id" ≠ js "Names" := by decide
    simp [listedItem, Json.get, lookup, hkey]

theorem normalElements_map {α : Type} {f : α → Json} (h : ∀ x, (f x).Normal) (xs : List α) :
    NormalElements (xs.map f) := by
  induction xs with
  | nil => trivial
  | cons x xs ih => exact ⟨h x, ih⟩

theorem normal_listedItem (c : DockerContainer) : (listedItem c).Normal := by
  have hnames : NormalElements (c.names.map fun n => Json.str (unit '/' :: n)) :=
    normalElements_map (f := fun n => Json.str (unit '/' :: n)) (fun _ => trivial) c.names
  refine ⟨⟨trivial, hnames, trivial⟩, ?_⟩
  exact fromEntries_eq_self (by simp [show js "Id" ≠ js "Names" by decide])
    (by simpa using ⟨by decide, by decide⟩)

/-- The daemon's answer to a request for the whole list. -/
def listingOf (containers : List DockerContainer) : DockerResponse where
  status := 200
  body := textBytes (Json.arr (containers.map listedItem)).stringify

theorem describes_listingOf {host : ProxyHost} (hp : host.platform.Lawful)
    (containers : List DockerContainer) : Describes host containers (listingOf containers) := by
  refine fun _ => ⟨containers.map listedItem, ?_, ?_⟩
  · rw [bodyJson, listingOf, hp.fromUtf8_textBytes]
    exact parse_stringify _ (normalElements_map normal_listedItem containers)
  · exact List.forall₂_map_right_iff.mpr (List.forall₂_same.mpr fun c _ => lists_listedItem c)

/-! ## Routes that name no container -/

section Quiet

variable {P : Exchanges → DockerCall → Prop} {past : Exchanges} {cfg : ProxyConfig}
  {host : ProxyHost} {routes : SemanticRoutes} {req : HttpRequest} {url : RequestUrl}
  (hP : ∀ past call, call.reference = none → P past call)

include hP

theorem quiet_runExec {failed : JsString → HttpReply} {spec : ExecSpec} :
    Obeys P (runExec failed host ref spec) past := by
  refine obeys_dockerOr.mpr ⟨hP _ _ rfl, fun created => ?_⟩
  split_ifs
  · trivial
  · trivial
  · refine obeys_dockerOr.mpr ⟨hP _ _ rfl, fun started => ?_⟩
    split_ifs
    · trivial
    · exact obeys_dockerOr.mpr ⟨hP _ _ rfl, fun _ => trivial⟩

theorem quiet_loadImage : Obeys P (loadImage cfg host req) past := by
  refine obeys_run.mpr fun filePath _ => ?_
  split_ifs
  · trivial
  · refine obeys_dockerRequest.mpr ⟨hP _ _ rfl, fun u => ?_⟩
    split_ifs <;> trivial

theorem quiet_runCandidate : Obeys P (runCandidate cfg host req) past := by
  refine obeys_run.mpr fun spec _ => obeys_dockerRequest.mpr ⟨hP _ _ rfl, fun created => ?_⟩
  split_ifs
  · trivial
  · trivial
  · refine obeys_dockerRequest.mpr ⟨hP _ _ rfl, fun started => ?_⟩
    split_ifs
    · exact ⟨hP _ _ rfl, fun _ => trivial⟩
    · trivial

theorem quiet_execInContainer {rawRef : JsString} :
    Obeys P (execInContainer cfg host rawRef req) past := by
  refine obeys_run.mpr fun _ _ => obeys_resolve (hP _ _ rfl) (fun _ => trivial) ?_
  intro past' ref' _
  exact obeys_run.mpr fun _ _ => obeys_run.mpr fun _ _ => quiet_runExec hP

theorem quiet_postgres : Obeys P (handlePostgresPinnedReadback cfg host routes req) past := by
  refine obeys_run.mpr fun _ _ => ?_
  cases cfg.postgresContainer with
  | none => trivial
  | some container =>
      refine obeys_run.mpr fun payload _ => ?_
      cases routes.postgresExec payload with
      | error message => trivial
      | ok spec => exact quiet_runExec hP

theorem quiet_paperclip {op : JsString} :
    Obeys P (handlePaperclipSemantic cfg host routes op req) past := by
  refine obeys_run.mpr fun _ _ => ?_
  split_ifs
  · trivial
  · exact obeys_run.mpr fun _ _ => obeys_run.mpr fun _ _ => quiet_runExec hP

theorem quiet_plainRead {call : DockerCall} (hcall : call.reference = none) :
    Obeys P (plainRead call url) past := by
  unfold plainRead
  split_ifs
  · trivial
  · exact obeys_lastCall.mpr (hP _ _ hcall)

theorem quiet_listContainers : Obeys P (listContainers cfg host url) past := by
  unfold listContainers
  split_ifs
  · trivial
  · refine obeys_dockerRequest.mpr ⟨hP _ _ rfl, fun u => ?_⟩
    split_ifs
    · trivial
    · cases bodyJson host u.body with
      | none => trivial
      | some listed => cases listed <;> first | trivial | exact obeys_run.mpr fun _ _ => trivial

end Quiet

/-! ## Routes that name one -/

/-- The call goes to a container of its scope. -/
def Delivers (cfg : ProxyConfig) (host : ProxyHost) (containers : List DockerContainer)
    (past : Exchanges) (call : DockerCall) : Prop :=
  Faithful host containers past →
    ∀ ref, call.reference = some ref → DenotesIn (call.checkedScope cfg) containers ref

/-- The call that a request asks for, before its reference is looked up. -/
def requestedCall (cfg : ProxyConfig) (req : HttpRequest) : Option DockerCall :=
  match req.url with
  | none => none
  | some url =>
      match matchRoute ["ops", "candidates"] ["remove"] (requestPath req) with
      | some (rawName, _) => (checkCandidateRemove cfg rawName req).toOption.map .removeCandidate
      | none =>
          match matchRoute ["ops", "containers"] ["start", "stop", "restart"] (requestPath req) with
          | some (rawRef, action) =>
              if req.method = js "POST" ∧ action ∈ cfg.allowedActions then
                (cleanContainerRef rawRef).map (.lifecycle · action)
              else none
          | none =>
              match matchRoute ["containers"] ["json", "logs"] (requestPath req) with
              | some (rawRef, kind) =>
                  if req.method = js "GET" then
                    (cleanContainerRef rawRef).bind fun ref => (readCall url ref kind).toOption
                  else none
              | none => none

section Routes

variable {cfg : ProxyConfig} {host : ProxyHost} {req : HttpRequest} {past : Exchanges}

theorem delivers_of_reference_eq_none {call : DockerCall} (h : call.reference = none) :
    Delivers cfg host containers past call := by
  intro _ ref href
  rw [h] at href
  cases href

theorem delivers_iff {call : DockerCall} (href : call.reference = some ref) :
    Delivers cfg host containers past call ↔
      (Faithful host containers past → DenotesIn (call.checkedScope cfg) containers ref) := by
  refine forall_congr' fun _ => ⟨fun h => h ref href, fun h ref' href' => ?_⟩
  obtain rfl : ref = ref' := Option.some.inj (href.symm.trans href')
  exact h

theorem faithful_nil : Faithful host containers [] := by
  intro response h
  cases h

theorem faithful_listing {response : DockerResponse} :
    Faithful host containers [(.list [(js "all", js "1")], .ok response)] ↔
      Describes host containers response := by
  refine ⟨fun h => h response (by simp), fun h response' hmem => ?_⟩
  obtain rfl : response' = response := by simpa using hmem
  exact h

/-- A route behind `resolveAllowedContainerRef`: what follows is looked at for the
accepted references only. -/
theorem obeys_resolve_iff (hp : host.platform.Lawful) {rawRef : JsString} {names : List JsString}
    {k : Option JsString → Proxy HttpReply} {G : JsString → Prop}
    (hnone : ∀ past, Obeys (Delivers cfg host containers) (k none) past)
    (hsome : ∀ past ref, Obeys (Delivers cfg host containers) (k (some ref)) past ↔
      (Faithful host containers past → G ref)) :
    Obeys (Delivers cfg host containers) (resolveAllowedContainerRef host rawRef names k) [] ↔
      ∀ ref, cleanContainerRef rawRef = some ref → AcceptedIn names.contains containers ref →
        G ref := by
  unfold resolveAllowedContainerRef
  cases cleanContainerRef rawRef with
  | none => simp [hnone]
  | some ref =>
      simp only [Option.some.injEq, forall_eq']
      by_cases hscope : names.contains ref = true
      · rw [if_pos hscope, hsome]
        exact ⟨fun h _ => h faithful_nil, fun h _ => h (.inl hscope)⟩
      · rw [if_neg hscope]
        by_cases hhex : isHexId ref = true
        · rw [if_neg (by simpa using hhex), obeys_dockerRequest,
            and_iff_right (delivers_of_reference_eq_none rfl)]
          constructor
          · rintro h (hnamed | ⟨-, hshown⟩)
            · exact absurd hnamed hscope
            · have hdescribes := describes_listingOf hp containers
              have hfound := (listingShows_iff hdescribes).mpr ⟨rfl, hshown⟩
              have hnext := obeys_run.mp (h (listingOf containers)) true hfound
              exact (hsome _ ref).mp hnext (faithful_listing.mpr hdescribes)
          · intro h response
            refine obeys_run.mpr fun found hfound => ?_
            cases found with
            | false => exact hnone _
            | true =>
                refine (hsome _ ref).mpr fun hfaithful => h (.inr ⟨hhex, ?_⟩)
                exact ((listingShows_iff (faithful_listing.mp hfaithful)).mp hfound).2
        · rw [if_pos (by simpa using hhex)]
          refine iff_of_true (hnone []) ?_
          rintro (hnamed | ⟨hhex', -⟩)
          · exact absurd hnamed hscope
          · exact absurd hhex' hhex

theorem obeys_removeCandidate_iff {rawName : JsString} :
    Obeys (Delivers cfg host containers) (removeCandidate cfg rawName req) [] ↔
      ∀ name, checkCandidateRemove cfg rawName req = .ok name →
        DenotesIn (allowedPrefix cfg.candidateNamePrefixes) containers name := by
  rw [removeCandidate, obeys_run]
  refine forall₂_congr fun name _ => ?_
  rw [obeys_dockerRequest, delivers_iff rfl]
  refine ⟨fun h => h.1 faithful_nil, fun h => ⟨fun _ => h, fun u => ?_⟩⟩
  split_ifs <;> trivial

theorem obeys_lifecycleAction_iff (hp : host.platform.Lawful) {rawRef action : JsString} :
    Obeys (Delivers cfg host containers) (lifecycleAction cfg host rawRef action req) [] ↔
      (req.method = js "POST" ∧ action ∈ cfg.allowedActions →
        ∀ ref, cleanContainerRef rawRef = some ref →
          AcceptedIn cfg.allowed.contains containers ref →
            DenotesIn cfg.allowed.contains containers ref) := by
  rw [lifecycleAction, requirePost]
  by_cases hpost : req.method = js "POST"
  · by_cases haction : action ∈ cfg.allowedActions
    · rw [if_pos hpost, Checked.run, if_neg (by simpa using haction),
        obeys_resolve_iff hp (G := DenotesIn cfg.allowed.contains containers)]
      · simp [hpost, haction]
      · exact fun _ => trivial
      · intro past ref
        rw [orRefuse, if_pos rfl, Checked.run, obeys_dockerRequest, delivers_iff rfl]
        refine and_iff_left fun u => ?_
        split_ifs <;> trivial
    · rw [if_pos hpost, Checked.run, if_pos (by simpa using haction)]
      exact iff_of_true trivial fun h => absurd h.2 haction
  · rw [if_neg hpost]
    exact iff_of_true trivial fun h => absurd h.1 hpost

theorem readCall_eq_ok (cfg : ProxyConfig) {url : RequestUrl} {kind : JsString}
    {call : DockerCall} (h : readCall url ref kind = .ok call) :
    call.reference = some ref ∧ call.checkedScope cfg = cfg.allowed.contains := by
  unfold readCall refuse at h
  split_ifs at h <;> cases h <;> exact ⟨rfl, rfl⟩

theorem obeys_readContainer_iff (hp : host.platform.Lawful) {url : RequestUrl}
    {rawRef kind : JsString} :
    Obeys (Delivers cfg host containers) (readContainer cfg host url rawRef kind) [] ↔
      ∀ ref, cleanContainerRef rawRef = some ref →
        AcceptedIn cfg.allowed.contains containers ref →
          ∀ call, readCall url ref kind = .ok call →
            DenotesIn cfg.allowed.contains containers ref := by
  rw [readContainer, obeys_resolve_iff hp]
  · exact fun _ => trivial
  · intro past ref
    rw [orRefuse, if_pos rfl, Checked.run, obeys_run]
    constructor
    · intro h hfaithful call hcall
      obtain ⟨href, hscope⟩ := readCall_eq_ok cfg hcall
      rw [← hscope]
      exact (delivers_iff href).mp (obeys_lastCall.mp (h call hcall)) hfaithful
    · intro h call hcall
      obtain ⟨href, hscope⟩ := readCall_eq_ok cfg hcall
      refine obeys_lastCall.mpr ((delivers_iff href).mpr fun hfaithful => ?_)
      rw [hscope]
      exact h hfaithful call hcall

end Routes

/-! ## Exactly when references denote what was checked -/

/-- What the request asks for, under a reference that the proxy accepts, is asked
for under an unambiguous one. -/
def RequestsUnambiguously (cfg : ProxyConfig) (containers : List DockerContainer)
    (req : HttpRequest) : Prop :=
  ∀ call ref, requestedCall cfg req = some call → call.reference = some ref →
    AcceptedIn (call.checkedScope cfg) containers ref →
      Unambiguous (call.checkedScope cfg) containers ref

theorem requestsUnambiguously_of_none {cfg : ProxyConfig} {req : HttpRequest}
    (h : requestedCall cfg req = none) : RequestsUnambiguously cfg containers req := by
  intro call ref hcall
  rw [h] at hcall
  cases hcall

theorem requestsUnambiguously_of_some {cfg : ProxyConfig} {req : HttpRequest} {call : DockerCall}
    (hcall : requestedCall cfg req = some call) (href : call.reference = some ref)
    (hscope : call.checkedScope cfg = scope) :
    RequestsUnambiguously cfg containers req ↔
      (AcceptedIn scope containers ref → DenotesIn scope containers ref) := by
  constructor
  · intro h haccepted
    subst hscope
    exact (h call ref hcall href haccepted).denotesIn haccepted
  · intro h call' ref' hcall' href' haccepted
    obtain rfl : call = call' := Option.some.inj (hcall.symm.trans hcall')
    obtain rfl : ref = ref' := Option.some.inj (href.symm.trans href')
    subst hscope
    exact .of_denotesIn (h haccepted)

theorem requestedCall_of_path {cfg : ProxyConfig} {req : HttpRequest}
    (hremove : matchRoute ["ops", "candidates"] ["remove"] (requestPath req) = none)
    (haction : matchRoute ["ops", "containers"] ["start", "stop", "restart"] (requestPath req) =
      none)
    (hread : req.method = js "GET" →
      matchRoute ["containers"] ["json", "logs"] (requestPath req) = none) :
    requestedCall cfg req = none := by
  unfold requestedCall
  cases req.url with
  | none => rfl
  | some url =>
      simp only [hremove, haction]
      by_cases hget : req.method = js "GET"
      · rw [hread hget]
      · split
        · rw [if_neg hget]
        · rfl

/-- The paths that are compared as a whole name no container. -/
theorem fixedPath_spec : ∀ path ∈ [postgresPath, js "/ops/images/load", js "/ops/candidates/run",
      js "/healthz", js "/_ping", js "/version", js "/containers/json"] ++
      paperclipOperations.map paperclipPath,
    matchRoute ["ops", "candidates"] ["remove"] path = none ∧
      matchRoute ["ops", "containers"] ["start", "stop", "restart"] path = none ∧
        matchRoute ["containers"] ["json", "logs"] path = none := by
  decide

theorem requestedCall_of_fixedPath {cfg : ProxyConfig} {req : HttpRequest}
    (h : requestPath req ∈ [postgresPath, js "/ops/images/load", js "/ops/candidates/run",
      js "/healthz", js "/_ping", js "/version", js "/containers/json"] ++
      paperclipOperations.map paperclipPath) : requestedCall cfg req = none := by
  obtain ⟨hremove, haction, hread⟩ := fixedPath_spec _ h
  exact requestedCall_of_path hremove haction fun _ => hread

theorem matchRoute_eq_some {head tails : List String} {path x tail : JsString}
    (h : matchRoute head tails path = some (x, tail)) :
    pathSegments path = ([] :: head.map js) ++ [x, tail] ∧ tail ∈ tails.map js := by
  unfold matchRoute at h
  dsimp only at h
  split at h
  · rename_i x' tail' hdrop
    split_ifs at h with hroute
    obtain ⟨rfl, rfl⟩ := Prod.mk.inj (Option.some.inj h)
    refine ⟨?_, hroute.2.2⟩
    rw [← hroute.1, ← hdrop, List.take_append_drop]
  · cases h

/-- A path of the exec route is none of the others. -/
theorem requestedCall_of_execPath {cfg : ProxyConfig} {req : HttpRequest}
    {hit : JsString × JsString}
    (hremove : matchRoute ["ops", "candidates"] ["remove"] (requestPath req) = none)
    (h : matchRoute ["ops", "containers"] ["exec"] (requestPath req) = some hit) :
    requestedCall cfg req = none := by
  obtain ⟨x, tail⟩ := hit
  obtain ⟨hsegments, htail⟩ := matchRoute_eq_some h
  obtain rfl : tail = js "exec" := by simpa using htail
  have hverbs : js "exec" ∉ ["start", "stop", "restart"].map js := by decide
  refine requestedCall_of_path hremove ?_ fun _ => ?_
  · simp only [matchRoute, hsegments]
    exact if_neg fun hroute => hverbs hroute.2.2
  · simp [matchRoute, hsegments]

section Handle

variable {cfg : ProxyConfig} {host : ProxyHost} {routes : SemanticRoutes} {req : HttpRequest}

theorem obeys_remove_iff_unambiguous {hit : JsString × JsString} {url : RequestUrl}
    (hurl : req.url = some url)
    (hremove : matchRoute ["ops", "candidates"] ["remove"] (requestPath req) = some hit) :
    Obeys (Delivers cfg host containers) (removeCandidate cfg hit.1 req) [] ↔
      RequestsUnambiguously cfg containers req := by
  have hcall : requestedCall cfg req =
      (checkCandidateRemove cfg hit.1 req).toOption.map .removeCandidate := by
    rw [requestedCall, hurl]
    simp only [hremove]
  rw [obeys_removeCandidate_iff]
  cases hcheck : checkCandidateRemove cfg hit.1 req with
  | error reply =>
      rw [hcheck] at hcall
      exact iff_of_true (by simp) (requestsUnambiguously_of_none hcall)
  | ok name =>
      rw [hcheck] at hcall
      have haccepted : AcceptedIn (allowedPrefix cfg.candidateNamePrefixes) containers name :=
        .inl (checkCandidateRemove_eq_ok hcheck).2
      rw [requestsUnambiguously_of_some hcall rfl rfl]
      simp [haccepted, DockerCall.checkedScope]

theorem obeys_lifecycle_iff_unambiguous (hp : host.platform.Lawful) {hit : JsString × JsString}
    {url : RequestUrl} (hurl : req.url = some url)
    (hremove : matchRoute ["ops", "candidates"] ["remove"] (requestPath req) = none)
    (haction : matchRoute ["ops", "containers"] ["start", "stop", "restart"] (requestPath req) =
      some hit) :
    Obeys (Delivers cfg host containers) (lifecycleAction cfg host hit.1 hit.2 req) [] ↔
      RequestsUnambiguously cfg containers req := by
  have hcall : requestedCall cfg req =
      if req.method = js "POST" ∧ hit.2 ∈ cfg.allowedActions then
        (cleanContainerRef hit.1).map (.lifecycle · hit.2)
      else none := by
    rw [requestedCall, hurl]
    simp only [hremove, haction]
  rw [obeys_lifecycleAction_iff hp]
  by_cases hgate : req.method = js "POST" ∧ hit.2 ∈ cfg.allowedActions
  · rw [if_pos hgate] at hcall
    cases hclean : cleanContainerRef hit.1 with
    | none =>
        rw [hclean] at hcall
        exact iff_of_true (by simp) (requestsUnambiguously_of_none hcall)
    | some ref =>
        rw [hclean] at hcall
        rw [requestsUnambiguously_of_some hcall rfl rfl]
        simp [hgate, DockerCall.checkedScope]
  · rw [if_neg hgate] at hcall
    exact iff_of_true (fun h => absurd h hgate) (requestsUnambiguously_of_none hcall)

theorem obeys_read_iff_unambiguous (hp : host.platform.Lawful) {hit : JsString × JsString}
    {url : RequestUrl} (hurl : req.url = some url) (hget : req.method = js "GET")
    (hremove : matchRoute ["ops", "candidates"] ["remove"] (requestPath req) = none)
    (haction : matchRoute ["ops", "containers"] ["start", "stop", "restart"] (requestPath req) =
      none)
    (hread : matchRoute ["containers"] ["json", "logs"] (requestPath req) = some hit) :
    Obeys (Delivers cfg host containers) (readContainer cfg host url hit.1 hit.2) [] ↔
      RequestsUnambiguously cfg containers req := by
  have hcall : requestedCall cfg req =
      (cleanContainerRef hit.1).bind fun ref => (readCall url ref hit.2).toOption := by
    rw [requestedCall, hurl]
    simp only [hremove, haction, hread, if_pos hget]
  rw [obeys_readContainer_iff hp]
  cases hclean : cleanContainerRef hit.1 with
  | none =>
      rw [hclean] at hcall
      exact iff_of_true (by simp) (requestsUnambiguously_of_none hcall)
  | some ref =>
      rw [hclean, Option.bind_some] at hcall
      cases hkind : readCall url ref hit.2 with
      | error reply =>
          rw [hkind] at hcall
          refine iff_of_true ?_ (requestsUnambiguously_of_none hcall)
          intro ref' href' _ call' hcall'
          obtain rfl : ref = ref' := Option.some.inj href'
          rw [hkind] at hcall'
          cases hcall'
      | ok call =>
          rw [hkind] at hcall
          obtain ⟨href, hscope⟩ := readCall_eq_ok cfg hkind
          rw [requestsUnambiguously_of_some hcall href hscope]
          simp [hkind]

theorem obeys_read_iff (hp : host.platform.Lawful) {url : RequestUrl} (hurl : req.url = some url)
    (hget : req.method = js "GET")
    (hremove : matchRoute ["ops", "candidates"] ["remove"] (requestPath req) = none)
    (haction : matchRoute ["ops", "containers"] ["start", "stop", "restart"] (requestPath req) =
      none) :
    Obeys (Delivers cfg host containers) (handleRead cfg host url (requestPath req)) [] ↔
      RequestsUnambiguously cfg containers req := by
  have hquiet : ∀ past call, call.reference = none → Delivers cfg host containers past call :=
    fun _ _ => delivers_of_reference_eq_none
  have hfixed : ∀ {program : Proxy HttpReply}, Obeys (Delivers cfg host containers) program [] →
      requestPath req ∈ [js "/healthz", js "/_ping", js "/version", js "/containers/json"] →
        (Obeys (Delivers cfg host containers) program [] ↔
          RequestsUnambiguously cfg containers req) := fun hobeys hpath =>
    iff_of_true hobeys (requestsUnambiguously_of_none (requestedCall_of_fixedPath
      (List.mem_append_left _ (by
        rw [← List.take_append_drop 3 [postgresPath, _, _, _, _, _, _]]
        exact List.mem_append_right _ hpath))))
  unfold handleRead
  split_ifs with hhealth hping hversion hlist
  · exact hfixed trivial (by simp [hhealth])
  · exact hfixed (quiet_plainRead hquiet rfl) (by simp [hping])
  · exact hfixed (quiet_plainRead hquiet rfl) (by simp [hversion])
  · exact hfixed (quiet_listContainers hquiet) (by simp [hlist])
  · cases hread : matchRoute ["containers"] ["json", "logs"] (requestPath req) with
    | some hit => exact obeys_read_iff_unambiguous hp hurl hget hremove haction hread
    | none =>
        exact iff_of_true trivial (requestsUnambiguously_of_none
          (requestedCall_of_path hremove haction fun _ => hread))

/-- What is left when the path is none of the two semantic routes. -/
theorem obeys_operator_iff (hp : host.platform.Lawful) {url : RequestUrl}
    (hurl : req.url = some url) :
    Obeys (Delivers cfg host containers)
      (match handleOperator cfg host req (requestPath req) with
      | some program => program
      | none =>
          if req.method ≠ js "GET" then .done (.error 405 (js "method_not_allowed"))
          else handleRead cfg host url (requestPath req)) [] ↔
      RequestsUnambiguously cfg containers req := by
  have hquiet : ∀ past call, call.reference = none → Delivers cfg host containers past call :=
    fun _ _ => delivers_of_reference_eq_none
  unfold handleOperator
  by_cases hload : requestPath req = js "/ops/images/load"
  · rw [if_pos hload]
    exact iff_of_true (quiet_loadImage hquiet) (requestsUnambiguously_of_none
      (requestedCall_of_fixedPath (by simp [hload])))
  rw [if_neg hload]
  by_cases hrun : requestPath req = js "/ops/candidates/run"
  · rw [if_pos hrun]
    exact iff_of_true (quiet_runCandidate hquiet) (requestsUnambiguously_of_none
      (requestedCall_of_fixedPath (by simp [hrun])))
  rw [if_neg hrun]
  cases hremove : matchRoute ["ops", "candidates"] ["remove"] (requestPath req) with
  | some hit => exact obeys_remove_iff_unambiguous hurl hremove
  | none =>
      cases hexec : matchRoute ["ops", "containers"] ["exec"] (requestPath req) with
      | some hit =>
          exact iff_of_true (quiet_execInContainer hquiet)
            (requestsUnambiguously_of_none (requestedCall_of_execPath hremove hexec))
      | none =>
          cases haction : matchRoute ["ops", "containers"] ["start", "stop", "restart"]
              (requestPath req) with
          | some hit => exact obeys_lifecycle_iff_unambiguous hp hurl hremove haction
          | none =>
              by_cases hget : req.method = js "GET"
              · simpa [hget] using obeys_read_iff hp hurl hget hremove haction
              · exact iff_of_true (by simp [hget]) (requestsUnambiguously_of_none
                  (requestedCall_of_path hremove haction fun h => absurd h hget))

theorem obeys_handle_iff (hp : host.platform.Lawful) :
    Obeys (Delivers cfg host containers) (handle cfg host routes req) [] ↔
      RequestsUnambiguously cfg containers req := by
  have hquiet : ∀ past call, call.reference = none → Delivers cfg host containers past call :=
    fun _ _ => delivers_of_reference_eq_none
  cases hurl : req.url with
  | none =>
      rw [handle, hurl]
      exact iff_of_true trivial (requestsUnambiguously_of_none (by rw [requestedCall, hurl]))
  | some url =>
      simp only [handle, hurl]
      by_cases hpostgres : requestPath req = postgresPath
      · rw [if_pos hpostgres]
        exact iff_of_true (quiet_postgres hquiet) (requestsUnambiguously_of_none
          (requestedCall_of_fixedPath (by simp [hpostgres])))
      rw [if_neg hpostgres]
      cases hfind : paperclipOperations.find? fun op => requestPath req = paperclipPath op with
      | some op =>
          have hpath : requestPath req = paperclipPath op := by
            simpa using List.find?_some hfind
          have hsemantic : requestPath req ∈ paperclipOperations.map paperclipPath :=
            List.mem_map.mpr ⟨op, List.mem_of_find?_eq_some hfind, hpath.symm⟩
          exact iff_of_true (quiet_paperclip hquiet) (requestsUnambiguously_of_none
            (requestedCall_of_fixedPath (List.mem_append_right _ hsemantic)))
      | none => exact obeys_operator_iff hp hurl

end Handle

/-- Every call made under a reference reaches a container of the scope exactly when
the request does not name an ambiguous reference that the proxy accepts. -/
theorem referencesDenote_iff (cfg : ProxyConfig) (host : ProxyHost) (routes : SemanticRoutes)
    (containers : List DockerContainer) (req : HttpRequest) (hp : host.platform.Lawful) :
    ReferencesDenote cfg host routes containers req ↔
      RequestsUnambiguously cfg containers req := by
  have hobeys : Obeys (Delivers cfg host containers) (handle cfg host routes req) [] ↔ _ :=
    obeys_handle_iff hp
  rw [← hobeys, Obeys, Program.wp_iff_asks]
  rfl

/-- One container, with another name, whose id starts with the allowed name. -/
def shadowContainer : DockerContainer where
  id := js "cafe0123456789ab0123456789ab0123456789ab0123456789ab0123456789ab"
  names := [js "vault"]

theorem referencesDenote_shadow :
    ReferencesDenote (sampleProxy [] (by simp)) sampleHost sampleRoutes [shadowContainer]
        (sampleRequest "GET" "/containers/cafe/json") ↔
      RequestsUnambiguously (sampleProxy [] (by simp)) [shadowContainer]
        (sampleRequest "GET" "/containers/cafe/json") :=
  referencesDenote_iff _ _ _ _ _ samplePlatform_lawful

/-- The container is inspected although its name is not allowed. -/
theorem shadow_not_denoted :
    ¬ ReferencesDenote (sampleProxy [] (by simp)) sampleHost sampleRoutes [shadowContainer]
        (sampleRequest "GET" "/containers/cafe/json") := by
  intro h
  have hasks : (handle (sampleProxy [] (by simp)) sampleHost sampleRoutes
      (sampleRequest "GET" "/containers/cafe/json")).Asks [] (.inspect (js "cafe")) := by
    decide +kernel
  have hresolves : Resolves [shadowContainer] (js "cafe") shadowContainer :=
    .idPrefix (by simp) (by decide) (by decide) (by decide) (by decide)
  have hnamed := h [] _ hasks faithful_nil _ rfl shadowContainer hresolves
  exact absurd hnamed (by decide)

end RemoteOps

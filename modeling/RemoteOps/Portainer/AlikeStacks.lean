import RemoteOps.Portainer.Client

/-!
# Stacks that differ in their secrets

Two payloads are alike when they differ only in the values of environment variables and in Git
credentials. Of alike stacks the tools show the same, except for the address of the repository:
`safeStacks` gives one list exactly if the addresses are equal (`safeStacks_eq_iff_urls`).
-/

namespace RemoteOps

open Ecma Transition

/-! ## Servers that differ in their secrets -/

/-- Equal, or objects whose properties are related. -/
def AlikeBut (R : JsString → Option Json → Option Json → Prop) (x y : Json) : Prop :=
  x = y ∨ ∃ ps qs, x = .obj ps ∧ y = .obj qs ∧ ∀ k, R k (lookup k ps) (lookup k qs)

/-- Both values are empty, or none is. -/
def ValueAlike (v v' : Option Json) : Prop :=
  (strOrEmpty v).map List.isEmpty = (strOrEmpty v').map List.isEmpty

def RowAlike : Json → Json → Prop :=
  AlikeBut fun k v v' => v = v' ∨ k = js "value" ∧ ValueAlike v v'

def EnvAlike (v v' : Option Json) : Prop :=
  v = v' ∨ ∃ rows rows', v = some (.arr rows) ∧ v' = some (.arr rows') ∧
    List.Forall₂ RowAlike rows rows'

/-- The address without user and password. -/
def withoutUserinfo (url : JsString) : JsString :=
  match splitUnit (unit '/') url with
  | scheme :: [] :: authority :: path =>
      join (js "/") (scheme :: [] :: (splitUnit (unit '@') authority).getLastD [] :: path)
  | _ => url

def UrlAlike (v v' : Option Json) : Prop :=
  ∃ url url', v = some (.str url) ∧ v' = some (.str url') ∧
    withoutUserinfo url = withoutUserinfo url'

def GitAlike (v v' : Option Json) : Prop :=
  v = v' ∨ ∃ x x', v = some x ∧ v' = some x' ∧
    AlikeBut (fun k w w' => w = w' ∨ k = js "Authentication" ∨ k = js "URL" ∧ UrlAlike w w') x x'

def StackAlike : Json → Json → Prop :=
  AlikeBut fun k v v' =>
    v = v' ∨ k = js "Env" ∧ EnvAlike v v' ∨ k = js "GitConfig" ∧ GitAlike v v'

/-- A stack, or a list of stacks. -/
def PayloadAlike (x y : Json) : Prop :=
  StackAlike x y ∨ ∃ xs ys, x = .arr xs ∧ y = .arr ys ∧ List.Forall₂ StackAlike xs ys

/-- Errors are equal. -/
def AnswerAlike (answer answer' : PortainerAnswer) : Prop :=
  answer = answer' ∨ ∃ status text text', isOkStatus status = true ∧
    answer = .response status text ∧ answer' = .response status text' ∧
    PayloadAlike (responsePayload text) (responsePayload text')

/-! ## What is shown -/

/-- The exchange, if any, whose stacks a tool shows. -/
def PortainerTool.shownAt : PortainerTool → Option ℕ
  | stacksList | stackGet _ | stackCreateGit _ => some 0
  | stackStart .. | stackStop .. => some 1
  | stackDelete .. | stackUpdateEnv _ | stackGitRedeploy _ => none

def PortainerTool.shownStacks : PortainerTool → Json → List Json
  | stacksList, payload => stacksOf payload
  | _, payload => [payload]

/-- The values of its variables can be written as texts; otherwise nothing is shown. -/
def Readable (stack : Json) : Prop :=
  notNull stack = .ok () ∧ ∃ env, envArray (stack.get (js "Env")) = .ok env

def repositoryUrl (stack : Json) : Option Json :=
  (safeGit (stack.get (js "GitConfig"))).map SafeGit.url

/-- The stacks that could be shown have equal addresses. -/
def UrlsAgree (shown : Json → List Json) (answer answer' : PortainerAnswer) : Prop :=
  ∀ x y, readAnswer answer = .ok x → readAnswer answer' = .ok y → (∀ s ∈ shown x, Readable s) →
    (shown x).map repositoryUrl = (shown y).map repositoryUrl

/-- The addresses in the answers that the tool shows are equal. -/
def PortainerTool.UrlsAgree (tool : PortainerTool) (h h' : PortainerExchanges) : Prop :=
  ∀ n x x', tool.shownAt = some n → h[n]? = some x → h'[n]? = some x' →
    RemoteOps.UrlsAgree tool.shownStacks x.2 x'.2

/-! ## One stack -/

section Stacks

theorem AlikeBut.get {R : JsString → Option Json → Option Json → Prop} {x y : Json}
    (h : AlikeBut R x y) (hrefl : ∀ k v, R k v v) (k : JsString) : R k (x.get k) (y.get k) := by
  obtain rfl | ⟨ps, qs, rfl, rfl, h⟩ := h
  · exact hrefl k _
  · exact h k

theorem AlikeBut.notNull_eq {R : JsString → Option Json → Option Json → Prop} {x y : Json}
    (h : AlikeBut R x y) : notNull x = notNull y := by
  obtain rfl | ⟨ps, qs, rfl, rfl, -⟩ := h
  · rfl
  · rfl

/-- A related property of another name is equal. -/
theorem RowAlike.name_eq {row row' : Json} (h : RowAlike row row') :
    row.get (js "name") = row'.get (js "name") :=
  (h.get (fun _ _ => .inl rfl) (js "name")).resolve_right fun h => absurd h.1 (by decide)

theorem RowAlike.value_alike {row row' : Json} (h : RowAlike row row') :
    ValueAlike (row.get (js "value")) (row'.get (js "value")) := by
  obtain heq | ⟨-, h⟩ := h.get (fun _ _ => .inl rfl) (js "value")
  · rw [heq]
    rfl
  · exact h

/-- What a tool shows of variables is what it shows of related ones. -/
theorem envRows_alike {rows rows' : List Json} (h : List.Forall₂ RowAlike rows rows') :
    (envRows rows).map (List.map safeVar) = (envRows rows').map (List.map safeVar) := by
  induction h with
  | nil => rfl
  | @cons row row' rows rows' hrow hrows ih =>
      rw [envRows, envRows, ← hrow.name_eq]
      have hvalue := hrow.value_alike
      rw [ValueAlike] at hvalue
      split
      · rw [coerceText, coerceText]
        cases hv : strOrEmpty (row.get (js "value")) with
        | none =>
            rw [hv] at hvalue
            rw [Option.map_eq_none_iff.mp hvalue.symm]
            rfl
        | some v =>
            rw [hv] at hvalue
            obtain ⟨v', hv', hempty⟩ := Option.map_eq_some_iff.mp hvalue.symm
            have hconfigured : decide (v.length > 0) = decide (v'.length > 0) := by
              cases v <;> cases v' <;> simp_all
            rw [hv']
            obtain ⟨e, he, he'⟩ | ⟨env, env', henv, henv', hsame⟩ := except_map_eq_iff.mp ih
            · rw [he, he']
              rfl
            · rw [henv, henv']
              simp only [Except.map, ok_bind, pure, Except.pure, List.map_cons, hsame, safeVar,
                hconfigured]
      · exact ih

theorem envArray_alike {v v' : Option Json} (h : EnvAlike v v') :
    (envArray v).map (List.map safeVar) = (envArray v').map (List.map safeVar) := by
  obtain rfl | ⟨rows, rows', rfl, rfl, h⟩ := h
  · rfl
  · exact envRows_alike h

/-- What the tools read of a stack is alike. -/
structure ReadAlike (x y : Json) : Prop where
  notNull : notNull x = notNull y
  get : ∀ k, k ≠ js "Env" → k ≠ js "GitConfig" → x.get k = y.get k
  env : EnvAlike (x.get (js "Env")) (y.get (js "Env"))
  git : GitAlike (x.get (js "GitConfig")) (y.get (js "GitConfig"))

theorem StackAlike.read {x y : Json} (h : StackAlike x y) : ReadAlike x y := by
  have hget := h.get (fun _ _ => .inl rfl)
  constructor
  · exact h.notNull_eq
  · intro k henv hgit
    obtain heq | ⟨hk, -⟩ | ⟨hk, -⟩ := hget k
    · exact heq
    · exact absurd hk henv
    · exact absurd hk hgit
  · obtain heq | ⟨-, henv⟩ | ⟨hk, -⟩ := hget (js "Env")
    · exact .inl heq
    · exact henv
    · exact absurd hk (by decide)
  · obtain heq | ⟨hk, -⟩ | ⟨-, hgit⟩ := hget (js "GitConfig")
    · exact .inl heq
    · exact absurd hk (by decide)
    · exact hgit

/-- An array has none of the properties that are read. -/
theorem PayloadAlike.read {x y : Json} (h : PayloadAlike x y) : ReadAlike x y := by
  obtain h | ⟨xs, ys, rfl, rfl, -⟩ := h
  · exact h.read
  · exact ⟨rfl, fun _ _ _ => rfl, .inl rfl, .inl rfl⟩

theorem PayloadAlike.stacksOf {x y : Json} (h : PayloadAlike x y) :
    List.Forall₂ ReadAlike (stacksOf x) (stacksOf y) := by
  obtain (rfl | ⟨ps, qs, rfl, rfl, -⟩) | ⟨xs, ys, rfl, rfl, h⟩ := h
  · exact List.forall₂_same.mpr fun s _ => StackAlike.read (.inl rfl)
  · exact .nil
  · rw [RemoteOps.stacksOf, RemoteOps.stacksOf, List.forall₂_map_left_iff,
      List.forall₂_map_right_iff]
    apply h.imp
    intro s t hst
    obtain rfl | ⟨ps, qs, rfl, rfl, -⟩ := id hst
    · exact StackAlike.read (.inl rfl)
    · exact hst.read

/-- The Git configuration without the address. -/
def SafeGit.withoutUrl (git : SafeGit) : SafeGit := { git with url := .null }

theorem safeGit_alike {v v' : Option Json} (h : GitAlike v v') :
    (safeGit v).map SafeGit.withoutUrl = (safeGit v').map SafeGit.withoutUrl := by
  obtain rfl | ⟨git, git', rfl, rfl, h⟩ := h
  · rfl
  · have hget : ∀ k, k ≠ js "Authentication" → k ≠ js "URL" → git.get k = git'.get k := by
      intro k hauth hurl
      obtain heq | hk | ⟨hk, -⟩ := h.get (fun _ _ => .inl rfl) k
      · exact heq
      · exact absurd hk hauth
      · exact absurd hk hurl
    obtain rfl | ⟨ps, qs, rfl, rfl, -⟩ := h
    · rfl
    · have href := hget (js "ReferenceName") (by decide) (by decide)
      have hfile := hget (js "ConfigFilePath") (by decide) (by decide)
      have hhash := hget (js "ConfigHash") (by decide) (by decide)
      simp only [safeGit, Option.map_some, SafeGit.withoutUrl, gitFields, field, href, hfile,
        hhash]

theorem truthy_alike {v v' : Option Json} (h : GitAlike v v') : v.any truthy = v'.any truthy := by
  obtain rfl | ⟨git, git', rfl, rfl, rfl | ⟨ps, qs, rfl, rfl, -⟩⟩ := h
  · rfl
  · rfl
  · rfl

/-! ### Its public part -/

variable {x y : Json}

def SafeStack.withoutUrl (stack : SafeStack) : SafeStack :=
  { stack with gitConfig := stack.gitConfig.map SafeGit.withoutUrl }

def SafeStack.url (stack : SafeStack) : Option Json := stack.gitConfig.map SafeGit.url

/-- A stack is its address and the rest. -/
theorem SafeStack.eq_of_withoutUrl {s t : SafeStack} (h : s.withoutUrl = t.withoutUrl)
    (hurl : s.url = t.url) : s = t := by
  have hgit : s.gitConfig = t.gitConfig := by
    have hrest := congrArg SafeStack.gitConfig h
    dsimp only [SafeStack.withoutUrl] at hrest
    rw [SafeStack.url, SafeStack.url] at hurl
    cases hs : s.gitConfig with
    | none => simp_all
    | some git =>
        cases ht : t.gitConfig with
        | none => simp_all
        | some git' =>
            rw [hs, ht] at hrest hurl
            obtain ⟨url, reference, file, hash⟩ := git
            obtain ⟨url', reference', file', hash'⟩ := git'
            simp_all [SafeGit.withoutUrl]
  cases s
  cases t
  simp_all [SafeStack.withoutUrl]

theorem safeStack_alike (h : ReadAlike x y) :
    (safeStack x).map SafeStack.withoutUrl = (safeStack y).map SafeStack.withoutUrl := by
  rw [safeStack, safeStack, h.notNull]
  cases hnull : notNull y with
  | error e => rfl
  | ok u =>
      have hget : ∀ name : String, js name ≠ js "Env" → js name ≠ js "GitConfig" →
          field x name = field y name := by
        intro name henv hgit
        rw [field, field, h.get _ henv hgit]
      have hgit := safeGit_alike h.git
      obtain ⟨e, he, he'⟩ | ⟨env, env', henv, henv', hsame⟩ :=
        except_map_eq_iff.mp (envArray_alike h.env)
      · rw [he, he']
        rfl
      · rw [henv, henv']
        simp only [ok_bind, pure, Except.pure, Except.map, SafeStack.withoutUrl, hgit, hsame]
        rw [hget "Id" (by decide) (by decide), hget "Name" (by decide) (by decide),
          hget "Type" (by decide) (by decide), hget "Status" (by decide) (by decide),
          hget "EndpointId" (by decide) (by decide), hget "EntryPoint" (by decide) (by decide),
          hget "CreatedBy" (by decide) (by decide), hget "UpdatedBy" (by decide) (by decide)]

theorem map_url_of_readable (h : Readable x) :
    (safeStack x).map SafeStack.url = .ok (repositoryUrl x) := by
  obtain ⟨hnull, env, henv⟩ := h
  rw [safeStack, hnull, henv]
  rfl

theorem safeStack_of_not_readable (h : ¬Readable x) : ∃ e, safeStack x = .error e := by
  rw [safeStack]
  cases hnull : notNull x with
  | error e => exact ⟨e, rfl⟩
  | ok u =>
      cases henv : envArray (x.get (js "Env")) with
      | error e => exact ⟨e, rfl⟩
      | ok env => exact absurd ⟨hnull, env, henv⟩ h

theorem readable_of_alike (h : ReadAlike x y) (hx : Readable x) : Readable y := by
  obtain ⟨hnull, env, henv⟩ := hx
  obtain ⟨e, he, -⟩ | ⟨-, env', -, henv', -⟩ := except_map_eq_iff.mp (envArray_alike h.env)
  · rw [henv] at he
    cases he
  · exact ⟨h.notNull.symm.trans hnull, env', henv'⟩

/-! ### A list -/

variable {xs ys : List Json}

theorem safeStacks_alike (h : List.Forall₂ ReadAlike xs ys) :
    (safeStacks xs).map (List.map SafeStack.withoutUrl) =
      (safeStacks ys).map (List.map SafeStack.withoutUrl) := by
  induction h with
  | nil => rfl
  | @cons x y xs ys hstack hstacks ih =>
      rw [safeStacks, safeStacks]
      obtain ⟨e, hx, hy⟩ | ⟨s, t, hx, hy, hst⟩ := except_map_eq_iff.mp (safeStack_alike hstack)
      · rw [hx, hy]
        rfl
      · rw [hx, hy]
        obtain ⟨e, hxs, hys⟩ | ⟨ss, ts, hxs, hys, hsts⟩ := except_map_eq_iff.mp ih
        · rw [hxs, hys]
          rfl
        · rw [hxs, hys]
          simp only [ok_bind, pure, Except.pure, Except.map, List.map_cons, hst, hsts]

/-- Two lists are shown alike exactly if their addresses are. -/
theorem safeStacks_eq_iff (h : List.Forall₂ ReadAlike xs ys) :
    safeStacks xs = safeStacks ys ↔
      (safeStacks xs).map (List.map SafeStack.url) =
        (safeStacks ys).map (List.map SafeStack.url) := by
  apply except_eq_iff_of_map _ (safeStacks_alike h)
  intro ss ts hrest hurls
  apply List.ext_getElem
  · simpa using congrArg List.length hrest
  · intro n hn hn'
    apply SafeStack.eq_of_withoutUrl
    · simpa [hn, hn'] using congrArg (·[n]?) hrest
    · simpa [hn, hn'] using congrArg (·[n]?) hurls

theorem map_urls_of_readable (h : ∀ x ∈ xs, Readable x) :
    (safeStacks xs).map (List.map SafeStack.url) = .ok (xs.map repositoryUrl) := by
  induction xs with
  | nil => rfl
  | cons x xs ih =>
      obtain ⟨hx, hxs⟩ := List.forall_mem_cons.mp h
      have hfirst := map_url_of_readable hx
      have hrest := ih hxs
      rw [safeStacks]
      cases hs : safeStack x with
      | error e => simp [hs, Except.map] at hfirst
      | ok s =>
          cases hss : safeStacks xs with
          | error e => simp [hss, Except.map] at hrest
          | ok ss =>
              rw [hs] at hfirst
              rw [hss] at hrest
              have hurl := Except.ok.inj hfirst
              have hurls := Except.ok.inj hrest
              simp only [ok_bind, pure, Except.pure, Except.map, List.map_cons, hurl, hurls]

theorem safeStacks_of_not_readable (h : ¬∀ x ∈ xs, Readable x) :
    ∃ e, safeStacks xs = .error e := by
  induction xs with
  | nil => exact absurd (by simp) h
  | cons x xs ih =>
      rw [safeStacks]
      cases hs : safeStack x with
      | error e => exact ⟨e, rfl⟩
      | ok s =>
          by_cases hx : Readable x
          · have hxs : ¬∀ x ∈ xs, Readable x := fun hxs => h (List.forall_mem_cons.mpr ⟨hx, hxs⟩)
            obtain ⟨e, he⟩ := ih hxs
            rw [he]
            exact ⟨e, rfl⟩
          · obtain ⟨e, he⟩ := safeStack_of_not_readable hx
            rw [he] at hs
            cases hs

theorem readable_of_forall₂ (h : List.Forall₂ ReadAlike xs ys) (hxs : ∀ x ∈ xs, Readable x) :
    ∀ y ∈ ys, Readable y := by
  induction h with
  | nil => exact hxs
  | cons hstack hstacks ih =>
      obtain ⟨hx, hxs⟩ := List.forall_mem_cons.mp hxs
      exact List.forall_mem_cons.mpr ⟨readable_of_alike hstack hx, ih hxs⟩

theorem safeStacks_eq_iff_urls (h : List.Forall₂ ReadAlike xs ys) :
    safeStacks xs = safeStacks ys ↔
      ((∀ x ∈ xs, Readable x) → xs.map repositoryUrl = ys.map repositoryUrl) := by
  rw [safeStacks_eq_iff h]
  by_cases hxs : ∀ x ∈ xs, Readable x
  · rw [map_urls_of_readable hxs, map_urls_of_readable (readable_of_forall₂ h hxs),
      Except.ok.injEq]
    exact (imp_iff_right hxs).symm
  · obtain ⟨e, he⟩ := safeStacks_of_not_readable hxs
    obtain ⟨e', he', hy⟩ | ⟨ss, ts, hss, -⟩ := except_map_eq_iff.mp (safeStacks_alike h)
    · rw [he', hy]
      exact iff_of_true rfl fun h => absurd h hxs
    · rw [he] at hss
      cases hss

/-- A single stack is shown as in a list of its own. -/
theorem safeStack_eq_iff_singleton :
    safeStack x = safeStack y ↔ safeStacks [x] = safeStacks [y] := by
  simp only [safeStacks]
  cases safeStack x <;> cases safeStack y <;>
    simp [bind, Except.bind, pure, Except.pure]

theorem safeStack_eq_iff_urls (h : ReadAlike x y) :
    safeStack x = safeStack y ↔
      ((∀ s ∈ [x], Readable s) → [x].map repositoryUrl = [y].map repositoryUrl) :=
  safeStack_eq_iff_singleton.trans (safeStacks_eq_iff_urls (.cons h .nil))

end Stacks

end RemoteOps

import RemoteOps.Ecma.Utf8
import RemoteOps.Portainer.AlikeStacks
import RemoteOps.Portainer.EnvUpdate

/-!
# What the Portainer tools reveal

Two servers whose answers differ only in the values of environment variables and in Git
credentials. A tool shows of a variable its name and whether it has a value, and of the Git
configuration four fields, which it copies. One of them is the address of the repository, with
the user and the password in it: the two results are equal exactly if these addresses are
(`portainerResult_eq_iff`).
-/

namespace RemoteOps

open Ecma Transition

/-! ## Two runs -/

section Runs

variable {cfg : PortainerConfig} {tool : PortainerTool}
  {past : List (PortainerAnswer × PortainerAnswer)} {answers : PortainerAnswer × PortainerAnswer}

/-- The results are equal exactly if the addresses are, in the answers that are shown. -/
def PortainerTool.SameUnless (tool : PortainerTool)
    (pairs : List (PortainerAnswer × PortainerAnswer))
    (r r' : Except PortainerThrow PortainerResult) : Prop :=
  r = r' ↔ ∀ n x, tool.shownAt = some n → pairs[n]? = some x →
    RemoteOps.UrlsAgree tool.shownStacks x.1 x.2

/-- No answer so far is one that the tool shows. -/
def PortainerTool.NothingShown (tool : PortainerTool)
    (pairs : List (PortainerAnswer × PortainerAnswer)) : Prop :=
  ∀ n, tool.shownAt = some n → pairs.length ≤ n

theorem sameUnless_of_nothingShown (h : tool.NothingShown past)
    (r : Except PortainerThrow PortainerResult) : tool.SameUnless past r r := by
  apply iff_of_true rfl
  intro n x hn hx
  rw [List.getElem?_eq_none (h n hn)] at hx
  cases hx

/-- An error shows no stack. -/
theorem sameUnless_of_error {e : PortainerThrow} (h : tool.NothingShown past)
    (he : readAnswer answers.1 = .error e) (r : Except PortainerThrow PortainerResult) :
    tool.SameUnless (past ++ [answers]) r r := by
  apply iff_of_true rfl
  intro n x hn hx
  rw [List.getElem?_append_right (h n hn)] at hx
  obtain rfl := List.mem_singleton.mp (List.mem_of_getElem? hx)
  intro y z hy
  rw [he] at hy
  cases hy

theorem sameUnless_shown {x y : Json} {r r' : Except PortainerThrow PortainerResult}
    (hshown : tool.shownAt = some past.length) (hx : readAnswer answers.1 = .ok x)
    (hy : readAnswer answers.2 = .ok y)
    (h : r = r' ↔ ((∀ s ∈ tool.shownStacks x, Readable s) →
      (tool.shownStacks x).map repositoryUrl = (tool.shownStacks y).map repositoryUrl)) :
    tool.SameUnless (past ++ [answers]) r r' := by
  rw [PortainerTool.SameUnless, h]
  constructor
  · intro hurls n pair hn hpair
    obtain rfl := Option.some.inj (hshown.symm.trans hn)
    rw [List.getElem?_concat_length] at hpair
    obtain rfl := Option.some.inj hpair
    intro x' y' hx' hy'
    obtain rfl := Except.ok.inj (hx.symm.trans hx')
    obtain rfl := Except.ok.inj (hy.symm.trans hy')
    exact hurls
  · intro hall
    exact hall past.length answers hshown List.getElem?_concat_length x y hx hy

theorem AnswerAlike.read {a a' : PortainerAnswer} (h : AnswerAlike a a') :
    (∃ e, readAnswer a = .error e ∧ readAnswer a' = .error e) ∨
      ∃ x y, readAnswer a = .ok x ∧ readAnswer a' = .ok y ∧ PayloadAlike x y := by
  obtain rfl | ⟨status, text, text', hok, rfl, rfl, h⟩ := h
  · cases hread : readAnswer a with
    | error e => exact .inl ⟨e, rfl, rfl⟩
    | ok x => exact .inr ⟨x, x, rfl, rfl, .inl (.inl rfl)⟩
  · refine .inr ⟨_, _, ?_, ?_, h⟩
    · rw [readAnswer, if_pos hok]
    · rw [readAnswer, if_pos hok]

theorem except_map_injective {ε α β : Type} {f : α → β} (hf : Function.Injective f) :
    Function.Injective (Except.map (ε := ε) f) := by
  intro x y h
  obtain ⟨e, rfl, rfl⟩ | ⟨a, b, rfl, rfl, hab⟩ := except_map_eq_iff.mp h
  · rfl
  · rw [hf hab]

/-! ### One step -/

abbrev SameRuns (tool : PortainerTool) (past : List (PortainerAnswer × PortainerAnswer))
    (m m' : Portainer PortainerResult) : Prop :=
  Program.both AnswerAlike tool.SameUnless m.run m'.run past

variable {α : Type} {f f' : α → Portainer PortainerResult}

/-- A step without a request fails in both runs, with one error, or in none. -/
theorem sameRuns_lift {e e' : Except PortainerThrow α} (hpast : tool.NothingShown past)
    (h : (∃ err, e = .error err ∧ e' = .error err) ∨
      ∃ a a', e = .ok a ∧ e' = .ok a' ∧ SameRuns tool past (f a) (f' a')) :
    SameRuns tool past ((liftM e : Portainer α) >>= f) ((liftM e' : Portainer α) >>= f') := by
  obtain ⟨err, rfl, rfl⟩ | ⟨a, a', rfl, rfl, h⟩ := h
  · exact sameUnless_of_nothingShown hpast _
  · exact h

/-- A request, and what follows a successful answer. -/
theorem sameRuns_request {path path' method method' : JsString} {body body' : Option Json}
    {g g' : Json → Portainer PortainerResult} (hpast : tool.NothingShown past)
    (hg : ∀ x y answers, readAnswer answers.1 = .ok x → readAnswer answers.2 = .ok y →
      PayloadAlike x y → SameRuns tool (past ++ [answers]) (g x) (g' y)) :
    SameRuns tool past (requestJson cfg path method body >>= g)
      (requestJson cfg path' method' body' >>= g') := by
  rw [SameRuns]
  cases hkey : apiKey cfg with
  | error e =>
      rw [run_requestJson_of_no_key hkey, run_requestJson_of_no_key hkey]
      exact sameUnless_of_nothingShown hpast _
  | ok token =>
      rw [run_requestJson_of_key hkey, run_requestJson_of_key hkey, Program.both_ask]
      intro a a' ha
      obtain ⟨e, he, he'⟩ | ⟨x, y, hx, hy, hxy⟩ := ha.read
      · rw [he, he']
        have hfirst : readAnswer (a, a').1 = .error e := he
        exact sameUnless_of_error hpast hfirst _
      · rw [hx, hy]
        exact hg x y (a, a') hx hy hxy

theorem run_lift_pure (e : Except PortainerThrow α) (f : α → PortainerResult) :
    ((liftM e : Portainer α) >>= pure ∘ f).run = .done (e.map f) := by
  cases e <;> rfl

/-- What was read of the stacks in the last answer is shown. -/
theorem sameRuns_show {e e' : Except PortainerThrow α} {f : α → PortainerResult}
    (hf : Function.Injective f) (hshown : tool.shownAt = some past.length) {x y : Json}
    (hx : readAnswer answers.1 = .ok x) (hy : readAnswer answers.2 = .ok y)
    (he : e = e' ↔ ((∀ s ∈ tool.shownStacks x, Readable s) →
      (tool.shownStacks x).map repositoryUrl = (tool.shownStacks y).map repositoryUrl)) :
    SameRuns tool (past ++ [answers]) ((liftM e : Portainer α) >>= pure ∘ f)
      ((liftM e' : Portainer α) >>= pure ∘ f) := by
  rw [SameRuns, run_lift_pure, run_lift_pure, Program.both_done]
  exact sameUnless_shown hshown hx hy ((except_map_injective hf).eq_iff.trans he)

/-! ### The steps of the tools -/

variable {x y : Json}

theorem checkName_alike (h : ReadAlike x y) (confirm : JsString) :
    (∃ e, checkName x confirm = .error e ∧ checkName y confirm = .error e) ∨
      checkName x confirm = .ok ⟨x, confirm⟩ ∧ checkName y confirm = .ok ⟨y, confirm⟩ := by
  have hname : stackName x = stackName y := by
    rw [stackName, stackName, h.notNull, h.get _ (by decide) (by decide)]
  rw [checkName, checkName, hname]
  cases stackName y with
  | error e => exact .inl ⟨e, rfl, rfl⟩
  | ok name =>
      by_cases hconfirm : confirm = name
      · subst hconfirm
        simp [bind, Except.bind, pure, Except.pure]
      · simp [bind, Except.bind, hconfirm, throw, throwThe, MonadExceptOf.throw]

theorem stackEndpointId_alike (h : ReadAlike x y) : stackEndpointId x = stackEndpointId y := by
  rw [stackEndpointId, stackEndpointId, h.get _ (by decide) (by decide)]

theorem isGitStack_alike (h : ReadAlike x y) : isGitStack x = isGitStack y := truthy_alike h.git

theorem stackFileContent_alike (h : ReadAlike x y) : stackFileContent x = stackFileContent y := by
  rw [stackFileContent, stackFileContent, h.notNull, h.get _ (by decide) (by decide)]

/-- The name of the stack is confirmed in both runs, or in none. -/
theorem sameRuns_confirmed {stackId : JsNumber} {confirm : JsString}
    {g g' : ConfirmedStack → Portainer PortainerResult} (hfirst : tool.shownAt ≠ some 0)
    (hg : ∀ x y answers, ReadAlike x y →
      SameRuns tool [answers] (g ⟨x, confirm⟩) (g' ⟨y, confirm⟩)) :
    SameRuns tool [] (confirmedStack cfg stackId confirm >>= g)
      (confirmedStack cfg stackId confirm >>= g') := by
  have hone : ∀ answers, tool.NothingShown [answers] := by
    intro answers n hn
    cases n with
    | zero => exact absurd hn hfirst
    | succ n => exact Nat.le_add_left 1 n
  rw [confirmedStack, rawStack, bind_assoc, bind_assoc]
  apply sameRuns_request (fun _ _ => Nat.zero_le _)
  intro x y answers _ _ hxy
  apply sameRuns_lift (hone answers)
  obtain h | ⟨hx, hy⟩ := checkName_alike hxy.read confirm
  · exact .inl h
  · exact .inr ⟨_, _, hx, hy, hg x y answers hxy.read⟩

/-- Redeploying a stack shows nothing of it. -/
theorem sameRuns_redeploy {stackId endpointId endpointId' : JsNumber} {env env' : List EnvVar}
    {pullImage prune git : Bool} {result : PortainerResult} (hshown : tool.shownAt = none) :
    SameRuns tool past
      ((if git then gitRedeploy cfg else composeRedeploy cfg) stackId endpointId env pullImage
        prune >>= fun _ => pure result)
      ((if git then gitRedeploy cfg else composeRedeploy cfg) stackId endpointId' env' pullImage
        prune >>= fun _ => pure result) := by
  have hnothing : ∀ pairs, tool.NothingShown pairs := by
    intro pairs n hn
    rw [hshown] at hn
    cases hn
  cases git with
  | true =>
      rw [if_pos rfl, gitRedeploy, gitRedeploy]
      apply sameRuns_request (hnothing past)
      intro x y answers _ _ _
      exact sameUnless_of_nothingShown (hnothing _) _
  | false =>
      rw [if_neg Bool.false_ne_true, composeRedeploy, composeRedeploy, bind_assoc, bind_assoc]
      apply sameRuns_request (hnothing past)
      intro x y answers _ _ hxy
      rw [bind_assoc, bind_assoc, stackFileContent_alike hxy.read]
      apply sameRuns_lift (hnothing _)
      cases stackFileContent y with
      | error e => exact .inl ⟨e, rfl, rfl⟩
      | ok content =>
          refine .inr ⟨content, content, rfl, rfl, ?_⟩
          apply sameRuns_request (hnothing _)
          intro x y answers _ _ _
          exact sameUnless_of_nothingShown (hnothing _) _

theorem sameRuns_updateEnv (input : EnvUpdate) :
    SameRuns (.stackUpdateEnv input) []
      (updatePortainerStackEnv cfg input >>= pure ∘ PortainerResult.envUpdated)
      (updatePortainerStackEnv cfg input >>= pure ∘ PortainerResult.envUpdated) := by
  have hnothing : ∀ pairs, (PortainerTool.stackUpdateEnv input).NothingShown pairs :=
    fun pairs n hn => by cases hn
  rw [updatePortainerStackEnv, bind_assoc]
  apply sameRuns_confirmed (by simp [PortainerTool.shownAt])
  intro x y answers hxy
  rw [bind_assoc, bind_assoc]
  apply sameRuns_lift (hnothing _)
  obtain ⟨e, he, he'⟩ | ⟨env, env', henv, henv', hsame⟩ :=
    except_map_eq_iff.mp (envArray_alike hxy.env)
  · exact .inl ⟨e, he, he'⟩
  · refine .inr ⟨env, env', henv, henv', ?_⟩
    have hnames : env.map EnvVar.name = env'.map EnvVar.name := by
      have h := congrArg (List.map SafeVar.name) hsame
      rwa [List.map_map, List.map_map] at h
    have hlength : (mergedEnv input env).length = (mergedEnv input env').length := by
      simpa using congrArg List.length (names_mergedEnv_congr input hnames)
    rw [bind_assoc, bind_assoc, stackEndpointId_alike hxy, isGitStack_alike hxy, hlength]
    apply sameRuns_lift (hnothing _)
    cases stackEndpointId y with
    | error e => exact .inl ⟨e, rfl, rfl⟩
    | ok endpointId => 
        refine .inr ⟨endpointId, endpointId, rfl, rfl, ?_⟩
        rw [bind_assoc, bind_assoc]
        exact sameRuns_redeploy rfl

theorem sameRuns_gitRedeploy (input : GitRedeploy) {f : JsString → PortainerResult} :
    SameRuns (.stackGitRedeploy input) []
      (redeployPortainerGitStack cfg input >>= pure ∘ f)
      (redeployPortainerGitStack cfg input >>= pure ∘ f) := by
  have hnothing : ∀ pairs, (PortainerTool.stackGitRedeploy input).NothingShown pairs :=
    fun pairs n hn => by cases hn
  rw [redeployPortainerGitStack, bind_assoc]
  apply sameRuns_confirmed (by simp [PortainerTool.shownAt])
  intro x y answers hxy
  simp only [bind_assoc]
  rw [checkGitStack, checkGitStack, isGitStack_alike hxy]
  apply sameRuns_lift (hnothing _)
  split_ifs with hgit
  · refine .inr ⟨(), (), rfl, rfl, ?_⟩
    rw [stackEndpointId_alike hxy]
    apply sameRuns_lift (hnothing _)
    cases stackEndpointId y with
    | error e => exact .inl ⟨e, rfl, rfl⟩
    | ok endpointId =>
        refine .inr ⟨endpointId, endpointId, rfl, rfl, ?_⟩
        apply sameRuns_lift (hnothing _)
        obtain ⟨e, he, he'⟩ | ⟨env, env', henv, henv', -⟩ :=
          except_map_eq_iff.mp (envArray_alike hxy.env)
        · exact .inl ⟨e, he, he'⟩
        · refine .inr ⟨env, env', henv, henv', ?_⟩
          apply sameRuns_request (hnothing _)
          intro x y answers _ _ _
          exact sameUnless_of_nothingShown (hnothing _) _
  · exact .inl ⟨_, rfl, rfl⟩

/-- Starting and stopping show the stack that the second request returns. -/
theorem sameRuns_changeStackState {verb : String} {stackId : JsNumber} {confirm : JsString}
    {f : JsString × SafeStack → PortainerResult} (hf : Function.Injective f)
    (hshown : tool.shownAt = some 1) (hstacks : ∀ x, tool.shownStacks x = [x]) :
    SameRuns tool [] (changeStackState cfg verb stackId confirm >>= pure ∘ f)
      (changeStackState cfg verb stackId confirm >>= pure ∘ f) := by
  have hone : ∀ answers, tool.NothingShown [answers] := by
    intro answers n hn
    rw [hshown] at hn
    exact (Option.some.inj hn).le
  rw [changeStackState, bind_assoc]
  apply sameRuns_confirmed (by simp [hshown])
  intro x y answers hxy
  simp only [bind_assoc]
  rw [stackEndpointId_alike hxy]
  apply sameRuns_lift (hone _)
  cases stackEndpointId y with
  | error e => exact .inl ⟨e, rfl, rfl⟩
  | ok endpointId =>
      refine .inr ⟨endpointId, endpointId, rfl, rfl, ?_⟩
      apply sameRuns_request (hone _)
      intro x y answers' hx hy hxy
      have hpair : Function.Injective fun shown : SafeStack => f (confirm, shown) :=
        fun s t h => (Prod.mk.inj (hf h)).2
      apply sameRuns_show hpair hshown hx hy
      rw [hstacks, hstacks]
      exact safeStack_eq_iff_urls hxy.read

theorem sameRuns_deleteStack {stackId : JsNumber} {confirm : JsString} {removeVolumes : Bool}
    {f : JsString → PortainerResult} (hshown : tool.shownAt = none) :
    SameRuns tool [] (deletePortainerStack cfg stackId confirm removeVolumes >>= pure ∘ f)
      (deletePortainerStack cfg stackId confirm removeVolumes >>= pure ∘ f) := by
  have hnothing : ∀ pairs, tool.NothingShown pairs := by
    intro pairs n hn
    rw [hshown] at hn
    cases hn
  rw [deletePortainerStack, bind_assoc]
  apply sameRuns_confirmed (by simp [hshown])
  intro x y answers hxy
  simp only [bind_assoc]
  rw [stackEndpointId_alike hxy]
  apply sameRuns_lift (hnothing _)
  cases stackEndpointId y with
  | error e => exact .inl ⟨e, rfl, rfl⟩
  | ok endpointId =>
      refine .inr ⟨endpointId, endpointId, rfl, rfl, ?_⟩
      apply sameRuns_request (hnothing _)
      intro x y answers _ _ _
      exact sameUnless_of_nothingShown (hnothing _) _

/-- Listing, reading and creating stacks show what the first request returns. -/
theorem sameRuns_firstShown {path method : JsString} {body : Option Json}
    {read : Json → Except PortainerThrow α} {f : α → PortainerResult} (hf : Function.Injective f)
    (hshown : tool.shownAt = some 0)
    (hread : ∀ x y, PayloadAlike x y → (read x = read y ↔
      ((∀ s ∈ tool.shownStacks x, Readable s) →
        (tool.shownStacks x).map repositoryUrl = (tool.shownStacks y).map repositoryUrl))) :
    SameRuns tool []
      ((requestJson cfg path method body >>= fun x => (liftM (read x) : Portainer α)) >>=
        pure ∘ f)
      ((requestJson cfg path method body >>= fun x => (liftM (read x) : Portainer α)) >>=
        pure ∘ f) := by
  rw [bind_assoc]
  apply sameRuns_request (fun _ _ => Nat.zero_le _)
  intro x y answers hx hy hxy
  exact sameRuns_show hf hshown hx hy (hread x y hxy)

theorem sameRuns_call (tool : PortainerTool) :
    SameRuns tool [] (tool.call cfg) (tool.call cfg) := by
  cases tool with
  | stacksList =>
      rw [PortainerTool.call, ← bind_pure_comp, portainerStacks]
      exact sameRuns_firstShown (fun _ _ h => PortainerResult.listed.inj h) rfl
        fun x y hxy => safeStacks_eq_iff_urls hxy.stacksOf
  | stackGet id =>
      rw [PortainerTool.call, ← bind_pure_comp, portainerStack, rawStack]
      exact sameRuns_firstShown (fun _ _ h => PortainerResult.stack.inj h) rfl
        fun x y hxy => safeStack_eq_iff_urls hxy.read
  | stackCreateGit input =>
      rw [PortainerTool.call, ← bind_pure_comp, createPortainerGitStack]
      exact sameRuns_firstShown (fun _ _ h => PortainerResult.stack.inj h) rfl
        fun x y hxy => safeStack_eq_iff_urls hxy.read
  | stackStart id confirm =>
      rw [PortainerTool.call, ← bind_pure_comp, startPortainerStack]
      refine sameRuns_changeStackState ?_ rfl fun _ => rfl
      intro s t h
      obtain ⟨-, hname, hstack⟩ := PortainerResult.started.inj h
      exact Prod.ext hname hstack
  | stackStop id confirm =>
      rw [PortainerTool.call, ← bind_pure_comp, stopPortainerStack]
      refine sameRuns_changeStackState ?_ rfl fun _ => rfl
      intro s t h
      obtain ⟨-, hname, hstack⟩ := PortainerResult.stopped.inj h
      exact Prod.ext hname hstack
  | stackDelete id confirm removeVolumes =>
      rw [PortainerTool.call, ← bind_pure_comp]
      exact sameRuns_deleteStack rfl
  | stackUpdateEnv input =>
      rw [PortainerTool.call, ← bind_pure_comp]
      exact sameRuns_updateEnv input
  | stackGitRedeploy input =>
      rw [PortainerTool.call, ← bind_pure_comp]
      exact sameRuns_gitRedeploy input

theorem sameRuns_run (tool : PortainerTool) : SameRuns tool [] (tool.run cfg) (tool.run cfg) := by
  rw [PortainerTool.run]
  apply sameRuns_lift (fun _ _ => Nat.zero_le _)
  cases tool.check with
  | error e => exact .inl ⟨e, rfl, rfl⟩
  | ok u => exact .inr ⟨u, u, rfl, rfl, sameRuns_call tool⟩

end Runs

theorem getElem?_of_map_eq {α β γ : Type} {f : α → γ} {g : β → γ} {xs : List α} {ys : List β}
    (h : xs.map f = ys.map g) {n : ℕ} {x : α} (hx : xs[n]? = some x) :
    ∃ y, ys[n]? = some y ∧ g y = f x := by
  have hn : (ys.map g)[n]? = some (f x) := by
    rw [← h, List.getElem?_map, hx]
    rfl
  rwa [List.getElem?_map, Option.map_eq_some_iff] at hn

/-- Against two servers that differ only in their secrets, a tool gives one result exactly if the
addresses of the repositories it shows are equal. -/
theorem portainerResult_eq_iff (cfg : PortainerConfig) (tool : PortainerTool)
    (server server' : PortainerServer)
    (halike : Program.AnswersRelated AnswerAlike (tool.against cfg server).1
      (tool.against cfg server').1) :
    (tool.against cfg server).2 = (tool.against cfg server').2 ↔
      tool.UrlsAgree (tool.against cfg server).1 (tool.against cfg server').1 := by
  obtain ⟨all, hleft, hright, hsame⟩ :=
    Program.both_against (sameRuns_run tool) rfl rfl halike
  have hresults : (tool.against cfg server).2 = (tool.against cfg server').2 ↔ _ := hsame
  rw [hresults]
  constructor
  · intro h n x x' hn hx hx'
    obtain ⟨pair, hpair, hfst⟩ := getElem?_of_map_eq hleft hx
    obtain ⟨pair', hpair', hsnd⟩ := getElem?_of_map_eq hright hx'
    obtain rfl := Option.some.inj (hpair.symm.trans hpair')
    rw [← hfst, ← hsnd]
    exact h n pair hn hpair
  · intro h n pair hn hpair
    obtain ⟨x, hx, hfst⟩ := getElem?_of_map_eq hleft.symm hpair
    obtain ⟨x', hx', hsnd⟩ := getElem?_of_map_eq hright.symm hpair
    rw [← hfst, ← hsnd]
    exact h n x x' hn hx hx'

/-! ## A repository with a token in its address -/

def sampleTool : PortainerTool := .stackGet (JsNumber.ofInt 1 inRange_one)

def tokenUrl (token : String) : JsString := js "https://ops:" ++ js token ++ js "@git.example/web"

theorem responsePayload_stringify {x : Json} (hx : x.Normal) :
    responsePayload (ofChars x.stringify) = x := by
  have htext : (ofChars x.stringify).isEmpty = false := by
    obtain ⟨c, cs, hcs, -⟩ := head_stringify x
    rw [hcs, List.isEmpty_eq_false_iff]
    intro hnil
    have hchars := congrArg toChars hnil
    rw [Utf8.toChars_ofChars] at hchars
    cases hchars
  rw [responsePayload, htext, Utf8.toChars_ofChars, parse_stringify x hx]
  rfl

theorem normal_sampleStack (value url : JsString) : (sampleStack value url).Normal := by
  have hrow : fromEntries [(js "name", Json.str (js "DB_URL")), (js "value", Json.str value)] =
      [(js "name", Json.str (js "DB_URL")), (js "value", Json.str value)] := rfl
  refine ⟨⟨trivial, ⟨_, rfl⟩, ⟨⟨⟨trivial, trivial, trivial⟩, hrow⟩, trivial⟩,
    ⟨⟨trivial, trivial⟩, rfl⟩, trivial⟩, ?_⟩
  rfl

theorem sampleStack_alike {value value' url url' : JsString}
    (hvalue : value.isEmpty = value'.isEmpty) (hurl : withoutUserinfo url = withoutUserinfo url') :
    StackAlike (sampleStack value url) (sampleStack value' url') := by
  have hrow : RowAlike (.obj [(js "name", .str (js "DB_URL")), (js "value", .str value)])
      (.obj [(js "name", .str (js "DB_URL")), (js "value", .str value')]) := by
    refine .inr ⟨_, _, rfl, rfl, fun k => ?_⟩
    by_cases hk : k = js "value"
    · have hne : js "name" ≠ js "value" := by decide
      exact .inr ⟨hk, by simp [hk, lookup, hne, ValueAlike, strOrEmpty, Json.toStr, hvalue]⟩
    · exact .inl (by simp [lookup, Ne.symm hk])
  have hgit : GitAlike (some (.obj [(js "URL", .str url)]))
      (some (.obj [(js "URL", .str url')])) := by
    refine .inr ⟨_, _, rfl, rfl, .inr ⟨_, _, rfl, rfl, fun k => ?_⟩⟩
    by_cases hk : k = js "URL"
    · exact .inr (.inr ⟨hk, url, url', by simp [hk, lookup], by simp [hk, lookup], hurl⟩)
    · exact .inl (by simp [lookup, Ne.symm hk])
  refine .inr ⟨_, _, rfl, rfl, fun k => ?_⟩
  by_cases hk : k = js "Env"
  · subst hk
    exact .inr (.inl ⟨rfl, .inr ⟨_, _, rfl, rfl, .cons hrow .nil⟩⟩)
  · by_cases hk' : k = js "GitConfig"
    · subst hk'
      exact .inr (.inr ⟨rfl, hgit⟩)
    · exact .inl (by simp [lookup, Ne.symm hk, Ne.symm hk'])

theorem stackAnswer_alike {value value' url url' : JsString}
    (hvalue : value.isEmpty = value'.isEmpty) (hurl : withoutUserinfo url = withoutUserinfo url') :
    AnswerAlike (stackAnswer value url) (stackAnswer value' url') := by
  refine .inr ⟨200, _, _, rfl, rfl, rfl, ?_⟩
  rw [responsePayload_stringify (normal_sampleStack value url),
    responsePayload_stringify (normal_sampleStack value' url')]
  exact .inl (sampleStack_alike hvalue hurl)

theorem sampleTool_result (value url : JsString) :
    (sampleTool.against samplePortainer (stackServer value url)).2 =
      (safeStack (sampleStack value url)).map .stack := by
  have hread : readAnswer (stackAnswer value url) = .ok (sampleStack value url) := by
    have hok : isOkStatus 200 = true := rfl
    rw [stackAnswer, readAnswer, if_pos hok, responsePayload_stringify (normal_sampleStack _ _)]
  have hrun : sampleTool.run samplePortainer =
      requestJson samplePortainer (js "/stacks/" ++ idText (JsNumber.ofInt 1 inRange_one)) >>=
        fun x => (liftM (safeStack x) : Portainer SafeStack) >>= pure ∘ PortainerResult.stack := by
    change PortainerResult.stack <$> portainerStack samplePortainer _ = _
    rw [← bind_pure_comp, portainerStack, rawStack, bind_assoc]
    rfl
  have hend := run_lift_pure (safeStack (sampleStack value url)) PortainerResult.stack
  rw [PortainerTool.against, hrun, run_requestJson_of_key rfl, Program.against_ask, stackServer,
    hread]
  exact congrArg (fun p => (Program.against (stackServer value url) p _).2) hend

/-- The value of a variable makes no difference. -/
theorem envValues_notShown :
    (sampleTool.against samplePortainer (stackServer (js "a") (js "https://git/web"))).2 =
        (sampleTool.against samplePortainer (stackServer (js "b") (js "https://git/web"))).2 ↔
      sampleTool.UrlsAgree
        (sampleTool.against samplePortainer (stackServer (js "a") (js "https://git/web"))).1
        (sampleTool.against samplePortainer (stackServer (js "b") (js "https://git/web"))).1 :=
  portainerResult_eq_iff samplePortainer sampleTool _ _
    (Program.answersRelated_const (stackAnswer_alike rfl rfl))

/-- The token in the address of a repository shows. -/
theorem tokenInUrl_shown :
    ¬∀ (cfg : PortainerConfig) (tool : PortainerTool) (server server' : PortainerServer),
      Program.AnswersRelated AnswerAlike (tool.against cfg server).1
          (tool.against cfg server').1 →
        (tool.against cfg server).2 = (tool.against cfg server').2 := by
  intro h
  have hresult := h samplePortainer sampleTool (stackServer [] (tokenUrl "one"))
    (stackServer [] (tokenUrl "two"))
    (Program.answersRelated_const (stackAnswer_alike rfl (by decide)))
  rw [sampleTool_result, sampleTool_result] at hresult
  have hstack := except_map_injective (fun _ _ h => PortainerResult.stack.inj h) hresult
  have hurl := congrArg (Except.map SafeStack.url) hstack
  have hreadable : ∀ token, Readable (sampleStack [] (tokenUrl token)) :=
    fun _ => ⟨rfl, _, rfl⟩
  rw [map_url_of_readable (hreadable _), map_url_of_readable (hreadable _)] at hurl
  have htoken : tokenUrl "one" = tokenUrl "two" :=
    Json.str.inj (Option.some.inj (Except.ok.inj hurl))
  exact absurd htoken (by decide)

end RemoteOps

import RemoteOps.Agent.Gateway
import RemoteOps.Auth.SignedCredentials
import RemoteOps.Config.Targets
import RemoteOps.Ecma.PercentText
import RemoteOps.Privileged.ReplayFile
import RemoteOps.Server.RateLimits

/-!
# The admin console

A request of the console is acted on behind two gates: its cookie has to hold claims of a login, and
its form the text that this login drew. Both are looked at in the cookie alone; the console keeps
nothing about who has signed in.

In every run what the console does goes back to a login with the password
(`adminActs_login`), and the cookie of a login works exactly until it expires, whatever happens in
between (`cookie_works_iff`). Passwords are compared ten times for an address in five minutes at
most (`passwords_bounded`).
-/

namespace RemoteOps

open Ecma Transition

/-! ## Model -/

/-- How `hostname` ends on a target: with a result, or with an error of this name. -/
inductive ProbeResult where
  | returned (result : ExecResult)
  | threw (name : JsString)

/-- The routes behind both gates. -/
inductive AdminAction where
  | logout
  | approvePairing
  | revokeAgentDevice (deviceId : JsString)
  | revokeAll
  | revokeClient (clientId : JsString)
  | revokeSession (sessionId : JsString)
  | revokeTarget (targetId : JsString)
  | enableTarget (targetId : JsString)
  | checkTarget (targetId : JsString) (probe : ProbeResult)

/-- A request for a route, with the readings of the clock that it meets, and whether the writes of
the state file succeed for it. -/
structure AdminRequest where
  cookie : JsString
  form : Form
  now : TimeValue
  storeNow : ℤ
  writes : Bool
  action : AdminAction

/-- What an action does apart from the state. -/
inductive AdminEffect where
  | disconnected (deviceId : JsString)
  | poolClosed (targetId : JsString)
  | probed (targetId : JsString)
  /-- a line of the audit file, with the error code of what was denied -/
  | audited (tool : String) (target : Option JsString) (denied : Option String)

inductive AdminResponse where
  | redirected (location : JsString)
  /-- an exception, which the error handler of the server answers -/
  | failed (message : JsString)

inductive AdminRefusal where
  | login
  | forbidden
  | tooMany
  | malformed

inductive AdminReply where
  | console (reply : ConsoleReply)
  | refused (refusal : AdminRefusal)
  | acted (answer : AdminResponse) (effects : List AdminEffect)
  | other (result : Except JsString Unit)

/-- `` res.redirect(303, `/admin?notice=${encodeURIComponent(text)}`) ``. -/
def noticed (text : JsString) : AdminResponse :=
  match encodeURIComponent text with
  | none => .failed (js "URI malformed")
  | some encoded => .redirected (js "/admin?notice=" ++ encoded)

/-- An operation of the store, and what is done with its result if it does not throw. -/
def withStore {α : Type} (run : Except JsString α × Store)
    (k : α → AdminResponse × List AdminEffect) : AdminReply × Store :=
  match run with
  | (.error message, store) => (.acted (.failed message) [], store)
  | (.ok x, store) => (.acted (k x).1 (k x).2, store)

/-- What most routes do about a table that may not hold the id. -/
def revoked (tool : String) (target : JsString) (missing : String) (done notFound : String)
    (found : Bool) : AdminResponse × List AdminEffect :=
  (noticed (js (if found then done else notFound)),
    [.audited tool (some target) (if found then none else some missing)])

/-- `String(req.body?.[name] ?? "")`. -/
def AdminRequest.field (r : AdminRequest) (name : String) : JsString := r.form.text (js name) []

section Actions

variable (p : Platform) (upper : UpperCase) (registry : Registry) (r : AdminRequest) (store : Store)

def approvePairingAction : AdminReply × Store :=
  withStore (store.run (approvePairingByCode p upper (r.field "code") r.storeNow) r.writes) fun
    | some pairing =>
        (noticed (js "Pairing aprovado para " ++ pairing.hostname ++ js "."),
          [.audited "admin.approve_device_pairing"
            (some (js "pairing:" ++ pairing.pairingId)) none])
    | none =>
        (noticed (js "Código de pairing inválido ou expirado."),
          [.audited "admin.approve_device_pairing" none (some "PAIRING_NOT_FOUND")])

def revokeAgentDeviceAction (deviceId : JsString) : AdminReply × Store :=
  withStore (store.run (revokeDevice deviceId r.storeNow) r.writes) fun found =>
    let (answer, lines) := revoked "admin.revoke_agent_device" deviceId "DEVICE_NOT_FOUND"
      "Agent device revogado imediatamente." "Agent device não encontrado." found
    (answer, (if found then [.disconnected deviceId] else []) ++ lines)

def revokeAllAction : AdminReply × Store :=
  withStore (store.run (revokeAllClients r.storeNow) r.writes) fun count =>
    (noticed (js (toString count) ++ js " cliente(s) revogado(s), incluindo todas as sessões."),
      [.audited "admin.revoke_all_clients" none none])

def revokeClientAction (clientId : JsString) : AdminReply × Store :=
  withStore (store.run (RemoteOps.revokeClient clientId r.storeNow) r.writes)
    (revoked "admin.revoke_client" (js "client:" ++ clientId) "CLIENT_NOT_FOUND"
      "Cliente revogado imediatamente." "Cliente não encontrado.")

def revokeSessionAction (sessionId : JsString) : AdminReply × Store :=
  withStore (store.run (RemoteOps.revokeSession sessionId r.storeNow) r.writes)
    (revoked "admin.revoke_session" (js "session:" ++ sessionId) "SESSION_NOT_FOUND"
      "Sessão revogada imediatamente." "Sessão não encontrada.")

/-- The routes `/targets/:targetId/revoke` and `/targets/:targetId/enable`. -/
def controlTargetAction (targetId : JsString) (enabled : Bool) (tool reason done : String)
    (closes : Bool) : AdminReply × Store :=
  match getTarget registry targetId with
  | none =>
      (.acted (noticed (js "Device não encontrado."))
        [.audited tool (some targetId) (some "TARGET_NOT_FOUND")], store)
  | some t =>
      withStore (store.run (setTargetEnabled t.id enabled (some (js reason)) r.storeNow) r.writes)
        fun _ =>
          (noticed (js done),
            (if closes then [.poolClosed t.id] else []) ++ [.audited tool (some targetId) none])

def revokeTargetAction (targetId : JsString) : AdminReply × Store :=
  controlTargetAction registry r store targetId false "admin.revoke_target"
    "revogado no console administrativo" "Device revogado. Novas operações estão bloqueadas." true

def enableTargetAction (targetId : JsString) : AdminReply × Store :=
  controlTargetAction registry r store targetId true "admin.enable_target"
    "habilitado no console administrativo" "Device habilitado." false

/-- `x.code === 0 && x.stdout.trim().length > 0`. -/
def probeOk (result : ExecResult) : Bool :=
  result.code = some (JsNumber.ofInt 0 inRange_zero) && !(trim result.stdout).isEmpty

/-- `` `exit_${String(x.code)}` ``. -/
def exitError (result : ExecResult) : JsString :=
  js "exit_" ++ result.code.elim (js "null") fun code => ofChars code.text

/-- The `catch` of a probe. -/
def probeFailed (t : TargetConfig) (name : JsString) (store : Store) : AdminReply × Store :=
  match store.run (recordTargetProbe t.id false (some name) r.storeNow) r.writes with
  | (.error message, store) => (.acted (.failed message) [.probed t.id], store)
  | (.ok _, store) =>
      (.acted (noticed (js "Probe de " ++ t.id ++ js " falhou.")) [.probed t.id], store)

def checkTargetAction (targetId : JsString) (probe : ProbeResult) : AdminReply × Store :=
  let missing := (.acted (noticed (js "Device inexistente ou revogado.")) [], store)
  match getTarget registry targetId with
  | none => missing
  | some t =>
      if !effectiveTargetEnabled targetId t.enabled store.live then missing
      else
        match probe with
        | .threw name => probeFailed r t name store
        | .returned result =>
            let error := if probeOk result then none else some (exitError result)
            match store.run (recordTargetProbe t.id (probeOk result) error r.storeNow) r.writes with
            | (.error _, store) => probeFailed r t (js "Error") store
            | (.ok _, store) =>
                (.acted (noticed (js "Device " ++ t.id ++
                  js (if probeOk result then " respondeu ao probe." else " retornou erro.")))
                  [.probed t.id], store)

def adminAct : AdminAction → AdminReply × Store
  | .logout => (.acted (.redirected (js "/admin/login")) [], store)
  | .approvePairing => approvePairingAction p upper r store
  | .revokeAgentDevice deviceId => revokeAgentDeviceAction r store deviceId
  | .revokeAll => revokeAllAction r store
  | .revokeClient clientId => revokeClientAction r store clientId
  | .revokeSession sessionId => revokeSessionAction r store sessionId
  | .revokeTarget targetId => revokeTargetAction registry r store targetId
  | .enableTarget targetId => enableTargetAction registry r store targetId
  | .checkTarget targetId probe => checkTargetAction registry r store targetId probe

end Actions

/-- `requireCsrf`: the form has the text of the claims. -/
def csrfMatches (claims : Json) (token : JsString) : Bool :=
  match claims.get (js "csrf") with
  | some (.str csrf) => !token.isEmpty && safeEqual token csrf
  | _ => false

/-- `loginLimiter()`, whose map is never cleared. -/
def passLogin (hits : Hits) (r : LimitedRequest) : Bool × Hits :=
  let active := (hitsOf hits r.key).filter fun x => r.now - x < 5 * 60000
  if 10 ≤ active.length then (false, hits) else (true, hits.set r.key (active ++ [r.now]))

structure AdminServer where
  store : Store
  hits : Hits

inductive AdminServerInput where
  | oauth (i : OAuthInput)
  | login (attempt : LimitedRequest) (input : LoginInput)
  | action (r : AdminRequest)
  /-- what the rest of the process does to the store -/
  | other (i : StoreInput)

section Machine

variable (p : Platform) (upper : UpperCase) (env : ConsoleEnv) (pairingEnv : PairingEnv)
  (registry : Registry)

/-- `requireAdmin` and `requireCsrf`, and the handler behind them. -/
def handleAdmin (r : AdminRequest) (store : Store) : AdminReply × Store :=
  match readAdminClaims p env.oauth r.cookie r.now with
  | none => (.refused .malformed, store)
  | some none => (.refused .login, store)
  | some (some claims) =>
      if csrfMatches claims (r.field "csrf") then adminAct p upper registry r store r.action
      else (.refused .forbidden, store)

def AdminServerInput.step (s : AdminServer) : AdminServerInput → AdminReply × AdminServer
  | oauth i =>
      let (reply, store) := ConsoleInput.step p env s.store (.oauth i)
      (.console reply, { s with store })
  | login attempt input =>
      let (passes, hits) := passLogin s.hits attempt
      if passes then
        let (reply, store) := ConsoleInput.step p env s.store (.login input)
        (.console reply, ⟨store, hits⟩)
      else (.refused .tooMany, ⟨s.store, hits⟩)
  | action r =>
      let (reply, store) := handleAdmin p upper env registry r s.store
      (reply, { s with store })
  | other i =>
      let (result, store) := i.step p upper pairingEnv s.store
      (.other result, { s with store })

def adminServer : Machine AdminServer AdminServerInput AdminReply where
  start := ⟨Store.initial, OrderedMap.empty⟩
  step := AdminServerInput.step p upper env pairingEnv registry

end Machine

/-! ## What is shown and what is issued -/

/-- The value of the cookie of the console. -/
def AdminRequest.shown (r : AdminRequest) : Option JsString :=
  (parseCookies r.cookie).bind fun cookies => cookies.get? adminCookie

/-- The part of a run that issues credentials. -/
def consolePart : AdminServerInput × AdminReply → Option (ConsoleInput × ConsoleReply)
  | (.oauth i, .console reply) => some (.oauth i, reply)
  | (.login _ input, .console reply) => some (.login input, reply)
  | _ => none

/-- A login that a request may be acted on for. -/
structure StandsBehind (p : Platform) (env : ConsoleEnv) (input : LoginInput) (r : AdminRequest) :
    Prop where
  password : safeEqual (input.form.text (js "password") []) env.adminPassword = true
  inTime : r.now.ms / 1000 < input.now.ms / 1000 + env.adminSessionHours * 3600
  csrf : r.field "csrf" = input.csrf.text
  cookie : ∃ token rest, r.shown = some token ∧
    splitUnit (unit '.') token = splitUnit (unit '.') (makeAdminToken p env input) ++ rest

/-- The store is changed or something else is done. -/
def AdminActs (store : Store) (x : AdminReply × Store) : Prop :=
  x.2 ≠ store ∨ ∃ answer effects, x.1 = .acted answer effects

section Gates

variable {p : Platform} {upper : UpperCase} {env : ConsoleEnv} {pairingEnv : PairingEnv}
  {registry : Registry} {r : AdminRequest} {store : Store} {is : List AdminServerInput}

def adminTrace (p : Platform) (upper : UpperCase) (env : ConsoleEnv) (pairingEnv : PairingEnv)
    (registry : Registry) (is : List AdminServerInput) : ConsoleTrace :=
  ((adminServer p upper env pairingEnv registry).trace is).filterMap consolePart

theorem acts_of_isActed {x : AdminReply × Store} {answer : AdminResponse}
    {effects : List AdminEffect} (h : x.1 = .acted answer effects) : AdminActs store x :=
  .inr ⟨answer, effects, h⟩

theorem withStore_acted {α : Type} (run : Except JsString α × Store)
    (k : α → AdminResponse × List AdminEffect) :
    ∃ answer effects, (withStore run k).1 = .acted answer effects := by
  obtain ⟨result, store⟩ := run
  cases result <;> exact ⟨_, _, rfl⟩

theorem controlTargetAction_acted (targetId : JsString) (enabled : Bool)
    (tool reason done : String) (closes : Bool) :
    ∃ answer effects, (controlTargetAction registry r store targetId enabled tool reason done
      closes).1 = .acted answer effects := by
  rw [controlTargetAction]
  split
  · exact ⟨_, _, rfl⟩
  · exact withStore_acted _ _

theorem probeFailed_acted (t : TargetConfig) (name : JsString) :
    ∃ answer effects, (probeFailed r t name store).1 = .acted answer effects := by
  rw [probeFailed]
  split <;> exact ⟨_, _, rfl⟩

theorem checkTargetAction_acted (targetId : JsString) (probe : ProbeResult) :
    ∃ answer effects, (checkTargetAction registry r store targetId probe).1 =
      .acted answer effects := by
  unfold checkTargetAction
  dsimp only
  split
  · exact ⟨_, _, rfl⟩
  · split_ifs
    · exact ⟨_, _, rfl⟩
    · split
      · exact probeFailed_acted _ _
      · split
        · exact probeFailed_acted _ _
        · exact ⟨_, _, rfl⟩

/-- Behind the gates every route answers. -/
theorem adminAct_acted (action : AdminAction) :
    ∃ answer effects, (adminAct p upper registry r store action).1 = .acted answer effects := by
  cases action with
  | logout => exact ⟨_, _, rfl⟩
  | approvePairing => exact withStore_acted _ _
  | revokeAgentDevice deviceId => exact withStore_acted _ _
  | revokeAll => exact withStore_acted _ _
  | revokeClient clientId => exact withStore_acted _ _
  | revokeSession sessionId => exact withStore_acted _ _
  | revokeTarget targetId => exact controlTargetAction_acted _ _ _ _ _ _
  | enableTarget targetId => exact controlTargetAction_acted _ _ _ _ _ _
  | checkTarget targetId probe => exact checkTargetAction_acted _ _

/-- A request is acted on exactly when its cookie has claims whose text its form has. -/
theorem adminActs_iff : AdminActs store (handleAdmin p upper env registry r store) ↔
    ∃ claims, readAdminClaims p env.oauth r.cookie r.now = some (some claims) ∧
      csrfMatches claims (r.field "csrf") = true := by
  have hrefused : ∀ refusal, ¬AdminActs store (.refused refusal, store) := by
    rintro refusal (hstore | ⟨answer, effects, hreply⟩)
    · exact hstore rfl
    · cases hreply
  rw [handleAdmin]
  cases hread : readAdminClaims p env.oauth r.cookie r.now with
  | none => simpa using hrefused .malformed
  | some shown =>
      cases shown with
      | none => simpa using hrefused .login
      | some claims =>
          dsimp only
          split_ifs with hcsrf
          · obtain ⟨answer, effects, hacted⟩ :=
              @adminAct_acted p upper registry r store r.action
            exact iff_of_true (acts_of_isActed hacted) ⟨claims, rfl, hcsrf⟩
          · refine iff_of_false (hrefused .forbidden) ?_
            rintro ⟨claims', hclaims, hmatches⟩
            obtain rfl := Option.some.inj (Option.some.inj hclaims)
            exact hcsrf hmatches

theorem readAdminClaims_shown {claims : Json}
    (h : readAdminClaims p env.oauth r.cookie r.now = some (some claims)) :
    ∃ token, r.shown = some token ∧ readAdminToken p env.oauth token r.now = some claims := by
  rw [readAdminClaims] at h
  obtain ⟨cookies, hcookies, h⟩ := Option.map_eq_some_iff.mp h
  cases htoken : cookies.get? adminCookie with
  | none =>
      rw [htoken] at h
      cases h
  | some token =>
      rw [htoken] at h
      dsimp only at h
      split_ifs at h
      exact ⟨token, by rw [AdminRequest.shown, hcookies, Option.bind_some, htoken], h⟩

/-- What a login issues in a run. -/
theorem login_of_trace {input : LoginInput} {t : JsString}
    (h : (.login input, .cookie t) ∈ adminTrace p upper env pairingEnv registry is) :
    (∃ attempt, .login attempt input ∈ is) ∧
      safeEqual (input.form.text (js "password") []) env.adminPassword = true ∧
        t = makeAdminToken p env input := by
  obtain ⟨⟨i, reply⟩, hmem, hpart⟩ := List.mem_filterMap.mp h
  obtain ⟨pre, post, rfl, hreply⟩ := (Machine.mem_trace_iff _).mp hmem
  cases i with
  | oauth i =>
      cases reply with
      | console reply => cases hpart
      | _ => cases hpart
  | login attempt input' =>
      have hanswer : (adminServer p upper env pairingEnv registry).answer pre
          (.login attempt input') = (AdminServerInput.step p upper env pairingEnv registry
            ((adminServer p upper env pairingEnv registry).after pre) (.login attempt input')).1 :=
        rfl
      rw [hanswer, AdminServerInput.step] at hreply
      dsimp only at hreply
      split_ifs at hreply
      · rw [← hreply, ConsoleInput.step] at hpart
        obtain ⟨hinput, hcookie⟩ := Prod.mk.inj (Option.some.inj hpart)
        obtain rfl := ConsoleInput.login.inj hinput
        split_ifs at hcookie with hpassword
        exact ⟨⟨attempt, by simp⟩, hpassword, (ConsoleReply.cookie.inj hcookie).symm⟩
      · rw [← hreply] at hpart
        cases hpart
  | action r => cases hpart
  | other i => cases hpart

/-- The text of a login is told from every other. -/
theorem csrfMatches_iff (input : LoginInput) (token : JsString) :
    csrfMatches (input.claims env).json token = true ↔
      token = input.csrf.text ∧ input.csrf.text ≠ [] := by
  have hget : (input.claims env).json.get (js "csrf") = some (.str input.csrf.text) := rfl
  rw [csrfMatches, hget]
  dsimp only
  rw [Bool.and_eq_true, Bool.not_eq_true', List.isEmpty_eq_false_iff, safeEqual, decide_eq_true_eq]
  constructor
  · rintro ⟨hne, hsame⟩
    have heq : input.csrf.text = token :=
      eq_of_toChars_eq (fun u hu => isAscii_of_isBase64url (input.csrf.isBase64url u hu))
        (toChars_eq_of_utf8_eq hsame.symm)
    exact ⟨heq.symm, heq ▸ hne⟩
  · rintro ⟨rfl, hne⟩
    exact ⟨hne, rfl⟩

theorem inTime_iff (input : LoginInput) (now : TimeValue) :
    (now.seconds 0 no_offset_inRange).lt (input.claims env).exp = true ↔
      now.ms / 1000 < input.now.ms / 1000 + env.adminSessionHours * 3600 := by
  rw [TimeValue.seconds, LoginInput.claims, lt_ofInt, decide_eq_true_eq, add_zero]

/-- Whatever the console does, it does for somebody who has signed in with the password in the last
hours of a session and has read its pages. -/
theorem adminActs_login (p : Platform) (upper : UpperCase) (env : ConsoleEnv)
    (pairingEnv : PairingEnv) (registry : Registry) (is : List AdminServerInput) (r : AdminRequest)
    (hp : p.Lawful)
    (hunforged : ∀ token, r.shown = some token →
      Unforged p env (adminTrace p upper env pairingEnv registry is) token)
    (hacts : AdminActs ((adminServer p upper env pairingEnv registry).after is).store
      (handleAdmin p upper env registry r
        ((adminServer p upper env pairingEnv registry).after is).store)) :
    ∃ attempt input, .login attempt input ∈ is ∧ StandsBehind p env input r := by
  obtain ⟨claims, hread, hcsrf⟩ := adminActs_iff.mp hacts
  obtain ⟨token, hshown, htoken⟩ := readAdminClaims_shown hread
  obtain ⟨input, t, hissued, rfl, hnow, rest, hsplit⟩ :=
    admin_issued hp (hunforged token hshown) htoken
  obtain ⟨⟨attempt, hlogin⟩, hpassword, -⟩ := login_of_trace hissued
  exact ⟨attempt, input, hlogin, hpassword, (inTime_iff input r.now).mp hnow,
    ((csrfMatches_iff input _).mp hcsrf).1, token, rest, hshown, hsplit⟩

theorem base64url_ne_nil (hp : p.Lawful) {bytes : ByteArray} (h : bytes ≠ ByteArray.empty) :
    base64url bytes ≠ [] := by
  intro hnil
  have hempty : base64url ByteArray.empty = [] := rfl
  apply h
  rw [← hp.fromBase64url_base64url bytes, hnil, ← hempty, hp.fromBase64url_base64url]

theorem adminBody_ne_nil (input : LoginInput) : adminBody (input.claims env) ≠ [] := by
  intro hnil
  have hhead := head_b64uJson (input.claims env).props
  rw [← AdminClaims.json, ← adminBody, hnil] at hhead
  cases hhead

/-- A cookie of a login is read until it expires. -/
theorem readAdminToken_makeAdminToken (hp : p.Lawful)
    (hhmac : ∀ value, p.hmacSha256 env.oauth.authSecret value ≠ ByteArray.empty)
    (input : LoginInput) (now : TimeValue) :
    readAdminToken p env.oauth (makeAdminToken p env input) now =
      if now.ms / 1000 < input.now.ms / 1000 + env.adminSessionHours * 3600 then
        some (input.claims env).json else none := by
  have hbody : (adminBody (input.claims env)).isEmpty = false :=
    List.isEmpty_eq_false_iff.mpr (adminBody_ne_nil input)
  have hsign : (adminSign p env.oauth (adminBody (input.claims env))).isEmpty = false :=
    List.isEmpty_eq_false_iff.mpr (base64url_ne_nil hp (hhmac _))
  have hsame : safeEqual (adminSign p env.oauth (adminBody (input.claims env)))
      (adminSign p env.oauth (adminBody (input.claims env))) = true := decide_eq_true rfl
  have hexp : numOrNaN ((input.claims env).json.get (js "exp")) = some (input.claims env).exp := rfl
  have hcsrf : (input.claims env).json.get (js "csrf") = some (.str input.csrf.text) := rfl
  rw [readAdminToken, splitUnit_makeAdminToken]
  dsimp only
  rw [hbody, hsign, hsame, parse_adminBody hp, Bool.not_true, Bool.or_false, Bool.or_false,
    if_neg Bool.false_ne_true]
  dsimp only
  rw [hexp, hcsrf]
  dsimp only
  by_cases hnow : now.ms / 1000 < input.now.ms / 1000 + env.adminSessionHours * 3600
  · rw [if_pos hnow, if_pos ((inTime_iff input now).mpr hnow)]
  · rw [if_neg hnow, if_neg fun h => hnow ((inTime_iff input now).mp h)]

theorem readAdminClaims_of_shown {t : JsString} (hshown : r.shown = some t) (ht : t ≠ []) :
    readAdminClaims p env.oauth r.cookie r.now = some (readAdminToken p env.oauth t r.now) := by
  obtain ⟨cookies, hcookies, htoken⟩ := Option.bind_eq_some_iff.mp hshown
  rw [readAdminClaims, hcookies, Option.map_some, htoken]
  dsimp only
  rw [if_neg (by simpa using ht)]

/-- Its cookie and its text are what a request needs. -/
theorem adminActs_of_cookie (hp : p.Lawful)
    (hhmac : ∀ value, p.hmacSha256 env.oauth.authSecret value ≠ ByteArray.empty)
    {input : LoginInput} (hshown : r.shown = some (makeAdminToken p env input)) :
    AdminActs store (handleAdmin p upper env registry r store) ↔
      r.now.ms / 1000 < input.now.ms / 1000 + env.adminSessionHours * 3600 ∧
        r.field "csrf" = input.csrf.text ∧ input.csrf.text ≠ [] := by
  have htoken : makeAdminToken p env input ≠ [] := by
    rw [makeAdminToken, List.append_assoc]
    exact List.append_ne_nil_of_left_ne_nil (adminBody_ne_nil input) _
  rw [adminActs_iff, readAdminClaims_of_shown hshown htoken,
    readAdminToken_makeAdminToken hp hhmac]
  constructor
  · rintro ⟨claims, hread, hcsrf⟩
    have hclaims := Option.some.inj hread
    split_ifs at hclaims with hnow
    obtain rfl := Option.some.inj hclaims
    exact ⟨hnow, (csrfMatches_iff input _).mp hcsrf⟩
  · rintro ⟨hnow, hcsrf⟩
    rw [if_pos hnow]
    exact ⟨_, rfl, (csrfMatches_iff input _).mpr hcsrf⟩

/-- The cookie of a login works until it expires and with its own text, wherever the run has come
to; a logout or a restart in between does not end it. -/
theorem cookie_works_iff (p : Platform) (upper : UpperCase) (env : ConsoleEnv)
    (pairingEnv : PairingEnv) (registry : Registry) (is : List AdminServerInput) (r : AdminRequest)
    (input : LoginInput) (t : JsString) (hp : p.Lawful)
    (hhmac : ∀ value, p.hmacSha256 env.oauth.authSecret value ≠ ByteArray.empty)
    (hissued : (.login input, .cookie t) ∈ adminTrace p upper env pairingEnv registry is)
    (hshown : r.shown = some t) :
    AdminActs ((adminServer p upper env pairingEnv registry).after is).store
        (handleAdmin p upper env registry r
          ((adminServer p upper env pairingEnv registry).after is).store) ↔
      r.now.ms / 1000 < input.now.ms / 1000 + env.adminSessionHours * 3600 ∧
        r.field "csrf" = input.csrf.text ∧ input.csrf.text ≠ [] := by
  obtain ⟨-, -, rfl⟩ := login_of_trace hissued
  exact adminActs_of_cookie hp hhmac hshown

end Gates

/-! ## Passwords -/

section Passwords

variable {p : Platform} {upper : UpperCase} {env : ConsoleEnv} {pairingEnv : PairingEnv}
  {registry : Registry} {is : List AdminServerInput}

/-- An attempt whose password is compared. -/
def comparedAt (key : JsString) : AdminServerInput × AdminReply → Option ℤ
  | (.login attempt _, .console _) => if attempt.key = key then some attempt.now else none
  | _ => none

/-- When passwords of an address were compared. -/
def passwordTimes (p : Platform) (upper : UpperCase) (env : ConsoleEnv) (pairingEnv : PairingEnv)
    (registry : Registry) (key : JsString) (is : List AdminServerInput) : List ℤ :=
  ((adminServer p upper env pairingEnv registry).trace is).filterMap (comparedAt key)

def AdminServerInput.attempt : AdminServerInput → Option LimitedRequest
  | .login attempt _ => some attempt
  | _ => none

def loginAttempts (is : List AdminServerInput) : List LimitedRequest :=
  is.filterMap AdminServerInput.attempt

/-- The limiter of the login with a bound on the addresses that a run does not reach. -/
def loginLimiter (n : ℕ) : Limiter := ⟨10, 5 * 60000, n⟩

theorem keys_passLogin (hits : Hits) (r : LimitedRequest) :
    (passLogin hits r).2.keys.length ≤ hits.keys.length + 1 := by
  rw [passLogin]
  split_ifs
  · exact Nat.le_succ _
  · rw [OrderedMap.keys_set]
    split_ifs
    · exact Nat.le_succ _
    · rw [List.length_append, List.length_singleton]

theorem pass_loginLimiter {n : ℕ} {hits : Hits} {r : LimitedRequest} (h : hits.keys.length < n) :
    (loginLimiter n).pass hits r = passLogin hits r := by
  have hkeys := keys_passLogin hits r
  rw [passLogin] at hkeys ⊢
  have hactive : (loginLimiter n).active r.now (hitsOf hits r.key) =
    (hitsOf hits r.key).filter fun x => r.now - x < 5 * 60000 := rfl
  have hmax : (loginLimiter n).max = 10 := rfl
  have hbound : (loginLimiter n).maxAddresses = n := rfl
  rw [Limiter.pass, hactive, hmax, hbound]
  by_cases hfull : 10 ≤ ((hitsOf hits r.key).filter fun x => r.now - x < 5 * 60000).length
  · rw [if_pos hfull, if_pos hfull]
  · rw [if_neg hfull] at hkeys
    rw [if_neg hfull, if_neg hfull]
    exact congrArg (Prod.mk true) (if_neg (not_lt.mpr (hkeys.trans h)))

/-- The limiter looks at the attempts only. -/
theorem hits_step (s : AdminServer) (i : AdminServerInput) :
    (AdminServerInput.step p upper env pairingEnv registry s i).2.hits =
      i.attempt.elim s.hits fun attempt => (passLogin s.hits attempt).2 := by
  cases i with
  | login attempt input =>
      rw [AdminServerInput.step]
      dsimp only
      split_ifs <;> rfl
  | _ => rfl

theorem loginAttempts_concat (is : List AdminServerInput) (i : AdminServerInput) :
    loginAttempts (is ++ [i]) = loginAttempts is ++ i.attempt.toList := by
  rw [loginAttempts, List.filterMap_append, loginAttempts]
  cases h : i.attempt <;> simp [h]

theorem keys_after (is : List AdminServerInput) :
    ((adminServer p upper env pairingEnv registry).after is).hits.keys.length ≤
      (loginAttempts is).length := by
  induction is using List.reverseRecOn with
  | nil => exact le_rfl
  | append_singleton is i ih =>
      have hstep : ((adminServer p upper env pairingEnv registry).after (is ++ [i])).hits =
          i.attempt.elim ((adminServer p upper env pairingEnv registry).after is).hits
            fun attempt => (passLogin
              ((adminServer p upper env pairingEnv registry).after is).hits attempt).2 := by
        rw [Machine.after_concat]
        exact hits_step _ i
      rw [hstep, loginAttempts_concat, List.length_append]
      cases i.attempt with
      | none => exact ih.trans (Nat.le_add_right _ _)
      | some attempt => exact (keys_passLogin _ _).trans (Nat.add_le_add_right ih 1)

/-- The map of the limiter is that of one that is cleared, as long as there are few attempts. -/
theorem hits_after {n : ℕ} (h : (loginAttempts is).length ≤ n) :
    ((adminServer p upper env pairingEnv registry).after is).hits =
      (loginLimiter n).machine.after (loginAttempts is) := by
  induction is using List.reverseRecOn with
  | nil => rfl
  | append_singleton is i ih =>
      rw [loginAttempts_concat] at h ⊢
      have hstep : ((adminServer p upper env pairingEnv registry).after (is ++ [i])).hits =
          i.attempt.elim ((adminServer p upper env pairingEnv registry).after is).hits
            fun attempt => (passLogin
              ((adminServer p upper env pairingEnv registry).after is).hits attempt).2 := by
        rw [Machine.after_concat]
        exact hits_step _ i
      have hkeys := @keys_after p upper env pairingEnv registry is
      rw [hstep]
      cases hattempt : i.attempt with
      | none =>
          rw [hattempt] at h
          rw [Option.toList_none, List.append_nil]
          exact ih (by simpa using h)
      | some attempt =>
          rw [hattempt, List.length_append] at h
          have hroom : (loginAttempts is).length < n := h
          rw [Option.toList_some, Machine.after_concat, ← ih hroom.le]
          exact congrArg Prod.snd (pass_loginLimiter (hkeys.trans_lt hroom)).symm

/-- The passwords that are compared are the attempts that the limiter lets through. -/
theorem passwordTimes_eq {n : ℕ} (h : (loginAttempts is).length ≤ n) (key : JsString) :
    passwordTimes p upper env pairingEnv registry key is =
      (loginLimiter n).admittedTimes key (loginAttempts is) := by
  induction is using List.reverseRecOn with
  | nil => rfl
  | append_singleton is i ih =>
      rw [loginAttempts_concat] at h ⊢
      have hbefore : (loginAttempts is).length ≤ n :=
        (List.length_append ▸ Nat.le_add_right _ _ : _ ≤ _).trans h
      have hsplit : passwordTimes p upper env pairingEnv registry key (is ++ [i]) =
          passwordTimes p upper env pairingEnv registry key is ++
            (comparedAt key
              (i, (adminServer p upper env pairingEnv registry).answer is i)).toList := by
        rw [passwordTimes, Machine.trace_concat, List.filterMap_append, passwordTimes]
        cases hcompared : comparedAt key
          (i, (adminServer p upper env pairingEnv registry).answer is i) <;> simp [hcompared]
      rw [hsplit]
      cases i with
      | login attempt input =>
          rw [AdminServerInput.attempt, List.length_append] at h
          have hroom : (loginAttempts is).length < n := h
          have hpass : (loginLimiter n).machine.answer (loginAttempts is) attempt =
              (passLogin
                ((adminServer p upper env pairingEnv registry).after is).hits attempt).1 := by
            have hkeys := @keys_after p upper env pairingEnv registry is
            rw [hits_after hroom.le] at hkeys ⊢
            exact congrArg Prod.fst (pass_loginLimiter (hkeys.trans_lt hroom))
          have hanswer : (adminServer p upper env pairingEnv registry).answer is
              (.login attempt input) = (AdminServerInput.step p upper env pairingEnv registry
                ((adminServer p upper env pairingEnv registry).after is)
                (.login attempt input)).1 :=
            rfl
          rw [ih hroom.le, AdminServerInput.attempt, Option.toList_some,
            Limiter.admittedTimes_concat, hpass, hanswer, AdminServerInput.step]
          dsimp only
          cases hpasses : (passLogin ((adminServer p upper env pairingEnv registry).after is).hits
              attempt).1 with
          | false => simp [comparedAt]
          | true =>
              by_cases hkey : attempt.key = key <;> simp [comparedAt, hkey]
      | oauth _ =>
          exact (List.append_nil _).trans ((ih hbefore).trans (congrArg _ (List.append_nil _).symm))
      | action _ =>
          exact (List.append_nil _).trans ((ih hbefore).trans (congrArg _ (List.append_nil _).symm))
      | other _ =>
          exact (List.append_nil _).trans ((ih hbefore).trans (congrArg _ (List.append_nil _).symm))

theorem keys_pass_le (l : Limiter) (hits : Hits) (r : LimitedRequest) :
    (l.pass hits r).2.keys.length ≤ hits.keys.length + 1 := by
  obtain ⟨-, hresult⟩ | ⟨-, ⟨hresult, -⟩ | ⟨hresult, -⟩⟩ := l.pass_cases hits r
  · rw [hresult]
    exact Nat.le_succ _
  · rw [hresult]
    exact Nat.zero_le _
  · rw [hresult, OrderedMap.keys_set]
    split_ifs
    · exact Nat.le_succ _
    · rw [List.length_append, List.length_singleton]

theorem keys_limiter_after (l : Limiter) (rs : List LimitedRequest) :
    (l.machine.after rs).keys.length ≤ rs.length := by
  induction rs using List.reverseRecOn with
  | nil => exact le_rfl
  | append_singleton rs r ih =>
      rw [Machine.after_concat, List.length_append]
      exact (keys_pass_le l _ r).trans (Nat.add_le_add_right ih 1)

/-- Nothing is forgotten with room for every attempt. -/
theorem along_remembers (l : Limiter) {rs : List LimitedRequest} (h : rs.length ≤ l.maxAddresses) :
    l.machine.Along (fun hits r => l.Remembers hits r) rs := by
  rintro pre r post rfl
  have hkeys := keys_limiter_after l pre
  rw [List.length_append, List.length_cons] at h
  exact .inr (by omega)

/-- For one address ten passwords are compared in five minutes at most. -/
theorem passwords_bounded (p : Platform) (upper : UpperCase) (env : ConsoleEnv)
    (pairingEnv : PairingEnv) (registry : Registry) (is : List AdminServerInput)
    (hascending : Ascending (fun r : LimitedRequest => [r.now]) (loginAttempts is))
    (key : JsString) (start : ℤ) :
    ((passwordTimes p upper env pairingEnv registry key is).filter fun t =>
      decide (start ≤ t ∧ t < start + 5 * 60000)).length ≤ 10 := by
  have hroom : (loginAttempts is).length ≤ (loginLimiter (loginAttempts is).length).maxAddresses :=
    le_rfl
  rw [passwordTimes_eq le_rfl]
  exact Limiter.bounded_after ⟨hascending, along_remembers _ hroom⟩ key start

end Passwords

/-! ## A run -/

def adminLogin : LoginInput := ⟨[(js "password", js "administrator")], sampleTime, textB⟩

/-- The administrator signs in. -/
def adminRun : List AdminServerInput := [.login ⟨some (js "203.0.113.7"), 1000⟩ adminLogin]

def adminCookieText : JsString := makeAdminToken samplePlatform sampleConsoleEnv adminLogin

/-- and signs out, with the form of a page that was read before. -/
def adminRequest : AdminRequest where
  cookie := adminCookie ++ js "=" ++ adminCookieText
  form := [(js "csrf", js "B")]
  now := sampleTime
  storeNow := 1000
  writes := true
  action := .logout

theorem shown_adminRequest : adminRequest.shown = some adminCookieText := by decide +kernel

theorem issued_adminRun : (.login adminLogin, .cookie adminCookieText) ∈
    adminTrace samplePlatform sampleUpper sampleConsoleEnv samplePairingEnv [] adminRun :=
  List.mem_singleton_self _

theorem sampleHmac_ne_empty (value : JsString) :
    samplePlatform.hmacSha256 sampleConsoleEnv.oauth.authSecret value ≠ ByteArray.empty := by
  intro h
  have hsize : (1 : ℕ) = 0 := congrArg ByteArray.size h
  cases hsize

theorem cookie_works_iff_logout :
    AdminActs ((adminServer samplePlatform sampleUpper sampleConsoleEnv samplePairingEnv []).after
        adminRun).store
      (handleAdmin samplePlatform sampleUpper sampleConsoleEnv [] adminRequest
        ((adminServer samplePlatform sampleUpper sampleConsoleEnv samplePairingEnv []).after
          adminRun).store) :=
  (cookie_works_iff samplePlatform sampleUpper sampleConsoleEnv samplePairingEnv [] adminRun
    adminRequest adminLogin adminCookieText samplePlatform_lawful sampleHmac_ne_empty
    issued_adminRun shown_adminRequest).mpr (by decide +kernel)

theorem adminActs_login_logout :
    ∃ attempt input, .login attempt input ∈ adminRun ∧
      StandsBehind samplePlatform sampleConsoleEnv input adminRequest := by
  refine adminActs_login samplePlatform sampleUpper sampleConsoleEnv samplePairingEnv [] adminRun
    adminRequest samplePlatform_lawful (fun token htoken => ?_)
    ((adminActs_of_cookie samplePlatform_lawful sampleHmac_ne_empty shown_adminRequest).mpr
      (by decide +kernel))
  obtain rfl := Option.some.inj (shown_adminRequest.symm.trans htoken)
  have hsigned : ∀ m ∈ verifiedMessages samplePlatform sampleConsoleEnv.oauth adminCookieText,
      m ∈ signedMessages sampleConsoleEnv
        (adminTrace samplePlatform sampleUpper sampleConsoleEnv samplePairingEnv [] adminRun) := by
    decide +kernel
  exact fun m hm => ⟨m, hsigned m hm, rfl⟩

theorem passwords_bounded_adminRun :
    ((passwordTimes samplePlatform sampleUpper sampleConsoleEnv samplePairingEnv []
      (js "203.0.113.7") adminRun).filter fun t =>
        decide ((0 : ℤ) ≤ t ∧ t < 0 + 5 * 60000)).length ≤ 10 :=
  passwords_bounded samplePlatform sampleUpper sampleConsoleEnv samplePairingEnv [] adminRun
    (by unfold Ascending; decide) _ 0

end RemoteOps

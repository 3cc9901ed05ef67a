import RemoteOps.Ecma.Buffer
import RemoteOps.State.Store
import RemoteOps.Transition.Machine

/-!
# The OAuth endpoints

Registration, `/authorize/submit`, both grants of `/token`, bearer verification,
the housekeeping and revocation calls of the store, and restarts, as one machine
over the store. What a request cannot choose comes with it as input: the random
texts it draws, every reading of the clock it takes, and whether each of its
writes succeeds.

Rate limiters only drop requests, so that the inputs here are the requests that
got past them. A request body that is a form maps each field to the values it was
sent with.
-/

namespace RemoteOps

open Ecma Transition

structure OAuthEnv where
  publicBaseUrl : JsString
  authSecret : JsString
  mcpPassword : JsString
  store : StoreEnv

def readScope : JsString := js "mcp:read"

def offlineScope : JsString := js "offline_access"

def fullScope : JsString := readScope ++ js " " ++ offlineScope

def accessTtlMs : ℤ := 3600 * 1000

def refreshTtlMs : ℤ := 30 * 24 * 3600 * 1000

def codeTtlMs : ℤ := 600 * 1000

/-- `MCP_RESOURCE`. -/
def OAuthEnv.mcpResource (env : OAuthEnv) : JsString := env.publicBaseUrl ++ js "/mcp"

/-! ## Random ids -/

def randomId (kind : String) (r : RandomText) : JsString := js kind ++ js "-" ++ r.text

/-! ## Forms -/

/-- A decoded form: its fields in order. -/
abbrev Form := List (JsString × JsString)

def Form.values (form : Form) (name : JsString) : List JsString :=
  form.filterMap fun p => if p.1 = name then some p.2 else none

/-- `String(body[name] ?? default)`; a repeated field is an array. -/
def Form.text (form : Form) (name default : JsString) : JsString :=
  match form.values name with
  | [] => default
  | vs => join (js ",") vs

/-! ## Checks -/

/-- Equality of the UTF-8 bytes. -/
def safeEqual (a b : JsString) : Bool := utf8 a = utf8 b

def pkceChallengeS256 (p : Platform) (verifier : JsString) : JsString :=
  base64url (p.sha256 (utf8 verifier))

def validRedirectUri (p : Platform) (uri : JsString) : Bool :=
  match p.parseUrl uri with
  | none => false
  | some u =>
      u.protocol = js "https:" ||
        (u.protocol = js "http:" &&
          (u.hostname = js "localhost" || u.hostname = js "127.0.0.1" || u.hostname = js "[::1]"))

def validRedirect (p : Platform) (client : StoredClient) (uri : JsString) : Bool :=
  !uri.isEmpty && client.redirectUris.contains uri && validRedirectUri p uri

/-- `normalizeResource` of a text, or of a value that is no text. -/
def normalizeResource (env : OAuthEnv) (raw : Option JsString) : Option JsString :=
  let resource :=
    match raw with
    | some s => if (trim s).isEmpty then env.mcpResource else trim s
    | none => env.mcpResource
  if resource ≠ env.mcpResource then none else some resource

/-- `s.split(/\s+/)` of a trimmed text. -/
def words (s : JsString) : List JsString := (s.splitOnP isWhite).filter fun w => !w.isEmpty

def normalizeScope (raw : JsString) : Option JsString :=
  if (trim raw).isEmpty then some fullScope
  else
    let requested := words (trim raw)
    if readScope ∉ requested then none
    else if requested.all fun s => s = readScope || s = offlineScope then some fullScope
    else none

/-! ## Access tokens -/

def b64uJson (x : Json) : JsString := base64url (textBytes x.stringify)

def signAccessToken (p : Platform) (env : OAuthEnv) (payload : List (JsString × Json))
    (resource : JsString) : JsString :=
  let header := b64uJson (.obj [(js "alg", .str (js "HS256")), (js "typ", .str (js "JWT"))])
  let body := b64uJson (.obj (fromEntries (payload ++
    [(js "iss", .str env.publicBaseUrl), (js "aud", .str resource), (js "scope", .str fullScope)])))
  let data := header ++ js "." ++ body
  data ++ js "." ++ base64url (p.hmacSha256 env.authSecret data)

/-- `typeof x === "string" ? x : ""`. -/
def textOrEmpty : Option Json → JsString
  | some (.str s) => s
  | _ => []

def isText (x : Option Json) (s : JsString) : Bool :=
  match x with
  | some (.str t) => t = s
  | _ => false

/-- The time checks: `exp` is a number after now, `iat` one that is at most a
minute ahead. -/
def payloadIsCurrent (payload : Json) (now : TimeValue) : Bool :=
  match payload.get (js "exp"), payload.get (js "iat") with
  | some (.num exp), some (.num iat) =>
      (now.seconds 0 (by decide)).lt exp && !(now.seconds 60000 (by decide)).lt iat
  | _, _ => false

/-- The clock is read for the time checks and again for the session. -/
def verifyAccessToken (p : Platform) (env : OAuthEnv) (token : JsString)
    (now active : TimeValue) (live : Live) : Option Json :=
  match splitUnit (unit '.') token with
  | [header, body, signature] =>
      if p.fromBase64url signature ≠ p.hmacSha256 env.authSecret (header ++ js "." ++ body) then
        none
      else
        match parse (p.fromUtf8 (p.fromBase64url body)) with
        | none => none
        | some payload =>
            let cid := textOrEmpty (payload.get (js "cid"))
            let sid := textOrEmpty (payload.get (js "sid"))
            if payloadIsCurrent payload now &&
                isText (payload.get (js "iss")) env.publicBaseUrl &&
                isText (payload.get (js "aud")) env.mcpResource &&
                !cid.isEmpty && !sid.isEmpty && sessionIsActive sid cid active.ms live then
              some payload
            else none
  | _ => none

/-! ## Replies -/

/-- The answer of `/token`. The client and the session are those the access token
is signed for. -/
structure TokenResponse where
  clientId : JsString
  sessionId : JsString
  accessToken : JsString
  refreshToken : JsString
  deriving DecidableEq

/-- What `requireBearer` leaves on the request. -/
structure BearerIdentity where
  actor : JsString
  oauthClientId : JsString
  oauthSessionId : JsString
  deriving DecidableEq

inductive OAuthReply where
  | refused (status : ℕ) (error : JsString)
  /-- an exception, which the server answers with status 500 -/
  | failed (message : JsString)
  | registered (client : StoredClient)
  | redirected (redirectUri code state : JsString)
  | tokens (response : TokenResponse)
  | authorized (identity : BearerIdentity)
  | returned (found : Bool)
  | done
  deriving DecidableEq

/-! ## Registration -/

/-- Whether a value counts as true. -/
def truthy : Json → Bool
  | .null => false
  | .bool b => b
  | .num x => x ≠ JsNumber.nan && x ≠ JsNumber.ofInt 0 inRange_zero
  | .str s => !s.isEmpty
  | _ => true

/-- `body[name] && body[name] !== "none"` for the authentication method. -/
def authMethodRefused (body : Json) : Bool :=
  match body.get (js "token_endpoint_auth_method") with
  | some (.str s) => !s.isEmpty && s != js "none"
  | some x => truthy x
  | none => false

structure RegisterInput where
  body : Json
  id : RandomText
  created : TimeValue
  pruned : TimeValue
  writes : Bool

def invalidRedirectUri : OAuthReply := .refused 400 (js "invalid_redirect_uri")

def RegisterInput.client (input : RegisterInput) (uris : List JsString) : StoredClient where
  clientId := randomId "ro" input.id
  clientName :=
    match input.body.get (js "client_name") with
    | some (.str s) => some (s.take 100)
    | _ => none
  redirectUris := uris
  createdAt := input.created.ms

def register (p : Platform) (env : OAuthEnv) (input : RegisterInput) (store : Store) :
    OAuthReply × Store :=
  match input.body.get (js "redirect_uris") with
  | some (.arr items) =>
      if items.length = 0 ∨ 5 < items.length then (invalidRedirectUri, store)
      else
        match items.mapM Json.toStr with
        | none => (.failed typeError, store)
        | some uris =>
            if uris.any fun uri => !validRedirectUri p uri then (invalidRedirectUri, store)
            else if authMethodRefused input.body then
              (.refused 400 (js "invalid_client_metadata"), store)
            else
              match store.run (registerClient env.store (input.client uris) input.pruned.ms)
                input.writes with
              | (.error e, store) => (.failed e, store)
              | (.ok false, store) => (.refused 429 (js "temporarily_unavailable"), store)
              | (.ok true, store) => (.registered (input.client uris), store)
  | _ => (invalidRedirectUri, store)

/-! ## Authorization -/

structure SubmitInput where
  form : Form
  code : RandomText
  now : TimeValue
  writes : Bool

def SubmitInput.clientId (input : SubmitInput) : JsString := input.form.text (js "client_id") []

def SubmitInput.redirectUri (input : SubmitInput) : JsString :=
  input.form.text (js "redirect_uri") []

def SubmitInput.codeChallenge (input : SubmitInput) : JsString :=
  input.form.text (js "code_challenge") []

def SubmitInput.resource (env : OAuthEnv) (input : SubmitInput) : JsString :=
  input.form.text (js "resource") env.mcpResource

def invalidRequest : OAuthReply := .refused 400 (js "invalid_request")

/-- The record that a granted request stores; the store fills in the hash. -/
def SubmitInput.authCode (env : OAuthEnv) (input : SubmitInput) (client : StoredClient) :
    StoredAuthCode where
  codeHash := []
  clientId := client.clientId
  redirectUri := input.redirectUri
  challenge := input.codeChallenge
  resource := some (input.resource env)
  expiresAt := input.now.ms + codeTtlMs

/-- An object outside the table owns no `redirect_uris`: reading a member of it
throws. -/
def authorizeSubmit (p : Platform) (env : OAuthEnv) (input : SubmitInput) (store : Store) :
    OAuthReply × Store :=
  match store.live.realm.slot store.live.state.clients input.clientId with
  | .absent => (invalidRequest, store)
  | .own client =>
      if store.live.realm.isRevoked client.revokedAt ∨
          validRedirect p client input.redirectUri = false ∨
          input.form.text (js "code_challenge_method") [] ≠ js "S256" ∨
          input.codeChallenge.length < 43 then
        (invalidRequest, store)
      else if normalizeScope (input.form.text (js "scope") fullScope) = none ∨
          normalizeResource env (some (input.resource env)) = none then
        (.refused 400 (js "invalid_scope_or_resource"), store)
      else if safeEqual (input.form.text (js "password") []) env.mcpPassword = false then
        (.refused 401 (js "wrong_password"), store)
      else
        match store.run
          (putAuthCode p.digest (randomId "code" input.code) (input.authCode env client))
          input.writes with
        | (.error e, store) => (.failed e, store)
        | (.ok _, store) =>
            (.redirected input.redirectUri (randomId "code" input.code)
              (input.form.text (js "state") []), store)
  | slot =>
      if store.live.realm.isRevoked (store.live.realm.ownRevokedAt slot) ∨
          input.redirectUri.isEmpty then
        (invalidRequest, store)
      else (.failed typeError, store)

/-! ## The token endpoint -/

structure TokenInput where
  form : Form
  /-- random texts of the session id, the refresh token and the access token's id -/
  session : RandomText
  refresh : RandomText
  access : RandomText
  /-- clock readings of `consumeAuthCode`, of the handler and of `tokenResponse` -/
  consumed : TimeValue
  now : TimeValue
  signed : TimeValue
  writesCode : Bool
  writesSession : Bool

def TokenInput.clientId (input : TokenInput) : JsString := input.form.text (js "client_id") []

def TokenInput.grantType (input : TokenInput) : JsString := input.form.text (js "grant_type") []

def TokenInput.code (input : TokenInput) : JsString := input.form.text (js "code") []

def TokenInput.verifier (input : TokenInput) : JsString := input.form.text (js "code_verifier") []

def TokenInput.redirectUri (input : TokenInput) : JsString :=
  input.form.text (js "redirect_uri") []

def TokenInput.refreshToken (input : TokenInput) : JsString :=
  input.form.text (js "refresh_token") []

/-- `normalizeResource(body.resource ?? fallback)`. -/
def TokenInput.resource (env : OAuthEnv) (input : TokenInput) (fallback : Option JsString) :
    Option JsString :=
  match input.form.values (js "resource") with
  | [] => normalizeResource env (some (fallback.getD env.mcpResource))
  | [s] => normalizeResource env (some s)
  | _ => normalizeResource env none

def TokenInput.newSessionId (input : TokenInput) : JsString := randomId "sess" input.session

def TokenInput.newRefreshToken (input : TokenInput) : JsString := randomId "rt" input.refresh

def tokenPayload (input : TokenInput) (clientId sessionId : JsString) : List (JsString × Json) :=
  [(js "cid", .str clientId), (js "sid", .str sessionId),
    (js "sub", .str (js "mcp-session:" ++ sessionId)), (js "jti", .str (randomId "at" input.access)),
    (js "iat", .num (input.signed.seconds 0 (by decide))),
    (js "exp", .num (input.now.seconds accessTtlMs (by decide)))]

def tokenResponse (p : Platform) (env : OAuthEnv) (input : TokenInput)
    (clientId sessionId resource : JsString) : TokenResponse where
  clientId := clientId
  sessionId := sessionId
  accessToken := signAccessToken p env (tokenPayload input clientId sessionId) resource
  refreshToken := input.newRefreshToken

def invalidGrant : OAuthReply := .refused 400 (js "invalid_grant")

def invalidTarget : OAuthReply := .refused 400 (js "invalid_target")

def TokenInput.newSession (p : Platform) (input : TokenInput) (clientId resource : JsString) :
    StoredSession where
  sessionId := input.newSessionId
  clientId := clientId
  createdAt := input.now.ms
  lastSeenAt := input.now.ms
  accessExpiresAt := input.now.ms + accessTtlMs
  refreshHash := p.digest input.newRefreshToken
  refreshExpiresAt := input.now.ms + refreshTtlMs
  resource := some resource

def issueNewSession (p : Platform) (env : OAuthEnv) (input : TokenInput)
    (clientId resource : JsString) (store : Store) : OAuthReply × Store :=
  match store.run (createSession (input.newSession p clientId resource)) input.writesSession with
  | (.error e, store) => (.failed e, store)
  | (.ok _, store) =>
      (.tokens (tokenResponse p env input clientId input.newSessionId resource), store)

/-- The code is used up before anything about it is checked. -/
def grantAuthorizationCode (p : Platform) (env : OAuthEnv) (input : TokenInput) (store : Store) :
    OAuthReply × Store :=
  match store.run (consumeAuthCode p.digest input.code input.consumed.ms) input.writesCode with
  | (.error e, store) => (.failed e, store)
  | (.ok code, store) =>
      match input.resource env (code.bind (·.resource)), code with
      | none, _ => (invalidTarget, store)
      | some _, none => (invalidGrant, store)
      | some resource, some code =>
          if code.clientId ≠ input.clientId ∨ code.redirectUri ≠ input.redirectUri ∨
              code.resource.getD env.mcpResource ≠ resource ∨ input.verifier.length < 43 ∨
              safeEqual (pkceChallengeS256 p input.verifier) code.challenge = false then
            (invalidGrant, store)
          else issueNewSession p env input input.clientId resource store

/-- The resource is checked after the token has been rotated. -/
def grantRefreshToken (p : Platform) (env : OAuthEnv) (input : TokenInput) (store : Store) :
    OAuthReply × Store :=
  match findSessionByRefreshToken p.digest input.refreshToken store.live with
  | none => (invalidGrant, store)
  | some session =>
      if session.clientId ≠ input.clientId ∨ store.live.realm.isRevoked session.revokedAt ∨
          session.refreshExpiresAt < input.now.ms then
        (invalidGrant, store)
      else
        match store.run
          (rotateRefreshToken p.digest session.sessionId input.newRefreshToken
            (input.now.ms + refreshTtlMs) (input.now.ms + accessTtlMs) input.now.ms)
          input.writesSession with
        | (.error e, store) => (.failed e, store)
        | (.ok false, store) => (invalidGrant, store)
        | (.ok true, store) =>
            match input.resource env session.resource with
            | none => (invalidTarget, store)
            | some resource =>
                if session.resource.getD env.mcpResource ≠ resource then (invalidTarget, store)
                else
                  (.tokens (tokenResponse p env input input.clientId session.sessionId resource),
                    store)

def token (p : Platform) (env : OAuthEnv) (input : TokenInput) (store : Store) :
    OAuthReply × Store :=
  if clientIsUsable input.clientId store.live = false then
    (.refused 400 (js "invalid_client"), store)
  else if input.grantType = js "authorization_code" then grantAuthorizationCode p env input store
  else if input.grantType = js "refresh_token" then grantRefreshToken p env input store
  else (.refused 400 (js "unsupported_grant_type"), store)

/-! ## Bearer requests -/

structure BearerInput where
  /-- the header `Authorization`, which holds no line terminator -/
  authorization : JsString
  now : TimeValue
  active : TimeValue
  touched : TimeValue
  writes : Bool

/-- `/^Bearer\s+(.+)$/i`, and the trimmed group. -/
def bearerToken (authorization : JsString) : Option JsString :=
  let word := authorization.take 6
  let rest := authorization.drop 6
  if asciiLower word = js "bearer" ∧ 2 ≤ rest.length ∧
      (rest.head?.any isWhite) = true then
    some (trim rest)
  else none

def unauthorized : OAuthReply := .refused 401 (js "unauthorized")

def requireBearer (p : Platform) (env : OAuthEnv) (input : BearerInput) (store : Store) :
    OAuthReply × Store :=
  match bearerToken input.authorization with
  | none => (unauthorized, store)
  | some accessToken =>
      match verifyAccessToken p env accessToken input.now input.active store.live with
      | none => (unauthorized, store)
      | some payload =>
          let cid := textOrEmpty (payload.get (js "cid"))
          let sid := textOrEmpty (payload.get (js "sid"))
          match store.run (touchSession sid input.touched.ms) input.writes with
          | (.error e, store) => (.failed e, store)
          | (.ok _, store) =>
              (.authorized ⟨js "oauth:" ++ cid ++ js ":" ++ sid.take 12, cid, sid⟩, store)

/-! ## The machine -/

inductive OAuthInput where
  | register (input : RegisterInput)
  | submit (input : SubmitInput)
  | token (input : TokenInput)
  | bearer (input : BearerInput)
  | touchSession (sessionId : JsString) (now : TimeValue) (writes : Bool)
  | purgeState (now : TimeValue) (writes : Bool)
  | revokeClient (clientId : JsString) (now : TimeValue) (writes : Bool)
  | revokeAllClients (now : TimeValue) (writes : Bool)
  | revokeSession (sessionId : JsString) (now : TimeValue) (writes : Bool)
  | revokeAllSessions (now : TimeValue) (writes : Bool)
  | revokeDevice (deviceId : JsString) (now : TimeValue) (writes : Bool)
  | restart (now : TimeValue)

/-- Run a call of the store and report how it ended. -/
def Store.call {α : Type} (store : Store) (op : Live → Effect α) (writes : Bool)
    (reply : α → OAuthReply) : OAuthReply × Store :=
  match store.run op writes with
  | (.error e, store) => (.failed e, store)
  | (.ok x, store) => (reply x, store)

def OAuthInput.step (p : Platform) (env : OAuthEnv) (store : Store) :
    OAuthInput → OAuthReply × Store
  | register input => RemoteOps.register p env input store
  | submit input => authorizeSubmit p env input store
  | token input => RemoteOps.token p env input store
  | bearer input => requireBearer p env input store
  | touchSession sessionId now writes =>
      store.call (RemoteOps.touchSession sessionId now.ms) writes fun _ => .done
  | purgeState now writes =>
      store.call (RemoteOps.purgeState env.store now.ms) writes fun _ => .done
  | revokeClient clientId now writes =>
      store.call (RemoteOps.revokeClient clientId now.ms) writes .returned
  | revokeAllClients now writes =>
      store.call (RemoteOps.revokeAllClients now.ms) writes fun _ => .done
  | revokeSession sessionId now writes =>
      store.call (RemoteOps.revokeSession sessionId now.ms) writes .returned
  | revokeAllSessions now writes =>
      store.call (RemoteOps.revokeAllSessions now.ms) writes fun _ => .done
  | revokeDevice deviceId now writes =>
      store.call (RemoteOps.revokeDevice deviceId now.ms) writes .returned
  | restart now => (.done, store.restart env.store now.ms)

def oauth (p : Platform) (env : OAuthEnv) : Machine Store OAuthInput OAuthReply where
  start := Store.initial
  step := OAuthInput.step p env

/-- The ids and tokens an input draws and may store. -/
def OAuthInput.names : OAuthInput → List JsString
  | register input => [randomId "ro" input.id]
  | submit input => [randomId "code" input.code]
  | token input => [input.newSessionId, input.newRefreshToken]
  | _ => []

/-- The clock readings of a revocation. -/
def OAuthInput.revocationTime : OAuthInput → Option ℤ
  | revokeClient _ now _ => some now.ms
  | revokeAllClients now _ => some now.ms
  | revokeSession _ now _ => some now.ms
  | revokeAllSessions now _ => some now.ms
  | revokeDevice _ now _ => some now.ms
  | _ => none

end RemoteOps

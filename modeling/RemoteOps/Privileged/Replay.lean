import RemoteOps.Privileged.Broker

/-!
# Executing a ticket at most once

What one request can do is said once, in `step_cases`: it leaves the replay file
alone and executes nothing, or it executes a ticket whose signature verified,
which was valid on the first clock reading, whose nonce had no truthy entry on
the second, and whose entry is now in the file.

The run invariant says of every ticket executed so far that its entry is in the
file, or that the clock has been seen more than the slack past its expiry. The
clock may go back by the slack and no further, so in the second case the ticket
never validates again.
-/

namespace RemoteOps

open Ecma Transition

/-! ## One step -/

theorem consumeNonce_ok {ticket : ManagedAdminTicketV1} {file file' : Option ReplayState} {now : ℤ}
    {persists : Bool} (h : consumeNonce ticket file now persists = (.ok (), file')) :
    (∀ e, (loadReplay file now).get? ticket.nonce = some e → e = 0) ∧
      file' = some ((loadReplay file now).set ticket.nonce ticket.expiry) := by
  unfold consumeNonce at h
  cases hentry : (loadReplay file now).get? ticket.nonce with
  | none =>
      simp only [hentry] at h
      split_ifs at h
      · exact ⟨by simp, (Prod.mk.inj h).2.symm⟩
      · exact absurd (Prod.mk.inj h).1 (by simp)
  | some expires =>
      simp only [hentry] at h
      split_ifs at h with hzero hpersists
      · exact absurd (Prod.mk.inj h).1 (by simp)
      · refine ⟨?_, (Prod.mk.inj h).2.symm⟩
        rintro e he
        rw [← Option.some.inj he]
        exact not_not.mp hzero
      · exact absurd (Prod.mk.inj h).1 (by simp)

theorem consumeNonce_error {ticket : ManagedAdminTicketV1} {file file' : Option ReplayState}
    {now : ℤ} {persists : Bool} {message : String}
    (h : consumeNonce ticket file now persists = (.error message, file')) : file' = file := by
  unfold consumeNonce at h
  cases hentry : (loadReplay file now).get? ticket.nonce with
  | none =>
      simp only [hentry] at h
      split_ifs at h
      · exact absurd (Prod.mk.inj h).1 (by simp)
      · exact (Prod.mk.inj h).2.symm
  | some expires =>
      simp only [hentry] at h
      split_ifs at h
      · exact (Prod.mk.inj h).2.symm
      · exact absurd (Prod.mk.inj h).1 (by simp)
      · exact (Prod.mk.inj h).2.symm

/-- What has happened when a request executes. -/
structure Executes (scheme : SignatureScheme) (config : BrokerConfig) (realpath : RealPath)
    (file : Option ReplayState) (raw : Json) (clock : RequestClock)
    (ticket : ManagedAdminTicketV1) (cwd : JsString) (file' : Option ReplayState) : Prop where
  normalised : requestTicket raw = .ok ticket
  verified : ∃ signature, strOrEmpty (raw.get (js "signature")) = some signature ∧
    verifyManagedAdminTicket scheme ticket signature = true
  valid : validateLocalAuthority config realpath ticket clock.validated = .ok cwd
  unseen : ∀ e, (loadReplay file clock.consumed).get? ticket.nonce = some e → e = 0
  recorded : file' = some ((loadReplay file clock.consumed).set ticket.nonce ticket.expiry)

theorem handleRequest_executed {scheme : SignatureScheme} {config : BrokerConfig}
    {realpath : RealPath} {file file' : Option ReplayState} {line : List Char}
    {clock : RequestClock} {persists : Bool} {ticket : ManagedAdminTicketV1} {cwd : JsString}
    (h : handleRequest scheme config realpath file line clock persists =
      (.executed ticket cwd, file')) :
    ∃ raw, parse line = some raw ∧
      Executes scheme config realpath file raw clock ticket cwd file' := by
  unfold handleRequest at h
  cases hparse : parse line with
  | none => simp [hparse] at h
  | some raw =>
      refine ⟨raw, rfl, ?_⟩
      simp only [hparse] at h
      cases hticket : requestTicket raw with
      | error m => simp [hticket] at h
      | ok t =>
          simp only [hticket] at h
          cases hsig : strOrEmpty (raw.get (js "signature")) with
          | none => simp [hsig] at h
          | some signature =>
              simp only [hsig] at h
              split_ifs at h with hverify
              · simp at h
              · cases hvalid : validateLocalAuthority config realpath t clock.validated with
                | error m => simp [hvalid] at h
                | ok real =>
                    simp only [hvalid] at h
                    cases hconsume : consumeNonce t file clock.consumed persists with
                    | mk result next =>
                        cases result with
                        | error m => simp [hconsume] at h
                        | ok _ =>
                            obtain ⟨hunseen, hrecorded⟩ := consumeNonce_ok hconsume
                            simp only [hconsume, Prod.mk.injEq, BrokerReply.executed.injEq] at h
                            obtain ⟨⟨rfl, rfl⟩, rfl⟩ := h
                            exact ⟨hticket, ⟨signature, hsig, by simpa using hverify⟩, hvalid,
                              hunseen, hrecorded⟩

theorem handleRequest_fail {scheme : SignatureScheme} {config : BrokerConfig}
    {realpath : RealPath} {file file' : Option ReplayState} {line : List Char}
    {clock : RequestClock} {persists : Bool} {code message : String}
    (h : handleRequest scheme config realpath file line clock persists =
      (.fail code message, file')) : file' = file := by
  unfold handleRequest at h
  split at h
  · exact (Prod.mk.inj h).2.symm
  · split at h
    · exact (Prod.mk.inj h).2.symm
    · split at h
      · exact (Prod.mk.inj h).2.symm
      · split_ifs at h
        · exact (Prod.mk.inj h).2.symm
        · split at h
          · exact (Prod.mk.inj h).2.symm
          · split at h
            · rename_i hconsume
              rw [← (Prod.mk.inj h).2]
              exact consumeNonce_error hconsume
            · exact absurd (Prod.mk.inj h).1 (by simp)

/-- What a step of the broker does. -/
theorem step_cases (scheme : SignatureScheme) (s : BrokerState) (i : BrokerInput) :
    ((∀ ticket cwd, (s.step scheme i).1 ≠ some (.executed ticket cwd)) ∧
      (s.step scheme i).2.replayFile = s.replayFile) ∨
    ∃ n chunk realpath clock persists raw ticket cwd,
      i = .data n chunk realpath clock persists ∧ (s.completes i).bind parse = some raw ∧
        (s.step scheme i).1 = some (.executed ticket cwd) ∧
        Executes scheme s.config realpath s.replayFile raw clock ticket cwd
          (s.step scheme i).2.replayFile := by
  cases i with
  | restart config => exact Or.inl ⟨by simp [BrokerState.step], rfl⟩
  | data n chunk realpath clock persists =>
      unfold BrokerState.step BrokerState.completes
      cases hreceive : (s.connections n).receive chunk with
      | mk received connection =>
          cases received with
          | nothing => exact Or.inl ⟨by simp [hreceive], by simp [hreceive]⟩
          | tooLarge => exact Or.inl ⟨by simp [hreceive], by simp [hreceive]⟩
          | line text =>
              cases hreply :
                handleRequest scheme s.config realpath s.replayFile text clock persists with
              | mk reply file =>
                  cases reply with
                  | fail code message =>
                      refine Or.inl ⟨by simp [hreceive, hreply], ?_⟩
                      simpa [hreceive, hreply] using handleRequest_fail hreply
                  | executed ticket cwd =>
                      obtain ⟨raw, hparse, hexec⟩ := handleRequest_executed hreply
                      refine Or.inr ⟨n, chunk, realpath, clock, persists, raw, ticket, cwd, rfl,
                        ?_, ?_, ?_⟩
                      · simpa [hreceive] using hparse
                      · simp [hreceive, hreply]
                      · simpa [hreceive, hreply] using hexec

/-- No reading is more than a minute behind an earlier one, and the two of one
request are at most a minute apart. -/
def ClockSlack (is : List BrokerInput) : Prop :=
  (is.flatMap BrokerInput.readings).Pairwise (fun earlier later => earlier - 60000 ≤ later) ∧
    ∀ i ∈ is, ∀ r ∈ i.readings, ∀ r' ∈ i.readings, r' - r ≤ 60000

theorem ClockSlack.le {is : List BrokerInput} {i : BrokerInput} (h : ClockSlack (is ++ [i]))
    {r r' : ℤ} (hr : r ∈ is.flatMap BrokerInput.readings) (hr' : r' ∈ i.readings) :
    r - 60000 ≤ r' := by
  have hpair := h.1
  rw [List.flatMap_append] at hpair
  exact (List.pairwise_append.mp hpair).2.2 r hr r' (by simpa using hr')

/-- The entry of the ticket is in the file. -/
def Remembered (file : Option ReplayState) (ticket : ManagedAdminTicketV1) : Prop :=
  ∃ nonces, file = some nonces ∧ nonces.get? ticket.nonce = some ticket.expiry

/-- The clock has been past the expiry by more than the slack. -/
def Outlived (is : List BrokerInput) (ticket : ManagedAdminTicketV1) : Prop :=
  ∃ r ∈ is.flatMap BrokerInput.readings, ticket.expiry < r - 60000

theorem Outlived.append {is : List BrokerInput} {ticket : ManagedAdminTicketV1}
    (h : Outlived is ticket) (i : BrokerInput) : Outlived (is ++ [i]) ticket := by
  obtain ⟨r, hr, hlt⟩ := h
  refine ⟨r, ?_, hlt⟩
  rw [List.flatMap_append]
  exact List.mem_append_left _ hr

/-- Loading the file keeps an entry, unless the reading is past its slack. -/
theorem Remembered.load {file : Option ReplayState} {ticket : ManagedAdminTicketV1}
    (h : Remembered file ticket) (now : ℤ) :
    (loadReplay file now).get? ticket.nonce = some ticket.expiry ∨
      ticket.expiry < now - 60000 := by
  obtain ⟨nonces, rfl, hentry⟩ := h
  rcases lt_or_ge ticket.expiry (now - 60000) with hlt | hge
  · exact Or.inr hlt
  · refine Or.inl ?_
    have hkeep : (!decide (ticket.expiry < now - replaySlackMs)) = true := by
      have hnot : ¬ticket.expiry < now - replaySlackMs := not_lt.mpr hge
      simp [hnot]
    rw [loadReplay, Option.getD_some, Record.get?_filter, hentry, Option.filter_some, if_pos hkeep]

/-- Recording another nonce keeps an entry, unless the reading is past its slack. -/
theorem Remembered.record {file file' : Option ReplayState} {ticket other : ManagedAdminTicketV1}
    {now : ℤ} (h : Remembered file ticket) (hzero : ticket.expiry ≠ 0)
    (hunseen : ∀ e, (loadReplay file now).get? other.nonce = some e → e = 0)
    (hrecorded : file' = some ((loadReplay file now).set other.nonce other.expiry)) :
    Remembered file' ticket ∨ ticket.expiry < now - 60000 := by
  rcases h.load now with hkept | hlt
  · refine Or.inl ⟨_, hrecorded, ?_⟩
    have hne : ticket.nonce ≠ other.nonce := by
      intro heq
      exact hzero (hunseen _ (heq ▸ hkept))
    rw [Record.get?_set_of_ne _ _ hne, hkept]
  · exact Or.inr hlt

/-- The line that forwards a signed ticket. -/
def requestLine (ticket : ManagedAdminTicketV1) (signature : JsString) : List Char :=
  Json.stringify (.obj [(js "ticket", ticket.toJson), (js "signature", .str signature)])

theorem parse_requestLine {ticket : ManagedAdminTicketV1} (ht : ticket.WellFormed)
    (signature : JsString) :
    parse (requestLine ticket signature) =
      some (.obj [(js "ticket", ticket.toJson), (js "signature", .str signature)]) := by
  apply parse_stringify
  refine ⟨⟨ht.normal, trivial, trivial⟩, ?_⟩
  have hkeys : [(js "ticket", ticket.toJson), (js "signature", .str signature)].map Prod.fst =
      [js "ticket", js "signature"] := rfl
  apply fromEntries_eq_self
  · rw [hkeys]
    decide
  · rw [hkeys]
    decide

theorem requestTicket_requestLine {ticket : ManagedAdminTicketV1} (ht : ticket.WellFormed)
    (signature : JsString) :
    requestTicket (.obj [(js "ticket", ticket.toJson), (js "signature", .str signature)]) =
      .ok ticket := by
  have hget : lookup (js "ticket") [(js "ticket", ticket.toJson), (js "signature", .str signature)] =
      some ticket.toJson := rfl
  rw [requestTicket, Json.get, hget, normalize_toJson ht]
  simp

theorem handleRequest_of_valid {scheme : SignatureScheme} {config : BrokerConfig}
    {realpath : RealPath} {file : Option ReplayState} {clock : RequestClock}
    {ticket : ManagedAdminTicketV1} {signature cwd : JsString} (ht : ticket.WellFormed)
    (hverify : verifyManagedAdminTicket scheme ticket signature = true)
    (hvalid : validateLocalAuthority config realpath ticket clock.validated = .ok cwd)
    (hunseen : ∀ e, (loadReplay file clock.consumed).get? ticket.nonce = some e → e = 0) :
    handleRequest scheme config realpath file (requestLine ticket signature) clock true =
      (.executed ticket cwd,
        some ((loadReplay file clock.consumed).set ticket.nonce ticket.expiry)) := by
  have hconsume : consumeNonce ticket file clock.consumed true =
      (.ok (), some ((loadReplay file clock.consumed).set ticket.nonce ticket.expiry)) := by
    unfold consumeNonce
    cases hentry : (loadReplay file clock.consumed).get? ticket.nonce with
    | none => simp [hentry]
    | some e => simp [hentry, hunseen e hentry]
  have hsignature : strOrEmpty ((Json.obj [(js "ticket", ticket.toJson),
      (js "signature", .str signature)]).get (js "signature")) = some signature := rfl
  simp only [handleRequest, parse_requestLine ht, requestTicket_requestLine ht, hsignature,
    hverify, hvalid, hconsume]
  simp

theorem receive_line {text : List Char} (hline : '\n' ∉ text)
    (hsize : (text.map Char.utf8Size).sum < maxRequestBytes) :
    ({} : Connection).receive (text ++ ['\n']) = (.line text, ⟨text ++ ['\n'], true⟩) := by
  have htake : (text ++ ['\n']).takeWhile (· ≠ '\n') = text := by
    rw [List.takeWhile_append_of_pos]
    · simp
    · intro c hc
      simpa using fun h : c = '\n' => hline (h ▸ hc)
  have hbytes : ¬maxRequestBytes < ((text ++ ['\n']).map Char.utf8Size).sum := by
    have hnewline : Char.utf8Size '\n' = 1 := rfl
    simp [hnewline]
    omega
  simp only [Connection.receive, Bool.false_eq_true, if_false, List.nil_append, hbytes, htake]
  simp

/-- The first request on a connection, when it forwards a valid ticket whose nonce
is not in the file, is executed. -/
theorem step_of_valid {scheme : SignatureScheme} {s : BrokerState} {n : ℕ} {realpath : RealPath}
    {clock : RequestClock} {ticket : ManagedAdminTicketV1} {signature cwd : JsString}
    (hfree : s.connections n = {}) (hline : '\n' ∉ requestLine ticket signature)
    (hsize : ((requestLine ticket signature).map Char.utf8Size).sum < maxRequestBytes)
    (ht : ticket.WellFormed) (hverify : verifyManagedAdminTicket scheme ticket signature = true)
    (hvalid : validateLocalAuthority s.config realpath ticket clock.validated = .ok cwd)
    (hunseen : ∀ e, (loadReplay s.replayFile clock.consumed).get? ticket.nonce = some e → e = 0) :
    s.step scheme (.data n (requestLine ticket signature ++ ['\n']) realpath clock true) =
      (some (.executed ticket cwd),
        { s with
          replayFile :=
            some ((loadReplay s.replayFile clock.consumed).set ticket.nonce ticket.expiry)
          connections := Function.update s.connections n
            ⟨requestLine ticket signature ++ ['\n'], true⟩ }) := by
  simp only [BrokerState.step, hfree, receive_line hline hsize,
    handleRequest_of_valid ht hverify hvalid hunseen]

/-! ## A ticket presented twice -/

/-- A ticket for `df -h` in `/opt`. -/
def sampleTicket (issuedAt expiresAt : JsNumber) : ManagedAdminTicketV1 where
  targetId := js "lab"
  deviceId := js "dev_00000000"
  program := js "df"
  argv := [js "-h"]
  cwd := js "/opt"
  timeoutMs := JsNumber.ofInt 1000 inRange_thousand
  nonce := List.replicate 32 (unit '0')
  issuedAt := issuedAt
  expiresAt := expiresAt

def sampleSignature : JsString := List.replicate 40 (unit 'A')

/-- A scheme with a single signature, of the bytes of one ticket. -/
def sampleScheme (ticket : ManagedAdminTicketV1) : SignatureScheme where
  sign _ _ := sampleSignature
  verify bytes signature :=
    decide (signature = sampleSignature ∧ bytes = textBytes (ticketText ticket))

def sampleConfig : BrokerConfig := ⟨js "dev_00000000", [js "/opt"], [js "df"]⟩

/-- The ticket arrives on connection `n`, and both clock readings are `now`. -/
def presentTicket (ticket : ManagedAdminTicketV1) (now : ℤ) (n : ℕ) : BrokerInput :=
  .data n (requestLine ticket sampleSignature ++ ['\n']) .ok ⟨now, now⟩ true

theorem verify_sampleScheme {ticket : ManagedAdminTicketV1} (ht : ticket.WellFormed) :
    verifyManagedAdminTicket (sampleScheme ticket) ticket sampleSignature = true := by
  have hshape : matchesSignature sampleSignature = true := by decide
  rw [verifyManagedAdminTicket, managedAdminTicketBytes_of_wellFormed ht, hshape]
  simp [sampleScheme]

/-- A ticket the broker would execute at `now`, whose request fits in one line. -/
structure Presentable (ticket : ManagedAdminTicketV1) (now : ℤ) : Prop where
  wellFormed : ticket.WellFormed
  valid : validateLocalAuthority sampleConfig .ok ticket now = .ok (js "/opt")
  oneLine : '\n' ∉ requestLine ticket sampleSignature
  small : ((requestLine ticket sampleSignature).map Char.utf8Size).sum < maxRequestBytes

theorem step_presentTicket {ticket : ManagedAdminTicketV1} {now : ℤ} (h : Presentable ticket now)
    {s : BrokerState} {n : ℕ} (hconfig : s.config = sampleConfig) (hfree : s.connections n = {})
    (hunseen : ∀ e, (loadReplay s.replayFile now).get? ticket.nonce = some e → e = 0) :
    s.step (sampleScheme ticket) (presentTicket ticket now n) =
      (some (.executed ticket (js "/opt")),
        { s with
          replayFile := some ((loadReplay s.replayFile now).set ticket.nonce ticket.expiry)
          connections := Function.update s.connections n
            ⟨requestLine ticket sampleSignature ++ ['\n'], true⟩ }) :=
  step_of_valid hfree h.oneLine h.small h.wellFormed (verify_sampleScheme h.wellFormed)
    (by rw [hconfig]; exact h.valid) hunseen

theorem get?_loadReplay_none (now : ℤ) (nonce : JsString) :
    (loadReplay none now).get? nonce = none := by
  simp [loadReplay, Record.get?_filter]

end RemoteOps

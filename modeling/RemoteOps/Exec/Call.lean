import RemoteOps.Ecma.PrintedText
import RemoteOps.Ecma.Utf8
import RemoteOps.Exec.Connection

/-!
# A call of the execution broker from end to end

The client writes one line, the broker answers it with one line, and both read what has arrived so
far at every chunk. The chunks may be cut anywhere in both directions, the timer may fire, the
socket may fail and the broker may end at any time.

In every run the broker passes the request to `handle` once at most, and a call that settles does so
with what the broker has answered to it, unless it was timed out, broken or left alone
(`call_exact`).
-/

namespace RemoteOps

open Ecma Transition

/-! ## Model -/

/-- `JSON.stringify(x) + "\n"`. -/
def jsonLine (x : Json) : JsString := ofChars x.stringify ++ [10]

inductive CallOutcome where
  | resolved (response : Json)
  | rejected (message : JsString)

/-- What the clients of the two brokers differ in. -/
structure BrokerClient where
  name : String
  emptyMessage : String

def callExecBroker : BrokerClient := ⟨"exec_broker", "empty broker response"⟩

def callManagedAdminBroker : BrokerClient :=
  ⟨"managed_admin_broker", "empty managed admin broker response"⟩

namespace BrokerClient

variable (c : BrokerClient)

def reject (reason : String) : CallOutcome := .rejected (js c.name ++ js reason)

/-- `resolve(response ?? ..)`. -/
def resolve : Json → CallOutcome
  | .null => .resolved (failBody (js "BROKER_EMPTY") (js c.emptyMessage))
  | response => .resolved response

/-- What the handler of `data` makes of its buffer. -/
def onReply (data : JsString) : Option CallOutcome :=
  if 5 * 1024 * 1024 < data.length then some (c.reject "_response_too_large")
  else
    match firstLine data with
    | none => none
    | some line =>
        match parse (toChars line) with
        | none => some (c.reject "_invalid_json")
        | some response => some (c.resolve response)

end BrokerClient

structure CallClient where
  data : JsString := []
  outcome : Option CallOutcome := none

/-- `finish`: only the first outcome counts. -/
def CallClient.finish (outcome : CallOutcome) (client : CallClient) : CallClient :=
  { client with outcome := client.outcome.or (some outcome) }

/-- `socket.on("data", ..)` of the client. -/
def CallClient.read (c : BrokerClient) (chunk : JsString) (client : CallClient) : CallClient :=
  { data := client.data ++ chunk
    outcome := client.outcome.or (c.onReply (client.data ++ chunk)) }

/-- Both ends, with what has been written and not yet been read. -/
structure CallState where
  client : CallClient := {}
  connected : Bool := false
  sent : JsString := []
  server : ExecConnection := {}
  replied : JsString := []
  /-- the broker has ended -/
  gone : Bool := false

inductive CallInput where
  | connect
  /-- the next code units of the request reach the broker -/
  | request (more : ℕ)
  | settled (call : ℕ) (outcome : Except JsString Json)
  /-- the next code units of the reply reach the client -/
  | reply (more : ℕ)
  | ended
  | timer
  | error (message : JsString)
  | crash

def writtenText : ConnectionEvent → JsString
  | .wrote body false => jsonLine body
  | _ => []

def serverTurn (x : List ConnectionEvent × ExecConnection) (s : CallState) :
    List ConnectionEvent × CallState :=
  (x.1, { s with server := x.2, replied := s.replied ++ x.1.flatMap writtenText })

section Steps

variable (c : BrokerClient) (req : Json)

def receiveRequest (more : ℕ) (s : CallState) : List ConnectionEvent × CallState :=
  if s.gone || s.sent.isEmpty then ([], s)
  else
    serverTurn (onData (s.sent.take (more + 1)) s.server) { s with sent := s.sent.drop (more + 1) }

def CallInput.step (s : CallState) : CallInput → List ConnectionEvent × CallState
  | .connect =>
      ([], if s.connected then s else { s with connected := true, sent := jsonLine req })
  | .request more => receiveRequest more s
  | .settled call outcome =>
      if s.gone then ([], s) else serverTurn (onSettled call outcome s.server) s
  | .reply more =>
      ([], { s with
        client := s.client.read c (s.replied.take more)
        replied := s.replied.drop more })
  | .ended =>
      -- the stream ends after what the broker has written
      ([], if (s.server.ended || s.gone) && s.replied.isEmpty then
          { s with client := s.client.finish (c.reject "_disconnected") }
        else s)
  | .timer => ([], { s with client := s.client.finish (c.reject "_timeout") })
  | .error message => ([], { s with client := s.client.finish (.rejected message) })
  | .crash => ([], { s with gone := true })

def brokerCall : Machine CallState CallInput (List ConnectionEvent) where
  start := {}
  step := CallInput.step c req

def callEvents (is : List CallInput) : List ConnectionEvent :=
  ((brokerCall c req).trace is).flatMap Prod.snd

end Steps

/-! ## A line in pieces -/

section Pieces

variable {c : BrokerClient} {x : Json} {data : JsString}

theorem firstLine_jsonLine (x : Json) : firstLine (jsonLine x) = some (ofChars x.stringify) := by
  have hline : ∀ u ∈ ofChars x.stringify, decide (u ≠ 10) = true := by
    intro u hu
    rw [decide_eq_true_eq]
    rintro rfl
    exact newline_notMem_stringify x hu
  have hmem : (10 : CodeUnit) ∈ jsonLine x := List.mem_append_right _ (List.mem_singleton_self _)
  rw [firstLine, if_pos hmem, jsonLine, List.takeWhile_append_of_pos hline]
  simp

/-- A piece of a line that is not the whole line has no newline. -/
theorem eq_or_newline_notMem (h : data <+: jsonLine x) :
    data = jsonLine x ∨ (10 : CodeUnit) ∉ data := by
  obtain heq | hpiece := List.prefix_concat_iff.mp h
  · exact .inl heq
  · exact .inr fun hmem => newline_notMem_stringify x (hpiece.subset hmem)

theorem firstLine_eq_none (h : (10 : CodeUnit) ∉ data) : firstLine data = none := if_neg h

/-- The client waits, or it knows of the piece what it will know of the line. -/
theorem onReply_piece (h : data <+: jsonLine x) :
    c.onReply data = none ∨ c.onReply data = c.onReply (jsonLine x) := by
  obtain rfl | hpiece := eq_or_newline_notMem h
  · exact .inr rfl
  · by_cases hlong : 5 * 1024 * 1024 < data.length
    · have hwhole := lt_of_lt_of_le hlong h.length_le
      rw [BrokerClient.onReply, BrokerClient.onReply, if_pos hlong, if_pos hwhole]
      exact .inr rfl
    · rw [BrokerClient.onReply, if_neg hlong, firstLine_eq_none hpiece]
      exact .inl rfl

theorem onReply_jsonLine (c : BrokerClient) (hx : x.Normal) (hnull : x ≠ .null) :
    c.onReply (jsonLine x) = some (if 5 * 1024 * 1024 < (jsonLine x).length then
      c.reject "_response_too_large" else .resolved x) := by
  rw [BrokerClient.onReply, firstLine_jsonLine]
  split_ifs
  · rfl
  · dsimp only
    rw [Utf8.toChars_ofChars, parse_stringify x hx]
    cases x with
    | null => exact absurd rfl hnull
    | _ => rfl

/-- So does the broker, and it takes a request from the whole line only. -/
theorem onBuffer_piece (h : data <+: jsonLine x) :
    onBuffer data = .wait ∨ onBuffer data = onBuffer (jsonLine x) ∧
      ∀ req, onBuffer data = .handle req → data = jsonLine x := by
  obtain rfl | hpiece := eq_or_newline_notMem h
  · exact .inr ⟨rfl, fun _ _ => rfl⟩
  · by_cases hlong : 1024 * 1024 < data.length
    · have hwhole := lt_of_lt_of_le hlong h.length_le
      rw [onBuffer, onBuffer, if_pos hlong, if_pos hwhole]
      exact .inr ⟨rfl, fun _ hreq => DataAction.noConfusion hreq⟩
    · exact .inl (onBuffer_eq_wait.mpr ⟨not_lt.mp hlong, hpiece⟩)

theorem onBuffer_jsonLine (hx : x.Normal) :
    onBuffer (jsonLine x) = if 1024 * 1024 < (jsonLine x).length then
      .fail (js "REQUEST_TOO_LARGE") (js "request too large") else .handle x := by
  rw [onBuffer, firstLine_jsonLine]
  split_ifs
  · rfl
  · dsimp only
    rw [Utf8.toChars_ofChars, parse_stringify x hx]

end Pieces

/-! ## Runs -/

section Runs

variable (c : BrokerClient) (req : Json)

/-- The requests that the broker has passed to `handle`. -/
def handledRequests (events : List ConnectionEvent) : List Json :=
  (actions events).filterMap fun
    | .handle req => some req
    | _ => none

/-- The bodies that go to the client. -/
def writtenBodies (events : List ConnectionEvent) : List Json :=
  (replies events).filterMap fun x => if x.2 then none else some x.1

/-- What the broker writes about the request. -/
inductive BodyCause (is : List CallInput) : Json → Prop where
  | refused (hlong : 1024 * 1024 < (jsonLine req).length) :
      BodyCause is (failBody (js "REQUEST_TOO_LARGE") (js "request too large"))
  /-- by the outcome of the only call of `handle` -/
  | handled {outcome : Except JsString Json} (hshort : (jsonLine req).length ≤ 1024 * 1024)
      (hmem : .settled 0 outcome ∈ is) : BodyCause is (outcomeBody outcome)

/-- Why a call settles as it does. -/
inductive OutcomeCause (is : List CallInput) (bodies : List Json) : CallOutcome → Prop where
  | answered {body : Json} (hbody : body ∈ bodies)
      (hshort : (jsonLine body).length ≤ 5 * 1024 * 1024) :
      OutcomeCause is bodies (.resolved body)
  | tooLarge {body : Json} (hbody : body ∈ bodies)
      (hlong : 5 * 1024 * 1024 < (jsonLine body).length) :
      OutcomeCause is bodies (c.reject "_response_too_large")
  | timeout (hmem : .timer ∈ is) : OutcomeCause is bodies (c.reject "_timeout")
  | broken {message : JsString} (hmem : .error message ∈ is) :
      OutcomeCause is bodies (.rejected message)
  /-- The broker has ended without an answer. -/
  | alone (hmem : .crash ∈ is) (hnone : bodies = []) :
      OutcomeCause is bodies (c.reject "_disconnected")

/-- `handle` returns values of JSON. -/
def CallInput.Plain : CallInput → Prop
  | .settled _ (.ok result) => result.Normal
  | _ => True

/-- What holds between both ends and what is on the way between them. -/
structure BrokerCallSound (is : List CallInput) (events : List ConnectionEvent) (s : CallState) :
    Prop where
  request : s.server.data ++ s.sent = if s.connected then jsonLine req else []
  acted : ∀ action ∈ actions events, action = onBuffer (jsonLine req)
  counted : (handledRequests events).length = s.server.calls
  whole : s.server.calls = 0 ∨ s.server.calls = 1 ∧ s.server.data = jsonLine req
  pending : ∀ call ∈ s.server.pending, call < s.server.calls
  bodies : (writtenBodies events).length = if s.server.ended then 1 else 0
  caused : ∀ body ∈ writtenBodies events, BodyCause req is body
  normal : ∀ body ∈ writtenBodies events, body.Normal ∧ body ≠ .null
  reply : s.client.data ++ s.replied = (writtenBodies events).flatMap jsonLine
  waiting : s.client.outcome = none → c.onReply s.client.data = none
  settled : ∀ o, s.client.outcome = some o → OutcomeCause c is (writtenBodies events) o
  gone : s.gone = true ↔ .crash ∈ is

variable {c req} {is : List CallInput} {events : List ConnectionEvent} {s : CallState}

theorem writtenBodies_append (xs ys : List ConnectionEvent) :
    writtenBodies (xs ++ ys) = writtenBodies xs ++ writtenBodies ys := by
  rw [writtenBodies, replies_append, List.filterMap_append]
  rfl

theorem handledRequests_append (xs ys : List ConnectionEvent) :
    handledRequests (xs ++ ys) = handledRequests xs ++ handledRequests ys := by
  rw [handledRequests, actions_append, List.filterMap_append]
  rfl

/-- The text that goes to the client is that of the bodies. -/
theorem flatMap_writtenText (events : List ConnectionEvent) :
    events.flatMap writtenText = (writtenBodies events).flatMap jsonLine := by
  induction events with
  | nil => rfl
  | cons e events ih =>
      rw [List.flatMap_cons, ih, ← List.singleton_append, writtenBodies_append, List.flatMap_append]
      cases e with
      | acted action => rfl
      | wrote body afterEnd =>
          cases afterEnd with
          | false => exact congrArg (· ++ _) (List.append_nil _).symm
          | true => rfl

theorem BodyCause.later {body : Json} (h : BodyCause req is body) (i : CallInput) :
    BodyCause req (is ++ [i]) body := by
  cases h with
  | refused hlong => exact .refused hlong
  | handled hshort hmem => exact .handled hshort (List.mem_append_left _ hmem)

theorem OutcomeCause.later {bodies later : List Json} {o : CallOutcome}
    (h : OutcomeCause c is bodies o) (i : CallInput) (hgone : .crash ∈ is → later = []) :
    OutcomeCause c (is ++ [i]) (bodies ++ later) o := by
  cases h with
  | answered hbody hshort => exact .answered (List.mem_append_left _ hbody) hshort
  | tooLarge hbody hlong => exact .tooLarge (List.mem_append_left _ hbody) hlong
  | timeout hmem => exact .timeout (List.mem_append_left _ hmem)
  | broken hmem => exact .broken (List.mem_append_left _ hmem)
  | alone hmem hnone =>
      rw [hnone, hgone hmem]
      exact .alone (List.mem_append_left _ hmem) rfl

/-- What a turn of the broker keeps and adds. -/
structure ServerTurn (req : Json) (is : List CallInput) (s : CallState) (sent : JsString)
    (x : List ConnectionEvent × ExecConnection) : Prop where
  request : x.2.data ++ sent = s.server.data ++ s.sent
  acted : ∀ action ∈ actions x.1, action = onBuffer (jsonLine req)
  counted : s.server.calls + (handledRequests x.1).length = x.2.calls
  whole : x.2.calls = 0 ∨ x.2.calls = 1 ∧ x.2.data = jsonLine req
  pending : ∀ call ∈ x.2.pending, call < x.2.calls
  bodies : (if s.server.ended then 1 else 0) + (writtenBodies x.1).length =
    if x.2.ended then 1 else 0
  caused : ∀ body ∈ writtenBodies x.1, BodyCause req is body
  normal : ∀ body ∈ writtenBodies x.1, body.Normal ∧ body ≠ .null

theorem BrokerCallSound.serves (h : BrokerCallSound c req is events s)
    (hgone : s.gone = false) {i : CallInput}
    (hi : i ≠ .crash) {sent : JsString} {x : List ConnectionEvent × ExecConnection}
    (hx : ServerTurn req (is ++ [i]) s sent x) :
    BrokerCallSound c req (is ++ [i]) (events ++ (serverTurn x { s with sent := sent }).1)
      (serverTurn x { s with sent := sent }).2 := by
  have hcrash : .crash ∉ is := fun hmem => by simp [h.gone.mpr hmem] at hgone
  refine ⟨hx.request.trans h.request, ?_, ?_, hx.whole, hx.pending, ?_, ?_, ?_, ?_, h.waiting, ?_,
    ?_⟩
  · intro action haction
    rw [actions_append] at haction
    exact (List.mem_append.mp haction).elim (h.acted action) (hx.acted action)
  · rw [handledRequests_append, List.length_append, h.counted]
    exact hx.counted
  · rw [writtenBodies_append, List.length_append, h.bodies]
    exact hx.bodies
  · intro body hbody
    rw [writtenBodies_append] at hbody
    exact (List.mem_append.mp hbody).elim (fun hbody => (h.caused body hbody).later i)
      (hx.caused body)
  · intro body hbody
    rw [writtenBodies_append] at hbody
    exact (List.mem_append.mp hbody).elim (h.normal body) (hx.normal body)
  · rw [writtenBodies_append, List.flatMap_append, ← h.reply, List.append_assoc]
    exact congrArg (fun text => s.client.data ++ (s.replied ++ text)) (flatMap_writtenText x.1)
  · intro o ho
    rw [writtenBodies_append]
    exact (h.settled o ho).later i fun hmem => absurd hmem hcrash
  · refine h.gone.trans ⟨List.mem_append_left _, fun hmem => ?_⟩
    obtain hmem | hmem := List.mem_append.mp hmem
    · exact hmem
    · exact absurd (List.mem_singleton.mp hmem).symm hi

theorem normal_failBody (code message : JsString) :
    (failBody code message).Normal ∧ failBody code message ≠ .null := by
  refine ⟨normal_object ["ok", "error"] rfl (by decide) ?_, Json.noConfusion⟩
  have herror : (Json.obj [(js "code", .str code), (js "message", .str message)]).Normal :=
    normal_object ["code", "message"] rfl (by decide) (by simp [Json.Normal])
  simp only [List.forall_mem_cons, List.not_mem_nil, false_imp_iff, implies_true, and_true]
  exact ⟨trivial, herror⟩

theorem normal_outcomeBody {outcome : Except JsString Json}
    (h : ∀ result, outcome = .ok result → result.Normal) :
    (outcomeBody outcome).Normal ∧ outcomeBody outcome ≠ .null := by
  cases outcome with
  | error message => exact normal_failBody _ message
  | ok result =>
      refine ⟨normal_object ["ok", "result"] rfl (by decide) ?_, Json.noConfusion⟩
      simp only [List.forall_mem_cons, List.not_mem_nil, false_imp_iff, implies_true, and_true]
      exact ⟨trivial, h result rfl⟩

theorem writtenBodies_reply (conn : ExecConnection) (body : Json) :
    writtenBodies (conn.reply body).1 = if conn.ended then [] else [body] := by
  rw [ExecConnection.reply, writtenBodies, replies_wrote, replies_nil, List.filterMap_cons]
  cases conn.ended <;> rfl

theorem count_reply (conn : ExecConnection) (body : Json) :
    (if conn.ended then 1 else 0) + (writtenBodies (conn.reply body).1).length = 1 := by
  rw [writtenBodies_reply]
  cases conn.ended <;> rfl

theorem mem_writtenBodies_reply {conn : ExecConnection} {body body' : Json}
    (h : body' ∈ writtenBodies (conn.reply body).1) : body' = body := by
  rw [writtenBodies_reply] at h
  split_ifs at h
  · cases h
  · exact List.mem_singleton.mp h

/-- The broker receives a piece of the request. -/
theorem serverTurn_data (hreq : req.Normal) (h : BrokerCallSound c req is events s) (i : CallInput)
    (hsent : s.sent ≠ []) (more : ℕ) :
    ServerTurn req (is ++ [i]) s (s.sent.drop (more + 1))
      (onData (s.sent.take (more + 1)) s.server) := by
  have hline : s.server.data ++ s.sent = jsonLine req := by
    have hrequest := h.request
    split_ifs at hrequest
    · exact hrequest
    · exact absurd (List.append_eq_nil_iff.mp hrequest).2 hsent
  have hcalls : s.server.calls = 0 := by
    refine h.whole.resolve_right fun hwhole => hsent ?_
    rw [hwhole.2] at hline
    exact List.append_cancel_left (hline.trans (List.append_nil _).symm)
  have hpending : ∀ call ∈ s.server.pending, call < 0 :=
    fun call hcall => hcalls ▸ h.pending call hcall
  have hsplit :
      s.server.data ++ s.sent.take (more + 1) ++ s.sent.drop (more + 1) = jsonLine req := by
    rw [List.append_assoc, List.take_append_drop, hline]
  have hpiece := @onBuffer_piece req _ ⟨_, hsplit⟩
  have hrequest : s.server.data ++ s.sent.take (more + 1) ++ s.sent.drop (more + 1) =
    s.server.data ++ s.sent := hsplit.trans hline.symm
  unfold onData
  dsimp only
  cases haction : onBuffer (s.server.data ++ s.sent.take (more + 1)) with
  | wait =>
      dsimp only
      refine ⟨hrequest, fun _ hmem => absurd hmem List.not_mem_nil, rfl, .inl hcalls, ?_, rfl,
        fun _ hmem => absurd hmem List.not_mem_nil, fun _ hmem => absurd hmem List.not_mem_nil⟩
      exact h.pending
  | fail code message =>
      have hwhole : onBuffer (jsonLine req) = .fail code message := by
        obtain hwait | ⟨hsame, -⟩ := hpiece
        · rw [haction] at hwait
          cases hwait
        · rw [← hsame, haction]
      have hlong : 1024 * 1024 < (jsonLine req).length ∧
          code = js "REQUEST_TOO_LARGE" ∧ message = js "request too large" := by
        rw [onBuffer_jsonLine hreq] at hwhole
        split_ifs at hwhole with hlong
        obtain ⟨rfl, rfl⟩ := DataAction.fail.inj hwhole
        exact ⟨hlong, rfl, rfl⟩
      obtain ⟨hlong, rfl, rfl⟩ := hlong
      refine ⟨hrequest, fun action hmem => ?_, rfl, .inl hcalls, h.pending, ?_,
        fun body hbody => ?_, fun body hbody => ?_⟩
      · obtain rfl := List.mem_singleton.mp hmem
        exact hwhole.symm
      · exact count_reply _ _
      · obtain rfl := mem_writtenBodies_reply hbody
        exact .refused hlong
      · obtain rfl := mem_writtenBodies_reply hbody
        exact normal_failBody _ _
  | handle request =>
      obtain hwait | ⟨hsame, hwhole⟩ := hpiece
      · rw [haction] at hwait
        cases hwait
      · refine ⟨hrequest, fun action hmem => ?_, rfl, .inr ⟨?_, hwhole request haction⟩,
          fun call hcall => ?_, rfl, fun _ hmem => absurd hmem List.not_mem_nil,
          fun _ hmem => absurd hmem List.not_mem_nil⟩
        · obtain rfl := List.mem_singleton.mp hmem
          rw [← hsame, haction]
        · dsimp only
          rw [hcalls]
        · obtain hcall | hcall := List.mem_append.mp hcall
          · exact absurd (hpending call hcall) (Nat.not_lt_zero _)
          · rw [List.mem_singleton.mp hcall]
            exact Nat.lt_succ_self _

/-- What `handle` is called with. -/
theorem BrokerCallSound.handled (hreq : req.Normal) (h : BrokerCallSound c req is events s)
    {request : Json}
    (hrequest : request ∈ handledRequests events) :
    request = req ∧ (jsonLine req).length ≤ 1024 * 1024 := by
  obtain ⟨action, haction, heq⟩ := List.mem_filterMap.mp hrequest
  have hwhole := h.acted action haction
  rw [onBuffer_jsonLine hreq] at hwhole
  rw [hwhole] at heq
  split_ifs at heq with hlong
  exact ⟨(Option.some.inj heq).symm, not_lt.mp hlong⟩

theorem BrokerCallSound.calls_le_one (h : BrokerCallSound c req is events s) :
    s.server.calls ≤ 1 := by
  obtain hnone | ⟨hone, -⟩ := h.whole
  · exact hnone.trans_le (Nat.zero_le 1)
  · exact hone.le

/-- A call of `handle` settles. -/
theorem serverTurn_settled (hreq : req.Normal) (h : BrokerCallSound c req is events s) (call : ℕ)
    (outcome : Except JsString Json) (hplain : ∀ result, outcome = .ok result → result.Normal) :
    ServerTurn req (is ++ [.settled call outcome]) s s.sent (onSettled call outcome s.server) := by
  unfold onSettled
  split
  · exact ⟨rfl, fun _ hmem => absurd hmem List.not_mem_nil, rfl, h.whole, h.pending, rfl,
      fun _ hmem => absurd hmem List.not_mem_nil, fun _ hmem => absurd hmem List.not_mem_nil⟩
  · refine ⟨rfl, fun _ hmem => absurd hmem List.not_mem_nil, rfl, h.whole, fun call hcall => ?_,
      count_reply _ _, fun body hbody => ?_, fun body hbody => ?_⟩
    · exact h.pending call (List.mem_of_mem_erase hcall)
    · obtain rfl := mem_writtenBodies_reply hbody
      have hpending := h.pending call (not_not.mp ‹_›)
      obtain rfl : call = 0 := Nat.lt_one_iff.mp (hpending.trans_le h.calls_le_one)
      have hone : 0 < (handledRequests events).length := h.counted ▸ hpending
      have hshort := (h.handled hreq (List.getElem_mem hone)).2
      exact .handled hshort (List.mem_append_right _ (List.mem_singleton_self _))
    · obtain rfl := mem_writtenBodies_reply hbody
      exact normal_outcomeBody hplain

/-- A turn of the client or of the network leaves the broker as it is. -/
theorem BrokerCallSound.aside (h : BrokerCallSound c req is events s) (i : CallInput)
    {client : CallClient} {replied : JsString} {gone : Bool}
    (hreply : client.data ++ replied = s.client.data ++ s.replied)
    (hwaiting : client.outcome = none → c.onReply client.data = none)
    (hsettled : ∀ o, client.outcome = some o → s.client.outcome = some o ∨
      OutcomeCause c (is ++ [i]) (writtenBodies events) o)
    (hgone : gone = true ↔ s.gone = true ∨ i = .crash) :
    BrokerCallSound c req (is ++ [i]) (events ++ [])
      { s with client := client, replied := replied, gone := gone } := by
  rw [List.append_nil]
  refine ⟨h.request, h.acted, h.counted, h.whole, h.pending, h.bodies,
    fun body hbody => (h.caused body hbody).later i, h.normal, hreply.trans h.reply, hwaiting,
    fun o ho => ?_, ?_⟩
  · obtain ho | ho := hsettled o ho
    · have hlater : OutcomeCause c (is ++ [i]) (writtenBodies events ++ []) o :=
        (h.settled o ho).later i fun _ => rfl
      rwa [List.append_nil] at hlater
    · exact ho
  · rw [hgone, h.gone, List.mem_append, List.mem_singleton, eq_comm (a := i)]

theorem BrokerCallSound.stays (h : BrokerCallSound c req is events s) {i : CallInput}
    (hi : i ≠ .crash) : BrokerCallSound c req (is ++ [i]) (events ++ []) s :=
  h.aside i rfl h.waiting (fun o ho => .inl ho) (by simp [hi])

/-- The broker writes one line at most. -/
theorem BrokerCallSound.bodies_cases (h : BrokerCallSound c req is events s) :
    writtenBodies events = [] ∧ s.server.ended = false ∨ ∃ body, writtenBodies events = [body] := by
  have hbodies := h.bodies
  split_ifs at hbodies with hended
  · exact .inr (List.length_eq_one_iff.mp hbodies)
  · exact .inl ⟨List.length_eq_zero_iff.mp hbodies, Bool.eq_false_iff.mpr hended⟩

/-- What the client has read is a piece of the one line. -/
theorem BrokerCallSound.client_piece (h : BrokerCallSound c req is events s) {data rest : JsString}
    (hdata : data ++ rest = s.client.data ++ s.replied) :
    data = [] ∨ ∃ body ∈ writtenBodies events, data <+: jsonLine body := by
  rw [h.reply] at hdata
  obtain ⟨hnone, -⟩ | ⟨body, hone⟩ := h.bodies_cases
  · rw [hnone] at hdata
    exact .inl (List.append_eq_nil_iff.mp hdata).1
  · rw [hone, List.flatMap_singleton] at hdata
    exact .inr ⟨body, hone ▸ List.mem_singleton_self _, ⟨rest, hdata⟩⟩

/-- The outcome that a body stands for. -/
theorem cause_of_onReply (h : BrokerCallSound c req is events s) {body : Json}
    (hbody : body ∈ writtenBodies events) {o : CallOutcome}
    (ho : c.onReply (jsonLine body) = some o) (is' : List CallInput) :
    OutcomeCause c is' (writtenBodies events) o := by
  obtain ⟨hnormal, hnull⟩ := h.normal body hbody
  rw [onReply_jsonLine c hnormal hnull] at ho
  obtain rfl := Option.some.inj ho
  split_ifs with hlong
  · exact .tooLarge hbody hlong
  · exact .answered hbody (not_lt.mp hlong)

theorem onReply_nil : c.onReply [] = none := rfl

/-- The client receives a piece of the reply. -/
theorem BrokerCallSound.reads (h : BrokerCallSound c req is events s) (more : ℕ) :
    BrokerCallSound c req (is ++ [.reply more]) (events ++ [])
      { s with
        client := s.client.read c (s.replied.take more)
        replied := s.replied.drop more } := by
  have hdata : s.client.data ++ s.replied.take more ++ s.replied.drop more =
      s.client.data ++ s.replied := by
    rw [List.append_assoc, List.take_append_drop]
  have hpiece := h.client_piece hdata
  refine h.aside (.reply more) hdata (fun hnone => ?_) (fun o ho => ?_) (by simp)
  · exact (Option.or_eq_none_iff.mp hnone).2
  · cases hbefore : s.client.outcome with
    | some o' =>
        have hkept : (s.client.read c (s.replied.take more)).outcome = some o' := by
          rw [CallClient.read, hbefore]
          rfl
        exact .inl (hkept.symm.trans ho)
    | none =>
        have hread : c.onReply (s.client.data ++ s.replied.take more) = some o := by
          rw [CallClient.read, hbefore] at ho
          exact ho
        obtain hnil | ⟨body, hbody, hpiece⟩ := hpiece
        · rw [hnil, onReply_nil] at hread
          cases hread
        · obtain hnone | hwhole := @onReply_piece c body _ hpiece
          · rw [hread] at hnone
            cases hnone
          · exact .inr (cause_of_onReply h hbody (hwhole.symm.trans hread) _)

/-- The client settles for another reason than a reply. -/
theorem BrokerCallSound.finishes (h : BrokerCallSound c req is events s) (i : CallInput)
    {o : CallOutcome} (hi : i ≠ .crash)
    (ho : s.client.outcome = none → OutcomeCause c (is ++ [i]) (writtenBodies events) o) :
    BrokerCallSound c req (is ++ [i]) (events ++ []) { s with client := s.client.finish o } := by
  refine h.aside i rfl (fun hnone => ?_) (fun o' ho' => ?_) (by simp [hi])
  · exact absurd (Option.or_eq_none_iff.mp hnone).2 (Option.some_ne_none _)
  · rw [CallClient.finish] at ho'
    cases hbefore : s.client.outcome with
    | some o'' =>
        rw [hbefore] at ho'
        exact .inl ho'
    | none =>
        rw [hbefore] at ho'
        obtain rfl := Option.some.inj ho'
        exact .inr (ho hbefore)

/-- A client that has read a whole line has settled. -/
theorem BrokerCallSound.settled_of_read (h : BrokerCallSound c req is events s)
    (hreplied : s.replied = []) {body : Json} (hbody : writtenBodies events = [body]) :
    s.client.outcome ≠ none := by
  intro hwaiting
  have hnone := h.waiting hwaiting
  have hdata := h.reply
  rw [hreplied, List.append_nil, hbody, List.flatMap_singleton] at hdata
  obtain ⟨hnormal, hnull⟩ := h.normal body (hbody ▸ List.mem_singleton_self _)
  rw [hdata, onReply_jsonLine c hnormal hnull] at hnone
  cases hnone

/-- Only the end of the broker leaves the client alone. -/
theorem BrokerCallSound.ends (h : BrokerCallSound c req is events s)
    (hended : (s.server.ended || s.gone) = true) (hreplied : s.replied = []) :
    BrokerCallSound c req (is ++ [.ended]) (events ++ [])
      { s with client := s.client.finish (c.reject "_disconnected") } := by
  refine h.finishes .ended CallInput.noConfusion fun hwaiting => ?_
  obtain ⟨hnone, hserver⟩ | ⟨body, hone⟩ := h.bodies_cases
  · rw [hserver, Bool.false_or] at hended
    exact .alone (List.mem_append_left _ (h.gone.mp hended)) hnone
  · exact absurd hwaiting (h.settled_of_read hreplied hone)

/-- The client writes its request. -/
theorem BrokerCallSound.connects (h : BrokerCallSound c req is events s)
    (hconnected : s.connected = false) :
    BrokerCallSound c req (is ++ [.connect]) (events ++ [])
      { s with connected := true, sent := jsonLine req } := by
  have hstays := h.stays (i := .connect) CallInput.noConfusion
  have hdata : s.server.data = [] := by
    have hrequest := h.request
    rw [hconnected] at hrequest
    exact (List.append_eq_nil_iff.mp hrequest).1
  refine { hstays with request := ?_ }
  dsimp only
  rw [hdata]
  rfl

theorem BrokerCallSound.step (hreq : req.Normal) {i : CallInput} (hplain : i.Plain)
    (h : BrokerCallSound c req is events s) :
    BrokerCallSound c req (is ++ [i]) (events ++ (CallInput.step c req s i).1)
      (CallInput.step c req s i).2 := by
  cases i with
  | connect =>
      rw [CallInput.step]
      split_ifs with hconnected
      · exact h.stays CallInput.noConfusion
      · exact h.connects (Bool.eq_false_iff.mpr hconnected)
  | request more =>
      rw [CallInput.step, receiveRequest]
      split
      · exact h.stays CallInput.noConfusion
      · next hready =>
          have hboth : s.gone = false ∧ s.sent ≠ [] := by simpa using hready
          exact h.serves hboth.1 CallInput.noConfusion (serverTurn_data hreq h _ hboth.2 more)
  | settled call outcome =>
      rw [CallInput.step]
      split_ifs with hgone
      · exact h.stays CallInput.noConfusion
      · refine h.serves (Bool.eq_false_iff.mpr hgone) CallInput.noConfusion
          (serverTurn_settled hreq h call outcome ?_)
        rintro result rfl
        exact hplain
  | reply more => exact h.reads more
  | ended =>
      rw [CallInput.step]
      dsimp only
      split_ifs with hended
      · have hboth : (s.server.ended || s.gone) = true ∧ s.replied = [] := by simpa using hended
        exact h.ends hboth.1 hboth.2
      · exact h.stays CallInput.noConfusion
  | timer =>
      exact h.finishes _ CallInput.noConfusion fun _ =>
        .timeout (List.mem_append_right _ (List.mem_singleton_self _))
  | error message =>
      exact h.finishes _ CallInput.noConfusion fun _ =>
        .broken (List.mem_append_right _ (List.mem_singleton_self _))
  | crash => exact h.aside .crash rfl h.waiting (fun o ho => .inl ho) (by simp)

theorem brokerCallSound_start : BrokerCallSound c req [] [] (brokerCall c req).start := by
  refine ⟨rfl, fun _ hmem => absurd hmem List.not_mem_nil, rfl, .inl rfl,
    fun _ hmem => absurd hmem List.not_mem_nil, rfl, fun _ hmem => absurd hmem List.not_mem_nil,
    fun _ hmem => absurd hmem List.not_mem_nil, rfl, fun _ => rfl, fun o ho => ?_, ?_⟩
  · cases ho
  · exact ⟨fun hgone => Bool.noConfusion hgone, fun hmem => absurd hmem List.not_mem_nil⟩

theorem callEvents_concat (i : CallInput) :
    callEvents c req (is ++ [i]) =
      callEvents c req is ++ (CallInput.step c req ((brokerCall c req).after is) i).1 := by
  rw [callEvents, Machine.trace_concat, List.flatMap_append, List.flatMap_singleton]
  rfl

theorem brokerCallSound_after (hreq : req.Normal) (hplain : ∀ i ∈ is, i.Plain) :
    BrokerCallSound c req is (callEvents c req is) ((brokerCall c req).after is) := by
  refine (brokerCall c req).invariant
    (I := fun is s => BrokerCallSound c req is (callEvents c req is) s)
    (prefixClosed_forall CallInput.Plain) brokerCallSound_start (fun is i hplain h => ?_) is hplain
  rw [callEvents_concat]
  exact h.step hreq (hplain i (by simp))

/-- An outcome stays. -/
theorem outcome_step {o : CallOutcome} (i : CallInput) (h : s.client.outcome = some o) :
    (CallInput.step c req s i).2.client.outcome = some o := by
  have hfinish : ∀ o', (s.client.finish o').outcome = some o := fun o' => by
    rw [CallClient.finish, h]
    rfl
  cases i with
  | connect =>
      rw [CallInput.step]
      dsimp only
      split_ifs <;> exact h
  | request more =>
      rw [CallInput.step, receiveRequest]
      split_ifs <;> exact h
  | settled call outcome =>
      rw [CallInput.step]
      split_ifs <;> exact h
  | reply more =>
      rw [CallInput.step, CallClient.read, h]
      rfl
  | ended =>
      rw [CallInput.step]
      dsimp only
      split_ifs
      · exact hfinish _
      · exact h
  | timer => exact hfinish _
  | error message => exact hfinish _
  | crash => exact h

theorem outcome_after {o : CallOutcome} (pre post : List CallInput)
    (h : ((brokerCall c req).after pre).client.outcome = some o) :
    ((brokerCall c req).after (pre ++ post)).client.outcome = some o := by
  induction post using List.reverseRecOn with
  | nil => rwa [List.append_nil]
  | append_singleton post i ih =>
      rw [← List.append_assoc, Machine.after_concat]
      exact outcome_step i ih

/-- What a call gives from end to end. -/
structure CallExact (c : BrokerClient) (req : Json) (is : List CallInput) : Prop where
  handled : handledRequests (callEvents c req is) = [] ∨
    handledRequests (callEvents c req is) = [req]
  written : writtenBodies (callEvents c req is) = [] ∨
    ∃ body, writtenBodies (callEvents c req is) = [body] ∧ BodyCause req is body
  caused : ∀ o, ((brokerCall c req).after is).client.outcome = some o →
    OutcomeCause c is (writtenBodies (callEvents c req is)) o
  delivered : writtenBodies (callEvents c req is) ≠ [] →
    ((brokerCall c req).after is).replied = [] →
      ((brokerCall c req).after is).client.outcome ≠ none
  kept : ∀ post o, ((brokerCall c req).after is).client.outcome = some o →
    ((brokerCall c req).after (is ++ post)).client.outcome = some o

/-- Wherever the chunks are cut, `handle` gets the request once at most, and the call settles once,
with the answer to it or because it was timed out, broken or left alone. -/
theorem call_exact (c : BrokerClient) (req : Json) (is : List CallInput) (hreq : req.Normal)
    (hplain : ∀ i ∈ is, i.Plain) : CallExact c req is := by
  have h : BrokerCallSound c req is (callEvents c req is) ((brokerCall c req).after is) :=
    brokerCallSound_after hreq hplain
  refine ⟨?_, ?_, h.settled, fun hwritten hreplied => ?_, fun post o => outcome_after is post⟩
  · cases hhandled : handledRequests (callEvents c req is) with
    | nil => exact .inl rfl
    | cons request requests =>
        have hcount := h.counted.trans_le h.calls_le_one
        rw [hhandled, List.length_cons] at hcount
        obtain rfl : requests = [] := List.length_eq_zero_iff.mp (by omega)
        have hrequest : request ∈ handledRequests (callEvents c req is) :=
          hhandled ▸ List.mem_singleton_self _
        exact .inr (congrArg (fun r => [r]) (h.handled hreq hrequest).1)
  · obtain ⟨hnone, -⟩ | ⟨body, hone⟩ := h.bodies_cases
    · exact .inl hnone
    · exact .inr ⟨body, hone, h.caused body (hone ▸ List.mem_singleton_self _)⟩
  · obtain ⟨hnone, -⟩ | ⟨body, hone⟩ := h.bodies_cases
    · exact absurd hnone hwritten
    · exact h.settled_of_read hreplied hone

/-! ### A call -/

def listRequest : Json := .obj [(js "op", .str (js "process.list")), (js "args", .obj [])]

/-- The request and the reply come in two pieces each. -/
def piecewiseRun : List CallInput :=
  [.connect, .request 4, .request 99, .settled 0 (.ok (.bool true)), .reply 5, .reply 99, .ended]

theorem call_exact_piecewise :
    CallExact callExecBroker listRequest piecewiseRun ∧
      ((brokerCall callExecBroker listRequest).after piecewiseRun).client.outcome =
        some (.resolved (okBody (.bool true))) := by
  have hargs : (Json.obj []).Normal := normal_object [] rfl (by decide) (by simp)
  have hreq : listRequest.Normal := by
    refine normal_object ["op", "args"] rfl (by decide) ?_
    simp only [List.forall_mem_cons, List.not_mem_nil, false_imp_iff, implies_true, and_true]
    exact ⟨trivial, hargs⟩
  refine ⟨call_exact _ _ _ hreq ?_, rfl⟩
  simp only [piecewiseRun, List.forall_mem_cons, List.not_mem_nil, false_imp_iff, implies_true,
    and_true]
  exact ⟨trivial, trivial, trivial, trivial, trivial, trivial, trivial⟩

end Runs

end RemoteOps

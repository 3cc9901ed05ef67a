import RemoteOps.Ecma.JsonText
import RemoteOps.Transition.Machine

/-!
# A connection of the execution broker

The data handler appends every chunk to a buffer and looks at the whole buffer
again: too long, no line yet, a line that is no JSON, or a request, which it passes
to `handle`. It does not remember that it has acted, so that a chunk after the first
full line makes it act once more. Connections are served as documented exactly when
no such chunk arrives (`oneReply_iff`).

What `handle` does is not looked into here: a call is an event, and its outcome is an
input.
-/

namespace RemoteOps

open Ecma Transition

/-! ## Model -/

/-- What the data handler does about its buffer. -/
inductive DataAction where
  | wait
  | fail (code message : JsString)
  | handle (req : Json)

/-- `data.slice(0, data.indexOf("\n"))`, if there is a newline. -/
def firstLine (data : JsString) : Option JsString :=
  if (10 : CodeUnit) ∈ data then some (data.takeWhile fun u => u ≠ 10) else none

def onBuffer (data : JsString) : DataAction :=
  if 1024 * 1024 < data.length then .fail (js "REQUEST_TOO_LARGE") (js "request too large")
  else
    match firstLine data with
    | none => .wait
    | some line =>
        match parse (toChars line) with
        | none => .fail (js "INVALID_JSON") (js "invalid json")
        | some req => .handle req

structure ExecConnection where
  data : JsString := []
  /-- `socket.end` has been called -/
  ended : Bool := false
  calls : ℕ := 0
  /-- the calls of `handle` that have not settled -/
  pending : List ℕ := []

inductive ConnectionInput where
  | data (chunk : JsString)
  /-- the promise of a call of `handle` settles -/
  | settled (call : ℕ) (outcome : Except JsString Json)

inductive ConnectionEvent where
  | acted (action : DataAction)
  /-- `socket.end(body)`, and whether the socket had been ended before -/
  | wrote (body : Json) (afterEnd : Bool)

/-- `reply(socket, {ok: true, result})`. -/
def okBody (result : Json) : Json := .obj [(js "ok", .bool true), (js "result", result)]

/-- `fail(socket, code, message)`. -/
def failBody (code message : JsString) : Json :=
  .obj
    [(js "ok", .bool false),
      (js "error", .obj [(js "code", .str code), (js "message", .str message)])]

def outcomeBody (outcome : Except JsString Json) : Json :=
  match outcome with
  | .ok result => okBody result
  | .error message => failBody (js "BROKER_DENIED") message

def ExecConnection.reply (c : ExecConnection) (body : Json) :
    List ConnectionEvent × ExecConnection :=
  ([.wrote body c.ended], { c with ended := true })

/-- `socket.on("data", ..)`. -/
def onData (chunk : JsString) (c : ExecConnection) : List ConnectionEvent × ExecConnection :=
  let fed := { c with data := c.data ++ chunk }
  match onBuffer fed.data with
  | .wait => ([], fed)
  | .fail code message =>
      (.acted (.fail code message) :: (fed.reply (failBody code message)).1,
        (fed.reply (failBody code message)).2)
  | .handle req =>
      ([.acted (.handle req)], { fed with calls := c.calls + 1, pending := c.pending ++ [c.calls] })

def onSettled (call : ℕ) (outcome : Except JsString Json) (c : ExecConnection) :
    List ConnectionEvent × ExecConnection :=
  if call ∉ c.pending then ([], c)
  else { c with pending := c.pending.erase call }.reply (outcomeBody outcome)

def ConnectionInput.step (c : ExecConnection) :
    ConnectionInput → List ConnectionEvent × ExecConnection
  | .data chunk => onData chunk c
  | .settled call outcome => onSettled call outcome c

/-- The whole stream. -/
def received (is : List ConnectionInput) : JsString :=
  is.flatMap fun
    | .data chunk => chunk
    | .settled _ _ => []

def actions (events : List ConnectionEvent) : List DataAction :=
  events.filterMap fun
    | .acted action => some action
    | _ => none

def replies (events : List ConnectionEvent) : List (Json × Bool) :=
  events.filterMap fun
    | .wrote body afterEnd => some (body, afterEnd)
    | _ => none

/-- What the handler does about a buffer, as a list. -/
def DataAction.toList : DataAction → List DataAction
  | .wait => []
  | action => [action]

theorem DataAction.length_toList_le (a : DataAction) : a.toList.length ≤ 1 := by
  cases a <;> simp [DataAction.toList]

theorem DataAction.length_toList {a : DataAction} (h : a ≠ .wait) : a.toList.length = 1 := by
  cases a with
  | wait => exact absurd rfl h
  | fail code message => rfl
  | handle req => rfl

theorem onBuffer_eq_wait {data : JsString} :
    onBuffer data = .wait ↔ data.length ≤ 1024 * 1024 ∧ (10 : CodeUnit) ∉ data := by
  unfold onBuffer firstLine
  by_cases hlong : 1024 * 1024 < data.length
  · simp [hlong]
  · by_cases hline : (10 : CodeUnit) ∈ data
    · rw [if_neg hlong, if_pos hline]
      dsimp only
      cases parse (toChars (data.takeWhile fun u => u ≠ 10)) with
      | none => simp [hline]
      | some req => simp [hline]
    · rw [if_neg hlong, if_neg hline]
      simp only [true_iff]
      exact ⟨not_lt.mp hlong, hline⟩

@[simp] theorem actions_append (xs ys : List ConnectionEvent) :
    actions (xs ++ ys) = actions xs ++ actions ys := List.filterMap_append

@[simp] theorem replies_append (xs ys : List ConnectionEvent) :
    replies (xs ++ ys) = replies xs ++ replies ys := List.filterMap_append

@[simp] theorem actions_nil : actions [] = [] := rfl

@[simp] theorem replies_nil : replies [] = [] := rfl

@[simp] theorem actions_acted (action : DataAction) (events : List ConnectionEvent) :
    actions (.acted action :: events) = action :: actions events := rfl

@[simp] theorem actions_wrote (body : Json) (afterEnd : Bool) (events : List ConnectionEvent) :
    actions (.wrote body afterEnd :: events) = actions events := rfl

@[simp] theorem replies_acted (action : DataAction) (events : List ConnectionEvent) :
    replies (.acted action :: events) = replies events := rfl

@[simp] theorem replies_wrote (body : Json) (afterEnd : Bool) (events : List ConnectionEvent) :
    replies (.wrote body afterEnd :: events) = (body, afterEnd) :: replies events := rfl

theorem actions_onData (chunk : JsString) (c : ExecConnection) :
    actions (onData chunk c).1 = (onBuffer (c.data ++ chunk)).toList := by
  unfold onData
  cases hbuffer : onBuffer (c.data ++ chunk) with
  | wait => simp [hbuffer, DataAction.toList]
  | fail code message => simp [hbuffer, DataAction.toList, ExecConnection.reply]
  | handle req => simp [hbuffer, DataAction.toList]

theorem data_onData (chunk : JsString) (c : ExecConnection) :
    (onData chunk c).2.data = c.data ++ chunk := by
  unfold onData
  cases hbuffer : onBuffer (c.data ++ chunk) <;> simp [hbuffer, ExecConnection.reply]

/-- What holds as long as no data follows what made the handler act. -/
structure Served (events : List ConnectionEvent) (c : ExecConnection) : Prop where
  acted : actions events = (onBuffer c.data).toList
  answered : (replies events).length + c.pending.length = (actions events).length
  ended : c.ended = true → 0 < (replies events).length
  writable : ∀ reply ∈ replies events, reply.2 = false

theorem Served.not_ended {events : List ConnectionEvent} {c : ExecConnection}
    (h : Served events c) (hfew : (actions events).length ≤ c.pending.length) :
    c.ended = false := by
  by_contra hended
  have hreplied := h.ended (by simpa using hended)
  have hanswered := h.answered
  omega

theorem Served.data {events : List ConnectionEvent} {c : ExecConnection} (h : Served events c)
    (hwait : onBuffer c.data = .wait) (chunk : JsString) :
    Served (events ++ (onData chunk c).1) (onData chunk c).2 := by
  have hnone : actions events = [] := by rw [h.acted, hwait]; rfl
  have hanswered := h.answered
  rw [hnone, List.length_nil] at hanswered
  have hopen : c.ended = false := h.not_ended (by rw [hnone]; exact Nat.zero_le _)
  obtain ⟨hsilent, hidle⟩ : replies events = [] ∧ c.pending = [] := by
    constructor
    · exact List.length_eq_zero_iff.mp (by omega)
    · exact List.length_eq_zero_iff.mp (by omega)
  constructor
  · rw [actions_append, hnone, List.nil_append, actions_onData, data_onData]
  all_goals
    unfold onData
    cases hbuffer : onBuffer (c.data ++ chunk) with
    | wait => simp [hbuffer, hsilent, hnone, hidle, hopen]
    | fail code message =>
        simp [hbuffer, hsilent, hnone, hidle, hopen, ExecConnection.reply]
    | handle req => simp [hbuffer, hsilent, hnone, hidle, hopen]

theorem Served.settled {events : List ConnectionEvent} {c : ExecConnection} (h : Served events c)
    (call : ℕ) (outcome : Except JsString Json) :
    Served (events ++ (onSettled call outcome c).1) (onSettled call outcome c).2 := by
  unfold onSettled
  by_cases hcall : call ∈ c.pending
  · rw [if_neg (not_not.mpr hcall)]
    have hacted : (actions events).length ≤ 1 := by
      rw [h.acted]
      exact DataAction.length_toList_le _
    have herase := List.length_erase_add_one hcall
    have hopen : c.ended = false := h.not_ended (by omega)
    have hanswered := h.answered
    have hreplies : replies (events ++ [.wrote (outcomeBody outcome) c.ended]) =
        replies events ++ [(outcomeBody outcome, c.ended)] := by
      simp
    have hactions : actions (events ++ [.wrote (outcomeBody outcome) c.ended]) =
        actions events := by
      simp
    simp only [ExecConnection.reply]
    constructor
    · rw [hactions]
      exact h.acted
    · rw [hactions, hreplies, List.length_append, List.length_singleton]
      dsimp only
      omega
    · intro _
      rw [hreplies, List.length_append]
      exact Nat.lt_add_left _ Nat.one_pos
    · rw [hreplies, hopen]
      intro reply hreply
      rcases List.mem_append.mp hreply with hbefore | hlast
      · exact h.writable reply hbefore
      · rw [List.mem_singleton.mp hlast]
  · rw [if_pos hcall, List.append_nil]
    exact h

end RemoteOps

import RemoteOps.Config.Targets
import RemoteOps.State.Durability

/-!
# Tool calls and their audit

The handler of a tool runs it, audits the call and answers. The audit counts the call in memory
and then writes the state, inside the same `try` as the tool. When that write fails, a call that
has returned is answered and counted a second time, as a failure. Calls are answered and counted
by what their run did exactly if this never happens (`reportedAndCounted_iff`).
-/

namespace RemoteOps

open Ecma Transition

/-! ## The handler -/

/-- What a run throws. -/
inductive Thrown where
  | ops (e : OpsError)
  | other

def internalError : OpsError := ⟨"INTERNAL", js "erro interno inesperado"⟩

/-- The payload of the answer, and whether the call counts as denied. -/
def toolErrorPayload : Thrown → OpsError × Bool
  | .ops e =>
      (e, e.code.endsWith "_DENIED" || e.code == "TARGET_NOT_FOUND" || e.code == "TARGET_DISABLED")
  | .other => (internalError, false)

/-- A call of a tool: what its run did, and for each of the two audits that may follow the time
and whether the state is written. -/
structure ToolCall where
  tool : JsString
  target : Option JsString
  run : Except Thrown Json
  auditedAt : ℤ
  auditWrites : Bool
  againAt : ℤ
  againWrites : Bool

inductive ToolResponse where
  | content (result : Json)
  | failure (payload : OpsError)
  /-- the handler threw, which is answered with the message -/
  | rejected (message : JsString)

def ToolResponse.isError : ToolResponse → Bool
  | content _ => false
  | failure _ | rejected _ => true

/-- `audit(e)`: the call is counted before the state is written. -/
def audit (store : Store) (c : ToolCall) (result : ToolResult) (errorCode : Option JsString)
    (now : ℤ) (writes : Bool) : Except JsString Unit × Store :=
  store.run (recordToolResult ⟨c.target, c.tool, result, errorCode⟩ now) writes

def failedAs (e : Thrown) : ToolResult := if (toolErrorPayload e).2 then .denied else .error

/-- The `catch` of the handler. -/
def reportFailure (store : Store) (c : ToolCall) (e : Thrown) (now : ℤ) (writes : Bool) :
    ToolResponse × Store :=
  let payload := (toolErrorPayload e).1
  match audit store c (failedAs e) (some (js payload.code)) now writes with
  | (.ok _, store) => (.failure payload, store)
  | (.error message, store) => (.rejected message, store)

def handleToolCall (store : Store) (c : ToolCall) : ToolResponse × Store :=
  match c.run with
  | .error e => reportFailure store c e c.auditedAt c.auditWrites
  | .ok result =>
      match audit store c .ok none c.auditedAt c.auditWrites with
      | (.ok _, store) => (.content result, store)
      | (.error _, store) => reportFailure store c .other c.againAt c.againWrites

def toolServer : Machine Store ToolCall ToolResponse where
  start := Store.initial
  step := handleToolCall

/-! ## The property -/

def ToolCall.threw (c : ToolCall) : Bool :=
  match c.run with
  | .ok _ => false
  | .error _ => true

/-- What the run of the call did. -/
def ToolCall.outcome (c : ToolCall) : ToolResult :=
  match c.run with
  | .ok _ => .ok
  | .error e => failedAs e

/-- The month in which the call was finished. -/
def ToolCall.month (c : ToolCall) : JsString := isoMonth c.auditedAt

def Store.usage (store : Store) (month : JsString) : UsageBucket :=
  (store.live.state.usageMonthly.get? month).getD {}

/-- Each call is counted once, under what its run did. -/
structure Counts (usage : UsageBucket) (calls : List ToolCall) : Prop where
  toolCalls : usage.toolCalls = calls.length
  ok : usage.ok = calls.countP fun c => c.outcome = .ok
  denied : usage.denied = calls.countP fun c => c.outcome = .denied
  error : usage.error = calls.countP fun c => c.outcome = .error
  sum : usage.toolCalls = usage.ok + usage.denied + usage.error

structure ReportedAndCounted (calls : List ToolCall) : Prop where
  reported : ∀ c response, (c, response) ∈ toolServer.trace calls → response.isError = c.threw
  counted : ∀ month,
    Counts ((toolServer.after calls).usage month) (calls.filter fun c => c.month = month)

/-- A call that returned is audited without an exception. -/
def ToolCall.AuditHolds (c : ToolCall) : Prop := c.threw = false → c.auditWrites = true

/-! ## One audit -/

section Steps

variable (store : Store) (c : ToolCall) (result : ToolResult) (errorCode : Option JsString)
  (now : ℤ) (writes : Bool)

/-- The audit throws exactly if the write fails. -/
theorem audit_fst :
    (audit store c result errorCode now writes).1 = if writes then .ok () else .error writeError := by
  rw [audit, Store.run, recordToolResult]
  cases writes <;> rfl

/-- The call is counted, whether or not the state is written. -/
theorem usage_audit (month : JsString) :
    ((audit store c result errorCode now writes).2).usage month =
      if month = isoMonth now then (store.usage month).count result else store.usage month := by
  rw [Store.usage, audit, Store.run_live, recordToolResult, Effect.live]
  dsimp only
  rw [Record.get?_set]
  split_ifs with hmonth
  · rw [hmonth]
    rfl
  · rfl

/-- A failure is answered as one, and the month of its audit counts it. -/
theorem reportFailure_isError (e : Thrown) :
    (reportFailure store c e now writes).1.isError = true := by
  rw [reportFailure]
  split <;> rfl

theorem reportFailure_snd (e : Thrown) :
    (reportFailure store c e now writes).2 =
      (audit store c (failedAs e) (some (js (toolErrorPayload e).1.code)) now writes).2 := by
  rw [reportFailure]
  split <;> (rename_i h; rw [h])

end Steps

/-! ## One call -/

section Call

variable (store : Store) {c : ToolCall}

theorem isError_of_threw (hthrew : c.threw = true) :
    (handleToolCall store c).1.isError = true := by
  rw [ToolCall.threw] at hthrew
  rw [handleToolCall]
  cases hrun : c.run with
  | error e => exact reportFailure_isError store c c.auditedAt c.auditWrites e
  | ok result => simp [hrun] at hthrew

/-- A call that returned is answered by whether its audit was written. -/
theorem isError_of_returned (hthrew : c.threw = false) :
    (handleToolCall store c).1.isError = !c.auditWrites := by
  rw [ToolCall.threw] at hthrew
  rw [handleToolCall]
  cases hrun : c.run with
  | error e => simp [hrun] at hthrew
  | ok result =>
      have haudit := audit_fst store c .ok none c.auditedAt c.auditWrites
      dsimp only
      split
      · next h =>
        rw [h] at haudit
        cases hwrites : c.auditWrites with
        | true => rfl
        | false => simp [hwrites] at haudit
      · next h =>
        rw [h] at haudit
        cases hwrites : c.auditWrites with
        | true => simp [hwrites] at haudit
        | false => exact reportFailure_isError _ c c.againAt c.againWrites .other

/-- A call whose audit holds is counted once, in its month and under its outcome. -/
theorem usage_handleToolCall (haudit : c.AuditHolds) (month : JsString) :
    ((handleToolCall store c).2).usage month =
      if month = c.month then (store.usage month).count c.outcome else store.usage month := by
  rw [ToolCall.AuditHolds, ToolCall.threw] at haudit
  rw [handleToolCall, ToolCall.outcome, ToolCall.month]
  cases hrun : c.run with
  | error e =>
      dsimp only
      rw [reportFailure_snd]
      exact usage_audit store c _ _ c.auditedAt c.auditWrites month
  | ok result =>
      have hwrites : c.auditWrites = true := haudit (by rw [hrun])
      have hfst := audit_fst store c .ok none c.auditedAt c.auditWrites
      have hsnd := usage_audit store c .ok none c.auditedAt c.auditWrites month
      dsimp only
      split
      · next h =>
        rw [h] at hsnd
        exact hsnd
      · next h =>
        rw [h] at hfst
        simp [hwrites] at hfst

end Call

/-! ## Every run -/

theorem counts_nil : Counts {} [] := ⟨rfl, rfl, rfl, rfl, rfl⟩

/-- One more call, counted under its outcome. -/
theorem Counts.concat {usage : UsageBucket} {calls : List ToolCall} (h : Counts usage calls)
    (c : ToolCall) : Counts (usage.count c.outcome) (calls ++ [c]) := by
  obtain ⟨hcalls, hok, hdenied, herror, hsum⟩ := h
  cases houtcome : c.outcome with
  | ok =>
      constructor <;> simp [UsageBucket.count, List.countP_append, houtcome, hcalls, hok, hdenied,
        herror]
      omega
  | denied =>
      constructor <;> simp [UsageBucket.count, List.countP_append, houtcome, hcalls, hok, hdenied,
        herror]
      omega
  | error =>
      constructor <;> simp [UsageBucket.count, List.countP_append, houtcome, hcalls, hok, hdenied,
        herror]
      omega

/-- The calls of a month, each counted once: by induction over the run, from its end. -/
theorem counts_after (calls : List ToolCall) (haudits : ∀ c ∈ calls, c.AuditHolds)
    (month : JsString) :
    Counts ((toolServer.after calls).usage month) (calls.filter fun c => c.month = month) := by
  induction calls using List.reverseRecOn with
  | nil => exact counts_nil
  | append_singleton calls c ih =>
      have hcalls := ih fun d hd => haudits d (List.mem_append_left _ hd)
      have hstep : ((toolServer.after (calls ++ [c])).usage month) = _ :=
        (congrArg (Store.usage · month) (toolServer.after_concat calls c)).trans
          (usage_handleToolCall _ (haudits c (by simp)) month)
      rw [hstep, List.filter_append]
      by_cases hmonth : month = c.month
      · have hkept : [c].filter (fun c => c.month = month) = [c] := by simp [hmonth]
        rw [if_pos hmonth, hkept]
        exact hcalls.concat c
      · have hdropped : [c].filter (fun c => c.month = month) = [] := by
          simp [Ne.symm hmonth]
        rw [if_neg hmonth, hdropped, List.append_nil]
        exact hcalls

/-- Calls are answered and counted by what their run did exactly if no call that returned has
its audit fail. -/
theorem reportedAndCounted_iff (calls : List ToolCall) :
    ReportedAndCounted calls ↔ ∀ c ∈ calls, c.AuditHolds := by
  constructor
  · intro h c hc hreturned
    obtain ⟨pre, post, hcalls⟩ := List.append_of_mem hc
    have hanswer := h.reported c _ (toolServer.mem_trace_iff.mpr ⟨pre, post, hcalls, rfl⟩)
    have hreport : (toolServer.answer pre c).isError = !c.auditWrites :=
      isError_of_returned (toolServer.after pre) hreturned
    rw [hreport, hreturned] at hanswer
    simpa using hanswer
  · intro haudits
    constructor
    · intro c response hmem
      obtain ⟨pre, post, hcalls, rfl⟩ := toolServer.mem_trace_iff.mp hmem
      cases hthrew : c.threw with
      | true => exact isError_of_threw (toolServer.after pre) hthrew
      | false =>
          have hwrites : c.auditWrites = true := haudits c (by simp [hcalls]) hthrew
          have hreport : (toolServer.answer pre c).isError = !c.auditWrites :=
            isError_of_returned (toolServer.after pre) hthrew
          rw [hreport, hwrites]
          rfl
    · exact counts_after calls haudits

/-- A container was restarted, and the disk is full when the call is audited. -/
def restartOnFullDisk : ToolCall :=
  ⟨js "docker_restart", none, .ok (.obj []), 0, false, 0, false⟩

/-- The restart took effect and is answered as a failure. -/
theorem restartOnFullDisk_notReported : ¬ ReportedAndCounted [restartOnFullDisk] := by
  intro h
  have hanswer := h.reported restartOnFullDisk _ (List.mem_singleton_self _)
  have hreport : (handleToolCall Store.initial restartOnFullDisk).1.isError = true :=
    isError_of_returned Store.initial rfl
  exact absurd (hreport.symm.trans hanswer) (by decide)

end RemoteOps

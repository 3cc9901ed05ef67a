import RemoteOps.Agent.Operations
import RemoteOps.Ecma.Normalise
import RemoteOps.Ecma.OrderedMap
import RemoteOps.Exec.Checks
import RemoteOps.Exec.Sessions

/-!
# The process sessions of the broker

`handle` runs to its end before the next event, so that one input of the machine is one turn of
the broker: a request, what a child writes, the end of a child, or a change of the file system by
somebody else. Every request first drops the sessions that have been closed for long.

A session lives as if it were the only one (`get?_after_start`): whatever is asked of the others, a
read returns what its own child has written since it was started (`read_exact`). The sessions that
run are bounded, and a start is refused for capacity exactly at the bound (`capacity_after`). What
the broker does to children is confined to those that it has started (`effects_confined`).
-/

namespace RemoteOps

open Ecma Posix Transition

/-! ## Model -/

/-- `interface Session`. Of the child only its process id is kept here. -/
structure ProcessSession where
  id : JsString
  pid : Option ℕ
  startedAt : ℕ
  cwd : List FileName
  program : JsString
  output : JsString := []
  exitCode : Option ℤ := none
  closedAt : Option ℕ := none

namespace ProcessSession

def isRunning (s : ProcessSession) : Bool := s.closedAt.isNone

/-- The part of a session that `process.read` looks at. -/
def toSession (s : ProcessSession) : Session where
  id := s.id
  output := s.output
  exitCode := s.exitCode
  closed := !s.isRunning

end ProcessSession

def sessionLifetime : ℕ := 30 * 60000

/-- `closedAt && now - closedAt > 30 * 60_000`. -/
def isExpired (now : ℕ) (closedAt : Option ℕ) : Bool :=
  closedAt.any fun t => t ≠ 0 && t + sessionLifetime < now

/-- The environment of the broker, with the checks it makes of it when it starts. -/
structure ProcessBroker extends ExecBroker where
  programs : List JsString
  maxActiveSessions : ℕ
  max_range : 1 ≤ maxActiveSessions ∧ maxActiveSessions ≤ 256

structure ProcessState where
  files : HostFiles
  sessions : OrderedMap ProcessSession

def activeSessionCount (sessions : OrderedMap ProcessSession) : ℕ :=
  sessions.entries.countP fun e => e.2.isRunning

/-- Drop the sessions that have expired. -/
def reap (now : ℕ) (sessions : OrderedMap ProcessSession) : OrderedMap ProcessSession where
  entries := sessions.entries.filter fun e => !isExpired now e.2.closedAt
  nodup := sessions.nodup.sublist (List.filter_sublist.map Prod.fst)

/-- The requests of a client. The numbers of a read are those that the schema of the tool admits. -/
inductive ProcessRequest where
  | workspace (op : WorkspaceOp) (args : List (JsString × Json))
  | start (args : List (JsString × Json))
  | read (sessionId : Option Json) (offset : ℕ) (maxChars : Option ℕ)
  | input (args : List (JsString × Json))
  | kill (args : List (JsString × Json))
  | list
  | other (op : JsString)

/-- What the system gives while a request is handled: random bytes, the time, a child or the error
that `spawn` throws, and whether a signal was sent. -/
structure SystemAnswer where
  id : JsString
  startedAt : ℕ
  spawned : Except JsString (Option ℕ)
  sent : Bool

/-- What is done to children. -/
inductive ChildEffect where
  | spawned (id program : JsString) (args : List JsString) (cwd : List FileName)
  | wrote (id : JsString) (data : ByteArray)
  | signalled (id signal : JsString)

/-- What `process.list` says about a session. -/
structure SessionSummary where
  sessionId : JsString
  pid : Option ℕ
  program : JsString
  cwd : List FileName
  running : Bool
  exitCode : Option ℤ
  startedAt : ℕ

def ProcessSession.summary (s : ProcessSession) : SessionSummary :=
  ⟨s.id, s.pid, s.program, s.cwd, s.isRunning, s.exitCode, s.startedAt⟩

inductive ProcessReply where
  | workspace (result : Json)
  | started (sessionId : JsString) (pid : Option ℕ) (cwd : List FileName) (program : JsString)
  | read (reply : ReadReply)
  | input (sessionId : JsString) (bytes : ℕ)
  | killed (sessionId signal : JsString) (sent : Bool)
  | listed (maxActiveSessions activeSessions : ℕ) (sessions : List SessionSummary)

/-- A reply, what is done to children for it, and the sessions afterwards. -/
structure Handled where
  reply : ProcessReply
  effects : List ChildEffect := []
  sessions : OrderedMap ProcessSession

section Handlers

variable (p : Platform) (b : ProcessBroker) (sys : SystemAnswer)
  (sessions : OrderedMap ProcessSession)

def ProcessBroker.safeProgram (v : Option Json) : Except BrokerError JsString := do
  let program ← convert (strOrEmpty v)
  if !isAgentProgram program || program ∉ b.programs then throwing "program_not_allowed"
  else return program

def brokerTextArg (max : ℕ) (v : Json) : Except BrokerError JsString := do
  let s ← convert (strOrEmpty (some v))
  if max < utf8Length s then throwing "argument_too_large" else return s

def safeArgs (v : Option Json) : Except BrokerError (List JsString) :=
  match v with
  | some (.arr xs) =>
      if 80 < xs.length then throwing "invalid_args" else xs.mapM (brokerTextArg 16384)
  | _ => throwing "invalid_args"

/-- `process.start`. -/
def startProcessSession (files : HostFiles) (args : List (JsString × Json)) :
    Except BrokerError Handled :=
  if b.maxActiveSessions ≤ activeSessionCount sessions then throwing "session_capacity"
  else do
    let cwd ← checkedPath b.toExecBroker files (lookup (js "cwd") args) true
    let program ← b.safeProgram (lookup (js "program") args)
    let argv ← safeArgs (lookup (js "argv") args)
    match sys.spawned with
    | .error message => .error (.thrown message)
    | .ok pid =>
        return {
          reply := .started sys.id pid cwd program
          effects := [.spawned sys.id program argv cwd]
          sessions := sessions.set sys.id
            { id := sys.id, pid, startedAt := sys.startedAt, cwd, program } }

/-- `process.read`. -/
def readProcessSession (sessionId : Option Json) (offset : ℕ) (maxChars : Option ℕ) :
    Except BrokerError Handled := do
  let id ← convert (strOrEmpty sessionId)
  match sessions.get? id with
  | none => throwing "session_not_found"
  | some s => return { reply := .read (processRead s.toSession offset maxChars), sessions }

/-- `decodeB64(v, 65536)`: the bound is below that of a write, and the error is the same. -/
def decodeInput (v : Option Json) : Except BrokerError ByteArray := do
  let data ← decodeB64 p v
  if 65536 < data.1.size then throwing "payload_too_large" else return data.1

/-- `process.input`. -/
def sendProcessInput (args : List (JsString × Json)) : Except BrokerError Handled := do
  let id ← convert (strOrEmpty (lookup (js "session_id") args))
  match sessions.get? id with
  | none => throwing "session_not_running"
  | some s =>
      if !s.isRunning then throwing "session_not_running"
      else
        let data ← decodeInput p (lookup (js "input_b64") args)
        return { reply := .input id data.size, effects := [.wrote id data], sessions }

def allowedSignals : List JsString := ["SIGTERM", "SIGINT", "SIGKILL"].map js

/-- `String(a.signal ?? "SIGTERM")`. -/
def signalText : Option Json → Option JsString
  | none | some .null => some (js "SIGTERM")
  | some v => v.toStr

/-- `process.kill`. -/
def killProcessSession (args : List (JsString × Json)) : Except BrokerError Handled := do
  let id ← convert (strOrEmpty (lookup (js "session_id") args))
  match sessions.get? id with
  | none => throwing "session_not_found"
  | some _ =>
      let signal ← convert (signalText (lookup (js "signal") args))
      if signal ∉ allowedSignals then throwing "signal_not_allowed"
      else
        return {
          reply := .killed id signal sys.sent, effects := [.signalled id signal], sessions }

def listProcessSessions : Handled where
  reply := .listed b.maxActiveSessions (activeSessionCount sessions)
    (sessions.entries.map fun e => e.2.summary)
  sessions := sessions

/-- The branches of `handle` for the processes. -/
def handleProcess (files : HostFiles) : ProcessRequest → Except BrokerError Handled
  | .start args => startProcessSession b sys sessions files args
  | .read sessionId offset maxChars => readProcessSession sessions sessionId offset maxChars
  | .input args => sendProcessInput p sessions args
  | .kill args => killProcessSession sys sessions args
  | .list => .ok (listProcessSessions b sessions)
  | .workspace _ _ | .other _ => throwing "unsupported_operation"

end Handlers

/-- The answer of a turn and what was done to children in it. -/
structure ProcessTurn where
  reply : Option (Except BrokerError ProcessReply) := none
  effects : List ChildEffect := []

inductive ProcessInput where
  | request (now : ℕ) (req : ProcessRequest) (sys : SystemAnswer)
  /-- an event of the child of a session that calls `append` -/
  | append (id : JsString) (a : Addition)
  | close (id : JsString) (code : Option ℤ) (now : ℕ)
  /-- somebody else changes the file system -/
  | files (fs : HostFiles)

/-- A request that fails leaves the sessions as `reap` has left them. -/
def answerRequest (files : HostFiles) (sessions : OrderedMap ProcessSession) :
    Except BrokerError Handled → ProcessTurn × ProcessState
  | .error e => ({ reply := some (.error e) }, ⟨files, sessions⟩)
  | .ok handled =>
      ({ reply := some (.ok handled.reply), effects := handled.effects }, ⟨files, handled.sessions⟩)

/-- `handle(req)`. -/
def handleProcesses (p : Platform) (b : ProcessBroker) (now : ℕ) (req : ProcessRequest)
    (sys : SystemAnswer) (s : ProcessState) : ProcessTurn × ProcessState :=
  let sessions := reap now s.sessions
  match req with
  | .workspace op args =>
      let out := handleWorkspace p b.toExecBroker op args s.files
      ({ reply := some (out.result.map .workspace) }, ⟨out.fs, sessions⟩)
  | req => answerRequest s.files sessions (handleProcess p b sys sessions s.files req)

/-- Change the session of an event, if it is still kept. -/
def updateSession (id : JsString) (f : ProcessSession → ProcessSession) (s : ProcessState) :
    ProcessState :=
  match s.sessions.get? id with
  | none => s
  | some session => { s with sessions := s.sessions.set id (f session) }

def ProcessInput.step (p : Platform) (b : ProcessBroker) (s : ProcessState) :
    ProcessInput → ProcessTurn × ProcessState
  | .request now req sys => handleProcesses p b now req sys s
  | .append id a =>
      ({}, updateSession id (fun session =>
        { session with output := appendOutput session.output a }) s)
  | .close id code now =>
      ({}, updateSession id (fun session =>
        { session with exitCode := code, closedAt := some now }) s)
  | .files fs => ({}, { s with files := fs })

def processBroker (p : Platform) (b : ProcessBroker) (files : HostFiles) :
    Machine ProcessState ProcessInput ProcessTurn where
  start := ⟨files, .empty⟩
  step := ProcessInput.step p b

/-! ## The table -/

section Table

variable {sessions : OrderedMap ProcessSession} {id : JsString} {now : ℕ}

theorem get?_eq_some_iff {s : ProcessSession} :
    sessions.get? id = some s ↔ (id, s) ∈ sessions.entries :=
  lookup_eq_some_iff sessions.nodup

theorem get?_reap :
    (reap now sessions).get? id =
      (sessions.get? id).filter fun s => !isExpired now s.closedAt := by
  ext s
  rw [get?_eq_some_iff, reap, List.mem_filter, ← get?_eq_some_iff, Option.filter_eq_some_iff]

/-- The ids of the sessions that run. -/
def runningKeys (sessions : OrderedMap ProcessSession) : List JsString :=
  (sessions.entries.filter fun e => e.2.isRunning).map Prod.fst

theorem activeSessionCount_eq : activeSessionCount sessions = (runningKeys sessions).length := by
  rw [activeSessionCount, runningKeys, List.length_map, List.countP_eq_length_filter]

theorem mem_runningKeys {s : ProcessSession} (h : sessions.get? id = some s)
    (hrunning : s.isRunning = true) : id ∈ runningKeys sessions :=
  List.mem_map.mpr ⟨(id, s), List.mem_filter.mpr ⟨get?_eq_some_iff.mp h, hrunning⟩, rfl⟩

/-- Only what is closed expires. -/
theorem runningKeys_reap : runningKeys (reap now sessions) = runningKeys sessions := by
  rw [runningKeys, runningKeys, reap, List.filter_filter]
  refine congrArg (List.map Prod.fst) (List.filter_congr fun e _ => ?_)
  cases hclosed : e.2.closedAt with
  | none => simp [ProcessSession.isRunning, isExpired, hclosed]
  | some t => simp [ProcessSession.isRunning, hclosed]

theorem runningKeys_set_new {s : ProcessSession} (h : id ∉ sessions.keys)
    (hrunning : s.isRunning = true) :
    runningKeys (sessions.set id s) = runningKeys sessions ++ [id] := by
  rw [runningKeys, OrderedMap.set]
  dsimp only
  rw [if_neg h, List.filter_append, List.map_append, runningKeys]
  simp [hrunning]

/-- A session that is changed keeps its place. -/
theorem runningKeys_set_old {s s' : ProcessSession} (h : sessions.get? id = some s) :
    runningKeys (sessions.set id s') =
      (sessions.entries.filter fun e => if e.1 = id then s'.isRunning else e.2.isRunning).map
        Prod.fst := by
  have hmem : id ∈ sessions.keys := List.mem_map_of_mem (get?_eq_some_iff.mp h)
  rw [runningKeys, OrderedMap.set]
  dsimp only
  rw [if_pos hmem, replaceProp, List.filter_map, List.map_map]
  have hfst : Prod.fst ∘ (fun e : JsString × ProcessSession =>
      if e.1 = id then (e.1, s') else e) = Prod.fst := by
    funext e
    simp only [Function.comp_apply]
    split_ifs <;> rfl
  rw [hfst]
  refine congrArg (List.map Prod.fst) (List.filter_congr fun e _ => ?_)
  simp only [Function.comp_apply]
  split_ifs <;> rfl

theorem runningKeys_set_same {s s' : ProcessSession} (h : sessions.get? id = some s)
    (hrunning : s'.isRunning = s.isRunning) :
    runningKeys (sessions.set id s') = runningKeys sessions := by
  rw [runningKeys_set_old h, runningKeys]
  refine congrArg (List.map Prod.fst) (List.filter_congr fun e he => ?_)
  split_ifs with hid
  · have hs : sessions.get? id = some e.2 := get?_eq_some_iff.mpr (hid ▸ he)
    rw [hrunning, Option.some.inj (h.symm.trans hs)]
  · rfl

theorem runningKeys_set_closed {s s' : ProcessSession} (h : sessions.get? id = some s)
    (hclosed : s'.isRunning = false) :
    runningKeys (sessions.set id s') = (runningKeys sessions).filter fun k => k ≠ id := by
  rw [runningKeys_set_old h, runningKeys, List.filter_map, List.filter_filter]
  refine congrArg (List.map Prod.fst) (List.filter_congr fun e _ => ?_)
  simp only [Function.comp_apply]
  split_ifs with hid <;> simp [hid, hclosed]

end Table

/-! ## One turn -/

section Turn

variable {p : Platform} {b : ProcessBroker} {sys : SystemAnswer} {files : HostFiles}
  {sessions : OrderedMap ProcessSession} {handled : Handled}

/-- What a start that succeeds has checked, and what it does. -/
structure Starts (b : ProcessBroker) (sys : SystemAnswer) (sessions : OrderedMap ProcessSession)
    (files : HostFiles) (args : List (JsString × Json)) (pid : Option ℕ) (cwd : List FileName)
    (program : JsString) (argv : List JsString) : Prop where
  capacity : activeSessionCount sessions < b.maxActiveSessions
  directory : checkedPath b.toExecBroker files (lookup (js "cwd") args) true = .ok cwd
  program_ok : b.safeProgram (lookup (js "program") args) = .ok program
  argv_ok : safeArgs (lookup (js "argv") args) = .ok argv
  spawned : sys.spawned = .ok pid

/-- The session of a start. -/
def startedSession (sys : SystemAnswer) (pid : Option ℕ) (cwd : List FileName)
    (program : JsString) : ProcessSession :=
  { id := sys.id, pid, startedAt := sys.startedAt, cwd, program }

def startHandled (sys : SystemAnswer) (sessions : OrderedMap ProcessSession) (pid : Option ℕ)
    (cwd : List FileName) (program : JsString) (argv : List JsString) : Handled where
  reply := .started sys.id pid cwd program
  effects := [.spawned sys.id program argv cwd]
  sessions := sessions.set sys.id (startedSession sys pid cwd program)

theorem startProcessSession_eq_ok {args : List (JsString × Json)} :
    startProcessSession b sys sessions files args = .ok handled ↔
      ∃ pid cwd program argv, Starts b sys sessions files args pid cwd program argv ∧
        handled = startHandled sys sessions pid cwd program argv := by
  constructor
  · intro h
    unfold startProcessSession at h
    split at h
    · cases h
    · next hcapacity =>
        obtain ⟨cwd, hcwd, h⟩ := bind_eq_ok h
        obtain ⟨program, hprogram, h⟩ := bind_eq_ok h
        obtain ⟨argv, hargv, h⟩ := bind_eq_ok h
        cases hspawned : sys.spawned with
        | error message =>
            rw [hspawned] at h
            cases h
        | ok pid =>
            rw [hspawned] at h
            exact ⟨pid, cwd, program, argv,
              ⟨not_le.mp hcapacity, hcwd, hprogram, hargv, hspawned⟩, (Except.ok.inj h).symm⟩
  · rintro ⟨pid, cwd, program, argv, hstarts, rfl⟩
    unfold startProcessSession
    rw [if_neg (not_le.mpr hstarts.capacity), hstarts.directory, ok_bind, hstarts.program_ok,
      ok_bind, hstarts.argv_ok, ok_bind, hstarts.spawned]
    rfl

/-- What is done for a request that starts nothing reaches sessions that are there. -/
def Reaches (sessions : OrderedMap ProcessSession) : ChildEffect → Prop
  | .spawned _ _ _ _ => False
  | .wrote id data => id ∈ runningKeys sessions ∧ data.size ≤ 65536
  | .signalled id signal => id ∈ sessions.keys ∧ signal ∈ allowedSignals

def ProcessReply.startedIds : ProcessReply → List JsString
  | .started id _ _ _ => [id]
  | _ => []

def ProcessTurn.startedIds (t : ProcessTurn) : List JsString :=
  match t.reply with
  | some (.ok reply) => reply.startedIds
  | _ => []

/-- A turn that starts nothing and keeps the sessions. -/
structure StartsNothing (sessions sessions' : OrderedMap ProcessSession)
    (startedIds : List JsString) (effects : List ChildEffect) : Prop where
  sessions_eq : sessions' = sessions
  startedIds_eq : startedIds = []
  reaches : ∀ e ∈ effects, Reaches sessions e

theorem startsNothing_of_handleProcess {req : ProcessRequest} (hstart : ∀ args, req ≠ .start args)
    (h : handleProcess p b sys sessions files req = .ok handled) :
    StartsNothing sessions handled.sessions handled.reply.startedIds handled.effects := by
  cases req with
  | workspace op args => cases h
  | start args => exact absurd rfl (hstart args)
  | read sessionId offset maxChars =>
      obtain ⟨id, -, h⟩ := bind_eq_ok h
      cases hget : sessions.get? id with
      | none =>
          rw [hget] at h
          cases h
      | some s =>
          rw [hget] at h
          obtain rfl := Except.ok.inj h
          exact ⟨rfl, rfl, fun _ he => absurd he List.not_mem_nil⟩
  | input args =>
      obtain ⟨id, -, h⟩ := bind_eq_ok h
      cases hget : sessions.get? id with
      | none =>
          rw [hget] at h
          cases h
      | some s =>
          rw [hget] at h
          dsimp only at h
          split at h
          · cases h
          · next hrunning =>
              obtain ⟨data, hdata, h⟩ := bind_eq_ok h
              obtain rfl := Except.ok.inj h
              refine ⟨rfl, rfl, fun e he => ?_⟩
              obtain rfl := List.mem_singleton.mp he
              refine ⟨mem_runningKeys hget (by simpa using hrunning), ?_⟩
              obtain ⟨data', -, hdata⟩ := bind_eq_ok hdata
              split at hdata
              · cases hdata
              · next hsize =>
                  obtain rfl := Except.ok.inj hdata
                  exact not_lt.mp hsize
  | kill args =>
      obtain ⟨id, -, h⟩ := bind_eq_ok h
      cases hget : sessions.get? id with
      | none =>
          rw [hget] at h
          cases h
      | some s =>
          rw [hget] at h
          obtain ⟨signal, -, h⟩ := bind_eq_ok h
          split at h
          · cases h
          · next hsignal =>
              obtain rfl := Except.ok.inj h
              refine ⟨rfl, rfl, fun e he => ?_⟩
              obtain rfl := List.mem_singleton.mp he
              exact ⟨List.mem_map_of_mem (get?_eq_some_iff.mp hget), not_not.mp hsignal⟩
  | list =>
      obtain rfl := Except.ok.inj h
      exact ⟨rfl, rfl, fun _ he => absurd he List.not_mem_nil⟩
  | other op => cases h

variable {now : ℕ} {req : ProcessRequest} {s : ProcessState}

/-- A request starts a session or leaves the sessions as `reap` has left them. -/
theorem handleProcesses_cases :
    (∃ args pid cwd program argv, req = .start args ∧
      Starts b sys (reap now s.sessions) s.files args pid cwd program argv ∧
      handleProcesses p b now req sys s =
        ({ reply := some (.ok (.started sys.id pid cwd program))
           effects := [.spawned sys.id program argv cwd] },
          ⟨s.files, (reap now s.sessions).set sys.id (startedSession sys pid cwd program)⟩)) ∨
      StartsNothing (reap now s.sessions) (handleProcesses p b now req sys s).2.sessions
        (handleProcesses p b now req sys s).1.startedIds
        (handleProcesses p b now req sys s).1.effects := by
  have hrefused : ∀ files : HostFiles, ∀ e : BrokerError,
      StartsNothing (reap now s.sessions) (ProcessState.mk files (reap now s.sessions)).sessions
        (ProcessTurn.mk (some (.error e)) []).startedIds [] :=
    fun _ _ => ⟨rfl, rfl, fun _ he => absurd he List.not_mem_nil⟩
  have hother : (∀ op args, req ≠ .workspace op args) → (∀ args, req ≠ .start args) →
      StartsNothing (reap now s.sessions) (handleProcesses p b now req sys s).2.sessions
        (handleProcesses p b now req sys s).1.startedIds
        (handleProcesses p b now req sys s).1.effects := by
    intro hworkspace hstart
    have hrun : handleProcesses p b now req sys s = answerRequest s.files (reap now s.sessions)
        (handleProcess p b sys (reap now s.sessions) s.files req) := by
      cases req with
      | workspace op args => exact absurd rfl (hworkspace op args)
      | _ => rfl
    rw [hrun]
    cases hresult : handleProcess p b sys (reap now s.sessions) s.files req with
    | error e => exact hrefused s.files e
    | ok handled => exact startsNothing_of_handleProcess hstart hresult
  cases req with
  | workspace op args =>
      refine .inr ⟨rfl, ?_, fun _ he => absurd he List.not_mem_nil⟩
      have hturn : (handleProcesses p b now (.workspace op args) sys s).1.reply =
          some ((handleWorkspace p b.toExecBroker op args s.files).result.map .workspace) := rfl
      rw [ProcessTurn.startedIds, hturn]
      cases (handleWorkspace p b.toExecBroker op args s.files).result <;> rfl
  | start args =>
      have hrun : handleProcesses p b now (.start args) sys s =
          answerRequest s.files (reap now s.sessions)
            (startProcessSession b sys (reap now s.sessions) s.files args) := rfl
      cases hresult : startProcessSession b sys (reap now s.sessions) s.files args with
      | error e =>
          rw [hresult] at hrun
          rw [hrun]
          exact .inr (hrefused s.files e)
      | ok handled =>
          obtain ⟨pid, cwd, program, argv, hstarts, rfl⟩ := startProcessSession_eq_ok.mp hresult
          rw [hresult] at hrun
          exact .inl ⟨args, pid, cwd, program, argv, rfl, hstarts, hrun⟩
  | read _ _ _ => exact .inr (hother (by simp) (by simp))
  | input _ => exact .inr (hother (by simp) (by simp))
  | kill _ => exact .inr (hother (by simp) (by simp))
  | list => exact .inr (hother (by simp) (by simp))
  | other _ => exact .inr (hother (by simp) (by simp))

end Turn

/-! ## One session among others -/

/-- What a turn that does not start a session does to it. -/
def live (id : JsString) : ProcessInput → ProcessSession → Option ProcessSession
  | .request now _ _, s => if isExpired now s.closedAt then none else some s
  | .append id' a, s =>
      some (if id' = id then { s with output := appendOutput s.output a } else s)
  | .close id' code now, s =>
      some (if id' = id then { s with exitCode := code, closedAt := some now } else s)
  | .files _, s => some s

/-- The id that is drawn for a start. -/
def ProcessInput.drawn : ProcessInput → List JsString
  | .request _ (.start _) sys => [sys.id]
  | _ => []

section Step

variable {p : Platform} {b : ProcessBroker} {s : ProcessState} {i : ProcessInput} {id : JsString}

theorem get?_updateSession {id' : JsString} {f : ProcessSession → ProcessSession} :
    (updateSession id' f s).sessions.get? id =
      (s.sessions.get? id).map fun session => if id' = id then f session else session := by
  rw [updateSession]
  cases hold : s.sessions.get? id' with
  | none =>
      by_cases hid : id' = id
      · obtain rfl := hid
        simp [hold]
      · simp [hid]
  | some session =>
      dsimp only
      rw [OrderedMap.get?_set]
      by_cases hid : id = id'
      · obtain rfl := hid
        simp [hold]
      · rw [if_neg hid]
        simp [Ne.symm hid]

/-- A turn does to a session what it would do if there were no other. -/
theorem get?_step (h : id ∉ i.drawn) :
    (i.step p b s).2.sessions.get? id = (s.sessions.get? id).bind (live id i) := by
  have hreap : ∀ now, (reap now s.sessions).get? id = (s.sessions.get? id).bind fun session =>
      if isExpired now session.closedAt then none else some session := by
    intro now
    rw [get?_reap]
    cases s.sessions.get? id with
    | none => rfl
    | some session => cases hexpired : isExpired now session.closedAt <;> simp [hexpired]
  cases i with
  | request now req sys =>
      obtain ⟨args, pid, cwd, program, argv, rfl, -, hrun⟩ | hquiet :=
        @handleProcesses_cases p b sys now req s
      · have hid : id ≠ sys.id := by simpa [ProcessInput.drawn] using h
        rw [ProcessInput.step, hrun, OrderedMap.get?_set, if_neg hid]
        exact hreap now
      · rw [ProcessInput.step, hquiet.sessions_eq]
        exact hreap now
  | append id' a =>
      rw [ProcessInput.step, get?_updateSession]
      cases s.sessions.get? id <;> rfl
  | close id' code now =>
      rw [ProcessInput.step, get?_updateSession]
      cases s.sessions.get? id <;> rfl
  | files fs =>
      rw [ProcessInput.step]
      cases s.sessions.get? id <;> rfl

end Step

/-! ## What a child has done -/

section Children

variable (id : JsString)

/-- What the child of the session makes the handlers append. -/
def additionOf : ProcessInput → Option Addition
  | .append id' a => if id' = id then some a else none
  | _ => none

/-- The exit code and the time with which the child of the session is closed. -/
def endOf : ProcessInput → Option (Option ℤ × ℕ)
  | .close id' code now => if id' = id then some (code, now) else none
  | _ => none

def childAdditions (is : List ProcessInput) : List Addition := is.filterMap (additionOf id)

def childEnd (is : List ProcessInput) : Option (Option ℤ × ℕ) :=
  (is.filterMap (endOf id)).getLast?

/-- The session as its child has left it. -/
def childSession (started : ProcessSession) (is : List ProcessInput) : ProcessSession :=
  { started with
    output := outputAfter (childAdditions id is)
    exitCode := (childEnd id is).bind Prod.fst
    closedAt := (childEnd id is).map Prod.snd }

/-- A request has come more than half an hour after the child was closed. -/
def Forgotten (is : List ProcessInput) : Prop :=
  ∃ pre now req sys, pre ++ [.request now req sys] <+: is ∧
    isExpired now ((childEnd id pre).map Prod.snd) = true

variable {id} {is : List ProcessInput} {started : ProcessSession}

theorem childAdditions_concat (i : ProcessInput) :
    childAdditions id (is ++ [i]) = childAdditions id is ++ (additionOf id i).toList := by
  rw [childAdditions, childAdditions, List.filterMap_append]
  cases h : additionOf id i <;> simp [h]

theorem childEnd_concat (i : ProcessInput) :
    childEnd id (is ++ [i]) = (endOf id i).or (childEnd id is) := by
  rw [childEnd, childEnd, List.filterMap_append, List.getLast?_append]
  cases h : endOf id i <;> simp [h]

theorem forgotten_concat {i : ProcessInput} :
    Forgotten id (is ++ [i]) ↔ Forgotten id is ∨ ∃ now req sys, i = .request now req sys ∧
      isExpired now ((childEnd id is).map Prod.snd) = true := by
  constructor
  · rintro ⟨pre, now, req, sys, hpre, hexpired⟩
    obtain heq | hpre := List.prefix_concat_iff.mp hpre
    · obtain ⟨rfl, hlast⟩ := List.append_inj' heq rfl
      exact .inr ⟨now, req, sys, (List.singleton_inj.mp hlast).symm, hexpired⟩
    · exact .inl ⟨pre, now, req, sys, hpre, hexpired⟩
  · rintro (⟨pre, now, req, sys, hpre, hexpired⟩ | ⟨now, req, sys, rfl, hexpired⟩)
    · exact ⟨pre, now, req, sys, hpre.trans (List.prefix_append _ _), hexpired⟩
    · exact ⟨is, now, req, sys, List.prefix_rfl, hexpired⟩

/-- A session that runs is not forgotten. -/
theorem not_forgotten (h : childEnd id is = none) : ¬Forgotten id is := by
  rintro ⟨pre, now, req, sys, hpre, hexpired⟩
  have hnone : is.filterMap (endOf id) = [] := List.getLast?_eq_none_iff.mp h
  have hgrows : pre.filterMap (endOf id) <+: is.filterMap (endOf id) :=
    ((List.prefix_append pre _).trans hpre).filterMap _
  rw [hnone, List.prefix_nil] at hgrows
  rw [childEnd, hgrows] at hexpired
  cases hexpired

theorem childSession_concat (i : ProcessInput) :
    childSession id started (is ++ [i]) =
      { childSession id started is with
        output := (additionOf id i).elim (outputAfter (childAdditions id is))
          (appendOutput (outputAfter (childAdditions id is)))
        exitCode := ((endOf id i).or (childEnd id is)).bind Prod.fst
        closedAt := ((endOf id i).or (childEnd id is)).map Prod.snd } := by
  rw [childSession, childAdditions_concat, childEnd_concat, outputAfter, List.foldl_append,
    ← outputAfter]
  cases additionOf id i <;> rfl

/-- A turn that does not find the session expired does to it what its child does. -/
theorem live_childSession {i : ProcessInput} (h : ¬Forgotten id (is ++ [i])) :
    live id i (childSession id started is) = some (childSession id started (is ++ [i])) := by
  rw [childSession_concat]
  cases i with
  | request now req sys =>
      have hkept : ¬isExpired now ((childEnd id is).map Prod.snd) = true :=
        fun hexpired => h (forgotten_concat.mpr (.inr ⟨now, req, sys, rfl, hexpired⟩))
      exact if_neg hkept
  | append id' a =>
      have haddition : additionOf id (.append id' a) = if id' = id then some a else none := rfl
      have hend : endOf id (.append id' a) = none := rfl
      rw [live, haddition, hend]
      split_ifs <;> rfl
  | close id' code now =>
      have haddition : additionOf id (.close id' code now) = none := rfl
      have hend : endOf id (.close id' code now) =
        if id' = id then some (code, now) else none := rfl
      rw [live, haddition, hend]
      split_ifs <;> rfl
  | files fs => rfl

end Children

/-! ## One session in a run -/

section Runs

variable {p : Platform} {b : ProcessBroker} {fs : HostFiles} {pre post : List ProcessInput}
  {now : ℕ} {args : List (JsString × Json)} {sys : SystemAnswer} {pid : Option ℕ}
  {cwd : List FileName} {program : JsString}

theorem get?_after_concat {is : List ProcessInput} {i : ProcessInput} {id : JsString}
    (h : id ∉ i.drawn) :
    ((processBroker p b fs).after (is ++ [i])).sessions.get? id =
      (((processBroker p b fs).after is).sessions.get? id).bind (live id i) := by
  rw [Machine.after_concat]
  exact get?_step h

theorem get?_started
    (hstarted : ((processBroker p b fs).answer pre (.request now (.start args) sys)).reply =
      some (.ok (.started sys.id pid cwd program))) :
    ((processBroker p b fs).after (pre ++ [.request now (.start args) sys])).sessions.get? sys.id =
      some (startedSession sys pid cwd program) := by
  rw [Machine.after_concat]
  have hanswer : ((processBroker p b fs).answer pre (.request now (.start args) sys)) =
    (handleProcesses p b now (.start args) sys ((processBroker p b fs).after pre)).1 := rfl
  rw [hanswer] at hstarted
  have hstep : ((processBroker p b fs).step ((processBroker p b fs).after pre)
      (.request now (.start args) sys)).2 =
    (handleProcesses p b now (.start args) sys ((processBroker p b fs).after pre)).2 := rfl
  rw [hstep]
  obtain ⟨_, pid', cwd', program', argv, -, -, hrun⟩ | hquiet :=
    @handleProcesses_cases p b sys now (.start args) ((processBroker p b fs).after pre)
  · rw [hrun] at hstarted ⊢
    obtain ⟨-, rfl, rfl, rfl⟩ : sys.id = sys.id ∧ pid' = pid ∧ cwd' = cwd ∧ program' = program := by
      simpa using hstarted
    rw [OrderedMap.get?_set, if_pos rfl]
  · have hids := hquiet.startedIds_eq
    rw [ProcessTurn.startedIds, hstarted] at hids
    cases hids

/-- A session is kept as its child has left it, whatever was done to the others, until a request
comes more than half an hour after the child was closed. -/
theorem get?_after_start
    (hfresh : Fresh ProcessInput.drawn (pre ++ .request now (.start args) sys :: post))
    (hstarted : ((processBroker p b fs).answer pre (.request now (.start args) sys)).reply =
      some (.ok (.started sys.id pid cwd program))) :
    (¬Forgotten sys.id post →
      ((processBroker p b fs).after (pre ++ .request now (.start args) sys :: post)).sessions.get?
        sys.id = some (childSession sys.id (startedSession sys pid cwd program) post)) ∧
    (Forgotten sys.id post →
      ((processBroker p b fs).after (pre ++ .request now (.start args) sys :: post)).sessions.get?
        sys.id = none) := by
  induction post using List.reverseRecOn with
  | nil =>
      refine ⟨fun _ => get?_started hstarted, ?_⟩
      rintro ⟨before, now', req, sys', hbefore, -⟩
      exact absurd (List.prefix_nil.mp hbefore) (by simp)
  | append_singleton post i ih =>
      have hsnoc : pre ++ .request now (.start args) sys :: (post ++ [i]) =
        (pre ++ .request now (.start args) sys :: post) ++ [i] := by simp
      rw [hsnoc] at hfresh ⊢
      have hother : sys.id ∉ i.drawn := by
        intro hi
        apply hfresh.notMem hi
        simp [ProcessInput.drawn]
      obtain ⟨hkept, hforgotten⟩ := ih (prefixClosed_fresh _ _ _ hfresh)
      rw [get?_after_concat hother]
      constructor
      · intro h
        have hbefore : ¬Forgotten sys.id post :=
          fun hbefore => h (forgotten_concat.mpr (.inl hbefore))
        rw [hkept hbefore]
        exact live_childSession h
      · intro h
        obtain hbefore | ⟨now', req, sys', rfl, hexpired⟩ := forgotten_concat.mp h
        · rw [hforgotten hbefore]
          rfl
        · by_cases hbefore : Forgotten sys.id post
          · rw [hforgotten hbefore]
            rfl
          · rw [hkept hbefore]
            exact if_pos hexpired

theorem handleProcesses_read {s : ProcessState} {id : JsString} {sessionId : Option Json}
    {offset : ℕ} {maxChars : Option ℕ} (hid : strOrEmpty sessionId = some id) :
    (handleProcesses p b now (.read sessionId offset maxChars) sys s).2.sessions =
        reap now s.sessions ∧
      (handleProcesses p b now (.read sessionId offset maxChars) sys s).1.reply =
        some (((reap now s.sessions).get? id).elim (throwing "session_not_found") fun session =>
          .ok (.read (processRead session.toSession offset maxChars))) := by
  have hrun : handleProcesses p b now (.read sessionId offset maxChars) sys s =
      answerRequest s.files (reap now s.sessions)
        (readProcessSession (reap now s.sessions) sessionId offset maxChars) := rfl
  rw [hrun, readProcessSession, hid, convert, ok_bind]
  cases (reap now s.sessions).get? id with
  | none => exact ⟨rfl, rfl⟩
  | some session => exact ⟨rfl, rfl⟩

/-- A read returns what the child of its session has written, whatever was done to the others, until
the session is forgotten. -/
theorem read_exact {now' offset : ℕ} {maxChars : Option ℕ} {sessionId : Option Json}
    {sys' : SystemAnswer}
    (hfresh : Fresh ProcessInput.drawn (pre ++ .request now (.start args) sys :: post))
    (hstarted : ((processBroker p b fs).answer pre (.request now (.start args) sys)).reply =
      some (.ok (.started sys.id pid cwd program)))
    (hid : strOrEmpty sessionId = some sys.id) :
    (¬Forgotten sys.id (post ++ [.request now' (.read sessionId offset maxChars) sys']) →
      ((processBroker p b fs).answer (pre ++ .request now (.start args) sys :: post)
        (.request now' (.read sessionId offset maxChars) sys')).reply =
          some (.ok (.read (processRead
            { id := sys.id
              output := outputAfter (childAdditions sys.id post)
              exitCode := (childEnd sys.id post).bind Prod.fst
              closed := (childEnd sys.id post).isSome } offset maxChars)))) ∧
    (Forgotten sys.id (post ++ [.request now' (.read sessionId offset maxChars) sys']) →
      ((processBroker p b fs).answer (pre ++ .request now (.start args) sys :: post)
        (.request now' (.read sessionId offset maxChars) sys')).reply =
          some (throwing "session_not_found")) := by
  have hfresh' : Fresh ProcessInput.drawn (pre ++ .request now (.start args) sys ::
      (post ++ [.request now' (.read sessionId offset maxChars) sys'])) := by
    rw [Fresh] at hfresh ⊢
    simpa [ProcessInput.drawn] using hfresh
  obtain ⟨hkept, hforgotten⟩ := get?_after_start hfresh' hstarted
  have hsnoc : pre ++ .request now (.start args) sys ::
      (post ++ [.request now' (.read sessionId offset maxChars) sys']) =
    (pre ++ .request now (.start args) sys :: post) ++
      [.request now' (.read sessionId offset maxChars) sys'] := by simp
  rw [hsnoc, Machine.after_concat] at hkept hforgotten
  obtain ⟨hsessions, hreply⟩ := @handleProcesses_read p b now' sys'
    ((processBroker p b fs).after (pre ++ .request now (.start args) sys :: post)) _ _ offset
    maxChars hid
  have hstep : ((processBroker p b fs).step
      ((processBroker p b fs).after (pre ++ .request now (.start args) sys :: post))
      (.request now' (.read sessionId offset maxChars) sys')).2.sessions =
    reap now' ((processBroker p b fs).after
      (pre ++ .request now (.start args) sys :: post)).sessions := hsessions
  rw [hstep] at hkept hforgotten
  constructor
  · intro h
    refine hreply.trans ?_
    rw [hkept h, childSession_concat]
    cases childEnd sys.id post with
    | none => rfl
    | some closing => rfl
  · intro h
    refine hreply.trans ?_
    rw [hforgotten h]
    rfl

end Runs

/-- A broker with room for two sessions of `git`. -/
def gitBroker : ProcessBroker where
  roots := [js "/ws"]
  cwd := []
  pid := 7
  limit := 40
  programs := [js "git"]
  maxActiveSessions := 2
  max_range := by decide

def workspaceFiles : HostFiles := FileSystem.empty.put (placeOf "/ws") .dir

def gitArgs : List (JsString × Json) :=
  [(js "cwd", .str (js "/ws")), (js "program", .str (js "git")),
    (js "argv", .arr [.str (js "status")])]

def gitAnswer : SystemAnswer := ⟨js "ps_1", 1, .ok (some 4), true⟩

def gitStart : ProcessInput := .request 1 (.start gitArgs) gitAnswer

theorem gitStarted :
    ((processBroker samplePlatform gitBroker workspaceFiles).answer [] gitStart).reply =
      some (.ok (.started (js "ps_1") (some 4) (placeOf "/ws") (js "git"))) := rfl

theorem read_exact_git :
    ((processBroker samplePlatform gitBroker workspaceFiles).answer
      [gitStart, .append (js "ps_1") ⟨.stdout, [97]⟩]
      (.request 2 (.read (some (.str (js "ps_1"))) 0 none) gitAnswer)).reply =
        some (.ok (.read (processRead
          { id := js "ps_1", output := outputAfter [⟨.stdout, [97]⟩], exitCode := none,
            closed := false } 0 none))) := by
  have hfresh : Fresh ProcessInput.drawn
      ([] ++ .request 1 (.start gitArgs) gitAnswer ::
        [ProcessInput.append (js "ps_1") ⟨.stdout, [97]⟩]) := by decide
  have hread := @read_exact samplePlatform gitBroker workspaceFiles []
    [.append (js "ps_1") ⟨.stdout, [97]⟩] 1 gitArgs gitAnswer (some 4) (placeOf "/ws") (js "git") 2
    0 none (some (.str (js "ps_1"))) gitAnswer hfresh gitStarted rfl
  exact hread.1 (not_forgotten rfl)

/-! ## All sessions together -/

section Totals

variable (p : Platform) (b : ProcessBroker) (fs : HostFiles)

/-- The sessions that were started, in the order of their starts. -/
def startedIds (is : List ProcessInput) : List JsString :=
  ((processBroker p b fs).trace is).flatMap fun x => x.2.startedIds

/-- A start adds a child to those that run, and its end takes it away. -/
def runTurn (ids : List JsString) (x : ProcessInput × ProcessTurn) : List JsString :=
  match x.1 with
  | .close id _ _ => ids.filter fun k => k ≠ id
  | _ => ids ++ x.2.startedIds

/-- The children that run. -/
def runningIds (is : List ProcessInput) : List JsString :=
  ((processBroker p b fs).trace is).foldl runTurn []

/-- The table holds what was started, and it holds what runs. -/
structure SessionsTabled (is : List ProcessInput) (s : ProcessState) : Prop where
  started : ∀ id ∈ s.sessions.keys, id ∈ startedIds p b fs is
  drawn : ∀ id ∈ startedIds p b fs is, id ∈ is.flatMap ProcessInput.drawn
  running : runningKeys s.sessions = runningIds p b fs is

variable {p b fs} {is : List ProcessInput} {i : ProcessInput}

theorem startedIds_concat :
    startedIds p b fs (is ++ [i]) =
      startedIds p b fs is ++ ((processBroker p b fs).answer is i).startedIds := by
  rw [startedIds, Machine.trace_concat, List.flatMap_append, List.flatMap_singleton]
  rfl

theorem runningIds_concat :
    runningIds p b fs (is ++ [i]) =
      runTurn (runningIds p b fs is) (i, (processBroker p b fs).answer is i) := by
  rw [runningIds, Machine.trace_concat, List.foldl_append]
  rfl

theorem keys_updateSession {s : ProcessState} {id : JsString}
    {f : ProcessSession → ProcessSession} :
    (updateSession id f s).sessions.keys = s.sessions.keys := by
  rw [updateSession]
  cases h : s.sessions.get? id with
  | none => rfl
  | some session =>
      have hmem : id ∈ s.sessions.keys := List.mem_map_of_mem (get?_eq_some_iff.mp h)
      dsimp only
      rw [OrderedMap.keys_set, if_pos hmem]

theorem keys_reap {now : ℕ} {sessions : OrderedMap ProcessSession} {id : JsString}
    (h : id ∈ (reap now sessions).keys) : id ∈ sessions.keys :=
  (List.filter_sublist.map Prod.fst).subset h

theorem mem_keys_of_mem_runningKeys {sessions : OrderedMap ProcessSession} {id : JsString}
    (h : id ∈ runningKeys sessions) : id ∈ sessions.keys :=
  (List.filter_sublist.map Prod.fst).subset h

theorem runningKeys_append {s : ProcessState} {id : JsString} {a : Addition} :
    runningKeys (updateSession id (fun session =>
      { session with output := appendOutput session.output a }) s).sessions =
        runningKeys s.sessions := by
  rw [updateSession]
  cases h : s.sessions.get? id with
  | none => rfl
  | some session => exact runningKeys_set_same h rfl

theorem runningKeys_close {s : ProcessState} {id : JsString} {code : Option ℤ} {now : ℕ} :
    runningKeys (updateSession id (fun session =>
      { session with exitCode := code, closedAt := some now }) s).sessions =
        (runningKeys s.sessions).filter fun k => k ≠ id := by
  rw [updateSession]
  cases h : s.sessions.get? id with
  | none =>
      refine (List.filter_eq_self.mpr fun k hk => ?_).symm
      have hkeys := lookup_eq_none_iff.mp h
      rw [decide_eq_true_eq]
      rintro rfl
      exact hkeys (mem_keys_of_mem_runningKeys hk)
  | some session => exact runningKeys_set_closed h rfl

theorem SessionsTabled.step (hfresh : Fresh ProcessInput.drawn (is ++ [i]))
    (h : SessionsTabled p b fs is ((processBroker p b fs).after is)) :
    SessionsTabled p b fs (is ++ [i])
      ((processBroker p b fs).step ((processBroker p b fs).after is) i).2 := by
  obtain ⟨hstarted, hdrawn, hrunning⟩ := h
  -- a turn without a start
  have hquiet : ∀ s' : ProcessState, (∀ id ∈ s'.sessions.keys,
        id ∈ ((processBroker p b fs).after is).sessions.keys) →
      ((processBroker p b fs).answer is i).startedIds = [] →
      runningKeys s'.sessions = runningIds p b fs (is ++ [i]) →
      SessionsTabled p b fs (is ++ [i]) s' := by
    intro s' hkeys hnone hrun
    refine ⟨fun id hid => ?_, fun id hid => ?_, hrun⟩
    · rw [startedIds_concat, hnone, List.append_nil]
      exact hstarted id (hkeys id hid)
    · rw [startedIds_concat, hnone, List.append_nil] at hid
      rw [List.flatMap_append]
      exact List.mem_append_left _ (hdrawn id hid)
  cases i with
  | request now req sys =>
      obtain ⟨args, pid, cwd, program, argv, rfl, -, hrun⟩ | hstays :=
        @handleProcesses_cases p b sys now req ((processBroker p b fs).after is)
      · have hstep : (processBroker p b fs).step ((processBroker p b fs).after is)
            (.request now (.start args) sys) = _ := hrun
        have hanswer : ((processBroker p b fs).answer is (.request now (.start args) sys)) = _ :=
          congrArg Prod.fst hrun
        have hnew : sys.id ∉ is.flatMap ProcessInput.drawn :=
          hfresh.notMem (List.mem_singleton_self _)
        have hfree : sys.id ∉ (reap now ((processBroker p b fs).after is).sessions).keys :=
          fun hmem => hnew (hdrawn _ (hstarted _ (keys_reap hmem)))
        rw [hstep]
        refine ⟨fun id hid => ?_, fun id hid => ?_, ?_⟩
        · rw [OrderedMap.keys_set, if_neg hfree] at hid
          rw [startedIds_concat, hanswer]
          obtain hid | hid := List.mem_append.mp hid
          · exact List.mem_append_left _ (hstarted id (keys_reap hid))
          · exact List.mem_append_right _ hid
        · rw [startedIds_concat, hanswer] at hid
          rw [List.flatMap_append]
          obtain hid | hid := List.mem_append.mp hid
          · exact List.mem_append_left _ (hdrawn id hid)
          · refine List.mem_append_right _ ?_
            rw [List.flatMap_singleton]
            exact hid
        · rw [runningKeys_set_new hfree rfl, runningKeys_reap, hrunning, runningIds_concat, hanswer]
          rfl
      · have hanswer : ((processBroker p b fs).answer is (.request now req sys)).startedIds = [] :=
          hstays.startedIds_eq
        refine hquiet _ (fun id hid => ?_) hanswer ?_
        · rw [show ((processBroker p b fs).step ((processBroker p b fs).after is)
            (.request now req sys)).2.sessions = _ from hstays.sessions_eq] at hid
          exact keys_reap hid
        · rw [show ((processBroker p b fs).step ((processBroker p b fs).after is)
            (.request now req sys)).2.sessions = _ from hstays.sessions_eq, runningKeys_reap,
            hrunning, runningIds_concat, runTurn, hanswer, List.append_nil]
  | append id a =>
      refine hquiet _ (fun id' hid => ?_) rfl ?_
      · exact keys_updateSession ▸ hid
      · rw [runningIds_concat, ← hrunning]
        exact runningKeys_append.trans (List.append_nil _).symm
  | close id code now =>
      refine hquiet _ (fun id' hid => ?_) rfl ?_
      · exact keys_updateSession ▸ hid
      · rw [runningIds_concat, ← hrunning]
        exact runningKeys_close
  | files fs' =>
      refine hquiet _ (fun _ hid => hid) rfl ?_
      rw [runningIds_concat, ← hrunning]
      exact (List.append_nil _).symm

theorem sessionsTabled_after (hfresh : Fresh ProcessInput.drawn is) :
    SessionsTabled p b fs is ((processBroker p b fs).after is) := by
  refine (processBroker p b fs).invariant (prefixClosed_fresh ProcessInput.drawn) ?_
    (fun is i hfresh h => SessionsTabled.step hfresh h) is hfresh
  exact ⟨fun _ h => absurd h List.not_mem_nil, fun _ h => absurd h List.not_mem_nil, rfl⟩

/-- At most as many children run as the broker admits, and a start that is otherwise in order
succeeds exactly if there is room for it. -/
structure Capacity (p : Platform) (b : ProcessBroker) (fs : HostFiles) (is : List ProcessInput) :
    Prop where
  bounded : (runningIds p b fs is).length ≤ b.maxActiveSessions
  full : ∀ now args sys, (runningIds p b fs is).length = b.maxActiveSessions →
    (processBroker p b fs).answer is (.request now (.start args) sys) =
      { reply := some (throwing "session_capacity") }
  room : ∀ now args sys cwd program argv pid,
    checkedPath b.toExecBroker ((processBroker p b fs).after is).files (lookup (js "cwd") args)
      true = .ok cwd →
    b.safeProgram (lookup (js "program") args) = .ok program →
    safeArgs (lookup (js "argv") args) = .ok argv → sys.spawned = .ok pid →
    (runningIds p b fs is).length < b.maxActiveSessions →
    (processBroker p b fs).answer is (.request now (.start args) sys) =
      { reply := some (.ok (.started sys.id pid cwd program))
        effects := [.spawned sys.id program argv cwd] }

theorem answer_start {now : ℕ} {args : List (JsString × Json)} {sys : SystemAnswer} :
    (processBroker p b fs).answer is (.request now (.start args) sys) =
      (answerRequest ((processBroker p b fs).after is).files
        (reap now ((processBroker p b fs).after is).sessions)
        (startProcessSession b sys (reap now ((processBroker p b fs).after is).sessions)
          ((processBroker p b fs).after is).files args)).1 := rfl

theorem activeSessionCount_after (hfresh : Fresh ProcessInput.drawn is) (now : ℕ) :
    activeSessionCount (reap now ((processBroker p b fs).after is).sessions) =
      (runningIds p b fs is).length := by
  rw [activeSessionCount_eq, runningKeys_reap, (sessionsTabled_after hfresh).running]

theorem runningIds_bounded (hfresh : Fresh ProcessInput.drawn is) :
    (runningIds p b fs is).length ≤ b.maxActiveSessions := by
  induction is using List.reverseRecOn with
  | nil => exact Nat.zero_le _
  | append_singleton is i ih =>
      have hbefore := prefixClosed_fresh _ _ _ hfresh
      have hcount := @activeSessionCount_after p b fs is hbefore
      have hbound := ih hbefore
      rw [runningIds_concat]
      cases i with
      | request now req sys =>
          obtain ⟨args, pid, cwd, program, argv, rfl, hstarts, hrun⟩ | hquiet :=
            @handleProcesses_cases p b sys now req ((processBroker p b fs).after is)
          · have hroom := hstarts.capacity
            rw [hcount] at hroom
            have hanswer :
                ((processBroker p b fs).answer is (.request now (.start args) sys)) = _ :=
              congrArg Prod.fst hrun
            rw [runTurn, hanswer, List.length_append]
            exact hroom
          · have hanswer :
                ((processBroker p b fs).answer is (.request now req sys)).startedIds = [] :=
              hquiet.startedIds_eq
            rw [runTurn, hanswer, List.append_nil]
            exact hbound
      | append id a =>
          rw [runTurn]
          exact (congrArg List.length (List.append_nil _)).trans_le hbound
      | close id code now => exact (List.length_filter_le _ _).trans hbound
      | files fs' =>
          rw [runTurn]
          exact (congrArg List.length (List.append_nil _)).trans_le hbound

theorem capacity_after (hfresh : Fresh ProcessInput.drawn is) : Capacity p b fs is := by
  refine ⟨runningIds_bounded hfresh, fun now args sys hfull => ?_,
    fun now args sys cwd program argv pid hcwd hprogram hargv hspawned hroom => ?_⟩
  · rw [answer_start, startProcessSession, activeSessionCount_after hfresh, hfull,
      if_pos le_rfl]
    rfl
  · have hstarts : Starts b sys (reap now ((processBroker p b fs).after is).sessions)
        ((processBroker p b fs).after is).files args pid cwd program argv :=
      ⟨(activeSessionCount_after hfresh now).trans_lt hroom, hcwd, hprogram, hargv, hspawned⟩
    rw [answer_start, startProcessSession_eq_ok.mpr ⟨_, _, _, _, hstarts, rfl⟩]
    rfl

theorem capacity_after_git : Capacity samplePlatform gitBroker workspaceFiles [gitStart] :=
  capacity_after (by decide)

/-- What may be done to a child after a run: an allowed program is started in a directory of the
workspace, and input and signals go to sessions that were started. -/
def ConfinedEffect (p : Platform) (b : ProcessBroker) (fs : HostFiles) (is : List ProcessInput) :
    ChildEffect → Prop
  | .spawned _ program args cwd =>
      program ∈ b.programs ∧ Admitted b.toExecBroker ((processBroker p b fs).after is).files cwd ∧
        args.length ≤ 80 ∧ ∀ arg ∈ args, utf8Length arg ≤ 16384
  | .wrote id data => id ∈ runningIds p b fs is ∧ data.size ≤ 65536
  | .signalled id signal => id ∈ startedIds p b fs is ∧ signal ∈ allowedSignals

theorem exists_of_mem_mapM {ε α β : Type} {f : α → Except ε β} {xs : List α} {ys : List β}
    (h : xs.mapM f = .ok ys) {y : β} (hy : y ∈ ys) : ∃ x ∈ xs, f x = .ok y := by
  induction xs generalizing ys with
  | nil =>
      rw [List.mapM_nil] at h
      obtain rfl := Except.ok.inj h
      cases hy
  | cons x xs ih =>
      rw [List.mapM_cons] at h
      obtain ⟨y', hy', h⟩ := bind_eq_ok h
      obtain ⟨rest, hrest, h⟩ := bind_eq_ok h
      obtain rfl := Except.ok.inj h
      obtain rfl | hy := List.mem_cons.mp hy
      · exact ⟨x, List.mem_cons_self, hy'⟩
      · obtain ⟨x', hx', hf⟩ := ih hrest hy
        exact ⟨x', List.mem_cons_of_mem _ hx', hf⟩

theorem brokerTextArg_eq_ok {max : ℕ} {v : Json} {arg : JsString}
    (h : brokerTextArg max v = .ok arg) : utf8Length arg ≤ max := by
  obtain ⟨s, -, h⟩ := bind_eq_ok h
  split at h
  · cases h
  · next hsize =>
      obtain rfl := Except.ok.inj h
      exact not_lt.mp hsize

theorem safeArgs_eq_ok {v : Option Json} {argv : List JsString} (h : safeArgs v = .ok argv) :
    argv.length ≤ 80 ∧ ∀ arg ∈ argv, utf8Length arg ≤ 16384 := by
  cases v with
  | none => cases h
  | some v =>
      cases v with
      | arr xs =>
          rw [safeArgs] at h
          split at h
          · cases h
          · next hshort =>
              refine ⟨(length_of_mapM h).trans_le (not_lt.mp hshort), fun arg harg => ?_⟩
              obtain ⟨v, -, hv⟩ := exists_of_mem_mapM h harg
              exact brokerTextArg_eq_ok hv
      | _ => cases h

theorem safeProgram_eq_ok {v : Option Json} {program : JsString}
    (h : b.safeProgram v = .ok program) : program ∈ b.programs := by
  obtain ⟨s, -, h⟩ := bind_eq_ok h
  split at h
  · cases h
  · next hlisted =>
      obtain rfl := Except.ok.inj h
      have hboth : isAgentProgram s = true ∧ s ∈ b.programs := by simpa using hlisted
      exact hboth.2

theorem effects_confined (hfresh : Fresh ProcessInput.drawn is) {effect : ChildEffect}
    (heffect : effect ∈ ((processBroker p b fs).answer is i).effects) :
    ConfinedEffect p b fs is effect := by
  have htable := @sessionsTabled_after p b fs is hfresh
  cases i with
  | request now req sys =>
      obtain ⟨args, pid, cwd, program, argv, rfl, hstarts, hrun⟩ | hquiet :=
        @handleProcesses_cases p b sys now req ((processBroker p b fs).after is)
      · have hanswer : ((processBroker p b fs).answer is (.request now (.start args) sys)) = _ :=
          congrArg Prod.fst hrun
        rw [hanswer] at heffect
        obtain rfl := List.mem_singleton.mp heffect
        obtain ⟨_, -, -, hadmitted⟩ := checkedPath_real hstarts.directory
        exact ⟨safeProgram_eq_ok hstarts.program_ok, hadmitted, safeArgs_eq_ok hstarts.argv_ok⟩
      · have hreaches := hquiet.reaches effect heffect
        cases effect with
        | spawned id program argv cwd => exact hreaches.elim
        | wrote id data =>
            refine ⟨?_, hreaches.2⟩
            rw [← htable.running, ← runningKeys_reap]
            exact hreaches.1
        | signalled id signal => exact ⟨htable.started id (keys_reap hreaches.1), hreaches.2⟩
  | append id a => cases heffect
  | close id code now => cases heffect
  | files fs' => cases heffect

theorem effects_confined_git :
    ConfinedEffect samplePlatform gitBroker workspaceFiles [gitStart]
      (.signalled (js "ps_1") (js "SIGTERM")) := by
  have hfresh : Fresh ProcessInput.drawn [gitStart] := by decide
  have heffect : ChildEffect.signalled (js "ps_1") (js "SIGTERM") ∈
      ((processBroker samplePlatform gitBroker workspaceFiles).answer [gitStart]
        (.request 2 (.kill [(js "session_id", .str (js "ps_1"))]) gitAnswer)).effects :=
    List.mem_singleton_self _
  exact effects_confined hfresh heffect

end Totals

end RemoteOps

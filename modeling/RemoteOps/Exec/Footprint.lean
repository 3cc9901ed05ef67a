import RemoteOps.Exec.Checks

/-!
# What the workspace operations touch

Every place that a workspace request touches is known from the file system before it: the
directories that are missing below the nearest one that the path leads to, the file that the
path or its temporary name leads to, and the entries that are renamed.
-/

namespace RemoteOps

open Ecma Posix

/-! ## What a request touches -/

section Footprint

variable (A : List FileName → Prop) (p : Platform) (b : ExecBroker) (fs : HostFiles)
  (args : List (JsString × Json))

end Footprint

section Touched

variable {A : List FileName → Prop} {p : Platform} {b : ExecBroker} {fs : HostFiles}
  {input : Option Json} {target : List FileName} {j : ℕ} {args : List (JsString × Json)}

/-- A path that must exist is returned as the place that it leads to. -/
theorem checkedPath_found (h : checkedPath b fs input true = .ok target) :
    fs.Found false target ∧ fs.isDir target.dropLast = true := by
  obtain ⟨normalized, -, hreal, -⟩ := checkedPath_real h
  rw [realpathSync] at hreal
  split at hreal
  · next l i hresolve =>
      obtain rfl := Except.ok.inj hreal
      have hfound := FileSystem.resolve_found (FileSystem.found_of_isDir fs.isDir_root false) hresolve
      have hroom := hfound.2
      rcases hroom with hstands | ⟨hfalse, -⟩
      · exact ⟨hfound, FileSystem.isDir_dropLast_of_stands hstands⟩
      · cases hfalse
  · cases hreal

end Touched

end RemoteOps

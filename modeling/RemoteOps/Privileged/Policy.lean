import RemoteOps.Ecma.Text

/-!
# The managed-admin policy

The capability a target and a device must both hold, the programs that no
configuration can admit, the broker's default programs and directories, and the
lexical test of a working directory against a list of roots.
-/

namespace RemoteOps

open Ecma

def managedAdminCapability : JsString := js "host.managed_admin"

def managedAdminDefaultPrograms : List JsString :=
  [js "apt-get", js "apt", js "dpkg", js "systemctl", js "journalctl", js "docker", js "git",
    js "curl", js "wget", js "install", js "cp", js "mv", js "rm", js "rmdir", js "mkdir",
    js "chmod", js "chown", js "chgrp", js "ln", js "tar", js "unzip", js "ufw",
    js "firewall-cmd", js "ip", js "ss", js "hostnamectl", js "timedatectl", js "sysctl",
    js "mount", js "umount", js "lsblk", js "df", js "du"]

def managedAdminHardDeny : List JsString :=
  [js "bash", js "sh", js "dash", js "zsh", js "fish", js "sudo", js "su", js "pkexec",
    js "python", js "python3", js "node", js "perl", js "ruby", js "php"]

def managedAdminDefaultCwds : List JsString := [js "/opt/wandora/ops-workspace", js "/opt/wandora"]

/-- The shape of an absolute path that names no parent directory. -/
def isPlainAbsolutePath (cwd : JsString) : Bool :=
  startsWith cwd (js "/") && cwd.length ≤ 1024 && !cwd.any isNulOrNewline &&
    !(splitUnit (unit '/') cwd).contains (js "..")

/-- `value.replace(/\/+$/, "") || "/"`. -/
def cleanPath (value : JsString) : JsString :=
  match dropTrailing (unit '/') value with
  | [] => js "/"
  | path => path

def cwdLexicallyAllowed (cwd : JsString) (roots : List JsString) : Bool :=
  isPlainAbsolutePath cwd &&
    roots.any fun raw =>
      cleanPath cwd == cleanPath raw || startsWith (cleanPath cwd) (cleanPath raw ++ js "/")

example : cwdLexicallyAllowed (js "/opt/wandora/x/") [js "/opt/wandora/"] = true ∧
    cwdLexicallyAllowed (js "/opt/wandora-old") [js "/opt/wandora/"] = false := by decide

end RemoteOps

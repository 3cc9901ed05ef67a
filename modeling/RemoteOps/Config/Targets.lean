import RemoteOps.Ecma.Text

/-!
# Targets

A target is one entry of the registry: how it is reached, under which capability
profile, and the lists that say what may be done on it. The registry is a map
from ids to targets, so a lookup returns a target with the id that was asked for.
-/

namespace RemoteOps

open Ecma

inductive Environment where
  | production
  | staging
  | development
  deriving DecidableEq

inductive CapabilityProfile where
  | readOnly
  | prodReadMostly
  | operator
  | semanticOperator
  deriving DecidableEq

inductive DockerAction where
  | start
  | stop
  | restart
  | loadImage
  | candidateRun
  | candidateRemove
  deriving DecidableEq

inductive ServiceAction where
  | start
  | stop
  | restart
  | reload
  deriving DecidableEq

inductive TransportKind where
  | ssh
  | mock
  | agent
  deriving DecidableEq

/-- The text of an action in a configuration or a request. -/
def DockerAction.text : DockerAction → JsString
  | start => js "start"
  | stop => js "stop"
  | restart => js "restart"
  | loadImage => js "load_image"
  | candidateRun => js "candidate_run"
  | candidateRemove => js "candidate_remove"

def ServiceAction.text : ServiceAction → JsString
  | start => js "start"
  | stop => js "stop"
  | restart => js "restart"
  | reload => js "reload"

structure TargetConfig where
  id : JsString
  host : JsString := js "127.0.0.1"
  port : ℕ := 22
  username : JsString := js "ops-mcp"
  credentialRef : Option JsString := none
  keyFile : Option JsString := none
  hostKeyFingerprint : Option JsString := none
  hostKey : Option JsString := none
  environment : Environment := .production
  capabilityProfile : CapabilityProfile := .prodReadMostly
  transport : TransportKind := .ssh
  deviceId : Option JsString := none
  enabled : Bool := true
  allowedPaths : List JsString := []
  allowedDockerContainers : List JsString := []
  allowedDockerExecContainers : List JsString := []
  allowedDockerExecPrograms : List JsString := []
  allowedDockerActions : List DockerAction := []
  allowedDockerImageLoadRoots : List JsString := []
  allowedDockerCandidateImagePrefixes : List JsString := []
  allowedDockerCandidateNetworks : List JsString := []
  allowedDockerCandidateNamePrefixes : List JsString := []
  allowedDockerCandidateHostPorts : List ℕ := []
  allowedDockerCandidateContainerPorts : List ℕ := []
  allowedServices : List JsString := []
  allowedServiceActions : List ServiceAction := []
  allowedGitRepos : List JsString := []
  allowedSemanticCapabilities : List JsString := []
  allowedAdminPrograms : List JsString := []
  allowedAdminCwds : List JsString := []
  allowedWritePaths : List JsString := []
  allowedProcessCwds : List JsString := []
  allowedProcessPrograms : List JsString := []
  commandTimeoutMs : Option ℕ := none
  connectTimeoutMs : Option ℕ := none
  deriving DecidableEq

/-- The targets of the registry, at most one for each id that matters: the first
is the one a lookup returns. -/
abbrev Registry := List TargetConfig

def getTarget (registry : Registry) (id : JsString) : Option TargetConfig :=
  registry.find? fun t => t.id = id

theorem getTarget_id {registry : Registry} {id : JsString} {t : TargetConfig}
    (h : getTarget registry id = some t) : t.id = id := by
  simpa using List.find?_some h

/-- A structured error of the control plane. -/
structure OpsError where
  code : String
  message : JsString
  deriving DecidableEq

end RemoteOps

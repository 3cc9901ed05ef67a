import RemoteOps.Agent.Disconnect
import RemoteOps.Agent.DockerOperator
import RemoteOps.Agent.Mesh
import RemoteOps.Agent.Operations
import RemoteOps.Auth.Invisibility
import RemoteOps.Auth.Refresh
import RemoteOps.Auth.Revocation
import RemoteOps.Auth.SignedCredentials
import RemoteOps.Config.ApprovalSessions
import RemoteOps.Config.Atomicity
import RemoteOps.Config.Attestation
import RemoteOps.DeepHarness.InForce
import RemoteOps.DeepHarness.LabGates
import RemoteOps.DeepHarness.LeadChat
import RemoteOps.DeepHarness.MeshAgreement
import RemoteOps.DeepHarness.PlatformScope
import RemoteOps.DeepHarness.Prompts
import RemoteOps.DeepHarness.Relay
import RemoteOps.DeepHarness.TeamListing
import RemoteOps.DeepHarness.WorkspaceRetry
import RemoteOps.Docker.CandidateRuns
import RemoteOps.Docker.Demux
import RemoteOps.Docker.PaperclipSemantic
import RemoteOps.Docker.PostgresReadback
import RemoteOps.Docker.References
import RemoteOps.Ecma.Collation
import RemoteOps.Ecma.FiniteJson
import RemoteOps.Ecma.Normalise
import RemoteOps.Ecma.OrderedMap
import RemoteOps.Ecma.PercentText
import RemoteOps.Exec.Call
import RemoteOps.Exec.Connection
import RemoteOps.Exec.Containment
import RemoteOps.Exec.ExactEdit
import RemoteOps.Exec.PathModes
import RemoteOps.Exec.Processes
import RemoteOps.Exec.SecretNames
import RemoteOps.Exec.Sessions
import RemoteOps.Exec.WriteRoots
import RemoteOps.OpenHands.Events
import RemoteOps.Portainer.Client
import RemoteOps.Portainer.EnvUpdate
import RemoteOps.Portainer.HiddenSecrets
import RemoteOps.Posix.Calls
import RemoteOps.Privileged.EndToEnd
import RemoteOps.Privileged.ReplayFile
import RemoteOps.Security.HiddenValues
import RemoteOps.Security.KeySpelling
import RemoteOps.Security.RemotePaths
import RemoteOps.Security.RootTests
import RemoteOps.Server.RateLimits
import RemoteOps.Server.ToolCalls
import RemoteOps.Ssh.Capture
import RemoteOps.Ssh.Pool
import RemoteOps.Ssh.Quote
import RemoteOps.Ssh.Semaphore
import RemoteOps.State.ClientCapacity
import RemoteOps.State.DeviceCap
import RemoteOps.State.Enrolment
import RemoteOps.State.PairingCodes
import RemoteOps.State.UnknownKeys
import RemoteOps.Tools.Authority
import RemoteOps.Tools.DockerList
import RemoteOps.Tools.KillSwitch
import RemoteOps.Tools.OverAgent
import RemoteOps.Tools.OverProxy

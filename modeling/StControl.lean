import StControl.Agent.OwnershipRealTime
import StControl.Agent.TakeoverRetries
import StControl.Store.ReplicaIntegrity
import StControl.Agent.OutageEvidence
import StControl.Agent.DrainingExit
import StControl.Agent.ModeReports
import StControl.Store.OneHome
import StControl.Store.RecoveryPoints
import StControl.Store.Statuses
import StControl.Store.CleanupClaims
import StControl.Store.FaultFreezes
import StControl.Store.NodeCapacity
import StControl.Store.NodeLifecycle
import StControl.Store.RelayClaims
import StControl.Controller.DeadBackups
import StControl.Controller.NodeRetirements
import StControl.Controller.ConflictDrain
import StControl.Controller.DataCommands
import StControl.Controller.CommandRetries
import StControl.Controller.AdmissionGate
import StControl.Controller.LoginLockout
import StControl.Controller.AvailableNodes
import StControl.Controller.RateLimits
import StControl.Convergence.PasswordFallback
import StControl.Convergence.PasswordMaterial
import StControl.Convergence.OAuthIdentities
import StControl.Agent.ReceiveRuns
import StControl.Agent.WriteGate
import StControl.Agent.Publication
import StControl.Agent.Upgrade
import StControl.Crypto.RelayStream
import StControl.Ai.Breaker

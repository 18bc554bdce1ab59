import ClusterProvisioning.Report
import ClusterProvisioning.Text.Quoted

/-!
# Audit trail

One event for each object that is created, rolled back, deleted or patched, and the line that the
audit log shows for it.
-/

namespace ClusterProvisioning

inductive AuditAction where
  | create
  | rollback
  | delete
  | patch
  deriving DecidableEq, Repr

def AuditAction.word : AuditAction → String
  | .create => "create"
  | .rollback => "rollback"
  | .delete => "delete"
  | .patch => "patch"

/-- An object that something happened to. -/
structure AuditEvent where
  action : AuditAction
  target : Ref
  deriving DecidableEq, Repr

/-- The fields of the event in order of their names: the action quoted, the object as it is. -/
def AuditEvent.line (e : AuditEvent) : String :=
  s!"action={Text.quote e.action.word} object={e.target}"

namespace AuditLog

/-- The file that a path names: its last component, empty and single-point ones aside, unless that
is the parent directory. -/
def fileName? (path : String) : Option String :=
  let components := (path.splitOn "/").filter fun c => c ≠ "" && c ≠ "."
  components.getLast?.filter (· ≠ "..")

/-- Checks that the path of an audit log names a file. -/
def checkPath (path : String) : Outcome String :=
  match fileName? path with
  | some name => .ok name
  | none => .error (.of (.config (.auditPathWithoutName path)))

end AuditLog

end ClusterProvisioning

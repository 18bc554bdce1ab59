import ClusterProvisioning.CommandLine.ApplyReport
import ClusterProvisioning.CommandLine.Invocation
import ClusterProvisioning.Lifecycle
import ClusterProvisioning.Yaml.Reader

/-!
# Carrying out invocations

What an invocation prints and how it fails, as a program over a gateway. Files are given by their
content; they are read before the cluster is asked anything. How the reports of errors are written
out is left open: what is printed holds for every `Rendering`.
-/

namespace ClusterProvisioning.CommandLine

/-- What a file of the command line is for. -/
inductive FileRole where
  | request
  | units
  deriving DecidableEq, Repr

def FileRole.word : FileRole → String
  | .request => "request"
  | .units => "units"

/-- Why an invocation fails. -/
inductive Failure where
  | configuration (report : Report ProvisionError)
  | unreadableFile (role : FileRole) (path : String)
  | malformedFile (role : FileRole) (path : String)
  | quantity (error : QuantityError)
  | unknownKind (name : String)
  | admission (report : Report ProvisionError)
  | provisioning (report : Report ProvisionError)
  | status (report : Report ProvisionError)
  | teardown (report : Report ProvisionError)
  | update (failure : UpdateFailure)
  | reset (report : Report ProvisionError)
  /-- The workload was admitted, but not all of it was created. -/
  | applyIncomplete
  | resetIncomplete

def Failure.message (render : Rendering) : Failure → String
  | .configuration report => s!"Failed to load configuration: {render.text report}"
  | .unreadableFile role path => s!"read {role.word} file {path} failed"
  | .malformedFile role path => s!"parse {role.word} file {path} failed"
  | .quantity error => render.text (.of error)
  | .unknownKind name => s!"unknown object kind {Text.quote name}"
  | .admission report => s!"Admission check failed: {render.text report}"
  | .provisioning report => s!"Provisioning failed: {render.text report}"
  | .status report => s!"Failed to read status: {render.text report}"
  | .teardown report => s!"Teardown failed: {render.text report}"
  | .update (.failed report) => s!"Update failed: {render.text report}"
  | .update (.unassignable key sort) => UpdateFailure.unassignableMessage key sort
  | .reset report => s!"Reset failed: {render.text report}"
  | .applyIncomplete => "apply did not complete"
  | .resetIncomplete => "reset did not complete"

/-- What an invocation prints, and its failure. -/
structure Answer where
  output : Option Json
  failure : Option Failure

namespace Answer

def printed (output : Json) : Answer := ⟨some output, none⟩

def failed (failure : Failure) : Answer := ⟨none, some failure⟩

/-- A printed report, which is a failure if it tells of one. -/
def reported (report : ApplyReport) (incomplete : Failure) : Answer :=
  ⟨some report.toJson, report.error.map fun _ => incomplete⟩

end Answer

/-! ### Files -/

/-- The content of files by path. -/
abbrev Files := String → Option String

/-- Reads a file that plays a role. -/
def readFile {α : Type} (files : Files) (role : FileRole) (read : String → Option α)
    (path : String) : Except Failure α :=
  match files path with
  | none => .error (.unreadableFile role path)
  | some text =>
    match read text with
    | some value => .ok value
    | none => .error (.malformedFile role path)

/-- The request in a file, in YAML or JSON. -/
def readRequest (files : Files) : String → Except Failure WorkloadRequest :=
  readFile files .request fun text => (Yaml.read? text).bind WorkloadRequest.ofDocument?

/-- The units recorded in a file. -/
def readUnits (files : Files) : String → Except Failure (List Ref) :=
  readFile files .units fun text => (ApplyReport.read? text).map ApplyReport.created

/-! ### Commands -/

/-- The amounts that a check asks for. -/
def checkedAmounts (cpu memory : String) (gpu : UInt64) : Except QuantityError Resources := do
  return ⟨← Quantity.cpuMillis cpu, ← Quantity.memoryBytes memory, gpu⟩

def check (cpu memory : String) (gpu : UInt64) : Program Answer := do
  match checkedAmounts cpu memory gpu with
  | .error e => return .failed (.quantity e)
  | .ok request =>
    match ← Admission.check request with
    | .error report => return .failed (.admission report)
    | .ok admitted =>
      return .printed (.ofMembers [("request", request.toJson), ("admitted", .bool admitted)])

def apply (render : Rendering) (config : Config) (request : WorkloadRequest) (suffix : String)
    (cancel : Cancellation) : Program Answer := do
  match ← Lifecycle.provision config request suffix cancel with
  | .error report => return .failed (.provisioning report)
  | .ok (.denied _) => return .reported .denied .applyIncomplete
  | .ok (.applied result) => return .reported (.ofResult render result) .applyIncomplete

def status (kind ns name : String) : Program Answer := do
  match Kind.ofShortName? kind with
  | none => return .failed (.unknownKind kind)
  | some kind =>
    match ← Lifecycle.status .standard ⟨kind, ns, name⟩ with
    | .error report => return .failed (.status report)
    | .ok status => return .printed status.toJson

def teardown (units : List Ref) : Program Answer := do
  match ← Apply.teardown units with
  | .error report => return .failed (.teardown report)
  | .ok () => return ⟨none, none⟩

def update (units : List Ref) (changes : SessionUpdate) : Program Answer := do
  match ← changes.run units with
  | .error failure => return .failed (.update failure)
  | .ok replaced =>
    return .printed (.ofMembers [("replaced", .array (replaced.map Ref.toJson))])

def reset (render : Rendering) (config : Config) (request : WorkloadRequest) (units : List Ref)
    (fresh : String) : Program Answer := do
  match ← Lifecycle.reset config request units fresh with
  | .error report => return .failed (.reset report)
  | .ok result => return .reported (.ofResult render result) .resetIncomplete

/-- The program of an invocation, or its failure before the cluster is asked anything. The suffix is
for the names of a new session. -/
def Invocation.program (i : Invocation) (render : Rendering) (files : Files) (suffix : String)
    (cancel : Cancellation) : Except Failure (Program Answer) := do
  let config ← (Config.load files i.settings.config).mapError .configuration
  match i.command with
  | .check cpu memory gpu => return check cpu memory gpu
  | .apply request _ => return apply render config (← readRequest files request) suffix cancel
  | .status kind ns name => return status kind ns name
  | .teardown units => return teardown (← readUnits files units)
  | .update units changes => return update (← readUnits files units) changes
  | .reset request units =>
    return reset render config (← readRequest files request) (← readUnits files units) suffix

/-- Carries out an invocation. -/
def Invocation.run (i : Invocation) (render : Rendering) (files : Files) (suffix : String)
    (cancel : Cancellation) : Program Answer :=
  match i.program render files suffix cancel with
  | .ok program => program
  | .error failure => .done (.failed failure)

end ClusterProvisioning.CommandLine

import ClusterProvisioning.CommandLine.Execution
import ClusterProvisioning.Gateway.ApiServer
import ClusterProvisioning.Json.Printer
import ClusterProvisioning.Json.Reader

/-!
# The provisioner

Reads the arguments and the files, carries out the command, and prints. The cluster is reached
through a relay at the other end of the standard streams: its address goes out first, then each
request as one line of JSON, and each reply comes back as one line. Cancelling is left to the
relay, which can fail the requests that come too late.
-/

namespace ClusterProvisioning

open CommandLine

/-- Writes a line for the relay. -/
def tellRelay (j : Json) : IO Unit := do
  let out ← IO.getStdout
  out.putStrLn j.render
  out.flush

/-- Has the relay send a request. -/
def exchange (r : HttpRequest) : IO HttpReply := do
  tellRelay r.toJson
  let line ← (← IO.getStdin).getLine
  return match Json.read? line with
    | some j => .ofJson j
    | none => .failed "the relay gave no reply"

/-- Carries out a program on the cluster behind the relay. -/
def perform {α : Type} (auditLog : Option String) : Program α → IO α
  | .done value => return value
  | .call call next =>
    match ApiServer.request call with
    | .error report => perform auditLog (next (.error report))
    | .ok r => do perform auditLog (next (ApiServer.result call (← exchange r)))
  | .audit event next => do
    if let some path := auditLog then
      let log ← IO.FS.Handle.mk path .append
      log.putStrLn event.line
    perform auditLog next

/-- The content of a file, if it can be read. -/
def content? (path : String) : IO (Option String) := do
  try return some (← IO.FS.readFile path) catch _ => return none

/-- The content of some files by path. -/
def filesAt (paths : List String) : IO Files := do
  let contents ← paths.mapM fun path => return (path, ← content? path)
  return fun path => (contents.lookup path).join

/-- The access file of the user, if there is one. -/
def standardAccessFile : IO (Option String) := do
  match ← IO.getEnv "HOME" with
  | some home => content? s!"{home}/.kube/config"
  | none => return none

/-- The settings with what the environment says about those that are not given. -/
def withEnvironment (s : Settings) : IO Settings := do
  let orEnv (given : Option String) (name : String) : IO (Option String) :=
    match given with
    | some value => return some value
    | none => return (← IO.getEnv name).filter (· ≠ "")
  return { s with
    kubeconfig := ← orEnv s.kubeconfig "KUBECONFIG"
    context := ← orEnv s.context "PROVISIONER_KUBE_CONTEXT"
    config := ← orEnv s.config "PROVISIONER_CONFIG"
    auditLog := ← orEnv s.auditLog "PROVISIONER_AUDIT_LOG" }

/-- A random suffix for the names of a session. -/
def randomSuffix : IO String := do
  let digits ← (List.replicate 5 ()).mapM fun _ => return Nat.digitChar (← IO.rand 0 15)
  return String.ofList digits

/-- Says what went wrong. -/
def complain (message : String) : IO UInt32 := do
  IO.eprintln s!"Error: {message}"
  return 1

/-- Carries out an invocation; the result is the exit code. -/
def carryOut (render : Rendering) (i : Invocation) : IO UInt32 := do
  let files ← filesAt i.paths
  if let some path := i.settings.auditLog then
    if let .error report := AuditLog.checkPath path then
      return ← complain s!"Failed to initialize logging: {render.text report}"
  if let .error report := Config.load files i.settings.config then
    return ← complain ((Failure.configuration report).message render)
  let choice : ConnectionChoice :=
    ⟨i.settings.kubeconfig, i.settings.context, i.settings.requestTimeout⟩
  match Connection.establish files (← standardAccessFile) choice with
  | .error report => complain s!"Failed to create Kubernetes client: {render.text report}"
  | .ok connection =>
    tellRelay (.ofMembers [("server", .string (toString connection.server)),
      ("read_timeout_secs", .ofNat connection.readTimeout.toNat),
      ("accept_invalid_certs", .bool connection.skipsVerification)])
    let answer ← perform i.settings.auditLog (i.run render files (← randomSuffix) .never)
    if let some output := answer.output then IO.println output.renderIndented
    match answer.failure with
    | some failure => complain (failure.message render)
    | none => return 0

end ClusterProvisioning

open ClusterProvisioning CommandLine in
def main (arguments : List String) : IO UInt32 := do
  match Invocation.read arguments with
  | .ok i => carryOut .brief { i with settings := ← withEnvironment i.settings }
  | .error .helpWanted =>
    IO.print usage
    return 0
  | .error .versionWanted =>
    IO.println "provisioner"
    return 0
  | .error stop =>
    IO.eprintln s!"error: {stop.message}\n\n{usage}"
    return 2

import ClusterProvisioning.CommandLine.Grammar
import ClusterProvisioning.Connection
import ClusterProvisioning.SessionUpdate

/-!
# Invocations

The commands of the provisioner, their options, and the options that stand before or after any
command. An option given in both places counts as it stands after the command.
-/

namespace ClusterProvisioning.CommandLine

/-- The options of every command. -/
structure Settings where
  kubeconfig : Option String
  context : Option String
  /-- The most seconds that reading one answer of the cluster may take. -/
  requestTimeout : Option UInt64
  config : Option String
  auditLog : Option String
  deriving DecidableEq, Repr

inductive Command where
  /-- Asks whether a single node has room. -/
  | check (cpu memory : String) (gpu : UInt64)
  /-- Admits, builds and creates a workload. -/
  | apply (request : String) (timeout : Option UInt64)
  /-- Asks for the status of an object. -/
  | status (kind ns name : String)
  /-- Deletes the recorded units. -/
  | teardown (units : String)
  /-- Changes a running session. -/
  | update (units : String) (changes : SessionUpdate)
  /-- Deletes a workload and creates it again. -/
  | reset (request units : String)
  deriving DecidableEq, Repr

structure Invocation where
  settings : Settings
  command : Command
  deriving DecidableEq, Repr

/-- The files that a command reads. -/
def Command.paths : Command → List String
  | .check .. | .status .. => []
  | .apply request _ => [request]
  | .teardown units | .update units _ => [units]
  | .reset request units => [request, units]

/-- The files that an invocation reads before it asks the cluster anything. -/
def Invocation.paths (i : Invocation) : List String :=
  i.settings.kubeconfig.toList ++ i.settings.config.toList ++ i.command.paths

/-! ### Options -/

def settingOptions : List OptionSpec :=
  [⟨"kubeconfig", .path⟩, ⟨"context", .text⟩, ⟨"request-timeout-secs", .natural⟩,
    ⟨"config", .path⟩, ⟨"audit-log", .path⟩]

/-- The commands and their options. -/
def commandOptions : List (String × List OptionSpec) :=
  [("check", [⟨"cpu", .text⟩, ⟨"memory", .text⟩, ⟨"gpu", .natural⟩]),
    ("apply", [⟨"request", .path⟩, ⟨"timeout-secs", .natural⟩]),
    ("status", [⟨"kind", .text⟩, ⟨"namespace", .text⟩, ⟨"name", .text⟩]),
    ("teardown", [⟨"units", .path⟩]),
    ("update", [⟨"units", .path⟩, ⟨"cpu", .text⟩, ⟨"memory", .text⟩, ⟨"gpu", .natural⟩,
      ⟨"service-port", .port⟩]),
    ("reset", [⟨"request", .path⟩, ⟨"units", .path⟩])]

def commandNames : List String := commandOptions.map (·.1) ++ ["help"]

/-- What may stand before the command. -/
def outerLevel : Level := ⟨settingOptions, commandNames, true⟩

/-- What may stand after a command. -/
def commandLevel (command : String) : Level :=
  ⟨(commandOptions.lookup command).getD [] ++ settingOptions, [], false⟩

/-- An option as the usage shows it. -/
def OptionSpec.usage (o : OptionSpec) : String := s!" [--{o.name} VALUE]"

/-- The commands with their options, one a line. -/
def usage : String :=
  let settings := String.join (settingOptions.map OptionSpec.usage)
  let lines := commandOptions.map fun (name, options) =>
    let shown := String.join (options.map OptionSpec.usage)
    s!"  {name}{shown}\n"
  let commands := String.join lines
  s!"Usage: provisioner{settings} COMMAND\n\nCommands:\n{commands}"

/-! ### Reading -/

namespace Given

def text? (given : Given) (name : String) : Option String :=
  match given.lookup name with
  | some (.text s) => some s
  | _ => none

def number? (given : Given) (name : String) : Option Nat :=
  match given.lookup name with
  | some (.number n) => some n
  | _ => none

/-- The text of an option that must be given. -/
def text (given : Given) (name : String) : Except UsageStop String :=
  match text? given name with
  | some s => .ok s
  | none => .error (.noOption name)

def uint64? (given : Given) (name : String) : Option UInt64 :=
  (number? given name).map .ofNat

end Given

open Given

def Settings.ofGiven (given : Given) : Settings where
  kubeconfig := text? given "kubeconfig"
  context := text? given "context"
  requestTimeout := uint64? given "request-timeout-secs"
  config := text? given "config"
  auditLog := text? given "audit-log"

/-- The command of that name with its options. -/
def Command.ofGiven (name : String) (given : Given) : Except UsageStop Command :=
  match name with
  | "check" => .ok (.check ((text? given "cpu").getD "0") ((text? given "memory").getD "0")
      ((uint64? given "gpu").getD 0))
  | "apply" => do return .apply (← text given "request") (uint64? given "timeout-secs")
  | "status" => do
    return .status (← text given "kind") (← text given "namespace") (← text given "name")
  | "teardown" => do return .teardown (← text given "units")
  | "update" => do
    let changes : SessionUpdate := {
      cpu := text? given "cpu"
      memory := text? given "memory"
      gpu := uint64? given "gpu"
      servicePort := (number? given "service-port").map .ofNat }
    return .update (← text given "units") changes
  | "reset" => do return .reset (← text given "request") (← text given "units")
  | other => .error (.unknownCommand other)

/-- Help on the commands that are named, each a command of the one before. -/
def helpOn : List String → UsageStop
  | [] => .helpWanted
  | name :: rest =>
    if commandNames.contains name then
      match rest with
      | [] => .helpWanted
      | next :: _ => .unknownCommand next
    else .unknownCommand name

/-- Reads the arguments of a command line, without the name of the program. -/
def Invocation.read (arguments : List String) : Except UsageStop Invocation := do
  let (outer, command) ← outerLevel.scan .empty arguments
  match command with
  | none =>
    let given ← outer.settle
    throw (if given.isEmpty then .nothingGiven else .noCommand)
  | some ("help", names) => throw (helpOn names)
  | some (name, rest) =>
    let (inner, _) ← (commandLevel name).scan .empty rest
    let given ← inner.settle
    let command ← Command.ofGiven name given
    return ⟨.ofGiven (given ++ (← outer.settle)), command⟩

end ClusterProvisioning.CommandLine

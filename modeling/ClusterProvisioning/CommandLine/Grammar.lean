import ClusterProvisioning.Text.Integer

/-!
# Command-line grammar

Options with values, each at most once, and commands with options of their own. A value follows its
option after an equals sign or as the next argument; it is checked when the next option is met or at
the end, so of two faults the earlier one in the arguments may be reported second.
-/

namespace ClusterProvisioning.CommandLine

/-- What the value of an option is. -/
inductive ValueSort where
  | text
  /-- A text that is not empty. -/
  | path
  /-- A number below `2 ^ 64`. -/
  | natural
  /-- A number below `2 ^ 16`, perhaps with a sign. -/
  | port
  deriving DecidableEq, Repr

structure OptionSpec where
  name : String
  sort : ValueSort
  deriving DecidableEq, Repr

inductive OptionValue where
  | text (s : String)
  | number (n : Nat)
  deriving DecidableEq, Repr

/-- Why arguments give no invocation. -/
inductive UsageStop where
  | nothingGiven
  | helpWanted
  | versionWanted
  | unknownArgument (argument : String)
  | unknownCommand (argument : String)
  | noCommand
  /-- An option at the end or before another one, or a path that is empty. -/
  | noValue (option : String)
  | wrongValue (option value : String)
  /-- A value for an argument that takes none. -/
  | uselessValue (argument : String)
  | repeatedOption (option : String)
  | noOption (option : String)
  deriving DecidableEq, Repr

def UsageStop.message : UsageStop → String
  | .nothingGiven => "a command is required"
  | .helpWanted => "help is wanted"
  | .versionWanted => "the version is wanted"
  | .unknownArgument argument => s!"unexpected argument '{argument}'"
  | .unknownCommand argument => s!"unrecognized command '{argument}'"
  | .noCommand => "a command is required"
  | .noValue option => s!"a value is required for '--{option}'"
  | .wrongValue option value => s!"invalid value '{value}' for '--{option}'"
  | .uselessValue argument => s!"unexpected value for '{argument}'"
  | .repeatedOption option => s!"'--{option}' cannot be used multiple times"
  | .noOption option => s!"'--{option}' is required"

/-! ### Values -/

/-- The number of a text, perhaps with a sign, below a limit. -/
def signedBelow? (limit : Nat) (s : String) : Option Nat :=
  (Text.readSigned s.toList).bind fun n => if 0 ≤ n ∧ n < limit then some n.toNat else none

/-- Reads the value of an option. -/
def OptionSpec.read (o : OptionSpec) (s : String) : Except UsageStop OptionValue :=
  let numbered (n : Option Nat) : Except UsageStop OptionValue :=
    match n with
    | some n => .ok (.number n)
    | none => .error (.wrongValue o.name s)
  match o.sort with
  | .text => .ok (.text s)
  | .path => if s = "" then .error (.noValue o.name) else .ok (.text s)
  | .natural => numbered (Text.readBelow UInt64.size s)
  | .port => numbered (signedBelow? UInt16.size s)

/-! ### Arguments -/

/-- The form of an argument. -/
inductive Form where
  /-- Two hyphens, after which nothing is an option. -/
  | separator
  | long (name : String) (value : Option String)
  | short (letter : Char)
  | word

/-- What follows the first equals sign, if there is one. -/
def afterEquals? (cs : List Char) : Option String :=
  match cs.dropWhile (· != '=') with
  | [] => none
  | _ :: value => some (String.ofList value)

def Form.of (argument : String) : Form :=
  match argument.toList with
  | ['-', '-'] => .separator
  | '-' :: '-' :: cs => .long (String.ofList (cs.takeWhile (· != '='))) (afterEquals? cs)
  | '-' :: letter :: _ => .short letter
  | _ => .word

/-- What may stand at one level: before the command, or after it. -/
structure Level where
  options : List OptionSpec
  commands : List String
  hasVersion : Bool
  deriving DecidableEq, Repr

/-- The values of the options, by name. -/
abbrev Given := List (String × OptionValue)

/-- The options read at a level, and the last of them with its value, if that has been met, while it
is still unchecked. -/
structure Reading where
  given : Given
  last : Option (OptionSpec × Option String)

namespace Reading

def empty : Reading := ⟨[], none⟩

/-- Whether the next argument is the value of an option. -/
def awaitsValue (r : Reading) : Bool :=
  match r.last with
  | some (_, none) => true
  | _ => false

/-- Adds an option with its value. -/
def add (given : Given) (o : OptionSpec) (value : String) : Except UsageStop Given :=
  if (given.lookup o.name).isSome then .error (.repeatedOption o.name)
  else (o.read value).map fun v => given ++ [(o.name, v)]

/-- The options with the last one checked. -/
def settle (r : Reading) : Except UsageStop Given :=
  match r.last with
  | none => .ok r.given
  | some (o, none) => .error (.noValue o.name)
  | some (o, some value) => add r.given o value

end Reading

/-- An argument that is neither an option nor a value nor, at its place, a command. -/
def Level.stray (l : Level) (afterSeparator : Bool) (argument : String) : UsageStop :=
  if l.commands.isEmpty || (afterSeparator && l.commands.contains argument) then
    .unknownArgument argument
  else .unknownCommand argument

/-- A request for help or for the version, which waits for the option before it to be in order. -/
def Reading.ask (r : Reading) (stop : UsageStop) : UsageStop :=
  match r.settle with
  | .ok _ => stop
  | .error earlier => earlier

/-- An option with its value if it stands in the same argument. -/
def Level.long (l : Level) (r : Reading) (argument name : String) (value : Option String) :
    Except UsageStop Reading :=
  match l.options.find? fun o => o.name == name, value with
  | some o, some value => do return ⟨← Reading.add (← r.settle) o value, none⟩
  | some o, none => do return ⟨← r.settle, some (o, none)⟩
  | none, value =>
    if name == "help" || (name == "version" && l.hasVersion) then
      match value with
      | some _ => .error (.uselessValue argument)
      | none => .error (r.ask (if name == "help" then .helpWanted else .versionWanted))
    else .error (.unknownArgument argument)

/-- Reads arguments up to a command or the end: the options, and the command with the arguments
after it. -/
def Level.scan (l : Level) (r : Reading) :
    List String → Except UsageStop (Reading × Option (String × List String))
  | [] => .ok (r, none)
  | argument :: rest =>
    if !r.awaitsValue && l.commands.contains argument then .ok (r, some (argument, rest))
    else match Form.of argument with
      | .separator =>
        match rest with
        | [] => .ok (r, none)
        | next :: _ => .error (l.stray true next)
      | .long name value =>
        match l.long r argument name value with
        | .ok r => l.scan r rest
        | .error stop => .error stop
      | .short letter =>
        if letter == 'h' then .error (r.ask .helpWanted)
        else if letter == 'V' && l.hasVersion then .error (r.ask .versionWanted)
        else .error (.unknownArgument argument)
      | .word =>
        match r.last with
        | some (o, none) => l.scan ⟨r.given, some (o, some argument)⟩ rest
        | _ => .error (l.stray false argument)

end ClusterProvisioning.CommandLine

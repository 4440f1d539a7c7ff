import DecisionFlow.CommandLine.Arguments
import DecisionFlow.Flow.Loader
import DecisionFlow.Rule.Fingerprint
import DecisionFlow.Settings.Basic
import DecisionFlow.Walk.Engine
import DecisionFlow.Walk.Log

/-!
# The program

What the program does with its arguments, given a host that reads files and the standard input.
Everything is in the outcome: the exit code, the text for the standard output and the lines for
the standard error. Settings are read first, then the flow is loaded and compiled, then the
record is read and walked. What goes wrong on the way is reported with its causes and ends the
program with exit code 1; wrong arguments end it with 2.
-/
namespace DecisionFlow.CommandLine

/-- What the program asks of its surroundings. -/
structure Host (m : Type → Type) where
  /-- The contents of the file at a path. -/
  read : String → m (Except FileError String)
  /-- The whole standard input. -/
  input : m String

/-- What the program leaves. -/
structure Outcome where
  /-- The exit code. -/
  exit : Nat := 0
  /-- The text for the standard output. -/
  output : String := ""
  /-- The lines for the standard error. -/
  errors : List String := []
deriving DecidableEq, Repr

/-- A failure: what could not be done, and the causes, each the cause of the one before. -/
structure Failure where
  /-- What could not be done. -/
  message : String
  /-- The causes. -/
  causes : List String := []
deriving DecidableEq, Repr

/-- The lines that report a failure. -/
def Failure.lines (failure : Failure) : List String :=
  match failure.causes with
  | [] => ["Error: " ++ failure.message]
  | [cause] => ["Error: " ++ failure.message, "", "Caused by:", "    " ++ cause]
  | causes =>
    ["Error: " ++ failure.message, "", "Caused by:"] ++
      causes.mapIdx fun place cause => s!"    {place}: {cause}"

/-- The outcome of a failure. -/
def Failure.outcome (failure : Failure) : Outcome := { exit := 1, errors := failure.lines }

/-- Text for the standard output, line by line. -/
def textOf (lines : List String) : String := String.join (lines.map (· ++ "\n"))

/-- A number as sixteen hexadecimal digits. -/
def hexWord (word : UInt64) : String :=
  String.ofList ((List.range 16).reverse.map fun place =>
    Nat.digitChar (word.toNat >>> (4 * place) % 16))

/-- The settings at a path, or the defaults. -/
def settingsOf (path : Option String) (contents : Except FileError String) :
    Except Failure Settings :=
  match path with
  | none => .ok {}
  | some path =>
    match contents with
    | .error cause => .error ⟨s!"failed to read config at {path}", [cause.message]⟩
    | .ok text => (Settings.read? text).elim (.error ⟨s!"failed to parse config at {path}", []⟩) .ok

/-- The path of the flow: the option, or else the setting. -/
def flowPath (invocation : Invocation) (settings : Settings) : Except Failure String :=
  match (invocation.value? .rules).or settings.path with
  | some path => .ok path
  | none =>
    .error ⟨"no flow document given: pass --rules or set rules.path in the config", []⟩

/-- The compiler of predicates: options, or else settings. -/
def compilerOf (invocation : Invocation) (settings : Settings) : Compiler where
  param := (invocation.value? .param).getD settings.engine.param
  statementBodies := invocation.asks .statementBodies || settings.engine.statementBodies

/-- The rules in the contents of the file at a path. -/
def registryOf (compiler : Compiler) (path : String) (contents : Except FileError String) :
    Except Failure Registry := do
  let definitions ← (loadFlow [.flow] path contents).mapError fun error =>
    ⟨s!"failed to load flow {path}", [error.message]⟩
  (Registry.compile compiler.predicate definitions).mapError fun rejection =>
    ⟨s!"failed to compile flow {path}", [rejection.message]⟩

/-- The record in a text. -/
def recordOf (text : String) : Except Failure Value :=
  ((Json.readWhole? text).map Value.ofJson).elim (.error ⟨"record is not valid JSON", []⟩) .ok

/-- The trace of a walk for a reader. -/
def traceText (trace : Trace) : String :=
  if trace.isEmpty then "no rules evaluated\n"
  else textOf (trace.entries.map fun (id, outcome) => id.toText ++ ": " ++ verdict outcome)

/-- The outcome of a walk: its steps line by line unless they are not wanted, and its trace. With
a trace in JSON the steps go to the standard error. -/
def walkOutcome (path : String) (json quiet : Bool) (walked : Walked) : Outcome :=
  let lines := if quiet then [] else walked.steps.flatMap Step.lines
  let steps := if json then "" else textOf lines
  let errors := if json then lines else []
  match walked.result with
  | .error error =>
    let failure : Failure := ⟨s!"flow {path} failed", [error.message, error.cause.message]⟩
    { exit := 1, output := steps, errors := errors ++ failure.lines }
  | .ok trace =>
    { output := steps ++ (if json then trace.toJson.pretty 0 ++ "\n" else traceText trace)
      errors }

/-- A rule in a listing. -/
def ruleLine (rule : Rule) : String :=
  let edge (next : Option RuleId) : String := (next.map RuleId.toText).getD "-"
  s!"  [{rule.id.toText}] {rule.title} (true: {edge rule.trueNext}, false: {edge rule.falseNext})"

/-- The listing of a registry. -/
def checkText (path : String) (registry : Registry) : String :=
  textOf (s!"{registry.size} rules compiled from {path}:" :: registry.rules.map ruleLine)

/-- The summary of a registry. -/
def checkJson (path : String) (registry : Registry) : Json :=
  .object [("fingerprint", .string (hexWord registry.fingerprint)),
    ("ids", .array (registry.ids.map fun id => .string id.toText)),
    ("path", .string path), ("rules", .int registry.size)]

/-- The outcome of listing a registry. -/
def checkOutcome (path : String) (json : Bool) (registry : Registry) : Outcome :=
  { output := if json then (checkJson path registry).pretty 0 ++ "\n" else checkText path registry }

variable {m : Type → Type} [Monad m]

/-- Go on with a result, or report its failure. -/
def orReport {α : Type} (result : Except Failure α) (next : α → m Outcome) : m Outcome :=
  match result with
  | .ok value => next value
  | .error failure => return failure.outcome

/-- The text of the record: the option, or else the file at its path or the standard input. -/
def recordText (host : Host m) (invocation : Invocation) : m (Except Failure String) :=
  match invocation.value? .record, invocation.value? .recordFile with
  | none, some "-" => return .ok (← host.input)
  | none, some path => do
    return (← host.read path).mapError fun cause =>
      ⟨s!"failed to read record file {path}", [cause.message]⟩
  | given, _ => return .ok (given.getD "")

/-- Carry out an invocation, with the path of the settings. -/
def carryOut (host : Host m) (invocation : Invocation) (config : Option String) : m Outcome := do
  let contents ← match config with
    | some path => host.read path
    | none => pure (.ok "")
  orReport (settingsOf config contents) fun settings =>
  orReport (flowPath invocation settings) fun path => do
    let contents ← host.read path
    let json := invocation.value? .format == some "json"
    orReport (registryOf (compilerOf invocation settings) path contents) fun registry =>
    match invocation.command with
    | .check => return checkOutcome path json registry
    | .run => do
      orReport ((← recordText host invocation).bind recordOf) fun record =>
        let engine : Engine := ⟨registry, settings.engine.defaultEntry⟩
        let entry := (invocation.value? .entry).map RuleId.ofText
        return walkOutcome path json (invocation.asks .quiet) (engine.run entry record)

/-- The path of the settings: the option, or else the one from the environment, which may be
empty only where the option is given both before and after the command. -/
def configPath (invocation : Invocation) (environment : Option String) :
    Except UsageError (Option String) :=
  match environment with
  | some "" =>
    if has invocation.before .config && has invocation.after .config then
      .ok (invocation.value? .config)
    else .error (.valueMissing .config)
  | environment => .ok ((invocation.value? .config).or environment)

/-- The version of the program. -/
def version : String := "0.1.0"

/-- The usage of the program with a name. -/
def usage (name : String) : String := s!"Usage: {name} [OPTIONS] <run|check> [OPTIONS]"

/-- The outcome of wrong arguments. -/
def usageOutcome (name : String) (error : UsageError) : Outcome :=
  { exit := 2, errors := [error.message, "", usage name] }

/-- Run the program under a name, with the path of the settings from the environment. -/
def run (host : Host m) (name : String) (environment : Option String) (arguments : List String) :
    m Outcome :=
  match readArguments arguments with
  | .error .help => return { output := usage name ++ "\n" }
  | .error .version => return { output := s!"{name} {version}\n" }
  | .error (.usage error) => return usageOutcome name error
  | .ok invocation =>
    match configPath invocation environment with
    | .error error => return usageOutcome name error
    | .ok config => carryOut host invocation config

end DecisionFlow.CommandLine

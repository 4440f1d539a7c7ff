/-!
# Arguments

The program has a command that walks a record through a flow and one that lists the rules of a
flow. Options are written with two hyphens and their name; a value follows as the next argument
or after an equals sign, and only in the second form may it start with a hyphen. Options of the
program may stand before or after the command. No option may be given twice in one place; after
the command it counts more than before.
-/
namespace DecisionFlow.CommandLine

/-- The options. -/
inductive Key where
  /-- The path of the settings. -/
  | config
  /-- The format of the output. -/
  | format
  /-- The path of the flow. -/
  | rules
  /-- The record. -/
  | record
  /-- The path of the record. -/
  | recordFile
  /-- The entry of the walk. -/
  | entry
  /-- The name that stands for the record. -/
  | param
  /-- Whether predicates are function bodies. -/
  | statementBodies
  /-- Whether steps are not reported. -/
  | quiet
  /-- A request for help. -/
  | help
  /-- A request for the version. -/
  | version
deriving DecidableEq, Repr

namespace Key

/-- The name of an option. -/
def name : Key → String
  | .config => "config"
  | .format => "format"
  | .rules => "rules"
  | .record => "record"
  | .recordFile => "record-file"
  | .entry => "entry"
  | .param => "param"
  | .statementBodies => "statement-bodies"
  | .quiet => "quiet"
  | .help => "help"
  | .version => "version"

/-- The letter that stands for an option after a single hyphen. -/
def letter? : Key → Option Char
  | .quiet => some 'q'
  | .help => some 'h'
  | .version => some 'V'
  | _ => none

/-- Whether an option has a value. -/
def takesValue : Key → Bool
  | .statementBodies | .quiet | .help | .version => false
  | _ => true

/-- Whether an option may have a value: paths are not empty, and there are two formats. -/
def allows (key : Key) (value : String) : Bool :=
  match key with
  | .config | .rules | .recordFile => !value.isEmpty
  | .format => ["text", "json"].contains value
  | _ => true

end Key

/-- The commands. -/
inductive Command where
  /-- Walk a record through a flow. -/
  | run
  /-- List the rules of a flow. -/
  | check
deriving DecidableEq, Repr

/-- The command with a name. -/
def Command.named? (name : String) : Option Command :=
  if name == "run" then some .run else if name == "check" then some .check else none

/-- The options that may follow a command. -/
def Command.keys : Command → List Key
  | .run =>
    [.rules, .record, .recordFile, .entry, .param, .statementBodies, .quiet, .config, .format,
      .help]
  | .check => [.rules, .param, .statementBodies, .config, .format, .help]

/-- The options that may stand before a command. -/
def programKeys : List Key := [.config, .format, .help, .version]

/-- What is wrong with arguments. -/
inductive UsageError where
  /-- An argument that means nothing in its place. -/
  | unexpected (argument : String)
  /-- An option without its value. -/
  | valueMissing (key : Key)
  /-- A value for an option that has none. -/
  | valueUnwanted (key : Key)
  /-- A value that an option may not have. -/
  | valueRefused (key : Key) (value : String)
  /-- An option that is given twice. -/
  | repeated (key : Key)
  /-- No command. -/
  | commandMissing
  /-- Neither a record nor its path. -/
  | recordMissing
  /-- Both a record and its path. -/
  | recordTwice
deriving DecidableEq, Repr

/-- The wording of a usage error. -/
def UsageError.message : UsageError → String
  | .unexpected argument => s!"error: unexpected argument '{argument}' found"
  | .valueMissing key => s!"error: a value is required for '--{key.name}' but none was supplied"
  | .valueUnwanted key => s!"error: unexpected value for '--{key.name}' found"
  | .valueRefused key value => s!"error: invalid value '{value}' for '--{key.name}'"
  | .repeated key => s!"error: the argument '--{key.name}' cannot be used multiple times"
  | .commandMissing => "error: a command is required but none was given"
  | .recordMissing => "error: a record is required but none was given"
  | .recordTwice => "error: the argument '--record' cannot be used with '--record-file'"

/-- Why arguments ask for no command. -/
inductive Stop where
  /-- They ask for help. -/
  | help
  /-- They ask for the version. -/
  | version
  /-- They are wrong. -/
  | usage (error : UsageError)
deriving DecidableEq, Repr

/-- The options that are given in one place, with their values. -/
abbrev Given := List (Key × String)

/-- Whether an option is given. -/
def has (given : Given) (key : Key) : Bool := (given.lookup key).isSome

/-- Take one more option. -/
def take (given : Given) (key : Key) (value : String) : Except Stop Given :=
  match key with
  | .help => .error .help
  | .version => .error .version
  | key =>
    if has given key then .error (.usage (.repeated key))
    else if key.allows value then .ok ((key, value) :: given)
    else .error (.usage (.valueRefused key value))

/-- Take options without value by their letters. -/
def takeLetters (allowed : List Key) (argument : String) (given : Given) (letters : List Char) :
    Except Stop Given :=
  letters.foldlM
    (fun given letter =>
      match allowed.find? (·.letter? == some letter) with
      | some key => take given key ""
      | none => .error (.usage (.unexpected argument)))
    given

/-- Whether an argument can be the value of the option before it. -/
def isValue (argument : String) : Bool := argument == "-" || argument.toList.head? != some '-'

/-- An option by name, and the value that is attached to it. -/
def splitOption (text : List Char) : String × Option String :=
  match text.dropWhile (· != '=') with
  | _ :: value => (String.ofList (text.takeWhile (· != '=')), some (String.ofList value))
  | [] => (String.ofList text, none)

/-- Read options. Where a command may stand, its name ends them; gives the options and the
arguments from the command on. -/
def readOptions (allowed : List Key) (isCommand : String → Bool) (given : Given) :
    List String → Except Stop (Given × List String)
  | [] => .ok (given, [])
  | argument :: rest =>
    if isCommand argument then .ok (given, argument :: rest)
    else match argument.toList with
      | ['-', '-'] =>
        match rest with
        | [] => .ok (given, [])
        | further :: _ => .error (.usage (.unexpected further))
      | '-' :: '-' :: text =>
        let (name, attached) := splitOption text
        match allowed.find? (·.name == name), attached with
        | none, _ => .error (.usage (.unexpected argument))
        | some key, some value =>
          if key.takesValue then do
            readOptions allowed isCommand (← take given key value) rest
          else .error (.usage (.valueUnwanted key))
        | some key, none =>
          if key.takesValue then
            match rest with
            | value :: rest =>
              if isValue value then do
                readOptions allowed isCommand (← take given key value) rest
              else .error (.usage (.valueMissing key))
            | [] => .error (.usage (.valueMissing key))
          else do readOptions allowed isCommand (← take given key "") rest
      | '-' :: letter :: letters => do
        readOptions allowed isCommand (← takeLetters allowed argument given (letter :: letters))
          rest
      | _ => .error (.usage (.unexpected argument))

/-- What arguments ask for: a command, and the options before and after it. -/
structure Invocation where
  /-- The command. -/
  command : Command
  /-- The options before the command. -/
  before : Given
  /-- The options after the command. -/
  after : Given
deriving DecidableEq, Repr

namespace Invocation

/-- The value of an option; after the command it counts more than before. -/
def value? (invocation : Invocation) (key : Key) : Option String :=
  (invocation.after.lookup key).or (invocation.before.lookup key)

/-- Whether an option is given. -/
def asks (invocation : Invocation) (key : Key) : Bool := (invocation.value? key).isSome

end Invocation

/-- Whether an argument is the name of a command. -/
def isCommandName (argument : String) : Bool :=
  argument == "help" || (Command.named? argument).isSome

/-- What a request for help about some commands asks for. -/
def readHelp : List String → Stop
  | [] => .help
  | [argument] => if isCommandName argument then .help else .usage (.unexpected argument)
  | _ :: argument :: _ => .usage (.unexpected argument)

/-- Read arguments. A walk needs a record or its path, and not both. -/
def readArguments (arguments : List String) : Except Stop Invocation := do
  let (before, rest) ← readOptions programKeys isCommandName [] arguments
  match rest with
  | [] => .error (.usage .commandMissing)
  | name :: rest =>
    match Command.named? name with
    | none => .error (readHelp rest)
    | some command =>
      let (after, _) ← readOptions command.keys (fun _ => false) [] rest
      if command == .run then
        match has after .record, has after .recordFile with
        | false, false => .error (.usage .recordMissing)
        | true, true => .error (.usage .recordTwice)
        | _, _ => .ok ⟨command, before, after⟩
      else .ok ⟨command, before, after⟩

end DecisionFlow.CommandLine

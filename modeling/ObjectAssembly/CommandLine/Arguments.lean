import ObjectAssembly.Binder
import ObjectAssembly.Tracing.Settings

/-!
# Arguments — what a command line asks for

The arguments are options and one command, which has options and a name of its own.  An option's
value is read when the next option, the command's name or the end of the line comes, so that of two
mistakes the one that is complete first is reported.  After `--` nothing is an option.
-/

namespace ObjectAssembly.CommandLine

/-! ### Options -/

/-- The options with a value. -/
inductive OptionKey
  | level
  | format
  | assignment
  deriving DecidableEq, Repr

namespace OptionKey

/-- The name after the dashes. -/
def flag : OptionKey → String
  | level => "log-level"
  | format => "log-format"
  | assignment => "set"

/-- The word for the value. -/
def placeholder : OptionKey → String
  | level => "LOG_LEVEL"
  | format => "LOG_FORMAT"
  | assignment => "NAME=VALUE"

/-- The option as texts show it. -/
def display (k : OptionKey) : String := "--" ++ k.flag ++ " <" ++ k.placeholder ++ ">"

end OptionKey

/-- The commands, and what stands before any of them. -/
inductive Scope
  | top
  | list
  | types
  | usage
  | run
  deriving DecidableEq, Repr

namespace Scope

/-- The option of a name that may be given here. -/
def option? (s : Scope) (name : String) : Option OptionKey :=
  let known := if s = run then [OptionKey.level, .format, .assignment] else [.level, .format]
  known.find? (·.flag == name)

/-- The command needs a name. -/
def takesName (s : Scope) : Bool := s = usage || s = run

/-- The command of a name. -/
def ofName? : String → Option Scope
  | "list" => some list
  | "types" => some types
  | "usage" => some usage
  | "run" => some run
  | _ => none

end Scope

/-- What help is asked for. -/
inductive HelpTopic
  | scope (s : Scope)
  | help
  deriving DecidableEq, Repr

/-- Why a command line is not carried out. -/
inductive Stop
  | invalidValue (option : OptionKey) (value reason : String)
  | missingValue (option : OptionKey)
  | repeatedOption (option : OptionKey)
  | unexpectedArgument (argument : String)
  | unexpectedValue (value flag : String)
  | unknownCommand (name : String)
  | missingCommand
  | missingName
  | nothingAsked
  | helpAsked (topic : HelpTopic)
  | versionAsked
  deriving DecidableEq, Repr

/-! ### Values -/

/-- The level of a name, or of a number from one for errors to five for everything. -/
def parseLevel? (s : String) : Option Level :=
  match Number.IntFormat.u64.parse s with
  | .ok 1 => some .error
  | .ok 2 => some .warn
  | .ok 3 => some .info
  | .ok 4 => some .debug
  | .ok 5 => some .trace
  | .ok _ => none
  | .error _ => Level.ofName? s

/-- The complaint about a text that is no level. -/
def levelReason : String :=
  "error parsing level: expected one of \"error\", \"warn\", \"info\", \"debug\", \"trace\", " ++
    "or a number 1-5"

/-- Splits an assignment at its first equals sign. -/
def parseAssignment (raw : String) : Except String Assignment :=
  let name := raw.toList.takeWhile (· ≠ '=')
  match raw.toList.dropWhile (· ≠ '=') with
  | [] => .error s!"expected NAME=VALUE, got '{raw}'"
  | _ :: value =>
    if name.isEmpty then .error s!"missing option name in '{raw}'"
    else .ok ⟨String.ofList name, String.ofList value⟩

/-! ### Reading -/

/-- What has been read: the options, the name, and the option whose value is still to be read or
still missing. -/
structure Reading where
  level : Option Level
  format : Option Tracing.Format
  assignments : List Assignment
  name : Option String
  pending : Option (OptionKey × Option String)
  deriving DecidableEq, Repr

namespace Reading

def start : Reading := ⟨none, none, [], none, none⟩

/-- Reads the value of an option. -/
def store (r : Reading) (k : OptionKey) (value : String) : Except Stop Reading :=
  match k with
  | .level =>
    if r.level.isSome then .error (.repeatedOption k)
    else match parseLevel? value with
      | none => .error (.invalidValue k value levelReason)
      | some l => .ok { r with level := some l }
  | .format =>
    if r.format.isSome then .error (.repeatedOption k)
    else match Tracing.Format.ofWord? value with
      | none => .error (.invalidValue k value (Tracing.Format.unknownMessage value))
      | some f => .ok { r with format := some f }
  | .assignment =>
    match parseAssignment value with
    | .error reason => .error (.invalidValue k value reason)
    | .ok a => .ok { r with assignments := r.assignments ++ [a] }

/-- Reads the value that is pending, if there is one. -/
def settle (r : Reading) : Except Stop Reading :=
  match r.pending with
  | none => .ok r
  | some (k, none) => .error (.missingValue k)
  | some (k, some value) => { r with pending := none }.store k value

/-- The next argument is the value of an option. -/
def expectsValue (r : Reading) : Option OptionKey :=
  match r.pending with
  | some (k, none) => some k
  | _ => none

/-- Meets an option, with the value after an equals sign if there is one. -/
def option (r : Reading) (k : OptionKey) (value : Option String) : Except Stop Reading :=
  match r.settle with
  | .error e => .error e
  | .ok r =>
    match value with
    | some v => r.store k v
    | none => .ok { r with pending := some (k, none) }

end Reading

/-- The form of an argument. -/
inductive Form
  | separator
  | long (name : String) (value : Option String)
  | short (c : Char)
  | plain
  deriving DecidableEq, Repr

/-- The form of an argument; a dash alone is plain. -/
def formOf (arg : String) : Form :=
  match arg.toList with
  | ['-', '-'] => .separator
  | '-' :: '-' :: cs =>
    let name := String.ofList (cs.takeWhile (· ≠ '='))
    match cs.dropWhile (· ≠ '=') with
    | [] => .long name none
    | _ :: value => .long name (some (String.ofList value))
  | '-' :: c :: _ => .short c
  | _ => .plain

/-- Meets a dashed argument. -/
def dashed (scope : Scope) (r : Reading) : Form → Except Stop Reading
  | .long name value =>
    match scope.option? name with
    | some k => r.option k value
    | none =>
      if name = "help" ∨ (name = "version" ∧ scope = .top) then
        match value with
        | some v => .error (.unexpectedValue v ("--" ++ name))
        | none =>
          match r.settle with
          | .error e => .error e
          | .ok _ =>
            .error (if name = "help" then .helpAsked (.scope scope) else .versionAsked)
      else .error (.unexpectedArgument ("--" ++ name))
  | .short c =>
    if c = 'h' ∨ (c = 'V' ∧ scope = .top) then
      match r.settle with
      | .error e => .error e
      | .ok _ => .error (if c = 'h' then .helpAsked (.scope scope) else .versionAsked)
    else .error (.unexpectedArgument (String.ofList ['-', c]))
  | _ => .ok r

/-- Meets an argument that is no option, where a command's name may stand. -/
def positional (scope : Scope) (r : Reading) (arg : String) : Except Stop Reading :=
  if scope.takesName ∧ r.name.isNone then
    match r.settle with
    | .error e => .error e
    | .ok r => .ok { r with name := some arg }
  else .error (.unexpectedArgument arg)

/-- Reads the arguments of a command; `plainOnly` after the separator. -/
def readCommand (scope : Scope) : Bool → Reading → List String → Except Stop Reading
  | _, r, [] =>
    match r.settle with
    | .error e => .error e
    | .ok r => if scope.takesName ∧ r.name.isNone then .error .missingName else .ok r
  | true, r, arg :: rest =>
    match positional scope r arg with
    | .error e => .error e
    | .ok r => readCommand scope true r rest
  | false, r, arg :: rest =>
    match formOf arg with
    | .separator => readCommand scope true r rest
    | .plain =>
      match r.expectsValue with
      | some k => readCommand scope false { r with pending := some (k, some arg) } rest
      | none =>
        match positional scope r arg with
        | .error e => .error e
        | .ok r => readCommand scope false r rest
    | form =>
      match dashed scope r form with
      | .error e => .error e
      | .ok r => readCommand scope false r rest

/-! ### The whole line -/

/-- What a program is to do. -/
inductive Command
  | list
  | types
  | usage (name : String)
  | run (name : String) (assignments : List Assignment)
  deriving DecidableEq, Repr

/-- A command line that can be carried out. -/
structure Invocation where
  level : Level
  format : Tracing.Format
  command : Command
  deriving DecidableEq, Repr

/-- The command that a scope and what was read in it make up. -/
def commandOf (scope : Scope) (r : Reading) : Command :=
  match scope with
  | .top | .list => .list
  | .types => .types
  | .usage => .usage (r.name.getD "")
  | .run => .run (r.name.getD "") r.assignments

/-- The topic of a request for help, command after command. -/
def helpTopic : List String → Except Stop HelpTopic
  | [] => .ok (.scope .top)
  | [arg] =>
    if arg = "help" then .ok .help
    else match Scope.ofName? arg with
      | some s => .ok (.scope s)
      | none => .error (.unknownCommand arg)
  | first :: second :: _ =>
    .error (.unknownCommand
      (if first = "help" ∨ (Scope.ofName? first).isSome then second else first))

/-- Reads the arguments before the command, and the command. -/
def readTop : Bool → Reading → List String → Except Stop Invocation
  | _, r, [] =>
    match r.settle with
    | .error e => .error e
    | .ok r =>
      .error (if r.level.isNone ∧ r.format.isNone then .nothingAsked else .missingCommand)
  | true, _, arg :: _ =>
    .error (if arg = "help" ∨ (Scope.ofName? arg).isSome then .unexpectedArgument arg
      else .unknownCommand arg)
  | false, r, arg :: rest =>
    match formOf arg with
    | .separator => readTop true r rest
    | .plain =>
      match r.expectsValue with
      | some k => readTop false { r with pending := some (k, some arg) } rest
      | none =>
        if arg = "help" then
          match helpTopic rest with
          | .error e => .error e
          | .ok topic => .error (.helpAsked topic)
        else match Scope.ofName? arg with
          | none => .error (.unknownCommand arg)
          | some scope =>
            match readCommand scope false .start rest with
            | .error e => .error e
            | .ok inner =>
              match r.settle with
              | .error e => .error e
              | .ok outer =>
                .ok
                  { level := (inner.level.orElse fun _ => outer.level).getD .warn
                    format := (inner.format.orElse fun _ => outer.format).getD .standard
                    command := commandOf scope inner }
    | form =>
      match dashed .top r form with
      | .error e => .error e
      | .ok r => readTop false r rest

/-- Reads a command line. -/
def read (args : List String) : Except Stop Invocation := readTop false .start args

end ObjectAssembly.CommandLine

import ObjectAssembly.Application
import ObjectAssembly.CommandLine.HelpText
import ObjectAssembly.CommandLine.Terminal
import ObjectAssembly.Usage

/-!
# Program — carrying out a command line

The program builds an application of the registry, the log settings and the demo types, carries out
the command on what these publish, and reports an error with the chain of its causes, one per line.
-/

namespace ObjectAssembly.CommandLine

/-! ### Errors -/

/-- Why a command fails. -/
inductive ProgramError
  | unknownConfiguration (name : String)
  | configuration (e : ConfigurationError)
  | io (e : IoError)
  deriving DecidableEq, Repr

namespace ProgramError

def message : ProgramError → String
  | unknownConfiguration name => s!"no configuration named '{name}' (try `rig list`)"
  | configuration e => e.message
  | io _ => "failed to write output"

/-- The chain of causes; an error of a configuration speaks for itself. -/
def causes : ProgramError → List String
  | unknownConfiguration _ => []
  | configuration e => e.causes
  | io e => e.message :: e.causes

/-- The message, and a line per cause. -/
def report (e : ProgramError) : String :=
  unlines (("error: " ++ e.message) :: e.causes.map ("  caused by: " ++ ·))

end ProgramError

/-- The complaint about a command line, and nothing for a request.  What the line says stands
out. -/
def Stop.message? : Stop → Option String
  | .invalidValue option value reason =>
    some ("invalid value '" ++ emphasized value ++ "' for '" ++ option.display ++ "': " ++ reason)
  | .missingValue option =>
    some ("a value is required for '" ++ option.display ++ "' but none was supplied")
  | .repeatedOption option =>
    some ("the argument '" ++ option.display ++ "' cannot be used multiple times")
  | .unexpectedArgument argument =>
    some ("unexpected argument '" ++ emphasized argument ++ "' found")
  | .unexpectedValue value flag =>
    some ("unexpected value '" ++ emphasized value ++ "' for '" ++ flag ++
      "' found; no more were expected")
  | .unknownCommand name => some ("unrecognized subcommand '" ++ emphasized name ++ "'")
  | .missingCommand => some "'rig' requires a subcommand but one was not provided"
  | .missingName =>
    some "the following required arguments were not provided:\n  <NAME>"
  | .nothingAsked | .helpAsked _ | .versionAsked => none

/-! ### Commands -/

/-- Carries out a command on a catalog and a registry; the answer is what it writes. -/
def execute (catalog : Catalog) (registry : ObjectRegistry) :
    Command → Except ProgramError String
  | .list => .ok catalog.summary
  | .types => .ok (unlines (registry.ids.map ("  " ++ ·)))
  | .usage name =>
    match catalog.get? name with
    | none => .error (.unknownConfiguration name)
    | some d => (d.usage registry.get?).outcome.mapError .configuration
  | .run name assignments =>
    match catalog.get? name with
    | none => .error (.unknownConfiguration name)
    | some d => (Demo.run d assignments registry.get? []).2.2.mapError .configuration

/-! ### The application -/

/-- The plugins of the program. -/
inductive Member
  | objects
  | tracing
  | demo
  deriving DecidableEq, Repr

/-- The program has no resources of its own. -/
abbrev ProgramStore := Store Empty fun _ => Empty

/-- The plugins, with these log settings. -/
def family (settings : Tracing.Settings) : Member → Plugin Member ProgramStore Empty
  | .objects => objectsPlugin
  | .tracing => tracingPlugin settings
  | .demo => demoPlugin

/-- The actions before the command is carried out. -/
def startup : List (Action Member ProgramStore Empty) :=
  [.add [.objects], .add [.tracing], .add [.demo], .finish]

/-- Performs actions in order, up to a panic.  No callback of the program's plugins drives the
server, so callbacks do not nest. -/
def performAll (settings : Tracing.Settings) :
    List (Action Member ProgramStore Empty) → Server Member ProgramStore Empty →
      Outcome Unit × Server Member ProgramStore Empty
  | [], s => (.done (), s)
  | a :: rest, s =>
    match Server.perform (family settings) 2 a s with
    | (.done _, s) => performAll settings rest s
    | (.fault f, s) => (.fault f, s)
    | (.exhausted, s) => (.exhausted, s)

/-- What the program writes and how it ends. -/
structure Response where
  code : Nat
  stdout : String
  stderr : String
  deriving DecidableEq, Repr

/-- Carries out an invocation. -/
def Invocation.respond (i : Invocation) (environment : Option String) : Response :=
  let settings : Tracing.Settings := ⟨i.level, i.format, none⟩
  match performAll settings startup (.new (.new environment)) with
  | (.done (), s) =>
    match s.store.publishedCatalog?, s.store.publishedRegistry? with
    | some catalog, some registry =>
      match execute catalog registry i.command with
      | .ok text => ⟨0, text, ""⟩
      | .error e => ⟨1, "", e.report⟩
    | none, _ => ⟨101, "", "DemoObjectsPlugin publishes the catalog\n"⟩
    | _, none => ⟨101, "", "DefaultPlugins provides the object registry\n"⟩
  | (.fault f, _) => ⟨101, "", f.message ++ "\n"⟩
  | (.exhausted, _) => ⟨101, "", ""⟩

/-- What the program writes when it does not carry out a command; its output is no terminal. -/
def Stop.respond (s : Stop) : Response :=
  match s with
  | .helpAsked topic => ⟨0, topic.text, ""⟩
  | .versionAsked => ⟨0, versionText, ""⟩
  | .nothingAsked => ⟨2, "", (HelpTopic.scope .top).text⟩
  | _ =>
    ⟨2, "", visible ("error: " ++ s.message?.getD "" ++ "\n\nFor more information, try '" ++
      emphasized "--help" ++ "'.\n")⟩

/-- Carries out a command line, given the filter in the environment. -/
def respond (args : List String) (environment : Option String) : Response :=
  match read args with
  | .ok i => i.respond environment
  | .error s => s.respond

end ObjectAssembly.CommandLine

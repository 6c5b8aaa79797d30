import ObjectAssembly.CommandLine.Arguments
import ObjectAssembly.Help

/-!
# HelpText — the program's help

One text per command: what it does, how it is called, and its arguments and options in columns.
-/

namespace ObjectAssembly.CommandLine

/-- Rows of two columns, the second two places past the longest entry of the first. -/
def columns (rows : List (String × String)) : List String :=
  let width := (rows.map (·.1.length)).foldl max 0
  rows.map fun p =>
    p.1 ++ String.ofList (List.replicate (width - p.1.length) ' ') ++ "  " ++ p.2

namespace Scope

/-- What the command does. -/
def about : Scope → String
  | top => "Inspect and materialize Rigging configurations"
  | list => "List the available configurations"
  | types => "List the registered object types"
  | usage => "Print the options accepted by a configuration's objects"
  | run => "Materialize a configuration and describe the result"

/-- The command's name. -/
def name : Scope → String
  | top => "rig"
  | list => "list"
  | types => "types"
  | usage => "usage"
  | run => "run"

/-- How the command is called. -/
def synopsis (s : Scope) : String :=
  match s with
  | top => "rig [OPTIONS] <COMMAND>"
  | _ => "rig " ++ s.name ++ " [OPTIONS]" ++ (if s.takesName then " <NAME>" else "")

/-- The options of the command, in the order of their places and names. -/
def options (s : Scope) : List (String × String) :=
  [("      " ++ OptionKey.level.display,
      "Maximum log level (overridden by RIGGING_LOG) [default: warn]")] ++
    (if s = run then
      [("      " ++ OptionKey.assignment.display,
        "Extra option assignment, appended after the configuration's own")] else []) ++
    [("      " ++ OptionKey.format.display,
        "Log output format: pretty, compact or json [default: compact]"),
      ("  -h, --help", "Print help")] ++
    (if s = top then [("  -V, --version", "Print version")] else [])

end Scope

/-- What the help command does. -/
def helpAbout : String := "Print this message or the help of the given subcommand(s)"

/-- The commands and what they do. -/
def commandRows : List (String × String) :=
  ([.list, .types, .usage, .run] : List Scope).map (fun s => ("  " ++ s.name, s.about)) ++
    [("  help", helpAbout)]

/-- The help text of a topic. -/
def HelpTopic.text : HelpTopic → String
  | scope s =>
    unlines ([s.about, "", "Usage: " ++ s.synopsis, ""] ++
      (if s = .top then "Commands:" :: columns commandRows ++ [""] else []) ++
      (if s.takesName then "Arguments:" :: columns [("  <NAME>", "Configuration name")] ++ [""]
        else []) ++
      "Options:" :: columns s.options)
  | help =>
    unlines ([helpAbout, "", "Usage: rig help [COMMAND]...", "", "Arguments:"] ++
      columns [("  [COMMAND]...", "Print help for the subcommand(s)")])

/-- The program's name and version. -/
def versionText : String := "rig 0.0.1\n"

end ObjectAssembly.CommandLine

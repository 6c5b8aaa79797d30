import ObjectAssembly.Definition
import ObjectAssembly.Registry
import ObjectAssembly.Sink

/-!
# Usage — the options that a definition's objects accept

The usage text has a heading and a section for every identifier whose type declares options.  It
consumes the definition, as materializing does, but calls no factory.  Printing renders the whole
text before the first byte is written.
-/

namespace ObjectAssembly

/-- The section of one identifier; a type without options has none. -/
def usageSection (slot : String) (t : ObjectType) : String :=
  if t.help.isEmpty then "" else "  " ++ slot ++ " options:\n" ++ t.help ++ "\n"

/-- Resolves identifiers in order and collects their sections, up to the first that is not found.
The answer starts with what the resolver was asked for. -/
def usageSections (resolve : Resolver) :
    List (String × String) → List String × Except ConfigurationError String
  | [] => ([], .ok "")
  | (slot, id) :: rest =>
    match resolve id with
    | none => ([id], .error (.typeNotFound slot id))
    | some t =>
      let (lookups, sections) := usageSections resolve rest
      (id :: lookups, sections.map (usageSection slot t ++ ·))

/-- Rendering a usage text: the definition after it, what the resolver was asked for, the log, and
the text or the first problem. -/
structure Usage where
  definition : Definition
  lookups : List String
  log : List LogEntry
  outcome : Except ConfigurationError String

namespace Definition

/-- The first line of the usage text, and the blank line after it. -/
def heading (d : Definition) : String :=
  "'" ++ d.name ++ "' configuration: " ++ d.description ++ "\n\n"

/-- Renders the usage text. -/
def usage (d : Definition) (resolve : Resolver) : Usage :=
  let (definition, freezing) := d.freeze
  let (lookups, sections) := usageSections resolve d.slots.pairs
  ⟨definition, lookups, .renderingUsage d.name :: freezing, sections.map (d.heading ++ ·)⟩

/-- Renders the usage text and prints it; what the output received stands beside the rendering. -/
def printUsage (d : Definition) (resolve : Resolver) (out : Sink) :
    Usage × Received × Except ConfigurationError Unit :=
  let usage := d.usage resolve
  match usage.outcome with
  | .error e => (usage, .nothing, .error e)
  | .ok text => (usage, out.print text)

end Definition

end ObjectAssembly

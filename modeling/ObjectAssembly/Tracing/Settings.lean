import ObjectAssembly.Level
import ObjectAssembly.Tracing.Directive

/-!
# Settings — how log output is set up

Of an explicit filter and the one in the environment the first valid one is used; without either,
the level is the filter.  A filter that is torn before a valid one is found leaves no settings.
-/

namespace ObjectAssembly.Tracing

open Text

/-- The layout of log lines. -/
inductive Format
  | pretty
  | compact
  | json
  deriving DecidableEq, Repr

namespace Format

/-- The layout unless another one is set. -/
def standard : Format := compact

def label : Format → String
  | pretty => "Pretty"
  | compact => "Compact"
  | json => "Json"

/-- The word for the layout in texts. -/
def word : Format → String
  | pretty => "pretty"
  | compact => "compact"
  | json => "json"

/-- The layout of that word; ASCII letters match in either case. -/
def ofWord? (s : String) : Option Format :=
  [pretty, compact, json].find? fun f => s.toList.map Char.toLower == f.word.toList

/-- The complaint about a word that is no layout. -/
def unknownMessage (s : String) : String :=
  s!"unknown tracing format '{s}' (expected pretty, compact or json)"

end Format

/-- The settings of log output before the environment is known. -/
structure Settings where
  level : Level
  format : Format
  filter : Option String
  deriving DecidableEq, Repr

/-- The settings in use. -/
structure Config where
  level : Level
  format : Format
  filter : String
  deriving DecidableEq, Repr

namespace Settings

def standard : Settings := ⟨.warn, .standard, none⟩

/-- The first valid one of some filters; one that is torn ends the search. -/
def firstValid : List String → Except TornChar (Option String)
  | [] => .ok none
  | filter :: rest =>
    match checkFilter filter with
    | .ok () => .ok (some filter)
    | .error .invalid => firstValid rest
    | .error (.torn t) => .error t

/-- The filter in use, given the one in the environment. -/
def resolveFilter (s : Settings) (environment : Option String) : Except TornChar String :=
  (firstValid ([s.filter, environment].filterMap id)).map (·.getD s.level.directive)

/-- The settings in use, given the filter in the environment. -/
def resolve (s : Settings) (environment : Option String) : Except TornChar Config :=
  (s.resolveFilter environment).map (⟨s.level, s.format, ·⟩)

end Settings

end ObjectAssembly.Tracing

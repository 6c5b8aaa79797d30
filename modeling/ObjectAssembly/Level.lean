/-!
# Level — log severities

The five severities, their names, and reading a name whatever its case.
-/

namespace ObjectAssembly

/-- A log severity, from the most talkative to the gravest. -/
inductive Level
  | trace
  | debug
  | info
  | warn
  | error
  deriving DecidableEq, Repr

namespace Level

/-- The name in capitals. -/
def name : Level → String
  | trace => "TRACE"
  | debug => "DEBUG"
  | info => "INFO"
  | warn => "WARN"
  | error => "ERROR"

/-- The name as it stands among the fields of an object that is shown. -/
def label : Level → String
  | trace => "Trace"
  | debug => "Debug"
  | info => "Info"
  | warn => "Warn"
  | error => "Error"

/-- The name in small letters, which is also a filter directive. -/
def directive : Level → String
  | trace => "trace"
  | debug => "debug"
  | info => "info"
  | warn => "warn"
  | error => "error"

def all : List Level := [trace, debug, info, warn, error]

/-- The level of that name; ASCII letters match in either case. -/
def ofName? (s : String) : Option Level :=
  all.find? fun l => s.toList.map Char.toUpper == l.name.toList

end Level

end ObjectAssembly

import ObjectAssembly.Level

/-!
# Log — what the library reports while it works

Each entry says that something has begun (a span) or has happened (an event).  Its title, severity
and named fields are functions of the entry.
-/

namespace ObjectAssembly

/-- One entry of the log. -/
inductive LogEntry
  | materializing (configuration : String)
  | renderingUsage (configuration : String)
  | frozen (configuration : String)
  | instantiated (slot typeId typeName : String)
  | optionApplied (option value : String) (targets : Nat)
  | materialized (configuration : String) (slots objects options : Nat)
  | typeRegistered (id typeName : String)
  | registryFrozen (types : Nat)
  | buildingPlugin (plugin : String)
  | serverReady (plugins : Nat)
  | tracingInitialized (filter format : String)
  | tracingShutDown
  deriving DecidableEq, Repr

/-- The value of a field of an entry. -/
inductive LogValue
  | text (s : String)
  | number (n : Nat)
  deriving DecidableEq, Repr

namespace LogEntry

/-- The entry opens a span. -/
def isSpan : LogEntry → Bool
  | materializing _ | renderingUsage _ => true
  | _ => false

/-- The name of the span, or the message of the event. -/
def title : LogEntry → String
  | materializing _ => "materialize"
  | renderingUsage _ => "usage"
  | frozen _ => "configuration frozen"
  | instantiated .. => "object instantiated"
  | optionApplied .. => "option applied"
  | materialized .. => "configuration materialized"
  | typeRegistered .. => "object type registered"
  | registryFrozen _ => "object registry frozen"
  | buildingPlugin _ => "building plugin"
  | serverReady _ => "server ready"
  | tracingInitialized .. => "tracing initialized"
  | tracingShutDown => "tracing shutting down"

def level : LogEntry → Level
  | optionApplied .. => .trace
  | materialized .. => .info
  | _ => .debug

/-- The named fields, in order. -/
def fields : LogEntry → List (String × LogValue)
  | materializing c | renderingUsage c | frozen c => [("configuration", .text c)]
  | instantiated slot typeId typeName =>
    [("slot", .text slot), ("type_id", .text typeId), ("type_name", .text typeName)]
  | optionApplied option value targets =>
    [("option", .text option), ("value", .text value), ("targets", .number targets)]
  | materialized c slots objects options =>
    [("configuration", .text c), ("slots", .number slots), ("objects", .number objects),
      ("options", .number options)]
  | typeRegistered id typeName => [("id", .text id), ("type_name", .text typeName)]
  | registryFrozen types => [("types", .number types)]
  | buildingPlugin plugin => [("plugin", .text plugin)]
  | serverReady plugins => [("plugins", .number plugins)]
  | tracingInitialized filter format => [("filter", .text filter), ("format", .text format)]
  | tracingShutDown => []

end LogEntry

end ObjectAssembly

import ObjectAssembly.Catalog
import ObjectAssembly.Declaration.Struct
import ObjectAssembly.Materialize

/-!
# Demo — a small set of types and configurations

Loggers, a store, an HTTP front end, a clock and an audit sink, with three configurations made of
them, and a description of a configuration that shows one object per line.
-/

namespace ObjectAssembly.Demo

open Number

/-! ### Types -/

/-- The class with these declared fields; a declaration that is refused has no options. -/
def classOf (name : String) (fields : List (FieldDecl FieldType)) (initial : Record) :
    ObjectClass :=
  match ObjectClass.derive name fields with
  | .ok c => { c with initial := initial }
  | .error _ => ⟨name, [], initial⟩

/-- A documented field that is an option of its own name. -/
def field (ident : String) (arity : Arity) (scalar : ScalarType) (doc : String) :
    FieldDecl FieldType :=
  ⟨ident, ⟨arity, scalar⟩, [⟨"doc", .assign (.text doc)⟩, ⟨"option", .word⟩]⟩

/-- A documented field that is an option of another name. -/
def renamed (ident name : String) (arity : Arity) (scalar : ScalarType) (doc : String) :
    FieldDecl FieldType :=
  ⟨ident, ⟨arity, scalar⟩,
    [⟨"doc", .assign (.text doc)⟩, ⟨"option", .list [.assign "name" (.text name)]⟩]⟩

def fileLogger : ObjectClass :=
  classOf "example::objects::FileLogger"
    [renamed "log_level" "log-level" .single .level "Minimum level written to the file.",
      field "path" .optional .path "Destination file.",
      renamed "tags" "tag" .many .text "Tags attached to every line."]
    [("log_level", .single (.level .info)), ("path", .optional none), ("tags", .many [])]

def consoleLogger : ObjectClass :=
  classOf "example::objects::ConsoleLogger"
    [renamed "log_level" "log-level" .single .level "Minimum level printed.",
      field "color" .single .bool "Colorize output."]
    [("log_level", .single (.level .info)), ("color", .single (.bool false))]

def memoryStore : ObjectClass :=
  classOf "example::objects::MemoryStore"
    [field "capacity" .single (.int .u64) "Maximum number of entries kept."]
    [("capacity", .single (.int 1024))]

def httpServer : ObjectClass :=
  classOf "example::objects::HttpServer"
    [field "bind" .single .text "Address to listen on.",
      field "port" .single (.int .u16) "Port to listen on.",
      renamed "allowed_origins" "allow-origin" .many .text "Allowed CORS origins."]
    [("bind", .single (.text "127.0.0.1")), ("port", .single (.int 8080)),
      ("allowed_origins", .many [])]

def systemClock : ObjectClass := classOf "example::objects::SystemClock" [] []

def auditSink : ObjectClass :=
  classOf "example::objects::AuditSink"
    [renamed "retention_days" "retention-days" .single (.int .u32) "Retention in days."]
    [("retention_days", .single (.int 0))]

/-- The registered types, in registration order; the audit sink has no factory. -/
def types : List ObjectType :=
  [.ofClass "pkg.FileLogger" fileLogger, .ofClass "pkg.ConsoleLogger" consoleLogger,
    .ofClass "kv.MemoryStore" memoryStore, .ofClass "net.HttpServer" httpServer,
    .ofClass "sys.Clock" systemClock, .ofAbstract "audit.Sink" auditSink]

/-! ### Configurations -/

/-- A definition with a description, objects and options. -/
def definition (name description : String) (objects : List (String × String))
    (options : List (String × String)) : Definition where
  name := name
  description := description
  slots := objects.foldl (fun s p => s.append p.1 p.2) []
  options := options.map fun p => ⟨p.1, p.2⟩
  frozen := false

def test : Definition :=
  definition "test" "Single file logger at debug level." [("logger", "pkg.FileLogger")]
    [("log-level", "DEBUG")]

def service : Definition :=
  definition "service" "HTTP service with logging and an in-memory store."
    [("logger", "pkg.FileLogger"), ("logger", "pkg.ConsoleLogger"), ("store", "kv.MemoryStore"),
      ("clock", "sys.Clock"), ("http", "net.HttpServer")]
    [("log-level", "INFO"), ("path", "/var/log/service.log"), ("tag", "service"),
      ("capacity", "4096"), ("port", "8443")]

def audited : Definition :=
  definition "audited" "Service variant with an audit sink."
    [("logger", "pkg.ConsoleLogger"), ("audit", "audit.Sink")] [("retention-days", "30")]

/-- The three configurations by name. -/
def catalog : Catalog := ⟨[test, service, audited].map fun d => (d.name, d)⟩

/-! ### Description -/

/-- The part of a type name after its last path separator. -/
def shortName (typeName : String) : String :=
  String.ofList (typeName.toList.reverse.takeWhile (· ≠ ':')).reverse

/-- An object field by field, on one line. -/
def renderFields (o : Object) : String := o.fields.render (shortName o.typeName)

/-- The classes whose objects are described field by field. -/
def describedClasses : List ObjectClass := [fileLogger, consoleLogger, memoryStore, httpServer]

/-- An object in a description; one of another class is described by its type name. -/
def describeObject (o : Object) : String :=
  if describedClasses.any (·.name == o.typeName) then renderFields o else o.typeName

/-- The first line of a description. -/
def descriptionHeading (c : Configuration) : String :=
  s!"'{c.name}' materialized with {c.size} object(s):"

/-- The line of one object of a description. -/
def descriptionLine (p : String × Object) : String := "  " ++ p.1 ++ ": " ++ describeObject p.2

/-- A description: a heading, and a line per object, slot by slot. -/
def describe (c : Configuration) : String :=
  unlines (descriptionHeading c :: c.toList.map descriptionLine)

/-! ### Running a configuration of a catalog -/

/-- Materializes a copy of a definition with further assignments, and describes the result. -/
def run (d : Definition) (extra : List Assignment) (resolve : Resolver) (calls : Calls) :
    List LogEntry × Calls × Except ConfigurationError String :=
  match d.withAssignments extra with
  | .error e => ([], calls, .error e)
  | .ok copy =>
    let m := copy.materialize resolve calls
    (m.log, m.calls, m.outcome.map describe)

end ObjectAssembly.Demo

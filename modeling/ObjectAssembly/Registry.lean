import ObjectAssembly.Error
import ObjectAssembly.Help

/-!
# Registry — types by identifier

A registered type pairs an identifier with a class and, unless it is abstract, a factory.  A factory
may answer differently from call to call, so its answer depends on the identifiers of the types
whose factories have run before.  A registry refuses a second type of the same identifier.
-/

namespace ObjectAssembly

/-- The identifiers of the types whose factories have run, oldest first. -/
abbrev Calls := List String

/-- Makes the fields of an object, given the calls before. -/
abbrev Factory := Calls → Except InstantiateError Record

/-- A registered type; it is abstract if it has no factory. -/
structure ObjectType where
  id : String
  cls : ObjectClass
  factory : Option Factory

namespace ObjectType

/-- The type whose factory makes fresh objects of the class. -/
def ofClass (id : String) (cls : ObjectClass) : ObjectType :=
  ⟨id, cls, some fun _ => .ok cls.initial⟩

/-- The type without a factory. -/
def ofAbstract (id : String) (cls : ObjectClass) : ObjectType := ⟨id, cls, none⟩

variable (t : ObjectType)

def typeName : String := t.cls.name

/-- What is told about the options of the type's objects. -/
def options : List OptionInfo := t.cls.infos

def isConstructible : Bool := t.factory.isSome

/-- Makes an object, given the factory calls before. -/
def instantiate (calls : Calls) : Except InstantiateError Object :=
  match t.factory with
  | none => .error .notConstructible
  | some make => (make calls).map fun fields => ⟨t.cls, fields⟩

/-- The factory calls after the type has been instantiated: an abstract type adds none. -/
def record (calls : Calls) : Calls := if t.isConstructible then calls ++ [t.id] else calls

/-- The help text of the type's options. -/
def help : String := optionHelp t.options

/-- A type on one line. -/
def render : String :=
  "ObjectType \x7b id: " ++ Text.quoted t.id ++ ", type_name: " ++ Text.quoted t.typeName
    ++ ", options: " ++ toString t.options.length
    ++ ", constructible: " ++ (if t.isConstructible then "true" else "false") ++ " \x7d"

end ObjectType

/-- Finds the type of an identifier. -/
abbrev Resolver := String → Option ObjectType

/-- Registered types, in registration order. -/
structure ObjectRegistry where
  types : List ObjectType

namespace ObjectRegistry

def empty : ObjectRegistry := ⟨[]⟩

variable (r : ObjectRegistry)

/-- The type registered under an identifier. -/
def get? : Resolver := fun id => r.types.find? (·.id == id)

def contains (id : String) : Bool := (r.get? id).isSome

/-- The identifiers, in registration order. -/
def ids : List String := r.types.map (·.id)

def size : Nat := r.types.length

/-- Registers a type, which is logged; `none` if its identifier is taken. -/
def insert? (t : ObjectType) : Option (ObjectRegistry × LogEntry) :=
  if r.contains t.id then none else some (⟨r.types ++ [t]⟩, .typeRegistered t.id t.typeName)

/-- The complaint about an identifier that is taken. -/
def duplicateMessage (id : String) : String := s!"Object type '{id}' is already registered"

/-- Registers types in order.  The first one whose identifier is taken ends it; the answer holds
what has been registered before, what was logged, and that identifier. -/
def insertAll (r : ObjectRegistry) :
    List ObjectType → ObjectRegistry × List LogEntry × Option String
  | [] => (r, [], none)
  | t :: rest =>
    match r.insert? t with
    | none => (r, [], some t.id)
    | some (r', entry) =>
      let (r'', log, taken) := r'.insertAll rest
      (r'', entry :: log, taken)

/-- A registry on one line, by its identifiers. -/
def render : String :=
  "ObjectRegistry \x7b types: [" ++ ", ".intercalate (r.ids.map Text.quoted) ++ "] \x7d"

end ObjectRegistry

end ObjectAssembly

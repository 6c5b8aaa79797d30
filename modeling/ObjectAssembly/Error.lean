import ObjectAssembly.Binder

/-!
# Error — what can go wrong between a definition and its objects

Every error has a message, and a chain of causes below it, outermost first.  The message of an
error never repeats what its causes say.
-/

namespace ObjectAssembly

/-- A failure reported from outside the library: a text, and the chain of causes below it. -/
structure Failure where
  message : String
  causes : List String
  deriving DecidableEq, Repr

/-- Why a type could not be instantiated. -/
inductive InstantiateError
  | notConstructible
  | inaccessible
  | failed (failure : Failure)
  deriving DecidableEq, Repr

namespace InstantiateError

def message : InstantiateError → String
  | notConstructible => "type is not constructible"
  | inaccessible => "constructor is not accessible"
  | failed f => f.message

/-- A failed factory's error speaks for itself, so its causes are those of the failure. -/
def causes : InstantiateError → List String
  | failed f => f.causes
  | _ => []

end InstantiateError

/-- Why writing to an output failed: it took no more bytes, it gave a reason, or it passed on a failure
reported from outside. -/
inductive IoError
  | stalled
  | failed (message : String)
  | relayed (failure : Failure)
  deriving DecidableEq, Repr

namespace IoError

def message : IoError → String
  | stalled => "failed to write whole buffer"
  | failed message => message
  | relayed f => f.message

/-- A failure that is passed on speaks for itself, so its causes are those of the failure. -/
def causes : IoError → List String
  | relayed f => f.causes
  | _ => []

end IoError

/-- Errors of definitions, of their materialization and of their usage text. -/
inductive ConfigurationError
  | typeNotFound (slot id : String)
  | notConstructible (slot id : String)
  | constructorInaccessible (slot id : String)
  | constructionFailed (slot id : String) (failure : Failure)
  | optionBinding (option : String) (error : BindError)
  | frozen (name : String)
  | duplicateDefinition (name : String)
  | io (error : IoError)
  deriving DecidableEq, Repr

namespace ConfigurationError

/-- The error of instantiating `id` in `slot`. -/
def ofInstantiate (slot id : String) : InstantiateError → ConfigurationError
  | .notConstructible => notConstructible slot id
  | .inaccessible => constructorInaccessible slot id
  | .failed f => constructionFailed slot id f

/-- The error of binding the option log. -/
def ofBind (e : BindError) : ConfigurationError := optionBinding e.optionName e

def message : ConfigurationError → String
  | typeNotFound slot id => s!"slot '{slot}': no type registered as '{id}'"
  | notConstructible slot id => s!"slot '{slot}': type '{id}' cannot be instantiated"
  | constructorInaccessible slot id => s!"slot '{slot}': constructor of '{id}' is not accessible"
  | constructionFailed slot id _ => s!"slot '{slot}': constructing '{id}' failed"
  | optionBinding option _ => s!"option '{option}' could not be applied"
  | frozen name => s!"configuration '{name}' can no longer be modified once consumed"
  | duplicateDefinition name => s!"configuration '{name}' is already defined"
  | io _ => "failed to write configuration usage"

/-- The chain of causes, outermost first. -/
def causes : ConfigurationError → List String
  | constructionFailed _ _ f => f.message :: f.causes
  | optionBinding _ e => [e.message]
  | io e => e.message :: e.causes
  | _ => []

/-- The slot and the identifier that the error is about. -/
def place? : ConfigurationError → Option (String × String)
  | typeNotFound slot id | notConstructible slot id | constructorInaccessible slot id
  | constructionFailed slot id _ => some (slot, id)
  | _ => none

end ConfigurationError

end ObjectAssembly

import ObjectAssembly.Declaration.Reading
import ObjectAssembly.Text.Blank
import ObjectAssembly.Text.Similarity

/-!
# Attribute — the attributes of a declared field

An attribute has a path and either nothing more, a value after an equals sign, or a list of
arguments.  Two kinds of attribute matter: `doc` carries documentation, `option` marks a field as an
option and may name and describe it.
-/

namespace ObjectAssembly

/-- A value after an equals sign: a string, or something else of a named kind. -/
inductive AttributeValue
  | text (s : String)
  | other (kind : String)
  deriving DecidableEq, Repr

namespace AttributeValue

/-- The name of the value's kind in complaints. -/
def kind : AttributeValue → String
  | text _ => "string"
  | other kind => kind

/-- The value, if it is a string. -/
def text? : AttributeValue → Option String
  | text s => some s
  | other _ => none

end AttributeValue

/-- One argument of an attribute.  A list may have a fault of its own. -/
inductive Argument
  | literal
  | word (path : String)
  | assign (path : String) (value : AttributeValue)
  | list (path : String) (fault : Option GrammarError)
  deriving DecidableEq, Repr

/-- What follows the path of an attribute: nothing, a value, or a list, which may be malformed. -/
inductive AttributeBody
  | word
  | assign (value : AttributeValue)
  | list (arguments : List Argument)
  | malformed (fault : GrammarError)
  deriving DecidableEq, Repr

/-- An attribute of a field. -/
structure Attribute where
  path : String
  body : AttributeBody
  deriving DecidableEq, Repr

/-! ### Complaints -/

/-- Why options cannot be derived from a declaration. -/
inductive DeclarationError
  | malformed (fault : GrammarError)
  | unexpectedKind (kind : String)
  | unexpectedForm (form : String)
  | duplicateArgument (name : String)
  | unknownArgument (name : String)
  | unsupportedFields (shape : String)
  | unsupportedItem (shape : String)
  | invalidName (name : String)
  | repeatedName (name : String)
  deriving DecidableEq, Repr

/-- What is said of an argument that does not exist: the one that was probably meant, or all there
are. -/
def unknownArgumentMessage (name : String) : String :=
  "Unknown field: `" ++ name ++ "`. " ++
    match Text.meant? name ["name", "description"] with
    | some known => "Did you mean `" ++ known ++ "`?"
    | none => "Available values: `description`, `name`"

def DeclarationError.message : DeclarationError → String
  | .malformed fault => fault.message
  | .unexpectedKind kind => "Unexpected type `" ++ kind ++ "`"
  | .unexpectedForm form => "Unexpected meta-item format `" ++ form ++ "`"
  | .duplicateArgument name => "Duplicate field `" ++ name ++ "`"
  | .unknownArgument name => unknownArgumentMessage name
  | .unsupportedFields shape => "Unsupported shape `" ++ shape ++ "`. Expected named fields."
  | .unsupportedItem shape =>
    "Unsupported shape `" ++ shape ++ "`. Expected struct with named fields."
  | .invalidName name => s!"invalid option name '{name}'"
  | .repeatedName name => s!"option '{name}' is declared more than once"

/-! ### Documentation -/

namespace Attribute

/-- The documentation text of an attribute: that of a `doc` attribute whose value is a string. -/
def docText? (a : Attribute) : Option String :=
  match a with
  | ⟨"doc", .assign (.text s)⟩ => some s
  | _ => none

/-- The trimmed documentation texts that are not empty. -/
def docLines (attributes : List Attribute) : List String :=
  ((attributes.filterMap docText?).map Text.trimBlanks).filter (!·.isEmpty)

/-- The documentation of a field: its lines joined by single spaces, if it has any. -/
def docs? (attributes : List Attribute) : Option String :=
  match docLines attributes with
  | [] => none
  | lines => some (" ".intercalate lines)

end Attribute

/-! ### The arguments of an option -/

/-- What the arguments of an `option` attribute say. -/
structure OptionArguments where
  name : Option String
  description : Option String
  deriving DecidableEq, Repr

/-- The state of reading arguments: what has been read, which arguments have been met, and the
complaints so far. -/
structure ArgumentReading where
  read : OptionArguments
  met : List String
  errors : List DeclarationError
  deriving DecidableEq, Repr

/-- The string that an argument assigns, or the complaint about it. -/
def Argument.string : Argument → Except DeclarationError String
  | literal => .error (.unexpectedForm "literal")
  | word _ => .error (.unexpectedForm "word")
  | list _ none => .error (.unexpectedForm "list")
  | list _ (some fault) => .error (.malformed fault)
  | assign _ (.text s) => .ok s
  | assign _ (.other kind) => .error (.unexpectedKind kind)

/-- The path of an argument that has one. -/
def Argument.path? : Argument → Option String
  | literal => none
  | word path | assign path _ | list path _ => some path

namespace ArgumentReading

def start : ArgumentReading := ⟨⟨none, none⟩, [], []⟩

/-- Adds a complaint. -/
def complain (r : ArgumentReading) (e : DeclarationError) : ArgumentReading :=
  { r with errors := r.errors ++ [e] }

/-- Reads one argument.  An argument counts as met even if its value is refused. -/
def step (r : ArgumentReading) (a : Argument) : ArgumentReading :=
  match a.path? with
  | none => r.complain (.unexpectedForm "literal")
  | some path =>
    if path ≠ "name" ∧ path ≠ "description" then r.complain (.unknownArgument path)
    else if path ∈ r.met then r.complain (.duplicateArgument path)
    else
      let r := { r with met := path :: r.met }
      match a.string with
      | .error e => r.complain e
      | .ok s =>
        if path = "name" then { r with read := { r.read with name := some s } }
        else { r with read := { r.read with description := some s } }

end ArgumentReading

/-- Reads the arguments of an `option` attribute, or collects all complaints about them. -/
def AttributeBody.optionArguments : AttributeBody → Except (List DeclarationError) OptionArguments
  | word => .ok ⟨none, none⟩
  | assign value => .error [.unexpectedKind value.kind]
  | malformed fault => .error [.malformed fault]
  | list arguments =>
    let r := arguments.foldl ArgumentReading.step .start
    if r.errors.isEmpty then .ok r.read else .error r.errors

end ObjectAssembly

import ObjectAssembly.Error
import ObjectAssembly.Slots

/-!
# Definition — declarative descriptions of object graphs

A definition has slots of type identifiers and a log of option assignments.  It is built by edits
until it is consumed for the first time, which freezes it: a frozen definition refuses every edit
and changes no more.
-/

namespace ObjectAssembly

/-- A named description of an object graph. -/
structure Definition where
  name : String
  description : String
  slots : Slots String
  options : List Assignment
  frozen : Bool
  deriving DecidableEq, Repr

/-- A step of building a definition. -/
inductive Edit
  | describe (text : String)
  | addObject (slot id : String)
  | addOption (a : Assignment)
  deriving DecidableEq, Repr

namespace Definition

/-- The empty definition of a name. -/
def new (name : String) : Definition := ⟨name, "", [], [], false⟩

/-- What an edit does to a definition that is not frozen. -/
def apply (d : Definition) : Edit → Definition
  | .describe text => { d with description := text }
  | .addObject slot id => { d with slots := d.slots.append slot id }
  | .addOption a => { d with options := d.options ++ [a] }

/-- Edits a definition, unless it is frozen. -/
def edit (d : Definition) (e : Edit) : Except ConfigurationError Definition :=
  if d.frozen then .error (.frozen d.name) else .ok (d.apply e)

/-- Edits in order, up to the first refusal. -/
def editAll (d : Definition) : List Edit → Except ConfigurationError Definition
  | [] => .ok d
  | e :: rest =>
    match d.edit e with
    | .error err => .error err
    | .ok d' => d'.editAll rest

/-- Marks the definition as consumed, which is logged the first time. -/
def freeze (d : Definition) : Definition × List LogEntry :=
  ({ d with frozen := true }, if d.frozen then [] else [.frozen d.name])

/-- Edits that build the definition again, slot by slot. -/
def script (d : Definition) : List Edit :=
  .describe d.description ::
    (d.slots.pairs.map fun p => .addObject p.1 p.2) ++ d.options.map .addOption

/-- A fresh definition of the same name and content, with further assignments at the end of its
log. -/
def withAssignments (d : Definition) (extra : List Assignment) :
    Except ConfigurationError Definition :=
  (new d.name).editAll (d.script ++ extra.map .addOption)

@[simp] theorem apply_name (d : Definition) (e : Edit) : (d.apply e).name = d.name := by
  cases e <;> rfl

@[simp] theorem apply_frozen (d : Definition) (e : Edit) : (d.apply e).frozen = d.frozen := by
  cases e <;> rfl

end Definition

end ObjectAssembly

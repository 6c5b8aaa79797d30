import ObjectAssembly.Value

/-!
# Object — configurable objects and the options they declare

An object is a record of named fields together with its class, the list of options through which
texts reach the fields.  `Object.setOption` looks the option up by name, the first match wins, and
runs its setter.  Setters are arbitrary: one that refuses a text may still have changed fields.
-/

namespace ObjectAssembly

/-! ### Records -/

/-- Named fields in declaration order. -/
abbrev Record := List (String × FieldValue)

namespace Record

/-- What the first field of that name holds. -/
def get? (r : Record) (ident : String) : Option FieldValue :=
  (r.find? (·.1 == ident)).map (·.2)

/-- The record with the first field of that name holding `v`. -/
def set (ident : String) (v : FieldValue) : Record → Record
  | [] => []
  | f :: r => if f.1 = ident then (f.1, v) :: r else f :: set ident v r

/-- A record on one line, after the name of its type. -/
def render (name : String) (r : Record) : String :=
  if r.isEmpty then name
  else name ++ " \x7b " ++ ", ".intercalate (r.map fun f => f.1 ++ ": " ++ f.2.render) ++ " \x7d"

end Record

/-! ### Options -/

/-- What is told about an option in help texts and listings. -/
structure OptionInfo where
  name : String
  description : String
  typeLabel : String
  collection : Bool
  deriving DecidableEq, Repr

/-- What a setter leaves behind: the fields, and its complaint if it refuses the text. -/
structure Setting where
  fields : Record
  refusal : Option String
  deriving DecidableEq, Repr

/-- An option of a class: what is told about it, and the setter it runs. -/
structure OptionSpec extends OptionInfo where
  setter : Record → String → Setting

/-- The setter that assigns to one field of a record; a refused text changes nothing. -/
def FieldType.setter (t : FieldType) (ident : String) (fields : Record) (raw : String) : Setting :=
  match fields.get? ident with
  | none => ⟨fields, none⟩
  | some v =>
    match t.apply raw v with
    | .ok v' => ⟨fields.set ident v', none⟩
    | .error e => ⟨fields, some e.message⟩

/-- The option that assigns to one field. -/
def OptionSpec.ofField (ident : String) (t : FieldType) (name description : String) :
    OptionSpec where
  name := name
  description := description
  typeLabel := t.label
  collection := t.isCollection
  setter := t.setter ident

/-- A specification on one line. -/
def OptionSpec.render (s : OptionSpec) : String :=
  "OptionSpec \x7b name: " ++ Text.quoted s.name ++ ", type_label: " ++ Text.quoted s.typeLabel
    ++ ", collection: " ++ (if s.collection then "true" else "false") ++ ", .. \x7d"

/-! ### Objects -/

/-- A type of configurable objects: its options, and the fields of a fresh object. -/
structure ObjectClass where
  name : String
  options : List OptionSpec
  initial : Record

/-- What is told about the options of a class, in declaration order. -/
def ObjectClass.infos (c : ObjectClass) : List OptionInfo := c.options.map (·.toOptionInfo)

/-- A configurable object. -/
structure Object where
  cls : ObjectClass
  fields : Record

/-- A fresh object. -/
def ObjectClass.create (c : ObjectClass) : Object := ⟨c, c.initial⟩

namespace Object

/-- The name of the object's class. -/
def typeName (o : Object) : String := o.cls.name

/-- The object has an option of that name. -/
def declares (o : Object) (name : String) : Bool := o.cls.infos.any (·.name == name)

/-- Assigns a text to the option of that name: `false` if the object declares none, or the reason
why the option refuses the text. -/
def setOption (o : Object) (name raw : String) : Object × Except String Bool :=
  match o.cls.options.find? (·.name == name) with
  | none => (o, .ok false)
  | some spec =>
    let result := spec.setter o.fields raw
    ({ o with fields := result.fields },
      match result.refusal with
      | none => .ok true
      | some reason => .error reason)

/-- An object on one line, by its type alone. -/
def render (o : Object) : String :=
  "Configurable \x7b type: " ++ Text.quoted o.typeName ++ ", .. \x7d"

@[simp] theorem setOption_cls (o : Object) (name raw : String) :
    (o.setOption name raw).1.cls = o.cls := by
  unfold setOption
  split <;> rfl

end Object

end ObjectAssembly

import ObjectAssembly.Declaration.Attribute
import ObjectAssembly.Object

/-!
# Struct — deriving options from a declared type

The fields marked `option` become options, in declaration order.  An option is called as its
attribute says, or else like the field, in kebab case.  Its description is the one in the attribute,
or else the field's documentation.  A name must be non-empty, free of white space and not taken by
an earlier field; the first field that breaks a rule decides the complaint.
-/

namespace ObjectAssembly

open Text

/-- A declared field; `τ` is what stands for its type. -/
structure FieldDecl (τ : Type) where
  ident : String
  type : τ
  attributes : List Attribute
  deriving Repr

/-- A derived option: the field that it assigns to, and what is told about it. -/
structure OptionDecl (τ : Type) where
  field : String
  type : τ
  name : String
  description : String
  deriving Repr

/-- An identifier without the marks in front of a raw one. -/
def dropRawMarks : List Char → List Char
  | 'r' :: '#' :: cs => dropRawMarks cs
  | cs => cs

/-- The option name of a field: its identifier with dashes for underscores. -/
def optionName (ident : String) : String :=
  String.ofList ((dropRawMarks ident.toList).map fun c => if c = '_' then '-' else c)

/-- A name that an option may have. -/
def validName (name : String) : Bool := !name.isEmpty && !name.toList.any isBlank

namespace FieldDecl

variable {τ : Type} (f : FieldDecl τ)

/-- The attribute that makes the field an option. -/
def mark? : Option Attribute := f.attributes.find? (·.path == "option")

/-- The option that the field declares with these arguments. -/
def declared (args : OptionArguments) : OptionDecl τ where
  field := f.ident
  type := f.type
  name := args.name.getD (optionName f.ident)
  description := (args.description.orElse fun _ => Attribute.docs? f.attributes).getD ""

end FieldDecl

/-- The options of fields that follow fields whose options took the names `taken`. -/
def collectOptions {τ : Type} (taken : List String) :
    List (FieldDecl τ) → Except (List DeclarationError) (List (OptionDecl τ))
  | [] => .ok []
  | f :: rest =>
    match f.mark? with
    | none => collectOptions taken rest
    | some mark =>
      match mark.body.optionArguments with
      | .error errors => .error errors
      | .ok args =>
        let o := f.declared args
        if !validName o.name then .error [.invalidName o.name]
        else if o.name ∈ taken then .error [.repeatedName o.name]
        else (collectOptions (o.name :: taken) rest).map (o :: ·)

/-! ### Declared types -/

/-- The form of a declared type. -/
inductive Shape
  | named
  | tuple
  | unit
  | variants
  | overlay
  deriving DecidableEq, Repr

/-- A declared type. -/
structure StructDecl (τ : Type) where
  shape : Shape
  fields : List (FieldDecl τ)
  deriving Repr

/-- The complaint about the form of a declaration; only named fields can be options. -/
def StructDecl.shapeError? {τ : Type} (d : StructDecl τ) : Option DeclarationError :=
  match d.shape with
  | .named => none
  | .tuple =>
    some (.unsupportedFields
      (if d.fields.length = 1 then "one unnamed field" else "unnamed fields"))
  | .unit => some (.unsupportedFields "no fields")
  | .variants => some (.unsupportedItem "enum")
  | .overlay => some (.unsupportedItem "union")

/-- The options of a declared type, or the complaints about it. -/
def StructDecl.options {τ : Type} (d : StructDecl τ) :
    Except (List DeclarationError) (List (OptionDecl τ)) :=
  match d.shapeError? with
  | some e => .error [e]
  | none => collectOptions [] d.fields

/-! ### Classes of declared types -/

/-- The option as objects know it. -/
def OptionDecl.spec (o : OptionDecl FieldType) : OptionSpec :=
  .ofField o.field o.type o.name o.description

/-- The fields of a fresh object. -/
def FieldDecl.initial (fields : List (FieldDecl FieldType)) : Record :=
  fields.map fun f => (f.ident, f.type.zero)

/-- The class of a type with named fields, or the complaints about its declaration. -/
def ObjectClass.derive (name : String) (fields : List (FieldDecl FieldType)) :
    Except (List DeclarationError) ObjectClass :=
  (collectOptions [] fields).map fun options =>
    ⟨name, options.map OptionDecl.spec, FieldDecl.initial fields⟩

end ObjectAssembly

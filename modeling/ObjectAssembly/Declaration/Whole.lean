import ObjectAssembly.Declaration.AttributeText
import ObjectAssembly.Declaration.Struct

/-!
# Whole — a declared type as a source text writes it

`Declaration.read` reads the declaration of a type, of which nothing may be left.  Types, parameters
and conditions are kept as texts without blanks.
-/

namespace ObjectAssembly

open SourceTree

/-- A field with a name. -/
def FieldDecl.ofSource (f : SourceField) : FieldDecl String :=
  ⟨f.name, f.type, f.attributes.map .ofWritten⟩

/-- A structure with certain fields.  Fields without names are known by their number. -/
def StructDecl.ofFields : FieldList → StructDecl String
  | .named fields => ⟨.named, fields.map .ofSource⟩
  | .tuple count => ⟨.tuple, (List.range count).map fun i => ⟨toString i, "", []⟩⟩
  | .unit => ⟨.unit, []⟩

/-- A declared type with its name, its generic parameters and its where clause. -/
structure Declaration where
  name : String
  params : List GenericParam
  conditions : String
  body : StructDecl String
  deriving Repr

namespace Declaration

/-- The parameters with their bounds, as they are introduced. -/
def introduced (d : Declaration) : String := GenericParam.renderList (·.introduced) d.params

/-- The type that the parameters are applied to: their names after its own. -/
def applied (d : Declaration) : String := d.name ++ GenericParam.renderList (·.name) d.params

end Declaration

namespace Grammar

variable (g : Grammar)

/-- The declaration of a type. -/
def declaration : Reading Declaration := do
  g.passAttributes
  visibility
  let trees ← Reading.ahead
  unless ← Reading.takeIf (startsAnyWord ["struct", "enum", "union"]) 1 do
    Reading.expectAny ["`struct`", "`enum`", "`union`"]
  let name ← Reading.identifier
  let params ← g.generics
  if startsWord "struct" trees then
    let (conditions, fields) ← g.structBody
    return ⟨name, params, conditions, .ofFields fields⟩
  else
    let conditions := (← g.clause).getD ""
    if startsWord "enum" trees then
      g.variants
      return ⟨name, params, conditions, ⟨.variants, []⟩⟩
    else
      let fields ← g.namedFields
      return ⟨name, params, conditions, ⟨.overlay, fields.map .ofSource⟩⟩

end Grammar

/-- The declaration that a source text writes. -/
def Declaration.read (s : String) : Except GrammarError Declaration :=
  match SourceTree.read s with
  | none => .error .unreadable
  | some trees => Reading.whole (Grammar.ofSize (sourceSize trees)).declaration trees

end ObjectAssembly

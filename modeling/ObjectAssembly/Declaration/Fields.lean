import ObjectAssembly.Declaration.Types

/-!
# Fields — what structures, variants and overlays consist of

The parts of a declared type after its name: where clauses, fields with names or in parentheses, and
variants.
-/

namespace ObjectAssembly

open SourceTree

/-- A field as it is written. -/
structure SourceField where
  attributes : List WrittenAttribute
  name : String
  type : String
  deriving Repr

/-- The fields of a structure: with names, in parentheses, or none at all. -/
inductive FieldList
  | named (fields : List SourceField)
  | tuple (count : Nat)
  | unit
  deriving Repr

namespace Grammar

variable (g : Grammar)

/-! ### Visibility -/

/-- Who may see something, if that is told.  Parentheses that hold anything else belong to what
follows. -/
def visibility : Reading Unit := do
  if ← Reading.takeWord "pub" then
    match ← Reading.ahead with
    | .group .paren [.ident w] :: _ =>
      if ["crate", "self", "super"].contains w then Reading.skip 1
      else if w = "in" then restricted
    | .group .paren (.ident "in" :: _) :: _ => restricted
    | _ => return
where
  /-- Who may see something, by a path. -/
  restricted : Reading Unit :=
    Reading.within .paren do
      Reading.word "in"
      let _ ← plainPath

/-! ### Fields -/

/-- A field with a name.  One without may have fields of its own for a type. -/
def namedField (nested : Reading Unit) : Reading SourceField := do
  let attributes ← g.attributes
  visibility
  let unnamed ← Reading.seesWord "_"
  let name ← if unnamed then Reading.anyWord else Reading.identifier
  Reading.marks ":"
  let startsNested (ts : List SourceTree) :=
    startsWord "struct" ts || (startsWord "union" ts && startsGroup .brace (ts.drop 1))
  let ((), type) ← Reading.captured do
    if unnamed && (← Reading.sees startsNested) then
      Reading.asFound do
        Reading.skip 1
        nested
        return true
    else g.pass (.type true)
  Reading.write type
  return ⟨attributes, name, type⟩

/-- Fields with names, nested at most `depth` deep. -/
def namedFieldsUpTo : Nat → Reading (List SourceField)
  | 0 => Reading.expect "curly braces"
  | depth + 1 =>
    Reading.within .brace do
      let fields ← Reading.collect do
        if ← Reading.atEnd then return none
        let f ← g.namedField do
          let _ ← namedFieldsUpTo depth
        let _ ← Reading.comma
        return some f
      return fields

/-- Fields with names. -/
def namedFields : Reading (List SourceField) := do
  g.namedFieldsUpTo (sourceSize (← Reading.ahead) + 1)

/-- Fields in parentheses: how many. -/
def unnamedFields : Reading Nat :=
  Reading.within .paren do
    let fields ← Reading.collect do
      if ← Reading.atEnd then return none
      g.passAttributes
      visibility
      g.pass (.type true)
      let _ ← Reading.comma
      return some ()
    return fields.length

/-! ### Bodies -/

/-- A where clause as it is written, if there is one. -/
def clause : Reading (Option String) := do
  unless ← Reading.seesWord "where" do return none
  let ((), text) ← Reading.captured g.conditions
  Reading.write text
  return some text

/-- The where clause and the fields of a structure after its parameters. -/
def structBody : Reading (String × FieldList) := do
  let early ← g.clause
  if early.isNone && (← Reading.seesGroup .paren) then
    let count ← g.unnamedFields
    let late ← g.clause
    unless ← Reading.takeMarks ";" do
      Reading.expectAny (if late.isSome then ["`;`"] else ["`where`", "`;`"])
    return (late.getD "", .tuple count)
  else if ← Reading.seesGroup .brace then return (early.getD "", .named (← g.namedFields))
  else if ← Reading.takeMarks ";" then return (early.getD "", .unit)
  else
    Reading.expectAny
      (if early.isSome then ["curly braces", "`;`"]
      else ["`where`", "parentheses", "curly braces", "`;`"])

/-- A variant.  Who may see it is read, but not written. -/
def variant : Reading Unit := do
  g.passAttributes
  Reading.unwritten visibility
  Reading.ident
  if ← Reading.seesGroup .brace then
    let _ ← g.namedFields
  else if ← Reading.seesGroup .paren then
    let _ ← g.unnamedFields
  if ← Reading.takeMarks "=" then g.pass (.expression true)

/-- The variants of an enumeration. -/
def variants : Reading Unit := Reading.within .brace (commaList g.variant)

end Grammar

end ObjectAssembly

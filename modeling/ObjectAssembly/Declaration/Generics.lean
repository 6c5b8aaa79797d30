import ObjectAssembly.Declaration.Paths

/-!
# Generics — parameters in angle brackets, and where clauses

A parameter is written in three ways: as it is declared, without its default, and by its name alone.
Lifetimes are written first.  A colon without bounds, a list without parameters and a where clause
without predicates are left out.
-/

namespace ObjectAssembly

open SourceTree

/-- A generic parameter: how it is declared, how without a default, its name, whether that is a
lifetime, and whether a comma follows. -/
structure GenericParam where
  declared : String
  introduced : String
  name : String
  isLifetime : Bool
  comma : Bool
  deriving DecidableEq, Repr

namespace GenericParam

/-- Parameters in angle brackets, each in the same way; nothing at all without parameters. -/
def renderList (way : GenericParam → String) (params : List GenericParam) : String :=
  if params.isEmpty then ""
  else AngleItem.renderList (params.map fun p => ⟨way p, p.isLifetime, p.comma⟩)

end GenericParam

namespace Grammar

variable (g : Grammar)

/-! ### Parameters -/

/-- What follows a colon, if one comes next; the colon is written only before something. -/
def afterColon (bounds : Reading Unit) : Reading Unit := do
  if ← Reading.unwritten (Reading.takeMarks ":") then
    let (_, text) ← Reading.captured bounds
    unless text.isEmpty do Reading.write (":" ++ text)

/-- Lifetimes with a plus sign after each but the last, up to something. -/
def lifetimesUntil (stop : List SourceTree → Bool) : Reading Unit :=
  Reading.repeatWhile do
    if ← Reading.sees stop then return false
    Reading.lifetime
    Reading.takeMarks "+"

/-- A parameter that is a lifetime, with its bounds. -/
def lifetimeParam (attributes : String) : Reading GenericParam := do
  let (_, name) ← Reading.captured Reading.lifetime
  let (_, bounds) ← Reading.captured (afterColon (lifetimesUntil (startsWithAny [",", ">"])))
  let text := attributes ++ name ++ bounds
  return ⟨text, text, name, true, false⟩

/-- A parameter that is a type, with its bounds and its default. -/
def typeParam (attributes : String) : Reading GenericParam := do
  let (_, name) ← Reading.captured Reading.ident
  let (_, bounds) ← Reading.captured
    (afterColon (g.boundsUntil .parameter false (startsWithAny [",", ">", "="])))
  let (_, standard) ← Reading.captured do
    if ← Reading.takeMarks "=" then g.pass (.type true)
  let text := attributes ++ name ++ bounds
  return ⟨text ++ standard, text, name, false, false⟩

/-- A parameter that is a value, with its type and its default. -/
def constantParam (attributes : String) : Reading GenericParam := do
  let (_, word) ← Reading.captured (Reading.word "const")
  let (_, name) ← Reading.captured Reading.ident
  let (_, type) ← Reading.captured do
    Reading.marks ":"
    g.pass (.type true)
  let (_, standard) ← Reading.captured do
    if ← Reading.takeMarks "=" then g.constant
  let text := attributes ++ word ++ name ++ type
  return ⟨text ++ standard, text, name, false, false⟩

/-- A generic parameter; `unnamed` tells whether an underscore may stand for one. -/
def param (unnamed : Bool) : Reading GenericParam := do
  let (_, attributes) ← Reading.captured g.passAttributes
  if ← Reading.sees startsLifetime then lifetimeParam attributes
  else if ← Reading.sees startsIdent then g.typeParam attributes
  else if ← Reading.seesWord "const" then g.constantParam attributes
  else if unnamed && (← Reading.seesWord "_") then
    Reading.drop 1
    return ⟨attributes ++ "_", attributes ++ "_", "_", false, false⟩
  else
    Reading.expectAny
      (if unnamed then ["lifetime", "identifier", "`const`"]
      else ["identifier", "lifetime", "`const`"])

/-- The parameters of a declaration, if there are any. -/
def generics : Reading (List GenericParam) := do
  unless ← Reading.seesMarks "<" do return []
  let (params, _) ← Reading.captured do
    Reading.marks "<"
    let params ← Reading.collect do
      if ← Reading.seesMarks ">" then return none
      let p ← g.param true
      if ← Reading.seesMarks ">" then return some p
      Reading.marks ","
      return some { p with comma := true }
    Reading.marks ">"
    return params
  Reading.write (GenericParam.renderList (·.declared) params)
  return params

/-- The parameters of a declaration, for their form alone. -/
def passGenerics : Reading Unit := do
  let _ ← g.generics

/-- Parameters that hold for what follows; these keep their order. -/
def binder : Reading Unit := do
  Reading.word "for"
  Reading.marks "<"
  Reading.repeatWhile do
    if ← Reading.seesMarks ">" then return false
    let p ← g.param false
    Reading.write p.declared
    if ← Reading.seesMarks ">" then return false
    Reading.marks ","
    return true
  Reading.marks ">"

/-- Parameters that hold for what follows, if there are any: whether there are. -/
def optionalBinder : Reading Bool := do
  if ← Reading.seesWord "for" then
    g.binder
    return true
  else return false

/-! ### Where clauses -/

/-- The bounds of a predicate, or the predicates, end here. -/
def endsPredicate (colons : Bool) (trees : List SourceTree) : Bool :=
  trees.isEmpty || startsGroup .brace trees || startsWithAny [",", ";", "="] trees ||
    (if colons then startsWith ":" trees else startsOnly ":" ["::"] trees)

/-- A predicate of a where clause. -/
def predicate : Reading Unit := do
  if ← Reading.sees fun ts => startsLifetime ts && startsWith ":" (ts.drop 1) then
    Reading.lifetime
    Reading.marks ":"
    lifetimesUntil (endsPredicate true)
  else
    let _ ← g.optionalBinder
    g.pass (.type true)
    Reading.marks ":"
    g.boundsUntil .parameter false (endsPredicate false)

/-- A where clause, if there is one. -/
def conditions : Reading Unit := do
  if ← Reading.unwritten (Reading.takeWord "where") then
    let (_, text) ← Reading.captured <| Reading.repeatWhile do
      if ← Reading.sees (endsPredicate false) then return false
      g.predicate
      Reading.takeMarks ","
    unless text.isEmpty do Reading.write ("where" ++ text)

end Grammar

end ObjectAssembly

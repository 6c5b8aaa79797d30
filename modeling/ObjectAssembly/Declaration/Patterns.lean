import ObjectAssembly.Declaration.Types

/-!
# Patterns — what values are matched with

Patterns stand in bindings, loops, closures, parameters and the arms of a match.
-/

namespace ObjectAssembly

open SourceTree

namespace Grammar

variable (g : Grammar)

/-! ### Ranges -/

/-- The marks of a range: whether it is closed.  In patterns three points are an old way to write a
closed one. -/
def rangeMarks (points : Bool) : Reading Bool := do
  if ← Reading.takeMarks "..=" then return true
  else if ← Reading.seesMarks "..." then
    if points then
      Reading.drop 3
      Reading.write "..="
      return true
    else Reading.expect "`..=`"
  else
    unless ← Reading.takeMarks ".." do Reading.expect "`..`"
    return false

/-- The end of a range is left out before these. -/
def endsRange (trees : List SourceTree) : Bool :=
  trees.isEmpty || startsWithAny ["|", "=", ",", ";"] trees || startsOnly ":" ["::"] trees ||
    startsWord "if" trees

/-- One end of a range, a literal, a constant or a path: whether there is one. -/
def rangeBound : Reading Bool := do
  if ← Reading.sees endsRange then return false
  if ← Reading.sees startsLiteral then
    let _ ← Reading.literal
  else if ← Reading.sees startsPath then
    let _ ← g.path true
  else if ← Reading.takeWord "const" then g.attributedBlock
  else
    Reading.expectAny
      ["literal", "identifier", "`::`", "`<`", "`self`", "`Self`", "`super`", "`crate`", "`const`"]
  return true

/-- The end of a range after its marks. -/
def rangeEnd (closed : Bool) : Reading Bool := do
  let bounded ← g.rangeBound
  if closed && !bounded then Reading.expect "range upper bound"
  return bounded

/-- The rest of a range after its start. -/
def rangeRest : Reading PatternForm := do
  return if ← g.rangeEnd (← rangeMarks true) then .other else .openRange

/-! ### Parts -/

/-- Patterns between bars. -/
def alternatives : Reading PatternForm := do
  let leading ← Reading.takeMarks "|"
  let first ← g .pattern
  let others ← Reading.collect do
    if ← Reading.sees (startsOnly "|" ["||", "|="]) then
      Reading.marks "|"
      return some (← g .pattern)
    else return none
  return if leading || !others.isEmpty then .other else first

/-- Patterns between bars, for their form alone. -/
def passAlternatives : Reading Unit := do
  let _ ← g.alternatives

/-- An element of a slice. -/
def element : Reading Unit := do
  if (← g.alternatives) = .openRange then
    Reading.refuse "range pattern is not allowed unparenthesized inside slice pattern"

/-- A field of a record pattern, which may be a name by itself. -/
def fieldPattern : Reading Unit := do
  Reading.asFound do
    let boxed ← Reading.takeWord "box"
    let byRef ← Reading.takeWord "ref"
    let mutable ← Reading.takeWord "mut"
    if boxed || byRef || mutable then Reading.ident
    else
      let named ← Reading.member
      if !named || (← Reading.seesMarks ":") then
        Reading.marks ":"
        g.passAlternatives
    return boxed

/-- The fields of a record pattern, up to the end. -/
def fieldPatterns : Reading Unit :=
  Reading.repeatWhile do
    if ← Reading.atEnd then return false
    g.passAttributes
    if ← Reading.takeMarks ".." then return false
    g.fieldPattern
    Reading.comma

/-- A name, which may be bound to what another pattern matches. -/
def namePattern : Reading Unit := do
  Reading.optionalWord "ref"
  Reading.optionalWord "mut"
  Reading.identOr ["self"]
  if ← Reading.takeMarks "@" then g.pass .pattern

/-! ### Patterns -/

/-- A path comes next that is more than a name. -/
def startsPathPattern (trees : List SourceTree) : Bool :=
  let next := trees.drop 1
  (startsIdent trees && (startsWithAny ["::", "!", ".."] next || startsGroup .brace next ||
      startsGroup .paren next)) ||
    (startsWord "self" trees && startsWith "::" next) || startsWithAny ["::", "<"] trees ||
    startsAnyWord ["Self", "super", "crate"] trees

/-- A pattern that starts with a path. -/
def pathPattern : Reading PatternForm := do
  let path ← g.path true
  if path.bare && path.unapplied && (← Reading.sees (startsOnly "!" ["!="])) then
    Reading.marks "!"
    let _ ← anyGroup
    return .other
  else if ← Reading.seesGroup .brace then
    Reading.within .brace g.fieldPatterns
    return .other
  else if ← Reading.seesGroup .paren then
    Reading.within .paren (commaList g.passAlternatives)
    return .other
  else if ← Reading.seesMarks ".." then g.rangeRest
  else return .other

/-- One pattern. -/
def pattern : Reading PatternForm := do
  if ← Reading.sees startsPathPattern then g.pathPattern
  else if ← Reading.takeWord "_" then return .other
  else if ← Reading.seesWord "box" then
    Reading.asFound do
      Reading.word "box"
      g.pass .pattern
      return true
    return .boxed
  else if ← Reading.sees fun ts =>
      startsWith "-" ts || startsLiteral ts || startsWord "const" ts then
    let _ ← g.rangeBound
    if ← Reading.seesMarks ".." then g.rangeRest else return .other
  else if ← Reading.sees fun ts => startsAnyWord ["ref", "mut", "self"] ts || startsIdent ts then
    g.namePattern
    return .other
  else if ← Reading.takeMarks "&" then
    Reading.optionalWord "mut"
    g.pass .pattern
    return .other
  else if ← Reading.seesGroup .paren then
    Reading.within .paren (commaList g.passAlternatives)
    return .other
  else if ← Reading.seesGroup .bracket then
    Reading.within .bracket (commaList g.element)
    return .other
  else if ← Reading.sees (startsOnly ".." ["..."]) then
    return if ← g.rangeEnd (← rangeMarks false) then .openRange else .rest
  else
    let points := if ← Reading.seesMarks "..." then [] else ["`..`"]
    Reading.expectAny
      (["identifier", "`::`", "`<`", "`_`", "literal", "`const`", "`ref`", "`mut`", "`&`",
        "parentheses", "square brackets"] ++ points ++ ["`const`"])

end Grammar

end ObjectAssembly

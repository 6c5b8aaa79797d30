import ObjectAssembly.Declaration.WrittenAttribute

/-!
# Paths — names between double colons, and their arguments

A path in an expression takes arguments in angle brackets only after a double colon, one in a type
also without.  Lists in angle brackets are written with lifetimes first.
-/

namespace ObjectAssembly

open SourceTree

/-! ### Lists in angle brackets -/

/-- An item of a list in angle brackets: its text, whether it is a lifetime, and whether a comma
follows it. -/
structure AngleItem where
  text : String
  lifetime : Bool
  comma : Bool
  deriving DecidableEq, Repr

namespace AngleItem

/-- The item and its comma. -/
def render (i : AngleItem) : String := i.text ++ if i.comma then "," else ""

/-- A list in angle brackets, with lifetimes first.  If no comma follows the last of them, one is
set before the other items. -/
def renderList (items : List AngleItem) : String :=
  let lifetimes := items.filter (·.lifetime)
  let others := items.filter (!·.lifetime)
  let comma := if others.isEmpty || lifetimes.getLast?.all (·.comma) then "" else ","
  "<" ++ String.join (lifetimes.map render) ++ comma ++ String.join (others.map render) ++ ">"

end AngleItem

/-- The form of a path.  A bare one starts from no type. -/
structure PathForm where
  bare : Bool
  rooted : Bool
  /-- Which of its segments have arguments. -/
  applied : List Bool
  deriving DecidableEq, Repr

namespace PathForm

/-- No segment has arguments. -/
def unapplied (p : PathForm) : Bool := !p.applied.any id

/-- The last segment has arguments. -/
def lastApplied (p : PathForm) : Bool := p.applied.getLast?.any id

/-- The path is a name, with or without arguments. -/
def single (p : PathForm) : Bool := p.bare && !p.rooted && p.applied.length = 1

end PathForm

namespace Grammar

variable (g : Grammar)

/-! ### Arguments -/

/-- A literal, a name or a block: a value among types. -/
def constant : Reading Unit := do
  if ← Reading.sees startsLiteral then
    let _ ← Reading.literal
  else if ← Reading.sees startsIdent then Reading.ident
  else if ← Reading.seesGroup .brace then g.attributedBlock
  else Reading.expectAny []

/-- What comes next is a value among types. -/
def startsConstant (trees : List SourceTree) : Bool :=
  startsLiteral trees || startsGroup .brace trees

/-- Bounds with a plus sign after each but the last, up to something.  In strict lists only that may
follow a bound without one. -/
def boundsUntil (scope : BoundScope) (strict : Bool) (stop : List SourceTree → Bool) :
    Reading Unit :=
  Reading.repeatWhile do
    if ← Reading.sees stop then return false
    g.pass (.bound scope)
    if strict then
      if ← Reading.sees stop then return false
      Reading.marks "+"
      return true
    else Reading.takeMarks "+"

/-- An argument in angle brackets: whether it is a lifetime.  A name may be given a value or
bounds. -/
def argument : Reading Bool := do
  if ← Reading.sees fun ts => startsLifetime ts && !startsWith "+" (ts.drop 1) then
    Reading.lifetime
    return true
  else if ← Reading.sees startsConstant then
    g.constant
    return false
  else
    let form ← g (.type true)
    if form = .name then
      if ← Reading.takeMarks "=" then
        if ← Reading.sees startsConstant then g.constant else g.pass (.type true)
      else if ← Reading.takeMarks ":" then g.boundsUntil .parameter false (startsWithAny [",", ">"])
    return false

/-- A list in angle brackets, from the opening one on: whether it has items. -/
def angleList (item : Reading Bool) : Reading Bool := do
  Reading.unwritten (Reading.marks "<")
  let items ← Reading.collect do
    if ← Reading.seesMarks ">" then return none
    let (isLifetime, text) ← Reading.captured item
    if ← Reading.seesMarks ">" then return some ⟨text, isLifetime, false⟩
    Reading.unwritten (Reading.marks ",")
    return some ⟨text, isLifetime, true⟩
  Reading.unwritten (Reading.marks ">")
  Reading.write (AngleItem.renderList items)
  return !items.isEmpty

/-- Arguments in angle brackets, which a double colon may precede: whether there are any. -/
def angleArguments : Reading Bool := do
  let _ ← Reading.takeMarks "::"
  angleList g.argument

/-! ### Segments -/

/-- Arguments in parentheses come next, as traits for functions have them. -/
def startsParenthesized (trees : List SourceTree) : Bool :=
  startsGroup .paren trees || (startsWith "::" trees && startsGroup .paren (trees.drop 2))

/-- A segment of a path: whether it has arguments.  An empty list gives way to one in parentheses
after it. -/
def segment (inExpression : Bool) : Reading Bool := do
  if ← Reading.takeIf (startsAnyWord ["super", "self", "crate", "try"]) 1 then return false
  Reading.identOr ["Self"]
  if ← Reading.sees fun ts => (!inExpression && startsOnly "<" ["<="] ts) ||
      (startsWith "::" ts && startsWith "<" (ts.drop 2)) then
    let (applied, text) ← Reading.captured g.angleArguments
    if !applied && !inExpression && (← Reading.sees startsParenthesized) then return false
    Reading.write text
    return true
  else return false

/-- Further segments of a path. -/
def furtherSegments (inExpression : Bool) : Reading (List Bool) :=
  Reading.collect do
    if ← Reading.sees fun ts => startsWith "::" ts && !startsGroup .paren (ts.drop 2) then
      Reading.marks "::"
      return some (← g.segment inExpression)
    else return none

/-- A path that starts from no type. -/
def barePath (inExpression : Bool) : Reading PathForm := do
  let rooted ← Reading.takeMarks "::"
  let first ← g.segment inExpression
  return ⟨true, rooted, first :: (← g.furtherSegments inExpression)⟩

/-- A path, which may start from a type in angle brackets. -/
def path (inExpression : Bool) : Reading PathForm := do
  if ← Reading.takeMarks "<" then
    g.pass (.type true)
    if ← Reading.takeWord "as" then
      let _ ← g.barePath false
    Reading.marks ">"
    Reading.marks "::"
    let first ← g.segment inExpression
    let rest ← Reading.collect do
      if ← Reading.takeMarks "::" then return some (← g.segment inExpression) else return none
    return ⟨false, false, first :: rest⟩
  else g.barePath inExpression

/-- A path may come next. -/
def startsPath (trees : List SourceTree) : Bool :=
  startsIdent trees || startsAnyWord pathWords trees || startsWithAny ["::", "<"] trees

end Grammar

end ObjectAssembly

import ObjectAssembly.Declaration.Generics

/-!
# Types — types and bounds

What may stand after a colon or a cast.  Traits between plus signs are an object even without a
word in front; lifetimes alone are none.
-/

namespace ObjectAssembly

open SourceTree

namespace Grammar

variable (g : Grammar)

/-! ### Functions -/

/-- What a function yields, after an arrow if it yields anything. -/
def returned (plus : Bool) : Reading Unit := do
  if ← Reading.takeMarks "->" then g.pass (.type plus)

/-- The types of the parameters of a trait for functions, and what those yield. -/
def parenthesizedArguments : Reading Unit := do
  Reading.unwritten do
    let _ ← Reading.takeMarks "::"
  Reading.within .paren (commaList (g.pass (.type true)))
  g.returned false

/-- How a function is called, if that is told. -/
def convention : Reading Unit := do
  if ← Reading.takeWord "extern" then
    let _ ← Reading.takeIf startsString 1

/-- A parameter of a function type.  It may have a name; the first one may be `self`. -/
def bareParameter (first : Bool) : Reading Unit := do
  g.passAttributes
  Reading.asFound do
    let startsMutSelf (ts : List SourceTree) :=
      first && startsWord "mut" ts && startsWord "self" (ts.drop 1)
    let mutable ← Reading.takeIf startsMutSelf 1
    let isSelf ← Reading.sees fun ts => first && startsWord "self" ts
    let named ← Reading.takeIf
      (fun ts =>
        (startsIdent ts || startsWord "_" ts || isSelf) && startsOnly ":" ["::"] (ts.drop 1))
      2
    if !(named && isSelf) && (← Reading.takeIf startsMutSelf 2) then return true
    if mutable && !named then Reading.word "self" else g.pass (.type true)
    return mutable

/-- The parameters of a function type, up to the end. -/
def bareParameters : Reading Unit := do
  let parameter (first : Bool) : Reading Bool := do
    if ← Reading.atEnd then return false
    g.passAttributes
    let startsName (ts : List SourceTree) := startsIdent ts || startsWord "_" ts
    if ← Reading.sees fun ts => startsWith "..." ts ||
        (startsName ts && startsWith ":" (ts.drop 1) && startsWith "..." (ts.drop 2)) then
      if ← Reading.takeIf startsName 1 then Reading.marks ":"
      Reading.marks "..."
      let _ ← Reading.takeMarks ","
      return false
    g.bareParameter first
    Reading.comma
  if ← parameter true then Reading.repeatWhile (parameter false)

/-- A function type. -/
def functionType : Reading Unit := do
  Reading.optionalWord "unsafe"
  convention
  Reading.word "fn"
  Reading.within .paren g.bareParameters
  g.returned false

/-! ### Bounds -/

/-- The parameters that an unnamed type captures, after their word. -/
def captures : Reading Unit := do
  Reading.word "use"
  Reading.unwritten (Reading.marks "<")
  let stop (item : AngleItem) : Reading (Option AngleItem) := do
    if ← Reading.unwritten (Reading.takeMarks ",") then return some { item with comma := true }
    else if ← Reading.seesMarks ">" then return some item
    else Reading.expectAny ["`,`", "`>`"]
  let items ← Reading.collect do
    if ← Reading.sees startsLifetime then
      let (_, text) ← Reading.captured Reading.lifetime
      stop ⟨text, true, false⟩
    else if ← Reading.sees fun ts => startsIdent ts || startsWord "Self" ts then
      let (_, text) ← Reading.captured Reading.anyWord
      stop ⟨text, false, false⟩
    else if ← Reading.seesMarks ">" then return none
    else Reading.expectAny ["lifetime", "identifier", "`>`"]
  Reading.unwritten (Reading.marks ">")
  Reading.write (AngleItem.renderList items)

/-- A trait: whether it has to hold in constants. -/
def traitBound (scope : BoundScope) : Reading Bool := do
  let binder ← g.optionalBinder
  let conditional ← Reading.seesGroup .bracket
  let constant ←
    if conditional then
      Reading.within .bracket (Reading.word "const")
      pure true
    else Reading.takeWord "const"
  if constant && !scope.constants then
    Reading.refuse ((if conditional then "`[const]`" else "`const`") ++ " is not allowed here")
  let maybe ← Reading.takeMarks "?"
  let late ← if maybe && !binder then g.optionalBinder else pure false
  let path ← g.barePath false
  if !path.lastApplied && (← Reading.sees startsParenthesized) then g.parenthesizedArguments
  if (binder || late) && maybe then
    Reading.refuse "`for<...>` binder not allowed with `?` trait polarity modifier"
  return constant

/-- A bound. -/
def bound (scope : BoundScope) : Reading BoundForm := do
  if ← Reading.takeIf startsLifetime 1 then return .lifetime
  else if ← Reading.seesWord "use" then
    captures
    if scope.captures then return .captures
    else Reading.refuse "`use<...>` precise capturing syntax is not allowed here"
  else
    Reading.asFound do
      if ← Reading.seesGroup .paren then Reading.within .paren (g.traitBound scope)
      else g.traitBound scope
    return .trait

/-- A bound may come next. -/
def startsBound (scope : BoundScope) (trees : List SourceTree) : Bool :=
  startsSomeWord trees || startsWithAny ["::", "?"] trees || startsLifetime trees ||
    startsGroup .paren trees || (scope.constants && startsGroup .bracket trees)

/-- Further bounds after plus signs, and whether a plus sign ends them. -/
def furtherBounds (scope : BoundScope) : Reading (List BoundForm × Bool) := do
  let forms ← Reading.collect do
    if ← Reading.sees fun ts => startsWith "+" ts && startsBound scope (ts.drop 1) then
      Reading.marks "+"
      return some (← g (.bound scope))
    else return none
  return (forms, ← Reading.takeMarks "+")

/-- The bounds of an object or of an unnamed type, one of which is a trait. -/
def traitBounds (scope : BoundScope) (plus : Bool) (missing : String) : Reading Unit := do
  let first ← g (.bound scope)
  let rest ← if plus then pure (← g.furtherBounds scope).1 else pure []
  unless (first :: rest).contains .trait do Reading.refuse missing

/-- The bounds of an object. -/
def objectBounds (plus : Bool) : Reading Unit :=
  g.traitBounds .object plus "at least one trait is required for an object type"

/-! ### Types -/

/-- The bounds after a trait in parentheses: how many. -/
def addedBounds : Reading Nat := do
  let rest ← Reading.collect do
    if ← Reading.takeMarks "+" then
      g.pass (.bound .object)
      return some ()
    else return none
  return rest.length

/-- What parentheses hold: an optional trait, another type alone, or something complete. -/
inductive Parenthesized
  | complete
  | optionalTrait
  | alone (t : TypeForm)

/-- A type in parentheses, without what may follow them. -/
def parenthesizedType : Reading Parenthesized :=
  Reading.within .paren do
    if ← Reading.atEnd then return .complete
    else if ← Reading.sees startsLifetime then
      g.objectBounds true
      return .complete
    else if ← Reading.seesMarks "?" then
      let _ ← g.traitBound .object
      return .optionalTrait
    else
      let first ← g (.type true)
      if ← Reading.takeMarks "," then
        commaList (g.pass (.type true))
        return .complete
      else return .alone first

/-- A type that starts with parentheses. -/
def parenType (plus : Bool) : Reading TypeForm := do
  match ← g.parenthesizedType with
  | .complete => return .other
  | .optionalTrait => return if (← g.addedBounds) = 0 then .oneTrait else .traits
  | .alone first =>
    if plus && (first = .name || first = .path || first = .oneTrait) &&
        (← Reading.seesMarks "+") then
      let _ ← g.addedBounds
      return .traits
    else return .other

/-- A type that starts with a path, after a binder that has been read but not written. -/
def pathType (plus : Bool) (binder : Option String) : Reading TypeForm := do
  let (path, text) ← Reading.captured (g.path false)
  let isMacro ← Reading.sees (startsOnly "!" ["!="])
  unless path.bare && path.unapplied && isMacro do Reading.write (binder.getD "")
  Reading.write text
  if !path.bare then return .other
  else if path.unapplied && isMacro then
    Reading.marks "!"
    let _ ← anyGroup
    return .other
  else if binder.isSome || (plus && (← Reading.seesMarks "+")) then
    let (rest, trailing) ← if plus then g.furtherBounds .object else pure ([], false)
    return if rest.isEmpty && !trailing then .oneTrait else .traits
  else return if path.single then .name else .path

/-- A type; `plus` tells whether further bounds may follow a trait. -/
def type (plus : Bool) : Reading TypeForm := do
  if ← Reading.seesWord "for" then
    let (_, binder) ← Reading.captured g.binder
    if ← Reading.sees (startsAnyWord ["fn", "unsafe", "extern"]) then
      Reading.write binder
      g.functionType
      return .other
    else if ← Reading.sees fun ts => startsIdent ts || startsAnyWord pathWords ts then
      g.pathType plus (some binder)
    else
      Reading.expectAny
        ["identifier", "`fn`", "`unsafe`", "`extern`", "`super`", "`self`", "`Self`", "`crate`"]
  else if ← Reading.seesGroup .paren then g.parenType plus
  else if ← Reading.sees (startsAnyWord ["fn", "unsafe", "extern"]) then
    g.functionType
    return .other
  else if ← Reading.sees startsPath then g.pathType plus none
  else if ← Reading.seesWord "dyn" then
    Reading.asFound do
      Reading.word "dyn"
      let marked ← Reading.takeMarks "*"
      g.objectBounds plus
      return marked
    return .other
  else if ← Reading.seesGroup .bracket then
    Reading.within .bracket do
      g.pass (.type true)
      if ← Reading.takeMarks ";" then g.pass (.expression true)
    return .other
  else if ← Reading.takeMarks "*" then
    unless (← Reading.takeWord "const") || (← Reading.takeWord "mut") do
      Reading.expectAny ["`const`", "`mut`"]
    g.pass (.type false)
    return .other
  else if ← Reading.takeMarks "&" then
    Reading.optionalLifetime
    Reading.optionalWord "mut"
    g.pass (.type false)
    return .other
  else if ← Reading.takeMarks "!" then return .other
  else if ← Reading.takeWord "impl" then
    g.traitBounds .unnamed plus "at least one trait must be specified"
    return .other
  else if ← Reading.takeWord "_" then return .other
  else if ← Reading.sees startsLifetime then
    g.objectBounds true
    return .traits
  else
    Reading.expectAny
      ["`for`", "parentheses", "`fn`", "`unsafe`", "`extern`", "identifier", "`::`", "`<`", "`dyn`",
        "square brackets", "`*`", "`&`", "`!`", "`impl`", "`_`", "lifetime"]

end Grammar

end ObjectAssembly

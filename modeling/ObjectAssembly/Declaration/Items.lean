import ObjectAssembly.Declaration.Fields

/-!
# Items — declarations among statements

Functions, constants, types, traits, their implementations and what else may be declared in a block.
Forms that only some tools know are written as they were found: a reading of an item says whether it
is one of them.
-/

namespace ObjectAssembly

open SourceTree

namespace Grammar

variable (g : Grammar)

/-! ### Functions -/

/-- What a parameter of a function is. -/
inductive ParameterForm
  | receiver
  | typed
  | variadic

/-- A parameter that is the receiver of a method. -/
def receiver : Reading Unit := do
  let reference ← Reading.takeMarks "&"
  if reference then Reading.optionalLifetime
  Reading.optionalWord "mut"
  Reading.word "self"
  if !reference then
    if ← Reading.takeMarks ":" then g.pass (.type true)

/-- A parameter of a function, after its attributes.  A type alone has an underscore for a name. -/
def parameter : Reading ParameterForm := do
  if (← Reading.attempt? g.receiver).isSome then return .receiver
  if ← Reading.sees fun ts => startsIdent ts && startsWith "<" (ts.drop 1) then
    Reading.write "_:"
    g.pass (.type true)
    return .typed
  g.pass .pattern
  Reading.marks ":"
  if ← Reading.takeMarks "..." then return .variadic
  g.pass (.type true)
  return .typed

/-- The parameters of a function, at most `fuel` of them, after `count` others; `received` tells
whether one of those is a receiver. -/
def parametersUpTo (received : Bool) (count : Nat) : Nat → Reading Unit
  | 0 => return
  | fuel + 1 => do
    if ← Reading.atEnd then return
    g.passAttributes
    let form ← if ← Reading.takeMarks "..." then pure .variadic else g.parameter
    match form with
    | .variadic => unless ← Reading.atEnd do Reading.marks ","
    | .receiver =>
      if received then Reading.refuse "unexpected second method receiver"
      if count ≠ 0 then Reading.refuse "unexpected method receiver"
      if ← Reading.comma then parametersUpTo true (count + 1) fuel
    | .typed => if ← Reading.comma then parametersUpTo received (count + 1) fuel

/-- The parameters of a function, up to the end. -/
def parameters : Reading Unit := do
  g.parametersUpTo false 0 ((← Reading.ahead).length + 1)

/-- A function's head comes next. -/
def startsSignature (safe : Bool) (trees : List SourceTree) : Bool :=
  let dropWord (w : String) (ts : List SourceTree) := if startsWord w ts then ts.drop 1 else ts
  let trees := dropWord "async" (dropWord "const" trees)
  let trees :=
    if safe && startsWord "safe" trees then trees.drop 1 else dropWord "unsafe" trees
  let trees :=
    if startsWord "extern" trees then
      if startsString (trees.drop 1) then trees.drop 2 else trees.drop 1
    else trees
  startsWord "fn" trees

/-- A function's head: whether it is marked as safe. -/
def signature (safe : Bool) : Reading Bool := do
  Reading.optionalWord "const"
  Reading.optionalWord "async"
  let unchecked ← Reading.takeWord "unsafe"
  let marked ← if safe && !unchecked then Reading.takeWord "safe" else pure false
  convention
  Reading.word "fn"
  Reading.ident
  g.passGenerics
  Reading.within .paren g.parameters
  g.returned true
  g.conditions
  return marked

/-- A function, or a head alone. -/
def function : Reading Bool := do
  let _ ← g.signature false
  if ← Reading.takeMarks ";" then return true
  g.attributedBlock
  return false

/-! ### Macros -/

/-- A call of a macro among declarations.  It ends with a semicolon unless it has braces. -/
def macroItem (named : Bool) : Reading Bool := do
  let _ ← plainPath
  Reading.marks "!"
  if named then
    let _ ← Reading.takeIf (fun ts => startsIdent ts || startsWord "try" ts) 1
  unless (← anyGroup) = .brace do Reading.marks ";"
  return false

/-- A call of a macro may come next. -/
def startsMacro (trees : List SourceTree) : Bool :=
  startsIdent trees || startsAnyWord pathWords trees || startsWith "::" trees

/-- What is asked for where a call of a macro could stand. -/
def macroStarts : List String := ["identifier", "`self`", "`super`", "`crate`", "`::`"]

/-- A declared macro with parameters or without. -/
def macroDeclaration : Reading Bool := do
  Reading.word "macro"
  Reading.ident
  let applied ← Reading.seesGroup .paren
  if applied then Reading.skip 1
  unless ← Reading.takeIf (startsGroup .brace) 1 do
    Reading.expectAny (if applied then ["curly braces"] else ["parentheses", "curly braces"])
  return true

/-! ### Constants -/

/-- The name of a constant, which may be an underscore. -/
def constantName : Reading Unit := do
  unless ← Reading.takeIf (fun ts => startsIdent ts || startsWord "_" ts) 1 do
    Reading.expectAny ["identifier", "`_`"]

/-- A constant after its name: whether it has parameters, or no value although it needs one. -/
def constantRest (needed : Bool) : Reading Bool := do
  let applied ← Reading.seesMarks "<"
  g.passGenerics
  Reading.marks ":"
  g.pass (.type true)
  let valued ← Reading.takeMarks "="
  if valued then g.pass (.expression true)
  let conditioned := (← g.clause).isSome
  Reading.marks ";"
  return applied || conditioned || (needed && !valued)

/-- A static variable. -/
def staticItem : Reading Bool := do
  Reading.word "static"
  Reading.optionalWord "mut"
  Reading.ident
  if ← Reading.takeMarks "=" then
    g.pass (.expression true)
    Reading.marks ";"
    return true
  Reading.marks ":"
  g.pass (.type true)
  if ← Reading.takeMarks ";" then return true
  Reading.marks "="
  g.pass (.expression true)
  Reading.marks ";"
  return false

/-! ### Types -/

/-- The bounds of a list end here. -/
def endsBoundList (words marks : List String) (braces : Bool) (trees : List SourceTree) : Bool :=
  startsAnyWord words trees || startsWithAny marks trees || (braces && startsGroup .brace trees)

/-- A name for a type, which may have bounds and stand for a type; the where clause comes before or
after that.  Yields whether there is a colon, and whether there is a type. -/
def typeItem (overridable before after : Bool) : Reading (Bool × Bool) := do
  visibility
  if overridable then Reading.optionalWord "default"
  Reading.word "type"
  Reading.ident
  g.passGenerics
  let bounded ← Reading.seesMarks ":"
  afterColon (g.boundsUntil .parameter true (endsBoundList ["where"] ["=", ";"] false))
  let early ← if before then g.clause else pure none
  let defined ← Reading.takeMarks "="
  if defined then g.pass (.type true)
  if after && early.isNone then g.conditions
  Reading.marks ";"
  return (bounded, defined)

/-! ### Uses and outer modules -/

/-- The items that a declaration uses: whether none of them starts at the root where that is
unusual. -/
def useTree (roots : Bool) : Reading Bool := do
  let startsName (ts : List SourceTree) :=
    startsIdent ts || startsAnyWord ["self", "super", "crate", "try"] ts
  if ← Reading.takeIf startsName 1 then
    if ← Reading.takeMarks "::" then g (.useTree false)
    else if ← Reading.takeWord "as" then
      unless ← Reading.takeIf (fun ts => startsIdent ts || startsWord "_" ts) 1 do
        Reading.expect "identifier or underscore"
      return true
    else return true
  else if ← Reading.takeMarks "*" then return true
  else if ← Reading.seesGroup .brace then
    Reading.within .brace do
      let trees ← Reading.collect do
        if ← Reading.atEnd then return none
        let rooted ← if roots then Reading.takeMarks "::" else pure false
        let plain ← g (.useTree (roots && !rooted))
        let _ ← Reading.comma
        return some (plain && !rooted)
      return trees.all id
  else
    Reading.expectAny
      ["identifier", "`self`", "`super`", "`crate`", "`try`", "`*`", "curly braces"]

/-- A use of items. -/
def useItem : Reading Bool := do
  visibility
  Reading.word "use"
  let rooted ← Reading.takeMarks "::"
  let plain ← g (.useTree (!rooted))
  Reading.marks ";"
  return !plain

/-- An outer crate. -/
def crateItem : Reading Bool := do
  visibility
  Reading.word "extern"
  Reading.word "crate"
  Reading.identOr ["self"]
  if ← Reading.takeWord "as" then Reading.identOr ["_"]
  Reading.marks ";"
  return false

/-- Something that an outer module declares. -/
def foreignItem : Reading Unit :=
  Reading.asFound do
    g.passAttributes
    let before := (← Reading.ahead).length
    let trees ← Reading.past visibility
    let isStatic := startsWord "static" trees ||
      (startsAnyWord ["unsafe", "safe"] trees && startsWord "static" (trees.drop 1))
    if startsSignature true trees then
      visibility
      let safe ← g.signature true
      if ← Reading.seesGroup .brace then
        g.attributedBlock
        return true
      Reading.marks ";"
      return safe
    else if isStatic then
      visibility
      let marked ← Reading.takeIf (startsAnyWord ["unsafe", "safe"]) 1
      Reading.word "static"
      Reading.optionalWord "mut"
      Reading.ident
      Reading.marks ":"
      g.pass (.type true)
      let valued ← Reading.takeMarks "="
      if valued then g.pass (.expression true)
      Reading.marks ";"
      return marked || valued
    else if startsWord "type" trees then
      let (bounded, defined) ← g.typeItem false true true
      return bounded || defined
    else
      let hidden := trees.length = before
      if hidden && startsMacro trees then macroItem false
      else
        Reading.expectBefore trees
          (["`fn`", "`static`", "`type`"] ++ if hidden then macroStarts else [])

/-- Something inside of braces, up to the end, after attributes. -/
def items (item : Reading Unit) : Reading Unit :=
  Reading.within .brace do
    g.passInner
    Reading.repeatWhile do
      if ← Reading.atEnd then return false
      item
      return true

/-- An outer module. -/
def foreignModule : Reading Bool := do
  Reading.optionalWord "unsafe"
  unless ← Reading.seesWord "extern" do Reading.expect "`extern`"
  convention
  g.items g.foreignItem
  return false

/-- What is declared with the words for an outer module, from those words on. -/
def outerItem (trees : List SourceTree) : Reading Bool := do
  let next := trees.drop 1
  if startsWord "crate" next then crateItem
  else if startsGroup .brace next then g.foreignModule
  else if startsString next then
    if startsGroup .brace (next.drop 1) then g.foreignModule
    else Reading.expectBefore (next.drop 1) ["curly braces"]
  else Reading.expectBefore next ["`crate`", "curly braces", "string literal"]

/-! ### Modules -/

/-- A module. -/
def moduleItem : Reading Bool := do
  visibility
  Reading.optionalWord "unsafe"
  Reading.word "mod"
  Reading.identOr ["try"]
  if ← Reading.takeMarks ";" then return false
  else if ← Reading.seesGroup .brace then
    g.items (g.pass .item)
    return false
  else Reading.expectAny ["`;`", "curly braces"]

/-! ### Traits -/

/-- A function of a trait, with a body or without. -/
def traitFunction : Reading Unit := do
  let _ ← g.signature false
  if ← Reading.seesGroup .brace then g.attributedBlock
  else unless ← Reading.takeMarks ";" do Reading.expectAny ["curly braces", "`;`"]

/-- Something that a trait asks for. -/
def traitItem : Reading Unit :=
  Reading.asFound do
    g.passAttributes
    let before := (← Reading.ahead).length
    visibility
    Reading.optionalWord "default"
    let trees ← Reading.ahead
    let plain := trees.length = before
    let next := trees.drop 1
    if startsSignature false trees then
      g.traitFunction
      return !plain
    else if startsWord "const" trees then
      if startsIdent next || startsWord "_" next then
        Reading.word "const"
        constantName
        return (← g.constantRest false) || !plain
      else if startsAnyWord ["async", "unsafe", "extern", "fn"] next then
        g.traitFunction
        return !plain
      else
        Reading.expectBefore next
          ["identifier", "`_`", "`async`", "`unsafe`", "`extern`", "`fn`"]
    else if startsWord "type" trees then
      let _ ← g.typeItem false false true
      return !plain
    else if plain && startsMacro trees then macroItem false
    else
      Reading.expectAny (["`fn`", "`const`", "`type`"] ++ if plain then macroStarts else [])

/-- The rest of a trait after its parameters. -/
def traitRest : Reading Bool := do
  afterColon (g.boundsUntil .parameter true (endsBoundList ["where"] [] true))
  g.conditions
  g.items g.traitItem
  return false

/-- A trait, or another name for traits. -/
def traitItemOrAlias : Reading Bool := do
  visibility
  Reading.word "trait"
  Reading.ident
  g.passGenerics
  if ← Reading.sees fun ts =>
      startsGroup .brace ts || startsWith ":" ts || startsWord "where" ts then g.traitRest
  else if ← Reading.takeMarks "=" then
    g.boundsUntil .object true (endsBoundList ["where"] [";"] false)
    g.conditions
    Reading.marks ";"
    return false
  else Reading.expectAny ["curly braces", "`:`", "`where`", "`=`"]

/-- A trait with words in front of it. -/
def markedTrait : Reading Bool := do
  visibility
  Reading.optionalWord "unsafe"
  Reading.optionalWord "auto"
  Reading.word "trait"
  Reading.ident
  g.passGenerics
  g.traitRest

/-! ### Implementations -/

/-- Something that an implementation gives. -/
def implItem : Reading Unit :=
  Reading.asFound do
    g.passAttributes
    let before := (← Reading.ahead).length
    let seen ← Reading.past visibility
    let overriding := startsWord "default" seen && !startsWith "!" (seen.drop 1)
    let trees := if overriding then seen.drop 1 else seen
    let plain := trees.length = before
    if startsSignature false trees then
      visibility
      Reading.optionalWord "default"
      g.function
    else if startsWord "const" trees then
      visibility
      if overriding then Reading.word "default"
      Reading.word "const"
      constantName
      g.constantRest true
    else if startsWord "type" trees then
      let (bounded, defined) ← g.typeItem true false true
      return bounded || !defined
    else if plain && startsMacro trees then macroItem false
    else
      Reading.expectBefore trees
        ((if overriding || startsWord "default" trees then [] else ["`default`"]) ++
          ["`fn`", "`const`", "`type`"] ++ if plain then macroStarts else [])

/-- An implementation of a trait, or of a type by itself. -/
def implementation : Reading Bool := do
  let before := (← Reading.ahead).length
  visibility
  let visible := (← Reading.ahead).length ≠ before
  Reading.optionalWord "default"
  Reading.optionalWord "unsafe"
  Reading.word "impl"
  if ← Reading.sees startsGenerics then g.passGenerics
  let startsConstant (ts : List SourceTree) :=
    startsWord "const" ts || (startsWith "?" ts && startsWord "const" (ts.drop 1))
  let constant ← Reading.sees startsConstant
  if constant then
    let _ ← Reading.takeMarks "?"
    Reading.word "const"
  let negative ← Reading.takeIf (fun ts => startsWith "!" ts && !startsGroup .brace (ts.drop 1)) 1
  let first ← g (.type true)
  let forType ← Reading.takeWord "for"
  if forType then g.pass (.type true)
  else if negative then Reading.refuse "inherent impls cannot be negative"
  g.conditions
  g.items g.implItem
  return visible || constant || (forType && first ≠ .name && first ≠ .path)

/-! ### Items -/

/-- A declared type with fields or variants, after its words. -/
def declaredType (word : String) (body : Reading Unit) : Reading Bool := do
  visibility
  Reading.word word
  Reading.ident
  g.passGenerics
  body
  return false

/-- What an unchecked item may be. -/
def uncheckedItem (trees : List SourceTree) : Reading Bool := do
  let next := trees.drop 1
  if startsWord "trait" next || (startsWord "auto" next && startsWord "trait" (next.drop 1)) then
    g.markedTrait
  else if startsWord "impl" next then g.implementation
  else if startsWord "extern" next then g.foreignModule
  else if startsWord "mod" next then g.moduleItem
  else
    Reading.expectBefore next
      (["`trait`"] ++ (if startsWord "auto" next then [] else ["`auto`"]) ++
        ["`impl`", "`extern`", "`mod`"])

/-- The words that items start with. -/
def itemWords : List String :=
  ["fn", "extern", "use", "static", "const", "unsafe", "mod", "type", "struct", "enum", "union",
    "trait", "auto", "impl", "default", "macro"]

/-- An item after its attributes. -/
def itemRest : Reading Bool := do
  let before := (← Reading.ahead).length
  let trees ← Reading.past visibility
  let next := trees.drop 1
  let starts (w : String) := startsWord w trees
  if startsSignature false trees then
    visibility
    g.function
  else if starts "extern" then g.outerItem trees
  else if starts "use" then g.useItem
  else if starts "static" then
    visibility
    g.staticItem
  else if starts "const" then
    visibility
    Reading.word "const"
    constantName
    g.constantRest true
  else if starts "unsafe" then g.uncheckedItem trees
  else if starts "mod" then g.moduleItem
  else if starts "type" then
    let (bounded, defined) ← g.typeItem false true false
    return bounded || !defined
  else if starts "struct" then
    g.declaredType "struct" do
      let _ ← g.structBody
  else if starts "enum" then
    g.declaredType "enum" do
      g.conditions
      g.variants
  else if starts "union" && startsIdent next then
    g.declaredType "union" do
      g.conditions
      let _ ← g.namedFields
  else if starts "trait" then g.traitItemOrAlias
  else if starts "auto" && startsWord "trait" next then g.markedTrait
  else if starts "impl" || (starts "default" && !startsWith "!" next) then g.implementation
  else if starts "macro" then
    visibility
    macroDeclaration
  else
    let hidden := trees.length = before
    if hidden && startsMacro trees then macroItem true
    else
      Reading.expectBefore trees
        ((itemWords.filter (!starts ·)).map (fun w => "`" ++ w ++ "`") ++
          if hidden then macroStarts else [])

/-- An item. -/
def item : Reading Unit :=
  Reading.asFound do
    g.passAttributes
    g.itemRest

end Grammar

end ObjectAssembly

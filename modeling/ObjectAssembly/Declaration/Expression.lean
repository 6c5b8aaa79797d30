import ObjectAssembly.Declaration.Patterns
import ObjectAssembly.Declaration.Source

/-!
# Expression — the kind of an expression

An expression is an operand, with what trails it, and operators that bind by their strength.  The
whole of it must be well formed, though only its outermost form is wanted.
-/

namespace ObjectAssembly

open SourceTree

namespace Grammar

variable (g : Grammar)

/-! ### Operands -/

/-- An expression may come next. -/
def startsExpression (trees : List SourceTree) : Bool :=
  (startsSomeWord trees && !startsWord "as" trees) || startsSomeGroup trees ||
    startsLiteral trees || startsOnly "!" ["!="] trees || startsOnly "-" ["-=", "->"] trees ||
    startsOnly "*" ["*="] trees || startsOnly "|" ["|="] trees || startsOnly "&" ["&="] trees ||
    startsOnly "<" ["<=", "<<="] trees || startsWithAny ["..", "::", "#"] trees ||
    startsLifetime trees

/-- What a jump takes along, if anything. -/
def carried (records : Bool) : Reading Unit := do
  if ← Reading.sees fun ts => startsExpression ts && (records || !startsGroup .brace ts) then
    g.pass (.expression true)

/-- The rest of a range from its marks on; one without an end stops before what cannot start an
operand. -/
def openRange (records : Bool) : Reading ExpressionKind := do
  let closed ← rangeMarks false
  let stop (ts : List SourceTree) : Bool :=
    ts.isEmpty || startsWithAny [",", ";", "?", "=>", "=", "+", "/", "%", "^", ">", "<=", "!=",
        "-=", "*=", "&=", "|=", "<<="] ts || startsAccess ts ||
      (!records && startsGroup .brace ts) || startsWord "as" ts
  unless !closed && (← Reading.sees stop) do g.pass (.operand records .range)
  return .range

/-- A parameter of a closure.  The attributes of a boxed pattern are not written. -/
def closureParameter : Reading Unit := do
  let (_, attributes) ← Reading.captured g.passAttributes
  let (form, text) ← Reading.captured (g .pattern)
  unless form = .boxed && !(← Reading.seesMarks ":") do Reading.write attributes
  Reading.write text
  if ← Reading.takeMarks ":" then g.pass (.type true)

/-- A closure, from what stands in front of its parameters on. -/
def closure (records : Bool) : Reading ExpressionKind := do
  let _ ← g.optionalBinder
  Reading.optionalWord "const"
  Reading.optionalWord "static"
  Reading.optionalWord "async"
  Reading.optionalWord "move"
  Reading.marks "|"
  Reading.repeatWhile do
    if ← Reading.seesMarks "|" then return false
    g.closureParameter
    if ← Reading.seesMarks "|" then return false
    Reading.marks ","
    return true
  Reading.marks "|"
  if ← Reading.seesMarks "->" then
    g.returned true
    g.block
  else g.pass (.expression records)
  return .closure

/-- A closure comes next. -/
def startsClosure (trees : List SourceTree) : Bool :=
  let next := trees.drop 1
  startsWith "|" trees || startsAnyWord ["move", "static"] trees ||
    (startsWord "for" trees && startsGenerics next) ||
    (startsWord "const" trees && !startsGroup .brace next) ||
    (startsWord "async" trees && (startsWith "|" next || startsWord "move" next))

/-- A field of a record. -/
def recordField : Reading Unit := do
  g.passAttributes
  let named ← Reading.member
  if !named || (← Reading.seesMarks ":") then
    Reading.marks ":"
    g.pass (.expression true)

/-- The fields of a record, up to the end; the others may come from another record. -/
def recordFields : Reading Unit :=
  Reading.repeatWhile do
    if ← Reading.atEnd then return false
    if ← Reading.takeMarks ".." then
      unless ← Reading.atEnd do g.pass (.expression true)
      return false
    g.recordField
    Reading.comma

/-- A path, a call of what it names with unread arguments, or a record. -/
def named (records : Bool) : Reading ExpressionKind := do
  let path ← g.path true
  if path.bare && path.unapplied && (← Reading.sees (startsOnly "!" ["!="])) then
    Reading.marks "!"
    return .macroCall ((← anyGroup) = .brace)
  else if records && (← Reading.seesGroup .brace) then
    Reading.within .brace g.recordFields
    return .record
  else return .path

/-- What parentheses hold: one expression, or several with a comma after the first. -/
def parenthesized : Reading ExpressionKind :=
  Reading.within .paren do
    if ← Reading.atEnd then return .tuple
    g.pass (.expression true)
    if ← Reading.atEnd then return .paren
    Reading.marks ","
    commaList (g.pass (.expression true))
    return .tuple

/-- What square brackets hold: a list, or an expression and how often it is repeated. -/
def bracketed : Reading ExpressionKind :=
  Reading.within .bracket do
    if ← Reading.atEnd then return .array
    g.pass (.expression true)
    if ← Reading.atEnd then return .array
    if ← Reading.takeMarks "," then
      commaList (g.pass (.expression true))
      return .array
    else if ← Reading.takeMarks ";" then
      g.pass (.expression true)
      return .repeated
    else Reading.expectAny ["`,`", "`;`"]

/-- A condition with its two branches, after its word. -/
def conditional : Reading ExpressionKind := do
  g.pass (.expression false)
  g.block
  if ← Reading.takeWord "else" then
    if ← Reading.seesWord "if" then g.pass (.atom true)
    else if ← Reading.seesGroup .brace then g.block
    else Reading.expectAny ["`if`", "curly braces"]
  return .conditional

/-- An arm of a match. -/
def arm : Reading Unit := do
  g.passAttributes
  g.passAlternatives
  if ← Reading.takeWord "if" then g.pass (.expression true)
  Reading.marks "=>"
  let body ← g .statementExpression
  if body.endsWithBlock || (← Reading.atEnd) then
    let _ ← Reading.takeMarks ","
  else Reading.marks ","

/-- The arms of a match, up to the end. -/
def arms : Reading Unit := do
  g.passInner
  Reading.repeatWhile do
    if ← Reading.atEnd then return false
    g.arm
    return true

/-- A break, after its word.  A labelled loop in it stands in parentheses. -/
def breaking (records : Bool) : Reading ExpressionKind := do
  if ← Reading.sees fun ts => startsLifetime ts && startsWith ":" (ts.drop 1) then
    g.pass (.expression true)
    Reading.refuse "parentheses required"
  else
    Reading.optionalLifetime
    g.carried records
    return .breaking

/-- An operand that starts with a keyword. -/
def keyworded (records : Bool) : Reading ExpressionKind := do
  if ← Reading.takeWord "break" then g.breaking records
  else if ← Reading.takeWord "continue" then
    Reading.optionalLifetime
    return .continuing
  else if ← Reading.takeWord "return" then
    g.carried true
    return .returning
  else if ← Reading.takeWord "become" then
    g.pass (.expression true)
    return .unnamed
  else if ← Reading.takeWord "let" then
    g.passAlternatives
    Reading.marks "="
    let left ← g (.unary records)
    g.pass (.operated records left .compare)
    return .letBinding
  else if ← Reading.takeWord "if" then g.conditional
  else if ← Reading.takeWord "while" then
    g.pass (.expression false)
    g.attributedBlock
    return .whileLoop
  else if ← Reading.takeWord "for" then
    g.passAlternatives
    Reading.word "in"
    g.pass (.expression false)
    g.attributedBlock
    return .forLoop
  else if ← Reading.takeWord "loop" then
    g.attributedBlock
    return .loop
  else if ← Reading.takeWord "match" then
    g.pass (.expression false)
    Reading.within .brace g.arms
    return .matching
  else if ← Reading.takeWord "yield" then
    g.carried true
    return .yielding
  else if ← Reading.takeWord "unsafe" then
    g.attributedBlock
    return .uncheckedBlock
  else if ← Reading.takeWord "const" then
    g.attributedBlock
    return .constBlock
  else if ← Reading.takeWord "_" then return .infer
  else Reading.expect "an expression"

/-- A loop or a block after its label. -/
def labelled : Reading ExpressionKind := do
  Reading.lifetime
  Reading.marks ":"
  if ← Reading.sees (startsAnyWord ["while", "for", "loop"]) then g.keyworded true
  else if ← Reading.seesGroup .brace then
    g.attributedBlock
    return .block
  else Reading.expect "loop or block expression"

/-- A call of something built in, with unread arguments. -/
def builtin : Reading ExpressionKind := do
  Reading.word "builtin"
  Reading.marks "#"
  Reading.ident
  Reading.within .paren Reading.skipAll
  return .unnamed

/-- An operand without what trails it. -/
def atom (records : Bool) : Reading ExpressionKind := do
  if ← Reading.sees startsLiteral then return .literal (← Reading.literal)
  else if ← Reading.sees fun ts => startsWord "async" ts && (startsGroup .brace (ts.drop 1) ||
      (startsWord "move" (ts.drop 1) && startsGroup .brace (ts.drop 2))) then
    Reading.word "async"
    Reading.optionalWord "move"
    g.block
    return .asyncBlock
  else if ← Reading.sees fun ts => startsWord "try" ts && startsGroup .brace (ts.drop 1) then
    Reading.word "try"
    g.block
    return .tryBlock
  else if ← Reading.sees startsClosure then g.closure records
  else if ← Reading.sees fun ts => startsWord "builtin" ts && startsWith "#" (ts.drop 1) then
    builtin
  else if ← Reading.sees fun ts => startsPath ts ||
      (startsWord "try" ts && startsWithAny ["!", "::"] (ts.drop 1)) then g.named records
  else if ← Reading.seesGroup .paren then g.parenthesized
  else if ← Reading.seesGroup .bracket then g.bracketed
  else if ← Reading.seesGroup .brace then
    g.attributedBlock
    return .block
  else if ← Reading.seesMarks ".." then g.openRange records
  else if ← Reading.sees startsLifetime then g.labelled
  else g.keyworded records

/-! ### What trails an operand -/

/-- The number of a field that a part of a float between its points gives. -/
def partIndex (part : String) : Reading String :=
  match SourceTree.read part with
  | none => throw .unreadable
  | some [.literal .int source] => Reading.indexOf false source
  | some [.punct '-' _, .literal .int source] => Reading.indexOf true source
  | some _ => Reading.refuse "expected integer literal"

/-- The numbers of fields that a float stands for: whether no further point ends it. -/
def partIndices (source : String) : Reading Bool := do
  let parts := source.splitOn "."
  let open? := parts.getLast? = some ""
  let indices ← (if open? then parts.dropLast else parts).mapM partIndex
  Reading.write (".".intercalate indices ++ if open? then "." else "")
  return !open?

/-- Takes a float that stands for numbers of fields: whether the last of them is complete. -/
def floatMember : Reading Bool := do
  match ← Reading.ahead with
  | .literal .float source :: _ =>
    Reading.drop 1
    partIndices source
  | .punct '-' _ :: .literal .float source :: _ =>
    Reading.drop 2
    partIndices ("-" ++ source)
  | _ => return false

/-- What follows an operand and a point: fields, or the call of a method. -/
def afterPoint : Reading ExpressionKind := do
  if ← floatMember then return .field
  if ← Reading.takeWord "await" then return .await
  let isName ← Reading.member
  let applied := isName && (← Reading.seesMarks "::")
  if applied then
    Reading.marks "::"
    let _ ← angleList g.argument
  if isName && (applied || (← Reading.seesGroup .paren)) then
    Reading.within .paren (commaList (g.pass (.expression true)))
    return .methodCall
  else return .field

/-- An operand with what trails it. -/
def trailed (left : ExpressionKind) : Reading ExpressionKind := do
  if ← Reading.seesGroup .paren then
    Reading.within .paren (commaList (g.pass (.expression true)))
    g (.trailed .call)
  else if left ≠ .range && (← Reading.sees startsAccess) then
    Reading.marks "."
    let kind ← g.afterPoint
    g (.trailed kind)
  else if ← Reading.seesGroup .bracket then
    Reading.within .bracket (g.pass (.expression true))
    g (.trailed .index)
  else if left ≠ .range && (← Reading.takeMarks "?") then g (.trailed .attempt)
  else return left

/-! ### Operators -/

/-- An operand with the operators in front of it. -/
def unary (records : Bool) : Reading ExpressionKind := do
  let start ← get
  let attributed := !(← g.attributes).isEmpty
  if ← Reading.takeMarks "&" then
    let raw ← Reading.takeIf
      (fun ts => startsWord "raw" ts && startsAnyWord ["mut", "const"] (ts.drop 1)) 2
    unless raw do Reading.optionalWord "mut"
    g.pass (.unary records)
    return if raw then .rawAddress else .reference
  else if ← Reading.sees (startsWithAny ["*", "!", "-"]) then
    Reading.skip 1
    g.pass (.unary records)
    return .unary
  else
    let left ← g (.atom records)
    let kind ← g (.trailed left)
    if kind = .unnamed then Reading.rewrite start
    else if kind = .range && attributed then
      Reading.refuse "attributes are not allowed on range expressions starting with `..`"
    return kind

/-- What may not follow a cast without parentheses around it. -/
def afterCast : Reading Unit := do
  let never (what : String) : Reading Unit :=
    Reading.refuse ("casts cannot be followed by " ++ what)
  let trees ← Reading.ahead
  let next := trees.drop 1
  if startsAccess trees then
    if startsWord "await" next then never "`.await`"
    else if startsIdent next &&
        (startsGroup .paren (next.drop 1) || startsWith "::" (next.drop 1)) then
      never "a method call"
    else never "a field access"
  else if startsWith "?" trees then never "`?`"
  else if startsGroup .bracket trees then never "indexing"
  else if startsGroup .paren trees then never "a function call"

/-- An expression from its left operand on, with the operators that bind no less than `least`. -/
def operated (records : Bool) (left : ExpressionKind) (least : Binding) :
    Reading ExpressionKind := do
  let trees ← Reading.ahead
  if left = .range then return left
  match binaryOperator? trees with
  | some (m, b) =>
    if b < least then return left
    if b = .compare ∧ left = .binary true then
      Reading.refuse "comparison operators cannot be chained"
    Reading.marks m
    g.pass (.operand records b)
    g (.operated records (.binary (b = .compare)) least)
  | none =>
    if least ≤ .assign && startsAssignment trees then
      Reading.marks "="
      g.pass (.operand records .assign)
      g (.operated records .assign least)
    else if least ≤ .range && startsWith ".." trees then
      let kind ← g.openRange records
      g (.operated records kind least)
    else if least ≤ .cast && startsWord "as" trees then
      Reading.word "as"
      g.pass (.type false)
      afterCast
      g (.operated records .cast least)
    else return left

/-- A right operand, extended by operators that bind more tightly than the one before it. -/
def extended (records : Bool) (right : ExpressionKind) (b : Binding) : Reading ExpressionKind := do
  let trees ← Reading.ahead
  let next := nextBinding trees
  if b < next ∨ (b = next ∧ b = .assign) then
    let right ← g (.operated records right next)
    if (← Reading.ahead).length = trees.length then return right
    else g (.extended records right b)
  else return right

/-- A right operand. -/
def operand (records : Bool) (b : Binding) : Reading ExpressionKind := do
  let right ← g (.unary records)
  g (.extended records right b)

/-! ### Expressions -/

/-- An expression. -/
def expression (records : Bool) : Reading ExpressionKind := do
  let left ← g (.unary records)
  g (.operated records left .least)

/-- An expression that stands as a statement: one that ends with a block is over there.  The
attributes of one without a name are not written. -/
def statementExpression : Reading ExpressionKind := do
  let (_, attributes) ← Reading.captured g.passAttributes
  let early ← Reading.sees fun ts =>
    startsAnyWord ["if", "while", "loop", "match", "unsafe"] ts || startsGroup .brace ts ||
      startsLifetime ts || (startsWord "for" ts && !startsGenerics (ts.drop 1)) ||
      (startsAnyWord ["try", "const"] ts && startsGroup .brace (ts.drop 1))
  if early then
    Reading.write attributes
    let left ← g (.atom true)
    if ← Reading.sees fun ts => startsAccess ts || startsWith "?" ts then
      let left ← g (.trailed left)
      g (.operated true left .least)
    else return left
  else
    let (left, text) ← Reading.captured (g (.unary true))
    unless left = .unnamed do Reading.write attributes
    Reading.write text
    g (.operated true left .least)

end Grammar

end ObjectAssembly

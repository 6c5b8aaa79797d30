import ObjectAssembly.Declaration.Expression
import ObjectAssembly.Declaration.Items

/-!
# Statements — what a block holds

Bindings, items, calls of macros and expressions.  An expression that does not end with a block is
the last statement unless a semicolon follows it.
-/

namespace ObjectAssembly

open SourceTree

namespace Grammar

variable (g : Grammar)

/-! ### Bindings -/

/-- A binding.  What to do otherwise may be told unless the value ends with a brace. -/
def binding : Reading Unit := do
  Reading.word "let"
  g.pass .pattern
  if ← Reading.takeMarks ":" then g.pass (.type true)
  if ← Reading.takeMarks "=" then
    let (_, trees) ← Reading.traced (g (.expression true))
    unless startsGroup .brace (trees.drop (trees.length - 1)) do
      if ← Reading.takeWord "else" then g.block
  Reading.marks ";"

/-! ### Items among statements -/

/-- A static variable comes next, and no closure. -/
def startsStatic (trees : List SourceTree) : Bool :=
  let second := trees.drop 1
  let third := trees.drop 2
  startsWord "static" trees &&
    (startsWord "mut" second ||
      (startsIdent second &&
        !(startsWord "async" second && (startsWord "move" third || startsWith "|" third))))

/-- A constant or a function comes next, and no closure or block. -/
def startsConstantItem (trees : List SourceTree) : Bool :=
  let second := trees.drop 1
  startsWord "const" trees &&
    !(startsGroup .brace second || startsAnyWord ["static", "move"] second ||
      startsWith "|" second ||
      (startsWord "async" second && !startsAnyWord ["unsafe", "extern", "fn"] (trees.drop 2)))

/-- An item comes next. -/
def startsItem (trees : List SourceTree) : Bool :=
  let next := trees.drop 1
  startsAnyWord ["pub", "extern", "use", "fn", "mod", "type", "struct", "enum", "trait", "impl",
      "macro"] trees ||
    (startsWord "crate" trees && !startsWith "::" next) || startsStatic trees ||
    startsConstantItem trees || (startsWord "unsafe" trees && !startsGroup .brace next) ||
    (startsWord "async" trees && startsAnyWord ["unsafe", "extern", "fn"] next) ||
    (startsWord "union" trees && startsIdent next) ||
    (startsWord "auto" trees && startsWord "trait" next) ||
    (startsWord "default" trees && startsAnyWord ["unsafe", "impl"] next)

/-- What a call of a macro is among statements: an item, a statement by its braces, or an
expression. -/
inductive MacroUse
  | item
  | statement
  | expression
  deriving DecidableEq

/-- What the call of a macro after its path is; none if that is no call. -/
def MacroUse.of (trees : List SourceTree) : MacroUse :=
  let next := trees.drop 1
  let after := trees.drop 2
  if !startsWith "!" trees then .expression
  else if startsIdent next || startsWord "try" next then .item
  else if startsGroup .brace next && !(startsAccess after || startsWith "?" after) then .statement
  else .expression

/-- What comes next as the call of a macro. -/
def macroUse : Reading MacroUse := do
  match ← Reading.attempt? (Reading.past plainPath) with
  | some trees => return .of trees
  | none => return .expression

/-! ### Statements -/

/-- A statement: whether nothing may follow it. -/
def statement : Reading Bool := do
  let start ← get
  g.passAttributes
  let use ← macroUse
  if use = .statement then
    let _ ← plainPath
    Reading.marks "!"
    let _ ← anyGroup
    let _ ← Reading.takeMarks ";"
    return false
  else if ← Reading.seesWord "let" then
    g.binding
    return false
  else if use = .item || (← Reading.sees startsItem) then
    if ← g.itemRest then Reading.rewrite start
    return false
  else
    set start
    let kind ← g .statementExpression
    return !(← Reading.takeMarks ";") && !kind.standsAlone

/-- The statements of a block, up to the end. -/
def statements : Reading Unit :=
  Reading.repeatWhile do
    Reading.repeatWhile (Reading.takeMarks ";")
    if ← Reading.atEnd then return false
    let last ← g.statement
    if ← Reading.atEnd then return false
    if last then Reading.refuse "unexpected token, expected `;`"
    return true

end Grammar

end ObjectAssembly

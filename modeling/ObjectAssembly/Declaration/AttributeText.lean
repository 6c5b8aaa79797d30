import ObjectAssembly.Declaration.Attribute
import ObjectAssembly.Declaration.Grammar

/-!
# AttributeText — what written attributes say

The list of an attribute holds items between commas: literals, words, values after an equals sign
and lists.  A literal is a value by itself only where the list ends after it; before a comma it is
read as an expression.
-/

namespace ObjectAssembly

open SourceTree

/-- The value that an expression of some kind is. -/
def AttributeValue.ofExpression : ExpressionKind → AttributeValue
  | .literal (.text s) => .text s
  | e => .other e.label

/-! ### Items of lists -/

namespace Reading

/-- A word of the path of an item. -/
def itemWord : Reading String := do
  if ← sees startsSomeWord then anyWord else expect "path segment"

/-- The path of an item: any words between double colons. -/
def itemPath : Reading String := do
  let first ← itemWord
  let rest ← collect do
    if ← takeMarks "::" then return some (← itemWord) else return none
  return "::".intercalate (first :: rest)

/-- What comes next is an item that is a literal: truth values may also be assigned to. -/
def startsLiteralItem (trees : List SourceTree) : Bool :=
  startsLiteral trees && !(startsAnyWord ["true", "false"] trees && startsWith "=" (trees.drop 1))

end Reading

namespace Grammar

variable (g : Grammar)

/-- An item of a list; `fault?` tells what is wrong with the content of a list inside of it. -/
def listItem (fault? : List SourceTree → Option GrammarError) : Reading Argument := do
  if ← Reading.sees Reading.startsLiteralItem then
    let _ ← Reading.literal
    return .literal
  else if ← Reading.sees startsSomeWord then
    let key ← Reading.itemPath
    match ← Reading.ahead with
    | .group _ content :: _ =>
      Reading.skip 1
      return .list key (fault? content)
    | _ =>
      if ← Reading.takeMarks "=" then return .assign key (.ofExpression (← g.assigned))
      else return .word key
  else Reading.expect "identifier or literal"

/-- Items between commas, up to the end. -/
def listItems (fault? : List SourceTree → Option GrammarError) : Reading (List Argument) :=
  Reading.collect do
    if ← Reading.atEnd then return none
    let a ← g.listItem fault?
    let _ ← Reading.comma
    return some a

/-- The arguments in the list of an attribute.  The lists among them are well formed too, though
those inside of them may hold anything. -/
def arguments (trees : List SourceTree) : Except GrammarError (List Argument) :=
  let fault? (content : List SourceTree) :=
    match Reading.whole (g.listItems fun _ => none) content with
    | .error fault => some fault
    | .ok _ => none
  Reading.whole (g.listItems fault?) trees

end Grammar

/-- What a written attribute says. -/
def Attribute.ofWritten (a : WrittenAttribute) : Attribute where
  path := a.path
  body :=
    match a.body with
    | .word => .word
    | .assign value => .assign (.ofExpression value)
    | .list trees =>
      match (Grammar.ofSize (sourceSize trees)).arguments trees with
      | .error fault => .malformed fault
      | .ok arguments => .list arguments

end ObjectAssembly

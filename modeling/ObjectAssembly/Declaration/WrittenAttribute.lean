import ObjectAssembly.Declaration.Rule

/-!
# WrittenAttribute — attributes in a source text

An attribute stands between `#[` and `]`.  It has a path and either nothing more, a value after an
equals sign, or a list in brackets, which may hold anything.  With an exclamation mark it belongs to
what it stands in.
-/

namespace ObjectAssembly

open SourceTree

/-- What an attribute says after its path. -/
inductive WrittenBody
  | word
  | assign (value : ExpressionKind)
  | list (content : List SourceTree)
  deriving Repr

/-- An attribute as it is written. -/
structure WrittenAttribute where
  path : String
  body : WrittenBody
  deriving Repr

namespace Grammar

variable (g : Grammar)

/-! ### Paths -/

/-- A word that a path without arguments may have. -/
def startsPlainWord (trees : List SourceTree) : Bool :=
  startsIdent trees || startsAnyWord pathWords trees

/-- Words between double colons, from the root if some stand in front. -/
def plainPath : Reading String := do
  let root := if ← Reading.takeMarks "::" then "::" else ""
  let first ← if ← Reading.sees startsPlainWord then Reading.anyWord else Reading.identifier
  let rest ← Reading.collect do
    if ← Reading.takeMarks "::" then
      if ← Reading.sees startsPlainWord then return some (← Reading.anyWord)
      else Reading.expect "path segment after `::`"
    else return none
  return root ++ "::".intercalate (first :: rest)

/-! ### Values -/

/-- A value after its equals sign.  A literal with its sign is one if nothing follows. -/
def assigned : Reading ExpressionKind := do
  let trees ← Reading.ahead
  let whole? := (literal? trees).filter (·.2 = trees.length)
  match whole? with
  | some (l, _) =>
    Reading.skipAll
    return .literal l
  | none =>
    if startsWith "#" trees && startsGroup .bracket (trees.drop 1) then
      Reading.refuse "unexpected attribute inside of attribute"
    else g (.expression true)

/-! ### Attributes -/

/-- An attribute between its brackets. -/
def writtenAttribute : Reading WrittenAttribute := do
  let path ← if ← Reading.takeWord "unsafe" then pure "unsafe" else plainPath
  match ← Reading.ahead with
  | .group _ content :: _ =>
    Reading.skip 1
    return ⟨path, .list content⟩
  | trees =>
    if startsOnly "=" ["==", "=>"] trees then
      Reading.marks "="
      return ⟨path, .assign (← g.assigned)⟩
    else return ⟨path, .word⟩

/-- The attributes in front of something. -/
def attributes : Reading (List WrittenAttribute) :=
  Reading.collect do
    if ← Reading.takeMarks "#" then return some (← Reading.within .bracket g.writtenAttribute)
    else return none

/-- The attributes in front of something, for their form alone. -/
def passAttributes : Reading Unit := do
  let _ ← g.attributes

/-- The attributes at the start of what they belong to. -/
def passInner : Reading Unit :=
  Reading.repeatWhile do
    if ← Reading.sees fun ts => startsWith "#" ts && startsWith "!" (ts.drop 1) then
      Reading.skip 2
      let _ ← Reading.within .bracket g.writtenAttribute
      return true
    else return false

/-! ### Blocks -/

/-- A block. -/
def block : Reading Unit := Reading.within .brace (g.pass .statements)

/-- A block that may start with attributes. -/
def attributedBlock : Reading Unit :=
  Reading.within .brace do
    g.passInner
    g.pass .statements

/-- Items between commas, up to the end. -/
def commaList (item : Reading Unit) : Reading Unit :=
  Reading.repeatWhile do
    if ← Reading.atEnd then return false
    item
    Reading.comma

/-- Takes any group. -/
def anyGroup : Reading Delimiter := do
  match ← Reading.ahead with
  | .group d _ :: _ =>
    Reading.skip 1
    return d
  | _ => Reading.expect "delimiter"

end Grammar

end ObjectAssembly

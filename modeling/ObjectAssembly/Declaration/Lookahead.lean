import ObjectAssembly.Declaration.Numeral
import ObjectAssembly.Declaration.Reading

/-!
# Lookahead — what comes next

Tests on the trees ahead, and readings of the smallest parts: marks, words, identifiers, lifetimes,
literals and numbers of fields.
-/

namespace ObjectAssembly

namespace SourceTree

/-! ### Tests -/

/-- The words that are no identifiers. -/
def keywords : List String :=
  ["_", "abstract", "as", "async", "await", "become", "box", "break", "const", "continue", "crate",
    "do", "dyn", "else", "enum", "extern", "false", "final", "fn", "for", "if", "impl", "in", "let",
    "loop", "macro", "match", "mod", "move", "mut", "override", "priv", "pub", "ref", "return",
    "Self", "self", "static", "struct", "super", "trait", "true", "try", "type", "typeof",
    "unsafe", "unsized", "use", "virtual", "where", "while", "yield"]

/-- Trees start with these joined marks. -/
def startsWith (marks : String) (trees : List SourceTree) : Bool := go marks.toList trees
where
  /-- Compares mark by mark; all but the last one must be joined. -/
  go : List Char → List SourceTree → Bool
    | [], _ => true
    | c :: cs, .punct c' joined :: rest => c = c' && (cs.isEmpty || joined) && go cs rest
    | _, _ => false

/-- Trees start with one of several marks. -/
def startsWithAny (marks : List String) (trees : List SourceTree) : Bool :=
  marks.any (startsWith · trees)

/-- Trees start with some marks that are not the beginning of certain longer ones. -/
def startsOnly (marks : String) (longer : List String) (trees : List SourceTree) : Bool :=
  startsWith marks trees && !startsWithAny longer trees

/-- Trees start with a word. -/
def startsWord (word : String) : List SourceTree → Bool
  | .ident s :: _ => s = word
  | _ => false

/-- Trees start with one of some words. -/
def startsAnyWord (words : List String) : List SourceTree → Bool
  | .ident s :: _ => words.contains s
  | _ => false

/-- Trees start with a word of any kind. -/
def startsSomeWord : List SourceTree → Bool
  | .ident _ :: _ => true
  | _ => false

/-- Trees start with an identifier. -/
def startsIdent : List SourceTree → Bool
  | .ident s :: _ => !keywords.contains s
  | _ => false

/-- Trees start with a lifetime. -/
def startsLifetime : List SourceTree → Bool
  | .lifetime _ :: _ => true
  | _ => false

/-- Trees start with a group. -/
def startsGroup (d : Delimiter) : List SourceTree → Bool
  | .group d' _ :: _ => d = d'
  | _ => false

/-- Trees start with a group of any kind. -/
def startsSomeGroup : List SourceTree → Bool
  | .group _ _ :: _ => true
  | _ => false

/-- The words that a path may start with besides identifiers. -/
def pathWords : List String := ["super", "self", "Self", "crate"]

/-- A literal in front, and how many trees it takes.  A number may have a minus sign, and truth
values are words. -/
def literal? : List SourceTree → Option (Literal × Nat)
  | .literal l _ :: _ => some (l, 1)
  | .ident "true" :: _ | .ident "false" :: _ => some (.bool, 1)
  | .punct '-' _ :: .literal .int _ :: _ => some (.int, 2)
  | .punct '-' _ :: .literal .float _ :: _ => some (.float, 2)
  | _ => none

/-- Trees start with a literal. -/
def startsLiteral (trees : List SourceTree) : Bool := (literal? trees).isSome

/-- Trees start with a string. -/
def startsString : List SourceTree → Bool
  | .literal (.text _) _ :: _ => true
  | _ => false

/-- Trees start with a whole number, which may have a minus sign. -/
def startsWhole (trees : List SourceTree) : Bool :=
  match literal? trees with
  | some (.int, _) => true
  | _ => false

/-- Trees start with a point that accesses something. -/
def startsAccess (trees : List SourceTree) : Bool := startsOnly "." [".."] trees

/-- Trees start with generic parameters rather than with a type in angle brackets. -/
def startsGenerics (trees : List SourceTree) : Bool :=
  let second := trees.drop 1
  let third := trees.drop 2
  startsWith "<" trees &&
    (startsWithAny [">", "#"] second || startsWord "const" second ||
      ((startsLifetime second || startsIdent second) &&
        (startsWithAny [">", ",", "="] third || startsOnly ":" ["::"] third)))

end SourceTree

namespace Reading

open SourceTree

/-! ### Marks and words -/

/-- These marks come next. -/
def seesMarks (marks : String) : Reading Bool := sees (startsWith marks)

/-- This word comes next. -/
def seesWord (word : String) : Reading Bool := sees (startsWord word)

/-- A group comes next. -/
def seesGroup (d : Delimiter) : Reading Bool := sees (startsGroup d)

/-- Takes a number of trees if they pass a test. -/
def takeIf (test : List SourceTree → Bool) (n : Nat) : Reading Bool := do
  if ← sees test then
    skip n
    return true
  else return false

/-- Takes marks if they come next. -/
def takeMarks (marks : String) : Reading Bool := takeIf (startsWith marks) marks.length

/-- Takes a word if it comes next. -/
def takeWord (word : String) : Reading Bool := takeIf (startsWord word) 1

/-- Takes a word if it comes next, and else nothing. -/
def optionalWord (word : String) : Reading Unit := do
  let _ ← takeWord word

/-- Takes marks.  For these the end is not told from other things. -/
def marks (m : String) : Reading Unit := do
  unless ← takeMarks m do throw (.expected ["`" ++ m ++ "`"] false)

/-- Takes a word. -/
def word (w : String) : Reading Unit := do
  unless ← takeWord w do expect ("`" ++ w ++ "`")

/-- Takes a comma, unless everything is read: whether more can follow. -/
def comma : Reading Bool := do
  if ← atEnd then return false
  marks ","
  return true

/-! ### Names -/

/-- Takes a lifetime. -/
def lifetime : Reading Unit := do
  unless ← takeIf startsLifetime 1 do expect "lifetime"

/-- Takes a lifetime if one comes next. -/
def optionalLifetime : Reading Unit := do
  let _ ← takeIf startsLifetime 1

/-- Takes a word of any kind. -/
def anyWord : Reading String := do
  match ← ahead with
  | .ident s :: _ =>
    skip 1
    return s
  | _ => expect "ident"

/-- Takes an identifier. -/
def identifier : Reading String := do
  match ← ahead with
  | .ident s :: _ => if keywords.contains s then throw (.keyword s) else anyWord
  | _ => expect "identifier"

/-- Takes an identifier whose name does not matter. -/
def ident : Reading Unit := do
  let _ ← identifier

/-- Takes an identifier, or one of some other words. -/
def identOr (words : List String) : Reading Unit := do
  unless ← takeIf (startsAnyWord words) 1 do ident

/-! ### Literals -/

/-- Takes a literal. -/
def literal : Reading Literal := do
  match literal? (← ahead) with
  | some (l, n) =>
    skip n
    return l
  | none => expect "literal"

/-- The largest number of a field. -/
def largestIndex : Nat := 4294967295

/-- The number of a field, from what a literal says. -/
def indexOf (negative : Bool) (source : String) : Reading String :=
  match wholeNumber source.toList with
  | (n, []) =>
    if negative then refuse "invalid digit found in string"
    else if largestIndex < n then refuse "number too large to fit in target type"
    else return toString n
  | _ => refuse "expected unsuffixed integer"

/-- Takes the number of a field, which is written in decimal. -/
def index : Reading Unit := do
  match ← ahead with
  | .literal .int source :: _ =>
    write (← indexOf false source)
    drop 1
  | .punct '-' _ :: .literal .int source :: _ =>
    write (← indexOf true source)
    drop 2
  | _ => expect "integer literal"

/-- Takes the name or the number of a field: whether it is a name. -/
def member : Reading Bool := do
  if ← sees startsIdent then
    ident
    return true
  else if ← sees startsWhole then
    index
    return false
  else expect "identifier or integer"

end Reading

end ObjectAssembly

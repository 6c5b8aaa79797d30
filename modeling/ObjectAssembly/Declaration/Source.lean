import ObjectAssembly.Declaration.Numeral
import ObjectAssembly.Declaration.Quotation
import ObjectAssembly.Text.Blank

/-!
# Source — cutting a text into trees

`SourceTree.read` cuts a source text into identifiers, lifetimes, literals and punctuation marks,
and puts what stands between brackets into groups.  White space and comments only separate; a
documentation comment stands for the attribute that says the same.
-/

namespace ObjectAssembly

open Text

/-! ### Comments and white space -/

/-- The text of a block comment up to its end, and what follows it; `depth` further blocks are
open. -/
def blockComment : Nat → List Char → Option (List Char × List Char)
  | _, [] => none
  | 0, '*' :: '/' :: rest => some ([], rest)
  | depth + 1, '*' :: '/' :: rest =>
    (blockComment depth rest).map fun p => ('*' :: '/' :: p.1, p.2)
  | depth, '/' :: '*' :: rest =>
    (blockComment (depth + 1) rest).map fun p => ('/' :: '*' :: p.1, p.2)
  | depth, c :: rest => (blockComment depth rest).map fun p => (c :: p.1, p.2)

/-- A line up to its end, and what follows it. -/
def splitLine : List Char → List Char × List Char
  | [] => ([], [])
  | '\n' :: rest => ([], '\n' :: rest)
  | '\r' :: '\n' :: rest => ([], '\n' :: rest)
  | c :: rest => (c :: (splitLine rest).1, (splitLine rest).2)

/-- White space between words; the marks for writing direction count. -/
def isSeparator (c : Char) : Bool := isBlank c || c = '\u200e' || c = '\u200f'

/-- What follows the white space and the comments in front, in at most `fuel` steps. -/
def skipSeparators : Nat → List Char → List Char
  | 0, cs => cs
  | fuel + 1, cs =>
    match cs with
    | '/' :: '/' :: '/' :: '/' :: rest => skipSeparators fuel (splitLine rest).2
    | '/' :: '/' :: '/' :: _ | '/' :: '/' :: '!' :: _ => cs
    | '/' :: '/' :: rest => skipSeparators fuel (splitLine rest).2
    | '/' :: '*' :: '*' :: '/' :: rest => skipSeparators fuel rest
    | '/' :: '*' :: '*' :: '*' :: rest => block fuel cs ('*' :: '*' :: rest)
    | '/' :: '*' :: '*' :: _ | '/' :: '*' :: '!' :: _ => cs
    | '/' :: '*' :: rest => block fuel cs rest
    | c :: rest => if isSeparator c then skipSeparators fuel rest else c :: rest
    | [] => []
where
  /-- Skips on after a block comment, if it ends. -/
  block (fuel : Nat) (cs body : List Char) : List Char :=
    match blockComment 0 body with
    | some (_, rest) => skipSeparators fuel rest
    | none => cs

/-- Every carriage return is part of a line break. -/
def joinedReturns : List Char → Bool
  | [] => true
  | '\r' :: rest => rest.head? = some '\n' && joinedReturns rest
  | _ :: rest => joinedReturns rest

/-- The text of a documentation comment in front, whether it documents what it stands in, and what
follows it.  A carriage return by itself is not allowed. -/
def docComment? (cs : List Char) : Option (String × Bool × List Char) :=
  let comment (inner : Bool) (p : List Char × List Char) :=
    if joinedReturns p.1 then some (String.ofList p.1, inner, p.2) else none
  match cs with
  | '/' :: '/' :: '!' :: rest => comment true (splitLine rest)
  | '/' :: '*' :: '!' :: rest => (blockComment 0 rest).bind (comment true)
  | '/' :: '/' :: '/' :: rest => comment false (splitLine rest)
  | '/' :: '*' :: '*' :: rest => (blockComment 0 rest).bind (comment false)
  | _ => none

/-! ### Words and marks -/

/-- What was read between two positions of a text. -/
def between (whole rest : List Char) : String :=
  String.ofList (whole.take (whole.length - rest.length))

/-- The place of a faulty literal. -/
def faultyPlace : List Char := "(/*ERROR*/)".toList

/-- A literal in front, with the word that may follow it, and what follows both. -/
def lexLiteral? (cs : List Char) : Option (SourceTree × List Char) :=
  match quotation? cs with
  | some (l, rest) => some (.literal l (between cs (dropIdent rest)), dropIdent rest)
  | none => (numeral? cs).map fun p => (.literal p.1 (between cs p.2), p.2)

/-- A punctuation mark. -/
def isPunct (c : Char) : Bool := "~!@#$%^&*-=+|;:,<.>/?'".toList.contains c

/-- A punctuation mark stands in front, and no comment. -/
def startsPunct : List Char → Bool
  | '/' :: '/' :: _ | '/' :: '*' :: _ => false
  | c :: _ => isPunct c
  | [] => false

/-- What follows an identifier in front, which may be raw. -/
def afterIdent? (cs : List Char) : Option (List Char) :=
  let plain (cs : List Char) := if cs.head?.any isIdentStart then some (dropIdent cs) else none
  match cs with
  | 'r' :: '#' :: rest =>
    (plain rest).bind fun after =>
      if neverRaw.contains (between rest after) then none else some after
  | _ => plain cs

/-- The beginnings of literals that did not turn out to be one, and are no words either. -/
def quotedPrefixes : List String :=
  ["r\"", "r#\"", "r##", "b\"", "b'", "br\"", "br#", "c\"", "cr\"", "cr#"]

/-- An identifier in front, and what follows it. -/
def lexIdent? (cs : List Char) : Option (SourceTree × List Char) :=
  if quotedPrefixes.any fun p => p.toList.isPrefixOf cs then none
  else (afterIdent? cs).map fun after => (.ident (between cs after), after)

/-- A lifetime in front, from its quote on, and what follows it.  Where the name could also start a
literal, the quote is a mark by itself. -/
def lexLifetime? (cs : List Char) : Option (SourceTree × List Char) :=
  let name := cs.drop 1
  match afterIdent? name with
  | some after =>
    if after.head? = some '\'' ∨ (after.head? = some '#' ∧ !"r#".toList.isPrefixOf name) then none
    else if (lexLiteral? name).isSome then some (.punct '\'' true, name)
    else (lexIdent? name).map fun _ => (.lifetime (between cs after), after)
  | none => none

/-- One word or mark in front, and what follows it. -/
def lexLeaf? (cs : List Char) : Option (SourceTree × List Char) :=
  match lexLiteral? cs with
  | some p => some p
  | none =>
    match cs with
    | '\'' :: _ => lexLifetime? cs
    | c :: rest => if startsPunct cs then some (.punct c (startsPunct rest), rest) else lexIdent? cs
    | [] => none

/-! ### Trees -/

/-- A text between the quotes of a literal.  NUL before an octal digit takes two digits. -/
def literalBody : List Char → List Char
  | [] => []
  | c :: cs =>
    (if c = '\x00' ∧ cs.head?.any (fun d => '0' ≤ d && d ≤ '7') then "\\x00".toList
      else quotedChar c) ++ literalBody cs

/-- The trees of the attribute that a documentation comment stands for. -/
def docTrees (text : String) (inner : Bool) : List SourceTree :=
  .punct '#' false :: (if inner then [.punct '!' false] else []) ++
    [.group .bracket [.ident "doc", .punct '=' false,
      .literal (.text text) ("\"" ++ String.ofList (literalBody text.toList) ++ "\"")]]

/-- The groups that are open: the kind of each and what precedes it, in reverse, innermost first. -/
abbrev OpenGroups := List (Delimiter × List SourceTree)

/-- Reads trees in at most `fuel` steps; `done` holds those of the innermost group, in reverse. -/
def readTrees : Nat → OpenGroups → List SourceTree → List Char → Option (List SourceTree)
  | 0, _, _, _ => none
  | fuel + 1, groups, done, cs =>
    match skipSeparators (cs.length + 1) cs with
    | [] => if groups.isEmpty then some done.reverse else none
    | c :: rest =>
      match docComment? (c :: rest) with
      | some (text, inner, after) =>
        readTrees fuel groups ((docTrees text inner).reverse ++ done) after
      | none =>
        if faultyPlace.isPrefixOf (c :: rest) then
          let place := SourceTree.literal .faulty (String.ofList faultyPlace)
          readTrees fuel groups (place :: done) ((c :: rest).drop faultyPlace.length)
        else
          match Delimiter.ofOpening? c, Delimiter.ofClosing? c, groups with
          | some d, _, _ => readTrees fuel ((d, done) :: groups) [] rest
          | none, some d, (opened, before) :: groups =>
            if d = opened then readTrees fuel groups (.group d done.reverse :: before) rest
            else none
          | none, some _, [] => none
          | none, none, _ =>
            match lexLeaf? (c :: rest) with
            | none => none
            | some (t, after) => readTrees fuel groups (t :: done) after

/-- The trees of a text, if it can be cut into words and marks and its brackets match. -/
def SourceTree.read (s : String) : Option (List SourceTree) :=
  readTrees (s.length + 1) [] [] s.toList

end ObjectAssembly

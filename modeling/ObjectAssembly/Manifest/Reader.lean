import ObjectAssembly.Manifest.Scalar

/-!
# Reader — manifests as they are written

A text of lines: blank ones and comments, headings `[a.b]` and `[[a.b]]`, and keys with
values.  Lists and tables in brackets may go over several lines and end with a comma.  A text that
breaks a rule of the format anywhere is no manifest at all.
-/

namespace ObjectAssembly.Manifest

open Text

/-! ### Blanks, comments and lines -/

/-- A blank within a line. -/
def isGap (c : Char) : Bool := c = ' ' || c = '\t'

/-- A character that a line may show: no control character but the tab. -/
def isShown (c : Char) : Bool := c = '\t' || (decide (' ' ≤ c) && c ≠ '\x7f')

/-- What follows the blanks and the comment in front. -/
def skipRest (cs : List Char) : List Char :=
  match cs.dropWhile isGap with
  | '#' :: rest => rest.dropWhile isShown
  | rest => rest

/-- What follows the line break in front. -/
def lineBreak? : List Char → Option (List Char)
  | '\n' :: rest | '\r' :: '\n' :: rest => some rest
  | _ => none

/-- What follows a line with nothing more to say. -/
def lineEnd? (cs : List Char) : Option (List Char) :=
  match skipRest cs with
  | [] => some []
  | rest => lineBreak? rest

/-- What follows blanks, comments and line breaks, at most `fuel` of the last. -/
def skipLines : Nat → List Char → List Char
  | 0, cs => cs
  | fuel + 1, cs =>
    match lineBreak? (skipRest cs) with
    | some rest => skipLines fuel rest
    | none => skipRest cs

/-- What follows the blanks, comments and line breaks in front. -/
def skipGaps (cs : List Char) : List Char := skipLines cs.length cs

/-! ### Texts in quotes -/

/-- The letters that stand for a character after a backslash. -/
def escapes : List (Char × Char) :=
  [('b', '\x08'), ('t', '\t'), ('n', '\n'), ('f', '\x0c'), ('r', '\r'), ('e', '\x1b'), ('"', '"'),
    ('\\', '\\')]

/-- A character by so many hexadecimal digits of its code point. -/
def codedChar? (width : Nat) (cs : List Char) : Option (Char × List Char) :=
  let digits := cs.take width
  let n := basedNumber 16 digits
  if digits.length = width && digits.all isHexDigit && decide n.isValidChar then
    some (Char.ofNat n, cs.drop width)
  else none

/-- The character that an escape stands for, after its backslash. -/
def escape? : List Char → Option (Char × List Char)
  | 'x' :: cs => codedChar? 2 cs
  | 'u' :: cs => codedChar? 4 cs
  | 'U' :: cs => codedChar? 8 cs
  | c :: cs => (escapes.lookup c).map (·, cs)
  | [] => none

/-- What follows blanks and line breaks. -/
def skipBreaks : List Char → List Char
  | ' ' :: rest | '\t' :: rest | '\n' :: rest | '\r' :: '\n' :: rest => skipBreaks rest
  | rest => rest

/-- What goes on after a backslash at the end of a line. -/
def continued? (cs : List Char) : Option (List Char) :=
  (lineBreak? (cs.dropWhile isGap)).map skipBreaks

/-- The text of one line up to its closing quote, and what follows, in at most `fuel` steps.  Only
double quotes know escapes. -/
def lineBody (quote : Char) : Nat → List Char → Option (List Char × List Char)
  | 0, _ => none
  | _, [] => none
  | fuel + 1, c :: cs =>
    if c = quote then some ([], cs)
    else if c = '\\' && quote = '"' then do
      let (x, rest) ← escape? cs
      let (text, rest) ← lineBody quote fuel rest
      pure (x :: text, rest)
    else if isShown c then (lineBody quote fuel cs).map fun p => (c :: p.1, p.2)
    else none

/-- The text of several lines up to three closing quotes, and what follows, in at most `fuel` steps.
Up to two more quotes in front of the closing ones belong to the text. -/
def linesBody (quote : Char) : Nat → List Char → Option (List Char × List Char)
  | 0, _ => none
  | _, [] => none
  | fuel + 1, c :: cs =>
    let quotes := ((c :: cs).takeWhile (· = quote)).length
    let more (x : Char) (rest : List Char) :=
      (linesBody quote fuel rest).map fun p => (x :: p.1, p.2)
    if 3 ≤ quotes then some (List.replicate (min quotes 5 - 3) quote, (c :: cs).drop (min quotes 5))
    else if c = '\\' && quote = '"' then
      match continued? cs, escape? cs with
      | some rest, _ => linesBody quote fuel rest
      | none, some (x, rest) => more x rest
      | none, none => none
    else
      match lineBreak? (c :: cs) with
      | some rest => more '\n' rest
      | none => if isShown c then more c cs else none

/-- A text of one line in quotes. -/
def quotedLine? : List Char → Option (String × List Char)
  | c :: cs =>
    if c = '"' || c = '\'' then
      (lineBody c (cs.length + 1) cs).map fun p => (String.ofList p.1, p.2)
    else none
  | [] => none

/-- A text of several lines in quotes; a line break right after the opening ones does not count. -/
def quotedLines? : List Char → Option (String × List Char)
  | a :: b :: c :: cs =>
    if (a = '"' || a = '\'') && b = a && c = a then
      let body := (lineBreak? cs).getD cs
      (linesBody a (body.length + 1) body).map fun p => (String.ofList p.1, p.2)
    else none
  | _ => none

/-! ### Keys -/

/-- A character of a key without quotes. -/
def isKeyChar (c : Char) : Bool := c.isAlphanum || c = '_' || c = '-'

/-- One part of a key. -/
def keyPart? (cs : List Char) : Option (String × List Char) :=
  match quotedLine? cs with
  | some p => some p
  | none =>
    let word := cs.takeWhile isKeyChar
    if word.isEmpty then none else some (String.ofList word, cs.dropWhile isKeyChar)

/-- A key by its parts, with points between them, and what follows it; at most `limit` parts. -/
def keyParts? : Nat → List Char → Option (List String × List Char)
  | 0, _ => none
  | limit + 1, cs => do
    let (part, rest) ← keyPart? (cs.dropWhile isGap)
    match rest.dropWhile isGap with
    | '.' :: rest =>
      let (parts, rest) ← keyParts? limit rest
      pure (part :: parts, rest)
    | rest => pure ([part], rest)

/-- How deep brackets may be nested, and how many parts a key may have. -/
def nestingLimit : Nat := 80

/-- A key, and what follows it. -/
def key? (cs : List Char) : Option (List String × List Char) := keyParts? nestingLimit cs

/-! ### Values -/

/-- Reading a value from the front of a text. -/
abbrev ValueReader := List Char → Option (ManifestValue × List Char)

/-- What follows a list after its opening bracket, in at most `fuel` items. -/
def listEnd? (value : ValueReader) : Nat → List Char → Option (List Char)
  | 0, _ => none
  | fuel + 1, cs =>
    match skipGaps cs with
    | ']' :: rest => some rest
    | item => do
      let (_, rest) ← value item
      match skipGaps rest with
      | ',' :: rest => listEnd? value fuel rest
      | ']' :: rest => some rest
      | _ => none

/-- A key, an equals sign and a value: what assigns it, and what follows. -/
def assignment? (value : ValueReader) (cs : List Char) :
    Option ((ManifestTable → Option ManifestTable) × List Char) := do
  match ← key? cs with
  | (key :: keys, '=' :: rest) =>
    let (v, rest) ← value (rest.dropWhile isGap)
    pure (ManifestTable.assign v key keys, rest)
  | _ => none

/-- The table after an opening brace, in at most `fuel` entries. -/
def braceTable? (value : ValueReader) :
    Nat → ManifestTable → List Char → Option (ManifestTable × List Char)
  | 0, _, _ => none
  | fuel + 1, t, cs =>
    match skipGaps cs with
    | '}' :: rest => some (t, rest)
    | entry => do
      let (assign, rest) ← assignment? value entry
      let t ← assign t
      match skipGaps rest with
      | ',' :: rest => braceTable? value fuel t rest
      | '}' :: rest => some (t, rest)
      | _ => none

/-- A character of a word without quotes. -/
def isWordChar (c : Char) : Bool := !isGap c && !"\r\n,]\x7d#".toList.contains c

/-- A word without quotes.  A date may be followed by a blank and a time. -/
def word? (cs : List Char) : Option (ManifestValue × List Char) :=
  let word := cs.takeWhile isWordChar
  let rest := cs.dropWhile isWordChar
  let timed := afterDate? word = some [] && rest.head? = some ' ' &&
    (rest.drop 1).head?.any Char.isDigit
  if timed then
    (scalar? (word ++ ' ' :: (rest.drop 1).takeWhile isWordChar)).map
      (·, (rest.drop 1).dropWhile isWordChar)
  else (scalar? word).map (·, rest)

/-- A value.  Brackets may be nested `depth` deep. -/
def value? : Nat → ValueReader
  | depth, cs =>
    match quotedLines? cs with
    | some (s, rest) => some (.text s, rest)
    | none =>
      match quotedLine? cs with
      | some (s, rest) => some (.text s, rest)
      | none =>
        match depth, cs with
        | 0, '[' :: _ | 0, '{' :: _ => none
        | depth + 1, '[' :: rest =>
          (listEnd? (value? depth) (rest.length + 1) rest).map (.plain, ·)
        | depth + 1, '{' :: rest =>
          (braceTable? (value? depth) (rest.length + 1) [] rest).map fun p =>
            (.table .braces p.1, p.2)
        | _, cs => word? cs

/-! ### Documents -/

/-- The keys of a heading that ends with some brackets, and what follows its line. -/
def heading? (brackets : List Char) (cs : List Char) : Option (List String × List Char) := do
  let (keys, rest) ← key? cs
  if brackets.isPrefixOf rest then
    let rest ← lineEnd? (rest.drop brackets.length)
    pure (keys, rest)
  else none

/-- Opens the table that a heading names. -/
def openAt (opening : String → ManifestTable → Option ManifestTable) (keys : List String)
    (root : ManifestTable) : Option ManifestTable := do
  let key ← keys.getLast?
  ManifestTable.within (opening key) keys.dropLast root

/-- Reads the lines of a manifest under a heading into a table, at most `fuel` of them. -/
def readLines : Nat → List String → ManifestTable → List Char → Option ManifestTable
  | 0, _, _, _ => none
  | fuel + 1, heading, root, cs =>
    match skipGaps cs with
    | [] => some root
    | '[' :: '[' :: rest => do
      let (keys, rest) ← heading? [']', ']'] rest
      let root ← openAt ManifestTable.openElement keys root
      readLines fuel keys root rest
    | '[' :: rest => do
      let (keys, rest) ← heading? [']'] rest
      let root ← openAt ManifestTable.openTable keys root
      readLines fuel keys root rest
    | line => do
      let (assign, rest) ← assignment? (value? nestingLimit) line
      let root ← ManifestTable.within assign heading root
      let rest ← lineEnd? rest
      readLines fuel heading root rest

/-- The table that a text writes; a mark of byte order in front does not count. -/
def table? (s : String) : Option ManifestTable :=
  let cs := match s.toList with
    | '\ufeff' :: cs => cs
    | cs => cs
  readLines (cs.length + 1) [] [] cs

end ObjectAssembly.Manifest

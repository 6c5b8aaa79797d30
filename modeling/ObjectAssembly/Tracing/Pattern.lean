import ObjectAssembly.Text.Alphanumeric
import ObjectAssembly.Text.Blank

/-!
# Pattern — which texts are regular expressions

A field of a filter directive is matched by an expression that is compiled without Unicode tables:
classes of characters by property, letters in either case and word boundaries are only available
where Unicode is switched off.  Where it is off, an expression must still match whole characters.
An expression may be nested only so deep.

No braces are read here.  A directive's field ends at its first closing brace, so what an opening
brace starts is never complete.
-/

namespace ObjectAssembly.Tracing

open Text

/-- The flags in force: Unicode, letters in either case, and white space that counts for nothing. -/
structure PatternFlags where
  unicode : Bool
  fold : Bool
  spaced : Bool
  deriving DecidableEq, Repr

/-- The flags at the start. -/
def PatternFlags.standard : PatternFlags := ⟨true, false, false⟩

namespace PatternFlags

/-- A character stands for itself unless letters in either case would need tables. -/
def allowsLiterals (f : PatternFlags) : Bool := !(f.unicode && f.fold)

/-- Skips what does not count: white space, and comments up to the end of their lines. -/
def skip (f : PatternFlags) : List Char → List Char
  | [] => []
  | c :: cs => if f.spaced then go false (c :: cs) else c :: cs
where
  /-- Skips on, within a comment or outside. -/
  go : Bool → List Char → List Char
    | _, [] => []
    | true, c :: cs => go (c ≠ '\n') cs
    | false, c :: cs => if isBlank c then go false cs else if c = '#' then go true cs else c :: cs

/-- The character after a dash that tells whether a range goes on.  White space does not count, nor
does the mark of a comment, but the words of a comment do. -/
def afterDash? (f : PatternFlags) (cs : List Char) : Option Char :=
  if f.spaced then
    match cs.dropWhile isBlank with
    | '#' :: rest => (rest.dropWhile isBlank).head?
    | rest => rest.head?
  else cs.head?

end PatternFlags

/-! ### Nesting -/

/-- How deep an expression may be nested. -/
def patternNestingLimit : Nat := 250

/-- How deep parts are nested when they stand together, each of them that deep: a single part is
nested no deeper than before. -/
def jointNesting : List Nat → Nat
  | [] => 0
  | [depth] => depth
  | depths => depths.foldl max 0 + 1

/-! ### Escapes -/

/-- What an escape stands for. -/
inductive PatternEscape
  | literal (c : Char)
  | charClass (negated : Bool)
  | anchor
  | wordEdge
  deriving DecidableEq, Repr

/-- A punctuation mark or another character of ASCII that stands for itself after a backslash. -/
def isEscapable (c : Char) : Bool :=
  decide (c.toNat < 0x80) && !c.isAlphanum && decide (c ≠ '<') && decide (c ≠ '>')

/-- The value of a hexadecimal digit. -/
def hexDigit? (c : Char) : Option Nat :=
  if c.isDigit then some (c.toNat - '0'.toNat)
  else if 'a' ≤ c.toLower ∧ c.toLower ≤ 'f' then some (c.toLower.toNat - 'a'.toNat + 10)
  else none

/-- A character by the digits of its code, and what follows them. -/
def hexEscape (f : PatternFlags) : Nat → Nat → List Char → Option (PatternEscape × List Char)
  | 0, value, cs =>
    let c := Char.ofNat value
    if c.toNat = value then some (.literal c, cs) else none
  | digits + 1, value, cs =>
    match f.skip cs with
    | [] => none
    | c :: rest => (hexDigit? c).bind fun d => hexEscape f digits (value * 16 + d) rest

/-- A byte by two digits, which must be a whole character, and what follows it. -/
def byteEscape (f : PatternFlags) (cs : List Char) : Option (PatternEscape × List Char) :=
  match hexEscape f 2 0 cs with
  | some (.literal c, rest) =>
    if f.unicode || decide (c.toNat < 0x80) then some (.literal c, rest) else none
  | _ => none

/-- The escape after a backslash, and what follows it. -/
def readEscape (f : PatternFlags) : List Char → Option (PatternEscape × List Char)
  | [] => none
  | c :: cs =>
    if isEscapable c then some (.literal c, cs)
    else
      match c with
      | 'x' => byteEscape f cs
      | 'u' => hexEscape f 4 0 cs
      | 'U' => hexEscape f 8 0 cs
      | 'a' => some (.literal '\x07', cs)
      | 'f' => some (.literal '\x0c', cs)
      | 't' => some (.literal '\t', cs)
      | 'n' => some (.literal '\n', cs)
      | 'r' => some (.literal '\r', cs)
      | 'v' => some (.literal '\x0b', cs)
      | 'd' | 's' | 'w' => if f.unicode then none else some (.charClass false, cs)
      | 'D' | 'S' | 'W' => if f.unicode then none else some (.charClass true, cs)
      | 'A' | 'z' => some (.anchor, cs)
      | 'b' | 'B' | '<' | '>' => if f.unicode then none else some (.wordEdge, cs)
      | _ => none

/-! ### Classes in brackets -/

/-- The names of classes of ASCII. -/
def asciiClasses : List String :=
  ["alnum", "alpha", "ascii", "blank", "cntrl", "digit", "graph", "lower", "print", "punct",
    "space", "upper", "word", "xdigit"]

/-- What follows a named class after its opening bracket, if there is one, and whether it is
negated. -/
def afterAsciiClass? : List Char → Option (Bool × List Char)
  | ':' :: cs =>
    let negated := cs.head? = some '^'
    let cs := if negated then cs.drop 1 else cs
    match cs.dropWhile (· ≠ ':') with
    | ':' :: ']' :: rest =>
      if asciiClasses.contains (String.ofList (cs.takeWhile (· ≠ ':'))) then some (negated, rest)
      else none
    | _ => none
  | _ => none

/-- One item of a class: a character, or an escape. -/
def readClassItem (f : PatternFlags) (cs : List Char) : Option (PatternEscape × List Char) :=
  let item := match cs with
    | [] => none
    | '\\' :: cs => readEscape f cs
    | c :: cs => some (.literal c, cs)
  match item with
  | some (.literal c, _) => if f.unicode || decide (c.toNat < 0x80) then item else none
  | _ => item

/-- A class may be negated where that leaves whole characters. -/
def afterNegation? (f : PatternFlags) (cs : List Char) : Option (List Char) :=
  match f.skip cs with
  | '^' :: rest => if f.unicode then some (f.skip rest) else none
  | rest => some rest

/-- Dashes in front, and what follows them. -/
def leadingDashes (f : PatternFlags) : Nat → List Char → Nat × List Char
  | fuel + 1, '-' :: cs =>
    let (dashes, rest) := leadingDashes f fuel (f.skip cs)
    (dashes + 1, rest)
  | _, cs => (0, cs)

/-- A class that is being read: how deep it is nested before the last operator, if there is one, and
the items after it. -/
structure ClassReading where
  left : Option Nat
  items : List Nat

namespace ClassReading

/-- How deep what has been read is nested. -/
def depth (r : ClassReading) : Nat :=
  match r.left with
  | none => jointNesting r.items
  | some left => max left (jointNesting r.items) + 1

/-- An item has been read. -/
def item (r : ClassReading) (depth : Nat) : ClassReading := { r with items := depth :: r.items }

/-- An operator has been read. -/
def operator (r : ClassReading) : ClassReading := ⟨some r.depth, []⟩

/-- What has been read of a class after its opening bracket and its negation, and what follows:
dashes stand for themselves there, and so does a closing bracket if there are none. -/
def opening (f : PatternFlags) (cs : List Char) : Option (ClassReading × List Char) :=
  let (items, rest) := match leadingDashes f (cs.length + 1) cs with
    | (0, ']' :: rest) => (1, rest)
    | p => p
  if items = 0 ∨ f.allowsLiterals then some (⟨none, List.replicate items 0⟩, rest) else none

end ClassReading

/-- How deep a class is nested, and what follows it, read from within it: `outer` are the classes
that enclose it.  An item is only allowed where characters stand for themselves. -/
def afterClass? (f : PatternFlags) :
    Nat → ClassReading → List ClassReading → List Char → Option (Nat × List Char)
  | 0, _, _, _ => none
  | fuel + 1, r, outer, cs =>
    match f.skip cs with
    | [] => none
    | '[' :: rest =>
      match afterAsciiClass? rest with
      | some (negated, rest) =>
        if f.allowsLiterals && (f.unicode || !negated) then afterClass? f fuel (r.item 0) outer rest
        else none
      | none => do
        let (inner, rest) ← ClassReading.opening f (← afterNegation? f rest)
        afterClass? f fuel inner (r :: outer) rest
    | ']' :: rest =>
      match outer with
      | [] => some (r.depth + 1, rest)
      | enclosing :: outer => afterClass? f fuel (enclosing.item (r.depth + 1)) outer rest
    | '&' :: '&' :: rest | '-' :: '-' :: rest | '~' :: '~' :: rest =>
      afterClass? f fuel r.operator outer rest
    | cs =>
      if !f.allowsLiterals then none
      else
        match readClassItem f cs with
        | none => none
        | some (first, rest) =>
          match first, f.skip rest with
          | _, [] | .anchor, _ | .wordEdge, _ | .charClass true, _ => none
          | _, '-' :: more =>
            if f.afterDash? more = some ']' ∨ f.afterDash? more = some '-' then
              afterClass? f fuel (r.item 0) outer rest
            else
              match first, readClassItem f (f.skip more) with
              | .literal lo, some (.literal hi, rest) =>
                if lo ≤ hi then afterClass? f fuel (r.item 0) outer rest else none
              | _, _ => none
          | _, rest => afterClass? f fuel (r.item 0) outer rest

/-- How deep a class is nested, and what follows it, read from after its opening bracket. -/
def readClass? (f : PatternFlags) (cs : List Char) : Option (Nat × List Char) := do
  let (r, rest) ← ClassReading.opening f (← afterNegation? f cs)
  afterClass? f (rest.length + 1) r [] rest

/-! ### Groups -/

/-- The name of a group up to its closing mark, and what follows it. -/
def groupName? (cs : List Char) : Option (String × List Char) :=
  let name := cs.takeWhile (· ≠ '>')
  let later (c : Char) : Bool := "_.[]".toList.contains c || isAlphanumeric c
  match name, cs.dropWhile (· ≠ '>') with
  | c :: rest, _ :: after =>
    if (c = '_' || isAlphabetic c) && rest.all later then
      some (String.ofList name, after)
    else none
  | _, _ => none

/-- Flags up to a colon or a closing bracket: the flags then in force, the mark and what follows it.
No flag is given twice, and a minus sign switches some off. -/
def groupFlags? (seen : List Char) (on : Bool) (f : PatternFlags) :
    List Char → Option (PatternFlags × Char × List Char)
  | [] => none
  | c :: cs =>
    if c = ':' ∨ c = ')' then
      if seen.head? = some '-' ∨ (c = ')' ∧ seen = []) then none else some (f, c, cs)
    else if seen.contains c then none
    else
      match c with
      | '-' => groupFlags? (c :: seen) false f cs
      | 'u' => groupFlags? (c :: seen) on { f with unicode := on } cs
      | 'i' => groupFlags? (c :: seen) on { f with fold := on } cs
      | 'x' => groupFlags? (c :: seen) on { f with spaced := on } cs
      | 'm' | 's' | 'U' | 'R' => groupFlags? (c :: seen) on f cs
      | _ => none

/-! ### Expressions -/

/-- The alternatives that are being read, within a group or outside of all: how deep each of those
that have ended is nested, the parts of the last one, and whether its last part can be repeated. -/
structure Alternatives where
  ended : List Nat
  parts : List Nat
  repeatable : Bool

namespace Alternatives

/-- No alternative has ended, and the last one has no part. -/
def none : Alternatives := ⟨[], [], false⟩

/-- How deep the alternatives are nested. -/
def depth (a : Alternatives) : Nat := jointNesting (jointNesting a.parts :: a.ended)

/-- A part has been read that can be repeated. -/
def part (a : Alternatives) (depth : Nat) : Alternatives := ⟨a.ended, depth :: a.parts, true⟩

/-- A change of flags has been read. -/
def flags (a : Alternatives) : Alternatives := ⟨a.ended, 0 :: a.parts, false⟩

/-- A further alternative starts. -/
def next (a : Alternatives) : Alternatives := ⟨jointNesting a.parts :: a.ended, [], false⟩

/-- The last part is repeated. -/
def repeated? (a : Alternatives) : Option Alternatives :=
  match a.repeatable, a.parts with
  | true, depth :: parts => some ⟨a.ended, (depth + 1) :: parts, true⟩
  | _, _ => .none

end Alternatives

/-- The state of reading an expression: the flags and the alternatives outside of each open group,
those in force, and the names of groups. -/
structure PatternReading where
  outside : List (PatternFlags × Alternatives)
  flags : PatternFlags
  here : Alternatives
  names : List String

namespace PatternReading

/-- A part has been read that can be repeated. -/
def part (r : PatternReading) (depth : Nat) : PatternReading :=
  { r with here := r.here.part depth }

/-- A group opens, with these flags inside. -/
def enter (r : PatternReading) (inside : PatternFlags) : PatternReading :=
  { r with outside := (r.flags, r.here) :: r.outside, flags := inside, here := .none }

/-- A group ends, and is a part of what is outside of it. -/
def leave? (r : PatternReading) : Option PatternReading :=
  match r.outside with
  | [] => none
  | (flags, outer) :: outside =>
    some { r with outside, flags, here := outer.part (r.here.depth + 1) }

/-- Reads what follows an opening bracket. -/
def openGroup (r : PatternReading) (cs : List Char) : Option (PatternReading × List Char) :=
  let named (cs : List Char) : Option (PatternReading × List Char) :=
    (groupName? cs).bind fun (name, rest) =>
      if name ∈ r.names then none
      else some ({ r.enter r.flags with names := name :: r.names }, rest)
  match r.flags.skip cs with
  | '?' :: '=' :: _ | '?' :: '!' :: _ | '?' :: '<' :: '=' :: _ | '?' :: '<' :: '!' :: _ => none
  | '?' :: 'P' :: '<' :: rest | '?' :: '<' :: rest => named rest
  | '?' :: rest =>
    (groupFlags? [] true r.flags rest).map fun (flags, mark, rest) =>
      if mark = ':' then (r.enter flags, rest)
      else ({ r with flags, here := r.here.flags }, rest)
  | rest => some (r.enter r.flags, rest)

/-- Reads an expression, in at most `fuel` steps; the text ends outside of all groups. -/
def accepts : Nat → PatternReading → List Char → Bool
  | 0, _, _ => false
  | fuel + 1, r, cs =>
    match r.flags.skip cs with
    | [] => r.outside.isEmpty && decide (r.here.depth ≤ patternNestingLimit)
    | '(' :: rest =>
      match r.openGroup rest with
      | none => false
      | some (r, rest) => accepts fuel r rest
    | ')' :: rest =>
      match r.leave? with
      | none => false
      | some r => accepts fuel r rest
    | '|' :: rest => accepts fuel { r with here := r.here.next } rest
    | '*' :: rest | '+' :: rest | '?' :: rest =>
      match r.here.repeated? with
      | none => false
      | some here =>
        accepts fuel { r with here } (if rest.head? = some '?' then rest.drop 1 else rest)
    | '{' :: _ => false
    | '[' :: rest =>
      match readClass? r.flags rest with
      | none => false
      | some (depth, rest) => accepts fuel (r.part depth) rest
    | '.' :: rest => r.flags.unicode && accepts fuel (r.part 0) rest
    | '^' :: rest | '$' :: rest => accepts fuel (r.part 0) rest
    | '\\' :: rest =>
      match readEscape r.flags rest with
      | none | some (.charClass true, _) => false
      | some (.literal _, rest) => r.flags.allowsLiterals && accepts fuel (r.part 0) rest
      | some (_, rest) => accepts fuel (r.part 0) rest
    | _ :: rest => r.flags.allowsLiterals && accepts fuel (r.part 0) rest

end PatternReading

/-- A regular expression that the matcher of field values compiles. -/
def isPattern (cs : List Char) : Bool :=
  PatternReading.accepts (cs.length + 1) ⟨[], .standard, .none, []⟩ cs

end ObjectAssembly.Tracing

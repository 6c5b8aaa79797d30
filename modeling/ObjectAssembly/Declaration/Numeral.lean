import ObjectAssembly.Declaration.Token
import ObjectAssembly.Text.Hexadecimal
import ObjectAssembly.Text.Identifier

/-!
# Numeral — numbers without a sign

A letter after a leading zero tells the base of an integer; a point or an exponent makes a number a
float.  A word that follows the digits directly names a type.  `numeral?` tells which of the two a
text starts with and where it ends, `wholeNumber` what an integer denotes.
-/

namespace ObjectAssembly

open Text

/-- What follows an identifier in front, which may be missing. -/
def dropIdent : List Char → List Char
  | [] => []
  | c :: cs => if isIdentStart c then cs.dropWhile isIdentRest else c :: cs

/-- Digits, and underscores between them. -/
def isDigitMark (c : Char) : Bool := c.isDigit || c = '_'

/-! ### Floats -/

/-- What follows the exponent of a number, if its letter is followed by digits.  Underscores may
stand anywhere, and a sign before the digits. -/
def dropExponent? (cs : List Char) : Option (List Char) :=
  let cs := cs.dropWhile (· = '_')
  let digits := if cs.head? = some '+' ∨ cs.head? = some '-' then cs.drop 1 else cs
  if (digits.takeWhile isDigitMark).any Char.isDigit then some (digits.dropWhile isDigitMark)
  else none

/-- What follows the digits of a number with a point or an exponent.  After a point a letter alone
makes no exponent, but may start a word. -/
def dropFloat? (cs : List Char) : Option (List Char) :=
  match cs.dropWhile isDigitMark with
  | '.' :: rest =>
    if rest.head?.any fun c => c = '.' || isIdentStart c then none
    else
      match rest.dropWhile isDigitMark with
      | 'e' :: more => some ((dropExponent? more).getD ('e' :: more))
      | 'E' :: more => some ((dropExponent? more).getD ('E' :: more))
      | more => some more
  | 'e' :: rest | 'E' :: rest => dropExponent? rest
  | _ => none

/-! ### Integers -/

/-- The base of an integer, and its text from the first digit on. -/
def splitBase : List Char → Nat × List Char
  | '0' :: 'x' :: cs => (16, cs)
  | '0' :: 'o' :: cs => (8, cs)
  | '0' :: 'b' :: cs => (2, cs)
  | cs => (10, cs)

/-- A character is a digit in a base, large enough or not. -/
def isBaseDigit (base : Nat) (c : Char) : Bool := c.isDigit || (base = 16 && isHexDigit c)

/-- What follows the digits of an integer.  There is at least one, all are below the base, and a
decimal number does not start with an underscore. -/
def dropDigits? (cs : List Char) : Option (List Char) :=
  let (base, digits) := splitBase cs
  let run := digits.takeWhile fun c => isBaseDigit base c || c = '_'
  let proper := run.filter (· ≠ '_')
  if proper.isEmpty || proper.any (base ≤ hexValue ·) || (base = 10 && run.head? = some '_') then
    none
  else some (digits.drop run.length)

/-- The number that an integer denotes, and the word that follows its digits. -/
def wholeNumber (cs : List Char) : Nat × List Char :=
  let (base, digits) := splitBase cs
  let run := digits.takeWhile fun c => isBaseDigit base c || c = '_'
  (basedNumber base (run.filter (· ≠ '_')), digits.drop run.length)

/-! ### Numbers -/

/-- What follows a number after its digits: a word may follow, but nothing that could go on with
one. -/
def numeralEnd? (rest : List Char) : Option (List Char) :=
  if (dropIdent rest).head?.any isIdentRest then none else some (dropIdent rest)

/-- The number that a text starts with, and what follows it. -/
def numeral? (cs : List Char) : Option (Literal × List Char) :=
  if cs.head?.any Char.isDigit then
    match (dropFloat? cs).bind numeralEnd? with
    | some rest => some (.float, rest)
    | none => ((dropDigits? cs).bind numeralEnd?).map (.int, ·)
  else none

end ObjectAssembly

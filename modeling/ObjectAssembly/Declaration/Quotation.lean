import ObjectAssembly.Declaration.Token
import ObjectAssembly.Text.Hexadecimal

/-!
# Quotation — literals in quotes

A string may be written with escapes or raw, between marks that do not occur in it.  Strings of
bytes hold ASCII only, and strings for other languages no NUL.  `quotation?` tells what a text
starts with and where that ends.
-/

namespace ObjectAssembly

open Text

/-- What may stand between quotes. -/
structure QuotedForm where
  /-- Only ASCII characters. -/
  ascii : Bool
  /-- NUL may occur. -/
  nul : Bool
  /-- Escapes by two hexadecimal digits may go beyond ASCII. -/
  wide : Bool
  /-- Characters may be given by code point. -/
  points : Bool
  deriving DecidableEq, Repr

namespace QuotedForm

def text : QuotedForm := ⟨false, true, false, true⟩

def bytes : QuotedForm := ⟨true, true, true, false⟩

def plain : QuotedForm := ⟨false, false, true, true⟩

/-- The character may stand for itself. -/
def allows (f : QuotedForm) (c : Char) : Bool :=
  !(f.ascii && '\x7f' < c) && (f.nul || c ≠ '\x00')

/-! ### Escapes -/

/-- The number that hexadecimal digits before a closing brace write, and what follows.  There are
one to six digits, and underscores may follow the first. -/
def codePoint? (value count : Nat) : List Char → Option (Nat × List Char)
  | [] => none
  | c :: cs =>
    if isHexDigit c then
      if count = 6 then none else codePoint? (value * 16 + hexValue c) (count + 1) cs
    else if c = '_' ∧ 0 < count then codePoint? value count cs
    else if c = '}' ∧ 0 < count then some (value, cs)
    else none

/-- The character with a code point, if the form may hold it. -/
def point? (f : QuotedForm) (n : Nat) : Option Char :=
  if n.isValidChar ∧ (f.nul ∨ n ≠ 0) then some (Char.ofNat n) else none

/-- The character that an escape after its backslash stands for, and what follows. -/
def escape? (f : QuotedForm) : List Char → Option (Char × List Char)
  | 'n' :: cs => some ('\n', cs)
  | 'r' :: cs => some ('\r', cs)
  | 't' :: cs => some ('\t', cs)
  | '0' :: cs => if f.nul then some ('\x00', cs) else none
  | 'x' :: a :: b :: cs =>
    if isHexDigit a && isHexDigit b && (f.wide || a.isDigit && a < '8') then
      (f.point? (basedNumber 16 [a, b])).map (·, cs)
    else none
  | 'u' :: '{' :: cs =>
    if f.points then
      match codePoint? 0 0 cs with
      | some (n, rest) => (f.point? n).map (·, rest)
      | none => none
    else none
  | c :: cs => if c = '\\' ∨ c = '\'' ∨ c = '"' then some (c, cs) else none
  | [] => none

/-- What follows the white space that a backslash at the end of a line skips. -/
def afterBreak? : List Char → Option (List Char)
  | ' ' :: cs | '\t' :: cs | '\n' :: cs => afterBreak? cs
  | '\r' :: '\n' :: cs => afterBreak? cs
  | '\r' :: _ => none
  | [] => none
  | cs => some cs

/-! ### Bodies -/

/-- The text up to the closing quote, and what follows; at most `fuel` steps.  A line break counts
as one character however it is written. -/
def body? (f : QuotedForm) : Nat → List Char → Option (List Char × List Char)
  | 0, _ => none
  | _, [] => none
  | _, '"' :: cs => some ([], cs)
  | fuel + 1, '\r' :: '\n' :: cs => (f.body? fuel cs).map fun p => ('\n' :: p.1, p.2)
  | _, '\r' :: _ => none
  | fuel + 1, '\\' :: c :: cs =>
    if c = '\n' ∨ c = '\r' then
      match afterBreak? (c :: cs) with
      | some rest => f.body? fuel rest
      | none => none
    else
      match f.escape? (c :: cs) with
      | some (x, rest) => (f.body? fuel rest).map fun p => (x :: p.1, p.2)
      | none => none
  | _, '\\' :: [] => none
  | fuel + 1, c :: cs =>
    if f.allows c then (f.body? fuel cs).map fun p => (c :: p.1, p.2) else none

/-- The text of a raw literal up to the closing quote and marks, and what follows. -/
def rawBody? (f : QuotedForm) (closing : List Char) : List Char → Option (List Char × List Char)
  | [] => none
  | c :: cs =>
    if closing.isPrefixOf (c :: cs) then some ([], (c :: cs).drop closing.length)
    else if c = '\r' ∧ cs.head? ≠ some '\n' then none
    else if f.allows c then (f.rawBody? closing cs).map fun p => (c :: p.1, p.2)
    else none

/-- The text of a raw literal from its marks on, and what follows.  There are at most 255 marks. -/
def marked? (f : QuotedForm) (cs : List Char) : Option (List Char × List Char) :=
  let marks := cs.takeWhile (· = '#')
  match cs.dropWhile (· = '#') with
  | '"' :: rest => if marks.length ≤ 255 then f.rawBody? ('"' :: marks) rest else none
  | _ => none

/-- What follows one character and its closing quote. -/
def single? (f : QuotedForm) : List Char → Option (List Char)
  | '\\' :: cs =>
    match f.escape? cs with
    | some (_, '\'' :: rest) => some rest
    | _ => none
  | c :: '\'' :: rest => if f.allows c then some rest else none
  | _ => none

end QuotedForm

/-- The literal in quotes that a text starts with, and what follows its closing quote. -/
def quotation? (cs : List Char) : Option (Literal × List Char) :=
  let text (p : List Char × List Char) := (Literal.text (String.ofList p.1), p.2)
  let of (l : Literal) (p : List Char × List Char) := (l, p.2)
  let fuel := cs.length
  match cs with
  | '"' :: rest => (QuotedForm.text.body? fuel rest).map text
  | 'r' :: rest => (QuotedForm.text.marked? rest).map text
  | 'b' :: '"' :: rest => (QuotedForm.bytes.body? fuel rest).map (of .byteText)
  | 'b' :: 'r' :: rest => (QuotedForm.bytes.marked? rest).map (of .byteText)
  | 'c' :: '"' :: rest => (QuotedForm.plain.body? fuel rest).map (of .plainText)
  | 'c' :: 'r' :: rest => (QuotedForm.plain.marked? rest).map (of .plainText)
  | 'b' :: '\'' :: rest => (QuotedForm.bytes.single? rest).map (.byte, ·)
  | '\'' :: rest => (QuotedForm.text.single? rest).map (.char, ·)
  | _ => none

end ObjectAssembly

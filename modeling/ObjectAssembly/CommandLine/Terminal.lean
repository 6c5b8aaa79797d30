/-!
# Terminal — texts with styles, and what is left of them without a terminal

A terminal takes some characters as instructions: control characters, and sequences that an escape
character starts.  `visible` leaves these out of a text and keeps line breaks, tabs and blanks.  A
sequence that a text leaves unfinished is finished by what follows it, so styles that surround a
word from outside bring the terminal back to plain text.
-/

namespace ObjectAssembly.CommandLine

/-- What a terminal is reading. -/
inductive TerminalState
  | text
  | escape
  | escapeMarks
  | control
  | controlNumbers
  | controlMarks
  | controlSkipped
  | device
  | deviceNumbers
  | deviceMarks
  | deviceText
  | deviceSkipped
  | title
  | message
  deriving DecidableEq, Repr

namespace TerminalState

/-- A control character that moves on text and shows as white space. -/
def isSpacing (c : Char) : Bool :=
  c = ' ' || c = '\t' || c = '\n' || c = '\x0c' || c = '\r'

/-- The code lies between two bounds. -/
def within (c : Char) (lo hi : Nat) : Bool := decide (lo ≤ c.toNat) && decide (c.toNat ≤ hi)

/-- The state after a character, without regard to whether the character shows. -/
def next (s : TerminalState) (c : Char) : TerminalState :=
  if c = '\x18' ∨ c = '\x1a' then text
  else if c = '\x1b' then escape
  else
    let marks := within c 0x20 0x2f
    let numbers := within c 0x30 0x3b
    let marked := within c 0x3c 0x3f
    let final := within c 0x40 0x7e
    let stringEnd := (String.utf8EncodeChar c).contains 0x9c
    match s with
    | text => text
    | escape =>
      if marks then escapeMarks
      else if c = 'P' then device
      else if c = '[' then control
      else if c = ']' then title
      else if c = 'X' ∨ c = '^' ∨ c = '_' then message
      else if within c 0x30 0x7e then text
      else escape
    | escapeMarks => if within c 0x30 0x7e then text else escapeMarks
    | control =>
      if marks then controlMarks
      else if numbers || marked then controlNumbers
      else if final then text
      else control
    | controlNumbers =>
      if marks then controlMarks
      else if marked then controlSkipped
      else if final then text
      else controlNumbers
    | controlMarks =>
      if numbers || marked then controlSkipped
      else if final then text
      else controlMarks
    | controlSkipped => if final then text else controlSkipped
    | device =>
      if marks then deviceMarks
      else if numbers || marked then deviceNumbers
      else if final then deviceText
      else device
    | deviceNumbers =>
      if marks then deviceMarks
      else if marked then deviceSkipped
      else if final then deviceText
      else deviceNumbers
    | deviceMarks =>
      if numbers || marked then deviceSkipped
      else if final then deviceText
      else deviceMarks
    | deviceText => if stringEnd then text else deviceText
    | deviceSkipped => if stringEnd then text else deviceSkipped
    | title => if c = '\x07' then text else title
    | message => if stringEnd then text else message

/-- A control character keeps its effect here. -/
def obeys : TerminalState → Bool
  | device | deviceNumbers | deviceMarks | deviceText | deviceSkipped | title | message => false
  | _ => true

/-- The character shows: as itself in plain text, as white space wherever controls are obeyed. -/
def shows (s : TerminalState) (c : Char) : Bool :=
  if s = text then isSpacing c || (decide (0x20 ≤ c.toNat) && decide (c ≠ '\x7f'))
  else s.obeys && isSpacing c && decide (c ≠ ' ')

end TerminalState

/-- The characters that show.  In a run of shown characters all that shows in plain text is shown,
and only a character beyond ASCII brings the state back to plain text. -/
def visibleFrom (s : TerminalState) (run : Bool) : List Char → List Char
  | [] => []
  | c :: cs =>
    if run && TerminalState.text.shows c then
      c :: visibleFrom (if c.toNat < 0x80 then s else .text) true cs
    else if !run && s.shows c then c :: visibleFrom (s.next c) true cs
    else visibleFrom (s.next c) false cs

/-- A text without instructions to a terminal. -/
def visible (s : String) : String := String.ofList (visibleFrom .text false s.toList)

/-- A word that stands out on a terminal. -/
def emphasized (s : String) : String := "\x1b[33m" ++ s ++ "\x1b[0m"

end ObjectAssembly.CommandLine

import ObjectAssembly.Number.Binary
import ObjectAssembly.Number.Integer
import ObjectAssembly.Text.Cut
import ObjectAssembly.Tracing.Pattern

/-!
# Directive — which texts are lists of filter directives

A list is cut at commas and its empty pieces are skipped.  A piece is a target, a span in brackets
or both, and may end with a level after an equals sign; a span may have fields in braces.  Only
validity is decided here: what a directive selects is up to the subscriber.

A piece is read without the white space around it, but its parts are cut out of the whole piece, by
their byte positions in the part that is read.  So white space in front shifts the parts, and may
bring a cut into the middle of a character: the piece is then torn, which is worse than invalid.
-/

namespace ObjectAssembly.Tracing

open Text

/-- Why a text is no list of directives. -/
inductive DirectiveError
  | invalid
  | torn (at' : TornChar)
  deriving DecidableEq, Repr

/-- A level of a directive: a name in any case, or a number up to five. -/
def isLevel (cs : List Char) : Bool :=
  match Number.IntFormat.u64.parseChars cs with
  | .ok n => decide (n ≤ 5)
  | .error _ =>
    (["off", "error", "warn", "info", "debug", "trace"].map String.toList).contains
      (cs.map Char.toLower)

/-- A value that a field is compared with: a number, or a pattern; truth values are patterns too. -/
def isFieldValue (cs : List Char) : Bool :=
  (Number.FloatFormat.binary64.parseChars cs).toBool || isPattern cs

/-- A field: a name, and the value between its first two equals signs if there is one. -/
def isField (cs : List Char) : Bool :=
  !cs.isEmpty &&
    match cs.dropWhile (· ≠ '=') with
    | [] => true
    | _ :: rest => isFieldValue (rest.takeWhile (· ≠ '='))

/-- A character that a target may start with. -/
def isTargetStart (c : Char) : Bool := c = '-' || c = ':' || c = '_' || isAlphanumeric c

/-- What is being read of a directive, with the position at which it started. -/
inductive DirectivePart
  | start
  | target (from' : Nat)
  | span (from' : Nat)
  | field (from' : Nat)
  | fields
  | closed
  | level (from' : Nat)
  deriving DecidableEq, Repr

/-- The part of a piece between two positions. -/
def pieceCut (piece : List Char) (start stop : Nat) : Except DirectiveError (List Char) :=
  (cut piece start stop).mapError .torn

/-- What is read next after a character at a position. -/
def DirectivePart.next (piece : List Char) (p : DirectivePart) (i : Nat) (c : Char) :
    Except DirectiveError DirectivePart :=
  match p with
  | start => if c = '[' then .ok (span (i + 1)) else if isTargetStart c then .ok (target i)
    else .error .invalid
  | target a =>
    if c = '=' then (pieceCut piece a i).map fun _ => level (i + 1)
    else if c = '[' then (pieceCut piece a i).map fun _ => span (i + 1)
    else .ok p
  | span a =>
    if c = ']' then (pieceCut piece a i).map fun _ => closed
    else if c = '{' then (pieceCut piece a i).map fun _ => field (i + 1)
    else .ok p
  | field a =>
    if c = '}' then
      match pieceCut piece a i with
      | .error e => .error e
      | .ok cs => if isField cs then .ok fields else .error .invalid
    else .ok p
  | fields => if c = ']' then .ok closed else .error .invalid
  | closed => if c = '=' then .ok (level (i + 1)) else .error .invalid
  | level _ => .ok p

/-- A directive may end here. -/
def DirectivePart.finish (piece : List Char) : DirectivePart → Except DirectiveError Unit
  | target a => (pieceCut piece a (byteLength piece)).map fun _ => ()
  | level a =>
    match pieceCut piece a (byteLength piece) with
    | .error e => .error e
    | .ok cs => if cs.isEmpty || isLevel cs then .ok () else .error .invalid
  | closed => .ok ()
  | start | span _ | field _ | fields => .error .invalid

/-- Reads the characters of a piece from a position on. -/
def readDirective (piece : List Char) :
    DirectivePart → Nat → List Char → Except DirectiveError Unit
  | p, _, [] => p.finish piece
  | p, i, c :: cs =>
    match p.next piece i c with
    | .error e => .error e
    | .ok p => readDirective piece p (i + c.utf8Size) cs

/-- Checks one directive. -/
def checkDirective (piece : List Char) : Except DirectiveError Unit :=
  readDirective piece .start 0 (trimBlanks (String.ofList piece)).toList

/-- The pieces of a text between its commas. -/
def pieces : List Char → List (List Char)
  | [] => [[]]
  | c :: cs =>
    if c = ',' then [] :: pieces cs
    else
      match pieces cs with
      | [] => [[c]]
      | p :: ps => (c :: p) :: ps

/-- Checks directives in order. -/
def checkDirectives : List (List Char) → Except DirectiveError Unit
  | [] => .ok ()
  | p :: ps =>
    match checkDirective p with
    | .error e => .error e
    | .ok () => checkDirectives ps

/-- Checks a list of directives; an empty one is valid. -/
def checkFilter (s : String) : Except DirectiveError Unit :=
  checkDirectives ((pieces s.toList).filter (!·.isEmpty))

end ObjectAssembly.Tracing

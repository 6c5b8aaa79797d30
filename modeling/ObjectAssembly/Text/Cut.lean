import ObjectAssembly.Text.Quoted

/-!
# Cut — parts of a text by byte positions

A position counts the bytes before it in UTF-8.  `cut` takes the part between two positions; a
position inside a character cuts nothing, and is reported with the character that it falls in.
-/

namespace ObjectAssembly.Text

/-- A position inside a character, as the start or the end of a part. -/
structure TornChar where
  atStart : Bool
  index : Nat
  char : Char
  position : Nat
  deriving DecidableEq, Repr

/-- The complaint about the position. -/
def TornChar.message (t : TornChar) : String :=
  (if t.atStart then "start" else "end") ++ s!" byte index {t.index} is not a char boundary; " ++
    "it is inside '" ++ String.ofList (quotedChar t.char) ++
      s!"' (bytes {t.position}..{t.position + t.char.utf8Size} of string)"

/-- The character that a position falls inside of, with its own position, in a text that stands at
`position`. -/
def straddled? (index : Nat) : Nat → List Char → Option (Char × Nat)
  | _, [] => none
  | position, c :: cs =>
    if index ≤ position then none
    else if index < position + c.utf8Size then some (c, position)
    else straddled? index (position + c.utf8Size) cs

/-- What follows the first `n` bytes. -/
def dropBytes : Nat → List Char → List Char
  | _, [] => []
  | n, c :: cs => if n = 0 then c :: cs else dropBytes (n - c.utf8Size) cs

/-- The first `n` bytes. -/
def takeBytes : Nat → List Char → List Char
  | _, [] => []
  | n, c :: cs => if n = 0 then [] else c :: takeBytes (n - c.utf8Size) cs

/-- The number of bytes of a text. -/
def byteLength : List Char → Nat
  | [] => 0
  | c :: cs => c.utf8Size + byteLength cs

/-- The part of a text between two positions. -/
def cut (cs : List Char) (start stop : Nat) : Except TornChar (List Char) :=
  match straddled? start 0 cs, straddled? stop 0 cs with
  | some (c, position), _ => .error ⟨true, start, c, position⟩
  | none, some (c, position) => .error ⟨false, stop, c, position⟩
  | none, none => .ok (takeBytes (stop - start) (dropBytes start cs))

end ObjectAssembly.Text

/-!
# Integer — reading decimal integers into a range

`IntFormat.parse` reads an optional sign and digits from left to right.  Each character is first
required to be a digit; then the value so far must stay in the format's range.  So the first
offending character decides which of the two complaints is made.
-/

namespace ObjectAssembly.Number

/-- How many bit patterns a width has: two to its power. -/
def patterns (bits : Nat) : Nat := Nat.pow 2 bits

/-- A fixed-width integer type. -/
structure IntFormat where
  signed : Bool
  bits : Nat
  deriving DecidableEq, Repr

namespace IntFormat

def i8 : IntFormat := ⟨true, 8⟩
def i16 : IntFormat := ⟨true, 16⟩
def i32 : IntFormat := ⟨true, 32⟩
def i64 : IntFormat := ⟨true, 64⟩
def u8 : IntFormat := ⟨false, 8⟩
def u16 : IntFormat := ⟨false, 16⟩
def u32 : IntFormat := ⟨false, 32⟩
def u64 : IntFormat := ⟨false, 64⟩

/-- The least value. -/
def least (f : IntFormat) : Int := if f.signed then -(patterns (f.bits - 1)) else 0

/-- The greatest value. -/
def greatest (f : IntFormat) : Int := patterns (if f.signed then f.bits - 1 else f.bits) - 1

end IntFormat

/-- Why a text is no integer of a format. -/
inductive IntError
  | empty
  | invalidDigit
  | tooLarge
  | tooSmall
  deriving DecidableEq, Repr

def IntError.message : IntError → String
  | .empty => "cannot parse integer from empty string"
  | .invalidDigit => "invalid digit found in string"
  | .tooLarge => "number too large to fit in target type"
  | .tooSmall => "number too small to fit in target type"

/-- The value of an ASCII digit. -/
def digit? (c : Char) : Option Nat :=
  if c.isDigit then some (c.toNat - '0'.toNat) else none

namespace IntFormat

/-- Reads digits onto `acc`, counting away from zero on the side that `negative` tells. -/
def accumulate (f : IntFormat) (negative : Bool) : Int → List Char → Except IntError Int
  | acc, [] => .ok acc
  | acc, c :: cs =>
    match digit? c with
    | none => .error .invalidDigit
    | some d =>
      let next := if negative then acc * 10 - d else acc * 10 + d
      if next < f.least then .error .tooSmall
      else if f.greatest < next then .error .tooLarge
      else f.accumulate negative next cs

/-- Reads digits, at least one. -/
def digits (f : IntFormat) (negative : Bool) : List Char → Except IntError Int
  | [] => .error .invalidDigit
  | cs => f.accumulate negative 0 cs

/-- Reads a signed or unsigned text; only signed formats know the minus sign. -/
def parseChars (f : IntFormat) : List Char → Except IntError Int
  | [] => .error .empty
  | '+' :: cs => f.digits false cs
  | '-' :: cs => if f.signed then f.digits true cs else .error .invalidDigit
  | cs => f.digits false cs

/-- Reads a text as an integer of the format. -/
def parse (f : IntFormat) (s : String) : Except IntError Int := f.parseChars s.toList

end IntFormat

end ObjectAssembly.Number

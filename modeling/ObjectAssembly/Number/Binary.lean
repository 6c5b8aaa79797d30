import ObjectAssembly.Number.Integer

/-!
# Binary — reading decimal numbers into binary floating point

A text is read as an exact decimal, an infinity or a NaN, and a decimal is then rounded once, to the
nearest number of the format with ties to the even significand.  All arithmetic is exact and on
natural numbers; the result is the bit pattern.
-/

namespace ObjectAssembly.Number

/-- A binary interchange format: the widths of its two fields. -/
structure FloatFormat where
  fractionBits : Nat
  exponentBits : Nat
  deriving DecidableEq, Repr

/-- Why a text is no number. -/
inductive FloatError
  | empty
  | invalid
  deriving DecidableEq, Repr

def FloatError.message : FloatError → String
  | .empty => "cannot parse float from empty string"
  | .invalid => "invalid float literal"

/-- What a numeral stands for, sign apart: `digits · 10 ^ exponent`, or one of the two words. -/
inductive Magnitude
  | decimal (digits : Nat) (exponent : Int)
  | infinity
  | nan
  deriving DecidableEq, Repr

/-! ### The texts -/

/-- The number that a run of decimal digits writes. -/
def digitsValue (cs : List Char) : Nat :=
  cs.foldl (fun n c => n * 10 + (c.toNat - '0'.toNat)) 0

/-- The longest run of digits in front, and what follows it. -/
def splitDigits (cs : List Char) : List Char × List Char :=
  (cs.takeWhile Char.isDigit, cs.dropWhile Char.isDigit)

/-- An exponent's digits; the ones that follow a value of 65536 or more no longer count. -/
def exponentValue (cs : List Char) : Nat :=
  cs.foldl (fun n c => if n < 65536 then n * 10 + (c.toNat - '0'.toNat) else n) 0

/-- The exponent part: nothing, or a letter, an optional sign and digits to the end. -/
def parseExponent : List Char → Option Int
  | [] => some 0
  | c :: cs =>
    if c = 'e' ∨ c = 'E' then
      let (negative, rest) : Bool × List Char :=
        match cs with
        | '+' :: r => (false, r)
        | '-' :: r => (true, r)
        | r => (false, r)
      let (digits, tail) := splitDigits rest
      if digits.isEmpty || !tail.isEmpty then none
      else some (if negative then -(exponentValue digits : Int) else exponentValue digits)
    else none

/-- Digits with at most one point and at least one digit, then the exponent part. -/
def parseDecimal (cs : List Char) : Option Magnitude :=
  let (whole, rest) := splitDigits cs
  let (fraction, rest) : List Char × List Char :=
    match rest with
    | '.' :: r => splitDigits r
    | r => ([], r)
  if whole.isEmpty && fraction.isEmpty then none
  else (parseExponent rest).map fun e =>
    .decimal (digitsValue (whole ++ fraction)) (e - fraction.length)

/-- A decimal numeral or, in any case, one of the words. -/
def parseMagnitude (cs : List Char) : Option Magnitude :=
  let word := cs.map Char.toLower
  if word = "inf".toList ∨ word = "infinity".toList then some .infinity
  else if word = "nan".toList then some .nan
  else parseDecimal cs

/-! ### Rounding -/

/-- The quotient rounded to the nearest integer, a tie to the even one. -/
def roundHalfEven (n d : Nat) : Nat :=
  if 2 * (n % d) < d then n / d
  else if d < 2 * (n % d) then n / d + 1
  else n / d + (n / d) % 2

namespace FloatFormat

def binary32 : FloatFormat := ⟨23, 8⟩
def binary64 : FloatFormat := ⟨52, 11⟩

variable (f : FloatFormat)

/-- The bit pattern of positive infinity. -/
def infinityBits : Nat := (patterns f.exponentBits - 1) * patterns f.fractionBits

/-- The bit pattern of the NaN that the word stands for. -/
def nanBits : Nat := f.infinityBits + patterns (f.fractionBits - 1)

/-- The sign bit. -/
def signBit : Nat := patterns (f.fractionBits + f.exponentBits)

/-- The binary exponent of the last place of the smallest numbers. -/
def leastExponent : Int := 2 - patterns (f.exponentBits - 1) - f.fractionBits

/-- The bit pattern nearest to `num / den`.  The last place is put where the quotient fills the
significand, but never below the smallest one; a carry into the exponent field comes by itself. -/
def roundRatio (num den : Nat) : Nat :=
  let guess : Int := (num.log2 : Int) - den.log2
  let top := if den * patterns guess.toNat ≤ num * patterns (-guess).toNat then guess else guess - 1
  let place := max f.leastExponent (top - f.fractionBits)
  let significand := roundHalfEven (num * patterns (-place).toNat) (den * patterns place.toNat)
  let bits :=
    if significand < patterns f.fractionBits then significand
    else (place - f.leastExponent).toNat * patterns f.fractionBits + significand
  min bits f.infinityBits

/-- The bit pattern of a magnitude.  Decimals of more than 400 places to either side of the point
are beyond every number of the format, and are told apart by their length alone. -/
def magnitudeBits : Magnitude → Nat
  | .infinity => f.infinityBits
  | .nan => f.nanBits
  | .decimal digits exponent =>
    let places : Int := (Nat.toDigits 10 digits).length + exponent
    if digits = 0 ∨ places < -400 then 0
    else if 400 < places then f.infinityBits
    else f.roundRatio (digits * Nat.pow 10 exponent.toNat) (Nat.pow 10 (-exponent).toNat)

/-- A NaN: the exponent field is full and the fraction is not zero. -/
def isNaN (bits : Nat) : Bool := f.infinityBits < bits % f.signBit

def parseChars : List Char → Except FloatError Nat
  | [] => .error .empty
  | c :: cs =>
    let magnitude :=
      if c = '+' ∨ c = '-' then parseMagnitude cs else parseMagnitude (c :: cs)
    match magnitude with
    | none => .error .invalid
    | some m => .ok (f.magnitudeBits m + if c = '-' then f.signBit else 0)

/-- Reads a text as the bit pattern of a number of the format. -/
def parse (s : String) : Except FloatError Nat := f.parseChars s.toList

end FloatFormat

end ObjectAssembly.Number

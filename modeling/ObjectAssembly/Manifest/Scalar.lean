import ObjectAssembly.Manifest.Table
import ObjectAssembly.Number.Binary
import ObjectAssembly.Number.Integer
import ObjectAssembly.Text.Hexadecimal

/-!
# Scalar — truth values, numbers and dates of a manifest

The scalars that are written as one word without quotes.  Numbers may have single underscores
between digits and must fit: integers in 64 bits, and floating-point numbers without becoming
infinite.  Dates and times must exist.
-/

namespace ObjectAssembly.Manifest

open Text Number

/-! ### Numbers -/

/-- Digits, with single underscores between them. -/
def isDigitRun (digit : Char → Bool) : List Char → Bool
  | [] => false
  | [c] => digit c
  | c :: '_' :: rest => digit c && isDigitRun digit rest
  | c :: rest => digit c && isDigitRun digit rest

/-- A decimal number without a sign and without leading zeros. -/
def isDecimal (cs : List Char) : Bool :=
  isDigitRun Char.isDigit cs && (cs.head? ≠ some '0' || cs.length = 1)

/-- A number without the sign in front. -/
def dropSign : List Char → List Char
  | '+' :: cs | '-' :: cs => cs
  | cs => cs

/-- A number without underscores. -/
def dropUnderscores (cs : List Char) : List Char := cs.filter (· ≠ '_')

/-- Digits of a base that write a number of 63 bits. -/
def isBased (base : Nat) (digit : Char → Bool) (cs : List Char) : Bool :=
  isDigitRun digit cs &&
    decide ((basedNumber base (dropUnderscores cs) : Int) ≤ IntFormat.i64.greatest)

/-- An integer: a decimal one, or digits after the mark of another base. -/
def isInteger : List Char → Bool
  | '0' :: 'x' :: cs => isBased 16 isHexDigit cs
  | '0' :: 'o' :: cs => isBased 8 (fun c => decide ('0' ≤ c ∧ c ≤ '7')) cs
  | '0' :: 'b' :: cs => isBased 2 (fun c => c = '0' || c = '1') cs
  | cs => isDecimal (dropSign cs) && (IntFormat.i64.parseChars (dropUnderscores cs)).toBool

/-- An exponent after its letter. -/
def isExponent (cs : List Char) : Bool := isDigitRun Char.isDigit (dropSign cs)

/-- The letter of an exponent. -/
def isExponentMark (c : Char) : Bool := c = 'e' || c = 'E'

/-- What may follow the digits before the point of a number that is no integer. -/
def isFraction : List Char → Bool
  | '.' :: cs =>
    let digits := cs.takeWhile (!isExponentMark ·)
    let rest := cs.dropWhile (!isExponentMark ·)
    isDigitRun Char.isDigit digits && (rest.isEmpty || isExponent (rest.drop 1))
  | c :: cs => isExponentMark c && isExponent cs
  | [] => false

/-- A text writes a number that does not round to infinity. -/
def isFinite (cs : List Char) : Bool :=
  match FloatFormat.binary64.parseChars cs with
  | .ok bits => bits % FloatFormat.binary64.signBit ≠ FloatFormat.binary64.infinityBits
  | .error _ => false

/-- A floating-point number. -/
def isFloat (cs : List Char) : Bool :=
  let digits := dropSign cs
  let whole (c : Char) : Bool := c.isDigit || c = '_'
  digits = "inf".toList || digits = "nan".toList ||
    (isDecimal (digits.takeWhile whole) && isFraction (digits.dropWhile whole) &&
      isFinite (dropUnderscores cs))

/-! ### Dates and times -/

/-- A number of so many digits in front, and what follows it. -/
def fixedNumber? (width : Nat) (cs : List Char) : Option (Nat × List Char) :=
  let digits := cs.take width
  if digits.length = width && digits.all Char.isDigit then some (digitsValue digits, cs.drop width)
  else none

/-- How many days a month has. -/
def daysIn (year month : Nat) : Nat :=
  let leap := (year % 4 = 0 ∧ year % 100 ≠ 0) ∨ year % 400 = 0
  if month = 2 then if leap then 29 else 28
  else if month = 4 ∨ month = 6 ∨ month = 9 ∨ month = 11 then 30 else 31

/-- What follows a date in front. -/
def afterDate? (cs : List Char) : Option (List Char) :=
  match fixedNumber? 4 cs with
  | some (year, '-' :: cs) =>
    match fixedNumber? 2 cs with
    | some (month, '-' :: cs) =>
      match fixedNumber? 2 cs with
      | some (day, cs) =>
        if 1 ≤ month ∧ month ≤ 12 ∧ 1 ≤ day ∧ day ≤ daysIn year month then some cs else none
      | none => none
    | _ => none
  | _ => none

/-- What follows hours and minutes in front. -/
def afterMinutes? (cs : List Char) : Option (List Char) :=
  match fixedNumber? 2 cs with
  | some (hours, ':' :: cs) =>
    match fixedNumber? 2 cs with
    | some (minutes, cs) => if hours < 24 ∧ minutes < 60 then some cs else none
    | none => none
  | _ => none

/-- What follows a time in front.  Seconds may be missing, may have a fraction and may be leap
seconds. -/
def afterTime? (cs : List Char) : Option (List Char) :=
  match afterMinutes? cs with
  | some (':' :: cs) =>
    match fixedNumber? 2 cs with
    | some (seconds, '.' :: cs) =>
      if seconds ≤ 60 ∧ cs.head?.any Char.isDigit then some (cs.dropWhile Char.isDigit) else none
    | some (seconds, cs) => if seconds ≤ 60 then some cs else none
    | none => none
  | rest => rest

/-- The distance to world time, or nothing. -/
def isOffset : List Char → Bool
  | [] | ['Z'] | ['z'] => true
  | '+' :: cs | '-' :: cs => afterMinutes? cs = some []
  | _ => false

/-- A time, a date, or both with a mark between them. -/
def isMoment (cs : List Char) : Bool :=
  match afterTime? cs, afterDate? cs with
  | some [], _ | _, some [] => true
  | _, some (c :: rest) =>
    (c = 'T' || c = 't' || c = ' ') && (afterTime? rest).any isOffset
  | _, none => false

/-! ### Words -/

/-- The value of a word without quotes. -/
def scalar? (cs : List Char) : Option ManifestValue :=
  if cs = "true".toList then some (.truth true)
  else if cs = "false".toList then some (.truth false)
  else if isInteger cs || isFloat cs || isMoment cs then some .plain
  else none

end ObjectAssembly.Manifest

import ObjectAssembly.Level
import ObjectAssembly.Number.Binary
import ObjectAssembly.Text.Quoted

/-!
# Value — what option fields hold, and how a text is assigned to one

A field is a scalar, an optional scalar or a list of scalars.  Assigning a text to it parses the
text as one scalar: the scalar replaces what a scalar or optional field held, and is appended to a
list.  A text that does not parse is refused with a reason and leaves the field as it was.
-/

namespace ObjectAssembly

open Number Text

/-! ### Scalars -/

/-- The type of one scalar. -/
inductive ScalarType
  | text
  | path
  | char
  | bool
  | level
  | int (format : IntFormat)
  | float (format : FloatFormat)
  deriving DecidableEq, Repr

/-- One scalar; a floating point number is kept as its bit pattern. -/
inductive Scalar
  | text (s : String)
  | path (s : String)
  | char (c : Char)
  | bool (b : Bool)
  | level (l : Level)
  | int (n : Int)
  | float (format : FloatFormat) (bits : Nat)
  deriving DecidableEq, Repr

/-- Why a text is no scalar of the wanted type. -/
inductive ParseError
  | emptyChar
  | longChar
  | notBool (raw : String)
  | unknownLevel (raw : String)
  | int (e : IntError)
  | float (e : FloatError)
  deriving DecidableEq, Repr

def ParseError.message : ParseError → String
  | .emptyChar => "cannot parse char from empty string"
  | .longChar => "too many characters in string"
  | .notBool raw => s!"expected 'true' or 'false', got '{raw}'"
  | .unknownLevel raw => s!"unknown log level '{raw}'"
  | .int e => e.message
  | .float e => e.message

/-- The truth value of that name; ASCII letters match in either case. -/
def parseBool? (raw : String) : Option Bool :=
  let word := raw.toList.map Char.toLower
  if word = "true".toList then some true
  else if word = "false".toList then some false
  else none

namespace ScalarType

/-- The word for the type in help texts. -/
def label : ScalarType → String
  | text => "string"
  | path => "path"
  | char => "char"
  | bool => "boolean"
  | level => "level"
  | int _ => "integer"
  | float _ => "float"

/-- What a fresh object holds. -/
def zero : ScalarType → Scalar
  | text => .text ""
  | path => .path ""
  | char => .char '\x00'
  | bool => .bool false
  | level => .level .info
  | int _ => .int 0
  | float f => .float f 0

/-- Reads a text as one scalar. -/
def parse (t : ScalarType) (raw : String) : Except ParseError Scalar :=
  match t with
  | text => .ok (.text raw)
  | path => .ok (.path raw)
  | char =>
    match raw.toList with
    | [] => .error .emptyChar
    | [c] => .ok (.char c)
    | _ => .error .longChar
  | bool =>
    match parseBool? raw with
    | some b => .ok (.bool b)
    | none => .error (.notBool raw)
  | level =>
    match Level.ofName? raw with
    | some l => .ok (.level l)
    | none => .error (.unknownLevel raw)
  | int f =>
    match f.parse raw with
    | .ok n => .ok (.int n)
    | .error e => .error (.int e)
  | float f =>
    match f.parse raw with
    | .ok bits => .ok (.float f bits)
    | .error e => .error (.float e)

end ScalarType

/-! ### Fields -/

/-- How many scalars a field holds. -/
inductive Arity
  | single
  | optional
  | many
  deriving DecidableEq, Repr

/-- The type of a field. -/
structure FieldType where
  arity : Arity
  scalar : ScalarType
  deriving DecidableEq, Repr

/-- What a field holds. -/
inductive FieldValue
  | single (v : Scalar)
  | optional (v : Option Scalar)
  | many (vs : List Scalar)
  deriving DecidableEq, Repr

/-- The value after one more scalar has been assigned. -/
def FieldValue.assign (v : Scalar) : FieldValue → FieldValue
  | .single _ => .single v
  | .optional _ => .optional (some v)
  | .many vs => .many (vs ++ [v])

namespace FieldType

/-- The word for the type in help texts. -/
def label (t : FieldType) : String := t.scalar.label

/-- Repeated assignments accumulate. -/
def isCollection (t : FieldType) : Bool := t.arity == .many

/-- What a fresh object holds. -/
def zero (t : FieldType) : FieldValue :=
  match t.arity with
  | .single => .single t.scalar.zero
  | .optional => .optional none
  | .many => .many []

/-- Assigns a text to a field. -/
def apply (t : FieldType) (raw : String) (value : FieldValue) : Except ParseError FieldValue :=
  (t.scalar.parse raw).map (value.assign ·)

end FieldType

/-! ### Showing values -/

/-- One scalar among the fields of a shown object: texts are quoted and levels bear their label.
A floating point number stands as its bit pattern. -/
def Scalar.render : Scalar → String
  | .text s => quoted s
  | .path s => quoted s
  | .char c => String.ofList ('\'' :: quotedChar c ++ ['\''])
  | .bool b => if b then "true" else "false"
  | .level l => l.label
  | .int n => toString n
  | .float _ bits => "0x" ++ String.ofList (Nat.toDigits 16 bits)

/-- A field's value on one line. -/
def FieldValue.render : FieldValue → String
  | .single v => v.render
  | .optional none => "None"
  | .optional (some v) => "Some(" ++ v.render ++ ")"
  | .many vs => "[" ++ ", ".intercalate (vs.map Scalar.render) ++ "]"

end ObjectAssembly

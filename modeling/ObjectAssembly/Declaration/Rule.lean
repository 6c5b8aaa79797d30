import ObjectAssembly.Declaration.Lookahead

/-!
# Rule — the rules of the grammar

The forms of expressions, patterns, types and bounds, how tightly operators bind, and the rules of
the grammar by name.  A rule yields no more about what it reads than other rules and the attributes
of a declaration have to know.

A rule is given the readings of all rules, and `Grammar.run` closes the circle for a bounded depth.
-/

namespace ObjectAssembly

/-! ### Forms -/

/-- The outermost form of an expression. -/
inductive ExpressionKind
  | literal (l : Literal)
  | array
  | assign
  | asyncBlock
  | await
  | binary (comparison : Bool)
  | block
  | breaking
  | call
  | cast
  | closure
  | constBlock
  | continuing
  | field
  | forLoop
  | conditional
  | index
  | infer
  | letBinding
  | loop
  | macroCall (braces : Bool)
  | matching
  | methodCall
  | paren
  | path
  | range
  | rawAddress
  | reference
  | repeated
  | returning
  | record
  | attempt
  | tryBlock
  | tuple
  | unary
  | uncheckedBlock
  | unnamed
  | whileLoop
  | yielding
  deriving DecidableEq, Repr

namespace ExpressionKind

/-- The name of the form in complaints. -/
def label : ExpressionKind → String
  | literal l => l.kind
  | array => "array"
  | assign => "assign"
  | asyncBlock => "async"
  | await => "await"
  | binary _ => "binary"
  | block => "block"
  | breaking => "break"
  | call => "call"
  | cast => "cast"
  | closure => "closure"
  | constBlock => "const"
  | continuing => "continue"
  | field => "field"
  | forLoop => "for_loop"
  | conditional => "if"
  | index => "index"
  | infer => "infer"
  | letBinding => "let"
  | loop => "loop"
  | macroCall _ => "macro"
  | matching => "match"
  | methodCall => "method_call"
  | paren => "paren"
  | path => "path"
  | range => "range"
  | rawAddress => "unknown"
  | reference => "reference"
  | repeated => "repeat"
  | returning => "return"
  | record => "struct"
  | attempt => "try"
  | tryBlock => "try_block"
  | tuple => "tuple"
  | unary => "unary"
  | uncheckedBlock => "unsafe"
  | unnamed => "verbatim"
  | whileLoop => "while"
  | yielding => "yield"

/-- An expression that ends with a block, and needs no comma after it among the arms of a match. -/
def endsWithBlock : ExpressionKind → Bool
  | conditional | matching | block | uncheckedBlock | whileLoop | loop | forLoop | tryBlock
  | constBlock => true
  | _ => false

/-- An expression that can stand as a statement by itself. -/
def standsAlone : ExpressionKind → Bool
  | macroCall braces => braces
  | e => e.endsWithBlock

end ExpressionKind

/-- The form of a pattern. -/
inductive PatternForm
  | rest
  | openRange
  | boxed
  | other
  deriving DecidableEq, Repr

/-- The form of a type: a name with or without arguments, another path, an object of one or of
several traits, or something else. -/
inductive TypeForm
  | name
  | path
  | oneTrait
  | traits
  | other
  deriving DecidableEq, Repr

/-- The form of a bound. -/
inductive BoundForm
  | trait
  | lifetime
  | captures
  deriving DecidableEq, Repr

/-- What bounds may be, depending on where they stand: lists of captured parameters, and traits that
hold in constants. -/
structure BoundScope where
  captures : Bool
  constants : Bool
  deriving DecidableEq, Repr

namespace BoundScope

/-- Bounds of an object. -/
def object : BoundScope := ⟨false, false⟩

/-- Bounds of a parameter or a type. -/
def parameter : BoundScope := ⟨false, true⟩

/-- Bounds of an unnamed type. -/
def unnamed : BoundScope := ⟨true, true⟩

end BoundScope

/-! ### Operators -/

/-- How tightly an operator binds. -/
abbrev Binding := Nat

namespace Binding

def least : Binding := 0
def assign : Binding := 1
def range : Binding := 2
def or : Binding := 3
def and : Binding := 4
def compare : Binding := 6
def bitOr : Binding := 7
def bitXor : Binding := 8
def bitAnd : Binding := 9
def shift : Binding := 10
def sum : Binding := 11
def product : Binding := 12
def cast : Binding := 13

end Binding

/-- The operators between two operands, each before those that it starts with. -/
def binaryOperators : List (String × Binding) :=
  ["+=", "-=", "*=", "/=", "%=", "^=", "&=", "|=", "<<=", ">>="].map (·, .assign) ++
    [("&&", .and), ("||", .or), ("<<", .shift), (">>", .shift)] ++
    ["==", "<=", "!=", ">="].map (·, .compare) ++
    [("+", .sum), ("-", .sum), ("*", .product), ("/", .product), ("%", .product), ("^", .bitXor),
      ("&", .bitAnd), ("|", .bitOr), ("<", .compare), (">", .compare)]

/-- The operator in front. -/
def binaryOperator? (trees : List SourceTree) : Option (String × Binding) :=
  binaryOperators.find? fun p => SourceTree.startsWith p.1 trees

/-- An equals sign in front that assigns. -/
def startsAssignment (trees : List SourceTree) : Bool := SourceTree.startsOnly "=" ["=>"] trees

/-- How tightly what comes next would bind to an operand before it. -/
def nextBinding (trees : List SourceTree) : Binding :=
  match binaryOperator? trees with
  | some (_, b) => b
  | none =>
    if startsAssignment trees then .assign
    else if SourceTree.startsWith ".." trees then .range
    else if SourceTree.startsWord "as" trees then .cast
    else .least

/-! ### Rules -/

/-- The rules of the grammar.  Where `records` is false, braces after a path belong to what follows
the expression; where `plus` is false, a plus sign does not belong to the type. -/
inductive Rule
  | expression (records : Bool)
  | statementExpression
  | unary (records : Bool)
  | atom (records : Bool)
  | trailed (left : ExpressionKind)
  | operated (records : Bool) (left : ExpressionKind) (least : Binding)
  | operand (records : Bool) (b : Binding)
  | extended (records : Bool) (right : ExpressionKind) (b : Binding)
  | statements
  | item
  | useTree (roots : Bool)
  | pattern
  | type (plus : Bool)
  | bound (scope : BoundScope)

/-- What a rule yields. -/
@[reducible] def Rule.Yield : Rule → Type
  | expression _ | statementExpression | unary _ | atom _ | trailed _ | operated _ _ _
  | operand _ _ | extended _ _ _ => ExpressionKind
  | statements | item => Unit
  | useTree _ => Bool
  | pattern => PatternForm
  | type _ => TypeForm
  | bound _ => BoundForm

/-- The readings of all rules. -/
abbrev Grammar := (r : Rule) → Reading r.Yield

/-- A reading of a rule whose yield does not matter. -/
def Grammar.pass (g : Grammar) (r : Rule) : Reading Unit := do
  let _ ← g r

end ObjectAssembly

import ObjectAssembly.Text.Quoted

/-!
# Token — the words and marks of a declaration

A source text is a list of trees: identifiers, lifetimes, literals, punctuation marks, and groups in
brackets.  `sourceText` writes trees again, without anything between them.
-/

namespace ObjectAssembly

/-! ### Trees -/

/-- The three kinds of brackets. -/
inductive Delimiter
  | paren
  | bracket
  | brace
  deriving DecidableEq, Repr

namespace Delimiter

def opening : Delimiter → Char
  | paren => '('
  | bracket => '['
  | brace => '{'

def closing : Delimiter → Char
  | paren => ')'
  | bracket => ']'
  | brace => '}'

/-- What is asked for where the group is missing. -/
def title : Delimiter → String
  | paren => "parentheses"
  | bracket => "square brackets"
  | brace => "curly braces"

/-- The kind that an opening bracket belongs to. -/
def ofOpening? (c : Char) : Option Delimiter := [paren, bracket, brace].find? (·.opening == c)

/-- The kind that a closing bracket belongs to. -/
def ofClosing? (c : Char) : Option Delimiter := [paren, bracket, brace].find? (·.closing == c)

end Delimiter

/-- What a literal denotes, as far as it matters: the text of a string, else only the kind.  The
place of a faulty literal is a literal too. -/
inductive Literal
  | text (s : String)
  | byteText
  | plainText
  | byte
  | char
  | int
  | float
  | bool
  | faulty
  deriving DecidableEq, Repr

namespace Literal

/-- The name of the kind in complaints; a string for other languages has none. -/
def kind : Literal → String
  | text _ => "string"
  | byteText => "byte string"
  | plainText => "unknown"
  | byte => "byte"
  | char => "char"
  | int => "int"
  | float => "float"
  | bool => "bool"
  | faulty => "verbatim"

/-- The text of a string. -/
def text? : Literal → Option String
  | text s => some s
  | _ => none

end Literal

/-- A piece of source text: a word, a mark or a group.  A mark is joined if another one follows
directly. -/
inductive SourceTree
  | ident (s : String)
  | lifetime (s : String)
  | literal (value : Literal) (source : String)
  | punct (c : Char) (joined : Bool)
  | group (d : Delimiter) (content : List SourceTree)
  deriving Repr

/-- The number of words and marks in trees, each group counted once more. -/
def sourceSize : List SourceTree → Nat
  | [] => 0
  | .group _ content :: rest => sourceSize content + sourceSize rest + 1
  | _ :: rest => sourceSize rest + 1

/-- The trees as they are written, without anything between them and without blanks. -/
def sourceText : List SourceTree → String
  | [] => ""
  | t :: rest =>
    (match t with
      | .ident s | .lifetime s => s
      | .literal _ s => String.ofList (s.toList.filter (· ≠ ' '))
      | .punct c _ => String.singleton c
      | .group d content =>
        String.singleton d.opening ++ sourceText content ++ String.singleton d.closing) ++
      sourceText rest

end ObjectAssembly

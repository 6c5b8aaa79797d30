import ObjectAssembly.Declaration.Token

/-!
# Reading — taking source trees one after the other

A reading takes trees from the front of a list, writes them without blanks, and fails with a
complaint about the first one that does not fit.  What a group holds is read on its own; if some of
it is left, reading goes on, and the first such group is remembered and complained about at the end.
-/

namespace ObjectAssembly

/-! ### Complaints -/

/-- Why a source text is not of the expected form. -/
inductive GrammarError
  | unreadable
  | expected (what : List String) (atEnd : Bool)
  | keyword (word : String)
  | left (d : Delimiter)
  | misplaced (what : String)
  deriving DecidableEq, Repr

namespace GrammarError

/-- One of several things. -/
def oneOf : List String → String
  | [] => "token"
  | [a] => a
  | [a, b] => a ++ " or " ++ b
  | all => "one of: " ++ ", ".intercalate all

def message : GrammarError → String
  | unreadable => "cannot parse string into token stream"
  | expected [] atEnd => if atEnd then "unexpected end of input" else "unexpected token"
  | expected what atEnd =>
    (if atEnd then "unexpected end of input, " else "") ++ "expected " ++ oneOf what
  | keyword word => "expected identifier, found keyword `" ++ word ++ "`"
  | left d => "unexpected token, expected `" ++ String.singleton d.closing ++ "`"
  | misplaced what => what

end GrammarError

/-! ### Readings -/

/-- The state of a reading: the trees ahead, the first group of which some was left, and what has
been written. -/
structure ReadingState where
  ahead : List SourceTree
  left : Option Delimiter
  written : String

/-- Reading trees. -/
abbrev Reading := StateT ReadingState (Except GrammarError)

namespace Reading

variable {α : Type}

/-- The trees ahead. -/
def ahead : Reading (List SourceTree) := return (← get).ahead

/-- No tree is ahead. -/
def atEnd : Reading Bool := return (← get).ahead.isEmpty

/-- What comes next satisfies a test. -/
def sees (test : List SourceTree → Bool) : Reading Bool := return test (← get).ahead

/-- Writes a text. -/
def write (s : String) : Reading Unit := modify fun r => { r with written := r.written ++ s }

/-- Takes trees without writing them. -/
def drop (n : Nat) : Reading Unit := modify fun s => { s with ahead := s.ahead.drop n }

/-- Takes trees. -/
def skip (n : Nat) : Reading Unit := do
  write (sourceText ((← ahead).take n))
  drop n

/-- Takes all trees that are ahead. -/
def skipAll : Reading Unit := do skip (← ahead).length

/-- Fails for want of one of several things. -/
def expectAny (what : List String) : Reading α := do throw (.expected what (← atEnd))

/-- Fails for want of one of several things in front of other trees. -/
def expectBefore (trees : List SourceTree) (what : List String) : Reading α := do
  throw (.expected what trees.isEmpty)

/-- Fails for want of something. -/
def expect (what : String) : Reading α := expectAny [what]

/-- Fails for something that is not allowed here. -/
def refuse (what : String) : Reading α := throw (.misplaced what)

/-! ### What was read -/

/-- Reads, and yields what was written instead of writing it. -/
def captured (r : Reading α) : Reading (α × String) := do
  let before := (← get).written
  modify fun s => { s with written := "" }
  let a ← r
  let text := (← get).written
  modify fun s => { s with written := before }
  return (a, text)

/-- Reads without writing. -/
def unwritten (r : Reading α) : Reading α := return (← captured r).1

/-- Reads, and yields the trees that were taken as well. -/
def traced (r : Reading α) : Reading (α × List SourceTree) := do
  let before ← ahead
  let a ← r
  return (a, before.take (before.length - (← ahead).length))

/-- Writes what was taken since an earlier state as it was found. -/
def rewrite (start : ReadingState) : Reading Unit := do
  let rest := (← ahead).length
  let taken := start.ahead.take (start.ahead.length - rest)
  modify fun s => { s with written := start.written ++ sourceText taken }

/-- Reads something that is written as it was found if the reading says so. -/
def asFound (r : Reading Bool) : Reading Unit := do
  let start ← get
  if ← r then rewrite start

/-- The trees that are ahead after a reading, which takes nothing. -/
def past (r : Reading α) : Reading (List SourceTree) := do
  let start ← get
  let _ ← r
  let trees ← ahead
  set start
  return trees

/-- Reads if that succeeds, and else takes nothing. -/
def attempt? (r : Reading α) : Reading (Option α) := do
  try return some (← r) catch _ => return none

/-! ### Groups and repetition -/

/-- Reads from what a group holds, which must come next. -/
def within (d : Delimiter) (inner : Reading α) : Reading α := do
  match (← get).ahead with
  | .group d' content :: rest =>
    if d' = d then
      write (String.singleton d.opening)
      modify fun s => { s with ahead := content }
      let a ← inner
      write (String.singleton d.closing)
      modify fun s =>
        { s with ahead := rest, left := if s.ahead.isEmpty then s.left else s.left <|> some d }
      return a
    else expect d.title
  | _ => expect d.title

/-- Repeats a reading as long as it yields something, at most `fuel` times. -/
def collectUpTo (r : Reading (Option α)) : Nat → Reading (List α)
  | 0 => return []
  | fuel + 1 => do
    match ← r with
    | some a => return a :: (← collectUpTo r fuel)
    | none => return []

/-- Repeats a reading as long as it yields something.  It takes at least one tree each time. -/
def collect (r : Reading (Option α)) : Reading (List α) := do
  collectUpTo r ((← ahead).length + 1)

/-- Repeats a reading as long as it says so.  It takes at least one tree each time. -/
def repeatWhile (r : Reading Bool) : Reading Unit := do
  let _ ← collect (return if ← r then some () else none)

/-- Reads all of a list of trees. -/
def whole (r : Reading α) (trees : List SourceTree) : Except GrammarError α :=
  match r.run ⟨trees, none, ""⟩ with
  | .error e => .error e
  | .ok (a, s) =>
    match s.left with
    | some d => .error (.left d)
    | none => if s.ahead.isEmpty then .ok a else .error (.misplaced "unexpected token")

end Reading

end ObjectAssembly

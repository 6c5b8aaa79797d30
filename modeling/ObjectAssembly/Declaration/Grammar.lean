import ObjectAssembly.Declaration.Statements

/-!
# Grammar — all rules together

What each rule reads, given what all of them read.  No tree nests rules more than a fixed number of
times, so the circle is closed for a depth that the size of the trees bounds.
-/

namespace ObjectAssembly

namespace Grammar

variable (g : Grammar)

/-- What each rule reads, given what all of them read. -/
def reads : (r : Rule) → Reading r.Yield
  | .expression records => g.expression records
  | .statementExpression => g.statementExpression
  | .unary records => g.unary records
  | .atom records => g.atom records
  | .trailed left => g.trailed left
  | .operated records left least => g.operated records left least
  | .operand records b => g.operand records b
  | .extended records right b => g.extended records right b
  | .statements => g.statements
  | .item => g.item
  | .useTree roots => g.useTree roots
  | .pattern => g.pattern
  | .type plus => g.type plus
  | .bound scope => g.bound scope

/-- Reads a rule, with rules nested at most `depth` deep. -/
def run : Nat → Grammar
  | 0, _ => Reading.expect "an expression"
  | depth + 1, r => (run depth).reads r

/-- The grammar for trees of some size. -/
def ofSize (size : Nat) : Grammar := run (40 * size + 40)

end Grammar

end ObjectAssembly

import ObjectAssembly.Log
import ObjectAssembly.Object

/-!
# Binder — assignments broadcast to a list of objects

An assignment reaches every target that declares its option, in target order.  The first target that
refuses the value ends it, and the targets before it keep what they took.  An option that no target
declares is an error too.  `bindAll` runs assignments in order up to the first failure.
-/

namespace ObjectAssembly

/-- One assignment of a text to an option. -/
structure Assignment where
  name : String
  value : String
  deriving DecidableEq, Repr

/-- Why an assignment could not be bound. -/
inductive BindError
  | unknownOption (name : String)
  | invalidValue (name value target reason : String)
  deriving DecidableEq, Repr

namespace BindError

/-- The name of the offending option. -/
def optionName : BindError → String
  | unknownOption name => name
  | invalidValue name .. => name

def message : BindError → String
  | unknownOption name => s!"option '{name}' is not declared by any configured object"
  | invalidValue name value target reason =>
    s!"invalid value '{value}' for option '{name}' of {target}: {reason}"

end BindError

/-- What binding leaves behind: the targets, what was logged, and how it ended. -/
structure Bound (α : Type) where
  targets : List Object
  log : List LogEntry
  outcome : Except BindError α

/-- Offers an assignment to each target in turn up to the first refusal, and counts those that
accept it. -/
def offer (a : Assignment) : List Object → List Object × Except BindError Nat
  | [] => ([], .ok 0)
  | o :: rest =>
    match o.setOption a.name a.value with
    | (o', .error reason) =>
      (o' :: rest, .error (.invalidValue a.name a.value o.typeName reason))
    | (o', .ok accepted) =>
      let (rest', count) := offer a rest
      (o' :: rest', count.map (· + if accepted then 1 else 0))

/-- Binds one assignment and answers how many targets took it. -/
def bindOne (a : Assignment) (targets : List Object) : Bound Nat :=
  match offer a targets with
  | (targets', .error e) => ⟨targets', [], .error e⟩
  | (targets', .ok 0) => ⟨targets', [], .error (.unknownOption a.name)⟩
  | (targets', .ok (n + 1)) => ⟨targets', [.optionApplied a.name a.value (n + 1)], .ok (n + 1)⟩

/-- Binds assignments in order up to the first failure. -/
def bindAll : List Assignment → List Object → Bound Unit
  | [], targets => ⟨targets, [], .ok ()⟩
  | a :: rest, targets =>
    match bindOne a targets with
    | ⟨targets', log, .error e⟩ => ⟨targets', log, .error e⟩
    | ⟨targets', log, .ok _⟩ =>
      let next := bindAll rest targets'
      { next with log := log ++ next.log }

/-- A list of targets on one line, by their types. -/
def renderTargets (targets : List Object) : String :=
  "[" ++ ", ".intercalate (targets.map fun o => Text.quoted o.typeName) ++ "]"

end ObjectAssembly

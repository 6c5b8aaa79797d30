import ObjectAssembly.Text.Quoted

/-!
# Order — plugins after the plugins they depend on

Plugins are nodes with a name and the names they depend on.  The sort keeps a count of open
dependencies per node and a queue of nodes that have none.  It takes nodes from the front of the
queue and, as counts fall to zero, adds nodes at its end.  Nodes whose counts stay above zero depend
on each other in a cycle, or on such a cycle.
-/

namespace ObjectAssembly

/-- What the sort knows of a plugin. -/
structure Node where
  name : String
  dependencies : List String
  deriving DecidableEq, Repr

/-- Why plugins cannot be ordered. -/
inductive OrderError
  | missing (plugin dependency : String)
  | cycle (plugins : List String)
  deriving DecidableEq, Repr

def OrderError.message : OrderError → String
  | missing plugin dependency =>
    s!"Plugin '{plugin}' depends on '{dependency}', which is missing from the server"
  | cycle plugins =>
    "Plugins depend on each other in a cycle: [" ++
      ", ".intercalate (plugins.map Text.quoted) ++ "]"

/-- An open dependency, from the position of the plugin that is needed to that of the one that needs
it. -/
structure Edge where
  source : Nat
  target : Nat
  deriving DecidableEq, Repr

namespace Order

/-- The last position of a name, counted from `start`. -/
def lastIndex? (name : String) : Nat → List Node → Option Nat
  | _, [] => none
  | start, n :: rest =>
    match lastIndex? name (start + 1) rest with
    | some i => some i
    | none => if n.name = name then some start else none

/-- The edges into the node at position `target`, one per dependency.  A dependency that is no node
must be among the names that are built already. -/
def edgesInto (nodes : List Node) (built : List String) (target : Nat) (name : String) :
    List String → Except OrderError (List Edge)
  | [] => .ok []
  | d :: rest =>
    match lastIndex? d 0 nodes with
    | some source => (edgesInto nodes built target name rest).map (⟨source, target⟩ :: ·)
    | none =>
      if d ∈ built then edgesInto nodes built target name rest
      else .error (.missing name d)

/-- The edges into the nodes from position `start` on. -/
def edgesFrom (nodes : List Node) (built : List String) :
    Nat → List Node → Except OrderError (List Edge)
  | _, [] => .ok []
  | start, n :: rest =>
    match edgesInto nodes built start n.name n.dependencies with
    | .error e => .error e
    | .ok es => (edgesFrom nodes built (start + 1) rest).map (es ++ ·)

/-- All edges, by target and then in declaration order. -/
def edges (nodes : List Node) (built : List String) : Except OrderError (List Edge) :=
  edgesFrom nodes built 0 nodes

/-! ### The queue -/

/-- A sort under way: the open dependencies of each position, the positions that have none left, and
the positions put out so far. -/
structure Sorting where
  waiting : Nat → Nat
  queue : List Nat
  order : List Nat

variable (es : List Edge)

/-- The positions that depend on a position, once per dependency. -/
def dependents (source : Nat) : List Nat := (es.filter (·.source == source)).map (·.target)

/-- How many dependencies a position has. -/
def degree (target : Nat) : Nat := es.countP (·.target == target)

/-- The sort before its first step. -/
def start (size : Nat) : Sorting where
  waiting := degree es
  queue := (List.range size).filter fun i => degree es i == 0
  order := []

/-- Closes one dependency of a position. -/
def Sorting.settle (s : Sorting) (i : Nat) : Sorting where
  waiting := fun j => if j = i then s.waiting i - 1 else s.waiting j
  queue := if s.waiting i - 1 = 0 then s.queue ++ [i] else s.queue
  order := s.order

/-- Puts out the first position of the queue and closes the dependencies on it. -/
def step (s : Sorting) : Option Sorting :=
  match s.queue with
  | [] => none
  | i :: rest =>
    some ((dependents es i).foldl Sorting.settle ⟨s.waiting, rest, s.order ++ [i]⟩)

/-- Takes at most `fuel` steps. -/
def run : Nat → Sorting → Sorting
  | 0, s => s
  | fuel + 1, s =>
    match step es s with
    | none => s
    | some s' => run fuel s'

/-- The positions of the nodes in dependency order. -/
def sort (nodes : List Node) (built : List String) : Except OrderError (List Nat) :=
  match edges nodes built with
  | .error e => .error e
  | .ok es =>
    let s := run es nodes.length (start es nodes.length)
    if s.order.length = nodes.length then .ok s.order
    else
      let unsorted := (nodes.zipIdx.filter fun p => decide (0 < s.waiting p.2)).map (·.1.name)
      .error (.cycle unsorted)

end Order

end ObjectAssembly

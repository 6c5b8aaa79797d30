/-!
# Slots — ordered groups of ordered members

A slot table maps slot names to lists.  Slots stand in the order of their first member, and members
in the order in which they were added.
-/

namespace ObjectAssembly

/-- Named groups, each name once. -/
abbrev Slots (α : Type) := List (String × List α)

namespace Slots

variable {α : Type}

/-- Adds a member at the end of a slot, and the slot at the end of the table if it is new. -/
def append (slot : String) (x : α) : Slots α → Slots α
  | [] => [(slot, [x])]
  | p :: rest => if p.1 = slot then (p.1, p.2 ++ [x]) :: rest else p :: append slot x rest

/-- The slot names, in order. -/
def names (s : Slots α) : List String := s.map (·.1)

/-- The members of a slot; a slot that is not there has none. -/
def members (s : Slots α) (slot : String) : List α :=
  ((s.find? (·.1 == slot)).map (·.2)).getD []

/-- Every member with its slot, slot by slot. -/
def pairs (s : Slots α) : List (String × α) := s.flatMap fun p => p.2.map (p.1, ·)

/-- The number of members. -/
def size : Slots α → Nat
  | [] => 0
  | p :: rest => p.2.length + size rest

/-- Changes the members of a slot. -/
def modify (slot : String) (f : List α → List α) : Slots α → Slots α
  | [] => []
  | p :: rest => if p.1 = slot then (p.1, f p.2) :: rest else p :: modify slot f rest

/-- Fills a table of the same shape from a flat list of members. -/
def refill {β : Type} : Slots α → List β → Slots β
  | [], _ => []
  | p :: rest, ys => (p.1, ys.take p.2.length) :: refill rest (ys.drop p.2.length)

@[simp] theorem length_pairs (s : Slots α) : s.pairs.length = s.size := by
  induction s with
  | nil => rfl
  | cons p rest ih => simpa [pairs, size] using ih

end Slots

end ObjectAssembly

import ObjectAssembly.Object
import ObjectAssembly.Slots

/-!
# Configuration — live objects, grouped by slot

The result of materializing a definition.  Objects are found by slot and type; of several of one
type the first is found.  An edit reaches exactly the object that the search finds.
-/

namespace ObjectAssembly

/-- Objects grouped by slot, under the name of the definition they come from. -/
structure Configuration where
  name : String
  slots : Slots Object

namespace Configuration

variable (c : Configuration)

/-- The objects of a slot. -/
def objects (slot : String) : List Object := c.slots.members slot

/-- The objects of one type in a slot. -/
def getAll (slot typeName : String) : List Object :=
  (c.objects slot).filter (·.typeName == typeName)

/-- The first object of a type in a slot. -/
def get? (slot typeName : String) : Option Object :=
  (c.objects slot).find? (·.typeName == typeName)

/-- Every object with its slot, slot by slot. -/
def toList : List (String × Object) := c.slots.pairs

/-- The number of objects. -/
def size : Nat := c.slots.size

/-- Changes the first object of a type in a list. -/
def modifyFirst (typeName : String) (f : Object → Object) : List Object → List Object
  | [] => []
  | o :: rest => if o.typeName = typeName then f o :: rest else o :: modifyFirst typeName f rest

/-- Assigns a text to an option of the first object of a type in a slot; the answer is that of the
object, or `none` if there is no such object. -/
def setOption (slot typeName name raw : String) : Configuration × Option (Except String Bool) :=
  match c.get? slot typeName with
  | none => (c, none)
  | some o =>
    let slots := c.slots.modify slot (modifyFirst typeName fun x => (x.setOption name raw).1)
    ({ c with slots := slots }, some (o.setOption name raw).2)

/-- A configuration on one line, its objects by their types. -/
def render : String :=
  let slot (p : String × List Object) : String :=
    Text.quoted p.1 ++ ": [" ++ ", ".intercalate (p.2.map Object.render) ++ "]"
  "Configuration \x7b name: " ++ Text.quoted c.name ++ ", slots: \x7b"
    ++ ", ".intercalate (c.slots.map slot) ++ "\x7d \x7d"

end Configuration

end ObjectAssembly

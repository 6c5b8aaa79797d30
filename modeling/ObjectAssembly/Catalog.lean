import ObjectAssembly.Definition
import ObjectAssembly.Help
import ObjectAssembly.Sink

/-!
# Catalog — definitions by name

Definitions stand under the names they had when they were inserted, in insertion order; a second one
of the same name is refused.
-/

namespace ObjectAssembly

/-- Definitions under their names. -/
structure Catalog where
  entries : List (String × Definition)
  deriving DecidableEq, Repr

namespace Catalog

def empty : Catalog := ⟨[]⟩

variable (c : Catalog)

def names : List String := c.entries.map (·.1)

def definitions : List Definition := c.entries.map (·.2)

def size : Nat := c.entries.length

/-- The definition of a name. -/
def get? (name : String) : Option Definition := (c.entries.find? (·.1 == name)).map (·.2)

/-- Adds a definition under its name. -/
def insert (d : Definition) : Except ConfigurationError Catalog :=
  if c.entries.any (·.1 == d.name) then .error (.duplicateDefinition d.name)
  else .ok ⟨c.entries ++ [(d.name, d)]⟩

/-- Adds definitions in order, up to the first refusal. -/
def insertAll (c : Catalog) : List Definition → Except ConfigurationError Catalog
  | [] => .ok c
  | d :: rest =>
    match c.insert d with
    | .error e => .error e
    | .ok c' => c'.insertAll rest

/-- Replaces the definition that stands under a name. -/
def update (name : String) (d : Definition) : Catalog :=
  ⟨c.entries.map fun e => if e.1 = name then (e.1, d) else e⟩

/-- One line per definition. -/
def summary : String :=
  unlines (c.definitions.map fun d => "  " ++ d.name ++ ": " ++ d.description)

/-- Prints the summary. -/
def printSummary (out : Sink) : Received × Except ConfigurationError Unit :=
  out.print c.summary

end Catalog

end ObjectAssembly

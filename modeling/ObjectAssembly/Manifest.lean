import ObjectAssembly.Manifest.Reader
import ObjectAssembly.Text.Identifier

/-!
# Manifest — the path under which generated code finds the options library

Generated code names the library through the manifest of the package being compiled: by the name
under which the package depends on it, or else through the umbrella package that contains it, or
else by its plain name.  A dependency may be renamed, so packages are looked up by package name and
paths are written with the names of the dependencies.
-/

namespace ObjectAssembly

/-- The package of the options library. -/
def optionsPackage : String := "rigging_options"

/-- The package that contains the options library. -/
def umbrellaPackage : String := "rigging"

/-- A dependency: the key that it is entered under, and the package that it stands for. -/
structure Dependency where
  key : String
  package : String
  deriving DecidableEq, Repr

/-- The parts of a package manifest that a lookup reads: the name of the package, and the
dependencies on others in lookup order. -/
structure Manifest where
  package? : Option String
  dependencies : List Dependency
  deriving DecidableEq, Repr

/-- How a package is found. -/
inductive FoundPackage
  | itself
  | named (name : String)
  deriving DecidableEq, Repr

/-- A package name as an identifier. -/
def identOf (name : String) : String := name.map fun c => if c = '-' then '_' else c

/-! ### Reading -/

namespace ManifestTable

variable (t : ManifestTable)

/-- The entries of the tables under some keys, one table after the other. -/
def entriesUnder (keys : List String) : ManifestTable :=
  keys.flatMap fun key => ((t.lookup key).bind ManifestValue.entries?).getD []

/-- The dependencies for use and for development. -/
def dependencyEntries : ManifestTable := t.entriesUnder ["dependencies", "dev-dependencies"]

/-- The dependencies for single platforms. -/
def targetEntries : ManifestTable :=
  (t.entriesUnder ["target"]).flatMap fun target => (target.2.entries?.getD []).dependencyEntries

/-- The dependencies that the packages of a workspace share. -/
def workspaceEntries : ManifestTable := (t.entriesUnder ["workspace"]).entriesUnder ["dependencies"]

end ManifestTable

/-- The package that an entry names: under `package`, or else by its key. -/
def entryPackage (entry : String × ManifestValue) : String :=
  ((entry.2.get? "package").bind (·.text?)).getD entry.1

/-- The entry is taken from the workspace. -/
def isInherited (entry : String × ManifestValue) : Bool :=
  ((entry.2.get? "workspace").bind (·.truth?)).getD false

namespace Manifest

/-- The manifest that a table writes.  Dependencies on the package itself do not count; for an entry
that is taken from the workspace, the entry there names the package. -/
def ofTable (t : ManifestTable) : Manifest :=
  let own := ((t.lookup "package").bind (·.get? "name")).bind (·.text?)
  let shared := t.workspaceEntries.reverse.map fun e => (e.1, entryPackage e)
  let others := (t.dependencyEntries ++ t.targetEntries).filter fun e => some (entryPackage e) ≠ own
  ⟨own, others.map fun e =>
    let package := entryPackage e
    ⟨e.1, if isInherited e then (shared.lookup package).getD package else package⟩⟩

/-- The manifest that a text writes, if it writes any. -/
def read? (s : String) : Option Manifest := (table? s).map ofTable

/-! ### Looking up -/

/-- Finds a package: by the last dependency on it, or else as the manifest's own. -/
def find? (m : Manifest) (package : String) : Option FoundPackage :=
  match m.dependencies.reverse.find? (·.package == package) with
  | some d => some (.named (identOf d.key))
  | none => if m.package? = some package then some .itself else none

end Manifest

/-- The first part of a path that starts at a dependency, which must be an identifier. -/
def rootedAt (name : String) : Except Text.IdentError String :=
  (Text.checkIdent name).map fun () => "::" ++ name

/-- The path to the options library; a package that cannot be found has no entry. -/
def optionsPath (m? : Option Manifest) : Except Text.IdentError String :=
  match m?.bind (·.find? optionsPackage) with
  | some .itself => .ok optionsPackage
  | some (.named name) => rootedAt name
  | none =>
    match m?.bind (·.find? umbrellaPackage) with
    | some (.named name) => (rootedAt name).map (· ++ "::" ++ optionsPackage)
    | some .itself => .ok ("::" ++ umbrellaPackage ++ "::" ++ optionsPackage)
    | none => .ok ("::" ++ optionsPackage)

end ObjectAssembly

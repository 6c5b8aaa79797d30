import ObjectAssembly.Plugin.Basic
import ObjectAssembly.Plugin.Order

/-!
# Server — the life of a list of plugins

Plugins are added and wait.  `finish` orders them by their dependencies, builds them, and then
readies all that have been built; plugins that are added while others build are built at once.
`cleanup` runs in reverse order.  Callbacks act on the server they belong to, so `perform` recurses
through them; `fuel` bounds how deeply callbacks and choices may nest, and running out of it is an
outcome of its own.  A panic ends everything up to the call that caused it and leaves the server as
it is then.
-/

namespace ObjectAssembly

/-- How far a server has come. -/
inductive BuildState
  | notStarted
  | building
  | built
  deriving DecidableEq, Repr

/-- Why a call on a server panics. -/
inductive Fault
  | alreadyAdded (plugin : String)
  | finishedBefore
  | order (e : OrderError)
  | raised (message : String)
  deriving DecidableEq, Repr

def Fault.message : Fault → String
  | alreadyAdded plugin =>
    s!"Plugin '{plugin}' was already added; " ++
      "override `is_unique()` to allow several instances."
  | finishedBefore => "Server::finish() may only run once"
  | order e => e.message
  | raised message => message

/-- How a call ends. -/
inductive Outcome (α : Type)
  | done (a : α)
  | fault (f : Fault)
  | exhausted
  deriving DecidableEq, Repr

/-- A step in the life of the plugins: a callback begins, has performed its action of the given
number, or ends. -/
inductive TraceEntry (ι ρ : Type)
  | began (phase : Phase) (plugin : ι)
  | did (phase : Phase) (plugin : ι) (action : Nat) (reply : Option ρ)
  | ended (phase : Phase) (plugin : ι)
  deriving DecidableEq, Repr

/-- A server: its store, the plugins that wait and those that are built, the types of all plugins
ever added, how far it has come, and what has happened. -/
structure Server (ι σ ρ : Type) where
  store : σ
  pending : List ι
  built : List ι
  ids : List PluginId
  state : BuildState
  trace : List (TraceEntry ι ρ)
  log : List LogEntry

variable {ι σ ρ : Type}

namespace Server

/-- A server without plugins. -/
def new (store : σ) : Server ι σ ρ := ⟨store, [], [], [], .notStarted, [], []⟩

variable (s : Server ι σ ρ)

def hasPlugin (id : PluginId) : Bool := decide (id ∈ s.ids)

def isBuilt : Bool := s.state == .built

def view : View := ⟨s.hasPlugin, s.isBuilt⟩

/-- Notes a step. -/
def note (e : TraceEntry ι ρ) : Server ι σ ρ := { s with trace := s.trace ++ [e] }

/-- Logs an entry. -/
def report (e : LogEntry) : Server ι σ ρ := { s with log := s.log ++ [e] }

end Server

/-- What a call returns: how it ended, and the server after it. -/
abbrev Result (ι σ ρ α : Type) := Outcome α × Server ι σ ρ

/-- Goes on after a call that is done. -/
def Result.andThen {α β : Type} (r : Result ι σ ρ α) (k : α → Server ι σ ρ → Result ι σ ρ β) :
    Result ι σ ρ β :=
  match r with
  | (.done a, s) => k a s
  | (.fault f, s) => (.fault f, s)
  | (.exhausted, s) => (.exhausted, s)

/-- How actions inside callbacks are performed. -/
abbrev Performer (ι σ ρ : Type) := Action ι σ ρ → Server ι σ ρ → Result ι σ ρ (Option ρ)

namespace Server

variable (family : ι → Plugin ι σ ρ) (act : Performer ι σ ρ)

/-- Performs actions in order. -/
def performAll : List (Action ι σ ρ) → Server ι σ ρ → Result ι σ ρ Unit
  | [], s => (.done (), s)
  | a :: rest, s => (act a s).andThen fun _ s => performAll rest s

/-- Performs actions of a callback in order, from the given number on. -/
def runActions (phase : Phase) (p : ι) :
    Nat → List (Action ι σ ρ) → Server ι σ ρ → Result ι σ ρ Unit
  | _, [], s => (.done (), s)
  | n, a :: rest, s =>
    (act a s).andThen fun reply s =>
      runActions phase p (n + 1) rest (s.note (.did phase p n reply))

/-- Runs a callback of a plugin. -/
def runCallback (phase : Phase) (p : ι) (s : Server ι σ ρ) : Result ι σ ρ Unit :=
  (runActions act phase p 0 ((family p).callback phase) (s.note (.began phase p))).andThen
    fun _ s => (.done (), s.note (.ended phase p))

/-- Builds a plugin. -/
def buildPlugin (p : ι) (s : Server ι σ ρ) : Result ι σ ρ Unit :=
  (runCallback family act .build p s).andThen fun _ s =>
    (.done (), { s with built := s.built ++ [p] })

/-- Adds a plugin: it waits, or is built at once while the server builds. -/
def addPlugin (p : ι) (s : Server ι σ ρ) : Result ι σ ρ Unit :=
  let plugin := family p
  if plugin.unique && s.hasPlugin plugin.id then (.fault (.alreadyAdded plugin.name), s)
  else
    let s := { s with ids := if s.hasPlugin plugin.id then s.ids else s.ids ++ [plugin.id] }
    if s.state = .building then buildPlugin family act p s
    else (.done (), { s with pending := s.pending ++ [p] })

/-- Adds plugins in order. -/
def addPlugins : List ι → Server ι σ ρ → Result ι σ ρ Unit
  | [], s => (.done (), s)
  | p :: rest, s => (addPlugin family act p s).andThen fun _ s => addPlugins rest s

/-- Builds sorted plugins, each announced in the log. -/
def buildAll : List ι → Server ι σ ρ → Result ι σ ρ Unit
  | [], s => (.done (), s)
  | p :: rest, s =>
    (buildPlugin family act p (s.report (.buildingPlugin (family p).name))).andThen
      fun _ s => buildAll rest s

/-- Runs one callback of several plugins in order. -/
def runCallbacks (phase : Phase) : List ι → Server ι σ ρ → Result ι σ ρ Unit
  | [], s => (.done (), s)
  | p :: rest, s =>
    (runCallback family act phase p s).andThen fun _ s => runCallbacks phase rest s

/-- What the sort knows of a plugin. -/
def node (p : ι) : Node := ⟨(family p).name, (family p).dependencies.map (·.typeName)⟩

/-- Plugins in dependency order. -/
def sortPlugins (pending built : List ι) : Except OrderError (List ι) :=
  (Order.sort (pending.map (node family)) (built.map fun p => (family p).name)).map fun order =>
    order.filterMap (pending[·]?)

/-- Builds and readies every waiting plugin.  The waiting plugins are taken before they are sorted,
so they are gone if that fails; the built ones are out of the server while they get ready. -/
def finish (s : Server ι σ ρ) : Result ι σ ρ Unit :=
  if s.state ≠ .notStarted then (.fault .finishedBefore, s)
  else
    match sortPlugins family s.pending s.built with
    | .error e => (.fault (.order e), { s with pending := [] })
    | .ok sorted =>
      (buildAll family act sorted { s with pending := [], state := .building }).andThen fun _ s =>
        let built := s.built
        (runCallbacks family act .ready built { s with state := .built, built := [] }).andThen
          fun _ s =>
            (.done (), { s with built := built }.report (.serverReady built.length))

/-- Cleans up the built plugins, last built first. -/
def cleanup (s : Server ι σ ρ) : Result ι σ ρ Unit :=
  let built := s.built
  (runCallbacks family act .cleanup built.reverse { s with built := [] }).andThen fun _ s =>
    (.done (), { s with built := built })

/-- Performs one action, with `act` for the actions inside callbacks. -/
def performWith : Performer ι σ ρ
  | .add ps, s => (addPlugins family act ps s).andThen fun _ s => (.done none, s)
  | .finish, s => (finish family act s).andThen fun _ s => (.done none, s)
  | .cleanup, s => (cleanup family act s).andThen fun _ s => (.done none, s)
  | .effect run, s =>
    let r := run s.view s.store
    let s := { s with store := r.store, log := s.log ++ r.log }
    match r.outcome with
    | .ok reply => (.done reply, s)
    | .error message => (.fault (.raised message), s)
  | .choose next, s => (performAll act (next s.view s.store) s).andThen fun _ s => (.done none, s)

/-- Performs one action, with callbacks and choices nested less than `fuel` deep. -/
def perform (family : ι → Plugin ι σ ρ) : Nat → Performer ι σ ρ
  | 0, _, s => (.exhausted, s)
  | fuel + 1, a, s => performWith family (perform family fuel) a s

end Server

end ObjectAssembly

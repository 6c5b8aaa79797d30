import ObjectAssembly.Log

/-!
# Plugin — units of functionality with three callbacks

A plugin is identified by its type.  Its callbacks are lists of actions: adding further plugins,
driving the server, an effect on the store that the server carries, or a choice of further actions by
what the server and its store say.  Plugins are members of a family `ι → Plugin ι σ ρ`, so that a
callback can name any plugin, its own included.
-/

namespace ObjectAssembly

/-- The identity of a plugin type: a number of its own, and the name of the type, which other types may
have as well. -/
structure PluginId where
  typeId : Nat
  typeName : String
  deriving DecidableEq, Repr

/-- What an effect or a choice may ask the server. -/
structure View where
  hasPlugin : PluginId → Bool
  isBuilt : Bool

/-- What an effect leaves behind: the store, what was logged, and a reply or the message with which
it panics. -/
structure EffectResult (σ ρ : Type) where
  store : σ
  log : List LogEntry
  outcome : Except String (Option ρ)

/-- Work on the store. -/
abbrev Effect (σ ρ : Type) := View → σ → EffectResult σ ρ

/-- One action of a callback. -/
inductive Action (ι σ ρ : Type)
  | add (plugins : List ι)
  | finish
  | cleanup
  | effect (run : Effect σ ρ)
  | choose (next : View → σ → List (Action ι σ ρ))

/-- The three callbacks of a plugin's life. -/
inductive Phase
  | build
  | ready
  | cleanup
  deriving DecidableEq, Repr

/-- A plugin. -/
structure Plugin (ι σ ρ : Type) where
  id : PluginId
  name : String
  unique : Bool
  dependencies : List PluginId
  callback : Phase → List (Action ι σ ρ)

namespace PluginGroup

variable {ι σ ρ : Type} (family : ι → Plugin ι σ ρ) (group : List ι)

/-- The group without the plugins of a type. -/
def disable (id : PluginId) : List ι := group.filter fun p => decide ((family p).id ≠ id)

/-- The group has a plugin of a type. -/
def contains (id : PluginId) : Bool := group.any fun p => decide ((family p).id = id)

end PluginGroup

end ObjectAssembly

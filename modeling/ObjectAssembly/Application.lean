import ObjectAssembly.Demo
import ObjectAssembly.Plugin.Server
import ObjectAssembly.Resources
import ObjectAssembly.Tracing.Settings

/-!
# Application — the plugins that publish registries, catalogs and settings

A registry is a resource while plugins build, so that they can fill it, and is published as a global
when they get ready.  The store of an application holds the library's own resources beside whatever
others its plugins bring, under keys `κ` with values `V`.
-/

namespace ObjectAssembly

/-- The resources of an application: the library's own, and those of its plugins. -/
inductive Key (κ : Type)
  | registry
  | catalog
  | tracing
  | custom (k : κ)
  deriving DecidableEq, Repr

/-- The type of a resource. -/
def Key.Value {κ : Type} (V : κ → Type) : Key κ → Type
  | registry => ObjectRegistry
  | catalog => Catalog
  | tracing => Tracing.Config
  | custom k => V k

/-- What an application's plugins work on: resources, globals, the factory calls so far, and the
filter in the environment. -/
structure Store (κ : Type) (V : κ → Type) where
  resources : Resources (Key κ) (Key.Value V)
  globals : Resources (Key κ) (Key.Value V)
  calls : Calls
  environment : Option String

variable {κ : Type} {V : κ → Type} [DecidableEq κ] {ρ ι : Type}

namespace Store

/-- The store of an application that starts. -/
def new (environment : Option String) : Store κ V := ⟨.empty, .empty, [], environment⟩

/-- The registry resource, unless it is absent or lent exclusively. -/
def registry? (s : Store κ V) : Option ObjectRegistry :=
  (s.resources.read (.registry : Key κ)).toOption

/-- A global, through a guard that is given back at once. -/
def global? (s : Store κ V) (k : Key κ) : Option (Key.Value V k) := (s.globals.read k).toOption

/-- The registry that has been published. -/
def publishedRegistry? (s : Store κ V) : Option ObjectRegistry := s.global? .registry

/-- The catalog that has been published. -/
def publishedCatalog? (s : Store κ V) : Option Catalog := s.global? .catalog

/-- The settings of log output that have been published. -/
def tracing? (s : Store κ V) : Option Tracing.Config := s.global? .tracing

end Store

/-- Registers types in the registry resource, up to the first whose identifier is taken.  The answer
is `none` if there is no registry to fill, else what was registered and logged, and how it ended. -/
def Store.register? (s : Store κ V) (types : List ObjectType) :
    Option (Store κ V × List LogEntry × Except String Nat) :=
  match s.resources.lendMut (.registry : Key κ) with
  | .error _ => none
  | .ok (r, resources) =>
    let (r', log, taken) := ObjectRegistry.insertAll r types
    let resources := (resources.write (.registry : Key κ) r').releaseMut .registry
    let outcome := match taken with
      | none => .ok (ObjectRegistry.size r')
      | some id => .error (ObjectRegistry.duplicateMessage id)
    some ({ s with resources := resources }, log, outcome)

/-! ### The plugins -/

/-- The plugin type that manages the registry. -/
def objectsId : PluginId := ⟨0, "rigging_config::registry::ObjectsPlugin"⟩

/-- The plugin type that sets up log output. -/
def tracingId : PluginId := ⟨1, "rigging_core_plugins::tracing_plugin::TracingPlugin"⟩

/-- The plugin type that brings the demo types and catalog. -/
def demoId : PluginId := ⟨2, "example::DemoObjectsPlugin"⟩

/-- Provides an empty registry, and publishes it once it is filled. -/
def objectsPlugin : Plugin ι (Store κ V) ρ where
  id := objectsId
  name := objectsId.typeName
  unique := true
  dependencies := []
  callback
    | .build =>
      [.effect fun _ s =>
        ⟨{ s with resources := (s.resources.insert .registry ObjectRegistry.empty).1 }, [],
          .ok none⟩]
    | .ready =>
      [.effect fun _ s =>
        match s.resources.remove (.registry : Key κ) with
        | (_, none) => ⟨s, [], .error "ObjectRegistry should exist from build phase"⟩
        | (resources, some r) =>
          ⟨{ s with resources := resources, globals := (s.globals.insert .registry r).1 },
            [.registryFrozen (ObjectRegistry.size r)], .ok none⟩]
    | .cleanup => []

/-- Registers the demo types, and publishes the demo catalog. -/
def demoPlugin : Plugin ι (Store κ V) ρ where
  id := demoId
  name := demoId.typeName
  unique := true
  dependencies := [objectsId]
  callback
    | .build =>
      [.effect fun _ s =>
        match s.register? Demo.types with
        | none => ⟨s, [], .error "ObjectsPlugin must be added first"⟩
        | some (s, log, .error message) => ⟨s, log, .error message⟩
        | some (s, log, .ok _) =>
          ⟨{ s with globals := (s.globals.insert .catalog Demo.catalog).1 }, log, .ok none⟩]
    | _ => []

/-- Publishes the settings of log output; ready, it reports the filter that has been published. -/
def tracingPlugin (settings : Tracing.Settings) : Plugin ι (Store κ V) ρ where
  id := tracingId
  name := tracingId.typeName
  unique := true
  dependencies := []
  callback
    | .build =>
      [.effect fun _ s =>
        match settings.resolve s.environment with
        | .error torn => ⟨s, [], .error torn.message⟩
        | .ok config =>
          ⟨{ s with globals := (s.globals.insert .tracing config).1 }, [], .ok none⟩]
    | .ready =>
      [.effect fun _ s =>
        let log := match s.tracing? with
          | none => []
          | some config => [.tracingInitialized config.filter settings.format.label]
        ⟨s, log, .ok none⟩]
    | .cleanup => [.effect fun _ s => ⟨s, [.tracingShutDown], .ok none⟩]

end ObjectAssembly

import ObjectAssembly.Configuration
import ObjectAssembly.Definition
import ObjectAssembly.Registry

/-!
# Materialize — from a definition to live objects

Consuming a definition freezes it.  Its identifiers are then resolved and instantiated one by one,
slot by slot, and the option log is bound to the objects, all of them in one list.  The first
problem ends it.  What was asked, called and logged on the way is part of the result.
-/

namespace ObjectAssembly

/-- Instantiating a list of identifiers: what the resolver was asked for, the factory calls after
it, the log, and the objects or the first problem. -/
structure Instantiation where
  lookups : List String
  calls : Calls
  log : List LogEntry
  outcome : Except ConfigurationError (List Object)

/-- Resolves and instantiates identifiers in order, up to the first problem. -/
def instantiateAll (resolve : Resolver) : Calls → List (String × String) → Instantiation
  | calls, [] => ⟨[], calls, [], .ok []⟩
  | calls, (slot, id) :: rest =>
    match resolve id with
    | none => ⟨[id], calls, [], .error (.typeNotFound slot id)⟩
    | some t =>
      match t.instantiate calls with
      | .error e => ⟨[id], t.record calls, [], .error (.ofInstantiate slot id e)⟩
      | .ok o =>
        let next := instantiateAll resolve (t.record calls) rest
        { lookups := id :: next.lookups
          calls := next.calls
          log := .instantiated slot id t.typeName :: next.log
          outcome := next.outcome.map (o :: ·) }

/-- Materializing a definition: the definition after it, what the resolver was asked for, the
factory calls after it, the log, and the configuration or the first problem. -/
structure Materialization where
  definition : Definition
  lookups : List String
  calls : Calls
  log : List LogEntry
  outcome : Except ConfigurationError Configuration

/-- Creates the objects of a definition and binds its option log to them. -/
def Definition.materialize (d : Definition) (resolve : Resolver) (calls : Calls) :
    Materialization :=
  let (definition, freezing) := d.freeze
  let made := instantiateAll resolve calls d.slots.pairs
  let opening := .materializing d.name :: freezing ++ made.log
  match made.outcome with
  | .error e => ⟨definition, made.lookups, made.calls, opening, .error e⟩
  | .ok objects =>
    match bindAll d.options objects with
    | ⟨_, log, .error e⟩ =>
      ⟨definition, made.lookups, made.calls, opening ++ log, .error (.ofBind e)⟩
    | ⟨bound, log, .ok ()⟩ =>
      let configuration : Configuration := ⟨d.name, d.slots.refill bound⟩
      let closing :=
        .materialized d.name d.slots.length configuration.size d.options.length
      ⟨definition, made.lookups, made.calls, opening ++ log ++ [closing], .ok configuration⟩

end ObjectAssembly

import ObjectAssembly.Proofs.Plugin.Acyclic
import ObjectAssembly.Proofs.Plugin.Dependencies

/-!
# Dependency graph — which of the waiting plugins depend on which

A plugin depends on the last waiting plugin that bears the name of the type of one of its dependencies.
These are the edges of the sort, so if every such name is borne by some plugin, the waiting plugins can
be sorted unless they depend on each other in a cycle.
-/

namespace ObjectAssembly

section Graph

variable {ι σ ρ : Type} {family : ι → Plugin ι σ ρ} {plugins built : List ι} {i j : Nat}
  {es : List Edge}

/-- The plugin at the first position depends on the one at the second, which is the last that bears the
name of the type of one of its dependencies. -/
def DependsOn (family : ι → Plugin ι σ ρ) (plugins : List ι) (i j : Nat) : Prop :=
  ∃ p, plugins[i]? = some p ∧ ∃ d ∈ (family p).dependencies, LastAt family plugins d.typeName j

/-- Some plugin bears the name of the type of each dependency. -/
def Matched (family : ι → Plugin ι σ ρ) (plugins : List ι) : Prop :=
  ∀ p ∈ plugins, ∀ d ∈ (family p).dependencies, ∃ q ∈ plugins, (family q).name = d.typeName

instance : Decidable (DependsOn family plugins i j) :=
  inferInstanceAs (Decidable (∃ p, p ∈ plugins[i]? ∧ ∃ d ∈ (family p).dependencies,
    LastAt family plugins d.typeName j))

theorem DependsOn.lt (h : DependsOn family plugins i j) : i < plugins.length ∧ j < plugins.length := by
  obtain ⟨p, hp, d, -, hlast⟩ := h
  obtain ⟨q, hq, -⟩ := hlast.exists_getElem?
  exact ⟨(List.getElem?_eq_some_iff.mp hp).1, (List.getElem?_eq_some_iff.mp hq).1⟩

/-- The edges of the sort are the dependencies of the plugins. -/
theorem depends_eq_dependsOn
    (he : Order.edges (plugins.map (Server.node family)) (built.map fun p => (family p).name) =
      .ok es) : Order.Depends es = DependsOn family plugins := by
  funext i j
  refine propext ⟨fun h => ?_, ?_⟩
  · obtain ⟨n, d, hn, hd, hfound⟩ := Order.dependency_of_edge he h
    rw [List.getElem?_map, Option.map_eq_some_iff] at hn
    obtain ⟨p, hp, rfl⟩ := hn
    obtain ⟨d, hdep, rfl⟩ := List.mem_map.mp hd
    exact ⟨p, hp, d, hdep, lastIndex?_eq_some_iff.mp hfound⟩
  · rintro ⟨p, hp, d, hd, hlast⟩
    have hn : (plugins.map (Server.node family))[i]? = some (Server.node family p) := by
      rw [List.getElem?_map, hp]
      rfl
    have hfound := lastIndex?_eq_some_iff.mpr hlast
    rcases Order.edge_of_dependency he hn (List.mem_map_of_mem hd) with ⟨k, hk, hedge⟩ | ⟨hnone, -⟩
    · rw [hfound, Option.some_inj] at hk
      subst hk
      exact hedge
    · rw [hfound] at hnone
      cases hnone

theorem Matched.exists_edges (h : Matched family plugins) (built : List String) :
    ∃ es, Order.edges (plugins.map (Server.node family)) built = .ok es := by
  refine ⟨_, Order.edgesFrom_ok_iff.mpr ⟨fun n hn d hd hnone => ?_, rfl⟩⟩
  obtain ⟨p, hp, rfl⟩ := List.mem_map.mp hn
  obtain ⟨d, hdep, rfl⟩ := List.mem_map.mp hd
  obtain ⟨q, hq, hname⟩ := h p hp d hdep
  exact absurd hname (Order.lastIndex?_eq_none_iff.mp hnone _ (List.mem_map_of_mem hq))

/-- Plugins whose dependencies are all found can be sorted iff they do not depend on each other in a
cycle. -/
theorem exists_sortPlugins_iff (h : Matched family plugins) :
    (∃ sorted, Server.sortPlugins family plugins built = .ok sorted) ↔
      ∀ i, ¬ Relation.TransGen (DependsOn family plugins) i i := by
  obtain ⟨es, he⟩ := h.exists_edges (built.map fun p => (family p).name)
  rw [← depends_eq_dependsOn he, ← Order.acyclic_iff, ← Order.exists_sort_iff he]
  simp only [Server.sortPlugins, Order.map_ok_iff]
  constructor
  · rintro ⟨-, order, hsort, -⟩
    exact ⟨order, hsort⟩
  · rintro ⟨order, hsort⟩
    exact ⟨_, order, hsort, rfl⟩

/-! ### Types that depend on each other -/

/-- One of these plugins is of the first type and depends on the second. -/
def Needs (family : ι → Plugin ι σ ρ) (plugins : List ι) (d d' : PluginId) : Prop :=
  ∃ p ∈ plugins, (family p).id = d ∧ d' ∈ (family p).dependencies

/-- The plugins bear the names of their types. -/
def NamedByType (family : ι → Plugin ι σ ρ) (plugins : List ι) : Prop :=
  ∀ p ∈ plugins, (family p).name = (family p).id.typeName

/-- A dependency between plugins is one between their types, if each is found. -/
theorem needs_of_dependsOn {p q : ι} (hfound : Undisguised family plugins)
    (h : DependsOn family plugins i j) (hp : plugins[i]? = some p) (hq : plugins[j]? = some q) :
    Needs family plugins (family p).id (family q).id := by
  obtain ⟨p', hp', d, hd, hlast⟩ := h
  obtain ⟨q', hq', hnamed⟩ := hlast.exists_getElem?
  cases hp.symm.trans hp'
  cases hq.symm.trans hq'
  have hmem : p ∈ plugins := List.mem_of_getElem? hp
  have hid : (family q).id = d := hnamed.id_eq (hfound p hmem d hd)
  exact ⟨p, hmem, rfl, by rwa [hid]⟩

/-- Plugins that bear the names of their types can be sorted if each dependency is on the type of one
of them and is found, and no type depends on itself, directly or through others. -/
theorem sortPlugins_of_acyclic (hname : NamedByType family plugins)
    (hfound : Undisguised family plugins)
    (htypes : ∀ d d', Needs family plugins d d' → ∃ q ∈ plugins, (family q).id = d')
    (hacyclic : ∀ d, ¬ Relation.TransGen (Needs family plugins) d d) :
    ∃ sorted, Server.sortPlugins family plugins [] = .ok sorted := by
  have hmatched : Matched family plugins := by
    intro p hp d hd
    obtain ⟨q, hq, hid⟩ := htypes _ _ ⟨p, hp, rfl, hd⟩
    exact ⟨q, hq, (hname q hq).trans (congrArg PluginId.typeName hid)⟩
  rw [exists_sortPlugins_iff hmatched]
  intro i hcycle
  -- a cycle of positions is one of the types at these positions
  refine hacyclic _ (hcycle.lift
    (fun k => ((plugins[k]?).map fun p => (family p).id).getD ⟨0, ""⟩) fun i j h => ?_)
  obtain ⟨hi, hj⟩ := h.lt
  have hneeds := needs_of_dependsOn hfound h (List.getElem?_eq_getElem hi)
    (List.getElem?_eq_getElem hj)
  simpa [Function.onFun, List.getElem?_eq_getElem hi, List.getElem?_eq_getElem hj] using hneeds

end Graph

end ObjectAssembly

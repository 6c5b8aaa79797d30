import ObjectAssembly.Proofs.Plugin.BuildOrder

/-!
# Stability — when the sort keeps the order in which plugins were added

The sort puts out plugins without dependencies first, and the others as their last dependencies come.
So a plugin that was added behind others may be moved in front of them although nothing relates it to
them, even if all plugins were added behind their dependencies.  Such plugins keep their places just if
each has a dependency that was added no earlier than whatever the plugins before it depend on.
-/

namespace ObjectAssembly

/-! ### Positions behind their dependencies -/

namespace Order

variable {dep : Nat → Nat → Prop} {i j k size : Nat}

theorem idxOf_range (hi : i < size) : (List.range size).idxOf i = i := by
  have hlength : i < (List.range size).length := by rwa [List.length_range]
  have hplace : (List.range size).idxOf (List.range size)[i] = i :=
    List.nodup_range.idxOf_getElem i hlength
  rwa [List.getElem_range] at hplace

section Earlier

variable (hdep : ∀ i j, dep i j → j < i ∧ i < size)

include hdep

theorem idxOf_range_of_depends (h : dep i j) : (List.range size).idxOf j = j :=
  idxOf_range ((hdep i j h).1.trans (hdep i j h).2)

/-- In the order of addition the last dependency is the one that was added last. -/
theorem LastDependency.range_le (h : LastDependency dep (List.range size) i k) (hj : dep i j) :
    j ≤ k := by
  have hle := h.last j hj
  rwa [idxOf_range_of_depends hdep hj, idxOf_range_of_depends hdep h.depends] at hle

theorem exists_lastDependency_range (hi : dep i j) :
    ∃ k, LastDependency dep (List.range size) i k :=
  exists_lastDependency (fun k hk => List.mem_range.mpr ((hdep i k hk).1.trans (hdep i k hk).2))
    fun hfree => hfree j hi

/-- The earlier of two positions comes first in the order of addition just if the later one depends on
something that was added no earlier than what the earlier one depends on. -/
theorem precedes_range_iff (hij : i < j) :
    Precedes dep (List.range size) i j ↔ ∀ k, dep i k → ∃ l, dep j l ∧ k ≤ l := by
  constructor
  · intro h k hk
    cases h with
    | freeFirst hi _ => exact absurd hk (hi k)
    | free hi _ _ => exact absurd hk (hi k)
    | placed hi hj hlt =>
      rw [idxOf_range_of_depends hdep hi.depends, idxOf_range_of_depends hdep hj.depends] at hlt
      exact ⟨_, hj.depends, (hi.range_le hdep hk).trans hlt.le⟩
    | tied hi hj _ => exact ⟨_, hj.depends, hi.range_le hdep hk⟩
  · intro h
    by_cases hi : Free dep i
    · by_cases hj : Free dep j
      · exact .free hi hj hij
      · exact .freeFirst hi hj
    · obtain ⟨k', hk'⟩ := not_forall_not.mp hi
      obtain ⟨k, hk⟩ := exists_lastDependency_range hdep hk'
      obtain ⟨l', hl', hkl'⟩ := h k hk.depends
      obtain ⟨l, hl⟩ := exists_lastDependency_range hdep hl'
      -- the last dependency of the later position was added no earlier than that of the other one
      have hkl : k ≤ l := hkl'.trans (hl.range_le hdep hl')
      rcases hkl.lt_or_eq with hlt | rfl
      · refine .placed hk hl ?_
        rwa [idxOf_range_of_depends hdep hk.depends, idxOf_range_of_depends hdep hl.depends]
      · exact .tied hk hl hij

/-- The order of addition is the build order just if each position depends on something that was added
no earlier than what the positions before it depend on. -/
theorem buildOrder_range_iff :
    BuildOrder dep size (List.range size) ↔
      ∀ i j, i < j → j < size → ∀ k, dep i k → ∃ l, dep j l ∧ k ≤ l := by
  have hpairwise : (List.range size).Pairwise (Precedes dep (List.range size)) ↔
      ∀ i j, i < j → j < size → ∀ k, dep i k → ∃ l, dep j l ∧ k ≤ l := by
    rw [List.pairwise_iff_getElem]
    simp only [List.length_range, List.getElem_range]
    constructor
    · intro h i j hij hj
      exact (precedes_range_iff hdep hij).mp (h i j (hij.trans hj) hj hij)
    · intro h i j _ hj hij
      exact (precedes_range_iff hdep hij).mpr (h i j hij hj)
  rw [← hpairwise]
  refine ⟨BuildOrder.sorted, fun h => ⟨.refl _, fun i j hd => ?_, h⟩⟩
  obtain ⟨hlt, hi⟩ := hdep i j hd
  rwa [idxOf_range hi, idxOf_range (hlt.trans hi)]

end Earlier

end Order

/-! ### Plugins of distinct types -/

section Types

variable {ι σ ρ : Type} {family : ι → Plugin ι σ ρ} {plugins built : List ι} {i j : Nat}
  {d : PluginId}

/-- The types of plugins. -/
def types (family : ι → Plugin ι σ ρ) (plugins : List ι) : List PluginId :=
  plugins.map fun p => (family p).id

/-- Each plugin was added behind plugins of all types that it depends on. -/
def AddedInOrder (family : ι → Plugin ι σ ρ) (plugins : List ι) : Prop :=
  ∀ i (hi : i < plugins.length), ∀ d ∈ (family plugins[i]).dependencies,
    d ∈ types family (plugins.take i)

/-- For each dependency of a plugin, those behind it have one that was added no earlier. -/
def Layered (family : ι → Plugin ι σ ρ) (plugins : List ι) : Prop :=
  plugins.Pairwise fun p q => ∀ d ∈ (family p).dependencies, ∃ d' ∈ (family q).dependencies,
    (types family plugins).idxOf d ≤ (types family plugins).idxOf d'

theorem getElem?_types_eq_some_iff (htypes : (types family plugins).Nodup)
    (hd : d ∈ types family plugins) :
    (types family plugins)[j]? = some d ↔ j = (types family plugins).idxOf d := by
  constructor
  · intro h
    obtain ⟨hj, rfl⟩ := List.getElem?_eq_some_iff.mp h
    exact (htypes.idxOf_getElem j hj).symm
  · rintro rfl
    exact List.getElem?_idxOf hd

theorem AddedInOrder.mem_types (h : AddedInOrder family plugins) {hi : i < plugins.length}
    (hd : d ∈ (family plugins[i]).dependencies) : d ∈ types family plugins :=
  List.map_subset _ (List.take_subset i plugins) (h i hi d hd)

theorem AddedInOrder.matched (h : AddedInOrder family plugins) (hname : NamedByType family plugins) :
    Matched family plugins := by
  intro p hp d hd
  obtain ⟨i, hi, rfl⟩ := List.mem_iff_getElem.mp hp
  obtain ⟨q, hq, rfl⟩ := List.mem_map.mp (h.mem_types hd)
  exact ⟨q, hq, hname q hq⟩

section Found

variable (hname : NamedByType family plugins) (htypes : (types family plugins).Nodup)

include hname htypes

/-- The plugin of a type is found under the name of the type, unless a plugin of another type of that
name was added behind it. -/
theorem lastAt_iff_types (hd : d ∈ types family plugins) (hfound : ¬ Disguised family plugins d) :
    LastAt family plugins d.typeName i ↔ i = (types family plugins).idxOf d := by
  have hplace : ∀ k, LastAt family plugins d.typeName k → k = (types family plugins).idxOf d := by
    intro k hk
    obtain ⟨q, hq, hnamed⟩ := hk.exists_getElem?
    rw [← getElem?_types_eq_some_iff htypes hd, types, List.getElem?_map, hq, Option.map_some,
      hnamed.id_eq hfound]
  refine ⟨hplace i, fun hi => ?_⟩
  obtain ⟨q, hq, hid⟩ := List.mem_map.mp hd
  obtain ⟨k, hk⟩ := exists_lastAt hq ((hname q hq).trans (congrArg PluginId.typeName hid))
  rwa [hi, ← hplace k hk]

variable (hadded : AddedInOrder family plugins) (hfound : Undisguised family plugins)

include hadded hfound

/-- Of distinct types that are found, those that a plugin depends on tell which plugins it depends
on. -/
theorem dependsOn_iff_types (hi : i < plugins.length) :
    DependsOn family plugins i j ↔
      ∃ d ∈ (family plugins[i]).dependencies, j = (types family plugins).idxOf d := by
  have hlast : ∀ d ∈ (family plugins[i]).dependencies,
      (LastAt family plugins d.typeName j ↔ j = (types family plugins).idxOf d) := fun d hd =>
    lastAt_iff_types hname htypes (hadded.mem_types hd) (hfound _ (List.getElem_mem hi) d hd)
  unfold DependsOn
  simp only [List.getElem?_eq_getElem hi, Option.some.injEq, exists_eq_left']
  exact exists_congr fun d => and_congr_right (hlast d)

/-- The plugins that a plugin depends on were added before it. -/
theorem lt_of_dependsOn (hd : DependsOn family plugins i j) : j < i ∧ i < plugins.length := by
  have hi := hd.lt.1
  refine ⟨?_, hi⟩
  obtain ⟨d, hdep, rfl⟩ := (dependsOn_iff_types hname htypes hadded hfound hi).mp hd
  obtain ⟨k, hk⟩ := List.mem_iff_getElem?.mp (hadded i hi d hdep)
  rw [types, List.map_take, List.getElem?_take] at hk
  split at hk
  next hki =>
    have hk := (getElem?_types_eq_some_iff htypes (hadded.mem_types hdep)).mp hk
    omega
  next => cases hk

/-- In terms of positions, each plugin depends on one that was added no earlier than those that the
plugins before it depend on. -/
theorem layered_iff_dependsOn :
    Layered family plugins ↔ ∀ i j, i < j → j < plugins.length → ∀ k, DependsOn family plugins i k →
      ∃ l, DependsOn family plugins j l ∧ k ≤ l := by
  have hdepends : ∀ i k (hi : i < plugins.length), DependsOn family plugins i k ↔
      ∃ d ∈ (family plugins[i]).dependencies, k = (types family plugins).idxOf d := fun _ _ hi =>
    dependsOn_iff_types hname htypes hadded hfound hi
  rw [Layered, List.pairwise_iff_getElem]
  constructor
  · intro hlayered i j hij hj k hk
    obtain ⟨d, hd, rfl⟩ := (hdepends i k (hij.trans hj)).mp hk
    obtain ⟨d', hd', hle⟩ := hlayered i j (hij.trans hj) hj hij d hd
    exact ⟨_, (hdepends j _ hj).mpr ⟨d', hd', rfl⟩, hle⟩
  · intro hall i j hi hj hij d hd
    obtain ⟨l, hl, hle⟩ := hall i j hij hj _ ((hdepends i _ hi).mpr ⟨d, hd, rfl⟩)
    obtain ⟨d', hd', rfl⟩ := (hdepends j l hj).mp hl
    exact ⟨d', hd', hle⟩

end Found

/-- Without repetitions, plugins tell their positions. -/
theorem eq_range_of_filterMap {order : List Nat} (hnodup : plugins.Nodup)
    (hperm : order.Perm (List.range plugins.length))
    (h : order.filterMap (plugins[·]?) = plugins) : order = List.range plugins.length := by
  classical
  have hback : ∀ l : List Nat, l ⊆ List.range plugins.length →
      (l.filterMap (plugins[·]?)).map plugins.idxOf = l := by
    intro l hl
    rw [List.map_filterMap]
    refine (List.filterMap_congr fun i hi => ?_).trans List.filterMap_some
    have hi := List.mem_range.mp (hl hi)
    rw [List.getElem?_eq_getElem hi, Option.map_some, hnodup.idxOf_getElem i hi]
  rw [← hback order hperm.subset, h, ← hback _ (List.Subset.refl _),
    Server.filterMap_range_getElem?]

/-- **When the sort is stable.**  Plugins of distinct types that bear the names of their types are
sorted if they were added behind their dependencies and each dependency is found under the name of its
type.  They keep the order in which they were added just if for each dependency of a plugin, those behind
it have one that was added no earlier. -/
theorem sortPlugins_keeps_order_iff (family : ι → Plugin ι σ ρ) (plugins built : List ι)
    (hname : NamedByType family plugins) (htypes : (types family plugins).Nodup)
    (hadded : AddedInOrder family plugins) (hfound : Undisguised family plugins) :
    ∃ sorted, Server.sortPlugins family plugins built = .ok sorted ∧ sorted.Perm plugins ∧
      (sorted = plugins ↔ Layered family plugins) := by
  have hmatched := hadded.matched hname
  have hearlier : ∀ i j, DependsOn family plugins i j → j < i ∧ i < plugins.length := fun _ _ =>
    lt_of_dependsOn hname htypes hadded hfound
  -- the position itself is a rank
  have hacyclic := not_transGen_of_rank id fun i j h => (hearlier i j h).1
  obtain ⟨sorted, hsort⟩ : ∃ sorted, Server.sortPlugins family plugins built = .ok sorted :=
    (exists_sortPlugins_iff hmatched).mpr hacyclic
  obtain ⟨order, horder, rfl⟩ := (sortPlugins_ok_iff hmatched).mp hsort
  refine ⟨_, hsort, Server.sortPlugins_perm hsort, ?_⟩
  rw [layered_iff_dependsOn hname htypes hadded hfound, ← Order.buildOrder_range_iff hearlier]
  constructor
  · intro h
    rwa [← eq_range_of_filterMap (.of_map _ htypes) horder.perm h]
  · intro h
    rw [horder.unique h, Server.filterMap_range_getElem?]

end Types

section Sample

/-- A plugin, one that depends on it, and one without dependencies. -/
def trioFamily : Fin 3 → Plugin (Fin 3) Unit Unit
  | 0 => ⟨⟨0, "A"⟩, "A", true, [], fun _ => []⟩
  | 1 => ⟨⟨1, "B"⟩, "B", true, [⟨0, "A"⟩], fun _ => []⟩
  | 2 => ⟨⟨2, "C"⟩, "C", true, [], fun _ => []⟩

theorem sortPlugins_keeps_order_trio :
    NamedByType trioFamily [0, 2, 1] ∧ (types trioFamily [0, 2, 1]).Nodup ∧
      AddedInOrder trioFamily [0, 2, 1] ∧ Undisguised trioFamily [0, 2, 1] ∧
      Layered trioFamily [0, 2, 1] ∧ Server.sortPlugins trioFamily [0, 2, 1] [] = .ok [0, 2, 1] := by
  have hname : NamedByType trioFamily [0, 2, 1] := by
    unfold NamedByType
    decide
  have htypes : (types trioFamily [0, 2, 1]).Nodup := by decide
  have hadded : AddedInOrder trioFamily [0, 2, 1] := by
    unfold AddedInOrder
    decide
  have htell : NamesTell trioFamily [0, 2, 1] := by
    unfold NamesTell
    decide
  have hlayered : Layered trioFamily [0, 2, 1] := by
    unfold Layered
    decide
  obtain ⟨sorted, hsort, -, hkept⟩ :=
    sortPlugins_keeps_order_iff _ _ [] hname htypes hadded htell.undisguised
  rw [hkept.mpr hlayered] at hsort
  exact ⟨hname, htypes, hadded, htell.undisguised, hlayered, hsort⟩

/-- A plugin without dependencies is moved in front of one that it has nothing to do with and that was
added before it, although each plugin was added behind its dependencies, which are found. -/
theorem sortPlugins_moves_unrelated :
    NamedByType trioFamily [0, 1, 2] ∧ (types trioFamily [0, 1, 2]).Nodup ∧
      AddedInOrder trioFamily [0, 1, 2] ∧ Undisguised trioFamily [0, 1, 2] ∧
      (∀ i, ¬ DependsOn trioFamily [0, 1, 2] 2 i ∧ ¬ DependsOn trioFamily [0, 1, 2] i 2) ∧
      Server.sortPlugins trioFamily [0, 1, 2] [] = .ok [0, 2, 1] := by
  have htell : NamesTell trioFamily [0, 1, 2] := by
    unfold NamesTell
    decide
  refine ⟨?_, by decide, ?_, htell.undisguised, fun i => ?_, rfl⟩
  · unfold NamedByType
    decide
  · unfold AddedInOrder
    decide
  · have hnone : ∀ i < 3,
        ¬ DependsOn trioFamily [0, 1, 2] 2 i ∧ ¬ DependsOn trioFamily [0, 1, 2] i 2 := by
      decide
    exact ⟨fun h => (hnone i h.lt.2).1 h, fun h => (hnone i h.lt.1).2 h⟩

end Sample

end ObjectAssembly

import ObjectAssembly.Proofs.Plugin.DependencyGraph
import ObjectAssembly.Proofs.Plugin.Naming

/-!
# Cycles — which plugins `finish` names when they depend on each other

The positions that a sort leaves over are those from which dependencies lead into a cycle.  `finish`
names the plugins at these positions, and it sorts before it runs any callback.
-/

namespace ObjectAssembly

section Cycles

variable {ι σ ρ : Type} {family : ι → Plugin ι σ ρ} {plugins built : List ι} {s : Server ι σ ρ}
  {names : List String} {fuel : Nat}

open scoped Classical in
/-- The names of the plugins from which dependencies lead into a cycle, as the plugins were added. -/
noncomputable def cyclicNames (family : ι → Plugin ι σ ρ) (plugins : List ι) : List String :=
  (plugins.zipIdx.filter fun p => Order.LeadsToCycle (DependsOn family plugins) p.2).map fun p =>
    (family p.1).name

theorem sortPlugins_cycle_iff (h : Matched family plugins) :
    Server.sortPlugins family plugins built = .error (.cycle names) ↔
      (∃ i, Relation.TransGen (DependsOn family plugins) i i) ∧ names = cyclicNames family plugins := by
  obtain ⟨es, he⟩ := h.exists_edges (built.map fun p => (family p).name)
  rw [sortPlugins_error_iff, Order.sort_cycle_iff he, depends_eq_dependsOn he, cyclicNames,
    List.zipIdx_map, List.filter_map, List.map_map]
  rfl

theorem finish_cycle_iff (h : Matched family s.pending) :
    (Server.perform family (fuel + 1) .finish s).1 = .fault (.order (.cycle names)) ↔
      s.state = .notStarted ∧ (∃ i, Relation.TransGen (DependsOn family s.pending) i i) ∧
        names = cyclicNames family s.pending := by
  by_cases hs : s.state = .notStarted
  · rw [Server.perform_finish_order_iff hs, sortPlugins_cycle_iff h]
    exact (and_iff_right hs).symm
  · rw [Server.perform, Server.performWith, Server.finish_of_started hs]
    exact iff_of_false (fun h => by cases h) fun h => hs h.1

/-- If plugins cannot be sorted, `finish` runs no callback. -/
theorem finish_trace_of_order {e : OrderError} (hs : s.state = .notStarted)
    (h : (Server.perform family (fuel + 1) .finish s).1 = .fault (.order e)) :
    (Server.perform family (fuel + 1) .finish s).2.trace = s.trace := by
  have hsort := (Server.perform_finish_order_iff hs).mp h
  rw [Server.perform, Server.performWith, Server.finish_of_sort_error hs hsort]
  rfl

/-- **Cycles are found exactly.**  If each dependency of the waiting plugins is found among them,
`finish` reports a cycle just if the server has not started and they depend on each other in one, a
plugin that depends on itself included.  It names those from which dependencies lead into a cycle, as
they were added, and no callback has run then. -/
theorem finish_finds_cycles (family : ι → Plugin ι σ ρ) (s : Server ι σ ρ) (fuel : Nat)
    (names : List String) (hs : Reachable family s) (hmatched : Matched family s.pending) :
    ((Server.perform family (fuel + 1) .finish s).1 = .fault (.order (.cycle names)) ↔
      s.state = .notStarted ∧ (∃ i, Relation.TransGen (DependsOn family s.pending) i i) ∧
        names = cyclicNames family s.pending) ∧
    ((Server.perform family (fuel + 1) .finish s).1 = .fault (.order (.cycle names)) →
      (Server.perform family (fuel + 1) .finish s).2.trace = []) := by
  refine ⟨finish_cycle_iff hmatched, fun h => ?_⟩
  obtain ⟨hstate, -, -⟩ := (finish_cycle_iff hmatched).mp h
  rw [finish_trace_of_order hstate h]
  exact (Server.fresh_of_reachable hs hstate).1

end Cycles

section Sample

/-- Two plugins that depend on each other, one that depends on the first of them, and one without
dependencies. -/
def entangledFamily : Fin 4 → Plugin (Fin 4) Unit Unit
  | 0 => ⟨⟨0, "A"⟩, "A", true, [⟨1, "B"⟩], fun _ => []⟩
  | 1 => ⟨⟨1, "B"⟩, "B", true, [⟨0, "A"⟩], fun _ => []⟩
  | 2 => ⟨⟨2, "C"⟩, "C", true, [⟨0, "A"⟩], fun _ => []⟩
  | 3 => ⟨⟨3, "D"⟩, "D", true, [], fun _ => []⟩

/-- The server to which they have been added. -/
def entangledServer : Server (Fin 4) Unit Unit :=
  (Server.perform entangledFamily 1 (.add [2, 3, 0, 1]) (.new ())).2

theorem finish_finds_cycles_entangled :
    Reachable entangledFamily entangledServer ∧
      Matched entangledFamily entangledServer.pending ∧
      (Server.perform entangledFamily 2 .finish entangledServer).1 =
        .fault (.order (.cycle ["C", "A", "B"])) ∧
      (∃ i, Relation.TransGen (DependsOn entangledFamily entangledServer.pending) i i) ∧
      cyclicNames entangledFamily entangledServer.pending = ["C", "A", "B"] ∧
      (Server.perform entangledFamily 2 .finish entangledServer).2.trace = [] := by
  have hreachable : Reachable entangledFamily entangledServer := .perform 1 _ (.new ())
  have hmatched : Matched entangledFamily entangledServer.pending := by
    unfold Matched
    decide
  have hfinish : (Server.perform entangledFamily 2 .finish entangledServer).1 =
      .fault (.order (.cycle ["C", "A", "B"])) := rfl
  obtain ⟨hcycle, hquiet⟩ := finish_finds_cycles _ _ 1 ["C", "A", "B"] hreachable hmatched
  obtain ⟨-, hexists, hnames⟩ := hcycle.mp hfinish
  exact ⟨hreachable, hmatched, hfinish, hexists, hnames.symm, hquiet hfinish⟩

end Sample

end ObjectAssembly

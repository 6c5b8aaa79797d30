import ObjectAssembly.Proofs.Plugin.DependencyGraph
import ObjectAssembly.Proofs.Plugin.Lifecycle

/-!
# Counting — the counts of the sort are exact

The sort closes the dependencies on a position one by one, also those that a plugin repeats.  `Moment`
follows it through each of these closings and keeps the list of all positions that have been queued.  At
every moment the count of a plugin is the number of its dependencies on plugins that have not been put
out, and of those that are about to be closed.  So no count is lowered below zero, no position is queued
twice, and each plugin is taken from its place in the table once.
-/

namespace ObjectAssembly

/-! ### The moments of a sort -/

namespace Order

variable {es : List Edge} {ds queued : List Nat} {i j k size fuel : Nat} {s s' : Sorting}

/-- A moment of a sort: the sort as it stands, the dependencies on the position put out last that are
still to be closed, and all positions that have been queued, in order. -/
inductive Moment (es : List Edge) (size : Nat) : Sorting → List Nat → List Nat → Prop
  | start : Moment es size (start es size) [] (start es size).queue
  | put {s : Sorting} {i : Nat} {rest queued : List Nat} :
      Moment es size s [] queued → s.queue = i :: rest →
      Moment es size (s.put i rest) (dependents es i) queued
  | close {s : Sorting} {i : Nat} {ds queued : List Nat} :
      Moment es size s (i :: ds) queued → s.waiting i - 1 ≠ 0 →
      Moment es size (s.settle i) ds queued
  | queue {s : Sorting} {i : Nat} {ds queued : List Nat} :
      Moment es size s (i :: ds) queued → s.waiting i - 1 = 0 →
      Moment es size (s.settle i) ds (queued ++ [i])

/-- What has been queued has been put out or is in the queue. -/
theorem Moment.queued_eq (h : Moment es size s ds queued) : queued = s.order ++ s.queue := by
  induction h with
  | start => rfl
  | put _ hq ih => rw [Sorting.put_queued hq, ih]
  | @close s i ds queued _ hleft ih =>
    have hq : (s.settle i).queue = s.queue := if_neg hleft
    rw [hq]
    exact ih
  | @queue s i ds queued _ hzero ih =>
    have hq : (s.settle i).queue = s.queue ++ [i] := if_pos hzero
    rw [hq, ih]
    exact List.append_assoc ..

theorem Moment.sound (hes : ∀ e ∈ es, e.target < size) (h : Moment es size s ds queued) :
    s.Sound es size ds ∧ ∀ i ∈ ds, i < size := by
  induction h with
  | start => exact ⟨.start es size, by simp⟩
  | @put s i rest queued _ hq ih => exact ⟨ih.1.put hq, fun j hj => hes ⟨i, j⟩ (mem_dependents.mp hj)⟩
  | close _ _ ih | queue _ _ ih =>
    obtain ⟨hi, hds⟩ := List.forall_mem_cons.mp ih.2
    exact ⟨ih.1.settle hi, hds⟩

/-- A count that is about to be lowered is not zero. -/
theorem Moment.waiting_pos (hes : ∀ e ∈ es, e.target < size)
    (h : Moment es size s (i :: ds) queued) : 0 < s.waiting i := by
  have hcount := (h.sound hes).1.waiting i
  rw [List.count_cons_self] at hcount
  omega

theorem Moment.nodup (hes : ∀ e ∈ es, e.target < size) (h : Moment es size s ds queued) :
    queued.Nodup := by
  rw [h.queued_eq]
  exact (h.sound hes).1.nodup

theorem Moment.length_order_le (hes : ∀ e ∈ es, e.target < size)
    (h : Moment es size s ds queued) : s.order.length ≤ size := by
  obtain ⟨hsound, -⟩ := h.sound hes
  have hnodup : s.order.Nodup := (List.nodup_append.mp hsound.nodup).1
  have hsub : s.order ⊆ List.range size := fun i hi =>
    List.mem_range.mpr (hsound.bound i (List.mem_append_left _ hi))
  have hle := (hnodup.subperm hsub).length_le
  rwa [List.length_range] at hle

theorem Moment.settleAll (h : Moment es size s ds queued) :
    ∃ queued', Moment es size (ds.foldl Sorting.settle s) [] queued' := by
  induction ds generalizing s queued with
  | nil => exact ⟨queued, h⟩
  | cons i ds ih =>
    by_cases hzero : s.waiting i - 1 = 0
    · exact ih (h.queue hzero)
    · exact ih (h.close hzero)

/-- A run stands at a moment at which nothing is left to be closed. -/
theorem exists_moment_run : ∃ queued, Moment es size (run es fuel (start es size)) [] queued := by
  refine run_keeps (P := fun s => ∃ queued, Moment es size s [] queued) ?_ ⟨_, .start⟩
  rintro s s' ⟨queued, h⟩ hs
  obtain ⟨i, rest, hq, rfl⟩ := exists_of_step hs
  exact (h.put hq).settleAll

/-- The queue is empty after as many steps as there are positions. -/
theorem queue_run_eq_nil (hes : ∀ e ∈ es, e.target < size) :
    (run es size (start es size)).queue = [] := by
  have hended := Sorting.Ended.run hes
  rcases hended.stopped with hq | hlength
  · exact hq
  · -- all positions have been put out, and none of them is in the queue as well
    rw [List.eq_nil_iff_forall_not_mem]
    intro i hi
    have hi' := hended.sound.bound i (List.mem_append_right _ hi)
    have hput := hended.length_iff.mp hlength i hi'
    exact List.disjoint_of_nodup_append hended.sound.nodup hput hi

/-! ### Edges are dependencies -/

/-- In a table by positions only the entry at one position is counted, if what is counted belongs to
that position. -/
theorem countP_flatMap_zipIdx {α β : Type} {f : α × Nat → List β} {counts : β → Bool} {x : α}
    {xs : List α} {start : Nat} (hx : xs[j]? = some x)
    (hother : ∀ p, p.2 ≠ start + j → (f p).countP counts = 0) :
    ((xs.zipIdx start).flatMap f).countP counts = (f (x, start + j)).countP counts := by
  induction xs generalizing start j with
  | nil => cases hx
  | cons y ys ih =>
    rw [List.zipIdx_cons, List.flatMap_cons, List.countP_append]
    cases j with
    | zero =>
      cases hx
      have hrest : ((ys.zipIdx (start + 1)).flatMap f).countP counts = 0 := by
        rw [List.countP_flatMap]
        refine List.sum_eq_zero fun n hn => ?_
        obtain ⟨p, hp, rfl⟩ := List.mem_map.mp hn
        have hle := List.le_snd_of_mem_zipIdx hp
        exact hother p (by omega)
      rw [hrest]
      rfl
    | succ j =>
      rw [hother (y, start) (by simp), Nat.zero_add, ih hx]
      · rw [show start + 1 + j = start + (j + 1) by omega]
      · exact fun p hp => hother p (by omega)

/-- The open edges into a node are its dependencies on nodes that have not been put out. -/
theorem openEdges_eq_countP {nodes : List Node} {built : List String} {order : List Nat} {n : Node}
    (he : edges nodes built = .ok es) (hn : nodes[j]? = some n) :
    openEdges es order j =
      n.dependencies.countP fun d => (lastIndex? d 0 nodes).any fun k => decide (k ∉ order) := by
  obtain ⟨-, rfl⟩ := edgesFrom_ok_iff.mp he
  have hother : ∀ p : Node × Nat, p.2 ≠ 0 + j →
      (p.1.dependencies.filterMap fun d => (lastIndex? d 0 nodes).map (⟨·, p.2⟩ : Nat → Edge)).countP
        (fun e => e.target == j && decide (e.source ∉ order)) = 0 := by
    intro p hp
    rw [List.countP_eq_zero]
    intro e he
    obtain ⟨d, -, hd⟩ := List.mem_filterMap.mp he
    obtain ⟨source, -, rfl⟩ := Option.map_eq_some_iff.mp hd
    simp
    omega
  rw [openEdges, countP_flatMap_zipIdx hn hother, List.countP_filterMap]
  refine List.countP_congr fun d _ => ?_
  cases lastIndex? d 0 nodes <;> simp

end Order

/-! ### Taking plugins from a table -/

section Table

variable {α : Type} {table : List (Option α)} {xs : List α} {order : List Nat}

/-- Takes the entries of a table at one position after another.  An entry that has been taken is gone. -/
def takeEach : List (Option α) → List Nat → List (Option α)
  | _, [] => []
  | table, i :: rest => table[i]?.join :: takeEach (table.set i none) rest

/-- What is taken at distinct positions is what stands there. -/
theorem takeEach_of_nodup (h : order.Nodup) :
    takeEach table order = order.map fun i => table[i]?.join := by
  induction order generalizing table with
  | nil => rfl
  | cons i rest ih =>
    obtain ⟨hi, hrest⟩ := List.nodup_cons.mp h
    rw [takeEach, List.map_cons, ih hrest]
    refine congrArg _ (List.map_congr_left fun j hj => ?_)
    have hij : i ≠ j := fun heq => hi (heq ▸ hj)
    rw [List.getElem?_set_ne hij]

/-- An entry is found at each of distinct positions in a full table. -/
theorem takeEach_full (h : order.Nodup) (hlt : ∀ i ∈ order, i < xs.length) :
    takeEach (xs.map some) order = (order.filterMap (xs[·]?)).map some := by
  rw [takeEach_of_nodup h]
  clear h
  induction order with
  | nil => rfl
  | cons i rest ih =>
    obtain ⟨hi, hrest⟩ := List.forall_mem_cons.mp hlt
    have hfound : xs[i]? = some xs[i] := List.getElem?_eq_getElem hi
    rw [List.map_cons, List.filterMap_cons_some hfound, List.map_cons, ih hrest, List.getElem?_map,
      hfound]
    rfl

end Table

/-! ### Plugins -/

section Plugins

variable {ι σ ρ : Type} {family : ι → Plugin ι σ ρ} {plugins built : List ι} {order : List Nat}
  {es : List Edge} {p : ι} {j : Nat}

/-- How many of the dependencies of a plugin are on waiting plugins that have not been put out; a
dependency that is repeated counts each time. -/
def openDependencies (family : ι → Plugin ι σ ρ) (plugins : List ι) (order : List Nat) (p : ι) : Nat :=
  (family p).dependencies.countP fun d =>
    decide (∃ k < plugins.length, LastAt family plugins d.typeName k ∧ k ∉ order)

/-- Each dependency is on the name of a waiting or of a built plugin. -/
def NamesFound (family : ι → Plugin ι σ ρ) (plugins built : List ι) : Prop :=
  ∀ p ∈ plugins, ∀ d ∈ (family p).dependencies, ∃ q ∈ plugins ++ built, (family q).name = d.typeName

theorem NamesFound.exists_edges (h : NamesFound family plugins built) :
    ∃ es, Order.edges (plugins.map (Server.node family)) (built.map fun p => (family p).name) =
      .ok es := by
  refine ⟨_, Order.edgesFrom_ok_iff.mpr ⟨fun n hn d hd hnone => ?_, rfl⟩⟩
  obtain ⟨p, hp, rfl⟩ := List.mem_map.mp hn
  obtain ⟨d, hdep, rfl⟩ := List.mem_map.mp hd
  obtain ⟨q, hq, hname⟩ := h p hp d hdep
  rcases List.mem_append.mp hq with hq | hq
  · exact absurd hname (Order.lastIndex?_eq_none_iff.mp hnone _ (List.mem_map_of_mem hq))
  · exact List.mem_map.mpr ⟨q, hq, hname⟩

theorem openEdges_eq_openDependencies
    (he : Order.edges (plugins.map (Server.node family)) (built.map fun p => (family p).name) =
      .ok es) (hp : plugins[j]? = some p) :
    Order.openEdges es order j = openDependencies family plugins order p := by
  have hn : (plugins.map (Server.node family))[j]? = some (Server.node family p) := by
    rw [List.getElem?_map, hp]
    rfl
  rw [Order.openEdges_eq_countP he hn, openDependencies, Server.node, List.countP_map]
  refine List.countP_congr fun d _ => ?_
  simp only [Function.comp_apply, Option.any_eq_true, decide_eq_true_eq, lastIndex?_eq_some_iff]
  constructor
  · rintro ⟨k, hlast, hout⟩
    obtain ⟨q, hq, -⟩ := hlast.exists_getElem?
    exact ⟨k, (List.getElem?_eq_some_iff.mp hq).1, hlast, hout⟩
  · rintro ⟨k, -, hlast, hout⟩
    exact ⟨k, hlast, hout⟩

/-- At a moment of the sort of these plugins the count of each plugin is the number of its dependencies on
plugins that have not been put out, and of those that are about to be closed.  A count that is lowered
next is not zero, no position has been queued twice, and there are at least as many plugins as positions
that have been put out. -/
structure CountsExact (family : ι → Plugin ι σ ρ) (plugins : List ι) (s : Order.Sorting)
    (ds queued : List Nat) : Prop where
  count : ∀ j p, plugins[j]? = some p →
    s.waiting j = openDependencies family plugins s.order p + ds.count j
  positive : ∀ i rest, ds = i :: rest → 0 < s.waiting i
  queuedOnce : queued.Nodup
  put : s.order.length ≤ plugins.length

theorem countsExact_of_moment
    (he : Order.edges (plugins.map (Server.node family)) (built.map fun p => (family p).name) =
      .ok es) {s : Order.Sorting} {ds queued : List Nat}
    (hm : Order.Moment es plugins.length s ds queued) : CountsExact family plugins s ds queued := by
  have htarget : ∀ e ∈ es, e.target < plugins.length := fun e => by
    simpa using Order.target_lt_of_edges he
  refine ⟨fun j p hp => ?_, ?_, hm.nodup htarget, hm.length_order_le htarget⟩
  · rw [(hm.sound htarget).1.waiting j, openEdges_eq_openDependencies he hp]
  · rintro i rest rfl
    exact hm.waiting_pos htarget

/-- Sorted plugins have been taken from their places, one at each position of the order. -/
theorem takeEach_of_sort
    (h : Order.sort (plugins.map (Server.node family)) (built.map fun p => (family p).name) =
      .ok order) :
    ∃ sorted, Server.sortPlugins family plugins built = .ok sorted ∧
      takeEach (plugins.map some) order = sorted.map some ∧ sorted.Perm plugins := by
  obtain ⟨hperm, -⟩ := Order.sort_ok h
  have hnodup : order.Nodup := hperm.nodup_iff.mpr List.nodup_range
  have hlt : ∀ i ∈ order, i < plugins.length := fun i hi => by
    simpa using hperm.mem_iff.mp hi
  have hsort : Server.sortPlugins family plugins built = .ok (order.filterMap (plugins[·]?)) :=
    Order.map_ok_iff.mpr ⟨order, h, rfl⟩
  exact ⟨_, hsort, takeEach_full hnodup hlt, Server.sortPlugins_perm hsort⟩

/-- **The counts of the sort are exact.**  If each dependency is on the name of some plugin, the sort has
exact counts at every moment, also between the closings of single dependencies, and its queue is empty
after as many steps as there are plugins.  It reports a cycle, or else takes each plugin from its place
once. -/
theorem sort_counts_open_dependencies (family : ι → Plugin ι σ ρ) (plugins built : List ι)
    (h : NamesFound family plugins built) :
    let nodes := plugins.map (Server.node family)
    let names := built.map fun p => (family p).name
    ∃ es, Order.edges nodes names = .ok es ∧
      (∀ s ds queued, Order.Moment es plugins.length s ds queued →
        CountsExact family plugins s ds queued) ∧
      (∀ steps, ∃ queued, Order.Moment es plugins.length
        (Order.run es steps (Order.start es plugins.length)) [] queued) ∧
      (Order.run es plugins.length (Order.start es plugins.length)).queue = [] ∧
      ((∃ cycle, Server.sortPlugins family plugins built = .error (.cycle cycle)) ∨
        ∃ order sorted, Order.sort nodes names = .ok order ∧
          Server.sortPlugins family plugins built = .ok sorted ∧
          takeEach (plugins.map some) order = sorted.map some ∧ sorted.Perm plugins) := by
  intro nodes names
  obtain ⟨es, he⟩ := h.exists_edges
  have htarget : ∀ e ∈ es, e.target < plugins.length := fun e => by
    simpa using Order.target_lt_of_edges he
  refine ⟨es, he, fun s ds queued => countsExact_of_moment he, fun steps => Order.exists_moment_run,
    Order.queue_run_eq_nil htarget, ?_⟩
  obtain ⟨s, -, hsort⟩ := Order.exists_ended_of_edges he
  by_cases hall : s.order.length = nodes.length
  · rw [if_pos hall] at hsort
    obtain ⟨sorted, htaken⟩ := takeEach_of_sort hsort
    exact .inr ⟨s.order, sorted, hsort, htaken⟩
  · rw [if_neg hall] at hsort
    exact .inl ⟨_, by rw [Server.sortPlugins, hsort]; rfl⟩

end Plugins

section Sample

/-- Two plugins of one name, one that depends on that name twice and on a built plugin, one that depends
on itself, and the built one. -/
def repeatingFamily : Fin 5 → Plugin (Fin 5) Unit Unit
  | 0 => ⟨⟨0, "A"⟩, "A", false, [], fun _ => []⟩
  | 1 => ⟨⟨0, "A"⟩, "A", false, [], fun _ => []⟩
  | 2 => ⟨⟨1, "B"⟩, "B", true, [⟨0, "A"⟩, ⟨4, "Core"⟩, ⟨0, "A"⟩], fun _ => []⟩
  | 3 => ⟨⟨2, "C"⟩, "C", true, [⟨2, "C"⟩, ⟨1, "B"⟩], fun _ => []⟩
  | 4 => ⟨⟨4, "Core"⟩, "Core", true, [], fun _ => []⟩

theorem sort_counts_open_dependencies_repeating :
    NamesFound repeatingFamily [2, 0, 3, 1] [4] ∧ NamesFound repeatingFamily [2, 0, 1] [4] ∧
      Server.sortPlugins repeatingFamily [2, 0, 3, 1] [4] = .error (.cycle ["C"]) ∧
      Server.sortPlugins repeatingFamily [2, 0, 1] [4] = .ok [0, 1, 2] ∧
      (∃ es, Order.edges ([2, 0, 3, 1].map (Server.node repeatingFamily)) ["Core"] = .ok es ∧
        ∀ s ds queued, Order.Moment es 4 s ds queued →
          CountsExact repeatingFamily [2, 0, 3, 1] s ds queued) ∧
      takeEach (([2, 0, 1] : List (Fin 5)).map some) [1, 2, 0] = [0, 1, 2].map some := by
  have hcycle : NamesFound repeatingFamily [2, 0, 3, 1] [4] := by
    unfold NamesFound
    decide
  have hfree : NamesFound repeatingFamily [2, 0, 1] [4] := by
    unfold NamesFound
    decide
  obtain ⟨es, he, hcounts, -⟩ := sort_counts_open_dependencies repeatingFamily [2, 0, 3, 1] [4] hcycle
  obtain ⟨-, -, -, -, -, hends⟩ := sort_counts_open_dependencies repeatingFamily [2, 0, 1] [4] hfree
  have hsorted : Server.sortPlugins repeatingFamily [2, 0, 1] [4] = .ok [0, 1, 2] := rfl
  rcases hends with ⟨_, hreported⟩ | ⟨order, sorted, horder, hsort, htaken, -⟩
  · cases hsorted.symm.trans hreported
  · cases hsorted.symm.trans hsort
    have hmade : Order.sort ([2, 0, 1].map (Server.node repeatingFamily)) ["Core"] =
        .ok [1, 2, 0] := rfl
    cases hmade.symm.trans horder
    exact ⟨hcycle, hfree, rfl, hsorted, ⟨es, he, hcounts⟩, htaken⟩

end Sample

end ObjectAssembly

import ObjectAssembly.Proofs.Plugin.DependencyGraph
import ObjectAssembly.Proofs.Plugin.Lifecycle

/-!
# Build order — the order of the sort, told without the sort

`Precedes` says which of two positions comes first in an order: one without dependencies, or else the
one whose last dependency comes first, or else the one that was added first.  There is at most one order
that is sorted in this way and has every position behind its dependencies, since it is determined from
its front on.  The sort produces it.  While it runs, the queue behind the positions that have been put
out is sorted in this way too: a position that joins the queue depends on the position that was put out
last.
-/

namespace ObjectAssembly

namespace Order

/-! ### Orders that are sorted by last dependencies -/

section BuildOrder

variable {dep : Nat → Nat → Prop} {order before rest rest' : List Nat} {i j k l size : Nat}

/-- The position depends on no other. -/
def Free (dep : Nat → Nat → Prop) (i : Nat) : Prop := ∀ j, ¬ dep i j

/-- Of what the first position depends on, the second comes last in the order. -/
structure LastDependency (dep : Nat → Nat → Prop) (order : List Nat) (i k : Nat) : Prop where
  depends : dep i k
  last : ∀ j, dep i j → order.idxOf j ≤ order.idxOf k

/-- In the order the first position comes before the second. -/
inductive Precedes (dep : Nat → Nat → Prop) (order : List Nat) (i j : Nat) : Prop
  | freeFirst (hi : Free dep i) (hj : ¬ Free dep j)
  | free (hi : Free dep i) (hj : Free dep j) (h : i < j)
  | placed {k l : Nat} (hi : LastDependency dep order i k) (hj : LastDependency dep order j l)
      (h : order.idxOf k < order.idxOf l)
  | tied {k : Nat} (hi : LastDependency dep order i k) (hj : LastDependency dep order j k) (h : i < j)

/-- An order of all positions, each behind its dependencies, in which positions without dependencies
come first, as they were added, and the others are sorted by their last dependencies; those that share
it stand as they were added. -/
structure BuildOrder (dep : Nat → Nat → Prop) (size : Nat) (order : List Nat) : Prop where
  perm : order.Perm (List.range size)
  after : ∀ i j, dep i j → order.idxOf j < order.idxOf i
  sorted : order.Pairwise (Precedes dep order)

theorem LastDependency.not_free (h : LastDependency dep order i k) : ¬ Free dep i :=
  fun hfree => hfree k h.depends

theorem LastDependency.idxOf_eq (h : LastDependency dep order i k)
    (h' : LastDependency dep order i l) : order.idxOf k = order.idxOf l :=
  le_antisymm (h'.last k h.depends) (h.last l h'.depends)

theorem Precedes.asymm (h : Precedes dep order i j) : ¬ Precedes dep order j i := by
  intro h'
  cases h with
  | freeFirst hi hj =>
    cases h' with
    | freeFirst hj' _ => exact hj hj'
    | free hj' _ _ => exact hj hj'
    | placed _ hi' _ => exact hi'.not_free hi
    | tied _ hi' _ => exact hi'.not_free hi
  | free hi hj hlt =>
    cases h' with
    | freeFirst _ hi' => exact hi' hi
    | free _ _ hlt' => omega
    | placed _ hi' _ => exact hi'.not_free hi
    | tied _ hi' _ => exact hi'.not_free hi
  | placed hi hj hlt =>
    cases h' with
    | freeFirst hj' _ => exact hj.not_free hj'
    | free hj' _ _ => exact hj.not_free hj'
    | placed hj' hi' hlt' =>
      have hi := hi.idxOf_eq hi'
      have hj := hj.idxOf_eq hj'
      omega
    | tied hj' hi' _ =>
      have hi := hi.idxOf_eq hi'
      have hj := hj.idxOf_eq hj'
      omega
  | tied hi hj hlt =>
    cases h' with
    | freeFirst hj' _ => exact hj.not_free hj'
    | free hj' _ _ => exact hj.not_free hj'
    | placed hj' hi' hlt' =>
      have hi := hi.idxOf_eq hi'
      have hj := hj.idxOf_eq hj'
      omega
    | tied _ _ hlt' => omega

theorem LastDependency.congr {order' : List Nat} (h : LastDependency dep order i k)
    (hi : ∀ j, dep i j → order'.idxOf j = order.idxOf j) : LastDependency dep order' i k := by
  refine ⟨h.depends, fun j hj => ?_⟩
  rw [hi j hj, hi k h.depends]
  exact h.last j hj

/-- Which position comes first depends on the places of their dependencies only. -/
theorem Precedes.congr {order' : List Nat} (h : Precedes dep order i j)
    (hi : ∀ k, dep i k → order'.idxOf k = order.idxOf k)
    (hj : ∀ k, dep j k → order'.idxOf k = order.idxOf k) : Precedes dep order' i j := by
  cases h with
  | freeFirst hfree hnot => exact .freeFirst hfree hnot
  | free hfree hfree' hlt => exact .free hfree hfree' hlt
  | placed hk hl hlt =>
    refine .placed (hk.congr hi) (hl.congr hj) ?_
    rwa [hi _ hk.depends, hj _ hl.depends]
  | tied hk hl hlt => exact .tied (hk.congr hi) (hl.congr hj) hlt

theorem precedes_append (hi : ∀ k, dep i k → k ∈ before) (hj : ∀ k, dep j k → k ∈ before) :
    Precedes dep (before ++ rest) i j ↔ Precedes dep before i j := by
  have hplace : ∀ k ∈ before, (before ++ rest).idxOf k = before.idxOf k := fun _ =>
    List.idxOf_append_of_mem
  constructor
  · exact fun h => h.congr (fun k hk => (hplace k (hi k hk)).symm) fun k hk =>
      (hplace k (hj k hk)).symm
  · exact fun h => h.congr (fun k hk => hplace k (hi k hk)) fun k hk => hplace k (hj k hk)

theorem exists_lastDependency (h : ∀ j, dep i j → j ∈ order) (hfree : ¬ Free dep i) :
    ∃ k, LastDependency dep order i k := by
  classical
  obtain ⟨j, hj⟩ := not_forall_not.mp hfree
  have hmem : ∀ j, dep i j → j ∈ order.toFinset.filter (dep i) := fun j hj =>
    Finset.mem_filter.mpr ⟨List.mem_toFinset.mpr (h j hj), hj⟩
  obtain ⟨k, hk, hmax⟩ := Finset.exists_max_image _ order.idxOf ⟨j, hmem j hj⟩
  exact ⟨k, (Finset.mem_filter.mp hk).2, fun j hj => hmax j (hmem j hj)⟩

theorem BuildOrder.nodup (h : BuildOrder dep size order) : order.Nodup :=
  h.perm.nodup_iff.mpr List.nodup_range

theorem BuildOrder.not_mem (h : BuildOrder dep size (before ++ i :: rest)) : i ∉ before :=
  fun hi => List.disjoint_of_nodup_append h.nodup hi List.mem_cons_self

theorem BuildOrder.mem_before (h : BuildOrder dep size (before ++ i :: rest)) (hd : dep i j) :
    j ∈ before :=
  (idxOf_lt_iff h.not_mem).mp (h.after i j hd)

/-- Where two orders part, the position of the first of them precedes that of the second. -/
theorem BuildOrder.precedes (h : BuildOrder dep size (before ++ i :: rest))
    (h' : BuildOrder dep size (before ++ j :: rest')) (hij : j ≠ i) : Precedes dep before i j := by
  have hmem : j ∈ before ++ i :: rest :=
    (h.perm.trans h'.perm.symm).mem_iff.mpr (List.mem_append_right _ List.mem_cons_self)
  have hrest : j ∈ rest := by simpa [h'.not_mem, hij] using hmem
  have hprecedes : Precedes dep (before ++ i :: rest) i j :=
    (List.pairwise_cons.mp (List.pairwise_append.mp h.sorted).2.1).1 j hrest
  exact (precedes_append (fun _ => h.mem_before) fun _ => h'.mem_before).mp hprecedes

theorem BuildOrder.eq_of_append : ∀ {rest rest' before : List Nat},
    BuildOrder dep size (before ++ rest) → BuildOrder dep size (before ++ rest') → rest = rest'
  | [], [], _, _, _ => rfl
  | [], j :: rest', before, h, h' => by
    have hlength := (h.perm.trans h'.perm.symm).length_eq
    simp at hlength
  | i :: rest, [], before, h, h' => by
    have hlength := (h.perm.trans h'.perm.symm).length_eq
    simp at hlength
  | i :: rest, j :: rest', before, h, h' => by
    -- if the orders part here, each of the two positions precedes the other
    have hij : j = i := by
      by_contra hne
      exact (h.precedes h' hne).asymm (h'.precedes h (Ne.symm hne))
    subst hij
    have hsplit : ∀ l : List Nat, before ++ j :: l = before ++ [j] ++ l := fun l =>
      (List.append_assoc before [j] l).symm
    rw [hsplit] at h h'
    rw [BuildOrder.eq_of_append h h']

/-- There is at most one such order. -/
theorem BuildOrder.unique {order' : List Nat} (h : BuildOrder dep size order)
    (h' : BuildOrder dep size order') : order = order' :=
  @BuildOrder.eq_of_append dep size order order' [] h h'

/-- Positions that can be ordered do not depend on each other in a cycle. -/
theorem BuildOrder.acyclic (h : BuildOrder dep size order) (i : Nat) :
    ¬ Relation.TransGen dep i i :=
  not_transGen_of_rank order.idxOf h.after i

end BuildOrder

/-! ### The queue is sorted -/

section Queue

variable {es : List Edge} {before ds : List Nat} {i j last size fuel : Nat} {s s' : Sorting}

/-- What has been put out and the queue behind it are sorted, and what depends on the position that was
put out last comes before the positions `ds`, whose dependencies on it are still to be closed. -/
structure Sorting.Placed (es : List Edge) (ds : List Nat) (s : Sorting) : Prop where
  sorted : (s.order ++ s.queue).Pairwise (Precedes (Depends es) s.order)
  newest : ∀ before last, s.order = before ++ [last] → ∀ i ∈ s.order ++ s.queue,
    Depends es i last → ∀ d ∈ ds, i ≤ d

theorem free_iff_degree : Free (Depends es) i ↔ degree es i = 0 := by
  unfold degree Free Depends
  rw [List.countP_eq_zero]
  constructor
  · rintro h ⟨source, target⟩ he htarget
    exact h source (beq_iff_eq.mp htarget ▸ he)
  · exact fun h j hj => h _ hj (beq_self_eq_true i)

theorem Sorting.Placed.start (es : List Edge) (size : Nat) : Placed es [] (start es size) where
  sorted := by
    have hrange : (Order.start es size).queue.Pairwise (· < ·) := List.pairwise_lt_range.filter _
    refine hrange.imp_of_mem fun hi hj hlt => ?_
    have hfree : ∀ i ∈ (Order.start es size).queue, Free (Depends es) i := fun i hi =>
      free_iff_degree.mpr (beq_iff_eq.mp (List.mem_filter.mp hi).2)
    exact .free (hfree _ hi) (hfree _ hj) hlt
  newest _ _ _ _ _ _ _ hd := by cases hd

theorem Sorting.Sound.depends_mem (h : Sound es size ds s) (hi : i ∈ s.order ++ s.queue)
    (hd : Depends es i j) : j ∈ s.order :=
  h.closed hi ⟨j, i⟩ hd rfl

/-- A position that depends on the position put out last, and whose dependencies have all been put
out, comes behind those that have been queued. -/
theorem Sorting.Placed.precedes (h : Placed es (i :: ds) s) (hsound : Sound es size (i :: ds) s)
    (hlast : s.order = before ++ [last]) (hdep : Depends es i last)
    (hclosed : ∀ k, Depends es i k → k ∈ s.order) (hj : j ∈ s.order ++ s.queue) :
    Precedes (Depends es) s.order j i := by
  have hnot : last ∉ before := by
    have hnodup := (List.nodup_append.mp hsound.nodup).1
    rw [hlast] at hnodup
    exact fun hmem => List.disjoint_of_nodup_append hnodup hmem (List.mem_singleton_self last)
  have hearlier : ∀ k ∈ s.order, k ≠ last → s.order.idxOf k < s.order.idxOf last := by
    intro k hk hne
    rw [hlast] at hk ⊢
    exact (idxOf_lt_iff hnot).mpr (by simpa [hne] using hk)
  have hi : LastDependency (Depends es) s.order i last := by
    refine ⟨hdep, fun k hk => ?_⟩
    by_cases hkl : k = last
    · rw [hkl]
    · exact Nat.le_of_lt (hearlier k (hclosed k hk) hkl)
  by_cases hfree : Free (Depends es) j
  · exact .freeFirst hfree hi.not_free
  · obtain ⟨k, hk⟩ := exists_lastDependency (fun _ => hsound.depends_mem hj) hfree
    by_cases hkl : k = last
    · subst hkl
      have hle := h.newest before k hlast j hj hk.depends i List.mem_cons_self
      have hne : j ≠ i := fun heq => hsound.not_queued (heq ▸ hj)
      exact .tied hk hi (Nat.lt_of_le_of_ne hle hne)
    · exact .placed hk hi (hearlier k (hsound.depends_mem hj hk.depends) hkl)

theorem Sorting.Placed.settle (h : Placed es (i :: ds) s) (hsound : Sound es size (i :: ds) s)
    (hi : i < size) (hlast : s.order = before ++ [last]) (hdep : Depends es i last)
    (hle : ∀ d ∈ ds, i ≤ d) : Placed es ds (s.settle i) := by
  have hsound' := hsound.settle hi
  have hold : ∀ before last, s.order = before ++ [last] → ∀ j ∈ s.order ++ s.queue,
      Depends es j last → ∀ d ∈ ds, j ≤ d := fun before last hl j hj hd d hmem =>
    h.newest before last hl j hj hd d (List.mem_cons_of_mem i hmem)
  rcases s.settle_queue i with hq | ⟨hq, -⟩
  · refine ⟨?_, ?_⟩ <;> rw [hq]
    · exact h.sorted
    · exact hold
  · have hclosed : ∀ k, Depends es i k → k ∈ s.order := by
      refine fun k hk => hsound'.depends_mem ?_ hk
      rw [hq]
      exact List.mem_append_right _ (List.mem_singleton_self i)
    refine ⟨?_, ?_⟩ <;> rw [hq]
    · refine List.pairwise_append.mpr ⟨h.sorted, List.pairwise_singleton _ i, fun j hj k hk => ?_⟩
      rw [List.mem_singleton.mp hk]
      exact h.precedes hsound hlast hdep hclosed hj
    · intro before last hl j hj hd
      rcases List.mem_append.mp hj with hj | hj
      · exact hold before last hl j hj hd
      · rw [List.mem_singleton.mp hj]
        exact hle

theorem Sorting.Placed.settleAll (h : Placed es ds s) (hsound : Sound es size ds s)
    (hlast : s.order = before ++ [last]) (hds : ∀ i ∈ ds, i < size ∧ Depends es i last)
    (hle : ds.Pairwise (· ≤ ·)) : Placed es [] (ds.foldl Sorting.settle s) := by
  induction ds generalizing s with
  | nil => exact h
  | cons i ds ih =>
    rw [List.forall_mem_cons] at hds
    rw [List.pairwise_cons] at hle
    obtain ⟨⟨hi, hdep⟩, hrest⟩ := hds
    exact ih (h.settle hsound hi hlast hdep hle.1) (hsound.settle hi) hlast hrest hle.2

/-- Putting out the first position of the queue keeps the rest sorted. -/
theorem Sorting.Placed.put {rest : List Nat} (h : Placed es [] s) (hsound : Sound es size [] s)
    (hq : s.queue = i :: rest) : Placed es ds (s.put i rest) := by
  have hlist := Sorting.put_queued hq
  refine ⟨?_, ?_⟩ <;> rw [hlist]
  · refine h.sorted.imp_of_mem fun hj hk hprecedes => ?_
    exact (precedes_append (fun _ => hsound.depends_mem hj) fun _ => hsound.depends_mem hk).mpr
      hprecedes
  · -- nothing that has been queued depends on a position that has not been put out before
    intro before last hl j hj hd
    obtain ⟨-, hil⟩ := List.append_inj' hl rfl
    cases hil
    exact absurd (hsound.depends_mem hj hd) (hsound.not_ordered hq)

theorem pairwise_dependents (hes : es.Pairwise (·.target ≤ ·.target)) (i : Nat) :
    (dependents es i).Pairwise (· ≤ ·) :=
  List.pairwise_map.mpr (hes.filter _)

theorem Sorting.Placed.step (h : Placed es [] s) (hsound : Sound es size [] s)
    (htarget : ∀ e ∈ es, e.target < size) (hes : es.Pairwise (·.target ≤ ·.target))
    (hs : step es s = some s') : Placed es [] s' := by
  obtain ⟨i, rest, hq, rfl⟩ := exists_of_step hs
  refine (h.put hsound hq).settleAll (hsound.put hq) rfl (fun j hj => ?_) (pairwise_dependents hes i)
  have he := mem_dependents.mp hj
  exact ⟨htarget _ he, he⟩

theorem Sorting.Placed.run (htarget : ∀ e ∈ es, e.target < size)
    (hes : es.Pairwise (·.target ≤ ·.target)) : Placed es [] (Order.run es fuel (Order.start es size)) := by
  have hboth : Sound es size [] (Order.run es fuel (Order.start es size)) ∧
      Placed es [] (Order.run es fuel (Order.start es size)) := by
    refine run_keeps (P := fun s => Sound es size [] s ∧ Placed es [] s) ?_
      ⟨Sound.start es size, Placed.start es size⟩
    exact fun s s' h hs => ⟨h.1.step htarget hs, h.2.step h.1 htarget hes hs⟩
  exact hboth.2

end Queue

/-! ### The order of the sort -/

section Sorted

variable {nodes : List Node} {built : List String} {es : List Edge} {order : List Nat}

/-- The edges are listed by target. -/
theorem pairwise_edges (h : edges nodes built = .ok es) : es.Pairwise (·.target ≤ ·.target) := by
  obtain ⟨-, rfl⟩ := edgesFrom_ok_iff.mp h
  have htargets : (nodes.zipIdx 0).Pairwise fun p q => p.2 < q.2 := by
    rw [← List.pairwise_map (f := Prod.snd) (R := (· < ·)), List.zipIdx_map_snd]
    exact List.pairwise_lt_range'
  have htarget : ∀ p : Node × Nat, ∀ e ∈ p.1.dependencies.filterMap fun d =>
      (lastIndex? d 0 nodes).map (⟨·, p.2⟩ : Nat → Edge), e.target = p.2 := by
    intro p e he
    obtain ⟨d, -, hd⟩ := List.mem_filterMap.mp he
    obtain ⟨source, -, rfl⟩ := Option.map_eq_some_iff.mp hd
    rfl
  refine List.pairwise_flatMap.mpr ⟨fun p _ => ?_, htargets.imp fun hlt x hx y hy => ?_⟩
  · refine List.pairwise_of_forall_mem_list fun x hx y hy => ?_
    rw [htarget p x hx, htarget p y hy]
  · rw [htarget _ x hx, htarget _ y hy]
    exact Nat.le_of_lt hlt

/-- **The sort produces the build order**, unless a dependency is missing. -/
theorem sort_ok_iff (he : edges nodes built = .ok es) :
    sort nodes built = .ok order ↔ BuildOrder (Depends es) nodes.length order := by
  have hbuild : ∀ {order}, sort nodes built = .ok order →
      BuildOrder (Depends es) nodes.length order := by
    intro order h
    obtain ⟨es', he', rfl, -⟩ := sort_eq_ok_iff.mp h
    obtain ⟨hperm, _, he'', hordered⟩ := sort_ok h
    cases he.symm.trans he'
    cases he.symm.trans he''
    have htarget : ∀ e ∈ es, e.target < nodes.length := fun _ => target_lt_of_edges he
    refine ⟨hperm, fun i j hd => ?_, ?_⟩
    · have hi := hperm.mem_iff.mpr (List.mem_range.mpr (htarget ⟨j, i⟩ hd))
      exact (hordered.idxOf_lt hi hd).2
    · have hplaced : Sorting.Placed es [] (run es nodes.length (start es nodes.length)) :=
        .run htarget (pairwise_edges he)
      exact (List.pairwise_append.mp hplaced.sorted).1
  refine ⟨hbuild, fun h => ?_⟩
  obtain ⟨order', hsort⟩ := (exists_sort_iff he).mpr (acyclic_iff.mpr h.acyclic)
  rw [hsort, (hbuild hsort).unique h]

end Sorted

end Order

/-! ### Plugins -/

section Plugins

variable {ι σ ρ : Type} {family : ι → Plugin ι σ ρ} {pending built sorted : List ι}

theorem sortPlugins_ok_iff (h : Matched family pending) :
    Server.sortPlugins family pending built = .ok sorted ↔
      ∃ order, Order.BuildOrder (DependsOn family pending) pending.length order ∧
        sorted = order.filterMap (pending[·]?) := by
  obtain ⟨es, he⟩ := h.exists_edges (built.map fun p => (family p).name)
  rw [← depends_eq_dependsOn he]
  simp only [Server.sortPlugins, Order.map_ok_iff, Order.sort_ok_iff he, List.length_map]

/-- **The order of the sort.**  Plugins whose dependencies are all found, and that do not depend on each
other in a cycle, are sorted: the result is a permutation of them, and its order is the only build order
that there is. -/
theorem sortPlugins_build_order (family : ι → Plugin ι σ ρ) (pending built : List ι)
    (hmatched : Matched family pending)
    (hacyclic : ∀ i, ¬ Relation.TransGen (DependsOn family pending) i i) :
    ∃ order, Server.sortPlugins family pending built = .ok (order.filterMap (pending[·]?)) ∧
      (order.filterMap (pending[·]?)).Perm pending ∧
      ∀ order', Order.BuildOrder (DependsOn family pending) pending.length order' ↔
        order' = order := by
  obtain ⟨sorted, hsort⟩ := (exists_sortPlugins_iff hmatched).mpr hacyclic
  obtain ⟨order, horder, rfl⟩ := (sortPlugins_ok_iff hmatched).mp hsort
  refine ⟨order, hsort, Server.sortPlugins_perm hsort, fun order' => ⟨fun h => ?_, ?_⟩⟩
  · exact h.unique horder
  · rintro rfl
    exact horder

end Plugins

section Sample

/-- Two plugins of one name, one that depends on that name twice, and one that depends on the latter. -/
def twinFamily : Fin 4 → Plugin (Fin 4) Unit Unit
  | 0 => ⟨⟨0, "A"⟩, "A", false, [], fun _ => []⟩
  | 1 => ⟨⟨0, "A"⟩, "A", false, [], fun _ => []⟩
  | 2 => ⟨⟨1, "B"⟩, "B", true, [⟨0, "A"⟩, ⟨0, "A"⟩], fun _ => []⟩
  | 3 => ⟨⟨2, "C"⟩, "C", true, [⟨1, "B"⟩], fun _ => []⟩

theorem sortPlugins_build_order_twins :
    Matched twinFamily [3, 0, 2, 1] ∧
      (∀ i, ¬ Relation.TransGen (DependsOn twinFamily [3, 0, 2, 1]) i i) ∧
      Server.sortPlugins twinFamily [3, 0, 2, 1] [] = .ok [0, 1, 2, 3] ∧
      ∀ order, Order.BuildOrder (DependsOn twinFamily [3, 0, 2, 1]) 4 order ↔
        order = [1, 3, 2, 0] := by
  have hmatched : Matched twinFamily [3, 0, 2, 1] := by
    unfold Matched
    decide
  have hranks : ∀ i < 4, ∀ j < 4, DependsOn twinFamily [3, 0, 2, 1] i j →
      [2, 0, 1, 0].getD j 0 < [2, 0, 1, 0].getD i 0 := by
    decide
  have hacyclic : ∀ i, ¬ Relation.TransGen (DependsOn twinFamily [3, 0, 2, 1]) i i :=
    not_transGen_of_rank ([2, 0, 1, 0].getD · 0) fun i j h => hranks i h.lt.1 j h.lt.2 h
  obtain ⟨order, -, -, honly⟩ := sortPlugins_build_order twinFamily [3, 0, 2, 1] [] hmatched hacyclic
  have hbuild : Order.BuildOrder (DependsOn twinFamily [3, 0, 2, 1]) 4 [1, 3, 2, 0] := by
    have hedges : Order.edges ([3, 0, 2, 1].map (Server.node twinFamily)) [] = .ok _ := rfl
    rw [← @depends_eq_dependsOn _ _ _ twinFamily [3, 0, 2, 1] [] _ hedges]
    exact (Order.sort_ok_iff hedges).mp rfl
  rw [← (honly _).mp hbuild] at honly
  exact ⟨hmatched, hacyclic, rfl, honly⟩

end Sample

end ObjectAssembly

import ObjectAssembly.Plugin.Order
import Mathlib.Data.List.Nodup
import Mathlib.Data.List.Perm.Subperm

/-!
# Sorting — the sort puts nodes behind the nodes they depend on

A name stands for the last node that bears it, and each dependency that is a node is an edge.  While
the sort runs, the count of a position is the number of its edges from positions that have not been
put out, and every position that has been queued has count zero.  So a position is put out only
behind the sources of all its edges, and no position is put out twice.
-/

namespace ObjectAssembly.Order

/-! ### Edges -/

section Edges

variable {name : String} {target start i : Nat} {nodes rest : List Node} {built deps : List String}
  {es : List Edge}

theorem map_ok_iff {ε α β : Type} {x : Except ε α} {f : α → β} {b : β} :
    x.map f = .ok b ↔ ∃ a, x = .ok a ∧ b = f a := by
  cases x <;> simp [Except.map, eq_comm]

theorem lastIndex?_eq_none_iff : lastIndex? name start rest = none ↔ ∀ n ∈ rest, n.name ≠ name := by
  induction rest generalizing start with
  | nil => simp [lastIndex?]
  | cons n rest ih =>
    rw [lastIndex?, List.forall_mem_cons, ← @ih (start + 1)]
    cases lastIndex? name (start + 1) rest with
    | some i => simp
    | none => by_cases hn : n.name = name <;> simp [hn]

/-- A name is found at the last node that bears it. -/
theorem exists_of_lastIndex? (h : lastIndex? name start rest = some i) :
    ∃ before n after, rest = before ++ n :: after ∧ i = start + before.length ∧ n.name = name ∧
      ∀ m ∈ after, m.name ≠ name := by
  induction rest generalizing start with
  | nil => cases h
  | cons n rest ih =>
    rw [lastIndex?] at h
    cases hl : lastIndex? name (start + 1) rest with
    | some k =>
      rw [hl] at h
      cases h
      obtain ⟨before, m, after, rfl, hk, hm, hlast⟩ := ih hl
      refine ⟨n :: before, m, after, rfl, ?_, hm, hlast⟩
      rw [hk, List.length_cons]
      omega
    | none =>
      rw [hl] at h
      by_cases hn : n.name = name
      · rw [if_pos hn] at h
        cases h
        exact ⟨[], n, rest, rfl, rfl, hn, lastIndex?_eq_none_iff.mp hl⟩
      · rw [if_neg hn] at h
        cases h

theorem lastIndex?_append {before after : List Node} {n : Node} (hn : n.name = name)
    (hlast : ∀ m ∈ after, m.name ≠ name) :
    lastIndex? name start (before ++ n :: after) = some (start + before.length) := by
  induction before generalizing start with
  | nil => simp only [List.nil_append, lastIndex?, lastIndex?_eq_none_iff.mpr hlast, if_pos hn]; rfl
  | cons m before ih =>
    rw [List.cons_append, lastIndex?, ih, List.length_cons, Nat.add_assoc, Nat.add_comm 1]

theorem lt_of_lastIndex? (h : lastIndex? name 0 nodes = some i) : i < nodes.length := by
  obtain ⟨before, n, after, rfl, rfl, -, -⟩ := exists_of_lastIndex? h
  rw [List.length_append, List.length_cons]
  omega

/-- The edges into a node are those from its dependencies, and a dependency that is no node is built
already. -/
theorem edgesInto_ok_iff :
    edgesInto nodes built target name deps = .ok es ↔
      (∀ d ∈ deps, lastIndex? d 0 nodes = none → d ∈ built) ∧
        es = deps.filterMap fun d => (lastIndex? d 0 nodes).map (⟨·, target⟩) := by
  induction deps generalizing es with
  | nil => simp [edgesInto, eq_comm]
  | cons d deps ih =>
    rw [edgesInto, List.forall_mem_cons]
    cases hl : lastIndex? d 0 nodes with
    | some source =>
      rw [List.filterMap_cons_some (by rw [hl]; rfl)]
      simp only [map_ok_iff, ih]
      constructor
      · rintro ⟨more, ⟨hd, rfl⟩, rfl⟩
        exact ⟨⟨by simp, hd⟩, rfl⟩
      · rintro ⟨⟨-, hd⟩, rfl⟩
        exact ⟨_, ⟨hd, rfl⟩, rfl⟩
    | none =>
      rw [List.filterMap_cons_none (by rw [hl]; rfl)]
      by_cases hd : d ∈ built
      · simp [hd, ih]
      · simp [hd]

/-- The edges into nodes are those from their dependencies, node by node. -/
theorem edgesFrom_ok_iff :
    edgesFrom nodes built start rest = .ok es ↔
      (∀ n ∈ rest, ∀ d ∈ n.dependencies, lastIndex? d 0 nodes = none → d ∈ built) ∧
        es = (rest.zipIdx start).flatMap fun p =>
          p.1.dependencies.filterMap fun d => (lastIndex? d 0 nodes).map (⟨·, p.2⟩) := by
  induction rest generalizing start es with
  | nil => simp [edgesFrom, eq_comm]
  | cons n rest ih =>
    rw [edgesFrom, List.forall_mem_cons, List.zipIdx_cons, List.flatMap_cons]
    cases hi : edgesInto nodes built start n.name n.dependencies with
    | error e =>
      constructor
      · intro h; cases h
      · rintro ⟨⟨hd, -⟩, -⟩
        rw [edgesInto_ok_iff.mpr ⟨hd, rfl⟩] at hi
        cases hi
    | ok into =>
      obtain ⟨hd, rfl⟩ := edgesInto_ok_iff.mp hi
      simp only [map_ok_iff, ih]
      constructor
      · rintro ⟨more, ⟨hds, rfl⟩, rfl⟩
        exact ⟨⟨hd, hds⟩, rfl⟩
      · rintro ⟨⟨-, hds⟩, rfl⟩
        exact ⟨_, ⟨hds, rfl⟩, rfl⟩

/-- Each dependency of a node is an edge, or else it is no node and is built already. -/
theorem edge_of_dependency (h : edges nodes built = .ok es) {n : Node} (hn : nodes[i]? = some n)
    {d : String} (hd : d ∈ n.dependencies) :
    (∃ source, lastIndex? d 0 nodes = some source ∧ ⟨source, i⟩ ∈ es) ∨
      lastIndex? d 0 nodes = none ∧ d ∈ built := by
  obtain ⟨hb, rfl⟩ := edgesFrom_ok_iff.mp h
  cases hl : lastIndex? d 0 nodes with
  | none => exact .inr ⟨rfl, hb n (List.mem_of_getElem? hn) d hd hl⟩
  | some source =>
    refine .inl ⟨source, rfl, List.mem_flatMap.mpr ⟨(n, i), ?_, ?_⟩⟩
    · rw [List.mem_zipIdx_iff_getElem?]
      exact hn
    · exact List.mem_filterMap.mpr ⟨d, hd, by rw [hl]; rfl⟩

/-- An edge leads from where a dependency is found to the node that declares it. -/
theorem dependency_of_edge (h : edges nodes built = .ok es) {e : Edge} (he : e ∈ es) :
    ∃ n d, nodes[e.target]? = some n ∧ d ∈ n.dependencies ∧ lastIndex? d 0 nodes = some e.source := by
  obtain ⟨-, rfl⟩ := edgesFrom_ok_iff.mp h
  obtain ⟨⟨n, j⟩, hn, he⟩ := List.mem_flatMap.mp he
  obtain ⟨d, hd, hmap⟩ := List.mem_filterMap.mp he
  obtain ⟨source, hl, rfl⟩ := Option.map_eq_some_iff.mp hmap
  exact ⟨n, d, List.mem_zipIdx_iff_getElem?.mp hn, hd, hl⟩

theorem target_lt_of_edges (h : edges nodes built = .ok es) {e : Edge} (he : e ∈ es) :
    e.target < nodes.length := by
  obtain ⟨n, d, hn, -, -⟩ := dependency_of_edge h he
  exact (List.getElem?_eq_some_iff.mp hn).1

end Edges

/-! ### The queue -/

section Queue

variable {es : List Edge} {order ds : List Nat} {i j size fuel : Nat} {s s' : Sorting}

/-- How many edges a position has from positions that have not been put out. -/
def openEdges (es : List Edge) (order : List Nat) (target : Nat) : Nat :=
  es.countP fun e => e.target == target && decide (e.source ∉ order)

/-- Every position stands behind the sources of all edges into it. -/
def Ordered (es : List Edge) (order : List Nat) : Prop :=
  ∀ before i after, order = before ++ i :: after → ∀ e ∈ es, e.target = i → e.source ∈ before

/-- A sort under way on positions below `size`, in which the dependencies of `ds` on the last position
are still to be closed. -/
structure Sorting.Sound (es : List Edge) (size : Nat) (ds : List Nat) (s : Sorting) : Prop where
  waiting : ∀ j, s.waiting j = openEdges es s.order j + ds.count j
  settled : ∀ j ∈ s.order ++ s.queue, s.waiting j = 0
  nodup : (s.order ++ s.queue).Nodup
  bound : ∀ j ∈ s.order ++ s.queue, j < size
  ordered : Ordered es s.order

theorem openEdges_eq_zero_iff :
    openEdges es order j = 0 ↔ ∀ e ∈ es, e.target = j → e.source ∈ order := by
  simp [openEdges, List.countP_eq_zero]

/-- Putting out a position closes the edges from it. -/
theorem openEdges_append (hi : i ∉ order) :
    openEdges es order j = openEdges es (order ++ [i]) j + (dependents es i).count j := by
  induction es with
  | nil => rfl
  | cons e es ih =>
    unfold openEdges dependents at ih ⊢
    rw [List.countP_cons, List.countP_cons, ih]
    by_cases hs : e.source = i
    · by_cases ht : e.target = j <;> simp [hs, hi, ht]
      omega
    · by_cases ht : e.target = j <;> by_cases ho : e.source ∈ order <;> simp [hs, ho, ht]
      omega

theorem Ordered.append (h : Ordered es order) (hi : ∀ e ∈ es, e.target = i → e.source ∈ order) :
    Ordered es (order ++ [i]) := by
  intro before k after heq
  rcases List.eq_nil_or_concat after with rfl | ⟨after, x, rfl⟩
  · obtain ⟨rfl, hk⟩ := List.append_inj' heq rfl
    cases hk
    exact hi
  · rw [List.concat_eq_append, ← List.cons_append, ← List.append_assoc] at heq
    obtain ⟨rfl, -⟩ := List.append_inj' heq rfl
    exact h before k after rfl

theorem Sorting.Sound.start (es : List Edge) (size : Nat) : Sound es size [] (start es size) where
  waiting j := by simp [Order.start, degree, openEdges]
  settled j hj := beq_iff_eq.mp (List.mem_filter.mp hj).2
  nodup := List.nodup_range.filter _
  bound j hj := List.mem_range.mp (List.mem_filter.mp hj).1
  ordered before i after h := by cases before <;> cases h

theorem Sorting.settle_waiting (s : Sorting) (i j : Nat) :
    (s.settle i).waiting j = if j = i then s.waiting i - 1 else s.waiting j := rfl

/-- Closing a dependency queues a position when its count falls to zero. -/
theorem Sorting.settle_queue (s : Sorting) (i : Nat) :
    (s.settle i).order ++ (s.settle i).queue = s.order ++ s.queue ∨
      (s.settle i).order ++ (s.settle i).queue = s.order ++ s.queue ++ [i] ∧
        (s.settle i).waiting i = 0 := by
  by_cases h0 : s.waiting i - 1 = 0
  · have hq : (s.settle i).queue = s.queue ++ [i] := if_pos h0
    rw [hq, List.append_assoc, settle_waiting, if_pos rfl]
    exact .inr ⟨rfl, h0⟩
  · have hq : (s.settle i).queue = s.queue := if_neg h0
    rw [hq]
    exact .inl rfl

/-- The sources of all edges into a position that has been queued have been put out. -/
theorem Sorting.Sound.closed (h : Sound es size ds s) (hj : j ∈ s.order ++ s.queue) :
    ∀ e ∈ es, e.target = j → e.source ∈ s.order := by
  have h0 := h.settled j hj
  rw [h.waiting] at h0
  exact openEdges_eq_zero_iff.mp (Nat.eq_zero_of_add_eq_zero_right h0)

/-- A position that has an edge to close has not been queued. -/
theorem Sorting.Sound.not_queued (h : Sound es size (i :: ds) s) : i ∉ s.order ++ s.queue := by
  intro hmem
  have h0 := h.settled i hmem
  rw [h.waiting, List.count_cons_self] at h0
  omega

theorem Sorting.Sound.settle (h : Sound es size (i :: ds) s) (hi : i < size) :
    Sound es size ds (s.settle i) := by
  have hnot := h.not_queued
  have hwait : ∀ j, (s.settle i).waiting j = openEdges es s.order j + ds.count j := by
    intro j
    have hj := h.waiting j
    rw [List.count_cons] at hj
    rw [settle_waiting]
    by_cases hji : j = i
    · subst hji
      rw [if_pos rfl, hj, if_pos (beq_self_eq_true j)]
      omega
    · have hij : ¬ (i == j) = true := fun e => hji (beq_iff_eq.mp e).symm
      rw [if_neg hji, hj, if_neg hij]
      rfl
  have hold : ∀ j ∈ s.order ++ s.queue, (s.settle i).waiting j = 0 := by
    intro j hj
    have hji : ¬ j = i := fun e => hnot (e ▸ hj)
    rw [settle_waiting, if_neg hji]
    exact h.settled j hj
  rcases s.settle_queue i with hq | ⟨hq, h0⟩
  · exact ⟨hwait, hq ▸ hold, hq ▸ h.nodup, hq ▸ h.bound, h.ordered⟩
  · refine ⟨hwait, ?_, ?_, ?_, h.ordered⟩
    · rw [hq]
      exact List.forall_mem_append.mpr ⟨hold, by simpa using h0⟩
    · rw [hq, ← List.concat_eq_append]
      exact h.nodup.concat hnot
    · rw [hq]
      exact List.forall_mem_append.mpr ⟨h.bound, by simpa using hi⟩

theorem Sorting.Sound.settleAll (h : Sound es size ds s) (hds : ∀ i ∈ ds, i < size) :
    Sound es size [] (ds.foldl Sorting.settle s) := by
  induction ds generalizing s with
  | nil => exact h
  | cons i ds ih =>
    rw [List.forall_mem_cons] at hds
    exact ih (h.settle hds.1) hds.2

/-- Takes the first position of the queue, with these behind it, and puts it out. -/
def Sorting.put (s : Sorting) (i : Nat) (rest : List Nat) : Sorting where
  waiting := s.waiting
  queue := rest
  order := s.order ++ [i]

/-- A step puts out the first position of the queue and closes the dependencies on it. -/
theorem exists_of_step (hs : step es s = some s') :
    ∃ i rest, s.queue = i :: rest ∧ s' = (dependents es i).foldl Sorting.settle (s.put i rest) := by
  unfold step at hs
  cases hq : s.queue with
  | nil =>
    rw [hq] at hs
    cases hs
  | cons i rest =>
    rw [hq] at hs
    cases hs
    exact ⟨i, rest, rfl, rfl⟩

theorem queue_of_step_eq_none (hs : step es s = none) : s.queue = [] := by
  unfold step at hs
  cases hq : s.queue with
  | nil => rfl
  | cons i rest =>
    rw [hq] at hs
    cases hs

/-- What each step keeps, a run keeps. -/
theorem run_keeps {P : Sorting → Prop} (hstep : ∀ s s', P s → step es s = some s' → P s')
    (h : P s) : P (run es fuel s) := by
  induction fuel generalizing s with
  | zero => exact h
  | succ fuel ih =>
    rw [run]
    cases hs : step es s with
    | none => exact h
    | some s' => exact ih (hstep s s' h hs)

theorem mem_dependents : j ∈ dependents es i ↔ (⟨i, j⟩ : Edge) ∈ es := by
  unfold dependents
  rw [List.mem_map]
  constructor
  · rintro ⟨e, he, rfl⟩
    obtain ⟨hmem, hsource⟩ := List.mem_filter.mp he
    rwa [← beq_iff_eq.mp hsource]
  · exact fun h => ⟨⟨i, j⟩, List.mem_filter.mpr ⟨h, beq_self_eq_true i⟩, rfl⟩

theorem Sorting.put_queued {rest : List Nat} (hq : s.queue = i :: rest) :
    (s.put i rest).order ++ (s.put i rest).queue = s.order ++ s.queue := by
  rw [hq]
  exact List.append_assoc s.order [i] rest

theorem Sorting.Sound.not_ordered {rest : List Nat} (h : Sound es size ds s)
    (hq : s.queue = i :: rest) : i ∉ s.order := by
  have hnodup := h.nodup
  rw [hq] at hnodup
  exact fun hi => List.disjoint_of_nodup_append hnodup hi List.mem_cons_self

theorem Sorting.Sound.put {rest : List Nat} (h : Sound es size [] s) (hq : s.queue = i :: rest) :
    Sound es size (dependents es i) (s.put i rest) := by
  have hlist := Sorting.put_queued hq
  have hnot := h.not_ordered hq
  have hclosed := h.closed (j := i) (by rw [hq]; simp)
  refine ⟨?_, hlist ▸ h.settled, hlist ▸ h.nodup, hlist ▸ h.bound, h.ordered.append hclosed⟩
  intro j
  show s.waiting j = openEdges es (s.order ++ [i]) j + (dependents es i).count j
  rw [h.waiting, openEdges_append hnot]
  rfl

theorem Sorting.Sound.step (h : Sound es size [] s) (hes : ∀ e ∈ es, e.target < size)
    (hs : step es s = some s') : Sound es size [] s' := by
  obtain ⟨i, rest, hq, rfl⟩ := exists_of_step hs
  exact (h.put hq).settleAll fun j hj => hes ⟨i, j⟩ (mem_dependents.mp hj)

theorem Sorting.Sound.run (h : Sound es size [] s) (hes : ∀ e ∈ es, e.target < size) :
    Sound es size [] (run es fuel s) :=
  run_keeps (fun _ _ h hs => h.step hes hs) h

end Queue

section Sorted

variable {nodes : List Node} {built : List String} {order : List Nat}

theorem sort_eq_ok_iff :
    sort nodes built = .ok order ↔ ∃ es, edges nodes built = .ok es ∧
      (run es nodes.length (start es nodes.length)).order = order ∧ order.length = nodes.length := by
  unfold sort
  cases edges nodes built with
  | error e => simp
  | ok es =>
    by_cases hlength : (run es nodes.length (start es nodes.length)).order.length = nodes.length
    · simp only [if_pos hlength, Except.ok.injEq, exists_eq_left']
      exact ⟨fun h => ⟨h, h ▸ hlength⟩, And.left⟩
    · simp only [if_neg hlength, reduceCtorEq, Except.ok.injEq, exists_eq_left', false_iff]
      rintro ⟨rfl, h⟩
      exact hlength h

/-- **The sort is a topological order.**  If it succeeds, it puts out each position once, behind the
sources of all edges into it. -/
theorem sort_ok (h : sort nodes built = .ok order) :
    order.Perm (List.range nodes.length) ∧ ∃ es, edges nodes built = .ok es ∧ Ordered es order := by
  obtain ⟨es, he, rfl, hlength⟩ := sort_eq_ok_iff.mp h
  have hsound : Sorting.Sound es nodes.length [] (run es nodes.length (start es nodes.length)) :=
    (Sorting.Sound.start es nodes.length).run fun _ => target_lt_of_edges he
  obtain ⟨hnodup, -, -⟩ := List.nodup_append.mp hsound.nodup
  have hsub : _ ⊆ List.range nodes.length := fun i hi =>
    List.mem_range.mpr (hsound.bound i (List.mem_append_left _ hi))
  refine ⟨(hnodup.subperm hsub).perm_of_length_le ?_, es, he, hsound.ordered⟩
  rw [List.length_range]
  exact Nat.le_of_eq hlength.symm

end Sorted

end ObjectAssembly.Order

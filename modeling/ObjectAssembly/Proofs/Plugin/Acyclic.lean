import ObjectAssembly.Proofs.Plugin.Sorting
import Mathlib.Order.WellFoundedSet

/-!
# Acyclic — nodes that do not depend on each other in a cycle can be sorted

While the sort runs, every position whose count is zero has been queued.  So when the queue is empty,
each position that has not been put out depends on another such position, and following dependencies
from there leads into a cycle.  A position that has been put out leads into none, because whatever it
depends on stands before it.
-/

namespace ObjectAssembly

/-- Nothing depends on itself, directly or through others, if everything has a higher rank than what it
depends on. -/
theorem not_transGen_of_rank {α : Type} {dep : α → α → Prop} (rank : α → Nat)
    (h : ∀ a b, dep a b → rank b < rank a) (a : α) : ¬ Relation.TransGen dep a a := by
  intro hcycle
  have hranks : Relation.TransGen (· > ·) (rank a) (rank a) := hcycle.lift rank h
  rw [Relation.transGen_eq_self] at hranks
  exact lt_irrefl _ hranks

namespace Order

variable {es : List Edge} {ds : List Nat} {i j size fuel : Nat} {s s' : Sorting}

/-! ### Nothing is left in the queue -/

/-- Every position whose count is zero has been queued. -/
def Sorting.Full (size : Nat) (s : Sorting) : Prop :=
  ∀ j < size, s.waiting j = 0 → j ∈ s.order ++ s.queue

theorem Sorting.Full.start (es : List Edge) (size : Nat) : Full size (start es size) := by
  intro j hj hzero
  refine List.mem_append_right _ (List.mem_filter.mpr ⟨List.mem_range.mpr hj, ?_⟩)
  exact beq_iff_eq.mpr hzero

theorem Sorting.Full.settle (h : Full size s) (i : Nat) : Full size (s.settle i) := by
  intro j hj hzero
  rw [settle_waiting] at hzero
  by_cases hji : j = i
  · subst hji
    rw [if_pos rfl] at hzero
    have hqueue : (s.settle j).queue = s.queue ++ [j] := if_pos hzero
    rw [hqueue]
    exact List.mem_append_right _ (List.mem_append_right _ (List.mem_singleton_self j))
  · rw [if_neg hji] at hzero
    have hmem := h j hj hzero
    rcases s.settle_queue i with hsame | ⟨hmore, -⟩
    · rwa [hsame]
    · rw [hmore]
      exact List.mem_append_left _ hmem

theorem Sorting.Full.settleAll (h : Full size s) : Full size (ds.foldl Sorting.settle s) := by
  induction ds generalizing s with
  | nil => exact h
  | cons i ds ih => exact ih (h.settle i)

theorem Sorting.Full.step (h : Full size s) (hs : step es s = some s') : Full size s' := by
  obtain ⟨i, rest, hq, rfl⟩ := exists_of_step hs
  refine Sorting.Full.settleAll fun j hj hzero => ?_
  rw [Sorting.put_queued hq]
  exact h j hj hzero

theorem settleAll_order : (ds.foldl Sorting.settle s).order = s.order := by
  induction ds generalizing s with
  | nil => rfl
  | cons i ds ih => exact ih

/-- A run ends with an empty queue, or else it has put out as many positions as it had fuel. -/
theorem run_queue_or_length :
    (run es fuel s).queue = [] ∨ (run es fuel s).order.length = s.order.length + fuel := by
  induction fuel generalizing s with
  | zero => exact .inr rfl
  | succ fuel ih =>
    rw [run]
    cases hs : step es s with
    | none => exact .inl (queue_of_step_eq_none hs)
    | some s' =>
      obtain ⟨i, rest, -, rfl⟩ := exists_of_step hs
      rcases ih with hq | hl
      · exact .inl hq
      · right
        have hlength : ((dependents es i).foldl Sorting.settle (s.put i rest)).order.length =
            s.order.length + 1 := by
          rw [settleAll_order]
          exact List.length_append
        show (run es fuel _).order.length = _
        omega

/-- A sort that has come to its end. -/
structure Sorting.Ended (es : List Edge) (size : Nat) (s : Sorting) : Prop where
  sound : s.Sound es size []
  full : s.Full size
  stopped : s.queue = [] ∨ s.order.length = size

theorem Sorting.Ended.run (h : ∀ e ∈ es, e.target < size) :
    (run es size (start es size)).Ended es size where
  sound := (Sound.start es size).run h
  full := run_keeps (fun _ _ h hs => h.step hs) (Full.start es size)
  stopped := by
    have hstopped := @run_queue_or_length es size (Order.start es size)
    rwa [show (Order.start es size).order.length + size = size from Nat.zero_add size] at hstopped

theorem Sorting.Ended.nodup (h : s.Ended es size) : s.order.Nodup :=
  (List.nodup_append.mp h.sound.nodup).1

/-- As many positions are put out as there are, just if each one is. -/
theorem Sorting.Ended.length_iff (h : s.Ended es size) :
    s.order.length = size ↔ ∀ j < size, j ∈ s.order := by
  have hsub : s.order ⊆ List.range size := fun i hi =>
    List.mem_range.mpr (h.sound.bound i (List.mem_append_left _ hi))
  have hsubperm := h.nodup.subperm hsub
  constructor
  · intro hlength j hj
    have hperm := hsubperm.perm_of_length_le (by rw [hlength, List.length_range])
    exact hperm.mem_iff.mpr (List.mem_range.mpr hj)
  · intro hall
    have hle := hsubperm.length_le
    have hge := (List.nodup_range.subperm fun j hj => hall j (List.mem_range.mp hj)).length_le
    rw [List.length_range] at hle hge
    omega

/-- If positions are left, they are those whose count is not zero. -/
theorem Sorting.Ended.waiting_pos_iff (h : s.Ended es size) (hleft : s.order.length ≠ size)
    (hj : j < size) : 0 < s.waiting j ↔ j ∉ s.order := by
  have hqueue : s.queue = [] := h.stopped.resolve_right hleft
  have hzero : s.waiting j = 0 ↔ j ∈ s.order := by
    constructor
    · intro h0
      have hmem := h.full j hj h0
      rwa [hqueue, List.append_nil] at hmem
    · exact fun hmem => h.sound.settled j (List.mem_append_left _ hmem)
  rw [Nat.pos_iff_ne_zero, ne_eq, hzero]

/-! ### Cycles -/

/-- No position depends on itself, directly or through others. -/
def Acyclic (es : List Edge) : Prop :=
  ∀ i, ¬ Relation.TransGen (fun source target => ⟨source, target⟩ ∈ es) i i

/-- The first position depends on the second. -/
def Depends (es : List Edge) (i j : Nat) : Prop := ⟨j, i⟩ ∈ es

/-- Following dependencies from this position leads into a cycle. -/
def LeadsToCycle (dep : Nat → Nat → Prop) (i : Nat) : Prop :=
  ∃ j, Relation.ReflTransGen dep i j ∧ Relation.TransGen dep j j

/-- From one of these positions that leads into no cycle, another one is reached that depends on none
of them. -/
theorem exists_last_of_not_leadsToCycle {dep : Nat → Nat → Prop} {stuck : List Nat}
    (hj : j ∈ stuck) (h : ¬ LeadsToCycle dep j) : ∃ i ∈ stuck, ∀ k, dep i k → k ∉ stuck := by
  let below k i := Relation.TransGen dep i k ∧ Relation.ReflTransGen dep j i
  have hirrefl : Std.Irrefl below := ⟨fun i ⟨hcycle, hreach⟩ => h ⟨i, hreach, hcycle⟩⟩
  have htrans : IsTrans Nat below := ⟨fun _ _ _ hab hbc => ⟨hbc.1.trans hab.1, hbc.2⟩⟩
  have hstrict : IsStrictOrder Nat below := {}
  have hwf := stuck.finite_toSet.wellFoundedOn (r := below)
  obtain ⟨⟨i, hi⟩, hreach, hlast⟩ :=
    hwf.has_min {x | Relation.ReflTransGen dep j x.1} ⟨⟨j, hj⟩, .refl⟩
  refine ⟨i, hi, fun k hk hmem => ?_⟩
  exact hlast ⟨k, hmem⟩ (Relation.ReflTransGen.tail hreach hk) ⟨.single hk, hreach⟩

theorem idxOf_lt_iff {before after : List Nat} (hi : i ∉ before) :
    (before ++ i :: after).idxOf j < (before ++ i :: after).idxOf i ↔ j ∈ before := by
  rw [List.idxOf_append_of_notMem hi, List.idxOf_cons_self, Nat.add_zero]
  by_cases hj : j ∈ before
  · rw [List.idxOf_append_of_mem hj]
    exact List.idxOf_lt_length_iff
  · rw [List.idxOf_append_of_notMem hj]
    exact iff_of_false (Nat.not_lt.mpr (Nat.le_add_right _ _)) hj

/-- Whatever a position depends on stands before it. -/
theorem Ordered.idxOf_lt {order : List Nat} (h : Ordered es order) (hi : i ∈ order)
    (hd : Depends es i j) : j ∈ order ∧ order.idxOf j < order.idxOf i := by
  obtain ⟨before, after, rfl, hnot⟩ := List.eq_append_cons_of_mem hi
  have hmem : j ∈ before := h before i after rfl ⟨j, i⟩ hd rfl
  exact ⟨List.mem_append_left _ hmem, (idxOf_lt_iff hnot).mpr hmem⟩

theorem Ordered.idxOf_lt_of_transGen {order : List Nat} (h : Ordered es order) (hi : i ∈ order)
    (hd : Relation.TransGen (Depends es) i j) : j ∈ order ∧ order.idxOf j < order.idxOf i := by
  induction hd with
  | single hd => exact h.idxOf_lt hi hd
  | tail _ hd ih =>
    obtain ⟨hmem, hlt⟩ := ih
    obtain ⟨hmem', hlt'⟩ := h.idxOf_lt hmem hd
    exact ⟨hmem', hlt'.trans hlt⟩

theorem Ordered.not_leadsToCycle {order : List Nat} (h : Ordered es order) (hi : i ∈ order) :
    ¬ LeadsToCycle (Depends es) i := by
  rintro ⟨j, hreach, hcycle⟩
  obtain ⟨hmem, -⟩ := h.idxOf_lt_of_transGen hi (Relation.TransGen.trans_right hreach hcycle)
  exact absurd (h.idxOf_lt_of_transGen hmem hcycle).2 (lt_irrefl _)

/-- A sort puts out the positions that lead into no cycle. -/
theorem Sorting.Ended.mem_order_iff (h : s.Ended es size) (hsource : ∀ e ∈ es, e.source < size)
    (hj : j < size) : j ∈ s.order ↔ ¬ LeadsToCycle (Depends es) j := by
  refine ⟨h.sound.ordered.not_leadsToCycle, fun hfree => ?_⟩
  rcases h.stopped with hqueue | hlength
  · by_contra hout
    have hstuck : j ∈ (List.range size).filter (· ∉ s.order) :=
      List.mem_filter.mpr ⟨List.mem_range.mpr hj, decide_eq_true hout⟩
    obtain ⟨i, hi, hlast⟩ := exists_last_of_not_leadsToCycle hstuck hfree
    obtain ⟨hrange, hleft⟩ := List.mem_filter.mp hi
    -- whatever this position depends on has been put out, so it has been queued
    have hclosed : ∀ e ∈ es, e.target = i → e.source ∈ s.order := by
      rintro ⟨k, _⟩ he rfl
      by_contra hopen
      exact hlast k he (List.mem_filter.mpr
        ⟨List.mem_range.mpr (hsource _ he), decide_eq_true hopen⟩)
    have hzero : s.waiting i = 0 := by
      rw [h.sound.waiting, openEdges_eq_zero_iff.mpr hclosed]
      rfl
    have hqueued := h.full i (List.mem_range.mp hrange) hzero
    rw [hqueue, List.append_nil] at hqueued
    exact of_decide_eq_true hleft hqueued
  · exact h.length_iff.mp hlength j hj

/-! ### What the sort answers -/

section Answer

variable {nodes : List Node} {built : List String}

theorem source_lt_of_edges (h : edges nodes built = .ok es) {e : Edge} (he : e ∈ es) :
    e.source < nodes.length := by
  obtain ⟨n, d, -, -, hfound⟩ := dependency_of_edge h he
  exact lt_of_lastIndex? hfound

theorem leadsToCycle_lt (h : edges nodes built = .ok es) (hj : LeadsToCycle (Depends es) j) :
    j < nodes.length := by
  obtain ⟨k, hreach, hcycle⟩ := hj
  obtain ⟨i, he, -⟩ := Relation.TransGen.head'_iff.mp (Relation.TransGen.trans_right hreach hcycle)
  exact target_lt_of_edges h he

/-- All positions are put out iff none leads into a cycle. -/
theorem Sorting.Ended.length_iff_not_leadsToCycle (h : s.Ended es nodes.length)
    (he : edges nodes built = .ok es) :
    s.order.length = nodes.length ↔ ∀ j, ¬ LeadsToCycle (Depends es) j := by
  have hmem : ∀ j < nodes.length, j ∈ s.order ↔ ¬ LeadsToCycle (Depends es) j := fun j hj =>
    h.mem_order_iff (fun e => source_lt_of_edges he) hj
  rw [h.length_iff]
  constructor
  · intro hall j hj
    have hlt := leadsToCycle_lt he hj
    exact (hmem j hlt).mp (hall j hlt) hj
  · exact fun hnone j hj => (hmem j hj).mpr (hnone j)

theorem sort_eq (he : edges nodes built = .ok es) :
    sort nodes built =
      let s := run es nodes.length (start es nodes.length)
      if s.order.length = nodes.length then .ok s.order else
        .error (.cycle ((nodes.zipIdx.filter fun p => decide (0 < s.waiting p.2)).map (·.1.name))) := by
  simp only [sort, he]

theorem exists_ended_of_edges (he : edges nodes built = .ok es) :
    ∃ s : Sorting, s.Ended es nodes.length ∧
      sort nodes built = if s.order.length = nodes.length then .ok s.order else
        .error (.cycle ((nodes.zipIdx.filter fun p => decide (0 < s.waiting p.2)).map (·.1.name))) :=
  ⟨_, .run fun _ => target_lt_of_edges he, sort_eq he⟩

theorem exists_leadsToCycle_iff {dep : Nat → Nat → Prop} :
    (∃ j, LeadsToCycle dep j) ↔ ∃ j, Relation.TransGen dep j j :=
  ⟨fun ⟨_, i, _, hcycle⟩ => ⟨i, hcycle⟩, fun ⟨j, hcycle⟩ => ⟨j, j, .refl, hcycle⟩⟩

theorem acyclic_iff : Acyclic es ↔ ∀ j, ¬ Relation.TransGen (Depends es) j j :=
  forall_congr' fun _ => not_congr Relation.transGen_swap

/-- **Nodes can be sorted** iff they do not depend on each other in a cycle, unless a dependency is
missing. -/
theorem exists_sort_iff (he : edges nodes built = .ok es) :
    (∃ order, sort nodes built = .ok order) ↔ Acyclic es := by
  obtain ⟨s, hended, hsort⟩ := exists_ended_of_edges he
  rw [acyclic_iff, ← not_exists, ← exists_leadsToCycle_iff, not_exists,
    ← hended.length_iff_not_leadsToCycle he, hsort]
  by_cases hlength : s.order.length = nodes.length
  · simp [hlength]
  · simp [hlength]

open scoped Classical in
/-- **The sort reports a cycle** iff nodes depend on each other in one, unless a dependency is missing.
It names the nodes that lead into a cycle. -/
theorem sort_cycle_iff (he : edges nodes built = .ok es) {names : List String} :
    sort nodes built = .error (.cycle names) ↔
      (∃ j, Relation.TransGen (Depends es) j j) ∧
        names = (nodes.zipIdx.filter fun p => LeadsToCycle (Depends es) p.2).map (·.1.name) := by
  obtain ⟨s, hended, hsort⟩ := exists_ended_of_edges he
  have hall := hended.length_iff_not_leadsToCycle he
  rw [hsort, ← exists_leadsToCycle_iff, ← not_forall_not, ← hall]
  by_cases hlength : s.order.length = nodes.length
  · simp [hlength]
  · have hleft : ∀ p ∈ nodes.zipIdx,
        decide (0 < s.waiting p.2) = decide (LeadsToCycle (Depends es) p.2) := by
      rintro ⟨n, j⟩ hp
      have hj : j < nodes.length :=
        (List.getElem?_eq_some_iff.mp (List.mem_zipIdx_iff_getElem?.mp hp)).1
      rw [decide_eq_decide, hended.waiting_pos_iff hlength hj,
        hended.mem_order_iff (fun e => source_lt_of_edges he) hj, not_not]
    rw [if_neg hlength, List.filter_congr hleft]
    simp [hlength, eq_comm]

end Answer

end Order

end ObjectAssembly

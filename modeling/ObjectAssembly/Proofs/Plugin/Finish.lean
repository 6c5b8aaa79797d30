import ObjectAssembly.Proofs.Plugin.Callbacks

/-!
# Finish — the order in which builds begin

A server that has not finished has an empty trace and nothing built.  When it finishes, the builds
that are not inside another one begin in the order of the sort, each after those before it have ended.
-/

namespace ObjectAssembly

variable {ι σ ρ α β : Type} {family : ι → Plugin ι σ ρ} {act : Performer ι σ ρ}
  {s s' : Server ι σ ρ}

/-! ### Calls that are done -/

theorem Result.andThen_eq_done_iff {r : Result ι σ ρ α} {k : α → Server ι σ ρ → Result ι σ ρ β}
    {b : β} : r.andThen k = (.done b, s') ↔ ∃ a mid, r = (.done a, mid) ∧ k a mid = (.done b, s') := by
  rcases r with ⟨⟨a⟩ | ⟨f⟩ | -, mid⟩ <;> simp [Result.andThen]

/-- What holds of the server after a call holds after what follows it, if that keeps it. -/
theorem Result.andThen_snd {P : Server ι σ ρ → Prop} {r : Result ι σ ρ α}
    {k : α → Server ι σ ρ → Result ι σ ρ β} (h : P r.2) (hk : ∀ a mid, P mid → P (k a mid).2) :
    P (r.andThen k).2 := by
  rcases r with ⟨⟨a⟩ | ⟨f⟩ | -, mid⟩
  · exact hk a mid h
  · exact h
  · exact h

/-- What calls in order keep. -/
theorem Server.inTurn_snd {P : Server ι σ ρ → Prop} {call : β → Server ι σ ρ → Result ι σ ρ Unit}
    {bs : List β} (hcall : ∀ b s, P s → P (call b s).2) (h : P s) : P (inTurn call bs s).2 := by
  induction bs generalizing s with
  | nil => exact h
  | cons b rest ih => exact Result.andThen_snd (hcall b s h) fun _ _ => ih

/-! ### Reachable servers -/

/-- What actions make of an empty server, whether they are done or not. -/
inductive Reachable (family : ι → Plugin ι σ ρ) : Server ι σ ρ → Prop
  | new (store : σ) : Reachable family (.new store)
  | perform {s : Server ι σ ρ} (fuel : Nat) (a : Action ι σ ρ) :
      Reachable family s → Reachable family (Server.perform family fuel a s).2

namespace Server

/-- As long as the server has not started, nothing has happened and nothing is built. -/
def Fresh (s : Server ι σ ρ) : Prop := s.state = .notStarted → s.trace = [] ∧ s.built = []

/-! ### The order of builds -/

/-- Builds that are not inside another one begin in this order, each after those before it have
ended. -/
def InOrder (sorted : List ι) (steps : List (TraceEntry ι ρ)) : Prop :=
  ∀ before p after, steps = before ++ .began .build p :: after → underWay [] before = [] →
    ∃ first rest, sorted = first ++ p :: rest ∧ ∀ q ∈ first, .ended .build q ∈ before

variable {state : BuildState} {p : ι} {first rest : List ι} {steps more : List (TraceEntry ι ρ)}

theorem InOrder.of_idle (h : ∀ p, .began .build p ∉ steps) : InOrder rest steps := by
  rintro before p after rfl -
  exact absurd (List.mem_append_right _ List.mem_cons_self) (h p)

/-- A single build is in order: whatever begins inside it begins while it is under way. -/
theorem InOrder.build (h : Balanced state steps) :
    InOrder [p] (.began .build p :: steps ++ [.ended .build p]) := by
  intro before q after heq hunder
  rcases Begins.of_build ⟨after, heq⟩ with ⟨rfl, rfl⟩ | ⟨mid, rfl, rest, rfl⟩
  · exact ⟨[], [], rfl, by simp⟩
  · have hsuf := h.inside mid _ rfl [p]
    have hunder : underWay [p] mid = [] := hunder
    rw [hunder] at hsuf
    cases List.suffix_nil.mp hsuf

theorem InOrder.append (h : InOrder first steps) (hbal : Balanced state steps)
    (hended : ∀ q ∈ first, .ended .build q ∈ steps) (h' : InOrder rest more) :
    InOrder (first ++ rest) (steps ++ more) := by
  intro before p after heq hunder
  rcases Begins.of_append ⟨after, heq⟩ with ⟨mid, hmid⟩ | ⟨mid, rfl, after', hmid⟩
  · obtain ⟨done, next, rfl, hdone⟩ := h before p mid hmid hunder
    exact ⟨done, next ++ rest, List.append_assoc _ _ _, hdone⟩
  · rw [underWay_append, hbal.whole] at hunder
    obtain ⟨done, next, rfl, hdone⟩ := h' mid p after' hmid hunder
    refine ⟨first ++ done, next, (List.append_assoc _ _ _).symm, fun q hq => ?_⟩
    rcases List.mem_append.mp hq with hq | hq
    · exact List.mem_append_left _ (hended q hq)
    · exact List.mem_append_right _ (hdone q hq)

/-- Building sorted plugins begins their builds in order and ends them all. -/
theorem buildAll_adds (hact : Steady .building act) (sorted : List ι) (hs : s.state = .building) :
    Adds (fun steps => Balanced .building steps ∧ InOrder sorted steps ∧
      ∀ p ∈ sorted, .ended .build p ∈ steps) s (buildAll family act sorted s) := by
  induction sorted generalizing s with
  | nil => exact .same rfl rfl ⟨.nil, .of_idle fun _ => List.not_mem_nil, by simp⟩
  | cons p rest ih =>
    have hreport : (s.report (.buildingPlugin (family p).name)).state = .building := hs
    have hbuild : Adds _ s
        (buildPlugin family act p (s.report (.buildingPlugin (family p).name))) :=
      (buildPlugin_adds hact hreport).of_same rfl rfl
    refine hbuild.andThen (fun _ _ hs' => ih (hs'.trans hs)) ?_
    rintro _ more ⟨mid, rfl, hmid⟩ ⟨hbal, horder, hended⟩
    have hone : Balanced .building (.began .build p :: mid ++ [.ended .build p]) :=
      hmid.build (by decide)
    have hend : ∀ q ∈ [p], .ended .build q ∈ .began .build p :: mid ++ [.ended .build p] := by
      intro q hq
      rw [List.mem_singleton.mp hq]
      exact List.mem_append_right _ (List.mem_singleton_self _)
    refine ⟨hone.append hbal, (InOrder.build hmid).append hone hend horder, ?_⟩
    rw [List.forall_mem_cons]
    exact ⟨List.mem_append_left _ (hend p (List.mem_singleton_self p)),
      fun q hq => List.mem_append_right _ (hended q hq)⟩

/-! ### Finishing -/

/-- The server as the builds of `finish` find it. -/
def begun (s : Server ι σ ρ) : Server ι σ ρ := { s with pending := [], state := .building }

/-- The server as the ready callbacks find it. -/
def awaiting (s : Server ι σ ρ) : Server ι σ ρ := { s with state := .built, built := [] }

/-- What `finish` does if the waiting plugins cannot be sorted. -/
theorem finish_of_sort_error {e : OrderError} (hs : s.state = .notStarted)
    (he : sortPlugins family s.pending s.built = .error e) :
    finish family act s = (.fault (.order e), { s with pending := [] }) := by
  unfold finish
  rw [if_neg (not_not.mpr hs), he]

/-- What `finish` does once the waiting plugins are sorted. -/
theorem finish_of_sorted {sorted : List ι} (hs : s.state = .notStarted)
    (hsort : sortPlugins family s.pending s.built = .ok sorted) :
    finish family act s = (buildAll family act sorted s.begun).andThen fun _ mid =>
      (runCallbacks family act .ready mid.built mid.awaiting).andThen fun _ last =>
        (.done (), { last with built := mid.built }.report (.serverReady mid.built.length)) := by
  unfold finish
  rw [if_neg (not_not.mpr hs), hsort]
  rfl

/-- What has happened when `finish` is done. -/
theorem finish_done (h : finish family act s = (.done (), s')) :
    s.state = .notStarted ∧ ∃ sorted mid last, sortPlugins family s.pending s.built = .ok sorted ∧
      buildAll family act sorted s.begun = (.done (), mid) ∧
      runCallbacks family act .ready mid.built mid.awaiting = (.done (), last) ∧
      s' = { last with built := mid.built }.report (.serverReady mid.built.length) := by
  by_cases hs : s.state = .notStarted
  · cases hsort : sortPlugins family s.pending s.built with
    | error e =>
      rw [finish_of_sort_error hs hsort] at h
      cases h
    | ok sorted =>
      rw [finish_of_sorted hs hsort] at h
      obtain ⟨_, mid, hbuilds, h⟩ := Result.andThen_eq_done_iff.mp h
      obtain ⟨_, last, hready, h⟩ := Result.andThen_eq_done_iff.mp h
      cases h
      exact ⟨hs, sorted, mid, last, rfl, hbuilds, hready, rfl⟩
  · rw [finish_of_started hs] at h
    cases h

section Started

variable (hact : ∀ state, state ≠ .notStarted → Steady state act)

include hact

theorem buildAll_begun_adds (sorted : List ι) :
    Adds (fun steps => Balanced .building steps ∧ InOrder sorted steps ∧
      ∀ p ∈ sorted, .ended .build p ∈ steps) s.begun (buildAll family act sorted s.begun) :=
  buildAll_adds (hact .building (by decide)) sorted rfl

theorem ready_awaiting_adds (plugins : List ι) :
    Adds (Balanced .built) s.awaiting (runCallbacks family act .ready plugins s.awaiting) :=
  runCallbacks_adds (hact .built (by decide)) (by decide) plugins rfl

/-- Once the waiting plugins are sorted, the server has started and stays so, however its callbacks
end. -/
theorem finish_started {sorted : List ι} (hs : s.state = .notStarted)
    (hsort : sortPlugins family s.pending s.built = .ok sorted) :
    (finish family act s).2.state ≠ .notStarted := by
  rw [finish_of_sorted hs hsort]
  refine Result.andThen_snd (P := fun s => s.state ≠ .notStarted) ?_ fun _ mid _ => ?_
  · rw [(buildAll_begun_adds hact sorted).state]
    exact BuildState.noConfusion
  · refine Result.andThen_snd (P := fun s => s.state ≠ .notStarted) ?_ fun _ _ hlast => hlast
    rw [(ready_awaiting_adds hact mid.built).state]
    exact BuildState.noConfusion

/-- When a server has been finished, the builds in its trace have begun in the order of the sort. -/
theorem inOrder_of_finish (h : s.Fresh) (hf : finish family act s = (.done (), s')) :
    ∃ sorted, sortPlugins family s.pending [] = .ok sorted ∧ InOrder sorted s'.trace := by
  obtain ⟨hs, sorted, mid, last, hsort, hbuilt, hready, rfl⟩ := finish_done hf
  obtain ⟨ht, hb⟩ := h hs
  obtain ⟨steps, hsteps, hbal, horder, hended⟩ :=
    (buildAll_begun_adds hact sorted).trace () (by rw [hbuilt])
  obtain ⟨more, hmore, hidle⟩ := (ready_awaiting_adds hact mid.built).trace () (by rw [hready])
  refine ⟨sorted, by rw [← hb, hsort], ?_⟩
  have hmid : mid.trace = steps := by
    rw [hbuilt] at hsteps
    exact hsteps.trans (by rw [begun, ht, List.nil_append])
  have hlast : last.trace = steps ++ more := by
    rw [hready] at hmore
    rw [← hmid]
    exact hmore
  show InOrder sorted last.trace
  rw [hlast, ← List.append_nil sorted]
  exact horder.append hbal hended (.of_idle (hidle.idle rfl))

end Started

/-! ### Servers that have not started -/

/-- Nothing is built, and what can happen to the server before it starts keeps this: effects, plugins
that are added to those that wait, and a failure to sort them. -/
structure Unstarted (family : ι → Plugin ι σ ρ) (R : Server ι σ ρ → Prop) : Prop where
  built : ∀ {s}, R s → s.built = []
  effect : ∀ {s} (store : σ) (log : List LogEntry), R s → R { s with store := store, log := log }
  wait : ∀ {s p}, R s → ¬ s.refuses family p = true →
    R { s.enrol (family p).id with pending := s.pending ++ [p] }
  drop : ∀ {s}, R s → R { s with pending := [] }

/-- This holds of the server as long as it has not started. -/
def UntilStarted (R : Server ι σ ρ → Prop) (s : Server ι σ ρ) : Prop := s.state = .notStarted → R s

section Unstarted

variable {R : Server ι σ ρ → Prop} (h : Unstarted family R)

include h

theorem Unstarted.addPlugin (hact : Steady .building act) (p : ι) (hs : UntilStarted R s) :
    UntilStarted R (addPlugin family act p s).2 := by
  by_cases hu : s.refuses family p = true
  · rw [addPlugin_of_refuses hu]
    exact hs
  · by_cases hb : s.state = .building
    · intro hnot
      rw [(addPlugin_adds hact hb).state, hb] at hnot
      cases hnot
    · rw [addPlugin_of_not_building hu hb]
      exact fun hnot => h.wait (hs hnot) hu

theorem Unstarted.finish (hact : ∀ state, state ≠ .notStarted → Steady state act)
    (hs : UntilStarted R s) : UntilStarted R (finish family act s).2 := by
  by_cases hnot : s.state = .notStarted
  · cases hsort : sortPlugins family s.pending s.built with
    | error e =>
      rw [finish_of_sort_error hnot hsort]
      exact fun _ => h.drop (hs hnot)
    | ok sorted => exact fun hstate => absurd hstate (finish_started hact hnot hsort)
  · rw [finish_of_started hnot]
    exact hs

/-- There is nothing to clean up. -/
theorem Unstarted.cleanup (hs : R s) : Server.cleanup family act s = (.done (), s) := by
  obtain ⟨store, pending, built, ids, state, trace, log⟩ := s
  obtain rfl : built = [] := h.built hs
  rfl

/-- No action breaks it as long as the server has not started. -/
theorem Unstarted.perform : ∀ (fuel : Nat) (a : Action ι σ ρ) {s : Server ι σ ρ},
    UntilStarted R s → UntilStarted R (perform family fuel a s).2
  | 0, _, _, hs => hs
  | fuel + 1, a, s, hs => by
    have hsteady : ∀ state, state ≠ .notStarted → Steady state (Server.perform family fuel) :=
      fun state hstate => perform_steady family hstate fuel
    by_cases hnot : s.state = .notStarted
    · cases a with
      | add ps =>
        rw [Server.perform, performWith, addPlugins_eq_inTurn]
        refine Result.andThen_snd (inTurn_snd (fun p s => ?_) hs) fun _ _ hmid => hmid
        exact h.addPlugin (hsteady .building (by decide)) p
      | finish => exact Result.andThen_snd (h.finish hsteady hs) fun _ _ hmid => hmid
      | cleanup =>
        rw [Server.perform, performWith, h.cleanup (hs hnot)]
        exact hs
      | effect run =>
        rw [Server.perform, performWith_effect]
        exact fun _ => h.effect _ _ (hs hnot)
      | choose next =>
        rw [Server.perform, performWith, performAll_eq_inTurn]
        refine Result.andThen_snd (inTurn_snd (fun a s hs => ?_) hs) fun _ _ hmid => hmid
        exact Result.andThen_snd (Unstarted.perform fuel a hs) fun _ _ hmid => hmid
    · intro hstate
      rw [(perform_steady family hnot (fuel + 1) a s rfl).state] at hstate
      exact absurd hstate hnot

theorem Unstarted.of_reachable (hnew : ∀ store, R (.new store)) (hs : Reachable family s) :
    UntilStarted R s := by
  induction hs with
  | new store => exact fun _ => hnew store
  | perform fuel a _ ih => exact h.perform fuel a ih

end Unstarted

/-- Nothing has happened before the server starts. -/
theorem unstarted_fresh (family : ι → Plugin ι σ ρ) :
    Unstarted family fun s => s.trace = [] ∧ s.built = [] where
  built h := h.2
  effect _ _ h := h
  wait h _ := h
  drop h := h

/-- No action gives a server that has not started a past. -/
theorem perform_fresh (family : ι → Plugin ι σ ρ) (fuel : Nat) (a : Action ι σ ρ) (s : Server ι σ ρ)
    (h : s.Fresh) : (perform family fuel a s).2.Fresh :=
  (unstarted_fresh family).perform fuel a h

theorem fresh_of_reachable (h : Reachable family s) : s.Fresh :=
  (unstarted_fresh family).of_reachable (fun _ => ⟨rfl, rfl⟩) h

end Server

end ObjectAssembly

import ObjectAssembly.Proofs.Plugin.Dependencies
import ObjectAssembly.Proofs.Plugin.Termination

/-!
# Lifecycle — builds, ready callbacks and cleanups of a server

Builds nest, and an inner build ends before the one around it; built plugins are listed in the order in
which their builds end.  While a server finishes, each accepted plugin is built once, and once all
builds have ended the built plugins get ready in the order of the list.  Cleaning up runs through the
list backwards and leaves it as it is.
-/

namespace ObjectAssembly

variable {ι σ ρ α β : Type}

/-! ### Builds in a trace -/

section Trace

variable {p q : ι} {steps more : List (TraceEntry ι ρ)}

/-- The plugin whose build begins in this step. -/
def TraceEntry.begunBuild? : TraceEntry ι ρ → Option ι
  | .began .build p => some p
  | _ => none

/-- The plugin whose build ends in this step. -/
def TraceEntry.endedBuild? : TraceEntry ι ρ → Option ι
  | .ended .build p => some p
  | _ => none

theorem TraceEntry.begunBuild?_began {phase : Phase} (h : phase ≠ .build) :
    (TraceEntry.began phase p : TraceEntry ι ρ).begunBuild? = none := by
  cases phase with
  | build => exact absurd rfl h
  | ready => rfl
  | cleanup => rfl

theorem TraceEntry.endedBuild?_ended {phase : Phase} (h : phase ≠ .build) :
    (TraceEntry.ended phase p : TraceEntry ι ρ).endedBuild? = none := by
  cases phase with
  | build => exact absurd rfl h
  | ready => rfl
  | cleanup => rfl

/-- The plugins that begin to build, in order. -/
def buildsBegun (steps : List (TraceEntry ι ρ)) : List ι := steps.filterMap TraceEntry.begunBuild?

/-- The plugins whose builds end, in order. -/
def buildsEnded (steps : List (TraceEntry ι ρ)) : List ι := steps.filterMap TraceEntry.endedBuild?

theorem buildsBegun_append : buildsBegun (steps ++ more) = buildsBegun steps ++ buildsBegun more :=
  List.filterMap_append

theorem buildsEnded_append : buildsEnded (steps ++ more) = buildsEnded steps ++ buildsEnded more :=
  List.filterMap_append

/-- A step in which no build begins. -/
theorem buildsBegun_note {s : Server ι σ ρ} {e : TraceEntry ι ρ} (h : e.begunBuild? = none) :
    buildsBegun (s.note e).trace = buildsBegun s.trace := by
  show buildsBegun (s.trace ++ [e]) = _
  rw [buildsBegun_append]
  simp [buildsBegun, h]

theorem buildsBegun_began {s : Server ι σ ρ} :
    buildsBegun (s.note (.began .build p)).trace = buildsBegun s.trace ++ [p] :=
  buildsBegun_append

/-- A step in which no build ends. -/
theorem buildsEnded_note {s : Server ι σ ρ} {e : TraceEntry ι ρ} (h : e.endedBuild? = none) :
    buildsEnded (s.note e).trace = buildsEnded s.trace := by
  show buildsEnded (s.trace ++ [e]) = _
  rw [buildsEnded_append]
  simp [buildsEnded, h]

theorem buildsBegun_build :
    buildsBegun (.began .build p :: steps ++ [.ended .build p]) = p :: buildsBegun steps := by
  show p :: buildsBegun (steps ++ [.ended .build p]) = p :: buildsBegun steps
  rw [buildsBegun_append]
  exact congrArg _ (List.append_nil _)

theorem buildsEnded_build :
    buildsEnded (.began .build p :: steps ++ [.ended .build p]) = buildsEnded steps ++ [p] :=
  buildsEnded_append

/-- Builds with what they do and the builds inside them, and nothing else. -/
inductive Nested : List (TraceEntry ι ρ) → Prop
  | nil : Nested []
  | did (p : ι) (n : Nat) (reply : Option ρ) : Nested [.did .build p n reply]
  | append {steps more : List (TraceEntry ι ρ)} :
      Nested steps → Nested more → Nested (steps ++ more)
  | build {steps : List (TraceEntry ι ρ)} (p : ι) :
      Nested steps → Nested (.began .build p :: steps ++ [.ended .build p])

/-- One callback of each of these plugins runs, one after the other, and nothing else happens. -/
inductive Consecutive (phase : Phase) : List ι → List (TraceEntry ι ρ) → Prop
  | nil : Consecutive phase [] []
  | cons {p : ι} {plugins : List ι} {inside rest : List (TraceEntry ι ρ)}
      (hinside : ∀ e ∈ inside, ∃ n reply, e = .did phase p n reply) :
      Consecutive phase plugins rest →
      Consecutive phase (p :: plugins) (.began phase p :: inside ++ .ended phase p :: rest)

theorem Nested.balanced (h : Nested steps) : Balanced .building steps := by
  induction h with
  | nil => exact .nil
  | did p n reply => exact .single fun _ => rfl
  | append _ _ ih ih' => exact ih.append ih'
  | build p _ ih => exact ih.build (by decide)

/-- The builds that end are those that begin. -/
theorem Nested.perm (h : Nested steps) : (buildsEnded steps).Perm (buildsBegun steps) := by
  induction h with
  | nil => exact .nil
  | did p n reply => exact .nil
  | append _ _ ih ih' =>
    rw [buildsEnded_append, buildsBegun_append]
    exact ih.append ih'
  | build p _ ih =>
    rw [buildsEnded_build, buildsBegun_build]
    exact (List.perm_append_singleton p _).trans (ih.cons p)

/-- A build ends before the builds that are under way when it begins. -/
theorem Nested.inner_first (h : Nested steps) {before : List (TraceEntry ι ρ)}
    (hb : Begins steps before q) (stack : List ι) :
    ∃ first last inner, buildsEnded steps = first ++ q :: last ∧
      underWay stack before = inner ++ stack ∧ inner.Sublist last := by
  induction h generalizing before stack with
  | nil =>
    obtain ⟨after, hb⟩ := hb
    cases before <;> cases hb
  | did p n reply =>
    obtain ⟨after, hb⟩ := hb
    rcases List.singleton_eq_append_iff.mp hb with ⟨-, h⟩ | ⟨-, h⟩ <;> cases h
  | @append steps more hsteps _ ih ih' =>
    rw [buildsEnded_append]
    rcases hb.of_append with hfirst | ⟨mid, rfl, hmore⟩
    · obtain ⟨first, last, inner, hended, hunder, hsub⟩ := ih hfirst stack
      refine ⟨first, last ++ buildsEnded more, inner, ?_, hunder, ?_⟩
      · rw [hended, List.append_assoc]
        rfl
      · exact hsub.trans (List.sublist_append_left _ _)
    · obtain ⟨first, last, inner, hended, hunder, hsub⟩ := ih' hmore stack
      refine ⟨buildsEnded steps ++ first, last, inner, ?_, ?_, hsub⟩
      · rw [hended, List.append_assoc]
      · rw [underWay_append, hsteps.balanced.whole, hunder]
  | @build steps p _ ih =>
    rw [buildsEnded_build]
    rcases hb.of_build with ⟨rfl, rfl⟩ | ⟨mid, rfl, hmid⟩
    · exact ⟨buildsEnded steps, [], [], rfl, rfl, .slnil⟩
    · obtain ⟨first, last, inner, hended, hunder, hsub⟩ := ih hmid (p :: stack)
      refine ⟨first, last ++ [p], inner ++ [p], ?_, ?_, hsub.append_right [p]⟩
      · rw [hended, List.append_assoc]
        rfl
      · show underWay (p :: stack) mid = inner ++ [p] ++ stack
        rw [hunder, List.append_assoc]
        rfl

end Trace

/-! ### Calls while a server builds -/

/-- The second server comes from the first, which builds, by beginning and ending the builds of these
plugins and of none else. -/
structure Grown (plugins : List ι) (s s' : Server ι σ ρ) : Prop where
  state : s'.state = s.state
  steps : ∃ steps, s'.trace = s.trace ++ steps ∧ s'.built = s.built ++ buildsEnded steps ∧
    Nested steps ∧ buildsBegun steps = plugins

section Grown

variable {plugins more : List ι} {s mid s' : Server ι σ ρ}

theorem Grown.same (hs : s'.state = s.state) (ht : s'.trace = s.trace) (hb : s'.built = s.built) :
    Grown [] s s' :=
  ⟨hs, [], by rw [ht, List.append_nil], by rw [hb]; exact (List.append_nil _).symm, .nil, rfl⟩

theorem Grown.did (s : Server ι σ ρ) (p : ι) (n : Nat) (reply : Option ρ) :
    Grown [] s (s.note (.did .build p n reply)) :=
  ⟨rfl, [.did .build p n reply], rfl, (List.append_nil _).symm, .did p n reply, rfl⟩

theorem Grown.trans (h : Grown plugins s mid) (h' : Grown more mid s') :
    Grown (plugins ++ more) s s' := by
  obtain ⟨hs, steps, ht, hb, hn, rfl⟩ := h
  obtain ⟨hs', steps', ht', hb', hn', rfl⟩ := h'
  refine ⟨hs'.trans hs, steps ++ steps', ?_, ?_, hn.append hn', buildsBegun_append⟩
  · rw [ht', ht, List.append_assoc]
  · rw [hb', hb, buildsEnded_append, List.append_assoc]

/-- A build around others is the last of them to end. -/
theorem Grown.build {p : ι} (h : Grown plugins (s.note (.began .build p)) mid) :
    Grown (p :: plugins) s
      { mid.note (.ended .build p) with built := mid.built ++ [p] } := by
  obtain ⟨hs, steps, ht, hb, hn, rfl⟩ := h
  refine ⟨hs, .began .build p :: steps ++ [.ended .build p], ?_, ?_, hn.build p, buildsBegun_build⟩
  · show mid.trace ++ [.ended .build p] = _
    rw [ht, Server.note, List.append_assoc, List.append_assoc]
    rfl
  · show mid.built ++ [p] = _
    rw [hb, buildsEnded_build, ← List.append_assoc]
    rfl

end Grown

namespace Server

/-- While the server builds, actions that neither finish nor clean up build what they accept. -/
def BuildsAccepted (act : Performer ι σ ρ) (accepts : Action ι σ ρ → Server ι σ ρ → List ι) : Prop :=
  ∀ a : Action ι σ ρ, a.Within True (fun _ => True) → ∀ s s' reply, s.state = .building →
    act a s = (.done reply, s') → Grown (accepts a s) s s'

variable {family : ι → Plugin ι σ ρ} {act : Performer ι σ ρ}
  {accepts : Action ι σ ρ → Server ι σ ρ → List ι} {s s' : Server ι σ ρ} {p : ι}

theorem performOne_done {a : Action ι σ ρ} (h : performOne act a s = (.done (), s')) :
    ∃ reply, act a s = (.done reply, s') := by
  obtain ⟨reply, mid, hone, hmid⟩ := Result.andThen_eq_done_iff.mp h
  cases hmid
  exact ⟨reply, hone⟩

theorem runAction_done {phase : Phase} {a : Action ι σ ρ × Nat}
    (h : runAction act phase p a s = (.done (), s')) :
    ∃ reply mid, act a.1 s = (.done reply, mid) ∧ s' = mid.note (.did phase p a.2 reply) := by
  obtain ⟨reply, mid, hone, hmid⟩ := Result.andThen_eq_done_iff.mp h
  cases hmid
  exact ⟨reply, mid, hone, rfl⟩

/-- An effect reaches the store and the log only. -/
theorem effect_done {run : Effect σ ρ} {reply : Option ρ}
    (h : performWith family act (.effect run) s = (.done reply, s')) :
    ∃ store log, s' = { s with store := store, log := log } := by
  rw [performWith_effect] at h
  exact ⟨_, _, (congrArg Prod.snd h).symm⟩

theorem inTurn_grown {call : β → Server ι σ ρ → Result ι σ ρ Unit}
    {accepts : β → Server ι σ ρ → List ι} {bs : List β}
    (hcall : ∀ b ∈ bs, ∀ s s', s.state = .building → call b s = (.done (), s') →
      Grown (accepts b s) s s')
    (hs : s.state = .building) (h : inTurn call bs s = (.done (), s')) :
    Grown (acceptedInTurn call accepts bs s) s s' := by
  induction bs generalizing s with
  | nil => cases h; exact .same rfl rfl rfl
  | cons b rest ih =>
    obtain ⟨_, mid, hb, hrest⟩ := Result.andThen_eq_done_iff.mp h
    rw [List.forall_mem_cons] at hcall
    have hfirst := hcall.1 s mid hs hb
    rw [acceptedInTurn, hb]
    exact hfirst.trans (ih hcall.2 (hfirst.state.trans hs) hrest)

section Builds

variable (hbuilds : BuildsOnlyAdd family) (hact : BuildsAccepted act accepts)

include hbuilds hact

theorem buildPlugin_grown (hs : s.state = .building)
    (h : buildPlugin family act p s = (.done (), s')) :
    Grown (p :: acceptedInCallback family act accepts .build p s) s s' := by
  obtain ⟨_, last, hcall, hbuilt⟩ := Result.andThen_eq_done_iff.mp h
  cases hbuilt
  obtain ⟨_, mid, hrun, hended⟩ := Result.andThen_eq_done_iff.mp hcall
  cases hended
  rw [runActions_eq_inTurn] at hrun
  refine Grown.build (inTurn_grown ?_ hs hrun)
  intro a ha s s' hs hdone
  obtain ⟨reply, mid, hperformed, rfl⟩ := runAction_done hdone
  have hwithin := hbuilds p a.1 (List.fst_mem_of_mem_zipIdx ha)
  have hgrown := (hact a.1 hwithin s mid reply hs hperformed).trans (.did mid p a.2 reply)
  rwa [List.append_nil] at hgrown

theorem addPlugin_grown (hs : s.state = .building) (h : addPlugin family act p s = (.done (), s')) :
    Grown (acceptedInAddition family act accepts p s) s s' := by
  by_cases hu : s.refuses family p = true
  · rw [addPlugin_of_refuses hu] at h
    cases h
  · rw [addPlugin_of_building hu hs] at h
    rw [acceptedInAddition, if_neg hu, if_pos hs]
    have henrolled : Grown [] s (s.enrol (family p).id) := .same rfl rfl rfl
    exact henrolled.trans (buildPlugin_grown hbuilds hact hs h)

theorem performWith_buildsAccepted :
    BuildsAccepted (performWith family act) (acceptedWith family act accepts) := by
  intro a hwithin s s' reply hs h
  cases hwithin with
  | add _ ps =>
    obtain ⟨_, mid, hadded, hmid⟩ := Result.andThen_eq_done_iff.mp h
    cases hmid
    rw [addPlugins_eq_inTurn] at hadded
    exact inTurn_grown (fun p _ s s' => addPlugin_grown hbuilds hact) hs hadded
  | effect _ =>
    obtain ⟨store, log, rfl⟩ := effect_done h
    exact .same rfl rfl rfl
  | choose hnext =>
    obtain ⟨_, mid, hperformed, hmid⟩ := Result.andThen_eq_done_iff.mp h
    cases hmid
    rw [performAll_eq_inTurn] at hperformed
    refine inTurn_grown (fun a ha s s' hs hdone => ?_) hs hperformed
    obtain ⟨reply, hone⟩ := performOne_done hdone
    exact hact a (hnext _ _ a ha) s s' reply hs hone

end Builds

theorem perform_buildsAccepted (hbuilds : BuildsOnlyAdd family) :
    ∀ fuel, BuildsAccepted (perform family fuel) (accepted family fuel)
  | 0 => fun _ _ _ _ _ _ h => by cases h
  | fuel + 1 => performWith_buildsAccepted hbuilds (perform_buildsAccepted hbuilds fuel)

/-! ### Finishing -/

theorem filterMap_range_getElem? (plugins : List ι) :
    (List.range plugins.length).filterMap (plugins[·]?) = plugins := by
  induction plugins with
  | nil => rfl
  | cons p rest ih =>
    rw [List.length_cons, List.range_succ_eq_map, List.filterMap_cons_some, List.filterMap_map]
    · exact congrArg (p :: ·) ih
    · rfl

/-- Sorting loses no plugin. -/
theorem sortPlugins_perm {pending built sorted : List ι}
    (h : sortPlugins family pending built = .ok sorted) : sorted.Perm pending := by
  obtain ⟨order, hsort, rfl⟩ := Order.map_ok_iff.mp h
  have hperm := (Order.sort_ok hsort).1.filterMap (pending[·]?)
  rwa [List.length_map, filterMap_range_getElem?] at hperm

theorem acceptedInTurn_cons_perm {call : ι → Server ι σ ρ → Result ι σ ρ Unit}
    {accepts : ι → Server ι σ ρ → List ι} {plugins : List ι}
    (h : inTurn call plugins s = (.done (), s')) :
    (acceptedInTurn call (fun p s => p :: accepts p s) plugins s).Perm
      (plugins ++ acceptedInTurn call accepts plugins s) := by
  induction plugins generalizing s with
  | nil => exact .nil
  | cons p rest ih =>
    obtain ⟨_, mid, hp, hrest⟩ := Result.andThen_eq_done_iff.mp h
    rw [acceptedInTurn, acceptedInTurn, hp]
    exact (((ih hrest).append_left _).trans (List.perm_append_comm_assoc _ _ _)).cons p

/-- Building sorted plugins builds them and all that are accepted meanwhile. -/
theorem buildAll_grown (hbuilds : BuildsOnlyAdd family) (hact : BuildsAccepted act accepts)
    {sorted : List ι} (hs : s.state = .building) (h : buildAll family act sorted s = (.done (), s')) :
    ∃ plugins, plugins.Perm (sorted ++ acceptedInBuilds family act accepts sorted s) ∧
      Grown plugins s s' := by
  rw [buildAll_eq_inTurn] at h
  refine ⟨_, acceptedInTurn_cons_perm h, inTurn_grown (fun p _ s s' hs hdone => ?_) hs h⟩
  have hannounced : Grown [] s (s.announce family p) := .same rfl rfl rfl
  exact hannounced.trans (buildPlugin_grown hbuilds hact hs hdone)

/-! ### Callbacks that add nothing -/

/-- The second server has the trace and the built plugins of the first. -/
structure Untouched (s s' : Server ι σ ρ) : Prop where
  trace : s'.trace = s.trace
  built : s'.built = s.built

theorem Untouched.refl (s : Server ι σ ρ) : Untouched s s := ⟨rfl, rfl⟩

theorem Untouched.trans {s mid s' : Server ι σ ρ} (h : Untouched s mid) (h' : Untouched mid s') :
    Untouched s s' :=
  ⟨h'.trace.trans h.trace, h'.built.trans h.built⟩

/-- The second server comes from the first by actions of this callback, which build nothing. -/
def Did (phase : Phase) (p : ι) (s s' : Server ι σ ρ) : Prop :=
  ∃ inside, s'.trace = s.trace ++ inside ∧ (∀ e ∈ inside, ∃ n reply, e = .did phase p n reply) ∧
    s'.built = s.built

theorem Did.refl (phase : Phase) (p : ι) (s : Server ι σ ρ) : Did phase p s s :=
  ⟨[], (List.append_nil _).symm, by simp, rfl⟩

theorem Did.trans {phase : Phase} {s mid s' : Server ι σ ρ} (h : Did phase p s mid)
    (h' : Did phase p mid s') : Did phase p s s' := by
  obtain ⟨inside, htrace, hinside, hbuilt⟩ := h
  obtain ⟨more, htrace', hmore, hbuilt'⟩ := h'
  refine ⟨inside ++ more, ?_, List.forall_mem_append.mpr ⟨hinside, hmore⟩, hbuilt'.trans hbuilt⟩
  rw [htrace', htrace, List.append_assoc]

/-- Actions that add nothing leave the trace and the built plugins as they are. -/
def Quiet (act : Performer ι σ ρ) : Prop :=
  ∀ a : Action ι σ ρ, a.Within False (fun _ => True) → ∀ s s' reply,
    act a s = (.done reply, s') → Untouched s s'

theorem inTurn_related {R : Server ι σ ρ → Server ι σ ρ → Prop}
    {call : β → Server ι σ ρ → Result ι σ ρ Unit} {bs : List β} (hrefl : ∀ s, R s s)
    (htrans : ∀ s mid s', R s mid → R mid s' → R s s')
    (hcall : ∀ b ∈ bs, ∀ s s', call b s = (.done (), s') → R s s')
    (h : inTurn call bs s = (.done (), s')) : R s s' := by
  induction bs generalizing s with
  | nil => cases h; exact hrefl _
  | cons b rest ih =>
    obtain ⟨_, mid, hb, hrest⟩ := Result.andThen_eq_done_iff.mp h
    rw [List.forall_mem_cons] at hcall
    exact htrans s mid s' (hcall.1 s mid hb) (ih hcall.2 hrest)

theorem perform_quiet (family : ι → Plugin ι σ ρ) : ∀ fuel, Quiet (perform family fuel)
  | 0 => fun _ _ _ _ _ h => by cases h
  | fuel + 1 => by
    intro a hwithin s s' reply h
    cases hwithin with
    | add hfalse _ => exact hfalse.elim
    | effect _ =>
      obtain ⟨store, log, rfl⟩ := effect_done h
      exact ⟨rfl, rfl⟩
    | choose hnext =>
      obtain ⟨_, mid, hperformed, hmid⟩ := Result.andThen_eq_done_iff.mp h
      cases hmid
      rw [performAll_eq_inTurn] at hperformed
      refine inTurn_related Untouched.refl (fun _ _ _ => Untouched.trans) ?_ hperformed
      intro a ha s s' hdone
      obtain ⟨reply, hone⟩ := performOne_done hdone
      exact perform_quiet family fuel a (hnext _ _ a ha) s s' reply hone

/-- A callback that adds nothing begins, does what it does and ends. -/
theorem runCallback_quiet {phase : Phase} (hact : Quiet act)
    (hwithin : ∀ a ∈ (family p).callback phase, a.Within False fun _ => True)
    (h : runCallback family act phase p s = (.done (), s')) :
    ∃ inside, s'.trace = s.trace ++ (.began phase p :: inside ++ [.ended phase p]) ∧
      (∀ e ∈ inside, ∃ n reply, e = .did phase p n reply) ∧ s'.built = s.built := by
  obtain ⟨_, mid, hrun, hended⟩ := Result.andThen_eq_done_iff.mp h
  cases hended
  rw [runActions_eq_inTurn] at hrun
  have hdid : Did phase p (s.note (.began phase p)) mid := by
    refine inTurn_related (Did.refl phase p) (fun _ _ _ => Did.trans) ?_ hrun
    intro a ha s s' hdone
    obtain ⟨reply, mid, hone, rfl⟩ := runAction_done hdone
    obtain ⟨ht, hb⟩ := hact a.1 (hwithin a.1 (List.fst_mem_of_mem_zipIdx ha)) s mid reply hone
    refine ⟨[.did phase p a.2 reply], ?_, by simp, hb⟩
    rw [note, ht]
  obtain ⟨inside, htrace, hinside, hbuilt⟩ := hdid
  refine ⟨inside, ?_, hinside, hbuilt⟩
  rw [note, htrace, note, List.append_assoc, List.append_assoc]
  rfl

/-- Callbacks that add nothing run one after the other. -/
theorem runCallbacks_consecutive {phase : Phase} (hact : Quiet act)
    (hwithin : ∀ p, ∀ a ∈ (family p).callback phase, a.Within False fun _ => True)
    {plugins : List ι} (h : runCallbacks family act phase plugins s = (.done (), s')) :
    ∃ steps, s'.trace = s.trace ++ steps ∧ Consecutive phase plugins steps ∧ s'.built = s.built := by
  induction plugins generalizing s with
  | nil => cases h; exact ⟨[], (List.append_nil _).symm, .nil, rfl⟩
  | cons p rest ih =>
    obtain ⟨_, mid, hp, hrest⟩ := Result.andThen_eq_done_iff.mp h
    obtain ⟨inside, htrace, hinside, hbuilt⟩ := runCallback_quiet hact (hwithin p) hp
    obtain ⟨steps, htrace', hsteps, hbuilt'⟩ := ih hrest
    refine ⟨_, ?_, .cons hinside hsteps, hbuilt'.trans hbuilt⟩
    rw [htrace', htrace, List.append_assoc, List.append_assoc]
    rfl

/-- Callbacks that do nothing. -/
theorem runCallbacks_of_nil {plugins : List ι} {phase : Phase}
    (act : Performer ι σ ρ) (s : Server ι σ ρ)
    (hphase : phase ≠ .build) (h : ∀ p ∈ plugins, (family p).callback phase = []) :
    ∃ s', runCallbacks family act phase plugins s = (.done (), s') ∧
      s'.store = s.store ∧ s'.state = s.state ∧ buildsBegun s'.trace = buildsBegun s.trace := by
  induction plugins generalizing s with
  | nil => exact ⟨s, rfl, rfl, rfl, rfl⟩
  | cons p rest ih =>
    rw [List.forall_mem_cons] at h
    have hfirst : runCallback family act phase p s =
        (.done (), (s.note (.began phase p)).note (.ended phase p)) := by
      rw [runCallback, h.1]
      rfl
    obtain ⟨s', hrun, hstore, hstate, hbegun⟩ :=
      ih ((s.note (.began phase p)).note (.ended phase p)) h.2
    have hnoted : buildsBegun ((s.note (.began phase p)).note (.ended phase p)).trace =
        buildsBegun s.trace := by
      rw [buildsBegun_note rfl, buildsBegun_note (TraceEntry.begunBuild?_began hphase)]
    refine ⟨s', ?_, hstore, hstate, hbegun.trans hnoted⟩
    rw [runCallbacks, hfirst]
    exact hrun

/-- Cleaning up runs backwards through the built plugins and leaves them as they are. -/
theorem cleanup_consecutive (honly : OnlyBuildsAdd family) (hact : Quiet act)
    (h : cleanup family act s = (.done (), s')) :
    ∃ steps, s'.trace = s.trace ++ steps ∧ Consecutive .cleanup s.built.reverse steps ∧
      s'.built = s.built := by
  obtain ⟨_, mid, hrun, hmid⟩ := Result.andThen_eq_done_iff.mp h
  cases hmid
  obtain ⟨steps, htrace, hsteps, -⟩ :=
    runCallbacks_consecutive hact (honly.later (by decide)) hrun
  exact ⟨steps, htrace, hsteps, rfl⟩

/-! ### Calls that come to an end -/

/-- With enough fuel the call is done, in the same way with all of it. -/
def Settles (call : Nat → Server ι σ ρ → Result ι σ ρ α) (s : Server ι σ ρ) : Prop :=
  ∃ n a s', ∀ fuel, n ≤ fuel → call fuel s = (.done a, s')

/-- If no cleanup panics, cleaning up comes to an end. -/
theorem cleanup_settles (htotal : CleanupIsTotal family) (s : Server ι σ ρ) :
    Settles (fun fuel => perform family fuel .cleanup) s := by
  have hany : Coarse fun _ : Server ι σ ρ => True := fun _ _ _ => trivial
  have hall : Ends (fun _ => False) 0 (fun _ => True) (fun fuel d =>
      runCallbacks family (performNested family fuel d) .cleanup s.built.reverse)
      { s with built := [] } :=
    runCallbacks_ends hany
      (fun p _ a ha => performNested_ends_of_within hany False.elim (htotal p a ha)) trivial
  have hcleanup : Ends (fun _ => False) 0 (fun _ => True)
      (fun fuel d => cleanup family (performNested family fuel d)) s :=
    hall.andThen (fun _ _ _ => .done () ({ · with built := s.built }) trivial) fun _ => id
  have hperform : Ends (fun _ => False) 0 (fun _ => True)
      (fun fuel d => performNested family fuel d .cleanup) s :=
    (hcleanup.andThen (fun _ _ _ => .done none id trivial) fun _ => id).succ
      fun d hd => ⟨d, hd, fun fuel => performNested_of_room rfl fuel s⟩
  obtain ⟨n, a, s', hn⟩ := hperform.exists_done
  refine ⟨n, a, s', fun fuel hfuel => ?_⟩
  show perform family fuel .cleanup s = _
  rw [← performNested_of_le (Nat.le_refl fuel)]
  exact hn fuel hfuel fuel (Nat.zero_le fuel)

/-- A server that has finished has gone through builds and then through ready callbacks. -/
theorem finish_grown {fuel : Nat} (honly : OnlyBuildsAdd family) (hfresh : s.Fresh)
    (h : finish family (perform family fuel) s = (.done (), s')) :
    ∃ builds readies, s'.trace = builds ++ readies ∧ Nested builds ∧
      (buildsBegun builds).Perm (s.pending ++ accepted family (fuel + 1) .finish s) ∧
      s'.built = buildsEnded builds ∧ Consecutive .ready s'.built readies := by
  obtain ⟨hs, sorted, mid, last, hsort, hbuilds, hready, rfl⟩ := finish_done h
  obtain ⟨plugins, hperm, -, builds, htrace, hbuilt, hnested, rfl⟩ :=
    buildAll_grown honly.builds (perform_buildsAccepted honly.builds fuel) rfl hbuilds
  obtain ⟨readies, htrace', hreadies, -⟩ :=
    runCallbacks_consecutive (perform_quiet family fuel) (honly.later (by decide)) hready
  obtain ⟨hempty, hnone⟩ := hfresh hs
  have hmid : mid.built = buildsEnded builds := hbuilt.trans (by rw [begun, hnone]; rfl)
  refine ⟨builds, readies, ?_, hnested, ?_, hmid, hreadies⟩
  · show last.trace = builds ++ readies
    rw [htrace', awaiting, htrace, begun, hempty]
    rfl
  · rw [accepted_finish honly hs hsort]
    exact hperm.trans ((sortPlugins_perm hsort).append_right _)

end Server

/-- **The life of plugins.**  If only builds add plugins, a server that finishes builds each accepted
plugin once.  When all builds have ended, the built plugins get ready in the order in which their builds
ended, so those whose builds began inside another one come before it.  Cleaning up runs once through the
built plugins in the reverse order and keeps them, and it comes to an end if no cleanup panics. -/
theorem lifecycle_in_order (family : ι → Plugin ι σ ρ) (fuel : Nat) (s s' : Server ι σ ρ)
    (reply : Option ρ) (honly : OnlyBuildsAdd family) (hs : Reachable family s)
    (hf : Server.perform family fuel .finish s = (.done reply, s')) :
    ∃ builds readies, s'.trace = builds ++ readies ∧ Nested builds ∧
      (buildsBegun builds).Perm (s.pending ++ Server.accepted family fuel .finish s) ∧
      (buildsEnded builds).Perm (buildsBegun builds) ∧
      s'.built = buildsEnded builds ∧
      (∀ before q, Begins builds before q → ∃ first last, s'.built = first ++ q :: last ∧
        (underWay [] before).Sublist last) ∧
      Consecutive .ready s'.built readies ∧
      ∀ t : Server ι σ ρ, t.built = s'.built →
        (∀ fuel' t' reply', Server.perform family fuel' .cleanup t = (.done reply', t') →
          ∃ cleanups, t'.trace = t.trace ++ cleanups ∧
            Consecutive .cleanup s'.built.reverse cleanups ∧ t'.built = s'.built) ∧
        (CleanupIsTotal family →
          Server.Settles (fun fuel' => Server.perform family fuel' .cleanup) t) := by
  cases fuel with
  | zero => cases hf
  | succ fuel =>
    obtain ⟨_, mid, hfinish, hmid⟩ := Result.andThen_eq_done_iff.mp hf
    cases hmid
    obtain ⟨builds, readies, htrace, hnested, hbegun, hbuilt, hready⟩ :=
      Server.finish_grown honly (Server.fresh_of_reachable hs) hfinish
    refine ⟨builds, readies, htrace, hnested, hbegun, hnested.perm, hbuilt, ?_, hready, ?_⟩
    · intro before q hb
      obtain ⟨first, last, inner, hended, hunder, hsub⟩ := hnested.inner_first hb []
      refine ⟨first, last, hbuilt.trans hended, ?_⟩
      rwa [hunder, List.append_nil]
    · intro t ht
      refine ⟨fun fuel' t' reply' hcleanup => ?_, fun htotal => Server.cleanup_settles htotal t⟩
      cases fuel' with
      | zero => cases hcleanup
      | succ fuel' =>
        obtain ⟨_, last, hrun, hlast⟩ := Result.andThen_eq_done_iff.mp hcleanup
        cases hlast
        rw [← ht]
        exact Server.cleanup_consecutive honly (Server.perform_quiet family fuel') hrun

section Sample

/-- Three plugins, each of which adds the next while it builds and writes to the store at other
times. -/
def towerFamily (p : Fin 3) : Plugin (Fin 3) Nat Unit where
  id := match p with | 0 => ⟨0, "Base"⟩ | 1 => ⟨1, "Middle"⟩ | 2 => ⟨2, "Top"⟩
  name := match p with | 0 => "Base" | 1 => "Middle" | 2 => "Top"
  unique := true
  dependencies := []
  callback
    | .build => [.add (match p with | 0 => [1] | 1 => [2] | 2 => [])]
    | _ => [.effect fun _ _ => ⟨p, [], .ok none⟩]

/-- The server to which the first of them has been added. -/
def towerServer : Server (Fin 3) Nat Unit :=
  (Server.perform towerFamily 1 (.add [0]) (.new 0)).2

theorem lifecycle_in_order_tower :
    ∃ s', Server.perform towerFamily 5 .finish towerServer = (.done none, s') ∧
      OnlyBuildsAdd towerFamily ∧ CleanupIsTotal towerFamily ∧
      ∃ builds readies, s'.trace = builds ++ readies ∧
        (buildsBegun builds).Perm [0, 1, 2] ∧ Consecutive .ready [2, 1, 0] readies ∧
        Server.Settles (fun fuel => Server.perform towerFamily fuel .cleanup) s' := by
  have honly : OnlyBuildsAdd towerFamily := by
    rintro p (_ | _ | _) a ha <;> obtain rfl := List.mem_singleton.mp ha
    · exact .add rfl _
    · exact .effect trivial
    · exact .effect trivial
  have htotal : CleanupIsTotal towerFamily := by
    intro p a ha
    obtain rfl := List.mem_singleton.mp ha
    exact .effect fun _ _ => ⟨none, rfl⟩
  have hf : Server.perform towerFamily 5 .finish towerServer = (.done none, _) := rfl
  obtain ⟨builds, readies, htrace, -, hbegun, -, -, -, hready, hcleanup⟩ :=
    lifecycle_in_order _ _ _ _ _ honly (.perform 1 _ (.new 0)) hf
  exact ⟨_, hf, honly, htotal, builds, readies, htrace, hbegun, hready, (hcleanup _ rfl).2 htotal⟩

end Sample

end ObjectAssembly

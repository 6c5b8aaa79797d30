import ObjectAssembly.Proofs.Plugin.Lifecycle

/-!
# Placement — where a server that has started puts the plugins that it accepts

While a server builds, a plugin that it accepts is built at once, inside the call that adds it.  Once
the server is built the plugin waits.  A call that is done has placed all the plugins that it accepts in
this way, those that callbacks add as well.
-/

namespace ObjectAssembly

variable {ι σ ρ α β : Type}

/-! ### Calls on a server that has started -/

section Places

variable {family : ι → Plugin ι σ ρ} {act : Performer ι σ ρ} {state : BuildState}
  {new placed more : List ι} {s s' : Server ι σ ρ} {r : Result ι σ ρ α} {p : ι}

/-- The call adds the types of new plugins to those that have been added, and places plugins: while the
server builds they are built if the call is done, and at other times they wait. -/
structure Places (family : ι → Plugin ι σ ρ) (new placed : List ι) (s : Server ι σ ρ)
    (r : Result ι σ ρ α) : Prop where
  state : r.2.state = s.state
  ids : ∀ id, id ∈ r.2.ids ↔ id ∈ s.ids ∨ ∃ p ∈ new, (family p).id = id
  waiting : s.state ≠ .building →
    r.2.pending = s.pending ++ placed ∧ buildsEnded r.2.trace = buildsEnded s.trace
  building : s.state = .building → r.2.pending = s.pending ∧ ∀ a, r.1 = .done a →
    (buildsEnded r.2.trace).Perm (buildsEnded s.trace ++ placed)

/-- A call that changes other parts of the server. -/
theorem Places.same {o : Outcome α} (hstate : s'.state = s.state) (hids : s'.ids = s.ids)
    (hpending : s'.pending = s.pending) (hbuilt : buildsEnded s'.trace = buildsEnded s.trace) :
    Places family [] [] s (o, s') where
  state := hstate
  ids id := by simp [hids]
  waiting _ := ⟨by rw [hpending, List.append_nil], hbuilt⟩
  building _ := ⟨hpending, fun _ _ => by rw [hbuilt, List.append_nil]⟩

/-- A call after changes to other parts of the server. -/
theorem Places.of_same (h : Places family new placed s' r) (hstate : s'.state = s.state)
    (hids : s'.ids = s.ids) (hpending : s'.pending = s.pending)
    (hbuilt : buildsEnded s'.trace = buildsEnded s.trace) : Places family new placed s r := by
  obtain ⟨hs, hi, hw, hb⟩ := h
  rw [hstate] at hs hw hb
  rw [hids] at hi
  rw [hpending, hbuilt] at hw hb
  exact ⟨hs, hi, hw, hb⟩

/-- A call after a plugin's type has been added. -/
theorem Places.of_enrol (h : Places family new placed (s.enrol (family p).id) r) :
    Places family (p :: new) placed s r where
  state := h.state
  ids id := by
    rw [h.ids, Server.mem_ids_enrol, or_assoc]
    simp only [List.mem_cons, exists_eq_or_imp]
  waiting := h.waiting
  building := h.building

/-- A call goes on after another one. -/
theorem Places.andThen {k : α → Server ι σ ρ → Result ι σ ρ β} {news places : Server ι σ ρ → List ι}
    (h : Places family new placed s r)
    (hk : ∀ a mid, mid.state = s.state → Places family (news mid) (places mid) mid (k a mid)) :
    Places family (new ++ Server.acceptedAfter r news) (placed ++ Server.acceptedAfter r places) s
      (r.andThen k) := by
  have hstop : Places family (new ++ []) (placed ++ []) s r := by
    rwa [List.append_nil, List.append_nil]
  obtain ⟨o, mid⟩ := r
  cases o with
  | fault f =>
    refine ⟨hstop.state, hstop.ids, hstop.waiting, fun hs => ⟨(hstop.building hs).1, fun b hb => ?_⟩⟩
    cases hb
  | exhausted =>
    refine ⟨hstop.state, hstop.ids, hstop.waiting, fun hs => ⟨(hstop.building hs).1, fun b hb => ?_⟩⟩
    cases hb
  | done a =>
    have hmid : mid.state = s.state := h.state
    have hnext := hk a mid hmid
    refine ⟨hnext.state.trans hmid, fun id => ?_, fun hs => ?_, fun hs => ?_⟩
    · have hfirst : id ∈ mid.ids ↔ id ∈ s.ids ∨ ∃ p ∈ new, (family p).id = id := h.ids id
      have hlast := hnext.ids id
      show id ∈ (k a mid).2.ids ↔ id ∈ s.ids ∨ ∃ p ∈ new ++ news mid, (family p).id = id
      rw [hlast, hfirst]
      simp only [List.mem_append, or_and_right, exists_or, or_assoc]
    · obtain ⟨hp, hb⟩ := h.waiting hs
      obtain ⟨hp', hb'⟩ := hnext.waiting (hmid ▸ hs)
      refine ⟨?_, hb'.trans hb⟩
      rw [← List.append_assoc]
      exact hp'.trans (congrArg (· ++ places mid) hp)
    · obtain ⟨hp, hb⟩ := h.building hs
      obtain ⟨hp', hb'⟩ := hnext.building (hmid.trans hs)
      refine ⟨hp'.trans hp, fun b hdone => ?_⟩
      have hfirst := (hb a rfl).append_right (places mid)
      rw [List.append_assoc] at hfirst
      exact (hb' b hdone).trans hfirst

/-- A call goes on with changes to other parts of the server. -/
theorem Places.thenSame {k : α → Server ι σ ρ → Result ι σ ρ β} (h : Places family new placed s r)
    (hk : ∀ a mid, Places family [] [] mid (k a mid)) :
    Places family new placed s (r.andThen k) := by
  have hnone : Server.acceptedAfter r (fun _ => ([] : List ι)) = [] :=
    Server.acceptedAfter_eq_nil fun _ => rfl
  have hall := h.andThen fun a mid _ => hk a mid
  rwa [hnone, List.append_nil, List.append_nil] at hall

/-- Calls in order place what each of them places. -/
theorem Places.inTurn {call : β → Server ι σ ρ → Result ι σ ρ Unit}
    {news places : β → Server ι σ ρ → List ι} {bs : List β}
    (hcall : ∀ b s, s.state = state → Places family (news b s) (places b s) s (call b s))
    (hs : s.state = state) :
    Places family (Server.acceptedInTurn call news bs s) (Server.acceptedInTurn call places bs s) s
      (Server.inTurn call bs s) := by
  induction bs generalizing s with
  | nil => exact .same rfl rfl rfl rfl
  | cons b rest ih => exact (hcall b s hs).andThen fun _ mid hmid => ih (hmid.trans hs)

/-- While the server builds, it does not matter in which order plugins are placed. -/
theorem Places.of_perm (h : Places family new placed s r) (hs : s.state = .building)
    (hperm : ∀ a, r.1 = .done a → placed.Perm more) : Places family new more s r where
  state := h.state
  ids := h.ids
  waiting hne := absurd hs hne
  building _ :=
    ⟨(h.building hs).1, fun a ha => ((h.building hs).2 a ha).trans ((hperm a ha).append_left _)⟩

/-- Actions on servers in this state place the plugins that they accept. -/
def PlacesAccepted (family : ι → Plugin ι σ ρ) (state : BuildState) (act : Performer ι σ ρ)
    (accepts : Action ι σ ρ → Server ι σ ρ → List ι) : Prop :=
  ∀ a s, s.state = state → Places family (accepts a s) (accepts a s) s (act a s)

end Places

namespace Server

variable {family : ι → Plugin ι σ ρ} {act : Performer ι σ ρ} {state : BuildState}
  {accepts : Action ι σ ρ → Server ι σ ρ → List ι} {phase : Phase} {p : ι} {s : Server ι σ ρ}

section Started

variable (hact : PlacesAccepted family state act accepts)

include hact

theorem performAll_places (actions : List (Action ι σ ρ)) (hs : s.state = state) :
    Places family (acceptedInTurn (performOne act) accepts actions s)
      (acceptedInTurn (performOne act) accepts actions s) s (performAll act actions s) := by
  rw [performAll_eq_inTurn]
  refine .inTurn (fun a s hs => ?_) hs
  exact (hact a s hs).thenSame fun _ _ => .same rfl rfl rfl rfl

/-- What the actions of a callback accept is placed. -/
theorem runActions_places (phase : Phase) (p : ι) (hs : s.state = state) :
    Places family (acceptedInCallback family act accepts phase p s)
      (acceptedInCallback family act accepts phase p s) s
      (runActions act phase p 0 ((family p).callback phase) (s.note (.began phase p))) := by
  have hbegun : (s.note (.began phase p)).state = state := hs
  have hrun : Places family (acceptedInCallback family act accepts phase p s)
      (acceptedInCallback family act accepts phase p s) (s.note (.began phase p))
      (runActions act phase p 0 ((family p).callback phase) (s.note (.began phase p))) := by
    rw [runActions_eq_inTurn]
    refine .inTurn (fun a s hs => ?_) hbegun
    exact (hact a.1 s hs).thenSame fun reply mid => .same rfl rfl rfl (buildsEnded_note rfl)
  exact hrun.of_same rfl rfl rfl (buildsEnded_note rfl)

/-- A callback that is no build places what its actions accept. -/
theorem runCallback_places (hphase : phase ≠ .build) (hs : s.state = state) :
    Places family (acceptedInCallback family act accepts phase p s)
      (acceptedInCallback family act accepts phase p s) s (runCallback family act phase p s) :=
  (runActions_places hact phase p hs).thenSame fun _ _ =>
    .same rfl rfl rfl (buildsEnded_note (TraceEntry.endedBuild?_ended hphase))

theorem runCallbacks_places (hphase : phase ≠ .build) (plugins : List ι) (hs : s.state = state) :
    Places family (acceptedInCallbacks family act accepts phase plugins s)
      (acceptedInCallbacks family act accepts phase plugins s) s
      (runCallbacks family act phase plugins s) := by
  rw [runCallbacks_eq_inTurn]
  exact .inTurn (fun p s hs => runCallback_places hact hphase hs) hs

theorem cleanup_places (hs : s.state = state) :
    Places family
      (acceptedInCallbacks family act accepts .cleanup s.built.reverse { s with built := [] })
      (acceptedInCallbacks family act accepts .cleanup s.built.reverse { s with built := [] }) s
      (cleanup family act s) := by
  have hphase : Phase.cleanup ≠ .build := by decide
  have hrun := runCallbacks_places (s := { s with built := [] }) hact hphase s.built.reverse hs
  have hstored : Places family _ _ s
      (runCallbacks family act .cleanup s.built.reverse { s with built := [] }) :=
    hrun.of_same rfl rfl rfl rfl
  exact hstored.thenSame fun _ mid => .same rfl rfl rfl rfl

end Started

section Building

variable (hact : PlacesAccepted family .building act accepts)

include hact

/-- A build that is done has placed its plugin and what its actions accept. -/
theorem buildPlugin_places (hs : s.state = .building) :
    Places family (acceptedInCallback family act accepts .build p s)
      (p :: acceptedInCallback family act accepts .build p s) s (buildPlugin family act p s) := by
  have hrun := runActions_places hact .build p hs
  have hend : ∀ (u : Unit) (mid : Server ι σ ρ), mid.state = s.state →
      Places family [] [p] mid (Outcome.done (), mid.note (.ended .build p)) := by
    intro u mid hmid
    refine ⟨rfl, by simp [note], fun hne => absurd (hmid.trans hs) hne, fun _ => ⟨rfl, ?_⟩⟩
    intro _ _
    show (buildsEnded (mid.trace ++ [.ended .build p])).Perm _
    rw [buildsEnded_append]
    exact .refl _
  have hcall := hrun.andThen hend
  rw [acceptedAfter_eq_nil fun _ => rfl, List.append_nil] at hcall
  have hplaced : Places family (acceptedInCallback family act accepts .build p s)
      (p :: acceptedInCallback family act accepts .build p s) s
      (runCallback family act .build p s) := by
    refine hcall.of_perm hs fun u hdone => ?_
    obtain ⟨_, mid, hmid, -⟩ := Result.andThen_eq_done_iff.mp (Prod.ext hdone rfl)
    rw [hmid]
    exact List.perm_append_singleton p _
  exact hplaced.thenSame fun _ mid => .same rfl rfl rfl rfl

/-- An addition places the plugin, unless it is refused, and what its build accepts. -/
theorem addPlugin_places :
    Places family (acceptedInAddition family act accepts p s)
      (acceptedInAddition family act accepts p s) s (addPlugin family act p s) := by
  unfold acceptedInAddition
  by_cases hu : s.refuses family p = true
  · rw [addPlugin_of_refuses hu, if_pos hu]
    exact .same rfl rfl rfl rfl
  · by_cases hb : s.state = .building
    · have henrolled : (s.enrol (family p).id).state = .building := hb
      rw [addPlugin_of_building hu hb, if_neg hu, if_pos hb]
      exact (buildPlugin_places hact henrolled).of_enrol
    · rw [addPlugin_of_not_building hu hb, if_neg hu, if_neg hb]
      have hwaits : Places family [] [p] (s.enrol (family p).id)
          (Outcome.done (), { s.enrol (family p).id with pending := s.pending ++ [p] }) :=
        ⟨rfl, fun id => by simp, fun _ => ⟨rfl, rfl⟩, fun hbuilding => absurd hbuilding hb⟩
      exact hwaits.of_enrol

theorem addPlugins_places (plugins : List ι) :
    Places family
      (acceptedInTurn (addPlugin family act) (acceptedInAddition family act accepts) plugins s)
      (acceptedInTurn (addPlugin family act) (acceptedInAddition family act accepts) plugins s) s
      (addPlugins family act plugins s) := by
  rw [addPlugins_eq_inTurn]
  exact .inTurn (fun p s _ => addPlugin_places hact) rfl

/-- Builds of sorted plugins place the plugins and what is accepted meanwhile. -/
theorem buildAll_places (sorted : List ι) (hs : s.state = .building) :
    Places family (acceptedInBuilds family act accepts sorted s)
      (sorted ++ acceptedInBuilds family act accepts sorted s) s
      (buildAll family act sorted s) := by
  have hturn : Places family (acceptedInBuilds family act accepts sorted s)
      (acceptedInTurn (fun p s => buildPlugin family act p (s.announce family p))
        (fun p s => p :: acceptedInCallback family act accepts .build p (s.announce family p))
        sorted s) s (buildAll family act sorted s) := by
    rw [buildAll_eq_inTurn]
    refine .inTurn (fun p s hs => ?_) hs
    have hannounced : (s.announce family p).state = .building := hs
    exact (buildPlugin_places hact hannounced).of_same rfl rfl rfl rfl
  refine hturn.of_perm hs fun _ hdone => ?_
  rw [buildAll_eq_inTurn] at hdone
  exact acceptedInTurn_cons_perm (Prod.ext hdone rfl)

end Building

theorem performWith_places (hbuild : PlacesAccepted family .building act accepts)
    (hact : PlacesAccepted family state act accepts) (hstate : state ≠ .notStarted) :
    PlacesAccepted family state (performWith family act) (acceptedWith family act accepts) := by
  intro a s hs
  have hdone : ∀ mid : Server ι σ ρ,
      Places family [] [] mid (Outcome.done (none : Option ρ), mid) := fun mid =>
    .same rfl rfl rfl rfl
  cases a with
  | add plugins => exact (addPlugins_places hbuild plugins).thenSame fun _ mid => hdone mid
  | finish =>
    have hstarted : s.state ≠ .notStarted := hs ▸ hstate
    rw [performWith, finish_of_started hstarted, acceptedWith, acceptedInFinish, if_pos hstarted]
    exact .same rfl rfl rfl rfl
  | cleanup => exact (cleanup_places hact hs).thenSame fun _ mid => hdone mid
  | effect run =>
    rw [performWith_effect]
    exact .same rfl rfl rfl rfl
  | choose next => exact (performAll_places hact _ hs).thenSame fun _ mid => hdone mid

/-- Whatever is done to a server that has started places the plugins that it accepts. -/
theorem perform_places (family : ι → Plugin ι σ ρ) :
    ∀ fuel state, state ≠ .notStarted →
      PlacesAccepted family state (perform family fuel) (accepted family fuel)
  | 0, _, _ => fun _ _ _ => .same rfl rfl rfl rfl
  | fuel + 1, state, hstate =>
    performWith_places (perform_places family fuel .building (by decide))
      (perform_places family fuel state hstate) hstate

end Server

end ObjectAssembly

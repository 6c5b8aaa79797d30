import ObjectAssembly.Proofs.Plugin.Placement

/-!
# Accounting — what becomes of the plugins that a server accepts

A plugin that is accepted waits, or is built at once while the server builds, and `finish` builds those
that wait.  Two kinds of plugins are lost.  If the waiting plugins cannot be sorted, `finish` drops them
and the server goes on without them; and plugins that are accepted once the builds are over wait for a
`finish` that never comes.  All others are built: over any calls the accepted plugins are those that
wait, those that have been built and those that have been dropped.
-/

namespace ObjectAssembly

variable {ι σ ρ α β : Type}

/-! ### Plugins that are lost -/

namespace Server

/-- The plugins that wait and those that have been built. -/
def kept (s : Server ι σ ρ) : List ι := s.pending ++ buildsEnded s.trace

section Lost

variable (family : ι → Plugin ι σ ρ) (act : Performer ι σ ρ)
  (accepts : Action ι σ ρ → Server ι σ ρ → List ι)

/-- What is dropped while an action is performed: the plugins that wait when `finish` cannot sort
them. -/
def droppedWith (drops : Action ι σ ρ → Server ι σ ρ → List ι) :
    Action ι σ ρ → Server ι σ ρ → List ι
  | .finish, s =>
    if s.state ≠ .notStarted then []
    else
      match sortPlugins family s.pending s.built with
      | .error _ => s.pending
      | .ok _ => []
  | .choose next, s => acceptedInTurn (performOne act) drops (next s.view s.store) s
  | _, _ => []

/-- What is dropped while an action is performed, with callbacks and choices nested less than `fuel`
deep. -/
def dropped (family : ι → Plugin ι σ ρ) : Nat → Action ι σ ρ → Server ι σ ρ → List ι
  | 0, _, _ => []
  | fuel + 1, a, s => droppedWith family (perform family fuel) (dropped family fuel) a s

/-- What is accepted while the plugins that `finish` has built get ready. -/
def acceptedInReady (s : Server ι σ ρ) : List ι :=
  if s.state ≠ .notStarted then []
  else
    match sortPlugins family s.pending s.built with
    | .error _ => []
    | .ok sorted =>
      acceptedAfter (buildAll family act sorted s.begun) fun mid =>
        acceptedInCallbacks family act accepts .ready mid.built mid.awaiting

/-- What is accepted too late while an action is performed, when the builds are over. -/
def lateWith (lates : Action ι σ ρ → Server ι σ ρ → List ι) :
    Action ι σ ρ → Server ι σ ρ → List ι
  | .finish, s => acceptedInReady family act accepts s
  | .choose next, s => acceptedInTurn (performOne act) lates (next s.view s.store) s
  | a, s => if s.state = .built then acceptedWith family act accepts a s else []

/-- What is accepted too late while an action is performed, with callbacks and choices nested less than
`fuel` deep. -/
def late (family : ι → Plugin ι σ ρ) : Nat → Action ι σ ρ → Server ι σ ρ → List ι
  | 0, _, _ => []
  | fuel + 1, a, s =>
    lateWith family (perform family fuel) (accepted family fuel) (late family fuel) a s

end Lost

end Server

/-! ### One call -/

/-- From the first server to the second these plugins are accepted, and some of them or of those that
waited are dropped.  The others are kept, and those that are accepted late still wait. -/
structure Account (family : ι → Plugin ι σ ρ) (accepted dropped late : List ι)
    (s s' : Server ι σ ρ) : Prop where
  onward : s.state ≠ .notStarted → s'.state = s.state
  ids : ∀ id, id ∈ s'.ids ↔ id ∈ s.ids ∨ ∃ p ∈ accepted, (family p).id = id
  kept : s'.state ≠ .building → (s.kept ++ accepted).Perm (s'.kept ++ dropped)
  waiting : s'.state = .built → s'.pending = (if s.state = .built then s.pending else []) ++ late
  early : s'.state ≠ .built → late = []

section Account

open scoped List

variable {family : ι → Plugin ι σ ρ} {act : Performer ι σ ρ}
  {accepts : Action ι σ ρ → Server ι σ ρ → List ι} {fuel : Nat}
  {accepted dropped late accepted' dropped' late' : List ι} {s mid s' : Server ι σ ρ}

theorem perm_append_right_comm (l first last : List ι) :
    (l ++ first ++ last).Perm (l ++ last ++ first) := by
  rw [List.append_assoc, List.append_assoc]
  exact List.perm_append_comm.append_left l

/-- Nothing is accepted by a call that changes other parts of the server. -/
theorem Account.same (hstate : s'.state = s.state) (hids : s'.ids = s.ids)
    (hpending : s'.pending = s.pending) (hbuilt : buildsEnded s'.trace = buildsEnded s.trace) :
    Account family [] [] [] s s' where
  onward _ := hstate
  ids id := by simp [hids]
  kept _ := by rw [Server.kept, Server.kept, hpending, hbuilt]
  waiting hs := by rw [if_pos (hstate ▸ hs), hpending, List.append_nil]
  early _ := rfl

theorem Account.trans (h : Account family accepted dropped late s mid)
    (h' : Account family accepted' dropped' late' mid s') :
    Account family (accepted ++ accepted') (dropped ++ dropped') (late ++ late') s s' where
  onward hs := by
    have hmid : mid.state = s.state := h.onward hs
    exact (h'.onward (hmid ▸ hs)).trans hmid
  ids id := by
    rw [h'.ids, h.ids]
    simp only [List.mem_append, or_and_right, exists_or, or_assoc]
  kept hs' := by
    have hmid : mid.state ≠ .building := fun hb => by
      have hs : s'.state = mid.state := h'.onward (by rw [hb]; decide)
      exact hs' (hs.trans hb)
    calc s.kept ++ (accepted ++ accepted')
      _ = s.kept ++ accepted ++ accepted' := (List.append_assoc _ _ _).symm
      _ ~ mid.kept ++ dropped ++ accepted' := (h.kept hmid).append_right _
      _ ~ mid.kept ++ accepted' ++ dropped := perm_append_right_comm _ _ _
      _ ~ s'.kept ++ dropped' ++ dropped := (h'.kept hs').append_right _
      _ ~ s'.kept ++ dropped ++ dropped' := perm_append_right_comm _ _ _
      _ = s'.kept ++ (dropped ++ dropped') := List.append_assoc _ _ _
  waiting hs' := by
    rw [h'.waiting hs']
    by_cases hmid : mid.state = .built
    · rw [if_pos hmid, h.waiting hmid, List.append_assoc]
    · have hs : s.state ≠ .built := fun hb => hmid ((h.onward (by rw [hb]; decide)).trans hb)
      rw [if_neg hmid, if_neg hs, h.early hmid, List.nil_append, List.nil_append]
  early hs' := by
    have hmid : mid.state ≠ .built := fun hb => by
      have hs : s'.state = mid.state := h'.onward (by rw [hb]; decide)
      exact hs' (hs.trans hb)
    rw [h.early hmid, h'.early hs', List.nil_append]

/-- What a call places at a server that does not build waits there. -/
theorem Account.of_places {r : Result ι σ ρ α} (h : Places family accepted accepted s r) :
    Account family accepted [] (if s.state = .built then accepted else []) s r.2 where
  onward _ := h.state
  ids := h.ids
  kept hs' := by
    have hnot : s.state ≠ .building := h.state ▸ hs'
    obtain ⟨hpending, hbuilt⟩ := h.waiting hnot
    rw [Server.kept, Server.kept, hpending, hbuilt, List.append_nil]
    exact perm_append_right_comm _ _ _
  waiting hs' := by
    have hbuilt : s.state = .built := h.state ▸ hs'
    rw [if_pos hbuilt, if_pos hbuilt]
    exact (h.waiting (by rw [hbuilt]; decide)).1
  early hs' := if_neg (h.state ▸ hs')

/-- The plugins that wait are dropped. -/
theorem Account.of_dropped (hs : s.state = .notStarted) :
    Account family [] s.pending [] s { s with pending := [] } where
  onward _ := rfl
  ids id := by simp
  kept _ := by
    rw [List.append_nil]
    exact List.perm_append_comm
  waiting hb := by
    rw [show s.state = .built from hb] at hs
    cases hs
  early _ := rfl

/-- What calls in order account for, as long as each of them is done. -/
theorem Account.inTurn {call : β → Server ι σ ρ → Result ι σ ρ Unit}
    {accepts drops lates : β → Server ι σ ρ → List ι} {bs : List β}
    (hcall : ∀ b s, s.Fresh → Account family (accepts b s) (drops b s) (lates b s) s (call b s).2 ∧
      (call b s).2.Fresh)
    (hs : s.Fresh) :
    Account family (Server.acceptedInTurn call accepts bs s) (Server.acceptedInTurn call drops bs s)
      (Server.acceptedInTurn call lates bs s) s (Server.inTurn call bs s).2 := by
  induction bs generalizing s with
  | nil => exact .same rfl rfl rfl rfl
  | cons b rest ih =>
    obtain ⟨hfirst, hfresh⟩ := hcall b s hs
    have hstop : Account family (accepts b s ++ []) (drops b s ++ []) (lates b s ++ []) s
        (call b s).2 := by
      rwa [List.append_nil, List.append_nil, List.append_nil]
    rw [Server.acceptedInTurn, Server.acceptedInTurn, Server.acceptedInTurn, Server.inTurn]
    generalize call b s = r at hfirst hfresh hstop ⊢
    rcases r with ⟨⟨u⟩ | ⟨f⟩ | -, mid⟩
    · exact hfirst.trans (ih hfresh)
    · exact hstop
    · exact hstop

/-- The plugins that waited are built with those that have been added meanwhile, and then others are
added. -/
theorem Account.of_built {sorted added : List ι} (hs : s.state = .notStarted)
    (hs' : s'.state = .built) (hsort : sorted.Perm s.pending)
    (hmid : ∀ id, id ∈ mid.ids ↔ id ∈ s.ids ∨ ∃ p ∈ added, (family p).id = id)
    (hids : ∀ id, id ∈ s'.ids ↔ id ∈ mid.ids ∨ ∃ p ∈ late, (family p).id = id)
    (hpending : s'.pending = late)
    (hbuilt : (buildsEnded s'.trace).Perm (buildsEnded s.trace ++ (sorted ++ added))) :
    Account family (added ++ late) [] late s s' where
  onward hne := absurd hs hne
  ids id := by
    rw [hids, hmid]
    simp only [List.mem_append, or_and_right, exists_or, or_assoc]
  kept _ := by
    rw [Server.kept, Server.kept, hpending, List.append_nil]
    calc s.pending ++ buildsEnded s.trace ++ (added ++ late)
      _ ~ sorted ++ buildsEnded s.trace ++ (added ++ late) :=
        (hsort.symm.append_right _).append_right _
      _ ~ buildsEnded s.trace ++ sorted ++ (added ++ late) := List.perm_append_comm.append_right _
      _ = buildsEnded s.trace ++ (sorted ++ added) ++ late := by simp only [List.append_assoc]
      _ ~ buildsEnded s'.trace ++ late := hbuilt.symm.append_right _
      _ ~ late ++ buildsEnded s'.trace := List.perm_append_comm
  waiting _ := by
    have hne : s.state ≠ .built := by rw [hs]; exact BuildState.noConfusion
    rw [if_neg hne, hpending, List.nil_append]
  early hne := absurd hs' hne

/-- While the server builds, only the types of the plugins are accounted for. -/
theorem Account.of_building (hs : s.state = .notStarted) (hs' : s'.state = .building)
    (hids : ∀ id, id ∈ s'.ids ↔ id ∈ s.ids ∨ ∃ p ∈ accepted, (family p).id = id) :
    Account family accepted [] [] s s' where
  onward hne := absurd hs hne
  ids := hids
  kept hne := absurd hs' hne
  waiting hb := by rw [hs'] at hb; cases hb
  early _ := rfl

end Account

namespace Server

variable {family : ι → Plugin ι σ ρ} {act : Performer ι σ ρ}
  {accepts : Action ι σ ρ → Server ι σ ρ → List ι} {s : Server ι σ ρ} {sorted : List ι}

theorem acceptedInReady_of_sorted (hs : s.state = .notStarted)
    (hsort : sortPlugins family s.pending s.built = .ok sorted) :
    acceptedInReady family act accepts s =
      acceptedAfter (buildAll family act sorted s.begun) fun mid =>
        acceptedInCallbacks family act accepts .ready mid.built mid.awaiting := by
  rw [acceptedInReady, if_neg (not_not.mpr hs), hsort]

/-- `finish` builds the sorted plugins and those that their builds add, and leaves those that are added
when it readies them. -/
theorem finish_sorted_account
    (hact : ∀ state, state ≠ .notStarted → PlacesAccepted family state act accepts)
    (hs : s.state = .notStarted) (hsort : sortPlugins family s.pending s.built = .ok sorted) :
    Account family (acceptedInFinish family act accepts s) []
      (acceptedInReady family act accepts s) s (finish family act s).2 := by
  obtain ⟨hstate, hids, -, hplaced⟩ :=
    buildAll_places (hact .building (by decide)) sorted (s := s.begun) rfl
  obtain ⟨hpending, hbuilt⟩ := hplaced rfl
  rw [finish_of_sorted hs hsort, acceptedInFinish_of_sorted hs hsort,
    acceptedInReady_of_sorted hs hsort]
  generalize acceptedInBuilds family act accepts sorted s.begun = added at *
  generalize buildAll family act sorted s.begun = r at *
  have hstop : ∀ id, id ∈ r.2.ids ↔ id ∈ s.ids ∨ ∃ p ∈ added ++ [], (family p).id = id := by
    rw [List.append_nil]
    exact hids
  rcases r with ⟨⟨u⟩ | ⟨f⟩ | -, mid⟩
  · have hphase : Phase.ready ≠ .build := by decide
    have hready :=
      runCallbacks_places (s := mid.awaiting) (hact .built (by decide)) hphase mid.built rfl
    obtain ⟨hstate', hids', hwaits, -⟩ := hready.thenSame (k := fun _ last =>
      (Outcome.done (), { last with built := mid.built }.report (.serverReady mid.built.length)))
      fun _ _ => .same rfl rfl rfl rfl
    obtain ⟨hpending', hbuilt'⟩ := hwaits BuildState.noConfusion
    have hwaiting : mid.awaiting.pending = [] := hpending
    rw [hwaiting, List.nil_append] at hpending'
    exact .of_built hs hstate' (sortPlugins_perm hsort) hids hids' hpending'
      ((List.Perm.of_eq hbuilt').trans (hbuilt () rfl))
  · exact .of_building hs hstate hstop
  · exact .of_building hs hstate hstop

theorem finish_account
    (hact : ∀ state, state ≠ .notStarted → PlacesAccepted family state act accepts)
    (drops lates : Action ι σ ρ → Server ι σ ρ → List ι) :
    Account family (acceptedInFinish family act accepts s) (droppedWith family act drops .finish s)
      (lateWith family act accepts lates .finish s) s (finish family act s).2 := by
  by_cases hs : s.state = .notStarted
  · cases hsort : sortPlugins family s.pending s.built with
    | error e =>
      have hne : ¬ s.state ≠ .notStarted := not_not.mpr hs
      rw [finish_of_sort_error hs hsort, acceptedInFinish, if_neg hne, hsort, droppedWith,
        if_neg hne, hsort, lateWith, acceptedInReady, if_neg hne, hsort]
      exact .of_dropped hs
    | ok sorted =>
      have hdropped : droppedWith family act drops .finish s = [] := by
        rw [droppedWith, if_neg (not_not.mpr hs), hsort]
      rw [hdropped]
      exact finish_sorted_account hact hs hsort
  · rw [finish_of_started hs, acceptedInFinish, if_pos hs, droppedWith, if_pos hs, lateWith,
      acceptedInReady, if_pos hs]
    exact .same rfl rfl rfl rfl

/-- Every call accounts for the plugins that it accepts. -/
theorem perform_account (family : ι → Plugin ι σ ρ) :
    ∀ (fuel : Nat) (a : Action ι σ ρ) (s : Server ι σ ρ), s.Fresh →
      Account family (accepted family fuel a s) (dropped family fuel a s) (late family fuel a s) s
        (perform family fuel a s).2
  | 0, _, _, _ => .same rfl rfl rfl rfl
  | fuel + 1, a, s, hfresh => by
    have hact : ∀ state, state ≠ .notStarted →
        PlacesAccepted family state (perform family fuel) (accepted family fuel) :=
      perform_places family fuel
    cases a with
    | add plugins =>
      exact Result.andThen_snd (.of_places (addPlugins_places (hact .building (by decide)) plugins))
        fun _ _ h => h
    | finish => exact Result.andThen_snd (finish_account hact _ _) fun _ _ h => h
    | cleanup =>
      refine Result.andThen_snd ?_ fun _ _ h => h
      by_cases hs : s.state = .notStarted
      · have hbuilt : s.built = [] := (hfresh hs).2
        have hne : s.state ≠ .built := by rw [hs]; exact BuildState.noConfusion
        have hlate : late family (fuel + 1) .cleanup s = [] := if_neg hne
        have haccepted : accepted family (fuel + 1) .cleanup s = [] := by
          rw [accepted, acceptedWith, hbuilt]
          rfl
        rw [hlate, haccepted, cleanup, hbuilt]
        exact .same rfl rfl rfl rfl
      · exact .of_places (cleanup_places (hact s.state hs) rfl)
    | effect run =>
      have hlate : late family (fuel + 1) (.effect run) s = [] := ite_self []
      rw [hlate, perform, performWith_effect]
      exact .same rfl rfl rfl rfl
    | choose next =>
      refine Result.andThen_snd ?_ fun _ _ h => h
      rw [performAll_eq_inTurn]
      refine .inTurn (fun a s hs => ⟨?_, ?_⟩) hfresh
      · exact Result.andThen_snd (perform_account family fuel a s hs) fun _ _ h => h
      · exact Result.andThen_snd (perform_fresh family fuel a s hs) fun _ _ h => h

/-! ### Getting ready -/

theorem mem_buildsEnded {steps : List (TraceEntry ι ρ)} {p : ι} :
    p ∈ buildsEnded steps ↔ .ended .build p ∈ steps := by
  refine List.mem_filterMap.trans ⟨?_, fun h => ⟨_, h, rfl⟩⟩
  rintro ⟨e, he, hp⟩
  unfold TraceEntry.endedBuild? at hp
  split at hp
  · cases hp
    exact he
  · cases hp

/-- A callback of each of these plugins ends. -/
theorem runCallbacks_ended {state : BuildState} (hact : Steady state act) (phase : Phase)
    (plugins : List ι) (hs : s.state = state) :
    Adds (fun steps => ∀ p ∈ plugins, .ended phase p ∈ steps) s
      (runCallbacks family act phase plugins s) := by
  induction plugins generalizing s with
  | nil => exact .same rfl rfl fun p hp => absurd hp List.not_mem_nil
  | cons p rest ih =>
    refine (runCallback_adds hact hs).andThen (fun _ _ hmid => ih (hmid.trans hs)) ?_
    rintro _ more ⟨inside, rfl, -⟩ hmore q hq
    rcases List.mem_cons.mp hq with rfl | hq
    · exact List.mem_append_left _ (List.mem_append_right _ (List.mem_singleton_self _))
    · exact List.mem_append_right _ (hmore q hq)

/-- A server that has finished has built all plugins that waited. -/
theorem built_of_finish {fuel : Nat} {s' : Server ι σ ρ}
    (h : finish family (perform family fuel) s = (.done (), s')) :
    ∀ p ∈ s.pending, p ∈ buildsEnded s'.trace := by
  obtain ⟨-, sorted, mid, last, hsort, hbuilds, hready, rfl⟩ := finish_done h
  have hact : ∀ state, state ≠ .notStarted → Steady state (perform family fuel) :=
    fun _ hstate => perform_steady family hstate fuel
  obtain ⟨steps, hmid, -, -, hended⟩ :=
    (buildAll_begun_adds hact sorted).trace () (by rw [hbuilds])
  obtain ⟨more, hlast, -⟩ := (ready_awaiting_adds hact mid.built).trace () (by rw [hready])
  rw [hbuilds] at hmid
  rw [hready] at hlast
  intro p hp
  have hstep : .ended .build p ∈ mid.trace := by
    rw [hmid]
    exact List.mem_append_right _ (hended p ((sortPlugins_perm hsort).mem_iff.mpr hp))
  refine mem_buildsEnded.mpr ?_
  show .ended .build p ∈ last.trace
  rw [hlast]
  exact List.mem_append_left _ hstep

/-- If builds only add plugins, all plugins that have been built have got ready. -/
theorem ready_of_finish {fuel : Nat} {s' : Server ι σ ρ} (hbuilds : BuildsOnlyAdd family)
    (hfresh : s.Fresh) (h : finish family (perform family fuel) s = (.done (), s')) :
    ∀ p ∈ buildsEnded s'.trace, .ended .ready p ∈ s'.trace := by
  obtain ⟨hs, sorted, mid, last, -, hdone, hready, rfl⟩ := finish_done h
  obtain ⟨-, -, -, builds, hmid, hbuilt, -⟩ :=
    buildAll_grown hbuilds (perform_buildsAccepted hbuilds fuel) rfl hdone
  obtain ⟨hempty, hnone⟩ := hfresh hs
  have hlisted : mid.built = buildsEnded mid.trace := by
    rw [hmid, hbuilt, begun, hempty, hnone]
    rfl
  have hsteady : Steady .built (perform family fuel) := perform_steady family (by decide) fuel
  obtain ⟨more, hlast, hended⟩ :=
    (runCallbacks_ended (s := mid.awaiting) hsteady .ready mid.built rfl).trace ()
      (by rw [hready])
  -- getting ready ends no build, so all that are built were on the list
  have hphase : Phase.ready ≠ .build := by decide
  have hplaces := runCallbacks_places (s := mid.awaiting)
    (perform_places family fuel .built (by decide)) hphase mid.built rfl
  obtain ⟨-, hsame⟩ := hplaces.waiting BuildState.noConfusion
  rw [hready] at hlast hsame
  intro p hp
  have hp : p ∈ mid.built := by
    rw [hlisted]
    exact hsame ▸ hp
  show .ended .ready p ∈ last.trace
  rw [hlast]
  exact List.mem_append_right _ (hended p hp)

/-! ### Calls on one server -/

end Server

/-- A call on a server, with fuel for the callbacks and choices inside it. -/
structure Call (ι σ ρ : Type) where
  action : Action ι σ ρ
  fuel : Nat

namespace Server

/-- The server after calls in order, each of which may have panicked. -/
def afterCalls (family : ι → Plugin ι σ ρ) (calls : List (Call ι σ ρ)) (s : Server ι σ ρ) :
    Server ι σ ρ :=
  calls.foldl (fun s c => (perform family c.fuel c.action s).2) s

/-- What calls in order list, if each of them lists this. -/
def overCalls (family : ι → Plugin ι σ ρ) (lists : Nat → Action ι σ ρ → Server ι σ ρ → List ι) :
    List (Call ι σ ρ) → Server ι σ ρ → List ι
  | [], _ => []
  | c :: rest, s =>
    lists c.fuel c.action s ++ overCalls family lists rest (perform family c.fuel c.action s).2

/-- What each of the calls keeps holds after all of them. -/
theorem afterCalls_keeps {family : ι → Plugin ι σ ρ} {P : Server ι σ ρ → Prop}
    {calls : List (Call ι σ ρ)} {s : Server ι σ ρ}
    (hcalls : ∀ c ∈ calls, ∀ s, P s → P (perform family c.fuel c.action s).2) (hs : P s) :
    P (afterCalls family calls s) := by
  induction calls generalizing s with
  | nil => exact hs
  | cons c rest ih =>
    obtain ⟨hc, hrest⟩ := List.forall_mem_cons.mp hcalls
    exact ih hrest (hc s hs)

theorem afterCalls_fresh (family : ι → Plugin ι σ ρ) (calls : List (Call ι σ ρ)) {s : Server ι σ ρ}
    (hs : s.Fresh) : (afterCalls family calls s).Fresh :=
  afterCalls_keeps (fun c _ => perform_fresh family c.fuel c.action) hs

/-- Calls in order account for the plugins that they accept. -/
theorem afterCalls_account (family : ι → Plugin ι σ ρ) (calls : List (Call ι σ ρ))
    {s : Server ι σ ρ} (hs : s.Fresh) :
    Account family (overCalls family (accepted family) calls s)
      (overCalls family (dropped family) calls s) (overCalls family (late family) calls s) s
      (afterCalls family calls s) := by
  induction calls generalizing s with
  | nil => exact .same rfl rfl rfl rfl
  | cons c rest ih =>
    exact (perform_account family c.fuel c.action s hs).trans
      (ih (perform_fresh family c.fuel c.action s hs))

end Server

/-- No accepted plugin is lost: each of them waits or has been built, and none waits once the server is
built. -/
structure NoneLost (accepted : List ι) (s : Server ι σ ρ) : Prop where
  kept : accepted.Perm s.kept
  settled : s.state = .built → s.pending = []

theorem noneLost_iff {accepted dropped : List ι} {s : Server ι σ ρ}
    (h : accepted.Perm (s.kept ++ dropped)) :
    NoneLost accepted s ↔ dropped = [] ∧ (s.state = .built → s.pending = []) := by
  constructor
  · rintro ⟨hkept, hsettled⟩
    have hlength := (hkept.symm.trans h).length_eq
    rw [List.length_append] at hlength
    exact ⟨List.length_eq_zero_iff.mp (by omega), hsettled⟩
  · rintro ⟨rfl, hsettled⟩
    rw [List.append_nil] at h
    exact ⟨h, hsettled⟩

/-- **What becomes of accepted plugins.**  After any calls that leave no build under way, the accepted
plugins are those that wait, those that have been built and those that a `finish` has dropped, since it
could not sort them; and once the server is built those wait that have been accepted too late.  So no
plugin is lost iff none has been dropped and none has been too late.  The server has the types of all
accepted plugins, lost or not.  A `finish` that is done has built all that waited, and readied all that
are built if builds only add plugins. -/
theorem accepted_plugins_accounted (family : ι → Plugin ι σ ρ) (store : σ)
    (calls : List (Call ι σ ρ)) (s : Server ι σ ρ)
    (hs : Server.afterCalls family calls (.new store) = s) (hidle : s.state ≠ .building) :
    (Server.overCalls family (Server.accepted family) calls (.new store)).Perm
      (s.kept ++ Server.overCalls family (Server.dropped family) calls (.new store)) ∧
    (s.state = .built →
      s.pending = Server.overCalls family (Server.late family) calls (.new store)) ∧
    (NoneLost (Server.overCalls family (Server.accepted family) calls (.new store)) s ↔
      Server.overCalls family (Server.dropped family) calls (.new store) = [] ∧
        (s.state = .built → Server.overCalls family (Server.late family) calls (.new store) = [])) ∧
    (∀ id, s.hasPlugin id = true ↔
      ∃ p ∈ Server.overCalls family (Server.accepted family) calls (.new store),
        (family p).id = id) ∧
    ∀ fuel s' reply, Server.perform family fuel .finish s = (.done reply, s') →
      (∀ p ∈ s.pending, p ∈ buildsEnded s'.trace) ∧
      (BuildsOnlyAdd family → ∀ p ∈ buildsEnded s'.trace, .ended .ready p ∈ s'.trace) := by
  have hfresh : (Server.new store : Server ι σ ρ).Fresh := fun _ => ⟨rfl, rfl⟩
  have haccount := Server.afterCalls_account family calls hfresh
  rw [hs] at haccount
  obtain ⟨-, hids, hkept, hwaiting, -⟩ := haccount
  have hkept : (Server.overCalls family (Server.accepted family) calls (.new store)).Perm
      (s.kept ++ Server.overCalls family (Server.dropped family) calls (.new store)) := hkept hidle
  have hwaiting : s.state = .built →
      s.pending = Server.overCalls family (Server.late family) calls (.new store) := fun hb =>
    (hwaiting hb).trans (List.nil_append _)
  refine ⟨hkept, hwaiting, ?_, fun id => ?_, fun fuel s' reply hf => ?_⟩
  · rw [noneLost_iff hkept]
    refine and_congr_right fun _ => forall_congr' fun hb => ?_
    rw [hwaiting hb]
  · rw [Server.hasPlugin, decide_eq_true_iff, hids]
    simp [Server.new]
  · obtain ⟨fuel', hfinish⟩ := finish_of_perform hf
    refine ⟨Server.built_of_finish hfinish, fun hbuilds => ?_⟩
    refine Server.ready_of_finish hbuilds ?_ hfinish
    rw [← hs]
    exact Server.afterCalls_fresh family calls hfresh

section Sample

/-- A plugin is added before the one that it depends on, with an attempt to finish in between. -/
def hastyCalls : List (Call Bool Unit Unit) :=
  [⟨.add [true], 1⟩, ⟨.finish, 2⟩, ⟨.add [false], 1⟩]

theorem accepted_plugins_accounted_hasty :
    ∃ s s', Server.afterCalls dependentPair hastyCalls (.new ()) = s ∧ s.state ≠ .building ∧
      Server.perform dependentPair 2 .finish s = (.done none, s') ∧
      BuildsOnlyAdd dependentPair ∧
      (Server.overCalls dependentPair (Server.accepted dependentPair) hastyCalls (.new ())).Perm
        (s.kept ++
          Server.overCalls dependentPair (Server.dropped dependentPair) hastyCalls (.new ())) ∧
      (∀ p ∈ s.pending, p ∈ buildsEnded s'.trace) ∧
      ∀ p ∈ buildsEnded s'.trace, .ended .ready p ∈ s'.trace := by
  have hidle : (Server.afterCalls dependentPair hastyCalls (.new ())).state ≠ .building := by
    decide
  have hbuilds : BuildsOnlyAdd dependentPair := by
    rintro (_ | _) a ha
    · obtain rfl := List.mem_singleton.mp ha
      exact .add trivial _
    · cases ha
  have hf : Server.perform dependentPair 2 .finish
      (Server.afterCalls dependentPair hastyCalls (.new ())) = (.done none, _) := rfl
  obtain ⟨hkept, -, -, -, hfinish⟩ := accepted_plugins_accounted _ _ _ _ rfl hidle
  obtain ⟨hbuilt, hready⟩ := hfinish _ _ _ hf
  exact ⟨_, _, rfl, hidle, hf, hbuilds, hkept, hbuilt, hready hbuilds⟩

/-- Once the server has finished after all, the first plugin is lost: the server says that it has the
plugin, which has neither been built nor waits. -/
theorem finish_loses_plugin :
    ∃ s, Server.afterCalls dependentPair (hastyCalls ++ [⟨.finish, 2⟩]) (.new ()) = s ∧
      s.state = .built ∧
      ¬ NoneLost (Server.overCalls dependentPair (Server.accepted dependentPair)
        (hastyCalls ++ [⟨.finish, 2⟩]) (.new ())) s ∧
      s.hasPlugin (dependentPair true).id = true ∧ true ∉ s.kept := by
  refine ⟨_, rfl, rfl, fun h => ?_, by decide, by decide⟩
  exact absurd h.kept.length_eq (by decide)

end Sample

end ObjectAssembly

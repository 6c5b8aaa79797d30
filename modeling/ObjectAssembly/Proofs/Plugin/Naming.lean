import ObjectAssembly.Proofs.Plugin.Dependencies

/-!
# Naming — what the names of plugins decide

Names stand in panics and in the log, and besides the sort reads them: it looks a dependency up by the
name of its type.  `Alike` relates two runs that differ in panics and in the log alone.  Families that
differ in names alone run alike once their plugins are sorted, and they are sorted alike if each
dependency is found at the same place.
-/

namespace ObjectAssembly

/-! ### Sorting -/

namespace Order

variable {name : String} {target start : Nat} {nodes nodes' rest : List Node}
  {built deps : List String} {e : OrderError}

theorem missing_of_edgesInto (h : edgesInto nodes built target name deps = .error e) :
    ∃ d, e = .missing name d := by
  induction deps with
  | nil => cases h
  | cons d deps ih =>
    rw [edgesInto] at h
    cases hl : lastIndex? d 0 nodes with
    | some source =>
      rw [hl] at h
      cases hi : edgesInto nodes built target name deps with
      | error e' =>
        rw [hi] at h
        cases h
        exact ih hi
      | ok es => rw [hi] at h; cases h
    | none =>
      rw [hl] at h
      by_cases hd : d ∈ built
      · simp only [if_pos hd] at h
        exact ih h
      · simp only [if_neg hd] at h
        cases h
        exact ⟨d, rfl⟩

/-- Edges cannot be drawn only because a dependency is missing. -/
theorem missing_of_edgesFrom (h : edgesFrom nodes built start rest = .error e) :
    ∃ plugin d, e = .missing plugin d := by
  induction rest generalizing start with
  | nil => cases h
  | cons n rest ih =>
    rw [edgesFrom] at h
    cases hi : edgesInto nodes built start n.name n.dependencies with
    | error e' =>
      rw [hi] at h
      cases h
      obtain ⟨d, rfl⟩ := missing_of_edgesInto hi
      exact ⟨n.name, d, rfl⟩
    | ok es =>
      rw [hi] at h
      cases hr : edgesFrom nodes built (start + 1) rest with
      | error e' =>
        rw [hr] at h
        cases h
        exact ih hr
      | ok more => rw [hr] at h; cases h

/-- The sort reports a missing dependency iff some node depends on a name that no node bears and that
is not built. -/
theorem sort_missing_iff :
    (∃ plugin d, sort nodes built = .error (.missing plugin d)) ↔
      ∃ n ∈ nodes, ∃ d ∈ n.dependencies, (∀ m ∈ nodes, m.name ≠ d) ∧ d ∉ built := by
  have hmissing : (∃ n ∈ nodes, ∃ d ∈ n.dependencies, (∀ m ∈ nodes, m.name ≠ d) ∧ d ∉ built) ↔
      ¬ ∀ n ∈ nodes, ∀ d ∈ n.dependencies, lastIndex? d 0 nodes = none → d ∈ built := by
    simp only [lastIndex?_eq_none_iff]
    push Not
    rfl
  rw [hmissing]
  unfold sort
  cases he : edges nodes built with
  | error e =>
    obtain ⟨plugin, d, rfl⟩ := missing_of_edgesFrom he
    refine iff_of_true ⟨plugin, d, rfl⟩ fun hall => ?_
    rw [edges, edgesFrom_ok_iff.mpr ⟨hall, rfl⟩] at he
    cases he
  | ok es =>
    refine iff_of_false ?_ (not_not.mpr (edgesFrom_ok_iff.mp he).1)
    rintro ⟨plugin, d, h⟩
    dsimp only at h
    split at h <;> cases h

/-- Nodes with the same dependencies are sorted in the same way if each dependency is found at the same
place. -/
theorem sort_ok_congr {ι : Type} {node node' : ι → Node} {ps : List ι} {order : List Nat}
    (hdeps : ∀ p, (node' p).dependencies = (node p).dependencies)
    (hfind : ∀ p ∈ ps, ∀ d ∈ (node p).dependencies,
      lastIndex? d 0 (ps.map node') = lastIndex? d 0 (ps.map node)) :
    sort (ps.map node') [] = .ok order ↔ sort (ps.map node) [] = .ok order := by
  have hedges : ∀ es, edges (ps.map node') [] = .ok es ↔ edges (ps.map node) [] = .ok es := by
    intro es
    simp only [edges, edgesFrom_ok_iff, List.forall_mem_map, List.zipIdx_map, List.flatMap_map, hdeps]
    refine and_congr ?_ ?_
    · refine forall₂_congr fun p hp => forall₂_congr fun d hd => ?_
      rw [hfind p hp d hd]
    · have hedge : ∀ q ∈ ps.zipIdx 0,
          ((node' q.1).dependencies.filterMap fun d =>
            (lastIndex? d 0 (ps.map node')).map (⟨·, q.2⟩ : Nat → Edge)) =
          (node q.1).dependencies.filterMap fun d =>
            (lastIndex? d 0 (ps.map node)).map (⟨·, q.2⟩ : Nat → Edge) := by
        intro q hq
        rw [hdeps]
        refine List.filterMap_congr fun d hd => ?_
        rw [hfind q.1 (List.fst_mem_of_mem_zipIdx hq) d hd]
      exact Eq.congr rfl (List.flatMap_congr hedge)
  simp only [sort_eq_ok_iff, hedges, List.length_map]

theorem lastIndex?_congr {ι : Type} {node node' : ι → Node} {ps : List ι}
    (h : ∀ p ∈ ps, ((node' p).name = name ↔ (node p).name = name)) :
    lastIndex? name start (ps.map node') = lastIndex? name start (ps.map node) := by
  induction ps generalizing start with
  | nil => rfl
  | cons p ps ih =>
    rw [List.forall_mem_cons] at h
    simp only [List.map_cons, lastIndex?, ih h.2, h.1]

end Order

/-! ### Runs that differ in panics and in the log -/

variable {ι σ ρ α β : Type}

/-- Families whose plugins differ in their names alone. -/
def Renamed (family family' : ι → Plugin ι σ ρ) : Prop :=
  ∀ p, { family' p with name := (family p).name } = family p

section Renamed

variable {family family' : ι → Plugin ι σ ρ} (h : Renamed family family') (p : ι)

include h

theorem Renamed.id : (family' p).id = (family p).id := by rw [← h p]

theorem Renamed.unique : (family' p).unique = (family p).unique := by rw [← h p]

theorem Renamed.dependencies : (family' p).dependencies = (family p).dependencies := by rw [← h p]

theorem Renamed.callback : (family' p).callback = (family p).callback := by rw [← h p]

end Renamed

theorem Renamed.refl (family : ι → Plugin ι σ ρ) : Renamed family family := fun _ => rfl

/-- Panics of a server that has started, up to the names of plugins. -/
inductive Fault.Alike : Fault → Fault → Prop
  | alreadyAdded (name name' : String) : Alike (.alreadyAdded name) (.alreadyAdded name')
  | finishedBefore : Alike .finishedBefore .finishedBefore
  | raised (message : String) : Alike (.raised message) (.raised message)

inductive Outcome.Alike : Outcome α → Outcome α → Prop
  | done (a : α) : Alike (.done a) (.done a)
  | fault {f f' : Fault} (h : f.Alike f') : Alike (.fault f) (.fault f')
  | exhausted : Alike .exhausted .exhausted

/-- The calls end alike and leave servers that differ in the log alone; the first of them satisfies
`P`. -/
structure Alike (P : Server ι σ ρ → Prop) (r r' : Result ι σ ρ α) : Prop where
  outcome : r.1.Alike r'.1
  server : ∃ log, r'.2 = { r.2 with log := log }
  holds : P r.2

section Alike

variable {P Q : Server ι σ ρ → Prop} {r r' : Result ι σ ρ α} {s : Server ι σ ρ}
  {log : List LogEntry}

theorem Alike.done (a : α) (h : P s) : Alike P (.done a, s) (.done a, { s with log := log }) :=
  ⟨.done a, ⟨log, rfl⟩, h⟩

theorem Alike.fault {f f' : Fault} (hf : f.Alike f') (h : P s) :
    Alike (α := α) P (.fault f, s) (.fault f', { s with log := log }) :=
  ⟨.fault hf, ⟨log, rfl⟩, h⟩

/-- Calls that are alike go on alike. -/
theorem Alike.andThen {k k' : α → Server ι σ ρ → Result ι σ ρ β} (h : Alike P r r')
    (hk : ∀ a s log, P s → Alike Q (k a s) (k' a { s with log := log }))
    (hPQ : ∀ s, P s → Q s) : Alike Q (r.andThen k) (r'.andThen k') := by
  obtain ⟨o, s⟩ := r
  obtain ⟨o', s'⟩ := r'
  obtain ⟨ho, ⟨log, rfl⟩, hP⟩ := h
  cases ho with
  | done a => exact hk a s log hP
  | fault hf => exact ⟨.fault hf, ⟨log, rfl⟩, hPQ s hP⟩
  | exhausted => exact ⟨.exhausted, ⟨log, rfl⟩, hPQ s hP⟩

/-- Calls in order are alike if each of them is. -/
theorem Alike.inTurn {state : BuildState} {call call' : β → Server ι σ ρ → Result ι σ ρ Unit}
    {bs : List β}
    (hcall : ∀ b s log, s.state = state →
      Alike (·.state = state) (call b s) (call' b { s with log := log }))
    (hs : s.state = state) :
    Alike (·.state = state) (Server.inTurn call bs s)
      (Server.inTurn call' bs { s with log := log }) := by
  induction bs generalizing s log with
  | nil => exact .done () hs
  | cons b rest ih => exact (hcall b s log hs).andThen (fun _ _ _ hs => ih hs) fun _ hs => hs

/-- Calls that are alike both panic or both do not. -/
theorem Alike.fault_iff (h : Alike P r r') : (∃ f, r.1 = .fault f) ↔ ∃ f, r'.1 = .fault f := by
  obtain ⟨o, s⟩ := r
  obtain ⟨o', s'⟩ := r'
  obtain ⟨ho, -, -⟩ := h
  cases ho <;> simp

/-- Performed on servers in this state that differ in the log alone, actions are alike. -/
def Agree (state : BuildState) (act act' : Performer ι σ ρ) : Prop :=
  ∀ a s log, s.state = state →
    Alike (·.state = state) (act a s) (act' a { s with log := log })

end Alike

namespace Server

variable {family family' : ι → Plugin ι σ ρ} {act act' : Performer ι σ ρ} {state : BuildState}
  {phase : Phase} {p : ι} {n : Nat} {s : Server ι σ ρ} {log : List LogEntry}

theorem performAll_alike (hact : Agree state act act') (actions : List (Action ι σ ρ))
    (hs : s.state = state) :
    Alike (·.state = state) (performAll act actions s)
      (performAll act' actions { s with log := log }) := by
  rw [performAll_eq_inTurn, performAll_eq_inTurn]
  refine .inTurn (fun a s log hs => ?_) hs
  exact (hact a s log hs).andThen (fun _ _ _ hs => .done () hs) fun _ hs => hs

theorem runActions_alike (hact : Agree state act act') (actions : List (Action ι σ ρ))
    (hs : s.state = state) :
    Alike (·.state = state) (runActions act phase p n actions s)
      (runActions act' phase p n actions { s with log := log }) := by
  rw [runActions_eq_inTurn, runActions_eq_inTurn]
  refine .inTurn (fun a s log hs => ?_) hs
  exact (hact a.1 s log hs).andThen (fun _ _ _ hs => .done () hs) fun _ hs => hs

section Families

variable (hname : Renamed family family') (hact : Agree state act act')

include hname hact

theorem runCallback_alike (hs : s.state = state) :
    Alike (·.state = state) (runCallback family act phase p s)
      (runCallback family' act' phase p { s with log := log }) := by
  have hbegun : (s.note (.began phase p)).state = state := hs
  unfold runCallback
  rw [hname.callback]
  exact (runActions_alike hact _ hbegun).andThen (fun _ _ _ hs => .done () hs) fun _ hs => hs

theorem runCallbacks_alike (plugins : List ι) (hs : s.state = state) :
    Alike (·.state = state) (runCallbacks family act phase plugins s)
      (runCallbacks family' act' phase plugins { s with log := log }) := by
  rw [runCallbacks_eq_inTurn, runCallbacks_eq_inTurn]
  exact .inTurn (fun _ _ _ hs => runCallback_alike hname hact hs) hs

theorem buildPlugin_alike (hs : s.state = state) :
    Alike (·.state = state) (buildPlugin family act p s)
      (buildPlugin family' act' p { s with log := log }) :=
  (runCallback_alike hname hact hs).andThen (fun _ _ _ hs => .done () hs) fun _ hs => hs

theorem addPlugin_alike (hs : s.state = state) :
    Alike (·.state = state) (addPlugin family act p s)
      (addPlugin family' act' p { s with log := log }) := by
  have hrefuses : { s with log := log }.refuses family' p = s.refuses family p := by
    unfold refuses
    rw [hname.id, hname.unique]
    rfl
  by_cases hu : s.refuses family p = true
  · rw [addPlugin_of_refuses hu, addPlugin_of_refuses (hrefuses.trans hu)]
    exact .fault (.alreadyAdded _ _) hs
  · have hu' : ¬ { s with log := log }.refuses family' p = true := by rwa [hrefuses]
    by_cases hb : s.state = .building
    · have henrolled : (s.enrol (family p).id).state = state := hs
      rw [addPlugin_of_building hu hb, addPlugin_of_building hu' hb, hname.id]
      exact buildPlugin_alike hname hact henrolled
    · rw [addPlugin_of_not_building hu hb, addPlugin_of_not_building hu' hb, hname.id]
      exact .done () hs

theorem addPlugins_alike (plugins : List ι) (hs : s.state = state) :
    Alike (·.state = state) (addPlugins family act plugins s)
      (addPlugins family' act' plugins { s with log := log }) := by
  rw [addPlugins_eq_inTurn, addPlugins_eq_inTurn]
  exact .inTurn (fun _ _ _ hs => addPlugin_alike hname hact hs) hs

theorem buildAll_alike (sorted : List ι) (hs : s.state = state) :
    Alike (·.state = state) (buildAll family act sorted s)
      (buildAll family' act' sorted { s with log := log }) := by
  rw [buildAll_eq_inTurn, buildAll_eq_inTurn]
  refine .inTurn (fun p s log hs => ?_) hs
  have hannounced : (s.announce family p).state = state := hs
  exact buildPlugin_alike hname hact hannounced

theorem cleanup_alike (hs : s.state = state) :
    Alike (·.state = state) (cleanup family act s)
      (cleanup family' act' { s with log := log }) := by
  have hrun : Alike (·.state = state)
      (runCallbacks family act .cleanup s.built.reverse { s with built := [] })
      (runCallbacks family' act' .cleanup s.built.reverse { s with built := [], log := log }) :=
    runCallbacks_alike hname hact s.built.reverse hs
  exact hrun.andThen (fun _ _ _ hs => .done () hs) fun _ hs => hs

/-- Actions on servers that have started are alike if the actions inside callbacks are. -/
theorem performWith_agree (hstate : state ≠ .notStarted) :
    Agree state (performWith family act) (performWith family' act') := by
  intro a s log hs
  cases a with
  | add ps =>
    exact (addPlugins_alike hname hact ps hs).andThen (fun _ _ _ hs => .done none hs) fun _ hs => hs
  | finish =>
    have hs' : s.state ≠ .notStarted := hs ▸ hstate
    have hlog : { s with log := log }.state ≠ .notStarted := hs'
    rw [performWith, performWith, finish_of_started hs', finish_of_started hlog]
    exact .fault .finishedBefore hs
  | cleanup =>
    exact (cleanup_alike hname hact hs).andThen (fun _ _ _ hs => .done none hs) fun _ hs => hs
  | effect run =>
    have hview : { s with log := log }.view = s.view := rfl
    simp only [performWith, hview]
    cases (run s.view s.store).outcome with
    | ok reply => exact ⟨.done reply, ⟨_, rfl⟩, hs⟩
    | error message => exact ⟨.fault (.raised message), ⟨_, rfl⟩, hs⟩
  | choose next =>
    exact (performAll_alike hact _ hs).andThen (fun _ _ _ hs => .done none hs) fun _ hs => hs

end Families

/-- Families that differ in names alone act alike on servers that have started. -/
theorem perform_agree (hname : Renamed family family') (hstate : state ≠ .notStarted) :
    ∀ fuel, Agree state (perform family fuel) (perform family' fuel)
  | 0 => fun _ _ log hs => ⟨.exhausted, ⟨log, rfl⟩, hs⟩
  | fuel + 1 => performWith_agree hname (perform_agree hname hstate fuel) hstate

/-- Servers whose plugins are sorted in the same order finish alike. -/
theorem finish_alike (hname : Renamed family family')
    (hact : ∀ state, state ≠ .notStarted → Agree state act act') {sorted : List ι}
    (hs : s.state = .notStarted) (hsort : sortPlugins family s.pending s.built = .ok sorted)
    (hsort' : sortPlugins family' s.pending s.built = .ok sorted) :
    Alike (fun _ => True) (finish family act s) (finish family' act' { s with log := log }) := by
  rw [finish_of_sorted hs hsort, finish_of_sorted (s := { s with log := log }) hs hsort']
  have hbuild : Alike (·.state = .building) (buildAll family act sorted s.begun)
      (buildAll family' act' sorted { s with log := log }.begun) :=
    buildAll_alike hname (hact .building (by decide)) sorted rfl
  refine hbuild.andThen (fun _ mid log _ => ?_) fun _ _ => trivial
  have hready : Alike (·.state = .built) (runCallbacks family act .ready mid.built mid.awaiting)
      (runCallbacks family' act' .ready mid.built { mid with log := log }.awaiting) :=
    runCallbacks_alike hname (hact .built (by decide)) mid.built rfl
  exact hready.andThen (fun _ _ _ _ => .done () trivial) fun _ _ => trivial

/-- Only the sort makes `finish` panic with the reasons of the sort. -/
theorem finish_order_iff (hact : ∀ state, state ≠ .notStarted → Agree state act act)
    (hs : s.state = .notStarted) {e : OrderError} :
    (finish family act s).1 = .fault (.order e) ↔
      sortPlugins family s.pending s.built = .error e := by
  cases hsort : sortPlugins family s.pending s.built with
  | error e' => simp [finish_of_sort_error hs hsort]
  | ok sorted =>
    have halike : Alike (fun _ => True) (finish family act s) (finish family act s) :=
      finish_alike (.refl family) hact hs hsort hsort
    refine iff_of_false (fun h => ?_) fun h => by cases h
    have houtcome := halike.outcome
    rw [h] at houtcome
    cases houtcome with
    | fault hf => cases hf

theorem perform_finish_order_iff {fuel : Nat} (hs : s.state = .notStarted) {e : OrderError} :
    (perform family (fuel + 1) .finish s).1 = .fault (.order e) ↔
      sortPlugins family s.pending s.built = .error e := by
  have hact : ∀ state, state ≠ .notStarted → Agree state (perform family fuel) (perform family fuel) :=
    fun _ hstate => perform_agree (.refl family) hstate fuel
  rw [← finish_order_iff hact hs, perform, performWith]
  rcases finish family (perform family fuel) s with ⟨⟨a⟩ | ⟨f⟩ | -, s'⟩ <;> simp [Result.andThen]

/-- Plugins that are added to a server that has not started wait behind those that wait already. -/
theorem addPlugins_of_notStarted {plugins : List ι} {s' : Server ι σ ρ} (hs : s.state = .notStarted)
    (h : addPlugins family act plugins s = (.done (), s')) :
    s'.state = .notStarted ∧ s'.pending = s.pending ++ plugins ∧ s'.built = s.built := by
  induction plugins generalizing s with
  | nil => cases h; exact ⟨hs, (List.append_nil _).symm, rfl⟩
  | cons p rest ih =>
    obtain ⟨_, mid, hp, hrest⟩ := Result.andThen_eq_done_iff.mp h
    have hb : s.state ≠ .building := by rw [hs]; exact BuildState.noConfusion
    by_cases hu : s.refuses family p = true
    · rw [addPlugin_of_refuses hu] at hp
      cases hp
    · rw [addPlugin_of_not_building hu hb] at hp
      cases hp
      obtain ⟨hstate, hpending, hbuilt⟩ := ih (s := { s.enrol _ with pending := _ }) hs hrest
      exact ⟨hstate, by rw [hpending, List.append_assoc]; rfl, hbuilt⟩

/-- Plugins of distinct types can all be added to a server that has not started. -/
theorem addPlugins_of_distinct {added : List ι} (act : Performer ι σ ρ) {s : Server ι σ ρ}
    (hs : s.state = .notStarted) (hdistinct : (added.map fun p => (family p).id).Nodup)
    (hnew : ∀ p ∈ added, (family p).id ∉ s.ids) :
    ∃ s', addPlugins family act added s = (.done (), s') ∧ s'.store = s.store ∧
      s'.trace = s.trace := by
  induction added generalizing s with
  | nil => exact ⟨s, rfl, rfl, rfl⟩
  | cons p rest ih =>
    rw [List.map_cons, List.nodup_cons] at hdistinct
    rw [List.forall_mem_cons] at hnew
    have haccepted : ¬ s.refuses family p = true := by
      simp [refuses, hasPlugin, hnew.1]
    have hb : s.state ≠ .building := by
      rw [hs]
      exact BuildState.noConfusion
    have hlater : ∀ q ∈ rest, (family q).id ∉ (s.enrol (family p).id).ids := by
      intro q hq hmem
      rcases mem_ids_enrol.mp hmem with hold | hsame
      · exact hnew.2 q hq hold
      · exact hdistinct.1 (hsame ▸ List.mem_map_of_mem hq)
    obtain ⟨s', hrest, hstore, htrace⟩ :=
      ih (s := { s.enrol (family p).id with pending := s.pending ++ [p] }) hs hdistinct.2 hlater
    refine ⟨s', ?_, hstore, htrace⟩
    rw [addPlugins, addPlugin_of_not_building haccepted hb]
    exact hrest

end Server

/-! ### Names and types -/

section Names

variable {family family' : ι → Plugin ι σ ρ} {plugins : List ι} {store : σ} {s : Server ι σ ρ}
  {sorted : List ι}

/-- Where the sort finds a dependency among waiting plugins. -/
def position (family : ι → Plugin ι σ ρ) (plugins : List ι) (d : PluginId) : Option Nat :=
  Order.lastIndex? d.typeName 0 (plugins.map (Server.node family))

/-- Under both names each dependency is found at the same place. -/
def SamePlaces (family family' : ι → Plugin ι σ ρ) (plugins : List ι) : Prop :=
  ∀ p ∈ plugins, ∀ d ∈ (family p).dependencies,
    position family' plugins d = position family plugins d

theorem NamesTell.samePlaces (h : NamesTell family plugins) (h' : NamesTell family' plugins)
    (hname : Renamed family family') : SamePlaces family family' plugins := by
  intro p hp d hd
  refine Order.lastIndex?_congr fun q hq => ?_
  have hd' : d ∈ (family' p).dependencies := by rwa [hname.dependencies]
  have htell' : (family' q).name = d.typeName ↔ (family q).id = d := by
    rw [← hname.id]
    exact h' p hp d hd' q hq
  exact htell'.trans (h p hp d hd q hq).symm

/-- If the names tell types apart, a dependency that no plugin bears the name of is one of a type that
no plugin has. -/
theorem NamesTell.unnamed_iff (h : NamesTell family plugins) :
    (∃ p ∈ plugins, ∃ d ∈ (family p).dependencies, ∀ q ∈ plugins, (family q).name ≠ d.typeName) ↔
      ∃ p ∈ plugins, ∃ d ∈ (family p).dependencies, ∀ q ∈ plugins, (family q).id ≠ d := by
  constructor
  · rintro ⟨p, hp, d, hd, hnone⟩
    exact ⟨p, hp, d, hd, fun q hq hid => hnone q hq ((h p hp d hd q hq).mpr hid)⟩
  · rintro ⟨p, hp, d, hd, hnone⟩
    exact ⟨p, hp, d, hd, fun q hq hname => hnone q hq ((h p hp d hd q hq).mp hname)⟩

theorem sortPlugins_error_iff {built : List ι} {e : OrderError} :
    Server.sortPlugins family plugins built = .error e ↔
      Order.sort (plugins.map (Server.node family)) (built.map fun p => (family p).name) =
        .error e := by
  unfold Server.sortPlugins
  cases Order.sort _ _ <;> simp [Except.map]

theorem sortPlugins_missing_iff :
    (∃ plugin d, Server.sortPlugins family plugins [] = .error (.missing plugin d)) ↔
      ∃ p ∈ plugins, ∃ d ∈ (family p).dependencies, ∀ q ∈ plugins, (family q).name ≠ d.typeName := by
  simp only [sortPlugins_error_iff, Order.sort_missing_iff, List.map_nil, List.forall_mem_map,
    List.not_mem_nil, not_false_eq_true, and_true]
  constructor
  · rintro ⟨n, hn, d, hd, hnone⟩
    obtain ⟨p, hp, rfl⟩ := List.mem_map.mp hn
    obtain ⟨d', hd', rfl⟩ := List.mem_map.mp hd
    exact ⟨p, hp, d', hd', hnone⟩
  · rintro ⟨p, hp, d, hd, hnone⟩
    exact ⟨_, List.mem_map_of_mem hp, _, List.mem_map_of_mem hd, hnone⟩

theorem sortPlugins_ok_congr (hname : Renamed family family')
    (hfind : SamePlaces family family' plugins) :
    Server.sortPlugins family' plugins [] = .ok sorted ↔
      Server.sortPlugins family plugins [] = .ok sorted := by
  have hsort : ∀ order, Order.sort (plugins.map (Server.node family')) [] = .ok order ↔
      Order.sort (plugins.map (Server.node family)) [] = .ok order := by
    intro order
    refine Order.sort_ok_congr (fun p => ?_) fun p hp => ?_
    · show (family' p).dependencies.map _ = _
      rw [hname.dependencies]
      rfl
    · exact List.forall_mem_map.mpr (hfind p hp)
  unfold Server.sortPlugins
  simp only [Order.map_ok_iff, List.map_nil, hsort]

theorem waiting_of_perform {fuel : Nat} {reply : Option ρ}
    (h : Server.perform family fuel (.add plugins) (.new store) = (.done reply, s)) :
    s.state = .notStarted ∧ s.pending = plugins ∧ s.built = [] := by
  cases fuel with
  | zero => cases h
  | succ fuel =>
    obtain ⟨_, mid, hadd, hmid⟩ := Result.andThen_eq_done_iff.mp h
    cases hmid
    exact Server.addPlugins_of_notStarted rfl hadd

/-- When a server to which plugins have been added finishes, it reports a missing dependency iff no
plugin bears the name of some dependency's type. -/
theorem finish_missing_iff {fuel : Nat} (hs : s.state = .notStarted) (hp : s.pending = plugins)
    (hb : s.built = []) :
    (∃ plugin d, (Server.perform family (fuel + 1) .finish s).1 =
        .fault (.order (.missing plugin d))) ↔
      ∃ p ∈ plugins, ∃ d ∈ (family p).dependencies, ∀ q ∈ plugins, (family q).name ≠ d.typeName := by
  simp only [Server.perform_finish_order_iff hs, hp, hb, sortPlugins_missing_iff]

theorem added_of_renamed (hname : Renamed family family')
    (h : Server.perform family 1 (.add plugins) (.new store) = (.done none, s)) :
    ∃ log, Server.perform family' 1 (.add plugins) (.new store) =
      (.done none, { s with log := log }) := by
  -- a server that has not started runs no callback when plugins are added
  have hact : Agree .notStarted (Server.perform family 0) (Server.perform family' 0) :=
    fun _ _ log hs => ⟨.exhausted, ⟨log, rfl⟩, hs⟩
  have hadd : Alike (·.state = .notStarted)
      (Server.addPlugins family (Server.perform family 0) plugins (.new store))
      (Server.addPlugins family' (Server.perform family' 0) plugins (.new store)) :=
    Server.addPlugins_alike hname hact plugins rfl
  have halike : Alike (fun _ => True) (Server.perform family 1 (.add plugins) (.new store))
      (Server.perform family' 1 (.add plugins) (.new store)) :=
    hadd.andThen (fun _ _ _ _ => .done none trivial) fun _ _ => trivial
  rw [h] at halike
  obtain ⟨houtcome, ⟨log, hserver⟩, -⟩ := halike
  refine ⟨log, Prod.ext ?_ hserver⟩
  cases hr : (Server.perform family' 1 (.add plugins) (.new store)).1 with
  | done reply => rw [hr] at houtcome; cases houtcome; rfl
  | fault f => rw [hr] at houtcome; cases houtcome
  | exhausted => rw [hr] at houtcome; cases houtcome

/-- Servers that wait for the same plugins, under names that lead to the same places, both panic when
they finish or both do not, and the same steps happen. -/
theorem finish_of_samePlaces {fuel : Nat} {log : List LogEntry} (hname : Renamed family family')
    (hfind : SamePlaces family family' plugins) (hs : s.state = .notStarted)
    (hp : s.pending = plugins) (hb : s.built = []) :
    ((∃ f, (Server.perform family fuel .finish s).1 = .fault f) ↔
      ∃ f, (Server.perform family' fuel .finish { s with log := log }).1 = .fault f) ∧
    (Server.perform family' fuel .finish { s with log := log }).2.trace =
      (Server.perform family fuel .finish s).2.trace := by
  cases fuel with
  | zero => exact ⟨Iff.rfl, rfl⟩
  | succ fuel =>
    cases hsort : Server.sortPlugins family plugins [] with
    | ok sorted =>
      have hsort' := (sortPlugins_ok_congr hname hfind).mpr hsort
      rw [← hp, ← hb] at hsort hsort'
      have hfinish : Alike (fun _ => True)
          (Server.finish family (Server.perform family fuel) s)
          (Server.finish family' (Server.perform family' fuel) { s with log := log }) :=
        Server.finish_alike hname (fun _ hstate => Server.perform_agree hname hstate fuel) hs hsort
          hsort'
      have halike : Alike (fun _ => True) (Server.perform family (fuel + 1) .finish s)
          (Server.perform family' (fuel + 1) .finish { s with log := log }) :=
        hfinish.andThen (fun _ _ _ _ => .done none trivial) fun _ _ => trivial
      obtain ⟨_, hserver⟩ := halike.server
      exact ⟨halike.fault_iff, by rw [hserver]⟩
    | error e =>
      cases hsort' : Server.sortPlugins family' plugins [] with
      | ok sorted =>
        rw [(sortPlugins_ok_congr hname hfind).mp hsort'] at hsort
        cases hsort
      | error e' =>
        rw [← hp, ← hb] at hsort hsort'
        simp only [Server.perform, Server.performWith, Server.finish_of_sort_error hs hsort,
          Server.finish_of_sort_error (s := { s with log := log }) hs hsort', Result.andThen]
        simp

/-- **The sort looks dependencies up by name.**  After plugins have been added, `finish` reports a
missing dependency iff no plugin bears the name of some dependency's type.  That is the same as no
plugin having that type if the names tell types apart.  Other names change neither whether `finish`
panics nor what happens in which order if each dependency is found at the same place. -/
theorem finish_looks_up_names (family : ι → Plugin ι σ ρ) (store : σ) (plugins : List ι) (fuel : Nat)
    (s : Server ι σ ρ)
    (hs : Server.perform family 1 (.add plugins) (.new store) = (.done none, s)) :
    ((∃ plugin d, (Server.perform family (fuel + 1) .finish s).1 =
        .fault (.order (.missing plugin d))) ↔
      ∃ p ∈ plugins, ∃ d ∈ (family p).dependencies, ∀ q ∈ plugins,
        (family q).name ≠ d.typeName) ∧
    (NamesTell family plugins →
      ((∃ plugin d, (Server.perform family (fuel + 1) .finish s).1 =
          .fault (.order (.missing plugin d))) ↔
        ∃ p ∈ plugins, ∃ d ∈ (family p).dependencies, ∀ q ∈ plugins, (family q).id ≠ d)) ∧
    ∀ family', Renamed family family' →
      (NamesTell family plugins → NamesTell family' plugins → SamePlaces family family' plugins) ∧
      (SamePlaces family family' plugins →
        ∃ s', Server.perform family' 1 (.add plugins) (.new store) = (.done none, s') ∧
          ((∃ f, (Server.perform family fuel .finish s).1 = .fault f) ↔
            ∃ f, (Server.perform family' fuel .finish s').1 = .fault f) ∧
          (Server.perform family' fuel .finish s').2.trace =
            (Server.perform family fuel .finish s).2.trace) := by
  obtain ⟨hstate, hpending, hbuilt⟩ := waiting_of_perform hs
  have hmissing := @finish_missing_iff _ _ _ family plugins s fuel hstate hpending hbuilt
  refine ⟨hmissing, fun htell => hmissing.trans htell.unnamed_iff, fun family' hname => ⟨?_, ?_⟩⟩
  · exact fun htell htell' => htell.samePlaces htell' hname
  · intro hfind
    obtain ⟨log, hadded⟩ := added_of_renamed hname hs
    exact ⟨_, hadded, finish_of_samePlaces hname hfind hstate hpending hbuilt⟩

end Names

section Sample

/-- A plugin of the type `A` that bears some name, and a plugin that depends on that type. -/
def namedPair (name : String) : Bool → Plugin Bool Unit Unit
  | false => ⟨⟨0, "A"⟩, name, true, [], fun _ => []⟩
  | true => ⟨⟨1, "B"⟩, "B", true, [⟨0, "A"⟩], fun _ => []⟩

theorem finish_looks_up_names_pair :
    ∃ s, Server.perform (namedPair "A") 1 (.add [true, false]) (.new ()) = (.done none, s) ∧
      NamesTell (namedPair "A") [true, false] ∧
      ((∃ plugin d, (Server.perform (namedPair "A") 2 .finish s).1 =
          .fault (.order (.missing plugin d))) ↔
        ∃ p ∈ [true, false], ∃ d ∈ (namedPair "A" p).dependencies, ∀ q ∈ [true, false],
          (namedPair "A" q).id ≠ d) := by
  have hadd : Server.perform (namedPair "A") 1 (.add [true, false]) (.new ()) = (.done none, _) := rfl
  have htell : NamesTell (namedPair "A") [true, false] := by
    unfold NamesTell
    decide
  exact ⟨_, hadd, htell, (finish_looks_up_names _ _ _ 1 _ hadd).2.1 htell⟩

/-- A plugin that bears a name of its own is not found by the plugin that depends on its type, which
is found under the name of its type. -/
theorem finish_misses_named_dependency :
    ∃ s s', Server.perform (namedPair "Base") 1 (.add [false, true]) (.new ()) = (.done none, s) ∧
      Server.perform (namedPair "A") 1 (.add [false, true]) (.new ()) = (.done none, s') ∧
      Renamed (namedPair "A") (namedPair "Base") ∧
      (∀ p ∈ [false, true], ∀ d ∈ (namedPair "Base" p).dependencies, ∃ q ∈ [false, true],
        (namedPair "Base" q).id = d) ∧
      (Server.perform (namedPair "Base") 2 .finish s).1 = .fault (.order (.missing "B" "A")) ∧
      (Server.perform (namedPair "A") 2 .finish s').1 = .done none := by
  refine ⟨_, _, rfl, rfl, ?_, by decide, rfl, rfl⟩
  intro p
  cases p <;> rfl

end Sample

end ObjectAssembly

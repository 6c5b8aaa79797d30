import ObjectAssembly.Plugin.Server
import Mathlib.Data.List.Basic

/-!
# Callbacks — what a call adds to the trace of a server that has started

Callbacks nest: a plugin that is added while another one builds is built inside it.  `underWay` keeps
the stack of builds that have begun and not ended.  A call on a server that has started leaves it as
far as it has come, and if the call is done, the steps that it adds to the trace begin and end builds
in pairs.  Once the server is built no build begins.

The loops of a server make calls `inTurn`, so what one call keeps a loop keeps by one induction.
-/

namespace ObjectAssembly

variable {ι σ ρ α β : Type}

/-! ### Builds under way -/

section Trace

variable {state : BuildState} {phase : Phase} {p : ι} {stack : List ι}
  {steps more : List (TraceEntry ι ρ)}

/-- How a step changes the stack of builds that are under way, innermost first. -/
def TraceEntry.onBuilds : TraceEntry ι ρ → List ι → List ι
  | .began .build p, stack => p :: stack
  | .ended .build _, stack => stack.tail
  | _, stack => stack

/-- The builds that are under way after further steps. -/
def underWay (stack : List ι) (steps : List (TraceEntry ι ρ)) : List ι :=
  steps.foldl (fun stack e => e.onBuilds stack) stack

theorem underWay_append : underWay stack (steps ++ more) = underWay (underWay stack steps) more :=
  List.foldl_append

/-- Behind these steps of a trace a plugin begins to build. -/
def Begins (trace before : List (TraceEntry ι ρ)) (p : ι) : Prop :=
  ∃ after, trace = before ++ .began .build p :: after

theorem Begins.of_append {before : List (TraceEntry ι ρ)} (h : Begins (steps ++ more) before p) :
    Begins steps before p ∨ ∃ mid, before = steps ++ mid ∧ Begins more mid p := by
  obtain ⟨after, h⟩ := h
  rcases List.append_eq_append_iff.mp h with ⟨mid, hbefore, hmore⟩ | ⟨mid, hsteps, hafter⟩
  · exact .inr ⟨mid, hbefore, after, hmore⟩
  · rcases List.cons_eq_append_iff.mp hafter with ⟨rfl, hmore⟩ | ⟨mid, rfl, -⟩
    · rw [List.append_nil] at hsteps
      exact .inr ⟨[], by rw [hsteps, List.append_nil], after, hmore⟩
    · exact .inl ⟨mid, hsteps⟩

/-- In a build, the build itself begins or one inside it. -/
theorem Begins.of_build {q : ι} {before : List (TraceEntry ι ρ)}
    (h : Begins (.began .build p :: steps ++ [.ended .build p]) before q) :
    before = [] ∧ q = p ∨ ∃ mid, before = .began .build p :: mid ∧ Begins steps mid q := by
  rcases h.of_append with ⟨after, h⟩ | ⟨mid, -, after, h⟩
  · cases before with
    | nil => cases h; exact .inl ⟨rfl, rfl⟩
    | cons e before =>
      obtain ⟨rfl, hrest⟩ := List.cons.inj h
      exact .inr ⟨before, rfl, after, hrest⟩
  · rcases List.singleton_eq_append_iff.mp h with ⟨-, h⟩ | ⟨-, h⟩ <;> cases h

/-- Steps that begin and end builds in pairs; in a server that is built, no build begins. -/
structure Balanced (state : BuildState) (steps : List (TraceEntry ι ρ)) : Prop where
  whole : ∀ stack, underWay stack steps = stack
  inside : ∀ before after, steps = before ++ after → ∀ stack, stack <:+ underWay stack before
  idle : state = .built → ∀ p, .began .build p ∉ steps

theorem Balanced.nil : Balanced state ([] : List (TraceEntry ι ρ)) where
  whole _ := rfl
  inside before after h stack := by
    obtain ⟨rfl, -⟩ := List.append_eq_nil_iff.mp h.symm
    exact List.suffix_rfl
  idle _ _ := List.not_mem_nil

theorem Balanced.append (h : Balanced state steps) (h' : Balanced state more) :
    Balanced state (steps ++ more) where
  whole stack := by rw [underWay_append, h.whole, h'.whole]
  inside before after heq stack := by
    rcases List.append_eq_append_iff.mp heq with ⟨rest, rfl, hrest⟩ | ⟨rest, hrest, rfl⟩
    · rw [underWay_append, h.whole]
      exact h'.inside rest after hrest stack
    · exact h.inside before rest hrest stack
  idle hs p := by
    rw [List.mem_append]
    exact fun hp => hp.elim (h.idle hs p) (h'.idle hs p)

/-- A step that neither begins nor ends a build. -/
theorem Balanced.single {e : TraceEntry ι ρ} (h : ∀ stack, e.onBuilds stack = stack) :
    Balanced state [e] where
  whole := h
  inside before after heq stack := by
    cases before with
    | nil => exact List.suffix_rfl
    | cons e' before =>
      obtain ⟨rfl, hrest⟩ := List.cons.inj heq
      obtain ⟨rfl, -⟩ := List.append_eq_nil_iff.mp hrest.symm
      exact ⟨[], (h stack).symm⟩
  idle _ p hp := by
    obtain rfl := List.mem_singleton.mp hp
    cases h []

/-- A build with what happens inside it. -/
theorem Balanced.build (h : Balanced state steps) (hs : state ≠ .built) :
    Balanced state (.began .build p :: steps ++ [.ended .build p]) where
  whole stack := by
    show underWay (p :: stack) (steps ++ [.ended .build p]) = stack
    rw [underWay_append, h.whole]
    rfl
  inside before after heq stack := by
    cases before with
    | nil => exact List.suffix_rfl
    | cons e before =>
      obtain ⟨rfl, hrest⟩ := List.cons.inj heq
      show stack <:+ underWay (p :: stack) before
      rcases List.append_eq_append_iff.mp hrest with ⟨rest, rfl, hend⟩ | ⟨rest, hmid, -⟩
      · rw [underWay_append, h.whole]
        rcases List.singleton_eq_append_iff.mp hend with ⟨rfl, -⟩ | ⟨rfl, -⟩
        · exact List.suffix_cons p stack
        · exact List.suffix_rfl
      · exact (List.suffix_cons p stack).trans (h.inside before rest hmid (p :: stack))
  idle hb := absurd hb hs

/-- A callback with what happens inside it. -/
theorem Balanced.callback (h : Balanced state steps) (hs : phase = .build → state ≠ .built) :
    Balanced state (.began phase p :: steps ++ [.ended phase p]) := by
  cases phase with
  | build => exact h.build (hs rfl)
  | ready => exact ((Balanced.single fun _ => rfl).append h).append (Balanced.single fun _ => rfl)
  | cleanup => exact ((Balanced.single fun _ => rfl).append h).append (Balanced.single fun _ => rfl)

end Trace

/-! ### Calls in turn -/

namespace Server

/-- Makes calls in order. -/
def inTurn (call : β → Server ι σ ρ → Result ι σ ρ Unit) :
    List β → Server ι σ ρ → Result ι σ ρ Unit
  | [], s => (.done (), s)
  | b :: rest, s => (call b s).andThen fun _ s => inTurn call rest s

section Loops

variable (family : ι → Plugin ι σ ρ) (act : Performer ι σ ρ) (phase : Phase) (p : ι)

/-- Performs an action of a choice. -/
def performOne (a : Action ι σ ρ) (s : Server ι σ ρ) : Result ι σ ρ Unit :=
  (act a s).andThen fun _ s => (.done (), s)

/-- Performs a numbered action of a callback. -/
def runAction (a : Action ι σ ρ × Nat) (s : Server ι σ ρ) : Result ι σ ρ Unit :=
  (act a.1 s).andThen fun reply s => (.done (), s.note (.did phase p a.2 reply))

/-- The server once the build of a plugin has been announced. -/
def announce (s : Server ι σ ρ) : Server ι σ ρ := s.report (.buildingPlugin (family p).name)

theorem performAll_eq_inTurn (actions : List (Action ι σ ρ)) :
    performAll act actions = inTurn (performOne act) actions := by
  induction actions with
  | nil => rfl
  | cons a rest ih =>
    funext s
    rw [performAll, inTurn, performOne, ih]
    rcases act a s with ⟨⟨reply⟩ | ⟨f⟩ | -, mid⟩ <;> rfl

theorem runActions_eq_inTurn (n : Nat) (actions : List (Action ι σ ρ)) :
    runActions act phase p n actions = inTurn (runAction act phase p) (actions.zipIdx n) := by
  induction actions generalizing n with
  | nil => rfl
  | cons a rest ih =>
    funext s
    rw [runActions, List.zipIdx_cons, inTurn, runAction, ih]
    rcases act a s with ⟨⟨reply⟩ | ⟨f⟩ | -, mid⟩ <;> rfl

theorem addPlugins_eq_inTurn (plugins : List ι) :
    addPlugins family act plugins = inTurn (addPlugin family act) plugins := by
  induction plugins with
  | nil => rfl
  | cons p rest ih =>
    funext s
    rw [addPlugins, inTurn, ih]

theorem buildAll_eq_inTurn (plugins : List ι) :
    buildAll family act plugins =
      inTurn (fun p s => buildPlugin family act p (s.announce family p)) plugins := by
  induction plugins with
  | nil => rfl
  | cons p rest ih =>
    funext s
    rw [buildAll, inTurn, ih]
    rfl

theorem runCallbacks_eq_inTurn (plugins : List ι) :
    runCallbacks family act phase plugins = inTurn (runCallback family act phase) plugins := by
  induction plugins with
  | nil => rfl
  | cons p rest ih =>
    funext s
    rw [runCallbacks, inTurn, ih]

end Loops

end Server

/-! ### Adding one plugin -/

namespace Server

variable {family : ι → Plugin ι σ ρ} {act : Performer ι σ ρ} {p : ι} {s : Server ι σ ρ}

/-- The server refuses a second plugin of a unique type. -/
def refuses (family : ι → Plugin ι σ ρ) (s : Server ι σ ρ) (p : ι) : Bool :=
  (family p).unique && s.hasPlugin (family p).id

/-- The server with a plugin type among those that have been added. -/
def enrol (s : Server ι σ ρ) (id : PluginId) : Server ι σ ρ :=
  { s with ids := if s.hasPlugin id then s.ids else s.ids ++ [id] }

theorem mem_ids_enrol {d id : PluginId} :
    id ∈ (s.enrol d).ids ↔ id ∈ s.ids ∨ d = id := by
  unfold enrol hasPlugin
  by_cases hd : d ∈ s.ids
  · simp only [hd, decide_true, if_true]
    exact ⟨.inl, fun h => h.elim (fun hmem => hmem) fun heq => heq ▸ hd⟩
  · simp [hd, eq_comm]

theorem addPlugin_of_refuses (h : s.refuses family p = true) :
    addPlugin family act p s = (.fault (.alreadyAdded (family p).name), s) := if_pos h

/-- While the server builds, a plugin that is not refused is built at once. -/
theorem addPlugin_of_building (h : ¬ s.refuses family p = true) (hs : s.state = .building) :
    addPlugin family act p s = buildPlugin family act p (s.enrol (family p).id) :=
  (if_neg h).trans (if_pos hs)

/-- At other times it waits. -/
theorem addPlugin_of_not_building (h : ¬ s.refuses family p = true) (hs : s.state ≠ .building) :
    addPlugin family act p s =
      (.done (), { s.enrol (family p).id with pending := s.pending ++ [p] }) :=
  (if_neg h).trans (if_neg hs)

end Server

/-! ### Calls on a server that has started -/

section Calls

variable {Q Q' : List (TraceEntry ι ρ) → Prop} {s s' : Server ι σ ρ} {r : Result ι σ ρ α}

/-- The call leaves the server as far as it has come, and if it is done it has added steps of this
kind to the trace. -/
structure Adds (Q : List (TraceEntry ι ρ) → Prop) (s : Server ι σ ρ) (r : Result ι σ ρ α) : Prop where
  state : r.2.state = s.state
  trace : ∀ a, r.1 = .done a → ∃ steps, r.2.trace = s.trace ++ steps ∧ Q steps

theorem Adds.imp (h : Adds Q s r) (hq : ∀ steps, Q steps → Q' steps) : Adds Q' s r where
  state := h.state
  trace a ha := by
    obtain ⟨steps, ht, hQ⟩ := h.trace a ha
    exact ⟨steps, ht, hq steps hQ⟩

/-- A call that only changes other parts of the server. -/
theorem Adds.same {o : Outcome α} (hs : s'.state = s.state) (ht : s'.trace = s.trace) (hq : Q []) :
    Adds Q s (o, s') :=
  ⟨hs, fun _ _ => ⟨[], by rw [ht, List.append_nil], hq⟩⟩

theorem Adds.note {e : TraceEntry ι ρ} {a : α} (hq : Q [e]) : Adds Q s (.done a, s.note e) :=
  ⟨rfl, fun _ _ => ⟨[e], rfl, hq⟩⟩

/-- A call after a step has been noted. -/
theorem Adds.of_note {e : TraceEntry ι ρ} (h : Adds Q (s.note e) r)
    (hq : ∀ steps, Q steps → Q' (e :: steps)) : Adds Q' s r where
  state := h.state
  trace a ha := by
    obtain ⟨steps, ht, hQ⟩ := h.trace a ha
    refine ⟨e :: steps, ?_, hq steps hQ⟩
    rw [ht, Server.note, List.append_assoc]
    rfl

/-- A call after changes to other parts of the server. -/
theorem Adds.of_same (h : Adds Q s' r) (hs : s'.state = s.state) (ht : s'.trace = s.trace) :
    Adds Q s r where
  state := h.state.trans hs
  trace a ha := by
    rw [← ht]
    exact h.trace a ha

/-- A call goes on after another one. -/
theorem Adds.andThen {R : List (TraceEntry ι ρ) → Prop} {k : α → Server ι σ ρ → Result ι σ ρ β}
    (h : Adds Q s r) (hk : ∀ a s', s'.state = s.state → Adds Q' s' (k a s'))
    (hq : ∀ steps more, Q steps → Q' more → R (steps ++ more)) : Adds R s (r.andThen k) := by
  obtain ⟨o, mid⟩ := r
  cases o with
  | fault f => exact ⟨h.state, fun _ ha => by cases ha⟩
  | exhausted => exact ⟨h.state, fun _ ha => by cases ha⟩
  | done a =>
    obtain ⟨steps, ht, hQ⟩ := h.trace a rfl
    have hnext := hk a mid h.state
    refine ⟨hnext.state.trans h.state, fun b hb => ?_⟩
    obtain ⟨more, hm, hQ'⟩ := hnext.trace b hb
    refine ⟨steps ++ more, ?_, hq steps more hQ hQ'⟩
    show (k a mid).2.trace = _
    rw [hm, ht, List.append_assoc]

/-- Calls in order, each of which begins and ends builds in pairs, do so together. -/
theorem Adds.inTurn {state : BuildState} {call : β → Server ι σ ρ → Result ι σ ρ Unit} {bs : List β}
    (hcall : ∀ b s, s.state = state → Adds (Balanced state) s (call b s)) (hs : s.state = state) :
    Adds (Balanced state) s (Server.inTurn call bs s) := by
  induction bs generalizing s with
  | nil => exact .same rfl rfl .nil
  | cons b rest ih => exact (hcall b s hs).andThen (fun _ _ hs' => ih (hs'.trans hs)) fun _ _ => .append

/-- Actions on a server in this state leave it there, and begin and end builds in pairs. -/
def Steady (state : BuildState) (act : Performer ι σ ρ) : Prop :=
  ∀ a s, s.state = state → Adds (Balanced state) s (act a s)

end Calls

/-- How an effect ends. -/
def EffectResult.ending (r : EffectResult σ ρ) : Outcome (Option ρ) :=
  match r.outcome with
  | .ok reply => .done reply
  | .error message => .fault (.raised message)

namespace Server

variable {family : ι → Plugin ι σ ρ} {act : Performer ι σ ρ} {state : BuildState} {phase : Phase}
  {p : ι} {n : Nat} {s : Server ι σ ρ}

theorem performAll_adds (hact : Steady state act) (actions : List (Action ι σ ρ))
    (hs : s.state = state) : Adds (Balanced state) s (performAll act actions s) := by
  rw [performAll_eq_inTurn]
  refine .inTurn (fun a s hs => ?_) hs
  exact (hact a s hs).andThen (fun _ s' _ => .same rfl rfl .nil) fun _ _ => .append

theorem runActions_adds (hact : Steady state act) (actions : List (Action ι σ ρ))
    (hs : s.state = state) : Adds (Balanced state) s (runActions act phase p n actions s) := by
  rw [runActions_eq_inTurn]
  refine .inTurn (fun a s hs => ?_) hs
  exact (hact a.1 s hs).andThen (fun _ s' _ => .note (.single fun _ => rfl)) fun _ _ => .append

/-- A callback begins, performs its actions and ends. -/
theorem runCallback_adds (hact : Steady state act) (hs : s.state = state) :
    Adds (fun steps => ∃ mid, steps = .began phase p :: mid ++ [.ended phase p] ∧ Balanced state mid)
      s (runCallback family act phase p s) := by
  have hbegun : (s.note (.began phase p)).state = state := hs
  have hrun : Adds (fun steps => ∃ mid, steps = .began phase p :: mid ∧ Balanced state mid) s
      (runActions act phase p 0 ((family p).callback phase) (s.note (.began phase p))) :=
    (runActions_adds hact _ hbegun).of_note fun mid h => ⟨mid, rfl, h⟩
  have hend : ∀ s' : Server ι σ ρ, Adds (· = [.ended phase p]) s'
      (Outcome.done (), s'.note (.ended phase p)) := fun s' => .note rfl
  refine hrun.andThen (fun _ s' _ => hend s') ?_
  rintro _ _ ⟨mid, rfl, hmid⟩ rfl
  exact ⟨mid, rfl, hmid⟩

theorem runCallbacks_adds (hact : Steady state act) (hp : phase ≠ .build) (plugins : List ι)
    (hs : s.state = state) :
    Adds (Balanced state) s (runCallbacks family act phase plugins s) := by
  rw [runCallbacks_eq_inTurn]
  refine .inTurn (fun p s hs => (runCallback_adds hact hs).imp ?_) hs
  rintro _ ⟨mid, rfl, hmid⟩
  exact hmid.callback fun h => absurd h hp

/-- A build begins, performs its actions and ends. -/
theorem buildPlugin_adds (hact : Steady state act) (hs : s.state = state) :
    Adds (fun steps => ∃ mid, steps = .began .build p :: mid ++ [.ended .build p] ∧
      Balanced state mid) s (buildPlugin family act p s) := by
  have hkeep : ∀ s' : Server ι σ ρ, Adds (· = []) s'
      (Outcome.done (), { s' with built := s'.built ++ [p] }) := fun s' => .same rfl rfl rfl
  refine (runCallback_adds hact hs).andThen (fun _ s' _ => hkeep s') ?_
  rintro _ _ ⟨mid, rfl, hmid⟩ rfl
  exact ⟨mid, List.append_nil _, hmid⟩

theorem addPlugin_adds (hact : Steady state act) (hs : s.state = state) :
    Adds (Balanced state) s (addPlugin family act p s) := by
  by_cases hu : s.refuses family p = true
  · rw [addPlugin_of_refuses hu]
    exact .same rfl rfl .nil
  · by_cases hb : s.state = .building
    · have hstate : state ≠ .built := by
        rw [← hs, hb]
        exact BuildState.noConfusion
      have henrolled : (s.enrol (family p).id).state = state := hs
      rw [addPlugin_of_building hu hb]
      refine ((buildPlugin_adds hact henrolled).imp ?_).of_same rfl rfl
      rintro _ ⟨mid, rfl, hmid⟩
      exact hmid.build hstate
    · rw [addPlugin_of_not_building hu hb]
      exact .same rfl rfl .nil

theorem addPlugins_adds (hact : Steady state act) (plugins : List ι) (hs : s.state = state) :
    Adds (Balanced state) s (addPlugins family act plugins s) := by
  rw [addPlugins_eq_inTurn]
  exact .inTurn (fun _ _ hs => addPlugin_adds hact hs) hs

theorem cleanup_adds (hact : Steady state act) (hs : s.state = state) :
    Adds (Balanced state) s (cleanup family act s) := by
  have hphase : Phase.cleanup ≠ .build := by decide
  have hrun : Adds (Balanced state) s (runCallbacks family act .cleanup s.built.reverse
      { s with built := [] }) :=
    Adds.of_same (runCallbacks_adds hact hphase s.built.reverse hs) rfl rfl
  exact hrun.andThen (fun _ s' _ => .same rfl rfl .nil) fun _ _ => .append

theorem finish_of_started (hs : s.state ≠ .notStarted) :
    finish family act s = (.fault .finishedBefore, s) := if_pos hs

/-- An effect changes the store and adds to the log. -/
theorem performWith_effect (run : Effect σ ρ) :
    performWith family act (.effect run) s =
      ((run s.view s.store).ending, { s with
        store := (run s.view s.store).store, log := s.log ++ (run s.view s.store).log }) := by
  cases houtcome : (run s.view s.store).outcome with
  | ok reply => simp only [performWith, EffectResult.ending, houtcome]
  | error message => simp only [performWith, EffectResult.ending, houtcome]

/-- A callback of one effect that does not panic. -/
theorem runCallback_of_effect (fuel : Nat) {run : Effect σ ρ} {reply : Option ρ}
    (h : (family p).callback phase = [.effect run])
    (hreply : (run s.view s.store).outcome = .ok reply) :
    runCallback family (perform family (fuel + 1)) phase p s = (.done (), { s with
      store := (run s.view s.store).store, log := s.log ++ (run s.view s.store).log,
      trace := s.trace ++ [.began phase p, .did phase p 0 reply, .ended phase p] }) := by
  have hdone : perform family (fuel + 1) (.effect run) (s.note (.began phase p)) =
      (.done reply, { s with
        store := (run s.view s.store).store, log := s.log ++ (run s.view s.store).log,
        trace := s.trace ++ [.began phase p] }) := by
    have hending : (run s.view s.store).ending = .done reply := by
      rw [EffectResult.ending, hreply]
    rw [perform, performWith_effect, ← hending]
    rfl
  rw [runCallback, h, runActions, hdone]
  simp [Result.andThen, runActions, note]

/-- Performing an action takes a server that has started no further. -/
theorem performWith_steady (hact : Steady state act) (hstate : state ≠ .notStarted) :
    Steady state (performWith family act) := by
  intro a s hs
  have hdone : ∀ s' : Server ι σ ρ, Adds (Balanced state) s' (Outcome.done (none : Option ρ), s') :=
    fun s' => .same rfl rfl .nil
  cases a with
  | add ps => exact (addPlugins_adds hact ps hs).andThen (fun _ s' _ => hdone s') fun _ _ => .append
  | finish =>
    rw [performWith, finish_of_started (hs ▸ hstate)]
    exact .same rfl rfl .nil
  | cleanup => exact (cleanup_adds hact hs).andThen (fun _ s' _ => hdone s') fun _ _ => .append
  | effect run =>
    rw [performWith_effect]
    exact .same rfl rfl .nil
  | choose next =>
    exact (performAll_adds hact _ hs).andThen (fun _ s' _ => hdone s') fun _ _ => .append

/-- Whatever is done to a server that has started leaves it as far as it has come, and begins and
ends builds in pairs. -/
theorem perform_steady (family : ι → Plugin ι σ ρ) (hstate : state ≠ .notStarted) :
    ∀ fuel, Steady state (perform family fuel)
  | 0 => fun _ _ _ => ⟨rfl, fun _ h => by cases h⟩
  | fuel + 1 => performWith_steady (perform_steady family hstate fuel) hstate

end Server

end ObjectAssembly

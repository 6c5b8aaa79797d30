import ObjectAssembly.Proofs.Plugin.Lifecycle

/-!
# Nesting — what lasts while builds nest

A call may be cut short anywhere: a panic inside some build ends all the calls around it, and fuel may
run out.  So what is to be said of the trace however a call ends is told with the number of builds that
are under way.  A property of servers with so many builds that is `Lasting` is kept by whatever a server
that has started performs; a call that is cut short leaves some number of builds under way.  `finish`
goes through stages, a build of each sorted plugin and then the ready callbacks, and a property that
lasts through each of them holds of the server in the end.
-/

namespace ObjectAssembly

variable {ι σ ρ α β : Type} {family : ι → Plugin ι σ ρ} {act : Performer ι σ ρ}
  {P : Nat → Server ι σ ρ → Prop} {B C Q : Server ι σ ρ → Prop} {s : Server ι σ ρ} {p : ι} {n : Nat}
  {phase : Phase}

/-! ### Calls that are done or cut short -/

/-- The call is done and leads to the first property, or it is cut short and leads to the second. -/
def Result.Leads (B Q : Server ι σ ρ → Prop) (r : Result ι σ ρ α) : Prop :=
  match r.1 with
  | .done _ => B r.2
  | .fault _ => Q r.2
  | .exhausted => Q r.2

theorem Result.Leads.snd {r : Result ι σ ρ α} (h : r.Leads Q Q) : Q r.2 := by
  rcases r with ⟨⟨a⟩ | ⟨f⟩ | -, mid⟩ <;> exact h

theorem Result.Leads.imp {Q' : Server ι σ ρ → Prop} {r : Result ι σ ρ α} (h : r.Leads B Q)
    (hdone : ∀ mid, B mid → C mid) (hcut : ∀ mid, Q mid → Q' mid) : r.Leads C Q' := by
  rcases r with ⟨⟨a⟩ | ⟨f⟩ | -, mid⟩
  · exact hdone mid h
  · exact hcut mid h
  · exact hcut mid h

theorem Result.Leads.andThen {r : Result ι σ ρ α} {k : α → Server ι σ ρ → Result ι σ ρ β}
    (h : r.Leads B Q) (hk : ∀ a mid, B mid → (k a mid).Leads C Q) : (r.andThen k).Leads C Q := by
  rcases r with ⟨⟨a⟩ | ⟨f⟩ | -, mid⟩
  · exact hk a mid h
  · exact h
  · exact h

theorem Server.inTurn_leads {call : β → Server ι σ ρ → Result ι σ ρ Unit} {bs : List β}
    (hcall : ∀ b s, B s → (call b s).Leads B Q) (hs : B s) : (inTurn call bs s).Leads B Q := by
  induction bs generalizing s with
  | nil => exact hs
  | cons b rest ih => exact (hcall b s hs).andThen fun _ _ => ih

/-! ### Properties that last -/

/-- The property of servers that have started, with so many builds under way, is kept by all that such a
server does: plugins that are not refused wait or begin to build, builds end, other steps are noted, and
other parts of the server change. -/
structure Lasting (family : ι → Plugin ι σ ρ) (P : Nat → Server ι σ ρ → Prop) : Prop where
  started : ∀ {n s}, P n s → s.state ≠ .notStarted
  change : ∀ {n s s'}, P n s → s'.state = s.state → s'.ids = s.ids → s'.pending = s.pending →
    s'.trace = s.trace → P n s'
  note : ∀ {n s} (e : TraceEntry ι ρ), P n s → e.begunBuild? = none → e.endedBuild? = none →
    P n (s.note e)
  wait : ∀ {n s p}, P n s → s.state ≠ .building → ¬ s.refuses family p = true →
    P n { s.enrol (family p).id with pending := s.pending ++ [p] }
  enter : ∀ {n s p}, P n s → s.state = .building → ¬ s.refuses family p = true →
    P (n + 1) ((s.enrol (family p).id).note (.began .build p))
  leave : ∀ {n s p}, P (n + 1) s → P n (s.note (.ended .build p))

/-- The call keeps the property, and if it is cut short, that leaves some number of builds under way. -/
def Result.Keeps (P : Nat → Server ι σ ρ → Prop) (n : Nat) (r : Result ι σ ρ α) : Prop :=
  r.Leads (P n) fun s => ∃ m, P m s

/-- Actions keep the property. -/
def Keeps (P : Nat → Server ι σ ρ → Prop) (act : Performer ι σ ρ) : Prop :=
  ∀ a n s, P n s → (act a s).Keeps P n

theorem Result.Keeps.of_snd {r : Result ι σ ρ α} (h : P n r.2) : r.Keeps P n := by
  rcases r with ⟨⟨a⟩ | ⟨f⟩ | -, mid⟩
  · exact h
  · exact ⟨n, h⟩
  · exact ⟨n, h⟩

theorem Keeps.performAll (hact : Keeps P act) (actions : List (Action ι σ ρ)) (hs : P n s) :
    (Server.performAll act actions s).Keeps P n := by
  rw [Server.performAll_eq_inTurn]
  exact Server.inTurn_leads (fun a s hs => (hact a n s hs).andThen fun _ _ hmid => hmid) hs

namespace Lasting

open Server

section Calls

variable (h : Lasting family P) (hact : Keeps P act)

include h hact

theorem runActions (actions : List (Action ι σ ρ)) (i : Nat) (hs : P n s) :
    (runActions act phase p i actions s).Keeps P n := by
  rw [runActions_eq_inTurn]
  exact inTurn_leads (fun a s hs => (hact a.1 n s hs).andThen
    fun reply mid hmid => h.note (.did phase p a.2 reply) hmid rfl rfl) hs

theorem runCallback (hphase : phase ≠ .build) (hs : P n s) :
    (runCallback family act phase p s).Keeps P n := by
  have hbegun := h.note (.began phase p) hs (TraceEntry.begunBuild?_began hphase) rfl
  exact (h.runActions hact _ 0 hbegun).andThen
    fun _ _ hmid => h.note (.ended phase p) hmid rfl (TraceEntry.endedBuild?_ended hphase)

theorem runCallbacks (hphase : phase ≠ .build) (plugins : List ι) (hs : P n s) :
    (runCallbacks family act phase plugins s).Keeps P n := by
  rw [runCallbacks_eq_inTurn]
  exact inTurn_leads (fun _ _ => h.runCallback hact hphase) hs

/-- The property lasts inside a build, and leads to another one when the build ends. -/
theorem buildPlugin (hs : P n (s.note (.began .build p)))
    (hdone : ∀ mid, P n mid → B { mid.note (.ended .build p) with built := mid.built ++ [p] }) :
    (buildPlugin family act p s).Leads B fun s => ∃ m, P m s := by
  have hrun : (Server.runActions act .build p 0 ((family p).callback .build)
      (s.note (.began .build p))).Keeps P n := h.runActions hact _ 0 hs
  have hcallback : (Server.runCallback family act .build p s).Leads
      (fun s => B { s with built := s.built ++ [p] }) fun s => ∃ m, P m s :=
    hrun.andThen fun _ mid hmid => hdone mid hmid
  exact hcallback.andThen fun _ _ hmid => hmid

theorem addPlugin (p : ι) (hs : P n s) : (addPlugin family act p s).Keeps P n := by
  by_cases hu : s.refuses family p = true
  · rw [addPlugin_of_refuses hu]
    exact ⟨n, hs⟩
  · by_cases hb : s.state = .building
    · rw [addPlugin_of_building hu hb]
      exact h.buildPlugin hact (h.enter hs hb hu) fun mid hmid =>
        h.change (h.leave hmid) rfl rfl rfl rfl
    · rw [addPlugin_of_not_building hu hb]
      exact h.wait hs hb hu

theorem addPlugins (plugins : List ι) (hs : P n s) : (addPlugins family act plugins s).Keeps P n := by
  rw [addPlugins_eq_inTurn]
  exact inTurn_leads (fun p _ => h.addPlugin hact p) hs

theorem cleanup (hs : P n s) : (cleanup family act s).Keeps P n := by
  have hphase : Phase.cleanup ≠ .build := by decide
  have hout : P n { s with built := [] } := h.change hs rfl rfl rfl rfl
  exact (h.runCallbacks hact hphase s.built.reverse hout).andThen
    fun _ _ hmid => h.change hmid rfl rfl rfl rfl

theorem performWith : Keeps P (performWith family act) := by
  intro a n s hs
  cases a with
  | add ps => exact (h.addPlugins hact ps hs).andThen fun _ _ hmid => hmid
  | finish =>
    rw [Server.performWith, finish_of_started (h.started hs)]
    exact ⟨n, hs⟩
  | cleanup => exact (h.cleanup hact hs).andThen fun _ _ hmid => hmid
  | effect run =>
    rw [performWith_effect]
    exact .of_snd (h.change hs rfl rfl rfl rfl)
  | choose next => exact (hact.performAll _ hs).andThen fun _ _ hmid => hmid

end Calls

/-- Whatever is done to a server keeps the property. -/
theorem perform (h : Lasting family P) : ∀ fuel, Keeps P (perform family fuel)
  | 0 => fun _ n _ hs => ⟨n, hs⟩
  | fuel + 1 => h.performWith (h.perform fuel)

end Lasting

/-- What steps other than the begin of a build keep of a trace lasts once the server is built. -/
theorem lasting_of_built {T : List (TraceEntry ι ρ) → Prop}
    (h : ∀ trace e, T trace → e.begunBuild? = none → T (trace ++ [e])) :
    Lasting family fun _ (s : Server ι σ ρ) => s.state = .built ∧ T s.trace where
  started hs := by
    rw [hs.1]
    exact BuildState.noConfusion
  change hs hstate _ _ htrace := by
    rw [hstate, htrace]
    exact hs
  note e hs hbegun _ := ⟨hs.1, h _ e hs.2 hbegun⟩
  wait hs _ _ := hs
  enter hs hb _ := by
    rw [hs.1] at hb
    cases hb
  leave hs := ⟨hs.1, h _ _ hs.2 rfl⟩

/-! ### Finishing -/

/-- `B todo` holds of a server that has these plugins still to build.  A property lasts through the
build of the next one that leads to `B` again when the build ends, and to `Q` if it is cut short; and one
that leads to `Q` lasts through the ready callbacks. -/
structure Stages (family : ι → Plugin ι σ ρ) (B : List ι → Server ι σ ρ → Prop)
    (Q : Server ι σ ρ → Prop) : Prop where
  build : ∀ {p todo s}, B (p :: todo) s → ∃ P, Lasting family P ∧
    P 0 ((s.announce family p).note (.began .build p)) ∧ (∀ n mid, P n mid → Q mid) ∧
    ∀ mid, P 0 mid → B todo { mid.note (.ended .build p) with built := mid.built ++ [p] }
  ready : ∀ {s}, B [] s → ∃ P, Lasting family P ∧ P 0 s.awaiting ∧ ∀ n mid, P n mid → Q mid

namespace Stages

open Server

variable {B : List ι → Server ι σ ρ → Prop}

theorem buildAll (h : Stages family B Q) (fuel : Nat) {todo : List ι} (hs : B todo s) :
    (Server.buildAll family (perform family fuel) todo s).Leads (B []) Q := by
  induction todo generalizing s with
  | nil => exact hs
  | cons p todo ih =>
    obtain ⟨P, hP, hbegun, hcut, hdone⟩ := h.build hs
    have hbuild := (hP.buildPlugin (hP.perform fuel) hbegun hdone).imp (fun _ => id)
      fun mid ⟨n, hmid⟩ => hcut n mid hmid
    exact hbuild.andThen fun _ _ => ih

/-- However `finish` ends, it leads to `Q` once the waiting plugins are sorted. -/
theorem finish {sorted : List ι} (h : Stages family B Q) (fuel : Nat) (hs : s.state = .notStarted)
    (hsort : sortPlugins family s.pending s.built = .ok sorted) (hbegun : B sorted s.begun) :
    Q (Server.finish family (perform family fuel) s).2 := by
  rw [finish_of_sorted hs hsort]
  refine Result.Leads.snd ((h.buildAll fuel hbegun).andThen fun _ mid hmid => ?_)
  obtain ⟨P, hP, hawaiting, hQ⟩ := h.ready hmid
  have hphase : Phase.ready ≠ .build := by decide
  have hready := (hP.runCallbacks (hP.perform fuel) hphase mid.built hawaiting).imp (fun _ => id)
    fun mid ⟨n, hmid⟩ => hQ n mid hmid
  exact hready.andThen fun _ last hlast => hQ 0 _ (hP.change hlast rfl rfl rfl rfl)

end Stages

end ObjectAssembly

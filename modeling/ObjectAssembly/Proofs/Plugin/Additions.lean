import ObjectAssembly.Proofs.Plugin.Finish

/-!
# Additions — the plugins that a call accepts

A server accepts a plugin unless it refuses it as the second of a unique type.  Additions nest, since a
plugin that is added while another one builds is built at once and may add plugins itself.  `accepted`
follows a call of any kind and lists the plugins in the order in which they are accepted.

A callback keeps `Within` what its phase may do: add plugins or not, and which effects it has on the
store.
-/

namespace ObjectAssembly

variable {ι σ ρ α β : Type}

/-! ### What callbacks may do -/

/-- The action has allowed effects on the store only, adds plugins only if it may, and neither
finishes nor cleans up. -/
inductive Action.Within (mayAdd : Prop) (allowed : Effect σ ρ → Prop) : Action ι σ ρ → Prop
  | add (h : mayAdd) (plugins : List ι) : Within mayAdd allowed (.add plugins)
  | effect {run : Effect σ ρ} (h : allowed run) : Within mayAdd allowed (.effect run)
  | choose {next : View → σ → List (Action ι σ ρ)}
      (h : ∀ view store, ∀ a ∈ next view store, Within mayAdd allowed a) :
      Within mayAdd allowed (.choose next)

/-- The effect never panics. -/
def Effect.Total (run : Effect σ ρ) : Prop :=
  ∀ view store, ∃ reply, (run view store).outcome = .ok reply

/-- Plugins add others only while they build, and their callbacks only use the store otherwise. -/
def OnlyBuildsAdd (family : ι → Plugin ι σ ρ) : Prop :=
  ∀ p phase, ∀ a ∈ (family p).callback phase, a.Within (phase = .build) fun _ => True

/-- While they build, plugins add others and use the store, and neither finish nor clean up. -/
def BuildsOnlyAdd (family : ι → Plugin ι σ ρ) : Prop :=
  ∀ p, ∀ a ∈ (family p).callback .build, a.Within True fun _ => True

/-- Cleaning a plugin up never panics. -/
def CleanupIsTotal (family : ι → Plugin ι σ ρ) : Prop :=
  ∀ p, ∀ a ∈ (family p).callback .cleanup, a.Within False Effect.Total

theorem Action.Within.imp {mayAdd mayAdd' : Prop} {allowed allowed' : Effect σ ρ → Prop}
    {a : Action ι σ ρ} (h : a.Within mayAdd allowed) (hadd : mayAdd → mayAdd')
    (hallowed : ∀ run, allowed run → allowed' run) : a.Within mayAdd' allowed' := by
  induction h with
  | add h plugins => exact .add (hadd h) plugins
  | effect h => exact .effect (hallowed _ h)
  | choose _ ih => exact .choose ih

theorem OnlyBuildsAdd.builds {family : ι → Plugin ι σ ρ} (h : OnlyBuildsAdd family) :
    BuildsOnlyAdd family :=
  fun p a ha => (h p .build a ha).imp (fun _ => trivial) fun _ => id

theorem OnlyBuildsAdd.later {family : ι → Plugin ι σ ρ} {phase : Phase} (h : OnlyBuildsAdd family)
    (hp : phase ≠ .build) (p : ι) :
    ∀ a ∈ (family p).callback phase, a.Within False fun _ => True :=
  fun a ha => (h p phase a ha).imp (fun hbuild => hp hbuild) fun _ => id

namespace Server

/-! ### What is accepted -/

section InTurn

variable (call : β → Server ι σ ρ → Result ι σ ρ Unit) (accepts : β → Server ι σ ρ → List ι)

/-- What is accepted in a call that follows one that is done. -/
def acceptedAfter (r : Result ι σ ρ α) (accepts : Server ι σ ρ → List ι) : List ι :=
  match r with
  | (.done _, s) => accepts s
  | (.fault _, _) => []
  | (.exhausted, _) => []

/-- What calls in order accept, if each accepts this. -/
def acceptedInTurn : List β → Server ι σ ρ → List ι
  | [], _ => []
  | b :: rest, s => accepts b s ++ acceptedAfter (call b s) (acceptedInTurn rest)

end InTurn

section Accepted

variable (family : ι → Plugin ι σ ρ) (act : Performer ι σ ρ)
  (accepts : Action ι σ ρ → Server ι σ ρ → List ι)

/-- What is accepted while a callback of a plugin runs. -/
def acceptedInCallback (phase : Phase) (p : ι) (s : Server ι σ ρ) : List ι :=
  acceptedInTurn (runAction act phase p) (fun a => accepts a.1) ((family p).callback phase).zipIdx
    (s.note (.began phase p))

/-- What is accepted when a plugin is added: the plugin unless it is refused, and then, if it is built
at once, what its build adds. -/
def acceptedInAddition (p : ι) (s : Server ι σ ρ) : List ι :=
  if s.refuses family p then []
  else if s.state = .building then
    p :: acceptedInCallback family act accepts .build p (s.enrol (family p).id)
  else [p]

/-- What is accepted while sorted plugins are built. -/
def acceptedInBuilds (sorted : List ι) (s : Server ι σ ρ) : List ι :=
  acceptedInTurn (fun p s => buildPlugin family act p (s.announce family p))
    (fun p s => acceptedInCallback family act accepts .build p (s.announce family p)) sorted s

/-- What is accepted while one callback of several plugins runs. -/
def acceptedInCallbacks (phase : Phase) (plugins : List ι) (s : Server ι σ ρ) : List ι :=
  acceptedInTurn (runCallback family act phase) (acceptedInCallback family act accepts phase)
    plugins s

/-- What is accepted while the server finishes. -/
def acceptedInFinish (s : Server ι σ ρ) : List ι :=
  if s.state ≠ .notStarted then []
  else
    match sortPlugins family s.pending s.built with
    | .error _ => []
    | .ok sorted =>
      acceptedInBuilds family act accepts sorted s.begun ++
        acceptedAfter (buildAll family act sorted s.begun) fun mid =>
          acceptedInCallbacks family act accepts .ready mid.built mid.awaiting

/-- What is accepted while an action is performed. -/
def acceptedWith : Action ι σ ρ → Server ι σ ρ → List ι
  | .add ps, s => acceptedInTurn (addPlugin family act) (acceptedInAddition family act accepts) ps s
  | .finish, s => acceptedInFinish family act accepts s
  | .cleanup, s =>
    acceptedInCallbacks family act accepts .cleanup s.built.reverse { s with built := [] }
  | .effect _, _ => []
  | .choose next, s => acceptedInTurn (performOne act) accepts (next s.view s.store) s

/-- What is accepted while an action is performed, with callbacks and choices nested less than `fuel`
deep. -/
def accepted (family : ι → Plugin ι σ ρ) : Nat → Action ι σ ρ → Server ι σ ρ → List ι
  | 0, _, _ => []
  | fuel + 1, a, s => acceptedWith family (perform family fuel) (accepted family fuel) a s

end Accepted

/-! ### Callbacks that add nothing -/

section Nothing

variable {family : ι → Plugin ι σ ρ} {act : Performer ι σ ρ}
  {accepts : Action ι σ ρ → Server ι σ ρ → List ι}

theorem acceptedAfter_eq_nil {r : Result ι σ ρ α} {k : Server ι σ ρ → List ι} (h : ∀ s, k s = []) :
    acceptedAfter r k = [] := by
  rcases r with ⟨⟨a⟩ | ⟨f⟩ | -, mid⟩
  · exact h mid
  · rfl
  · rfl

theorem acceptedInTurn_eq_nil {call : β → Server ι σ ρ → Result ι σ ρ Unit}
    {accepts : β → Server ι σ ρ → List ι} {bs : List β} (h : ∀ b ∈ bs, ∀ s, accepts b s = [])
    (s : Server ι σ ρ) : acceptedInTurn call accepts bs s = [] := by
  induction bs generalizing s with
  | nil => rfl
  | cons b rest ih =>
    rw [List.forall_mem_cons] at h
    rw [acceptedInTurn, h.1 s, acceptedAfter_eq_nil (ih h.2), List.nil_append]

theorem acceptedInCallback_eq_nil {phase : Phase} {p : ι}
    (h : ∀ a ∈ (family p).callback phase, ∀ s, accepts a s = []) (s : Server ι σ ρ) :
    acceptedInCallback family act accepts phase p s = [] :=
  acceptedInTurn_eq_nil (fun a ha => h a.1 (List.fst_mem_of_mem_zipIdx ha)) _

theorem accepted_eq_nil {allowed : Effect σ ρ → Prop} (family : ι → Plugin ι σ ρ) :
    ∀ fuel (a : Action ι σ ρ), a.Within False allowed → ∀ s, accepted family fuel a s = []
  | 0, _, _, _ => rfl
  | _ + 1, _, .effect _, _ => rfl
  | fuel + 1, _, .choose h, s =>
    acceptedInTurn_eq_nil (fun a ha => accepted_eq_nil family fuel a (h _ _ a ha)) s

/-- Once its plugins are sorted, the server accepts plugins in their builds and ready callbacks. -/
theorem acceptedInFinish_of_sorted {s : Server ι σ ρ} {sorted : List ι} (hs : s.state = .notStarted)
    (hsort : sortPlugins family s.pending s.built = .ok sorted) :
    acceptedInFinish family act accepts s = acceptedInBuilds family act accepts sorted s.begun ++
      acceptedAfter (buildAll family act sorted s.begun) fun mid =>
        acceptedInCallbacks family act accepts .ready mid.built mid.awaiting := by
  rw [acceptedInFinish, if_neg (not_not.mpr hs), hsort]

/-- When only builds add plugins, all that `finish` accepts it accepts while it builds. -/
theorem accepted_finish {fuel : Nat} {s : Server ι σ ρ} {sorted : List ι} (h : OnlyBuildsAdd family)
    (hs : s.state = .notStarted) (hsort : sortPlugins family s.pending s.built = .ok sorted) :
    accepted family (fuel + 1) .finish s =
      acceptedInBuilds family (perform family fuel) (accepted family fuel) sorted s.begun := by
  have hready : ∀ mid : Server ι σ ρ, acceptedInCallbacks family (perform family fuel)
      (accepted family fuel) .ready mid.built mid.awaiting = [] := fun mid =>
    acceptedInTurn_eq_nil (fun p _ => acceptedInCallback_eq_nil fun a ha =>
      accepted_eq_nil family fuel a (h.later (by decide) p a ha)) _
  rw [accepted, acceptedWith, acceptedInFinish_of_sorted hs hsort, acceptedAfter_eq_nil hready,
    List.append_nil]

end Nothing

end Server

end ObjectAssembly

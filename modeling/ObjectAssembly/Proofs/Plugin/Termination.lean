import ObjectAssembly.Proofs.Plugin.Additions

/-!
# Termination — calls that come to an end

`Ends` says of a call that, with enough fuel and where additions may nest deeply enough, it comes to one
end: it is done, or it has met a panic that is allowed.  There is a rule for sequences, for loops, for
callbacks, and for actions that keep `Within` what their phase may do, if additions end.
-/

namespace ObjectAssembly

variable {ι σ ρ α β : Type} {family : ι → Plugin ι σ ρ}

/-! ### Additions that nest so deep -/

/-- Where additions may nest so deep, how deep they may nest inside this action. -/
def Action.room? : Action ι σ ρ → Nat → Option Nat
  | .add _, 0 => none
  | .add _, depth + 1 => some depth
  | _, depth => some depth

namespace Server

/-- Performs one action, with callbacks and choices nested less than `fuel` deep and additions nested at
most `depth` deep. -/
def performNested (family : ι → Plugin ι σ ρ) : Nat → Nat → Performer ι σ ρ
  | 0, _, _, s => (.exhausted, s)
  | fuel + 1, depth, a, s =>
    match a.room? depth with
    | none => (.exhausted, s)
    | some rest => performWith family (performNested family fuel rest) a s

theorem performNested_of_room {a : Action ι σ ρ} {depth rest : Nat} (h : a.room? depth = some rest)
    (fuel : Nat) (s : Server ι σ ρ) : performNested family (fuel + 1) depth a s =
      performWith family (performNested family fuel rest) a s := by
  rw [performNested, h]

/-- Additions nest no deeper than calls. -/
theorem performNested_of_le : ∀ {fuel depth : Nat}, fuel ≤ depth →
    performNested family fuel depth = perform family fuel
  | 0, _, _ => rfl
  | fuel + 1, depth, h => by
    funext a s
    have hroom : ∃ rest, a.room? depth = some rest ∧ fuel ≤ rest := by
      obtain ⟨depth, rfl⟩ := Nat.exists_eq_add_of_le' h
      cases a with
      | add ps => exact ⟨depth + fuel, rfl, by omega⟩
      | finish => exact ⟨_, rfl, by omega⟩
      | cleanup => exact ⟨_, rfl, by omega⟩
      | effect run => exact ⟨_, rfl, by omega⟩
      | choose next => exact ⟨_, rfl, by omega⟩
    obtain ⟨rest, hroom, hle⟩ := hroom
    rw [performNested_of_room hroom, performNested_of_le hle, perform]

end Server

/-! ### Calls -/

/-- The call is done, or it has met an allowed panic. -/
inductive Outcome.Regular (allowed : Fault → Prop) : Outcome α → Prop
  | done (a : α) : Regular allowed (.done a)
  | fault {f : Fault} (h : allowed f) : Regular allowed (.fault f)

/-- With enough fuel, and with additions that may nest this deep or deeper, the call comes to one end,
which is regular and leads to `P`. -/
def Ends (allowed : Fault → Prop) (depth : Nat) (P : Server ι σ ρ → Prop)
    (call : Nat → Nat → Server ι σ ρ → Result ι σ ρ α) (s : Server ι σ ρ) : Prop :=
  ∃ n o s', (∀ fuel ≥ n, ∀ d ≥ depth, call fuel d s = (o, s')) ∧ o.Regular allowed ∧ P s'

variable {allowed : Fault → Prop} {depth depth' : Nat} {P Q : Server ι σ ρ → Prop}
  {s : Server ι σ ρ}

section Ends

variable {call : Nat → Nat → Server ι σ ρ → Result ι σ ρ α}

theorem Ends.done (a : α) (f : Server ι σ ρ → Server ι σ ρ) (h : P (f s)) :
    Ends allowed depth P (fun _ _ s => (.done a, f s)) s :=
  ⟨0, .done a, f s, fun _ _ _ _ => rfl, .done a, h⟩

theorem Ends.imp (h : Ends allowed depth P call s) (hdepth : depth ≤ depth')
    (hP : ∀ s, P s → Q s) : Ends allowed depth' Q call s := by
  obtain ⟨n, o, s', hn, ho, hs'⟩ := h
  exact ⟨n, o, s', fun fuel hfuel d hd => hn fuel hfuel d (Nat.le_trans hdepth hd), ho, hP s' hs'⟩

theorem Ends.andThen {k : Nat → Nat → α → Server ι σ ρ → Result ι σ ρ β}
    (h : Ends allowed depth P call s)
    (hk : ∀ a mid, P mid → Ends allowed depth Q (fun fuel d => k fuel d a) mid)
    (hcut : ∀ mid, P mid → Q mid) :
    Ends allowed depth Q (fun fuel d s => (call fuel d s).andThen (k fuel d)) s := by
  obtain ⟨n, o, mid, hn, ho, hmid⟩ := h
  cases ho with
  | done a =>
    obtain ⟨m, o, last, hm, ho, hlast⟩ := hk a mid hmid
    refine ⟨max n m, o, last, fun fuel hfuel d hd => ?_, ho, hlast⟩
    show (call fuel d s).andThen (k fuel d) = _
    rw [hn fuel (by omega) d hd]
    exact hm fuel (by omega) d hd
  | fault hf =>
    refine ⟨n, _, mid, fun fuel hfuel d hd => ?_, .fault hf, hcut mid hmid⟩
    show (call fuel d s).andThen (k fuel d) = _
    rw [hn fuel hfuel d hd]
    rfl

/-- A call that needs one more unit of fuel, and has room for another call. -/
theorem Ends.succ {call' : Nat → Nat → Server ι σ ρ → Result ι σ ρ α}
    (h : Ends allowed depth P call s)
    (heq : ∀ d ≥ depth', ∃ rest ≥ depth, ∀ fuel, call' (fuel + 1) d s = call fuel rest s) :
    Ends allowed depth' P call' s := by
  obtain ⟨n, o, s', hn, ho, hs'⟩ := h
  refine ⟨n + 1, o, s', fun fuel hfuel d hd => ?_, ho, hs'⟩
  obtain ⟨fuel, rfl⟩ := Nat.exists_eq_add_of_le' (Nat.le_of_add_left_le hfuel)
  obtain ⟨rest, hrest, heq⟩ := heq d hd
  rw [heq, hn fuel (by omega) rest hrest]

/-- Where no panic is allowed, the call is done. -/
theorem Ends.exists_done (h : Ends (fun _ => False) depth P call s) :
    ∃ n a s', ∀ fuel ≥ n, ∀ d ≥ depth, call fuel d s = (.done a, s') := by
  obtain ⟨n, o, s', hn, ho, -⟩ := h
  cases ho with
  | done a => exact ⟨n, a, s', hn⟩
  | fault hf => exact hf.elim

theorem inTurn_ends {call : Nat → Nat → β → Server ι σ ρ → Result ι σ ρ Unit} {bs : List β}
    (h : ∀ b ∈ bs, ∀ s, P s → Ends allowed depth P (fun fuel d => call fuel d b) s) (hs : P s) :
    Ends allowed depth P (fun fuel d => Server.inTurn (call fuel d) bs) s := by
  induction bs generalizing s with
  | nil => exact .done () id hs
  | cons b rest ih =>
    rw [List.forall_mem_cons] at h
    exact (h.1 s hs).andThen (fun _ _ => ih h.2) fun _ => id

end Ends

/-! ### Callbacks and actions -/

/-- The property depends on how far the server has come and on the types ever added only. -/
def Coarse (P : Server ι σ ρ → Prop) : Prop :=
  ∀ {s s'}, P s → s'.state = s.state → s'.ids = s.ids → P s'

/-- The action ends wherever the property holds, and keeps it. -/
def Action.Terminates (family : ι → Plugin ι σ ρ) (allowed : Fault → Prop) (depth : Nat)
    (P : Server ι σ ρ → Prop) (a : Action ι σ ρ) : Prop :=
  ∀ s, P s → Ends allowed depth P (fun fuel d => Server.performNested family fuel d a) s

theorem Action.Terminates.mono {a : Action ι σ ρ} (h : a.Terminates family allowed depth P)
    (hdepth : depth ≤ depth') : a.Terminates family allowed depth' P :=
  fun s hs => (h s hs).imp hdepth fun _ => id

namespace Server

section Calls

variable {p : ι} {phase : Phase} (hP : Coarse P)

include hP

theorem runCallback_ends (hact : ∀ a ∈ (family p).callback phase, a.Terminates family allowed depth P)
    (hs : P s) : Ends allowed depth P
      (fun fuel d => runCallback family (performNested family fuel d) phase p) s := by
  have hrun : Ends allowed depth P (fun fuel d =>
      runActions (performNested family fuel d) phase p 0 ((family p).callback phase))
      (s.note (.began phase p)) := by
    simp only [runActions_eq_inTurn]
    refine inTurn_ends (fun a ha s hs => ?_) (hP hs rfl rfl)
    exact (hact a.1 (List.fst_mem_of_mem_zipIdx ha) s hs).andThen (fun reply mid hmid =>
      .done () (·.note (.did phase p a.2 reply)) (hP hmid rfl rfl)) fun _ => id
  exact hrun.andThen (fun _ _ hmid =>
    .done () (·.note (.ended phase p)) (hP hmid rfl rfl)) fun _ => id

theorem runCallbacks_ends {plugins : List ι}
    (hact : ∀ p ∈ plugins, ∀ a ∈ (family p).callback phase, a.Terminates family allowed depth P)
    (hs : P s) : Ends allowed depth P
      (fun fuel d => runCallbacks family (performNested family fuel d) phase plugins) s := by
  simp only [runCallbacks_eq_inTurn]
  exact inTurn_ends (fun p hp _ => runCallback_ends hP (hact p hp)) hs

theorem buildPlugin_ends (hact : ∀ a ∈ (family p).callback .build, a.Terminates family allowed depth P)
    (hs : P s) : Ends allowed depth P
      (fun fuel d => buildPlugin family (performNested family fuel d) p) s :=
  (runCallback_ends hP hact hs).andThen (fun _ _ hmid =>
    .done () (fun s => { s with built := s.built ++ [p] }) (hP hmid rfl rfl)) fun _ => id

/-- Actions that only add plugins and use the store end if additions do. -/
theorem performNested_ends_of_within {mayAdd : Prop} {a : Action ι σ ρ}
    (hadd : mayAdd → ∀ ps, (Action.add ps).Terminates family allowed depth P)
    (ha : a.Within mayAdd Effect.Total) : a.Terminates family allowed depth P := by
  induction ha with
  | add hmay ps => exact hadd hmay ps
  | @effect run htotal =>
    intro s hs
    obtain ⟨reply, hreply⟩ := htotal s.view s.store
    refine (Ends.done reply (fun s => { s with
      store := (run s.view s.store).store, log := s.log ++ (run s.view s.store).log })
      (hP hs rfl rfl)).succ fun d hd => ⟨d, hd, fun fuel => ?_⟩
    rw [performNested_of_room rfl, performWith_effect, EffectResult.ending, hreply]
  | @choose next _ ih =>
    intro s hs
    have hall : Ends allowed depth P
        (fun fuel d => performAll (performNested family fuel d) (next s.view s.store)) s := by
      simp only [performAll_eq_inTurn]
      exact inTurn_ends (fun a ha s hs =>
        (ih _ _ a ha s hs).andThen (fun _ _ hmid => .done () id hmid) fun _ => id) hs
    exact (hall.andThen (fun _ _ hmid => .done none id hmid) fun _ => id).succ
      fun d hd => ⟨d, hd, fun fuel => performNested_of_room rfl fuel s⟩

end Calls

end Server

end ObjectAssembly

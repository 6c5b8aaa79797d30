import ObjectAssembly.Proofs.Plugin.Nesting
import ObjectAssembly.Proofs.Plugin.Stability
import Mathlib.Data.Finset.Card

/-!
# Recursion — plugins that add each other come to an end

Adding a plugin while the server builds runs its build, which may add further plugins, its own type
included.  The server enrols the type first.  So if all plugins are unique, there are fewer types left to
add inside each nested addition, and an addition of a type that has been added is refused.  This bounds
how deeply additions nest, and lets `finish` come to an end whatever the plugins add.
-/

namespace ObjectAssembly

variable {ι σ ρ α β : Type} {family : ι → Plugin ι σ ρ}

/-! ### Types that are left to add -/

section Unadded

variable {allTypes : Finset PluginId} {s s' : Server ι σ ρ} {id : PluginId}

/-- The types that have not been added. -/
def Server.unadded (allTypes : Finset PluginId) (s : Server ι σ ρ) : Finset PluginId :=
  allTypes.filter (· ∉ s.ids)

theorem Server.unadded_card_le (h : s.ids ⊆ s'.ids) :
    (s'.unadded allTypes).card ≤ (s.unadded allTypes).card :=
  Finset.card_le_card (Finset.monotone_filter_right _ fun _ _ hnot hmem => hnot (h hmem))

theorem Server.unadded_card_enrol (hid : id ∈ allTypes) (h : id ∉ s.ids) :
    ((s.enrol id).unadded allTypes).card < (s.unadded allTypes).card := by
  have hsub : (s.enrol id).unadded allTypes ⊆ s.unadded allTypes :=
    Finset.monotone_filter_right _ fun _ _ hnot hmem => hnot (mem_ids_enrol.mpr (.inl hmem))
  have hleft : id ∈ s.unadded allTypes := Finset.mem_filter.mpr ⟨hid, h⟩
  have hgone : id ∉ (s.enrol id).unadded allTypes := fun hmem =>
    (Finset.mem_filter.mp hmem).2 (mem_ids_enrol.mpr (.inr rfl))
  exact Finset.card_lt_card ((Finset.ssubset_iff_of_subset hsub).mpr ⟨id, hleft, hgone⟩)

/-- One type that has been added leaves fewer to add. -/
theorem Server.unadded_card_lt (hid : id ∈ allTypes) (h : id ∈ s.ids) :
    (s.unadded allTypes).card < allTypes.card :=
  Finset.card_lt_card (Finset.filter_ssubset.mpr ⟨id, hid, not_not.mpr h⟩)

end Unadded

/-! ### Additions of unique plugins -/

/-- All plugins are unique and of one of these types.  While they build and when they get ready they add
plugins and use the store, and neither finish nor clean up nor panic themselves. -/
structure AddsUnique (family : ι → Plugin ι σ ρ) (allTypes : Finset PluginId) : Prop where
  unique : ∀ p, (family p).unique = true
  types : ∀ p, (family p).id ∈ allTypes
  build : ∀ p, ∀ a ∈ (family p).callback .build, a.Within True Effect.Total
  ready : ∀ p, ∀ a ∈ (family p).callback .ready, a.Within True Effect.Total

/-- The server is in this state, and while it builds at most so many types are left to add. -/
structure Room (allTypes : Finset PluginId) (stage : BuildState) (u : Nat) (s : Server ι σ ρ) :
    Prop where
  state : s.state = stage
  unadded : stage = .building → (s.unadded allTypes).card ≤ u

theorem Room.change {allTypes : Finset PluginId} {stage : BuildState} {u : Nat} {s s' : Server ι σ ρ}
    (h : Room allTypes stage u s) (hstate : s'.state = s.state) (hids : s.ids ⊆ s'.ids) :
    Room allTypes stage u s' where
  state := hstate.trans h.state
  unadded hb := (Server.unadded_card_le hids).trans (h.unadded hb)

theorem Room.coarse {allTypes : Finset PluginId} {stage : BuildState} {u : Nat} :
    Coarse (Room allTypes stage u : Server ι σ ρ → Prop) := by
  intro s s' h hstate hids
  exact h.change hstate (hids ▸ List.Subset.refl _)

/-- The panic about a plugin that was already added. -/
def Refusal (family : ι → Plugin ι σ ρ) (f : Fault) : Prop :=
  ∃ p, f = .alreadyAdded (family p).name

namespace Server

section Actions

variable {allTypes : Finset PluginId} {stage : BuildState} {u : Nat} {s : Server ι σ ρ} {p : ι}

theorem refuses_iff (h : AddsUnique family allTypes) :
    s.refuses family p = true ↔ (family p).id ∈ s.ids := by
  rw [refuses, h.unique, Bool.true_and, hasPlugin, decide_eq_true_iff]

/-- A plugin that is not refused is of a new type. -/
theorem enrolled_append (h : AddsUnique family allTypes) {plugins : List ι} {p : ι}
    (hnodup : (types family plugins).Nodup) (henrolled : types family plugins ⊆ s.ids)
    (hu : ¬ s.refuses family p = true) : (types family (plugins ++ [p])).Nodup ∧
      types family (plugins ++ [p]) ⊆ (s.enrol (family p).id).ids := by
  have hnew : (family p).id ∉ s.ids := fun hid => hu ((refuses_iff h).mpr hid)
  have hall : types family (plugins ++ [p]) = types family plugins ++ [(family p).id] :=
    List.map_append
  rw [hall]
  constructor
  · refine hnodup.append (List.nodup_singleton _) fun d hd hp => ?_
    rw [List.mem_singleton.mp hp] at hd
    exact hnew (henrolled hd)
  · intro d hd
    refine mem_ids_enrol.mpr ((List.mem_append.mp hd).imp (fun hd => henrolled hd) fun hd => ?_)
    exact (List.mem_singleton.mp hd).symm

/-- An addition ends if actions inside it do, where there is one type less left to add. -/
theorem addPlugin_ends (h : AddsUnique family allTypes)
    (hinner : ∀ u', u = u' + 1 → ∀ a : Action ι σ ρ, a.Within True Effect.Total →
      a.Terminates family (Refusal family) u (Room allTypes stage u'))
    (hs : Room allTypes stage u s) : Ends (Refusal family) u (Room allTypes stage u)
      (fun fuel d => addPlugin family (performNested family fuel d) p) s := by
  by_cases hu : s.refuses family p = true
  · exact ⟨0, _, s, fun _ _ _ _ => addPlugin_of_refuses hu, .fault ⟨p, rfl⟩, hs⟩
  · have hids : s.ids ⊆ (s.enrol (family p).id).ids := fun _ hid => mem_ids_enrol.mpr (.inl hid)
    by_cases hb : s.state = .building
    · have hnew : (family p).id ∉ s.ids := fun hid => hu ((refuses_iff h).mpr hid)
      have hfewer := unadded_card_enrol (h.types p) hnew
      have hroom := hs.unadded (hs.state.symm.trans hb)
      obtain ⟨u', rfl⟩ : ∃ u', u = u' + 1 := Nat.exists_eq_add_one_of_ne_zero (by omega)
      have henrolled : Room allTypes stage u' (s.enrol (family p).id) :=
        ⟨hs.state, fun _ => by omega⟩
      obtain ⟨n, o, s', hn, ho, hs'⟩ := buildPlugin_ends Room.coarse
        (fun a ha => hinner u' rfl a (h.build p a ha)) henrolled
      refine ⟨n, o, s', fun fuel hfuel d hd => ?_, ho, hs'.state, fun hb => ?_⟩
      · exact (addPlugin_of_building hu hb).trans (hn fuel hfuel d hd)
      · exact (hs'.unadded hb).trans (Nat.le_succ u')
    · exact ⟨0, _, _, fun _ _ _ _ => addPlugin_of_not_building hu hb, .done (), hs.change rfl hids⟩

theorem addPlugins_ends (h : AddsUnique family allTypes)
    (hinner : ∀ u', u = u' + 1 → ∀ a : Action ι σ ρ, a.Within True Effect.Total →
      a.Terminates family (Refusal family) u (Room allTypes stage u')) (ps : List ι) :
    (Action.add ps).Terminates family (Refusal family) (u + 1) (Room allTypes stage u) := by
  intro s hs
  have hall : Ends (Refusal family) u (Room allTypes stage u)
      (fun fuel d => addPlugins family (performNested family fuel d) ps) s := by
    simp only [addPlugins_eq_inTurn]
    exact inTurn_ends (fun p _ s hs => addPlugin_ends h hinner hs) hs
  refine (hall.andThen (fun _ _ hmid => .done none id hmid) fun _ => id).succ fun d hd => ?_
  obtain ⟨rest, rfl⟩ := Nat.exists_eq_add_of_le' hd
  exact ⟨rest + u, Nat.le_add_left u rest, fun fuel => performNested_of_room rfl fuel s⟩

/-- Actions that add plugins and use the store come to an end, with additions nested no deeper than the
number of types that are left to add, and one more that is refused. -/
theorem performNested_ends (h : AddsUnique family allTypes) (u : Nat) {a : Action ι σ ρ}
    (ha : a.Within True Effect.Total) :
    a.Terminates family (Refusal family) (u + 1) (Room allTypes stage u) := by
  induction u generalizing a with
  | zero =>
    have hinner : ∀ u', 0 = u' + 1 → ∀ a : Action ι σ ρ, a.Within True Effect.Total →
        a.Terminates family (Refusal family) 0 (Room allTypes stage u') :=
      fun u' hu' => absurd hu'.symm (Nat.succ_ne_zero u')
    exact performNested_ends_of_within Room.coarse (fun _ => addPlugins_ends h hinner) ha
  | succ u ih =>
    have hinner : ∀ u', u + 1 = u' + 1 → ∀ a : Action ι σ ρ, a.Within True Effect.Total →
        a.Terminates family (Refusal family) (u + 1) (Room allTypes stage u') := by
      intro u' hu' a ha
      obtain rfl := Nat.succ.inj hu'
      exact ih ha
    exact performNested_ends_of_within Room.coarse (fun _ => addPlugins_ends h hinner) ha

end Actions

/-! ### Finishing -/

section Finish

variable {allTypes : Finset PluginId} {s : Server ι σ ρ} {sorted : List ι}

/-- Each type that waits is there once and has been enrolled, and nothing has been built. -/
structure Listed (family : ι → Plugin ι σ ρ) (s : Server ι σ ρ) : Prop where
  trace : s.trace = []
  built : s.built = []
  nodup : (types family s.pending).Nodup
  enrolled : types family s.pending ⊆ s.ids

theorem unstarted_listed (h : AddsUnique family allTypes) : Unstarted family (Listed family) where
  built hs := hs.built
  effect _ _ hs := ⟨hs.trace, hs.built, hs.nodup, hs.enrolled⟩
  wait hs hu :=
    have hadded := enrolled_append h hs.nodup hs.enrolled hu
    ⟨hs.trace, hs.built, hadded.1, hadded.2⟩
  drop hs := ⟨hs.trace, hs.built, List.nodup_nil, List.nil_subset _⟩

theorem buildAll_ends (h : AddsUnique family allTypes) (hsorted : types family sorted ⊆ s.ids) :
    Ends (Refusal family) allTypes.card (Room allTypes .building (s.unadded allTypes).card)
      (fun fuel d => buildAll family (performNested family fuel d) sorted) s.begun := by
  simp only [buildAll_eq_inTurn]
  refine inTurn_ends (fun p hp mid hmid => ?_) ⟨rfl, fun _ => le_rfl⟩
  have hannounced : Room allTypes .building (s.unadded allTypes).card (mid.announce family p) :=
    Room.coarse hmid rfl rfl
  have hfewer := unadded_card_lt (h.types p) (hsorted (List.mem_map_of_mem hp))
  exact buildPlugin_ends Room.coarse
    (fun a ha => (performNested_ends h _ (h.build p a ha)).mono hfewer) hannounced

theorem ready_ends (h : AddsUnique family allTypes) (plugins : List ι) :
    Ends (Refusal family) allTypes.card (Room allTypes .built 0)
      (fun fuel d => runCallbacks family (performNested family fuel d) .ready plugins) s.awaiting :=
  have hroom : Room allTypes .built 0 s.awaiting := ⟨rfl, nofun⟩
  runCallbacks_ends Room.coarse (fun p _ a ha =>
    (performNested_ends h 0 (h.ready p a ha)).mono (Finset.card_pos.mpr ⟨_, h.types p⟩)) hroom

/-- Once the waiting plugins are sorted, finishing comes to an end, with additions nested no deeper than
there are types. -/
theorem finish_ends (h : AddsUnique family allTypes) (hs : s.state = .notStarted)
    (hlisted : Listed family s) (hsort : sortPlugins family s.pending s.built = .ok sorted) :
    Ends (Refusal family) allTypes.card (fun _ => True)
      (fun fuel d => finish family (performNested family fuel d)) s := by
  have hsorted : types family sorted ⊆ s.ids := fun _ hd =>
    hlisted.enrolled (((sortPlugins_perm hsort).map _).mem_iff.mp hd)
  have hready : ∀ mid : Server ι σ ρ, Ends (Refusal family) allTypes.card (fun _ => True)
      (fun fuel d mid =>
        (runCallbacks family (performNested family fuel d) .ready mid.built mid.awaiting).andThen
          fun _ last =>
            (.done (), { last with built := mid.built }.report (.serverReady mid.built.length)))
      mid :=
    fun mid => (ready_ends h mid.built).andThen (fun _ _ _ => .done () (fun last =>
      { last with built := mid.built }.report (.serverReady mid.built.length)) trivial)
      fun _ _ => trivial
  obtain ⟨n, o, s', hn, ho, -⟩ :=
    (buildAll_ends h hsorted).andThen (fun _ mid _ => hready mid) fun _ _ => trivial
  exact ⟨n, o, s', fun fuel hfuel d hd => (finish_of_sorted hs hsort).trans (hn fuel hfuel d hd), ho,
    trivial⟩

end Finish

end Server

/-! ### No type is built twice -/

section Distinct

variable {allTypes : Finset PluginId} {todo : List ι} {s : Server ι σ ρ} {p : ι}

/-- While the server builds, the types still to build and those whose builds have begun are distinct and
have been enrolled. -/
structure Distinct (family : ι → Plugin ι σ ρ) (todo : List ι) (s : Server ι σ ρ) : Prop where
  state : s.state = .building
  nodup : (types family (todo ++ buildsBegun s.trace)).Nodup
  enrolled : types family (todo ++ buildsBegun s.trace) ⊆ s.ids

theorem Distinct.congr {s' : Server ι σ ρ} (hs : Distinct family todo s) (hstate : s'.state = s.state)
    (hids : s'.ids = s.ids) (hbegun : buildsBegun s'.trace = buildsBegun s.trace) :
    Distinct family todo s' := by
  obtain ⟨hb, hn, he⟩ := hs
  rw [← hbegun] at hn he
  exact ⟨hstate.trans hb, hn, hids ▸ he⟩

theorem distinct_lasting (h : AddsUnique family allTypes) (todo : List ι) :
    Lasting family fun _ => Distinct family todo where
  started hs := by
    rw [hs.state]
    exact BuildState.noConfusion
  change hs hstate hids _ htrace := hs.congr hstate hids (congrArg buildsBegun htrace)
  note e hs hbegun _ := hs.congr rfl rfl (buildsBegun_note hbegun)
  wait hs hnot _ := absurd hs.state hnot
  enter hs _ hu := by
    obtain ⟨hnodup, henrolled⟩ := Server.enrolled_append h hs.nodup hs.enrolled hu
    refine ⟨hs.state, ?_, ?_⟩ <;> rw [buildsBegun_began, ← List.append_assoc]
    · exact hnodup
    · exact henrolled
  leave hs := hs.congr rfl rfl (buildsBegun_note rfl)

theorem distinct_stages (h : AddsUnique family allTypes) :
    Stages family (Distinct family) fun s => (types family (buildsBegun s.trace)).Nodup where
  build {p todo s} hs := by
    refine ⟨_, distinct_lasting h todo, ?_, fun _ mid hmid => ?_, fun mid hmid => ?_⟩
    · have hperm : (types family (todo ++ (buildsBegun s.trace ++ [p]))).Perm
          (types family (p :: todo ++ buildsBegun s.trace)) := by
        refine List.Perm.map _ ?_
        rw [← List.append_assoc]
        exact List.perm_append_singleton p _
      refine ⟨hs.state, ?_, ?_⟩ <;> rw [buildsBegun_began]
      · exact hperm.nodup_iff.mpr hs.nodup
      · exact fun d hd => hs.enrolled (hperm.mem_iff.mp hd)
    · exact hmid.nodup.sublist ((List.sublist_append_right _ _).map _)
    · exact hmid.congr rfl rfl (buildsBegun_note rfl)
  ready hs := by
    refine ⟨_, lasting_of_built (T := fun trace => (types family (buildsBegun trace)).Nodup)
      fun trace e hT hbegun => ?_, ⟨rfl, hs.nodup⟩, fun _ _ hmid => hmid.2⟩
    have hsame : buildsBegun [e] = [] := by simp [buildsBegun, hbegun]
    rwa [buildsBegun_append, hsame, List.append_nil]

theorem distinct_begun {sorted : List ι} (hlisted : Server.Listed family s)
    (hsort : Server.sortPlugins family s.pending s.built = .ok sorted) :
    Distinct family sorted s.begun := by
  have hperm : (types family sorted).Perm (types family s.pending) :=
    (Server.sortPlugins_perm hsort).map _
  have hnone : sorted ++ buildsBegun s.begun.trace = sorted := by
    show sorted ++ buildsBegun s.trace = sorted
    rw [hlisted.trace]
    exact List.append_nil _
  refine ⟨rfl, ?_, ?_⟩ <;> rw [hnone]
  · exact hperm.nodup_iff.mpr hlisted.nodup
  · exact fun _ hd => hlisted.enrolled (hperm.mem_iff.mp hd)

end Distinct

/-! ### How finishing ends -/

section Main

variable {allTypes : Finset PluginId} {s : Server ι σ ρ}

/-- How `finish` ends where all plugins are unique. -/
inductive Outcome.OfRecursion (family : ι → Plugin ι σ ρ) (s : Server ι σ ρ) :
    Outcome (Option ρ) → Prop
  | done : OfRecursion family s (.done none)
  | order (e : OrderError) (h : s.trace = []) : OfRecursion family s (.fault (.order e))
  | alreadyAdded (p : ι) : OfRecursion family s (.fault (.alreadyAdded (family p).name))

/-- Finishing ends in one of three ways, and no type has been built twice by then. -/
theorem finish_recursion (h : AddsUnique family allTypes) (hs : s.state = .notStarted)
    (hlisted : Server.Listed family s) : ∃ n o s', (∀ fuel ≥ n, ∀ d ≥ allTypes.card,
      Server.performNested family fuel d .finish s = (o, s')) ∧
        o.OfRecursion family s' ∧ (types family (buildsBegun s'.trace)).Nodup := by
  cases hsort : Server.sortPlugins family s.pending s.built with
  | error e =>
    refine ⟨1, .fault (.order e), { s with pending := [] }, fun fuel hfuel d _ => ?_,
      .order e hlisted.trace, ?_⟩
    · obtain ⟨fuel, rfl⟩ := Nat.exists_eq_add_of_le' hfuel
      rw [Server.performNested_of_room rfl, Server.performWith,
        Server.finish_of_sort_error hs hsort]
      rfl
    · show (types family (buildsBegun s.trace)).Nodup
      rw [hlisted.trace]
      exact List.nodup_nil
  | ok sorted =>
    obtain ⟨n, o, s', hn, ho, -⟩ := Server.finish_ends h hs hlisted hsort
    have hnodup : (types family (buildsBegun s'.trace)).Nodup := by
      have hfinish := (distinct_stages h).finish n hs hsort (distinct_begun hlisted hsort)
      have hend := hn n le_rfl (max n allTypes.card) (le_max_right _ _)
      dsimp only at hend
      rw [Server.performNested_of_le (le_max_left _ _)] at hend
      rwa [hend] at hfinish
    have hstep : ∀ fuel ≥ n + 1, ∀ d ≥ allTypes.card,
        Server.performNested family fuel d .finish s =
          Result.andThen (o, s') fun _ s => (.done none, s) := by
      intro fuel hfuel d hd
      obtain ⟨fuel, rfl⟩ := Nat.exists_eq_add_of_le' (Nat.le_of_add_left_le hfuel)
      rw [Server.performNested_of_room rfl, Server.performWith, ← hn fuel (by omega) d hd]
    cases ho with
    | done _ => exact ⟨n + 1, _, s', hstep, .done, hnodup⟩
    | fault hf =>
      obtain ⟨p, rfl⟩ := hf
      exact ⟨n + 1, _, s', hstep, .alreadyAdded p, hnodup⟩

/-- **Recursive additions of unique plugins end.**  All plugins are unique and of finitely many types,
and while they build and when they get ready they may add any of them, each other and themselves included.
Then `finish` comes to an end, also with additions nested at most as deep as there are types: it is done,
or the waiting plugins cannot be sorted and nothing is built, or it meets a plugin that was already added.
No type is built twice, and an addition that is refused leaves the server as it was. -/
theorem recursive_additions_end (h : AddsUnique family allTypes) (hs : Reachable family s)
    (hstate : s.state = .notStarted) :
    (∃ n o s', (∀ fuel ≥ n, Server.perform family fuel .finish s = (o, s') ∧
        Server.performNested family fuel allTypes.card .finish s = (o, s')) ∧
      o.OfRecursion family s' ∧ (types family (buildsBegun s'.trace)).Nodup) ∧
    ∀ act p t, (family p).id ∈ t.ids →
      Server.addPlugin family act p t = (.fault (.alreadyAdded (family p).name), t) := by
  constructor
  · have hnew : ∀ store, Server.Listed family (.new store) := fun _ =>
      ⟨rfl, rfl, List.nodup_nil, List.nil_subset _⟩
    have hlisted := (Server.unstarted_listed h).of_reachable hnew hs hstate
    obtain ⟨n, o, s', hn, ho, hnodup⟩ := finish_recursion h hstate hlisted
    refine ⟨n, o, s', fun fuel hfuel => ⟨?_, hn fuel hfuel _ le_rfl⟩, ho, hnodup⟩
    have hdeep := hn fuel hfuel (max fuel allTypes.card) (le_max_right _ _)
    rwa [Server.performNested_of_le (le_max_left _ _)] at hdeep
  · exact fun act p t hid => Server.addPlugin_of_refuses ((Server.refuses_iff h).mpr hid)

end Main

section Sample

/-- Two plugins that add each other while they build. -/
def mutualPair : Bool → Plugin Bool Unit Unit
  | false => ⟨⟨0, "A"⟩, "A", true, [], fun | .build => [.add [true]] | _ => []⟩
  | true => ⟨⟨1, "B"⟩, "B", true, [], fun | .build => [.add [false]] | _ => []⟩

theorem recursive_additions_end_mutual :
    AddsUnique mutualPair {⟨0, "A"⟩, ⟨1, "B"⟩} ∧
      (∃ n o s', (∀ fuel ≥ n,
          Server.perform mutualPair fuel .finish (pairServer mutualPair [false]) = (o, s') ∧
          Server.performNested mutualPair fuel 2 .finish (pairServer mutualPair [false]) = (o, s')) ∧
        o.OfRecursion mutualPair s' ∧ (types mutualPair (buildsBegun s'.trace)).Nodup) ∧
      ∃ s', Server.perform mutualPair 6 .finish (pairServer mutualPair [false]) =
          (.fault (.alreadyAdded "A"), s') ∧ buildsBegun s'.trace = [false, true] := by
  have hadds : AddsUnique mutualPair {⟨0, "A"⟩, ⟨1, "B"⟩} := by
    refine ⟨by decide, by decide, ?_, ?_⟩
    · rintro (_ | _) a ha <;> obtain rfl := List.mem_singleton.mp ha <;> exact .add trivial _
    · rintro (_ | _) a ha <;> cases ha
  have hend := recursive_additions_end hadds (s := pairServer mutualPair [false])
    (.perform 1 _ (.new ())) rfl
  exact ⟨hadds, hend.1, _, rfl, rfl⟩

end Sample

end ObjectAssembly
